import ModuleCatalog.Json.Value

/-! # Writing JSON

    A value is written by writing its tokens, either one behind the other or
    with line breaks and indentation between them.  Both layouts write the
    same tokens; they differ in blank characters only. -/

namespace ModuleCatalog.Json

/-! ## Tokens -/

/-- The escape for a control character that has no short one. -/
def controlEscape (c : Char) : List Char :=
  ['\\', 'u', '0', '0', Nat.digitChar (c.toNat / 16), Nat.digitChar (c.toNat % 16)]

/-- How a character stands in a string literal.  Quotes, backslashes and
    control characters are escaped and nothing else is. -/
def escapedChar (c : Char) : List Char :=
  match c with
  | '"' => ['\\', '"']
  | '\\' => ['\\', '\\']
  | '\n' => ['\\', 'n']
  | '\r' => ['\\', 'r']
  | '\t' => ['\\', 't']
  | '\x08' => ['\\', 'b']
  | '\x0c' => ['\\', 'f']
  | c => if c.toNat < 0x20 then controlEscape c else [c]

/-- The string literal for a text. -/
def stringLiteral (text : String) : String :=
  String.ofList ('"' :: text.toList.flatMap escapedChar ++ ['"'])

/-- How a token is written. -/
def Token.written : Token String → String
  | openArray => "["
  | closeArray => "]"
  | openObject => "\x7b"
  | closeObject => "\x7d"
  | comma => ","
  | colon => ":"
  | null => "null"
  | bool true => "true"
  | bool false => "false"
  | number literal => literal
  | string text => stringLiteral text

/-! ## Layouts -/

/-- The tokens one behind the other. -/
def compact (tokens : List (Token String)) : String :=
  tokens.foldl (fun out token => out ++ token.written) ""

/-- A line break and the indentation of a nesting level. -/
def newLine (level : Nat) : String :=
  String.ofList ('\n' :: List.replicate (2 * level) ' ')

/-- The tokens behind `out` with each item and member on a line of its own, two
    spaces deeper than what holds it.  An empty array or object stays on its
    line, and a space follows each colon. -/
def indentedFrom (out : String) (level : Nat) : List (Token String) → String
  | [] => out
  | .openArray :: .closeArray :: rest => indentedFrom (out ++ "[]") level rest
  | .openObject :: .closeObject :: rest => indentedFrom (out ++ "\x7b\x7d") level rest
  | token :: rest =>
    match token with
    | .openArray | .openObject =>
      indentedFrom (out ++ token.written ++ newLine (level + 1)) (level + 1) rest
    | .closeArray | .closeObject =>
      indentedFrom (out ++ newLine (level - 1) ++ token.written) (level - 1) rest
    | .comma => indentedFrom (out ++ token.written ++ newLine level) level rest
    | .colon => indentedFrom (out ++ token.written ++ " ") level rest
    | _ => indentedFrom (out ++ token.written) level rest

/-- The tokens with line breaks and indentation between them. -/
def indented (tokens : List (Token String)) : String :=
  indentedFrom "" 0 tokens

/-- The text of a value, indented or on one line. -/
def Value.write (value : Value String) (pretty : Bool := false) : String :=
  if pretty then indented value.tokens else compact value.tokens

end ModuleCatalog.Json
