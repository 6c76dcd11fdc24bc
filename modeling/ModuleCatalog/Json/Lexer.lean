import ModuleCatalog.Json.Value
import ModuleCatalog.Text.Digit

/-! # Tokens of a JSON text

    A text is cut into tokens character by character: `Lexer.step` says what
    one character does, and a text is lexed by folding it.  The grammar is the
    strict one: no comments, no leading zeros, no bare control characters in
    strings. -/

namespace ModuleCatalog.Json

/-- Why a text is not what was asked for. -/
inductive Fault where
  /-- It cannot be cut into tokens. -/
  | malformedToken
  /-- Its tokens are not those of one value. -/
  | misplacedToken
  /-- Its value is not the value of a tree. -/
  | notATree
deriving DecidableEq, Repr

/-- What a string literal names: a text, or nothing if its escapes leave one
    half of a surrogate pair without the other. -/
abbrev LiteralText := Option String

/-! ## Code units -/

/-- Whether a code unit is the first half of a surrogate pair. -/
def isHighSurrogate (n : Nat) : Bool := 0xD800 ≤ n && n < 0xDC00

/-- Whether a code unit is the second half of a surrogate pair. -/
def isLowSurrogate (n : Nat) : Bool := 0xDC00 ≤ n && n < 0xE000

/-- The character of a surrogate pair. -/
def pairedChar (high low : Nat) : Char :=
  Char.ofNat (0x10000 + (high - 0xD800) * 0x400 + (low - 0xDC00))

/-- The text of a literal from its code units, last one first.  `after` holds
    the characters behind them. -/
def textOfUnits (after : List Char) : List Nat → Option (List Char)
  | [] => some after
  | low :: units =>
    if isLowSurrogate low then
      match units with
      | high :: units =>
        if isHighSurrogate high then textOfUnits (pairedChar high low :: after) units else none
      | [] => none
    else if isHighSurrogate low then none
    else textOfUnits (Char.ofNat low :: after) units

/-! ## Numbers -/

/-- The part of a number that was read last. -/
inductive NumberPart where
  | sign
  | zero
  | whole
  | point
  | fraction
  | exponent
  | exponentSign
  | power
deriving DecidableEq, Repr

namespace NumberPart

/-- The part that a character goes on with; none if it ends the number. -/
def next? (part : NumberPart) (c : Char) : Option NumberPart :=
  match part with
  | sign => if c = '0' then some zero else if c.isDigit then some whole else none
  | zero => if c = '.' then some point else if c = 'e' ∨ c = 'E' then some exponent else none
  | whole =>
    if c.isDigit then some whole
    else if c = '.' then some point
    else if c = 'e' ∨ c = 'E' then some exponent
    else none
  | point => if c.isDigit then some fraction else none
  | fraction =>
    if c.isDigit then some fraction else if c = 'e' ∨ c = 'E' then some exponent else none
  | exponent =>
    if c.isDigit then some power else if c = '+' ∨ c = '-' then some exponentSign else none
  | exponentSign => if c.isDigit then some power else none
  | power => if c.isDigit then some power else none

/-- Whether a number may end here. -/
def isComplete : NumberPart → Bool
  | zero | whole | fraction | power => true
  | sign | point | exponent | exponentSign => false

end NumberPart

/-! ## The lexer -/

/-- Where in a token the lexer is. -/
inductive Mode where
  /-- Between two tokens. -/
  | between
  /-- In a word that still lacks the given characters. -/
  | word (missing : List Char) (token : Token LiteralText)
  /-- In a number; its characters so far, last one first. -/
  | number (part : NumberPart) (seen : List Char)
  /-- In a string; its code units so far, last one first. -/
  | string (units : List Nat)
  /-- Behind a backslash in a string. -/
  | escape (units : List Nat)
  /-- In a code unit escape that lacks some digits and has the given value. -/
  | codeUnit (units : List Nat) (missing value : Nat)

/-- A text read up to some place: its tokens, last one first, and what is
    begun. -/
structure Lexer where
  tokens : List (Token LiteralText) := []
  mode : Mode := .between

namespace Lexer

/-- The code unit of a short escape. -/
def shortEscape? : Char → Option Nat
  | '"' => some 0x22
  | '\\' => some 0x5C
  | '/' => some 0x2F
  | 'b' => some 0x08
  | 'f' => some 0x0C
  | 'n' => some 0x0A
  | 'r' => some 0x0D
  | 't' => some 0x09
  | _ => none

/-- Read a character between two tokens. -/
def stepBetween (tokens : List (Token LiteralText)) (c : Char) : Option Lexer :=
  match c with
  | ' ' | '\t' | '\n' | '\r' => some { tokens }
  | '[' => some { tokens := .openArray :: tokens }
  | ']' => some { tokens := .closeArray :: tokens }
  | '\x7b' => some { tokens := .openObject :: tokens }
  | '\x7d' => some { tokens := .closeObject :: tokens }
  | ',' => some { tokens := .comma :: tokens }
  | ':' => some { tokens := .colon :: tokens }
  | '"' => some { tokens, mode := .string [] }
  | 't' => some { tokens, mode := .word ['r', 'u', 'e'] (.bool true) }
  | 'f' => some { tokens, mode := .word ['a', 'l', 's', 'e'] (.bool false) }
  | 'n' => some { tokens, mode := .word ['u', 'l', 'l'] .null }
  | '-' => some { tokens, mode := .number .sign ['-'] }
  | c => (NumberPart.sign.next? c).map fun part => { tokens, mode := .number part [c] }

/-- The token of a number whose characters are given last one first. -/
def numberToken (seen : List Char) : Token LiteralText :=
  .number (String.ofList seen.reverse)

/-- Read one character. -/
def step (l : Lexer) (c : Char) : Option Lexer :=
  match l.mode with
  | .between => stepBetween l.tokens c
  | .word [] token => stepBetween (token :: l.tokens) c
  | .word (d :: missing) token =>
    if c = d then some { l with mode := .word missing token } else none
  | .number part seen =>
    match part.next? c with
    | some part => some { l with mode := .number part (c :: seen) }
    | none =>
      if part.isComplete then stepBetween (numberToken seen :: l.tokens) c else none
  | .string units =>
    if c = '"' then
      some { tokens := .string ((textOfUnits [] units).map String.ofList) :: l.tokens }
    else if c = '\\' then some { l with mode := .escape units }
    else if c.toNat < 0x20 then none
    else some { l with mode := .string (c.toNat :: units) }
  | .escape units =>
    if c = 'u' then some { l with mode := .codeUnit units 4 0 }
    else (shortEscape? c).map fun unit => { l with mode := .string (unit :: units) }
  | .codeUnit units missing value =>
    (Text.hexDigit? c).map fun digit =>
      let value := value * 16 + digit
      { l with
        mode := if missing ≤ 1 then .string (value :: units)
          else .codeUnit units (missing - 1) value }

/-- The tokens of a text that has been read to its end, if no token is cut
    short. -/
def finish (l : Lexer) : Option (List (Token LiteralText)) :=
  match l.mode with
  | .between => some l.tokens.reverse
  | .word [] token => some (token :: l.tokens).reverse
  | .number part seen =>
    if part.isComplete then some (numberToken seen :: l.tokens).reverse else none
  | .word (_ :: _) _ | .string _ | .escape _ | .codeUnit _ _ _ => none

end Lexer

/-- The tokens of a text. -/
def tokenize? (text : List Char) : Option (List (Token LiteralText)) :=
  (text.foldlM Lexer.step {}).bind Lexer.finish

end ModuleCatalog.Json
