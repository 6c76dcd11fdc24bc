import ModuleCatalog.Text.PrintTable

/-! # Quoted texts for diagnostics

    A text between double quotes in which every character can be told apart on
    a terminal: quotes and backslashes are escaped, and what has no shape of
    its own is shown by its code point. -/

namespace ModuleCatalog.Text

/-- Characters that are shown by their code point: marks that would fuse with
    the character before them, and characters without a shape. -/
def isHidden (c : Char) : Bool :=
  inRanges extendingMarkRanges c || inRanges invisibleRanges c

/-- The code point of `c` in lower-case hexadecimal digits, as an escape. -/
def codePointEscape (c : Char) : List Char :=
  ['\\', 'u', '\x7b'] ++ Nat.toDigits 16 c.toNat ++ ['\x7d']

/-- How one character stands in a quoted text. -/
def quotedChar (c : Char) : List Char :=
  match c with
  | '\\' => ['\\', '\\']
  | '"' => ['\\', '"']
  | '\n' => ['\\', 'n']
  | '\t' => ['\\', 't']
  | '\r' => ['\\', 'r']
  | '\x00' => ['\\', '0']
  | c => if isHidden c then codePointEscape c else [c]

/-- A text between double quotes, with its special characters escaped. -/
def quoted (s : String) : String :=
  String.ofList ('"' :: s.toList.flatMap quotedChar ++ ['"'])

end ModuleCatalog.Text
