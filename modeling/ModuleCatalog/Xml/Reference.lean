import ModuleCatalog.Text.Digit
import ModuleCatalog.Xml.Scan

/-! # References

    Text and attribute values are made of plain characters and of references
    between `&` and `;`.  A reference stands for a character, given by its code
    point or by one of five fixed names, or for the text of an entity. -/

namespace ModuleCatalog.Xml

/-- One part of a text. -/
inductive Piece where
  /-- A character that stands for itself. -/
  | plain (c : Char)
  /-- A reference to a character. -/
  | character (c : Char)
  /-- A reference to an entity. -/
  | entity (name : String)
deriving DecidableEq, Repr

namespace Piece

/-- The largest number that a reference may give. -/
def maxNumber : Nat := 0xFFFFFFFF

/-- The character that a number stands for; a number that is no code point
    stands for the replacement character.  It has to be a character of XML. -/
def ofNumber? (n : Nat) : Option Piece :=
  if n ≤ maxNumber then
    let c := if n.isValidChar then Char.ofNat n else '\ufffd'
    if isXmlChar c then some (character c) else none
  else none

/-- The character of one of the five fixed names. -/
def fixedName? : String → Option Char
  | "quot" => some '"'
  | "amp" => some '&'
  | "apos" => some '\''
  | "lt" => some '<'
  | "gt" => some '>'
  | _ => none

/-- The reference to a name. -/
def ofName (name : String) : Piece :=
  match fixedName? name with
  | some c => character c
  | none => entity name

/-- The reference that stands between `&` and `;`. -/
def ofBody? (body : Input) : Option Piece :=
  match body with
  | [] | ['#'] | ['#', 'x'] => none
  | '#' :: 'x' :: digits => (Text.numeral? 16 Text.hexDigit? digits).bind ofNumber?
  | '#' :: digits => (Text.numeral? 10 Text.decimalDigit? digits).bind ofNumber?
  | c :: rest =>
    if isNameStart c && rest.all isNameChar then some (ofName (String.ofList body)) else none

end Piece

/-- The pieces of a text behind those of `before`, which come last first.  In a
    reference, `body` holds what was read of it, last character first. -/
def piecesFrom (before : List Piece) (body : Option Input) : Input → Except Fault (List Piece)
  | [] =>
    match body with
    | none => .ok before.reverse
    | some _ => .error .malformedReference
  | c :: rest =>
    match body with
    | none =>
      if c = '&' then piecesFrom before (some []) rest
      else piecesFrom (.plain c :: before) none rest
    | some body =>
      if c = ';' then
        match Piece.ofBody? body.reverse with
        | some piece => piecesFrom (piece :: before) none rest
        | none => .error .malformedReference
      else piecesFrom before (some (c :: body)) rest

/-- The pieces of a text. -/
def pieces (text : Input) : Except Fault (List Piece) := piecesFrom [] none text

end ModuleCatalog.Xml
