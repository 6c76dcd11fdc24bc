/-! # Digits -/

namespace ModuleCatalog.Text

/-- The value of a decimal digit. -/
def decimalDigit? (c : Char) : Option Nat :=
  if c.isDigit then some (c.toNat - '0'.toNat) else none

/-- The value of a hexadecimal digit of either letter case. -/
def hexDigit? (c : Char) : Option Nat :=
  if c.isDigit then some (c.toNat - '0'.toNat)
  else if 'a' ≤ c ∧ c ≤ 'f' then some (c.toNat - 'a'.toNat + 10)
  else if 'A' ≤ c ∧ c ≤ 'F' then some (c.toNat - 'A'.toNat + 10)
  else none

/-- The number that some digits stand for, in the base that `digit?` reads. -/
def numeral? (base : Nat) (digit? : Char → Option Nat) (digits : List Char) : Option Nat :=
  digits.foldlM (fun value c => (digit? c).map (value * base + ·)) 0

end ModuleCatalog.Text
