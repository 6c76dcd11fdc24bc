import ModuleCatalog.Text.WordTable

/-! # Word characters -/

namespace ModuleCatalog.Text

/-- A character that can stand in a word: alphabetic, a number, or `_`. -/
def isWordCharacter (c : Char) : Bool :=
  c = '_' || inRanges alphanumericRanges c

/-- Every ASCII letter and digit is a word character. -/
theorem isWordCharacter_of_isAlphanum {c : Char} (h : c.isAlphanum = true) :
    isWordCharacter c = true := by
  have hr : ∀ n < 128, (Char.ofNat n).isAlphanum = true →
      CodeRange.anyHolds alphanumericRanges n = true := by decide +kernel
  have hc : c.toNat < 128 := by
    delta Char.isAlphanum Char.isAlpha Char.isUpper Char.isLower Char.isDigit at h
    simp only [Bool.or_eq_true, Bool.and_eq_true, decide_eq_true_eq] at h
    simp [UInt32.le_iff_toNat_le] at h
    omega
  have := hr c.toNat hc
  rw [Char.ofNat_toNat] at this
  simp [isWordCharacter, inRanges, this h]

end ModuleCatalog.Text
