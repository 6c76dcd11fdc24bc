/-! # Sets of characters given by code point ranges

    A character property is a list of disjoint code point ranges in ascending
    order.  Membership looks through the list and stops at the first range
    that begins above the code point in question. -/

namespace ModuleCatalog.Text

/-- The code points from `first` to `last`, both included. -/
structure CodeRange where
  first : Nat
  last : Nat

/-- Whether one of the ascending `ranges` holds the code point `n`. -/
def CodeRange.anyHolds : List CodeRange → Nat → Bool
  | [], _ => false
  | r :: rs, n => if n < r.first then false else if n ≤ r.last then true else anyHolds rs n

/-- Whether the code point of `c` lies in one of the ascending `ranges`. -/
def inRanges (ranges : List CodeRange) (c : Char) : Bool :=
  CodeRange.anyHolds ranges c.toNat

/-- What membership finds is a range of the list. -/
theorem CodeRange.exists_of_anyHolds {ranges : List CodeRange} {n : Nat}
    (h : anyHolds ranges n = true) : ∃ r ∈ ranges, r.first ≤ n ∧ n ≤ r.last := by
  induction ranges with
  | nil => simp [anyHolds] at h
  | cons r rs ih =>
    simp only [anyHolds] at h
    split at h
    · simp at h
    · split at h
      · exact ⟨r, by simp, by omega, by omega⟩
      · obtain ⟨q, hq, hb⟩ := ih h
        exact ⟨q, by simp [hq], hb⟩

end ModuleCatalog.Text
