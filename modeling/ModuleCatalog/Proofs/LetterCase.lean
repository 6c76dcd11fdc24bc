import Mathlib.Data.List.Forall2
import ModuleCatalog.ModuleName

/-! # Respelled texts

    A text is respelled by taking some of its ASCII letters to the other case.
    Lower-casing does not notice: an ASCII letter is cased in both cases and
    is never looked past, so a respelling changes neither what becomes of the
    letter nor what its neighbours see of it, a capital sigma included
    (`lower_eq_of_respelled`). -/

namespace ModuleCatalog.Text

/-- A letter of ASCII in its other case; any other character as it is. -/
def otherCase (c : Char) : Char := if c.isLower then c.toUpper else c.toLower

/-- Two texts are the same but for the case of some ASCII letters. -/
def Respelled (s t : String) : Prop :=
  List.Forall₂ (fun c d => d = c ∨ d = otherCase c) s.toList t.toList

instance (s t : String) : Decidable (Respelled s t) :=
  inferInstanceAs (Decidable (List.Forall₂ _ _ _))

/-! ## Folded letters -/

theorem isLower_iff {c : Char} : c.isLower = true ↔ 97 ≤ c.toNat ∧ c.toNat ≤ 122 := by
  delta Char.isLower
  simp [UInt32.le_iff_toNat_le, ← Char.toNat_val]

/-- The capitals of ASCII are folded to the letters 32 places behind them. -/
theorem toNat_toLower (c : Char) :
    c.toLower.toNat = if 65 ≤ c.toNat ∧ c.toNat ≤ 90 then c.toNat + 32 else c.toNat := by
  have hcapital : c.val ≥ 'A'.val ∧ c.val ≤ 'Z'.val ↔ 65 ≤ c.toNat ∧ c.toNat ≤ 90 := by
    simp [UInt32.le_iff_toNat_le, ← Char.toNat_val]
  delta Char.toLower
  by_cases h : 65 ≤ c.toNat ∧ c.toNat ≤ 90
  · rw [dif_pos (hcapital.mpr h), if_pos h]
    show (c.val + ('a'.val - 'A'.val)).toNat = c.toNat + 32
    have hforth : ('a'.val - 'A'.val).toNat = 32 := by decide
    rw [UInt32.toNat_add, hforth, Char.toNat_val]
    omega
  · rw [dif_neg (mt hcapital.mp h), if_neg h]

theorem toNat_toUpper (c : Char) :
    c.toUpper.toNat = if 97 ≤ c.toNat ∧ c.toNat ≤ 122 then c.toNat - 32 else c.toNat := by
  have hsmall : 'a'.val ≤ c.val ∧ c.val ≤ 'z'.val ↔ 97 ≤ c.toNat ∧ c.toNat ≤ 122 := by
    simp [UInt32.le_iff_toNat_le, ← Char.toNat_val]
  delta Char.toUpper
  by_cases h : 97 ≤ c.toNat ∧ c.toNat ≤ 122
  · rw [dif_pos (hsmall.mpr h), if_pos h]
    show (c.val + ('A'.val - 'a'.val)).toNat = c.toNat - 32
    -- the way to the capitals leads back: the sum goes once around
    have hback : ('A'.val - 'a'.val).toNat = 2 ^ 32 - 32 := by decide
    rw [UInt32.toNat_add, hback, Char.toNat_val]
    omega
  · rw [dif_neg (mt hsmall.mp h), if_neg h]

/-- Two characters are each other's cases exactly when they are folded to the
    same letter. -/
theorem eq_or_eq_otherCase_iff {c d : Char} :
    d = c ∨ d = otherCase c ↔ c.toLower = d.toLower := by
  rw [otherCase, apply_ite (d = ·), ← Char.toNat_inj, ← Char.toNat_inj, ← Char.toNat_inj,
    ← Char.toNat_inj]
  simp only [isLower_iff, toNat_toUpper, toNat_toLower]
  -- one of three ranges for each of the two: a capital, a small letter, or neither
  repeat' split
  all_goals omega

theorem toList_toLower (s : String) : s.toLower.toList = s.toList.map Char.toLower :=
  String.toList_map

/-- Two texts are respellings of each other exactly when they are folded to the
    same text. -/
theorem respelled_iff {s t : String} : Respelled s t ↔ s.toLower = t.toLower := by
  rw [Respelled, ← String.toList_inj, toList_toLower, toList_toLower, ← List.forall₂_eq_eq_eq,
    List.forall₂_map_left_iff, List.forall₂_map_right_iff]
  simp only [eq_or_eq_otherCase_iff]

/-! ## Lower case of folded letters -/

/-- Folding an ASCII character changes nothing that lower-casing asks of it. -/
theorem fold_ascii : ∀ n < 128,
    lowerChar (Char.ofNat n).toLower = lowerChar (Char.ofNat n) ∧
      isCased (Char.ofNat n).toLower = isCased (Char.ofNat n) ∧
      isCaseIgnorable (Char.ofNat n).toLower = isCaseIgnorable (Char.ofNat n) ∧
      ((Char.ofNat n).toLower = 'Σ' ↔ Char.ofNat n = 'Σ') := by
  decide +kernel

theorem fold_character (c : Char) :
    lowerChar c.toLower = lowerChar c ∧ isCased c.toLower = isCased c ∧
      isCaseIgnorable c.toLower = isCaseIgnorable c ∧ (c.toLower = 'Σ' ↔ c = 'Σ') := by
  by_cases hascii : c.toNat < 128
  · have hfold := fold_ascii c.toNat hascii
    rwa [Char.ofNat_toNat] at hfold
  · -- only letters of ASCII are folded at all
    have hkept : c.toLower = c := by
      rw [← Char.toNat_inj, toNat_toLower, if_neg (by omega)]
    simp [hkept]

theorem meetsCased_fold (cs : List Char) : meetsCased (cs.map Char.toLower) = meetsCased cs := by
  induction cs with
  | nil => rfl
  | cons c rest ih =>
    obtain ⟨-, hcased, hignorable, -⟩ := fold_character c
    simp only [List.map_cons, meetsCased, hcased, hignorable, ih]

/-- Lower-casing gives the same for a folded text, whatever precedes it. -/
theorem lowerFrom_fold (afterCased : Bool) (cs : List Char) :
    lowerFrom afterCased (cs.map Char.toLower) = lowerFrom afterCased cs := by
  induction cs generalizing afterCased with
  | nil => rfl
  | cons c rest ih =>
    obtain ⟨hlower, hcased, hignorable, hsigma⟩ := fold_character c
    simp only [List.map_cons, lowerFrom, hlower, hcased, hignorable, hsigma, meetsCased_fold, ih]

theorem lower_fold (s : String) : lower s.toLower = lower s := by
  rw [lower, lower, toList_toLower, lowerFrom_fold]

/-- A respelled text has the same lower case. -/
theorem lower_eq_of_respelled {s t : String} (h : Respelled s t) : lower s = lower t := by
  rw [← lower_fold s, respelled_iff.mp h, lower_fold]

end ModuleCatalog.Text
