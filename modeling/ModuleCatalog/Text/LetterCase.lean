import ModuleCatalog.Text.CaseTable

/-! # Lower case

    `lower` maps a text to lower case with the rules that hold in every
    language: a letter goes to its lower-case form, the dotted capital I goes
    to two characters, and a capital sigma goes to the final sigma at the end
    of a word and to the ordinary one elsewhere.

    Lower-casing leaves a text of settled characters alone (`lower_eq_self`)
    and always yields one, so doing it twice is doing it once
    (`lower_lower`). -/

namespace ModuleCatalog.Text

/-! ## Single characters -/

/-- The code point of the lower-case form that the ascending `runs` give to
    the code point `n`; `n` itself if they give none. -/
def CaseRun.apply : List CaseRun → Nat → Nat
  | [], n => n
  | r :: rs, n =>
    if n < r.first then n
    else if n ≤ r.last then
      if (n - r.first) % r.step = 0 then r.image + (n - r.first) else n
    else apply rs n

/-- The lower-case form of a letter that has one of a single character; any
    other character is left alone. -/
def lowerLetter (c : Char) : Char :=
  Char.ofNat (CaseRun.apply caseRuns c.toNat)

/-- Lower case of one character, whatever stands beside it. -/
def lowerChar (c : Char) : List Char :=
  if c = 'İ' then ['i', '\u0307'] else [lowerLetter c]

/-- Cased characters: letters that belong to an upper, lower or title case. -/
def isCased (c : Char) : Bool := inRanges casedRanges c

/-- Characters that the rule for sigma looks past. -/
def isCaseIgnorable (c : Char) : Bool := inRanges caseIgnorableRanges c

/-! ## Texts -/

/-- Whether the first character that is not looked past is cased. -/
def meetsCased : List Char → Bool
  | [] => false
  | c :: rest => if isCaseIgnorable c then meetsCased rest else isCased c

/-- Lower case of the rest of a text.  `afterCased` tells whether the last
    character before it, of those that are not looked past, is cased: then a
    capital sigma that no cased character follows ends its word. -/
def lowerFrom (afterCased : Bool) : List Char → List Char
  | [] => []
  | c :: rest =>
    let form :=
      if c = 'Σ' then [if afterCased && !meetsCased rest then 'ς' else 'σ'] else lowerChar c
    form ++ lowerFrom (if isCaseIgnorable c then afterCased else isCased c) rest

/-- The lower-case form of a text. -/
def lower (s : String) : String :=
  String.ofList (lowerFrom false s.toList)

/-! ## Lower case twice -/

/-- A settled character is its own lower case in every context. -/
def IsSettled (c : Char) : Prop :=
  lowerLetter c = c ∧ c ≠ 'Σ' ∧ c ≠ 'İ'

instance (c : Char) : Decidable (IsSettled c) :=
  inferInstanceAs (Decidable (_ ∧ _ ∧ _))

/-- The lower-case forms that one run gives. -/
def CaseRun.images (r : CaseRun) : List Nat :=
  (List.range ((r.last - r.first) / r.step + 1)).map fun k => r.image + k * r.step

/-- A code point is left alone or goes to a form that one of the runs gives. -/
theorem CaseRun.apply_eq_or_mem_images (runs : List CaseRun) (n : Nat) :
    apply runs n = n ∨ ∃ r ∈ runs, apply runs n ∈ r.images := by
  induction runs with
  | nil => exact .inl rfl
  | cons r rs ih =>
    simp only [apply]
    split
    · exact .inl rfl
    · split
      · split
        · rename_i hlow hhigh hstep
          refine .inr ⟨r, by simp, List.mem_map.mpr ⟨(n - r.first) / r.step, ?_, ?_⟩⟩
          · have := Nat.div_le_div_right (c := r.step) (show n - r.first ≤ r.last - r.first by omega)
            simp only [List.mem_range]
            omega
          · rw [Nat.div_mul_cancel (Nat.dvd_of_mod_eq_zero hstep)]
        · exact .inl rfl
      · rcases ih with h | ⟨q, hq, h⟩
        · exact .inl h
        · exact .inr ⟨q, by simp [hq], h⟩

/-- Whether the forms that `r` gives are seen at a glance to lie off the
    letters of `q`: beside all of them, or between them where both runs take
    every second code point. -/
def CaseRun.misses (r q : CaseRun) : Bool :=
  Nat.blt (r.image + (r.last - r.first)) q.first || Nat.blt q.last r.image ||
    (q.step == 2 && (r.step == 2 || r.first == r.last) &&
      (r.image + q.first) % 2 == 1)

/-- A form that misses every run is left alone. -/
theorem CaseRun.apply_eq_self {r : CaseRun} {runs : List CaseRun} {n : Nat} (hn : n ∈ r.images)
    (h : runs.all r.misses = true) : apply runs n = n := by
  obtain ⟨k, hk, rfl⟩ := List.mem_map.mp hn
  have hk : k ≤ (r.last - r.first) / r.step := by simpa [Nat.lt_succ_iff] using hk
  have hks : k * r.step ≤ r.last - r.first :=
    Nat.le_trans (Nat.mul_le_mul_right _ hk) (Nat.div_mul_le_self _ _)
  induction runs with
  | nil => rfl
  | cons q qs ih =>
    simp only [List.all_cons, Bool.and_eq_true] at h
    have hq := h.1
    simp only [misses, Bool.or_eq_true, Bool.and_eq_true, Nat.blt_eq, beq_iff_eq] at hq
    simp only [apply]
    split
    · rfl
    · split
      · rw [if_neg]
        rcases hq with (hq | hq) | ⟨⟨hstep, hr⟩, hodd⟩
        · omega
        · omega
        · have : k * r.step % 2 = 0 := by
            rcases hr with hr | hr
            · rw [hr]; omega
            · rw [show k * r.step = 0 by omega]
          rw [hstep]
          omega
      · exact ih h.2

/-- The forms that the runs give are characters, neither of the two capitals
    with a rule of their own, and miss every run. -/
theorem caseRuns_forms :
    (caseRuns.all fun r => caseRuns.all r.misses &&
      r.images.all fun n => (Nat.blt n 0xD800 || (Nat.blt 0xDFFF n && Nat.blt n 0x110000)) &&
        n != 0x3A3 && n != 0x130) = true := by
  decide +kernel

/-- Every form that the runs give is settled. -/
theorem isSettled_of_mem_images {r : CaseRun} (hr : r ∈ caseRuns) {n : Nat} (hn : n ∈ r.images) :
    IsSettled (Char.ofNat n) := by
  have h := List.all_eq_true.mp caseRuns_forms r hr
  rw [Bool.and_eq_true] at h
  have hv := List.all_eq_true.mp h.2 n hn
  simp only [Bool.and_eq_true, Bool.or_eq_true, Nat.blt_eq, bne_iff_ne] at hv
  obtain ⟨⟨hvalid, hs⟩, hi⟩ := hv
  have hn' : (Char.ofNat n).toNat = n := by
    rw [Char.ofNat, dif_pos (show n.isValidChar from hvalid)]
    rfl
  refine ⟨?_, fun e => hs ?_, fun e => hi ?_⟩
  · rw [lowerLetter, hn', CaseRun.apply_eq_self hn h.1]
  · rw [← hn', e]; rfl
  · rw [← hn', e]; rfl

/-- What is no capital sigma and no dotted capital I goes to a settled
    character. -/
theorem isSettled_lowerLetter (c : Char) (hs : c ≠ 'Σ') (hi : c ≠ 'İ') :
    IsSettled (lowerLetter c) := by
  rcases CaseRun.apply_eq_or_mem_images caseRuns c.toNat with h | ⟨r, hr, h⟩
  · have hc : lowerLetter c = c := by rw [lowerLetter, h, Char.ofNat_toNat]
    rw [hc]
    exact ⟨hc, hs, hi⟩
  · exact isSettled_of_mem_images hr h

/-- Lower-casing yields settled characters only. -/
theorem isSettled_of_mem_lowerFrom (afterCased : Bool) (cs : List Char) :
    ∀ c ∈ lowerFrom afterCased cs, IsSettled c := by
  induction cs generalizing afterCased with
  | nil => simp [lowerFrom]
  | cons d rest ih =>
    intro c hc
    simp only [lowerFrom, List.mem_append] at hc
    rcases hc with hc | hc
    · split at hc
      · split at hc <;> (obtain rfl := List.mem_singleton.mp hc; decide +kernel)
      · rename_i hs
        unfold lowerChar at hc
        split at hc
        · rcases List.mem_cons.mp hc with rfl | hc
          · decide +kernel
          · obtain rfl := List.mem_singleton.mp hc
            decide +kernel
        · rename_i hi
          obtain rfl := List.mem_singleton.mp hc
          exact isSettled_lowerLetter d hs hi
    · exact ih _ c hc

/-- Settled characters are left alone. -/
theorem lowerFrom_eq_self (afterCased : Bool) {cs : List Char} (h : ∀ c ∈ cs, IsSettled c) :
    lowerFrom afterCased cs = cs := by
  induction cs generalizing afterCased with
  | nil => rfl
  | cons c rest ih =>
    obtain ⟨hl, hs, hi⟩ := h c (by simp)
    simp [lowerFrom, lowerChar, hs, hi, hl, ih _ fun d hd => h d (by simp [hd])]

/-- A text of settled characters is its own lower case. -/
theorem lower_eq_self {s : String} (h : ∀ c ∈ s.toList, IsSettled c) : lower s = s := by
  rw [lower, lowerFrom_eq_self _ h, String.ofList_toList]

/-- Lower-casing a second time changes nothing. -/
@[simp] theorem lower_lower (s : String) : lower (lower s) = lower s :=
  lower_eq_self (by
    rw [lower, String.toList_ofList]
    exact isSettled_of_mem_lowerFrom _ _)

end ModuleCatalog.Text
