import Mathlib.Data.Nat.Find
import ModuleCatalog.SourceFile

/-! # Where the directory within the project begins

    The directory of a file is cut out of its path.  It can begin at an anchor:
    a place where the root of the project stands with a `/` behind it, then a
    character that does not occur in the root, and later a `/` that a word
    follows.

    The search for it goes through the occurrences of the root from the left,
    and an occurrence that begins within one that was counted before it is not
    counted itself (`Text.Counts`).  So the directory begins at the last anchor
    exactly when that anchor is counted, which may fail only for a root with a
    `/` in it (`SourceFile.directory_begins_at_last_anchor_iff`). -/

namespace ModuleCatalog

namespace Text

variable {mark text : List Char} {p n skip : Nat}

/-! ## Occurrences counted from the left -/

/-- A mark occurs in a text at a position. -/
def OccursAt (mark text : List Char) (p : Nat) : Prop := mark <+: text.drop p

instance (mark text : List Char) (p : Nat) : Decidable (OccursAt mark text p) :=
  inferInstanceAs (Decidable (_ <+: _))

/-- An occurrence counts unless it begins within an earlier one that counts. -/
def Counts (mark text : List Char) (p : Nat) : Prop :=
  OccursAt mark text p ∧ ∀ q, q < p → Counts mark text q → q + mark.length ≤ p
termination_by p

theorem counts_iff :
    Counts mark text p ↔
      OccursAt mark text p ∧ ∀ q < p, Counts mark text q → q + mark.length ≤ p := by
  rw [Counts]

theorem Counts.occursAt (h : Counts mark text p) : OccursAt mark text p := (counts_iff.mp h).1

theorem OccursAt.lt_length (h : OccursAt mark text p) (hmark : mark ≠ []) : p < text.length := by
  obtain ⟨behind, hbehind⟩ := h
  by_contra hend
  rw [List.drop_eq_nil_of_le (Nat.le_of_not_lt hend)] at hbehind
  exact hmark (List.append_eq_nil_iff.mp hbehind).1

/-- Of the last occurrence that counts below `n`, `skip` characters stand at `n`
    and behind: what counts below `n` ends at `n + skip` at the latest, and no
    earlier unless it ends at `n` or before. -/
def Skips (mark text : List Char) (n skip : Nat) : Prop :=
  ∀ p, n ≤ p → ((∀ q < n, Counts mark text q → q + mark.length ≤ p) ↔ n + skip ≤ p)

theorem skips_zero : Skips mark text 0 0 := by
  intro p _
  simp

namespace Skips

/-- An occurrence counts when nothing is left to be skipped. -/
theorem counts_iff (h : Skips mark text n skip) :
    Counts mark text n ↔ OccursAt mark text n ∧ skip = 0 := by
  have hzero : n + skip ≤ n ↔ skip = 0 := by omega
  rw [Text.counts_iff, h n (Nat.le_refl n), hzero]

theorem succ_of_not_counts (h : Skips mark text n skip) (hnot : ¬ Counts mark text n) :
    Skips mark text (n + 1) (skip - 1) := by
  intro p hp
  rw [Nat.forall_lt_succ_right, h p (by omega)]
  constructor
  · intro hends
    have := hends.1
    omega
  · intro hends
    exact ⟨by omega, fun hcounts => absurd hcounts hnot⟩

theorem succ_of_counts (h : Skips mark text n skip) (hcounts : Counts mark text n) :
    Skips mark text (n + 1) (mark.length - 1) := by
  have hzero := (h.counts_iff.mp hcounts).2
  intro p hp
  rw [Nat.forall_lt_succ_right, h p (by omega)]
  constructor
  · intro hends
    have := hends.2 hcounts
    omega
  · intro hends
    exact ⟨by omega, fun _ => by omega⟩

end Skips

/-! ## What follows the occurrences that count -/

open Classical in
/-- The positions below `n` where an occurrence counts, last one first. -/
noncomputable def countedBelow (mark text : List Char) (n : Nat) : List Nat :=
  ((List.range n).filter (Counts mark text ·)).reverse

theorem mem_countedBelow_iff : p ∈ countedBelow mark text n ↔ p < n ∧ Counts mark text p := by
  simp [countedBelow]

theorem descending_countedBelow (mark text : List Char) (n : Nat) :
    (countedBelow mark text n).Pairwise (· > ·) :=
  List.pairwise_reverse.mpr (List.pairwise_lt_range.filter _)

/-- What follows the occurrences that count and begin below `n`, last one
    first. -/
noncomputable def followersBelow (mark text : List Char) (n : Nat) : List (List Char) :=
  (countedBelow mark text n).map fun p => text.drop (p + mark.length)

theorem followersBelow_succ_of_counts (h : Counts mark text n) :
    followersBelow mark text (n + 1) =
      text.drop (n + mark.length) :: followersBelow mark text n := by
  simp [followersBelow, countedBelow, List.range_succ, h]

theorem followersBelow_succ_of_not_counts (h : ¬ Counts mark text n) :
    followersBelow mark text (n + 1) = followersBelow mark text n := by
  simp [followersBelow, countedBelow, List.range_succ, h]

/-- Reading the rest of a text, with some characters still to be skipped, finds
    what follows the occurrences that count in the whole text. -/
theorem followersAfter_eq (mark passed rest : List Char)
    (h : Skips mark (passed ++ rest) passed.length skip) :
    followersAfter mark (followersBelow mark (passed ++ rest) passed.length) skip rest =
      followersBelow mark (passed ++ rest) (passed ++ rest).length := by
  induction rest generalizing passed skip with
  | nil => simp [followersAfter]
  | cons c rest ih =>
    have hdrop : (passed ++ c :: rest).drop passed.length = c :: rest := List.drop_left
    have hoccurs : OccursAt mark (passed ++ c :: rest) passed.length ↔ mark <+: c :: rest := by
      rw [OccursAt, hdrop]
    have hshift : passed ++ c :: rest = (passed ++ [c]) ++ rest := by simp
    have hlength : (passed ++ [c]).length = passed.length + 1 := by simp
    have ih := fun skip => @ih skip (passed ++ [c])
    rw [← hshift, hlength] at ih
    by_cases hcounts : Counts mark (passed ++ c :: rest) passed.length
    · obtain ⟨hbegins, hzero⟩ := h.counts_iff.mp hcounts
      rw [hoccurs] at hbegins
      have hbehind : (c :: rest).drop mark.length =
          (passed ++ c :: rest).drop (passed.length + mark.length) := by
        rw [← List.drop_drop, hdrop]
      rw [followersAfter, if_neg (by omega), if_pos (List.isPrefixOf_iff_prefix.mpr hbegins),
        hbehind, ← followersBelow_succ_of_counts hcounts]
      exact ih _ (h.succ_of_counts hcounts)
    · have ih := ih _ (h.succ_of_not_counts hcounts)
      rw [followersBelow_succ_of_not_counts hcounts] at ih
      -- what does not count is still being skipped, or is no occurrence at all
      rw [followersAfter]
      by_cases hskip : 0 < skip
      · rw [if_pos hskip, ih]
      · have hzero : skip = 0 := by omega
        have hno : ¬ mark <+: c :: rest := fun hbegins =>
          hcounts (h.counts_iff.mpr ⟨hoccurs.mpr hbegins, hzero⟩)
        rw [hzero] at ih
        rw [if_neg hskip, if_neg (by rwa [List.isPrefixOf_iff_prefix]), ← ih]

theorem followers_eq (mark text : List Char) :
    followers mark text = followersBelow mark text text.length :=
  followersAfter_eq mark [] text skips_zero

/-- Among descending positions, the first of which something is made is the
    last one of which something is made. -/
theorem findSome?_descending_iff {α : Type u} {f : Nat → Option α} {a : α} {positions : List Nat}
    (h : positions.Pairwise (· > ·)) :
    positions.findSome? f = some a ↔
      ∃ p ∈ positions, f p = some a ∧ ∀ q ∈ positions, p < q → f q = none := by
  induction h with
  | nil => simp
  | @cons n positions hbelow _ ih =>
    rw [List.findSome?_cons]
    cases hmade : f n with
    | some b =>
      constructor
      · intro e
        refine ⟨n, List.mem_cons_self, hmade.trans e, fun q hq hlater => ?_⟩
        rcases List.mem_cons.mp hq with rfl | hq
        · exact absurd hlater (Nat.lt_irrefl q)
        · exact absurd hlater (Nat.lt_asymm (hbelow q hq))
      · intro hlast
        obtain ⟨p, hp, hmade', hlater⟩ := hlast
        rcases List.mem_cons.mp hp with rfl | hp
        · rw [← hmade, hmade']
        · rw [hlater n List.mem_cons_self (hbelow p hp)] at hmade
          cases hmade
    | none =>
      have hskip : ∀ p, f p = some a → p ≠ n := by
        rintro p hmade' rfl
        rw [hmade] at hmade'
        cases hmade'
      simp only [ih, List.mem_cons, or_and_right, forall_eq_or_imp, exists_or]
      constructor
      · intro hlast
        obtain ⟨p, hp, hmade', hlater⟩ := hlast
        exact .inr ⟨p, hp, hmade', fun _ => hmade, hlater⟩
      · rintro (⟨p, rfl, hmade', -⟩ | ⟨p, hp, hmade', -, hlater⟩)
        · exact absurd rfl (hskip p hmade')
        · exact ⟨p, hp, hmade', hlater⟩

/-- The first follower of which something is made is that of the last
    occurrence that counts and of which something is made. -/
theorem findSome?_followers_eq_some_iff {α : Type u} {f : List Char → Option α} {a : α}
    (hmark : mark ≠ []) :
    (followers mark text).findSome? f = some a ↔
      ∃ p, Counts mark text p ∧ f (text.drop (p + mark.length)) = some a ∧
        ∀ q, p < q → Counts mark text q → f (text.drop (q + mark.length)) = none := by
  have hbound : ∀ p, p < text.length ∧ Counts mark text p ↔ Counts mark text p :=
    fun p => and_iff_right_of_imp fun h => h.occursAt.lt_length hmark
  rw [followers_eq, followersBelow, List.findSome?_map,
    findSome?_descending_iff (descending_countedBelow mark text _)]
  simp only [mem_countedBelow_iff, hbound, Function.comp_apply]
  exact exists_congr fun p => and_congr_right fun _ => and_congr_right fun _ =>
    forall_congr' fun q => imp.swap

/-- When only the last character of a mark can be its last one, no two of its
    occurrences overlap, so all of them count. -/
theorem counts_of_occursAt {root : List Char} {last : Char} (hroot : last ∉ root)
    (h : OccursAt (root ++ [last]) text p) : Counts (root ++ [last]) text p := by
  refine counts_iff.mpr ⟨h, fun q hq hcounts => ?_⟩
  by_contra hoverlap
  rw [List.length_append, List.length_singleton] at hoverlap
  -- the end of the earlier occurrence would be a character of the root in this one
  have hend : text[q + root.length]? = some last := by
    obtain ⟨behind, hbehind⟩ := hcounts.occursAt
    rw [← List.getElem?_drop, ← hbehind]
    simp
  have hinside : text[q + root.length]? = root[q + root.length - p]? := by
    obtain ⟨behind, hbehind⟩ := h
    have hsplit : q + root.length = p + (q + root.length - p) := by omega
    rw [hsplit, ← List.getElem?_drop, ← hbehind, List.append_assoc,
      List.getElem?_append_left (by omega), ← hsplit]
  rw [hinside] at hend
  exact hroot (List.mem_of_getElem? hend)

end Text

namespace SourceFile

/-! ## The last word of a path -/

/-- Somewhere in a text a word character follows a `/`. -/
def HasWord (text : List Char) : Prop :=
  ∃ before w behind, text = before ++ '/' :: w :: behind ∧ Text.isWordCharacter w = true

/-- What stands before the last `/` of a text that a word character follows. -/
def BeforeLastWord (text before : List Char) : Prop :=
  ∃ w behind, text = before ++ '/' :: w :: behind ∧ Text.isWordCharacter w = true ∧
    ¬ HasWord (w :: behind)

variable {text before rest : List Char} {c : Char}

theorem beginsWord_iff :
    beginsWord text = true ↔ ∃ w behind, text = w :: behind ∧ Text.isWordCharacter w = true := by
  cases text <;> simp [beginsWord]

theorem not_hasWord_nil : ¬ HasWord [] := by
  rintro ⟨before, w, behind, h, -⟩
  simp at h

theorem hasWord_cons_iff :
    HasWord (c :: rest) ↔ c = '/' ∧ beginsWord rest = true ∨ HasWord rest := by
  rw [beginsWord_iff]
  constructor
  · rintro ⟨_ | ⟨b, before⟩, w, behind, h, hw⟩
    · cases h
      exact .inl ⟨rfl, w, behind, rfl, hw⟩
    · cases h
      exact .inr ⟨before, w, behind, rfl, hw⟩
  · rintro (⟨rfl, w, behind, rfl, hw⟩ | ⟨before, w, behind, rfl, hw⟩)
    · exact ⟨[], w, behind, rfl, hw⟩
    · exact ⟨c :: before, w, behind, rfl, hw⟩

theorem beforeLastWord_cons_iff :
    BeforeLastWord (c :: rest) before ↔
      (c = '/' ∧ beginsWord rest = true) ∧ ¬ HasWord rest ∧ before = [] ∨
        ∃ before', before = c :: before' ∧ BeforeLastWord rest before' := by
  rw [beginsWord_iff]
  constructor
  · rintro ⟨w, behind, h, hw, hlast⟩
    cases before with
    | nil =>
      cases h
      exact .inl ⟨⟨rfl, w, behind, rfl, hw⟩, hlast, rfl⟩
    | cons b before =>
      cases h
      exact .inr ⟨before, rfl, w, behind, rfl, hw, hlast⟩
  · rintro (⟨⟨rfl, w, behind, rfl, hw⟩, hlast, rfl⟩ | ⟨before, rfl, w, behind, rfl, hw, hlast⟩)
    · exact ⟨w, behind, rfl, hw, hlast⟩
    · exact ⟨w, behind, rfl, hw, hlast⟩

/-- More text in front does not change which word is the last. -/
theorem BeforeLastWord.append (h : BeforeLastWord text before) (front : List Char) :
    BeforeLastWord (front ++ text) (front ++ before) := by
  obtain ⟨w, behind, rfl, hw, hlast⟩ := h
  exact ⟨w, behind, (List.append_assoc ..).symm, hw, hlast⟩

/-- Reading a text to its end finds its last word, or keeps the one that was
    found before. -/
theorem beforeLastWordFrom_eq_some_iff {passed : List Char} {best : Option (List Char)} :
    beforeLastWordFrom passed best text = some before ↔
      (∃ middle, BeforeLastWord text middle ∧ before = passed.reverse ++ middle) ∨
        ¬ HasWord text ∧ best.map List.reverse = some before := by
  induction text generalizing passed best with
  | nil =>
    have hnone : ∀ middle, ¬ BeforeLastWord [] middle := by
      rintro middle ⟨w, behind, h, -⟩
      simp at h
    simp [beforeLastWordFrom, not_hasWord_nil, hnone]
  | cons c rest ih =>
    rw [beforeLastWordFrom, ih]
    simp only [beforeLastWord_cons_iff, hasWord_cons_iff, Bool.and_eq_true, decide_eq_true_eq]
    constructor
    · rintro (⟨middle, hlast, rfl⟩ | ⟨hno, hbest⟩)
      · exact .inl ⟨c :: middle, .inr ⟨middle, rfl, hlast⟩, by simp⟩
      · -- without a word behind `c`, it is `c` that counts
        by_cases hword : c = '/' ∧ beginsWord rest = true
        · rw [if_pos hword] at hbest
          cases hbest
          exact .inl ⟨[], .inl ⟨hword, hno, rfl⟩, by simp⟩
        · rw [if_neg hword] at hbest
          exact .inr ⟨not_or.mpr ⟨hword, hno⟩, hbest⟩
    · rintro (⟨_, ⟨hword, hno, rfl⟩ | ⟨middle, rfl, hlast⟩, rfl⟩ | ⟨hno, hbest⟩)
      · exact .inr ⟨hno, by simp [if_pos hword]⟩
      · exact .inl ⟨middle, hlast, by simp⟩
      · obtain ⟨hword, hno⟩ := not_or.mp hno
        exact .inr ⟨hno, by rwa [if_neg hword]⟩

theorem beforeLastWord?_eq_some_iff :
    beforeLastWord? text = some before ↔ BeforeLastWord text before := by
  rw [beforeLastWord?, beforeLastWordFrom_eq_some_iff]
  simp

/-- There is only one last word. -/
theorem BeforeLastWord.unique {before' : List Char} (h : BeforeLastWord text before)
    (h' : BeforeLastWord text before') : before = before' := by
  rw [← beforeLastWord?_eq_some_iff] at h h'
  exact Option.some.inj (h.symm.trans h')

theorem exists_beforeLastWord_iff : (∃ before, BeforeLastWord text before) ↔ HasWord text := by
  constructor
  · rintro ⟨before, w, behind, rfl, hw, -⟩
    exact ⟨before, w, behind, rfl, hw⟩
  · intro h
    induction text with
    | nil => exact absurd h not_hasWord_nil
    | cons c rest ih =>
      by_cases hrest : HasWord rest
      · obtain ⟨before, hlast⟩ := ih hrest
        exact ⟨c :: before, beforeLastWord_cons_iff.mpr (.inr ⟨before, rfl, hlast⟩)⟩
      · have hword := (hasWord_cons_iff.mp h).resolve_right hrest
        exact ⟨[], beforeLastWord_cons_iff.mpr (.inl ⟨hword, hrest, rfl⟩)⟩

/-! ## Anchors -/

/-- A place where the root stands with a `/` behind it, then a character that
    does not occur in the root, and somewhere behind that a word. -/
def Anchor (root path : List Char) (p : Nat) : Prop :=
  ∃ c rest, path.drop p = root ++ '/' :: c :: rest ∧ c ∉ root ∧ HasWord rest

/-- No anchor stands further to the right. -/
def IsLastAnchor (root path : List Char) (p : Nat) : Prop :=
  Anchor root path p ∧ ∀ q, p < q → ¬ Anchor root path q

/-- The directory that begins at a place: the root, a `/`, a character that does
    not occur in the root, and all up to the last `/` that a word follows. -/
def DirectoryAt (root path : List Char) (p : Nat) (directory : List Char) : Prop :=
  ∃ c rest middle, path.drop p = root ++ '/' :: c :: rest ∧ c ∉ root ∧
    BeforeLastWord rest middle ∧ directory = root ++ '/' :: c :: middle

variable {root path directory : List Char} {p q : Nat}

theorem exists_directoryAt_iff : (∃ directory, DirectoryAt root path p directory) ↔
    Anchor root path p := by
  simp only [Anchor, ← exists_beforeLastWord_iff]
  constructor
  · rintro ⟨_, c, rest, middle, hpath, hc, hlast, rfl⟩
    exact ⟨c, rest, hpath, hc, middle, hlast⟩
  · rintro ⟨c, rest, hpath, hc, middle, hlast⟩
    exact ⟨_, c, rest, middle, hpath, hc, hlast, rfl⟩

theorem Anchor.occursAt (h : Anchor root path p) : Text.OccursAt (root ++ ['/']) path p := by
  obtain ⟨c, rest, hpath, -⟩ := h
  exact ⟨c :: rest, by rw [hpath, List.append_assoc]; rfl⟩

theorem Anchor.lt_length (h : Anchor root path p) : p < path.length :=
  h.occursAt.lt_length (by simp)

/-- Where there is an anchor, there is a last one. -/
theorem exists_isLastAnchor (h : ∃ p, Anchor root path p) : ∃ p, IsLastAnchor root path p := by
  classical
  obtain ⟨p, hp⟩ := h
  refine ⟨Nat.findGreatest (Anchor root path) path.length,
    Nat.findGreatest_spec (Nat.le_of_lt hp.lt_length) hp, fun q hlater hq => ?_⟩
  exact Nat.findGreatest_is_greatest hlater (Nat.le_of_lt hq.lt_length) hq

theorem IsLastAnchor.unique (hp : IsLastAnchor root path p) (hq : IsLastAnchor root path q) :
    p = q := by
  rcases Nat.lt_trichotomy p q with hlt | heq | hgt
  · exact absurd hq.1 (hp.2 q hlt)
  · exact heq
  · exact absurd hp.1 (hq.2 p hgt)

/-- A directory ends before the last `/` of the whole path that a word follows. -/
theorem DirectoryAt.beforeLastWord (h : DirectoryAt root path p directory) :
    BeforeLastWord path (path.take p ++ directory) := by
  obtain ⟨c, rest, middle, hpath, -, hlast, rfl⟩ := h
  have hwhole := hlast.append (path.take p ++ (root ++ ['/', c]))
  have hrest : path.take p ++ (root ++ ['/', c]) ++ rest = path := by
    conv_rhs => rw [← List.take_append_drop p path, hpath]
    simp
  rw [hrest] at hwhole
  simpa using hwhole

/-- The text of a directory tells where it begins, since it is known where it
    ends. -/
theorem DirectoryAt.unique (hp : DirectoryAt root path p directory)
    (hq : DirectoryAt root path q directory) : p = q := by
  have hpath := hp.beforeLastWord.unique hq.beforeLastWord
  have hlength := congrArg List.length hpath
  have hp := (exists_directoryAt_iff.mp ⟨_, hp⟩).lt_length
  have hq := (exists_directoryAt_iff.mp ⟨_, hq⟩).lt_length
  simp only [List.length_append, List.length_take] at hlength
  omega

/-! ## The search for the directory -/

/-- What is made of an occurrence of the root is the directory that begins
    there. -/
theorem directoryAfter?_eq_some_iff (h : Text.OccursAt (root ++ ['/']) path p) :
    directoryAfter? root (path.drop (p + (root ++ ['/']).length)) = some directory ↔
      DirectoryAt root path p directory := by
  obtain ⟨behind, hbehind⟩ := h
  rw [← List.drop_drop, ← hbehind, List.drop_left]
  unfold DirectoryAt
  rw [← hbehind]
  cases behind with
  | nil => simp [directoryAfter?]
  | cons c rest =>
    have hsame : ∀ c' rest', root ++ ['/'] ++ c :: rest = root ++ '/' :: c' :: rest' ↔
        c = c' ∧ rest = rest' := by simp
    simp only [hsame, directoryAfter?]
    by_cases hc : c ∈ root
    · rw [if_pos hc]
      refine iff_of_false nofun ?_
      rintro ⟨_, _, _, ⟨rfl, rfl⟩, hc', -⟩
      exact hc' hc
    · rw [if_neg hc, Option.map_eq_some_iff]
      constructor
      · rintro ⟨middle, hlast, rfl⟩
        exact ⟨c, rest, middle, ⟨rfl, rfl⟩, hc, beforeLastWord?_eq_some_iff.mp hlast, rfl⟩
      · rintro ⟨_, _, middle, ⟨rfl, rfl⟩, -, hlast, rfl⟩
        exact ⟨middle, beforeLastWord?_eq_some_iff.mpr hlast, rfl⟩

theorem directoryAfter?_eq_none_iff (h : Text.OccursAt (root ++ ['/']) path p) :
    directoryAfter? root (path.drop (p + (root ++ ['/']).length)) = none ↔
      ¬ Anchor root path p := by
  rw [← exists_directoryAt_iff, Option.eq_none_iff_forall_ne_some]
  simp only [ne_eq, directoryAfter?_eq_some_iff h, not_exists]

theorem anchor_iff :
    Anchor root path p ↔ Text.OccursAt (root ++ ['/']) path p ∧
      (directoryAfter? root (path.drop (p + (root ++ ['/']).length))).isSome = true := by
  constructor
  · intro h
    rw [Option.isSome_iff_ne_none, ne_eq, directoryAfter?_eq_none_iff h.occursAt, not_not]
    exact ⟨h.occursAt, h⟩
  · rintro ⟨hoccurs, hmade⟩
    rwa [Option.isSome_iff_ne_none, ne_eq, directoryAfter?_eq_none_iff hoccurs, not_not] at hmade

instance (root path : List Char) (p : Nat) : Decidable (Anchor root path p) :=
  decidable_of_iff _ anchor_iff.symm

/-- Only places within the path have to be looked at. -/
theorem isLastAnchor_iff :
    IsLastAnchor root path p ↔
      Anchor root path p ∧ ∀ q < path.length, p < q → ¬ Anchor root path q :=
  and_congr_right fun _ => forall_congr' fun _ =>
    ⟨fun h _ hlater => h hlater, fun h hlater hq => h hq.lt_length hlater hq⟩

instance (root path : List Char) (p : Nat) : Decidable (IsLastAnchor root path p) :=
  decidable_of_iff _ isLastAnchor_iff.symm

/-- The directory of a file begins at the last anchor that counts. -/
theorem directory?_eq_some_iff {path root directory : String} (hroot : root ≠ "") :
    directory? path root = some directory ↔
      ∃ p, Text.Counts (root.toList ++ ['/']) path.toList p ∧
        DirectoryAt root.toList path.toList p directory.toList ∧
        ∀ q, p < q → Text.Counts (root.toList ++ ['/']) path.toList q →
          ¬ Anchor root.toList path.toList q := by
  have hmade : directory? path root = some directory ↔
      (Text.followers (root.toList ++ ['/']) path.toList).findSome?
        (directoryAfter? root.toList) = some directory.toList := by
    have hne : root.isEmpty = false := by simpa using hroot
    simp only [directory?, hne, Bool.false_eq_true, if_false, Option.map_eq_some_iff]
    constructor
    · rintro ⟨d, hd, rfl⟩
      rw [hd, String.toList_ofList]
    · intro hd
      exact ⟨_, hd, String.ofList_toList⟩
  rw [hmade, Text.findSome?_followers_eq_some_iff (by simp)]
  refine exists_congr fun p => and_congr_right fun hcounts => and_congr ?_ ?_
  · exact directoryAfter?_eq_some_iff hcounts.occursAt
  · exact forall_congr' fun q => imp_congr_right fun _ => forall_congr' fun hcounts =>
      directoryAfter?_eq_none_iff hcounts.occursAt

/-- What is found is the directory that begins at the last anchor, and nothing
    if there is no anchor. -/
def BeginsAtLastAnchor (path root : String) (found : Option String) : Prop :=
  ((∃ p, Anchor root.toList path.toList p) →
    ∃ p directory, IsLastAnchor root.toList path.toList p ∧ found = some directory ∧
      DirectoryAt root.toList path.toList p directory.toList) ∧
  ((¬ ∃ p, Anchor root.toList path.toList p) → found = none)

/-- For a root with a name the directory begins at the last anchor exactly when
    that anchor counts among the occurrences of the root, so it does for every
    root without a `/`. -/
theorem directory_begins_at_last_anchor_iff (path root : String) (hroot : root ≠ "") :
    (BeginsAtLastAnchor path root (directory? path root) ↔
      ∀ p, IsLastAnchor root.toList path.toList p →
        Text.Counts (root.toList ++ ['/']) path.toList p) ∧
    ('/' ∉ root.toList → BeginsAtLastAnchor path root (directory? path root)) := by
  have hiff : BeginsAtLastAnchor path root (directory? path root) ↔
      ∀ p, IsLastAnchor root.toList path.toList p →
        Text.Counts (root.toList ++ ['/']) path.toList p := by
    constructor
    · intro h p hlast
      obtain ⟨p', directory, hlast', hfound, hat⟩ := h.1 ⟨p, hlast.1⟩
      obtain ⟨q, hcounts, hat', -⟩ := (directory?_eq_some_iff hroot).mp hfound
      -- the text that was found begins in one place only
      rwa [hlast.unique hlast', hat.unique hat']
    · intro h
      refine ⟨fun hexists => ?_, fun hnone => ?_⟩
      · obtain ⟨p, hlast⟩ := exists_isLastAnchor hexists
        obtain ⟨directory, hat⟩ := exists_directoryAt_iff.mpr hlast.1
        refine ⟨p, String.ofList directory, hlast, ?_, by rwa [String.toList_ofList]⟩
        refine (directory?_eq_some_iff hroot).mpr
          ⟨p, h p hlast, by rwa [String.toList_ofList], fun q hlater _ => hlast.2 q hlater⟩
      · rw [Option.eq_none_iff_forall_ne_some]
        intro directory hfound
        obtain ⟨p, -, hat, -⟩ := (directory?_eq_some_iff hroot).mp hfound
        exact hnone ⟨p, exists_directoryAt_iff.mp ⟨_, hat⟩⟩
  refine ⟨hiff, fun hslash => hiff.mpr fun p hlast => ?_⟩
  exact Text.counts_of_occursAt hslash hlast.1.occursAt

/-- Of three occurrences the one in the middle does not count, and the last one
    is the last anchor. -/
theorem directory_begins_at_last_anchor_chain :
    "src/src" ≠ "" ∧
      BeginsAtLastAnchor "/src/src/src/src/main/m.f90" "src/src" (some "src/src/main") := by
  have hroot : "src/src" ≠ "" := by decide
  have hlast : IsLastAnchor "src/src".toList "/src/src/src/src/main/m.f90".toList 9 := by
    decide +kernel
  have hoccurs : ∀ q < 9, Text.OccursAt ("src/src".toList ++ ['/'])
      "/src/src/src/src/main/m.f90".toList q ↔ q = 1 ∨ q = 5 := by
    decide +kernel
  have hfirst : Text.Counts ("src/src".toList ++ ['/']) "/src/src/src/src/main/m.f90".toList 1 := by
    refine Text.counts_iff.mpr ⟨(hoccurs 1 (by decide)).mpr (.inl rfl), fun q hq hcounts => ?_⟩
    have := (hoccurs q (by omega)).mp hcounts.occursAt
    omega
  have hcounts : Text.Counts ("src/src".toList ++ ['/'])
      "/src/src/src/src/main/m.f90".toList 9 := by
    refine Text.counts_iff.mpr ⟨hlast.1.occursAt, fun q hq hcounts => ?_⟩
    rcases (hoccurs q hq).mp hcounts.occursAt with rfl | rfl
    · decide
    · -- it begins within the first one
      exact absurd ((Text.counts_iff.mp hcounts).2 1 (by decide) hfirst) (by decide)
  obtain ⟨hiff, -⟩ :=
    directory_begins_at_last_anchor_iff "/src/src/src/src/main/m.f90" "src/src" hroot
  have hfound : directory? "/src/src/src/src/main/m.f90" "src/src" = some "src/src/main" := by
    decide +kernel
  rw [← hfound]
  refine ⟨hroot, hiff.mpr fun p hp => ?_⟩
  rwa [hp.unique hlast]

/-- The last anchor of this path begins within the first occurrence of the root,
    so it is passed over and nothing is found. -/
theorem not_begins_at_last_anchor_overlap :
    ¬ BeginsAtLastAnchor "/w/src/src/src/main/m.f90" "src/src"
      (directory? "/w/src/src/src/main/m.f90" "src/src") := by
  intro h
  have hanchor : Anchor "src/src".toList "/w/src/src/src/main/m.f90".toList 7 := by decide +kernel
  have hnone : directory? "/w/src/src/src/main/m.f90" "src/src" = none := by decide +kernel
  obtain ⟨_, _, _, hfound, _⟩ := h.1 ⟨7, hanchor⟩
  rw [hnone] at hfound
  cases hfound

end SourceFile

end ModuleCatalog
