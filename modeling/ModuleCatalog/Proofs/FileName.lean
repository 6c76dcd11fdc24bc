import Mathlib.Data.List.TakeDrop
import Mathlib.Data.List.TakeWhile
import ModuleCatalog.SourceFile

/-! # The name of the source file

    The name of the source file is told from the last segment of the path of
    its tree file: the last mark in it is left out.  The search for the mark
    reads the segment from its end, and the mark cannot overlap itself, so the
    mark that is found is the one behind which there is no other
    (`Text.splitLast_eq_some_iff`).  This makes the parts of the path unique
    (`SourceFile.name_told_from_parts`). -/

namespace ModuleCatalog

namespace Text

variable {mark text before behind : List Char} {m c : Char}

/-! ## The first occurrence of a mark -/

/-- The parts of a text around the first place where a mark occurs. -/
structure FirstSplit (mark text before behind : List Char) : Prop where
  eq_append : text = before ++ mark ++ behind
  /-- No occurrence begins further to the left. -/
  first : ∀ before' behind', text = before' ++ mark ++ behind' → before.length ≤ before'.length

theorem FirstSplit.at_beginning (mark behind : List Char) :
    FirstSplit mark (mark ++ behind) [] behind where
  eq_append := rfl
  first _ _ _ := Nat.zero_le _

/-- Where the mark stands at the beginning, nothing is ahead of it. -/
theorem FirstSplit.before_eq_nil (h : FirstSplit mark text before behind) (hmark : mark <+: text) :
    before = [] := by
  obtain ⟨rest, hrest⟩ := hmark
  have := h.first [] rest hrest.symm
  exact List.length_eq_zero_iff.mp (Nat.le_zero.mp this)

/-- A character where no mark begins belongs to the part ahead of it. -/
theorem firstSplit_cons_iff (hmark : ¬ mark <+: c :: text) :
    FirstSplit mark (c :: text) before behind ↔
      ∃ before', before = c :: before' ∧ FirstSplit mark text before' behind := by
  constructor
  · intro h
    obtain ⟨heq, hfirst⟩ := h
    cases before with
    | nil => exact absurd ⟨behind, heq.symm⟩ hmark
    | cons b before =>
      obtain ⟨rfl, htext⟩ := List.cons.inj heq
      refine ⟨before, rfl, htext, fun before' behind' h => ?_⟩
      have := hfirst (c :: before') behind' (by rw [h]; rfl)
      simpa using this
  · intro h
    obtain ⟨before, rfl, rfl, hfirst⟩ := h
    refine ⟨rfl, fun before' behind' h => ?_⟩
    cases before' with
    | nil => exact absurd ⟨behind', h.symm⟩ hmark
    | cons b before' =>
      have := hfirst before' behind' (List.cons.inj h).2
      simpa using this

theorem splitFirstAfter_eq_some_iff {passed : List Char} (hmark : mark ≠ []) :
    splitFirstAfter mark passed text = some (before, behind) ↔
      ∃ between, before = passed.reverse ++ between ∧ FirstSplit mark text between behind := by
  induction text generalizing passed with
  | nil =>
    refine iff_of_false nofun ?_
    intro h
    obtain ⟨between, -, heq, -⟩ := h
    simp [hmark] at heq
  | cons c text ih =>
    rw [splitFirstAfter]
    by_cases hbegins : mark <+: c :: text
    · rw [if_pos (List.isPrefixOf_iff_prefix.mpr hbegins)]
      have hfound : ∀ between, FirstSplit mark (c :: text) between behind ↔
          between = [] ∧ (c :: text).drop mark.length = behind := by
        intro between
        obtain ⟨rest, hrest⟩ := hbegins
        rw [← hrest, List.drop_left]
        constructor
        · intro h
          obtain rfl := h.before_eq_nil ⟨rest, rfl⟩
          exact ⟨rfl, List.append_cancel_left h.eq_append⟩
        · intro h
          obtain ⟨rfl, rfl⟩ := h
          exact .at_beginning mark rest
      simp only [hfound, Option.some.injEq, Prod.mk.injEq]
      constructor
      · intro h
        obtain ⟨rfl, hbehind⟩ := h
        exact ⟨[], by simp, rfl, hbehind⟩
      · intro h
        obtain ⟨_, rfl, rfl, hbehind⟩ := h
        exact ⟨by simp, hbehind⟩
    · rw [if_neg (by rwa [List.isPrefixOf_iff_prefix]), ih]
      simp only [firstSplit_cons_iff hbegins]
      -- what was passed grows by the character that the part in between loses
      constructor
      · intro h
        obtain ⟨between, rfl, hfirst⟩ := h
        exact ⟨c :: between, by simp, between, rfl, hfirst⟩
      · intro h
        obtain ⟨_, rfl, between, rfl, hfirst⟩ := h
        exact ⟨between, by simp, hfirst⟩

theorem splitFirst_eq_some_iff (hmark : mark ≠ []) :
    splitFirst mark text = some (before, behind) ↔ FirstSplit mark text before behind := by
  rw [splitFirst, splitFirstAfter_eq_some_iff hmark]
  simp

/-! ## The last occurrence of a mark -/

/-- A mark whose first character occurs only once in it cannot overlap itself:
    of two occurrences the later one begins behind the earlier one. -/
theorem infix_of_length_lt {before' behind' : List Char} (hm : m ∉ mark)
    (h : before ++ (m :: mark) ++ behind = before' ++ (m :: mark) ++ behind')
    (hlength : before.length < before'.length) : (m :: mark) <:+: behind := by
  rw [List.append_assoc, List.append_assoc, List.append_eq_append_iff] at h
  rcases h with ⟨between, rfl, h⟩ | ⟨between, rfl, -⟩
  · rw [List.append_eq_append_iff] at h
    rcases h with ⟨between', rfl, h⟩ | ⟨inside, hmark, h⟩
    · exact ⟨between', behind', by rw [h, List.append_assoc]⟩
    · -- the later one would begin at some character of the earlier one
      cases between with
      | nil => simp at hlength
      | cons b between =>
        cases inside with
        | nil => exact ⟨[], behind', by simpa using h⟩
        | cons i inside =>
          obtain ⟨rfl, -⟩ := List.cons.inj h
          have hinside : mark = between ++ m :: inside := (List.cons.inj hmark).2
          exact absurd (by simp [hinside]) hm
  · rw [List.length_append] at hlength
    omega

/-- The mark is found behind which there is no other. -/
theorem splitLast_eq_some_iff (hm : m ∉ mark) :
    splitLast (m :: mark) text = some (before, behind) ↔
      text = before ++ (m :: mark) ++ behind ∧ ¬ (m :: mark) <:+: behind := by
  have hreverse : splitLast (m :: mark) text = some (before, behind) ↔
      FirstSplit (m :: mark).reverse text.reverse behind.reverse before.reverse := by
    rw [← splitFirst_eq_some_iff (by simp), splitLast, Option.map_eq_some_iff]
    constructor
    · intro h
      obtain ⟨⟨after, ahead⟩, hsplit, heq⟩ := h
      cases heq
      simpa using hsplit
    · intro hsplit
      exact ⟨_, hsplit, by simp⟩
  rw [hreverse]
  constructor
  · intro h
    obtain ⟨heq, hfirst⟩ := h
    refine ⟨by simpa using congrArg List.reverse heq, ?_⟩
    intro h
    obtain ⟨before', behind', h⟩ := h
    -- an occurrence behind this one would be met first from the end
    have := hfirst behind'.reverse (before ++ (m :: mark) ++ before').reverse (by
      rw [heq, ← h]
      simp)
    simp only [← h, List.length_reverse, List.length_append, List.length_cons] at this
    omega
  · intro h
    obtain ⟨rfl, hlast⟩ := h
    refine ⟨by simp, fun behind' before' h => ?_⟩
    have h : before ++ (m :: mark) ++ behind =
        before'.reverse ++ (m :: mark) ++ behind'.reverse := by
      simpa using congrArg List.reverse h
    have hlength := congrArg List.length h
    by_contra hlater
    refine hlast (infix_of_length_lt hm h ?_)
    simp only [List.length_append, List.length_reverse] at hlength hlater ⊢
    omega

/-! ## The last segment of a path -/

/-- A text read up to the first `m`: none stands in the part that was read, and
    what is left begins with one unless nothing is left. -/
theorem span_ne_eq_iff {rest : List Char} :
    text.span (· ≠ m) = (before, rest) ↔
      text = before ++ rest ∧ m ∉ before ∧ (rest = [] ∨ ∃ behind, rest = m :: behind) := by
  rw [List.span_eq_takeWhile_dropWhile, Prod.mk.injEq]
  constructor
  · intro h
    obtain ⟨rfl, rfl⟩ := h
    refine ⟨List.takeWhile_append_dropWhile.symm, ?_, ?_⟩
    · intro hm
      have := List.mem_takeWhile_imp hm
      simp at this
    · cases hrest : text.dropWhile (· ≠ m) with
      | nil => exact .inl rfl
      | cons c behind =>
        have hfirst := List.head?_dropWhile_not (· ≠ m) text
        rw [hrest] at hfirst
        have hc : c = m := by simpa using hfirst
        exact .inr ⟨behind, by rw [hc]⟩
  · intro h
    obtain ⟨rfl, hbefore, hrest⟩ := h
    have hread : ∀ c ∈ before, decide (c ≠ m) = true := by
      intro c hc
      have hne : c ≠ m := fun e => hbefore (e ▸ hc)
      exact decide_eq_true hne
    rw [List.takeWhile_append_of_pos hread, List.dropWhile_append_of_pos hread]
    rcases hrest with rfl | ⟨behind, rfl⟩
    · simp
    · simp

/-- A part of a path that a segment may follow: nothing, or a text that ends
    with `/`. -/
def IsDirectories (directories : List Char) : Prop :=
  directories = [] ∨ ∃ parents, directories = parents ++ ['/']

theorem isDirectories_reverse_iff {directories : List Char} :
    IsDirectories directories.reverse ↔
      directories = [] ∨ ∃ parents, directories = '/' :: parents := by
  rw [IsDirectories, List.reverse_eq_nil_iff]
  refine or_congr_right ⟨?_, ?_⟩
  · intro h
    obtain ⟨parents, hparents⟩ := h
    exact ⟨parents.reverse, by simpa using congrArg List.reverse hparents⟩
  · intro h
    obtain ⟨parents, rfl⟩ := h
    exact ⟨parents.reverse, by simp⟩

theorem lastSegment_eq (path : List Char) :
    lastSegment path = (path.reverse.span (· ≠ '/')).1.reverse := by
  rw [lastSegment, List.span_eq_takeWhile_dropWhile]

theorem lastSegment_append {directories segment : List Char}
    (hdirectories : IsDirectories directories) (hsegment : '/' ∉ segment) :
    lastSegment (directories ++ segment) = segment := by
  rw [← List.reverse_reverse directories, isDirectories_reverse_iff] at hdirectories
  have hspan : (directories ++ segment).reverse.span (· ≠ '/') =
      (segment.reverse, directories.reverse) :=
    span_ne_eq_iff.mpr ⟨List.reverse_append, by simpa using hsegment, hdirectories⟩
  rw [lastSegment_eq, hspan, List.reverse_reverse]

/-- Every path is made of directories and a last segment. -/
theorem exists_directories (path : List Char) :
    ∃ directories, path = directories ++ lastSegment path ∧ IsDirectories directories ∧
      '/' ∉ lastSegment path := by
  cases hspan : path.reverse.span (· ≠ '/') with
  | mk segment directories =>
    obtain ⟨hpath, hplain, hdirectories⟩ := span_ne_eq_iff.mp hspan
    have hlast : lastSegment path = segment.reverse := by rw [lastSegment_eq, hspan]
    refine ⟨directories.reverse, ?_, isDirectories_reverse_iff.mpr hdirectories, ?_⟩
    · rw [hlast, ← List.reverse_append, ← hpath, List.reverse_reverse]
    · rw [hlast]
      simpa using hplain

end Text

namespace SourceFile

variable {path directories stem extension : String}

/-! ## The parts of a path -/

/-- The parts of the path of a tree file: the directories, and in the last
    segment a stem and an extension with the mark between them. -/
structure Parts (path directories stem extension : String) : Prop where
  eq_append : path = directories ++ stem ++ "_processed." ++ extension
  isDirectories : Text.IsDirectories directories.toList
  stem_plain : '/' ∉ stem.toList
  extension_plain : '/' ∉ extension.toList
  /-- No other mark stands behind this one. -/
  unmarked : ¬ "_processed.".toList <:+: extension.toList

theorem not_mem_mark : '_' ∉ "processed.".toList := by decide

theorem processedMark_eq : processedMark = '_' :: "processed.".toList := by decide

theorem toList_append_mark (directories stem extension : String) :
    (directories ++ stem ++ "_processed." ++ extension).toList =
      directories.toList ++ (stem.toList ++ processedMark ++ extension.toList) := by
  rw [String.toList_append, String.toList_append, String.toList_append, List.append_assoc,
    List.append_assoc, List.append_assoc]
  rfl

/-- The last segment of a path that has parts. -/
theorem Parts.lastSegment_eq (h : Parts path directories stem extension) :
    Text.lastSegment path.toList = stem.toList ++ processedMark ++ extension.toList := by
  have hslash : '/' ∉ stem.toList ++ processedMark ++ extension.toList := by
    have hmark : '/' ∉ processedMark := by decide
    simp [h.stem_plain, h.extension_plain, hmark]
  rw [h.eq_append, toList_append_mark, Text.lastSegment_append h.isDirectories hslash]

/-- A path has parts with some stem and extension exactly when these stand
    around the mark that is found. -/
theorem exists_parts_iff :
    (∃ directories, Parts path directories stem extension) ↔
      Text.splitLast processedMark (Text.lastSegment path.toList) =
        some (stem.toList, extension.toList) := by
  rw [processedMark_eq, Text.splitLast_eq_some_iff not_mem_mark, ← processedMark_eq]
  constructor
  · intro h
    obtain ⟨directories, h⟩ := h
    exact ⟨h.lastSegment_eq, h.unmarked⟩
  · intro h
    obtain ⟨hsegment, hunmarked⟩ := h
    obtain ⟨directories, hpath, hdirectories, hslash⟩ := Text.exists_directories path.toList
    rw [hsegment] at hpath hslash
    simp only [List.mem_append, not_or] at hslash
    refine ⟨String.ofList directories, ?_, ?_, hslash.1.1, hslash.2, hunmarked⟩
    · rw [← String.toList_inj, toList_append_mark, String.toList_ofList, hpath]
    · rwa [String.toList_ofList]

/-- A path has only one set of parts. -/
theorem Parts.unique {directories' stem' extension' : String}
    (h : Parts path directories stem extension) (h' : Parts path directories' stem' extension') :
    directories = directories' ∧ stem = stem' ∧ extension = extension' := by
  have hsplit := exists_parts_iff.mp ⟨_, h⟩
  rw [exists_parts_iff.mp ⟨_, h'⟩, Option.some.injEq, Prod.mk.injEq, String.toList_inj,
    String.toList_inj] at hsplit
  obtain ⟨rfl, rfl⟩ := hsplit
  -- what is left in front of the same segment is the same
  have hpath := h.eq_append.symm.trans h'.eq_append
  simp only [String.append_assoc] at hpath
  exact ⟨String.append_left_inj _ |>.mp hpath, rfl, rfl⟩

/-- The name of the source file is that of the tree file without its last mark,
    and only a path with such a mark in its last segment has one.  The parts of
    a path are unique, and the directories among them make no difference. -/
theorem name_told_from_parts (path : String) :
    (∀ file, name? path = some file ↔ ∃ directories stem extension,
      Parts path directories stem extension ∧ file = stem ++ "." ++ extension) ∧
    (∀ directories stem extension directories' stem' extension',
      Parts path directories stem extension → Parts path directories' stem' extension' →
        directories = directories' ∧ stem = stem' ∧ extension = extension') ∧
    ∀ directories segment, path = directories ++ segment →
      Text.IsDirectories directories.toList → '/' ∉ segment.toList →
        name? path = name? segment := by
  refine ⟨fun file => ?_, fun _ _ _ _ _ _ h h' => h.unique h', ?_⟩
  · rw [name?, Option.map_eq_some_iff]
    constructor
    · intro h
      obtain ⟨⟨stem, extension⟩, hsplit, rfl⟩ := h
      rw [← String.toList_ofList (l := stem), ← String.toList_ofList (l := extension)] at hsplit
      obtain ⟨directories, hparts⟩ := exists_parts_iff.mpr hsplit
      refine ⟨directories, _, _, hparts, ?_⟩
      rw [← String.toList_inj]
      simp
    · intro h
      obtain ⟨directories, stem, extension, hparts, rfl⟩ := h
      refine ⟨_, exists_parts_iff.mp ⟨directories, hparts⟩, ?_⟩
      rw [← String.toList_inj]
      simp
  · rintro directories segment rfl hdirectories hsegment
    have hwhole : Text.lastSegment (directories ++ segment).toList = segment.toList := by
      rw [String.toList_append, Text.lastSegment_append hdirectories hsegment]
    have halone : Text.lastSegment segment.toList = segment.toList :=
      Text.lastSegment_append (.inl rfl) hsegment
    rw [name?, name?, hwhole, halone]

/-- Marks in the directories and earlier marks of the segment stay. -/
theorem name_told_from_parts_sampleFile :
    name? "a_processed.d/é_processed._processed.f90" = some "é_processed..f90" ∧
      name? "a_processed.d/é_processed._processed.f90" =
        name? "é_processed._processed.f90" := by
  obtain ⟨htold, -, hsame⟩ :=
    name_told_from_parts "a_processed.d/é_processed._processed.f90"
  have hparts : Parts "a_processed.d/é_processed._processed.f90" "a_processed.d/" "é_processed."
      "f90" := by
    refine ⟨?_, .inr ⟨"a_processed.d".toList, ?_⟩, ?_, ?_, ?_⟩
    all_goals decide +kernel
  refine ⟨(htold _).mpr ⟨_, _, _, hparts, by decide +kernel⟩, ?_⟩
  exact hsame "a_processed.d/" _ (by decide +kernel) hparts.isDirectories (by decide +kernel)

end SourceFile

end ModuleCatalog
