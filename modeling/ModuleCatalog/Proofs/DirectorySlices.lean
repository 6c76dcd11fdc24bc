import Mathlib.Data.List.Forall2
import ModuleCatalog.Proofs.ProjectDirectory

/-! # Cutting the directory out of its path

    Texts are stored as bytes, and the directory of a file is a slice of its
    path between two byte offsets.  A slice has to begin and end between two
    characters of the text, or there is none (`Text.slice`).

    Here the search for the directory is written down with offsets alone: those
    at which the root occurs, the one behind the root and its `/`, the one
    behind the character after that, and the one of the last `/` that a word
    character follows.  No cut that this search makes goes wrong, whatever the
    path and the root are, and it finds what `SourceFile.directory?` finds
    (`SourceFile.directoryBySlices_eq`). -/

namespace ModuleCatalog

namespace Text

/-! ## Slices -/

/-- Why a text has no slice between two offsets. -/
inductive SliceFault where
  /-- The offset lies behind the end of the text. -/
  | outside (offset : Nat)
  /-- The offset lies inside a character. -/
  | insideCharacter (offset : Nat)
  /-- The slice would end ahead of its beginning. -/
  | backwards (start stop : Nat)
deriving DecidableEq, Repr

/-- The place between two characters of a text that a byte offset stands for. -/
def boundary (text : String) (offset : Nat) : Except SliceFault text.Pos :=
  if h : (⟨offset⟩ : String.Pos.Raw).IsValid text then .ok (text.pos ⟨offset⟩ h)
  else if text.utf8ByteSize < offset then .error (.outside offset)
  else .error (.insideCharacter offset)

/-- The part of a text from one byte offset up to another one. -/
def slice (text : String) (start stop : Nat) : Except SliceFault String := do
  let first ← boundary text start
  let last ← boundary text stop
  if stop < start then throw (.backwards start stop)
  return text.extract first last

/-- The part of a text from a byte offset on. -/
def sliceFrom (text : String) (start : Nat) : Except SliceFault String :=
  slice text start text.utf8ByteSize

/-- The number of bytes that some characters take. -/
def byteSize (text : List Char) : Nat := (String.ofList text).utf8ByteSize

@[simp] theorem byteSize_nil : byteSize [] = 0 := rfl

@[simp] theorem byteSize_cons (c : Char) (text : List Char) :
    byteSize (c :: text) = c.utf8Size + byteSize text := by
  simp [byteSize, String.utf8ByteSize_append]

@[simp] theorem byteSize_append (before behind : List Char) :
    byteSize (before ++ behind) = byteSize before + byteSize behind := by
  simp [byteSize, String.utf8ByteSize_append]

@[simp] theorem utf8Size_slash : '/'.utf8Size = 1 := rfl

@[simp] theorem utf8ByteSize_slash : "/".utf8ByteSize = 1 := rfl

@[simp] theorem byteSize_toList (text : String) : byteSize text.toList = text.utf8ByteSize := by
  rw [byteSize, String.ofList_toList]

variable {text : String} {before middle behind : List Char}

/-- A text splits behind each of its beginnings. -/
theorem exists_boundary (h : text.toList = before ++ behind) :
    ∃ place, boundary text (byteSize before) = .ok place ∧
      place.Splits (String.ofList before) (String.ofList behind) := by
  have htext : text = String.ofList before ++ String.ofList behind := by
    rw [← String.ofList_append, ← h, String.ofList_toList]
  have hvalid : (⟨byteSize before⟩ : String.Pos.Raw).IsValid text :=
    String.Pos.Raw.isValid_iff_exists_append.mpr ⟨_, _, htext, rfl⟩
  exact ⟨_, dif_pos hvalid, htext, rfl⟩

/-- A text has a slice between the sizes of two of its beginnings. -/
theorem slice_eq_ok (h : text.toList = before ++ middle ++ behind) :
    slice text (byteSize before) (byteSize (before ++ middle)) = .ok (String.ofList middle) := by
  obtain ⟨first, hfirst, hsplits⟩ := exists_boundary (h.trans (List.append_assoc ..))
  obtain ⟨last, hlast, hsplits'⟩ := exists_boundary h
  rw [String.ofList_append] at hsplits hsplits'
  obtain ⟨hle, hcopy⟩ := String.copy_slice_eq_iff_splits.mpr ⟨_, _, hsplits, hsplits'⟩
  have hextract : text.extract first last = String.ofList middle := by
    rw [String.extract_eq_copy_slice first last hle, hcopy]
  have horder : ¬ byteSize (before ++ middle) < byteSize before := by
    rw [byteSize_append]
    omega
  simp only [slice, hfirst, hlast, bind, Except.bind]
  rw [if_neg horder, hextract]
  rfl

theorem sliceFrom_eq_ok (h : text.toList = before ++ behind) :
    sliceFrom text (byteSize before) = .ok (String.ofList behind) := by
  have hsize : text.utf8ByteSize = byteSize (before ++ behind) := by
    rw [← h, byteSize_toList]
  have hsplit : text.toList = before ++ behind ++ [] := by rw [h, List.append_nil]
  rw [sliceFrom, hsize]
  exact slice_eq_ok hsplit

/-! ## Offsets -/

/-- The characters of a text that begins at an offset, each with its own
    offset. -/
def charOffsets (offset : Nat) : List Char → List (Nat × Char)
  | [] => []
  | c :: rest => (offset, c) :: charOffsets (offset + c.utf8Size) rest

/-- The offsets at which `mark` occurs in a text that begins at `offset`.  An
    occurrence that begins within the one before it does not count: `skip`
    characters are still part of the last occurrence. -/
def occurrencesFrom (mark : List Char) (offset skip : Nat) : List Char → List Nat
  | [] => []
  | c :: rest =>
    if 0 < skip then occurrencesFrom mark (offset + c.utf8Size) (skip - 1) rest
    else if mark.isPrefixOf (c :: rest) then
      offset :: occurrencesFrom mark (offset + c.utf8Size) (mark.length - 1) rest
    else occurrencesFrom mark (offset + c.utf8Size) 0 rest

/-- The offsets at which `mark` occurs in a text, first one first.  Occurrences
    are counted from the left and do not overlap. -/
def occurrences (mark text : String) : List Nat := occurrencesFrom mark.toList 0 0 text.toList

/-- At an offset of a text stands `mark`, and `behind` follows it. -/
def StandsAt (mark text : List Char) (offset : Nat) (behind : List Char) : Prop :=
  ∃ before, text = before ++ mark ++ behind ∧ offset = byteSize before

/-- Reading the rest of a text finds the offsets of a mark in step with what
    follows it. -/
theorem forall₂_occurrencesFrom {mark text passed rest : List Char} {skip : Nat}
    {offsets : List Nat} {found : List (List Char)} (htext : text = passed ++ rest)
    (hfound : List.Forall₂ (StandsAt mark text) offsets found) :
    List.Forall₂ (StandsAt mark text)
      ((occurrencesFrom mark (byteSize passed) skip rest).reverse ++ offsets)
      (followersAfter mark found skip rest) := by
  induction rest generalizing passed skip offsets found with
  | nil => exact hfound
  | cons c rest ih =>
    have hshift : text = (passed ++ [c]) ++ rest := by simp [htext]
    have hoffset : byteSize passed + c.utf8Size = byteSize (passed ++ [c]) := by simp
    rw [occurrencesFrom, followersAfter, hoffset]
    by_cases hskip : 0 < skip
    · rw [if_pos hskip, if_pos hskip]
      exact ih hshift hfound
    · rw [if_neg hskip, if_neg hskip]
      by_cases hbegins : mark.isPrefixOf (c :: rest) = true
      · rw [if_pos hbegins, if_pos hbegins, List.reverse_cons, List.append_assoc]
        refine ih hshift (.cons ?_ hfound)
        obtain ⟨behind, hbehind⟩ := List.isPrefixOf_iff_prefix.mp hbegins
        refine ⟨passed, ?_, rfl⟩
        rw [htext, ← hbehind, List.drop_left, List.append_assoc]
      · rw [if_neg hbegins, if_neg hbegins]
        exact ih hshift hfound

theorem forall₂_occurrences (mark text : String) :
    List.Forall₂ (StandsAt mark.toList text.toList) (occurrences mark text).reverse
      (followers mark.toList text.toList) := by
  have h : List.Forall₂ (StandsAt mark.toList text.toList)
      ((occurrences mark text).reverse ++ []) (followers mark.toList text.toList) :=
    forall₂_occurrencesFrom (List.nil_append text.toList).symm .nil
  rwa [List.append_nil] at h

/-- Two searches, through lists that go in step, find the same if they make the
    same of items that belong together. -/
theorem findSomeM?_eq_ok {α β γ ε : Type} {R : α → β → Prop} {f : α → Except ε (Option γ)}
    {g : β → Option γ} {as : List α} {bs : List β} (h : List.Forall₂ R as bs)
    (hsame : ∀ a b, R a b → f a = .ok (g b)) : as.findSomeM? f = .ok (bs.findSome? g) := by
  induction h with
  | nil => rfl
  | @cons a b as bs hab _ ih =>
    rw [List.findSomeM?_cons, hsame a b hab, List.findSome?_cons]
    cases g b with
    | none => exact ih
    | some c => rfl

end Text

namespace SourceFile

/-! ## The search by offsets -/

/-- Look at one character of a text with its offset: the offset is kept if a `/`
    stands there and a word character follows. -/
def noteSlash (text : String) (best : Option Nat) (place : Nat × Char) :
    Except Text.SliceFault (Option Nat) :=
  if place.2 = '/' then do
    let behind ← Text.sliceFrom text (place.1 + 1)
    return if beginsWord behind.toList then some place.1 else best
  else return best

/-- The offset of the last `/` of a text that a word character follows. -/
def lastSlash (text : String) : Except Text.SliceFault (Option Nat) :=
  (Text.charOffsets 0 text.toList).foldlM (noteSlash text) none

/-- The directory that begins at an offset where the root and a `/` stand. -/
def directorySlice (path root : String) (start : Nat) :
    Except Text.SliceFault (Option String) := do
  let after := start + (root ++ "/").utf8ByteSize
  match (← Text.sliceFrom path after).toList with
  | [] => return none
  | first :: _ =>
    if first ∈ root.toList then return none
    let body := after + first.utf8Size
    match ← lastSlash (← Text.sliceFrom path body) with
    | none => return none
    | some slash => return some (← Text.slice path start (body + slash))

/-- The directory of a file within the project, by offsets alone: the last
    occurrence of the root from which one can be cut out tells it. -/
def directoryBySlices (path root : String) : Except Text.SliceFault (Option String) :=
  if root.isEmpty then return none
  else (Text.occurrences (root ++ "/") path).reverse.findSomeM? (directorySlice path root)

variable {path root : String} {before behind passed rest : List Char} {c : Char}

/-- A word further to the right is a word of what stands behind. -/
theorem HasWord.of_length_lt {text before before' behind behind' : List Char} {w w' : Char}
    (h : text = before ++ '/' :: w :: behind) (h' : text = before' ++ '/' :: w' :: behind')
    (hw' : Text.isWordCharacter w' = true) (hlength : before.length < before'.length) :
    HasWord (w :: behind) := by
  rw [h, List.append_eq_append_iff] at h'
  rcases h' with ⟨between, rfl, h'⟩ | ⟨between, rfl, -⟩
  · cases between with
    | nil => simp at hlength
    | cons b between => exact ⟨between, w', behind', (List.cons.inj h').2, hw'⟩
  · rw [List.length_append] at hlength
    omega

/-! ## No cut goes wrong -/

theorem noteSlash_eq_ok {text : String} (h : text.toList = passed ++ c :: rest)
    (best : Option Nat) :
    noteSlash text best (Text.byteSize passed, c) =
      .ok (if c = '/' && beginsWord rest then some (Text.byteSize passed) else best) := by
  unfold noteSlash
  by_cases hslash : c = '/'
  · subst hslash
    have hbehind : Text.sliceFrom text (Text.byteSize passed + 1) = .ok (String.ofList rest) := by
      have hsize : Text.byteSize passed + 1 = Text.byteSize (passed ++ ['/']) := by simp
      rw [hsize]
      exact Text.sliceFrom_eq_ok (by rw [h, List.append_assoc]; rfl)
    simp only [if_true, hbehind, bind, Except.bind, String.toList_ofList, decide_true,
      Bool.true_and]
    rfl
  · simp only [hslash, if_false, decide_false, Bool.false_and, Bool.false_eq_true]
    rfl

/-- Going through the rest of a text by offsets keeps in step with reading
    it. -/
theorem foldlM_noteSlash {text : String} (h : text.toList = passed.reverse ++ rest)
    (best : Option (List Char)) :
    (Text.charOffsets (Text.byteSize passed.reverse) rest).foldlM (noteSlash text)
        (best.map fun found => Text.byteSize found.reverse) =
      .ok ((beforeLastWordFrom passed best rest).map Text.byteSize) := by
  induction rest generalizing passed best with
  | nil => cases best <;> rfl
  | cons c rest ih =>
    have hshift : text.toList = (c :: passed).reverse ++ rest := by simp [h]
    have hoffset : Text.byteSize passed.reverse + c.utf8Size =
        Text.byteSize (c :: passed).reverse := by simp
    rw [Text.charOffsets, List.foldlM_cons, noteSlash_eq_ok h, hoffset, beforeLastWordFrom]
    rw [← ih hshift]
    simp only [bind, Except.bind]
    split <;> rfl

theorem lastSlash_eq_ok (text : String) :
    lastSlash text = .ok ((beforeLastWord? text.toList).map Text.byteSize) := by
  have h : text.toList = ([] : List Char).reverse ++ text.toList := rfl
  exact foldlM_noteSlash h none

/-- What is cut out at an occurrence of the root is the directory that begins
    there. -/
theorem directorySlice_eq_ok (h : path.toList = before ++ (root.toList ++ ['/']) ++ behind) :
    directorySlice path root (Text.byteSize before) =
      .ok ((directoryAfter? root.toList behind).map String.ofList) := by
  have hafter : Text.byteSize before + (root ++ "/").utf8ByteSize =
      Text.byteSize (before ++ (root.toList ++ ['/'])) := by
    simp [String.utf8ByteSize_append]
  have hbehind := Text.sliceFrom_eq_ok h
  unfold directorySlice
  simp only [hafter, hbehind, bind, Except.bind, String.toList_ofList]
  cases behind with
  | nil => rfl
  | cons c rest =>
    simp only [directoryAfter?]
    by_cases hc : c ∈ root.toList
    · rw [if_pos hc, if_pos hc]
      rfl
    · rw [if_neg hc, if_neg hc]
      have hpath : path.toList = (before ++ (root.toList ++ ['/']) ++ [c]) ++ rest := by
        rw [h, List.append_assoc (_ ++ _) [c] rest]
        rfl
      have hbody : Text.byteSize (before ++ (root.toList ++ ['/'])) + c.utf8Size =
          Text.byteSize (before ++ (root.toList ++ ['/']) ++ [c]) := by
        simp [Nat.add_assoc]
      simp only [hbody, Text.sliceFrom_eq_ok hpath, lastSlash_eq_ok, String.toList_ofList]
      cases hword : beforeLastWord? rest with
      | none => rfl
      | some middle =>
        obtain ⟨w, behind, hrest, -, -⟩ := beforeLastWord?_eq_some_iff.mp hword
        -- the slice ends where the last word begins
        have hsplit : path.toList =
            before ++ (root.toList ++ '/' :: c :: middle) ++ '/' :: w :: behind := by
          rw [hpath, hrest]
          simp
        have hend :
            Text.byteSize (before ++ (root.toList ++ ['/']) ++ [c]) + Text.byteSize middle =
              Text.byteSize (before ++ (root.toList ++ '/' :: c :: middle)) := by
          simp
          omega
        simp only [Option.map_some, hend, Text.slice_eq_ok hsplit]
        rfl

/-- The search by offsets never cuts where it must not, and finds the directory
    of the file. -/
theorem directoryBySlices_eq (path root : String) :
    directoryBySlices path root = .ok (directory? path root) := by
  unfold directoryBySlices directory?
  by_cases hroot : root.isEmpty = true
  · rw [if_pos hroot, if_pos hroot]
    rfl
  · rw [if_neg hroot, if_neg hroot]
    have hsteps := Text.forall₂_occurrences (root ++ "/") path
    have hmark : (root ++ "/").toList = root.toList ++ ['/'] := String.toList_append
    rw [hmark] at hsteps
    rw [Text.findSomeM?_eq_ok hsteps (g := fun behind =>
      (directoryAfter? root.toList behind).map String.ofList)]
    · rw [List.map_findSome?]
      rfl
    · rintro _ behind ⟨before, hpath, rfl⟩
      exact directorySlice_eq_ok hpath

/-- The search by offsets goes wrong nowhere: whatever the path and the root
    are, all its cuts lie between characters of the path, and it comes to what
    is found without offsets.  What is found stands in the path as a whole: it
    is made of the root, a `/`, a character that does not occur in the root and
    some rest, and behind it follows the last `/` of the path that has a word
    character behind it. -/
theorem directory_cut_out_of_path (path root : String) :
    directoryBySlices path root = .ok (directory? path root) ∧
    ∀ directory, directory? path root = some directory →
      root ≠ "" ∧ ∃ before c middle w behind,
        path.toList = before ++ directory.toList ++ '/' :: w :: behind ∧
        directory.toList = root.toList ++ '/' :: c :: middle ∧ c ∉ root.toList ∧
        Text.isWordCharacter w = true ∧
        ∀ before' w' behind', path.toList = before' ++ '/' :: w' :: behind' →
          Text.isWordCharacter w' = true →
            before'.length ≤ (before ++ directory.toList).length := by
  refine ⟨directoryBySlices_eq path root, fun directory hfound => ?_⟩
  have hroot : root ≠ "" := by
    rintro rfl
    cases hfound
  obtain ⟨p, -, hat, -⟩ := (directory?_eq_some_iff hroot).mp hfound
  obtain ⟨w, behind, hpath, hw, hlast⟩ := hat.beforeLastWord
  obtain ⟨c, _, middle, -, hc, -, hdirectory⟩ := hat
  refine ⟨hroot, _, c, middle, w, behind, hpath, hdirectory, hc, hw, ?_⟩
  intro before' w' behind' hpath' hw'
  by_contra hlater
  -- a `/` further to the right would stand behind the word that was taken for the last one
  refine hlast (HasWord.of_length_lt hpath hpath' hw' ?_)
  omega

/-- Letters of one, two and three bytes stand in the root, ahead of it and
    behind it. -/
theorem directory_cut_out_of_path_sampleTrees :
    directoryBySlices "/ü/dé/xylem/木_1/é.f90" "dé" = .ok (some "dé/xylem/木_1") ∧
      ∃ before c middle w behind,
        "/ü/dé/xylem/木_1/é.f90".toList = before ++ "dé/xylem/木_1".toList ++ '/' :: w :: behind ∧
        "dé/xylem/木_1".toList = "dé".toList ++ '/' :: c :: middle ∧ c ∉ "dé".toList ∧
        Text.isWordCharacter w = true := by
  have hfound : directory? "/ü/dé/xylem/木_1/é.f90" "dé" = some "dé/xylem/木_1" := by
    decide +kernel
  obtain ⟨hslices, hparts⟩ := directory_cut_out_of_path "/ü/dé/xylem/木_1/é.f90" "dé"
  obtain ⟨-, before, c, middle, w, behind, hpath, hdirectory, hc, hw, -⟩ := hparts _ hfound
  exact ⟨hslices.trans (congrArg _ hfound), before, c, middle, w, behind, hpath, hdirectory, hc, hw⟩

end SourceFile

end ModuleCatalog
