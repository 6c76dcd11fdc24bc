import Mathlib.Logic.Relation
import ModuleCatalog.Encoding
import ModuleCatalog.Proofs.FileName
import ModuleCatalog.Proofs.LetterCase

/-! # The extension of a path

    The last name of a path tells whether the file holds JSON.  Behind that
    name there may be separators, and separators with a lone dot.  They are
    taken away one by one (`Encoding.Sheds`) until the path ends with neither,
    and only one path can be left then (`Encoding.TrimsTo.unique`).

    One removal does not change what the search for the last name finds
    (`Encoding.Sheds.dropTrailing_eq`), so no run of them does.  The file holds
    JSON exactly when the name that is found is a stem with the extension `json`
    (`Encoding.ofPath_told_from_last_name`). -/

namespace ModuleCatalog

namespace Encoding

variable {path left directories name stem extension : String}

/-! ## What stands behind the last name -/

/-- One piece is taken from the end of a path: a separator, or a separator with
    a lone dot behind it. -/
inductive Sheds : String → String → Prop where
  | separator (left : String) : Sheds (left ++ "/") left
  | loneDot (left : String) : Sheds (left ++ "/.") left

/-- What is left of a path when no such piece stands at its end any more. -/
structure TrimsTo (path left : String) : Prop where
  run : Relation.ReflTransGen Sheds path left
  trimmed : ∀ rest, ¬ Sheds left rest

theorem reverse_append_separator (left : String) :
    (left ++ "/").toList.reverse = '/' :: left.toList.reverse := by
  simp

theorem reverse_append_loneDot (left : String) :
    (left ++ "/.").toList.reverse = '.' :: '/' :: left.toList.reverse := by
  simp

theorem eq_of_reverse_eq {left' : String} (h : left'.toList.reverse = left.toList.reverse) :
    left' = left :=
  String.toList_inj.mp (List.reverse_injective h)

theorem Sheds.length_lt (h : Sheds path left) : left.length < path.length := by
  cases h with
  | separator left =>
    rw [String.length_append]
    exact Nat.lt_add_of_pos_right (by decide)
  | loneDot left =>
    rw [String.length_append]
    exact Nat.lt_add_of_pos_right (by decide)

/-- The end of the removals is not changed by one of them. -/
theorem Sheds.dropTrailing_eq (h : Sheds path left) :
    dropTrailing path.toList.reverse = dropTrailing left.toList.reverse := by
  cases h with
  | separator => rw [reverse_append_separator, dropTrailing]
  | loneDot => rw [reverse_append_loneDot, dropTrailing, dropTrailing]

/-- Nor is it changed by any number of them. -/
theorem dropTrailing_eq_of_run (h : Relation.ReflTransGen Sheds path left) :
    dropTrailing path.toList.reverse = dropTrailing left.toList.reverse := by
  induction h with
  | refl => rfl
  | tail _ hsheds ih => rw [ih, hsheds.dropTrailing_eq]

theorem eq_append_of_reverse (piece : String) {rest : List Char}
    (h : path.toList.reverse = piece.toList.reverse ++ rest) :
    path = String.ofList rest.reverse ++ piece := by
  rw [← String.toList_inj, String.toList_append, String.toList_ofList,
    ← List.reverse_reverse path.toList, h, List.reverse_append, List.reverse_reverse]

/-- A path that ends with none of the pieces stays as it is. -/
theorem dropTrailing_eq_self (h : ∀ rest, ¬ Sheds left rest) :
    dropTrailing left.toList.reverse = left.toList.reverse := by
  rw [dropTrailing]
  · intro rest hrest
    apply h (String.ofList rest.reverse)
    rw [eq_append_of_reverse "/" hrest]
    exact .separator _
  · intro rest hrest
    apply h (String.ofList rest.reverse)
    rw [eq_append_of_reverse "/." hrest]
    exact .loneDot _

namespace TrimsTo

theorem dropTrailing_eq (h : TrimsTo path left) :
    dropTrailing path.toList.reverse = left.toList.reverse := by
  rw [dropTrailing_eq_of_run h.run, dropTrailing_eq_self h.trimmed]

/-- Whatever is removed first, the same is left in the end. -/
theorem unique {left' : String} (h : TrimsTo path left) (h' : TrimsTo path left') :
    left' = left :=
  eq_of_reverse_eq (h'.dropTrailing_eq.symm.trans h.dropTrailing_eq)

end TrimsTo

/-- The removals come to an end, as each of them makes the path shorter. -/
theorem exists_trimsTo (path : String) : ∃ left, TrimsTo path left := by
  by_cases h : ∃ rest, Sheds path rest
  · obtain ⟨rest, hsheds⟩ := h
    have hshorter := hsheds.length_lt
    obtain ⟨left, hrun, htrimmed⟩ := exists_trimsTo rest
    exact ⟨left, .head hsheds hrun, htrimmed⟩
  · exact ⟨path, .refl, not_exists.mp h⟩
termination_by path.length

/-- What is left is found by reading the path from its end. -/
theorem trimsTo_iff :
    TrimsTo path left ↔ dropTrailing path.toList.reverse = left.toList.reverse := by
  constructor
  · exact TrimsTo.dropTrailing_eq
  · intro h
    obtain ⟨left', hleft'⟩ := exists_trimsTo path
    have hsame : left' = left := eq_of_reverse_eq (hleft'.dropTrailing_eq.symm.trans h)
    rwa [hsame] at hleft'

/-- Pieces that are added to a path can be removed again. -/
theorem run_append_join {ends : List String} (h : ∀ piece ∈ ends, piece = "/" ∨ piece = "/.") :
    Relation.ReflTransGen Sheds (path ++ String.join ends) path := by
  induction ends generalizing path with
  | nil => rw [String.join_nil, String.append_empty]
  | cons piece ends ih =>
    rw [String.join_cons, ← String.append_assoc]
    have hrun : Relation.ReflTransGen Sheds (path ++ piece ++ String.join ends) (path ++ piece) :=
      ih fun later hlater => h later (List.mem_cons_of_mem _ hlater)
    -- the piece that was added first is the last one to be removed
    rcases h piece List.mem_cons_self with rfl | rfl
    · exact hrun.tail (.separator path)
    · exact hrun.tail (.loneDot path)

/-! ## The last name -/

/-- The last name of a path, with the directories in front of it. -/
structure LastName (path directories name : String) : Prop where
  eq_append : path = directories ++ name
  isDirectories : Text.IsDirectories directories.toList
  plain : '/' ∉ name.toList

theorem exists_lastName (path : String) : ∃ directories name, LastName path directories name := by
  obtain ⟨directories, hpath, hdirectories, hplain⟩ := Text.exists_directories path.toList
  refine ⟨String.ofList directories, String.ofList (Text.lastSegment path.toList), ?_, ?_, ?_⟩
  · rw [← String.toList_inj, String.toList_append, String.toList_ofList, String.toList_ofList]
    exact hpath
  · rwa [String.toList_ofList]
  · rwa [String.toList_ofList]

namespace LastName

theorem lastSegment_eq (h : LastName path directories name) :
    Text.lastSegment path.toList = name.toList := by
  rw [h.eq_append, String.toList_append, Text.lastSegment_append h.isDirectories h.plain]

theorem takeWhile_eq (h : LastName path directories name) :
    path.toList.reverse.takeWhile (· ≠ '/') = name.toList.reverse := by
  rw [← h.lastSegment_eq, Text.lastSegment, List.reverse_reverse]

/-- A path has one last name, and the same directories in front of it. -/
theorem unique {directories' name' : String} (h : LastName path directories name)
    (h' : LastName path directories' name') : directories' = directories ∧ name' = name := by
  have hname : name' = name :=
    String.toList_inj.mp (h'.lastSegment_eq.symm.trans h.lastSegment_eq)
  subst hname
  have hpath := h'.eq_append.symm.trans h.eq_append
  exact ⟨String.append_left_inj _ |>.mp hpath, rfl⟩

end LastName

/-! ## Stem and extension -/

/-- A name is a stem, which is not empty, with an extension behind its last dot. -/
structure HasExtension (name stem extension : String) : Prop where
  eq_append : name = stem ++ "." ++ extension
  stem_ne_empty : stem ≠ ""
  undotted : '.' ∉ extension.toList

/-- The name of a file that holds JSON. -/
def NamesJson (name : String) : Prop :=
  ∃ stem extension, HasExtension name stem extension ∧ Text.Respelled extension "json"

/-- Read from its end, a name with an extension has this before its first dot
    and the stem behind it. -/
theorem hasExtension_iff :
    HasExtension name stem extension ↔
      stem.toList.reverse ≠ [] ∧
        name.toList.reverse.span (· ≠ '.') =
          (extension.toList.reverse, '.' :: stem.toList.reverse) := by
  rw [Text.span_ne_eq_iff]
  constructor
  · intro h
    obtain ⟨rfl, hstem, hundotted⟩ := h
    refine ⟨?_, ?_, ?_, .inr ⟨_, rfl⟩⟩
    · simpa using hstem
    · simp
    · simpa using hundotted
  · intro h
    obtain ⟨hstem, hname, hundotted, -⟩ := h
    refine ⟨?_, ?_, ?_⟩
    · have hwhole := congrArg List.reverse hname
      rw [← String.toList_inj]
      simpa using hwhole
    · simpa using hstem
    · simpa using hundotted

/-- Nothing stands behind the last dot of the parent directory. -/
theorem HasExtension.eq_empty_of_parent (h : HasExtension ".." stem extension) :
    extension = "" := by
  obtain ⟨-, hspan⟩ := hasExtension_iff.mp h
  have hparent : "..".toList.reverse.span (· ≠ '.') = ([], ['.', '.']) := by decide
  rw [hparent, Prod.mk.injEq] at hspan
  simpa using hspan.1.symm

/-- The extension that is found is that of the last name.  The parent directory
    is a name that has none. -/
theorem extension?_eq_some_iff (htrims : TrimsTo path left)
    (hname : LastName left directories name) :
    extension? path = some extension.toList ↔
      name ≠ ".." ∧ ∃ stem, HasExtension name stem extension := by
  have hends : (dropTrailing path.toList.reverse).takeWhile (· ≠ '/') = name.toList.reverse := by
    rw [htrims.dropTrailing_eq, hname.takeWhile_eq]
  have hparent : name.toList.reverse = ['.', '.'] ↔ name = ".." := by
    rw [← String.toList_inj, List.reverse_eq_iff]
    rfl
  unfold extension?
  simp only [hends, hparent, hasExtension_iff]
  by_cases hup : name = ".."
  · simp [hup]
  · rw [if_neg hup]
    cases hspan : name.toList.reverse.span (· ≠ '.') with
    | mk before rest =>
      obtain ⟨-, -, rfl | ⟨behind, rfl⟩⟩ := Text.span_ne_eq_iff.mp hspan
      · -- no dot at all
        show none = some _ ↔ _
        simp
      · cases behind with
        | nil =>
          -- the only dot is the first character, so there is no stem
          show none = some _ ↔ _
          refine iff_of_false nofun ?_
          rintro ⟨-, stem, hstem, heq⟩
          rw [Prod.mk.injEq, List.cons_inj_right] at heq
          exact hstem heq.2.symm
        | cons c behind =>
          show some before.reverse = some extension.toList ↔ _
          rw [Option.some_inj, List.reverse_eq_iff]
          constructor
          · rintro rfl
            exact ⟨hup, String.ofList (c :: behind).reverse, by simp⟩
          · rintro ⟨-, stem, -, heq⟩
            exact (Prod.mk.inj heq).1

/-- Respelling `json`, as the search for the extension has it. -/
theorem respelled_json_iff :
    Text.Respelled extension "json" ↔ extension.toList.map Char.toLower = "json".toList := by
  rw [Text.respelled_iff, ← String.toList_inj, Text.toList_toLower, Text.toList_toLower]
  rfl

/-! ## The encoding of a file -/

theorem ofPath_eq_json_iff (htrims : TrimsTo path left) (hname : LastName left directories name) :
    ofPath path = json ↔ NamesJson name := by
  have hfound : ofPath path = json ↔
      ∃ extension, extension? path = some extension ∧
        extension.map Char.toLower = "json".toList := by
    unfold ofPath
    cases extension? path with
    | none => simp
    | some extension => simp
  rw [hfound]
  constructor
  · rintro ⟨extension, hextension, hjson⟩
    rw [← String.toList_ofList (l := extension)] at hextension hjson
    obtain ⟨-, stem, hparts⟩ := (extension?_eq_some_iff htrims hname).mp hextension
    exact ⟨stem, _, hparts, respelled_json_iff.mpr hjson⟩
  · rintro ⟨stem, extension, hparts, hjson⟩
    refine ⟨extension.toList, ?_, respelled_json_iff.mp hjson⟩
    apply (extension?_eq_some_iff htrims hname).mpr
    refine ⟨?_, stem, hparts⟩
    rintro rfl
    rw [hparts.eq_empty_of_parent, respelled_json_iff] at hjson
    exact absurd hjson (by decide)

theorem ofPath_eq_xml_iff : ofPath path = xml ↔ ofPath path ≠ json := by
  cases ofPath path with
  | xml => simp
  | json => simp

/-- Two paths with the same last name are those of files of one encoding. -/
theorem ofPath_congr {path' left' directories' : String} (htrims : TrimsTo path left)
    (hname : LastName left directories name) (htrims' : TrimsTo path' left')
    (hname' : LastName left' directories' name) : ofPath path' = ofPath path := by
  have hjson : ofPath path' = json ↔ ofPath path = json := by
    rw [ofPath_eq_json_iff htrims hname, ofPath_eq_json_iff htrims' hname']
  by_cases h : ofPath path = json
  · rw [h, hjson.mpr h]
  · rw [ofPath_eq_xml_iff.mpr h, ofPath_eq_xml_iff.mpr (mt hjson.mp h)]

/-- A file holds JSON when the last name that is left of its path, after the
    separators and separators with a lone dot at the end have been taken away,
    is a stem with the extension `json` in any letter case, and XML otherwise.
    What is left, the last name and the directories in front of it are told by
    the path alone.  The directories make no difference, nor do any such pieces
    that are added to the path. -/
theorem ofPath_told_from_last_name (path : String) :
    ∃ left directories name,
      (∀ left', TrimsTo path left' ↔ left' = left) ∧
      (∀ directories' name', LastName left directories' name' ↔
        directories' = directories ∧ name' = name) ∧
      (ofPath path = json ↔ NamesJson name) ∧
      (ofPath path = xml ↔ ¬ NamesJson name) ∧
      (∀ path' left' directories', TrimsTo path' left' → LastName left' directories' name →
        ofPath path' = ofPath path) ∧
      ∀ ends : List String, (∀ piece ∈ ends, piece = "/" ∨ piece = "/.") →
        ofPath (path ++ String.join ends) = ofPath path := by
  obtain ⟨left, htrims⟩ := exists_trimsTo path
  obtain ⟨directories, name, hname⟩ := exists_lastName left
  refine ⟨left, directories, name, ?_, ?_, ofPath_eq_json_iff htrims hname, ?_, ?_, ?_⟩
  · intro left'
    constructor
    · exact htrims.unique
    · rintro rfl
      exact htrims
  · intro directories' name'
    constructor
    · exact hname.unique
    · rintro ⟨rfl, rfl⟩
      exact hname
  · rw [ofPath_eq_xml_iff, Ne, ofPath_eq_json_iff htrims hname]
  · intro path' left' directories' htrims' hname'
    exact ofPath_congr htrims hname htrims' hname'
  · intro ends hends
    have hlonger : TrimsTo (path ++ String.join ends) left :=
      ⟨(run_append_join hends).trans htrims.run, htrims.trimmed⟩
    exact ofPath_congr htrims hname hlonger hname

/-- A name with two dots ahead of its stem, in a directory that is named like
    an XML file, and then in none; at last with pieces behind it. -/
theorem ofPath_told_from_last_name_sampleTree :
    ofPath "trees.xml/..é.jSoN" = json ∧
      ofPath "..é.jSoN/./" = ofPath "trees.xml/..é.jSoN" ∧
      ofPath ("trees.xml/..é.jSoN" ++ String.join ["/.", "/", "/"]) =
        ofPath "trees.xml/..é.jSoN" := by
  obtain ⟨left, directories, name, hleft, hlast, hjson, -, hsame, hends⟩ :=
    ofPath_told_from_last_name "trees.xml/..é.jSoN"
  obtain rfl : "trees.xml/..é.jSoN" = left := (hleft _).mp (trimsTo_iff.mpr (by decide +kernel))
  have hname : LastName "trees.xml/..é.jSoN" "trees.xml/" "..é.jSoN" := by
    refine ⟨?_, .inr ⟨"trees.xml".toList, ?_⟩, ?_⟩
    all_goals decide +kernel
  obtain ⟨rfl, rfl⟩ := (hlast _ _).mp hname
  have hextension : HasExtension "..é.jSoN" "..é" "jSoN" := by
    refine ⟨?_, ?_, ?_⟩
    all_goals decide +kernel
  have hother : TrimsTo "..é.jSoN/./" "..é.jSoN" := trimsTo_iff.mpr (by decide +kernel)
  refine ⟨hjson.mpr ⟨_, _, hextension, by decide +kernel⟩, ?_, ?_⟩
  · exact hsame _ _ "" hother ⟨by decide +kernel, .inl rfl, by decide +kernel⟩
  · exact hends ["/.", "/", "/"] (by decide +kernel)

end Encoding

end ModuleCatalog
