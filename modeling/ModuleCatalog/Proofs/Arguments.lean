import ModuleCatalog.Command.Options
import ModuleCatalog.Fallible
import ModuleCatalog.Proofs.Place

/-! # What arguments ask for

    Arguments are read one by one, and what is known behind some of them is
    told from these alone: the paths among them in their order, the last name
    of the project directory, and whether the switch was there
    (`Options.behind`).  So the options do not depend on how the three sorts of
    arguments are mixed.  The first argument that is none of these ends the
    reading, and a path is missed only at its end
    (`Options.ofArguments_outcome`). -/

namespace ModuleCatalog

/-! ## Single arguments -/

namespace Argument

/-- Whether an argument is a path: it does not begin with a dash. -/
def isPath (a : String) : Bool := a.toList.head? != some '-'

/-- The name of the project directory that an argument gives, be it empty. -/
def rootName? (a : String) : Option String :=
  if projectRootMark <+: a.toList then
    some (String.ofList (a.toList.drop projectRootMark.length))
  else none

/-- What is wrong with an argument. -/
inductive Offends (a : String) : UsageFault → Prop where
  /-- It announces the name of the project directory and gives none. -/
  | emptyRoot (h : a = "--project-root=") : Offends a .emptyProjectRoot
  /-- It begins with a dash and is neither the switch nor an announcement. -/
  | unknown (hpath : isPath a = false) (hpretty : a ≠ "--pretty")
      (hroot : ∀ name, a ≠ "--project-root=" ++ name) : Offends a (.unknownOption a)

/-- What an argument may be. -/
inductive Allowed (a : String) : Prop where
  | pretty (h : a = "--pretty")
  | projectRoot (name : String) (hname : name ≠ "") (h : a = "--project-root=" ++ name)
  | path (h : isPath a = true)

variable {a name : String} {fault : UsageFault}

theorem rootName?_eq_some_iff : rootName? a = some name ↔ a = "--project-root=" ++ name := by
  have hmark : "--project-root=".toList = projectRootMark := rfl
  unfold rootName?
  constructor
  · intro h
    split at h
    case isTrue hannounced =>
      obtain ⟨rest, hrest⟩ := hannounced
      rw [← hrest, List.drop_left] at h
      rw [← Option.some.inj h, ← String.toList_inj, String.toList_append, hmark,
        String.toList_ofList, hrest]
    case isFalse => cases h
  · rintro rfl
    rw [String.toList_append, hmark, if_pos (List.prefix_append _ _), List.drop_left,
      String.ofList_toList]

theorem rootName?_eq_none_iff : rootName? a = none ↔ ∀ name, a ≠ "--project-root=" ++ name := by
  simp only [Option.eq_none_iff_forall_ne_some, ne_eq, rootName?_eq_some_iff]

/-- An announcement begins with a dash, as the switch does. -/
theorem isPath_of_rootName? (h : rootName? a = some name) : isPath a = false := by
  rw [rootName?_eq_some_iff.mp h, isPath, String.toList_append]
  rfl

theorem isPath_pretty : isPath "--pretty" = false := by decide

theorem rootName?_pretty : rootName? "--pretty" = none := by decide

/-- What an argument is read as: one rule for each sort, of which one at most
    applies. -/
inductive Reads (a : String) : Argument → Prop where
  | projectRoot {name : String} (hroot : rootName? a = some name) : Reads a (.projectRoot name)
  | pretty (h : a = "--pretty") : Reads a .pretty
  | unknown (hpath : isPath a = false) (hpretty : a ≠ "--pretty") (hroot : rootName? a = none) :
      Reads a (.unknown a)
  | path (hpath : isPath a = true) : Reads a (.path a)

theorem reads_ofText (a : String) : Reads a (ofText a) := by
  have hdash : ['-'].isPrefixOf a.toList = !isPath a := by
    unfold isPath
    cases a.toList with
    | nil => rfl
    | cons c rest => simp [List.isPrefixOf, bne, eq_comm]
  unfold ofText
  by_cases hroot : projectRootMark <+: a.toList
  · rw [if_pos (List.isPrefixOf_iff_prefix.mpr hroot)]
    exact .projectRoot (if_pos hroot)
  rw [if_neg (fun h => hroot (List.isPrefixOf_iff_prefix.mp h))]
  by_cases hpretty : a = "--pretty"
  · rw [if_pos hpretty]
    exact .pretty hpretty
  rw [if_neg hpretty, hdash]
  cases hpath : isPath a with
  | false => exact .unknown hpath hpretty (if_neg hroot)
  | true => exact .path hpath

/-- An argument may be given if nothing is wrong with it. -/
theorem allowed_iff : Allowed a ↔ ∀ fault, ¬ Offends a fault := by
  constructor
  · intro h fault hfault
    cases h with
    | pretty h =>
      subst h
      cases hfault with
      | emptyRoot h => exact absurd h (by decide)
      | unknown _ hpretty _ => exact hpretty rfl
    | projectRoot name hname h =>
      cases hfault with
      | emptyRoot hempty =>
        rw [h, ← String.append_empty (s := "--project-root="), String.append_assoc] at hempty
        exact hname (by simpa using hempty)
      | unknown _ _ hroot => exact hroot name h
    | path h =>
      cases hfault with
      | emptyRoot hempty =>
        rw [hempty] at h
        exact absurd h (by decide)
      | unknown hpath _ _ => simp [h] at hpath
  · intro h
    cases hpath : isPath a with
    | true => exact .path hpath
    | false =>
      by_cases hpretty : a = "--pretty"
      · exact .pretty hpretty
      cases hroot : rootName? a with
      | none => exact absurd (.unknown hpath hpretty (rootName?_eq_none_iff.mp hroot)) (h _)
      | some name =>
        have ha := rootName?_eq_some_iff.mp hroot
        refine .projectRoot name ?_ ha
        rintro rfl
        exact h _ (.emptyRoot ha)

end Argument

/-! ## All arguments -/

namespace Options

open Argument (isPath rootName? Offends Allowed)

/-- The options behind some arguments of which none offends. -/
def behind (before : List String) : Options where
  paths := before.filter isPath
  projectRoot := (before.filterMap rootName?).getLast?.getD SourceFile.defaultRoot
  pretty := before.contains "--pretty"

variable {arguments arguments' before : List String} {a : String} {options : Options}
  {fault : UsageFault}

theorem behind_nil : behind [] = {} := rfl

/-- What one more argument changes: it may add a path, replace the name of the
    project directory, or be the switch. -/
theorem behind_append_singleton :
    behind (before ++ [a]) =
      { paths := (behind before).paths ++ if isPath a then [a] else []
        projectRoot := (rootName? a).getD (behind before).projectRoot
        pretty := (behind before).pretty || decide (a = "--pretty") } := by
  unfold behind
  congr 1
  · cases hpath : isPath a <;> simp [hpath]
  · cases hroot : rootName? a <;> simp [hroot]
  · simp [eq_comm]

/-- An argument is refused for what is wrong with it, whatever stands ahead of
    it. -/
theorem add_eq_error_iff : options.add (.ofText a) = .error fault ↔ Offends a fault := by
  have hread := Argument.reads_ofText a
  generalize Argument.ofText a = argument at hread
  cases hread with
  | @projectRoot name hroot =>
    have ha := Argument.rootName?_eq_some_iff.mp hroot
    by_cases hname : name = ""
    · subst hname
      have hempty : a = "--project-root=" := by rw [ha, String.append_empty]
      constructor
      · intro h
        cases h
        exact .emptyRoot hempty
      · intro h
        cases h with
        | emptyRoot => rfl
        | unknown _ _ hnone => exact absurd ha (hnone "")
    · have hallowed : Allowed a := .projectRoot name hname ha
      simp [add, hname, Argument.allowed_iff.mp hallowed fault]
  | pretty h => simp [add, Argument.allowed_iff.mp (.pretty h) fault]
  | unknown hpath hpretty hroot =>
    constructor
    · intro h
      cases h
      exact .unknown hpath hpretty (Argument.rootName?_eq_none_iff.mp hroot)
    · intro h
      cases h with
      | emptyRoot h => exact absurd h (Argument.rootName?_eq_none_iff.mp hroot "")
      | unknown => rfl
  | path hpath => simp [add, Argument.allowed_iff.mp (.path hpath) fault]

/-- An argument that does not offend is taken into account. -/
theorem eq_behind_of_add (h : (behind before).add (.ofText a) = .ok options) :
    options = behind (before ++ [a]) := by
  have hread := Argument.reads_ofText a
  generalize Argument.ofText a = argument at hread h
  cases hread with
  | @projectRoot name hroot =>
    have hpretty : a ≠ "--pretty" := by
      rintro rfl
      simp [Argument.rootName?_pretty] at hroot
    by_cases hname : name = ""
    · simp [add, hname] at h
    · rw [behind_append_singleton, hroot, Argument.isPath_of_rootName? hroot]
      simpa [add, hname, hpretty] using h.symm
  | pretty ha =>
    subst ha
    rw [behind_append_singleton, Argument.isPath_pretty, Argument.rootName?_pretty]
    simpa [add] using h.symm
  | unknown hpath hpretty hroot => cases h
  | path hpath =>
    have hroot : rootName? a = none := by
      cases hroot : rootName? a with
      | none => rfl
      | some name => simp [Argument.isPath_of_rootName? hroot] at hpath
    have hpretty : a ≠ "--pretty" := by
      rintro rfl
      simp [Argument.isPath_pretty] at hpath
    rw [behind_append_singleton, hpath, hroot]
    simpa [add, hpretty] using h.symm

/-- Reading one argument keeps to the description. -/
theorem reading :
    Reading (fun options a => options.add (.ofText a)) behind fun _ a fault => Offends a fault where
  error_iff _ := add_eq_error_iff
  eq_of_ok _ := eq_behind_of_add

theorem faultless_offends_iff :
    Faultless (fun _ a => Offends a) arguments ↔ ∀ a ∈ arguments, Allowed a := by
  constructor
  · intro h a ha
    obtain ⟨p, rfl⟩ := Place.exists_of_mem ha
    exact Argument.allowed_iff.mpr (h p)
  · intro h p
    exact Argument.allowed_iff.mp (h p.node p.mem)

theorem isEmpty_paths_behind :
    (behind arguments).paths.isEmpty = true ↔ ∀ a ∈ arguments, isPath a = false := by
  simp [behind]

/-- Arguments ask for something when none of them offends and one is a path. -/
theorem ofArguments_eq_ok_iff :
    ofArguments arguments = .ok options ↔
      (∀ a ∈ arguments, Allowed a) ∧ (∃ a ∈ arguments, isPath a = true) ∧
        options = behind arguments := by
  rw [ofArguments, List.foldlM_map, ← behind_nil]
  simp only [bind_eq_ok, reading.foldlM_eq_ok_iff, faultless_offends_iff]
  constructor
  · intro h
    obtain ⟨_, ⟨hallowed, rfl⟩, h⟩ := h
    split at h
    case isTrue => cases h
    case isFalse hsome =>
      rw [isEmpty_paths_behind] at hsome
      rw [pure_eq_ok] at h
      exact ⟨hallowed, by simpa using hsome, h.symm⟩
  · intro h
    obtain ⟨hallowed, hsome, rfl⟩ := h
    have hpaths : ¬ (behind arguments).paths.isEmpty = true := by
      rw [isEmpty_paths_behind]
      simpa using hsome
    exact ⟨_, ⟨hallowed, rfl⟩, by rw [if_neg hpaths]; rfl⟩

/-- The first argument that offends is reported, and a missing path only if
    none does. -/
theorem ofArguments_eq_error_iff :
    ofArguments arguments = .error fault ↔
      FirstFault (fun _ a => Offends a) arguments fault ∨
        (∀ a ∈ arguments, Allowed a) ∧ (∀ a ∈ arguments, isPath a = false) ∧
          fault = .noTreeFile := by
  rw [ofArguments, List.foldlM_map, ← behind_nil]
  simp only [bind_eq_error, reading.foldlM_eq_ok_iff, reading.foldlM_eq_error_iff,
    faultless_offends_iff]
  refine or_congr_right ⟨?_, ?_⟩
  · intro h
    obtain ⟨_, ⟨hallowed, rfl⟩, h⟩ := h
    split at h
    case isTrue hnone =>
      cases h
      exact ⟨hallowed, isEmpty_paths_behind.mp hnone, rfl⟩
    case isFalse => cases h
  · intro h
    obtain ⟨hallowed, hnone, rfl⟩ := h
    exact ⟨_, ⟨hallowed, rfl⟩, by rw [if_pos (isEmpty_paths_behind.mpr hnone)]⟩

/-- The options are told from the paths and the names of the project directory
    in their orders, and from whether the switch is there. -/
theorem behind_eq_of_perm (hperm : arguments'.Perm arguments)
    (hpaths : arguments'.filter isPath = arguments.filter isPath)
    (hroots : arguments'.filterMap rootName? = arguments.filterMap rootName?) :
    behind arguments' = behind arguments := by
  unfold behind
  rw [hpaths, hroots, hperm.contains_eq]

/-- Only a missing path is reported in the words for it. -/
theorem eq_noTreeFile_of_message (h : fault.message = "missing tree file") :
    fault = .noTreeFile := by
  cases fault with
  | noTreeFile => rfl
  | emptyProjectRoot => exact absurd h (by decide)
  | unknownOption argument =>
    -- the two texts begin differently
    have hfirst : ("unknown option '" ++ argument ++ "'").toList.head? =
        "missing tree file".toList.head? := congrArg (fun text => text.toList.head?) h
    rw [String.append_assoc, String.toList_append] at hfirst
    exact absurd hfirst (by simp)

/-- Arguments are accepted exactly when each of them is the switch, a name of
    the project directory or a path, and at least one is a path.  The options
    then hold the paths in their order, the last name of the project directory,
    and whether the switch was given.  Otherwise the first argument that is none
    of these is reported, and only if there is none, that a path is missing.  So
    arguments may be given in any order that keeps the paths and the names of
    the project directory in theirs. -/
theorem ofArguments_outcome (arguments : List String) :
    ((∃ options, ofArguments arguments = .ok options) ↔
      (∀ a ∈ arguments, Allowed a) ∧ ∃ a ∈ arguments, isPath a = true) ∧
    (∀ options, ofArguments arguments = .ok options →
      options.paths = arguments.filter isPath ∧
      (options.pretty = true ↔ "--pretty" ∈ arguments) ∧
      options.projectRoot = (arguments.filterMap rootName?).getLast?.getD "delphi") ∧
    (∀ fault, ofArguments arguments = .error fault ↔
      FirstFault (fun _ a => Offends a) arguments fault ∨
        (∀ a ∈ arguments, Allowed a) ∧ (∀ a ∈ arguments, isPath a = false) ∧
          fault = .noTreeFile) ∧
    (∀ fault, ofArguments arguments = .error fault → fault.message = "missing tree file" →
      ∀ a ∈ arguments, Allowed a) ∧
    ∀ arguments', arguments'.Perm arguments →
      arguments'.filter isPath = arguments.filter isPath →
      arguments'.filterMap rootName? = arguments.filterMap rootName? →
        ∀ options, ofArguments arguments = .ok options → ofArguments arguments' = .ok options := by
  refine ⟨?_, ?_, fun fault => ofArguments_eq_error_iff, ?_, ?_⟩
  · simp only [ofArguments_eq_ok_iff]
    constructor
    · intro h
      obtain ⟨_, hallowed, hsome, -⟩ := h
      exact ⟨hallowed, hsome⟩
    · intro h
      exact ⟨_, h.1, h.2, rfl⟩
  · intro options h
    obtain ⟨-, -, rfl⟩ := ofArguments_eq_ok_iff.mp h
    exact ⟨rfl, List.contains_iff_mem, rfl⟩
  · intro fault h hmessage
    obtain rfl := eq_noTreeFile_of_message hmessage
    rcases ofArguments_eq_error_iff.mp h with ⟨p, hoffends, -⟩ | ⟨hallowed, -⟩
    · -- no argument offends by the lack of a path
      cases hoffends
    · exact hallowed
  · intro arguments' hperm hpaths hroots options h
    obtain ⟨hallowed, ⟨a, ha, hpath⟩, rfl⟩ := ofArguments_eq_ok_iff.mp h
    rw [ofArguments_eq_ok_iff, behind_eq_of_perm hperm hpaths hroots]
    exact ⟨fun a ha => hallowed a (hperm.mem_iff.mp ha), ⟨a, hperm.mem_iff.mpr ha, hpath⟩, rfl⟩

/-- Two paths and two names of the project directory, mixed with the switch. -/
def sampleArguments : List String :=
  ["--project-root=lib", "b.json", "--pretty", "--project-root=src", "a.xml", "b.json"]

/-- The later name counts, and so it does when all names and the switch come
    behind the paths; an argument with a single dash offends. -/
theorem ofArguments_outcome_sampleArguments :
    ofArguments sampleArguments = .ok ⟨["b.json", "a.xml", "b.json"], "src", true⟩ ∧
    ofArguments ["b.json", "a.xml", "b.json", "--project-root=lib", "--project-root=src",
      "--pretty"] = .ok ⟨["b.json", "a.xml", "b.json"], "src", true⟩ ∧
    ofArguments ["--project-root=", "-"] = .error .emptyProjectRoot := by
  have hoptions :
      ofArguments sampleArguments = .ok ⟨["b.json", "a.xml", "b.json"], "src", true⟩ := by
    decide +kernel
  obtain ⟨-, -, -, -, hreordered⟩ := ofArguments_outcome sampleArguments
  obtain ⟨-, -, hfault, -, -⟩ := ofArguments_outcome ["--project-root=", "-"]
  refine ⟨hoptions, hreordered _ ?_ ?_ ?_ _ hoptions, (hfault _).mpr (.inl ?_)⟩
  · decide +kernel
  · decide +kernel
  · decide +kernel
  · exact ⟨⟨[], _, _, rfl⟩, .emptyRoot rfl, faultless_nil⟩

end Options

end ModuleCatalog
