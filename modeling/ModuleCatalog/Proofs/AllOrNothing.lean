import Mathlib.Data.List.Forall2
import ModuleCatalog.Command.Run

/-! # Runs are all or nothing

    A run answers with a usage, a version, the catalogs of all the files that
    it was asked for, or a report of every file that failed.  The rules of
    `Command.Leaves` say which of these, with no mention of how the answer is
    found: catalogs and reports go in step with the paths as they were given,
    and `Becomes` says of each file by itself whether there is a catalog of it
    or for what cause there is none.  Why a file or a text cannot be read is
    said in the words of those who read it; these words are given to the run.
    By these rules there is exactly one outcome, and the command leaves it
    behind (`Command.leaves_iff_eq_run`). -/

namespace ModuleCatalog

/-! ## The content of a file -/

namespace Catalog

/-- The catalog of a file, or why there is none, found by reading its content. -/
def ofContent (content : Except String String) (path projectRoot : String) :
    Except FileCause Catalog :=
  match content with
  | .error reason => .error (.unreadable reason)
  | .ok text => (ofText (Encoding.ofPath path) text projectRoot).mapError (.source text)

/-- A file that fails is reported under the path that it was asked for by. -/
theorem ofFile_eq_mapError (files : Files) (projectRoot path : String) :
    ofFile files projectRoot path =
      (ofContent (files path) path projectRoot).mapError fun cause => ⟨path, cause⟩ := by
  unfold ofFile ofContent
  cases files path with
  | error reason => rfl
  | ok text =>
    dsimp only
    cases ofText (Encoding.ofPath path) text projectRoot <;> rfl

end Catalog

/-! ## Rules -/

/-- A run comes to an end either with something printed and nothing reported,
    or with something reported and nothing printed. -/
def Outcome.AllOrNothing (o : Outcome) : Prop :=
  o.status = 0 ∧ o.output ≠ "" ∧ o.report = "" ∨ o.status = 1 ∧ o.output = "" ∧ o.report ≠ ""

namespace Command

/-- What becomes of a file is told from its content, from its name, and from
    the root of the project: a catalog, or the cause why there is none. -/
inductive Becomes (wording : Wording) (content : Except String String)
    (path projectRoot : String) : Except String Catalog → Prop where
  | unreadable {reason : String} (hcontent : content = .error reason) :
      Becomes wording content path projectRoot (.error ("cannot read file: " ++ reason))
  | malformedXml {text : String} {fault : Xml.Fault} (hcontent : content = .ok text)
      (hpath : Encoding.ofPath path = .xml) (hread : Xml.read text = .error fault) :
      Becomes wording content path projectRoot
        (.error ("malformed XML: " ++ wording.xml fault text))
  | malformedJson {text : String} {fault : Json.Fault} (hcontent : content = .ok text)
      (hpath : Encoding.ofPath path = .json) (hread : Node.read text = .error fault) :
      Becomes wording content path projectRoot
        (.error ("malformed JSON tree: " ++ wording.json fault text))
  | faultyTree {text : String} {root : Node} {fault : TreeFault} (hcontent : content = .ok text)
      (hread : (Encoding.ofPath path).readTree text = .ok root)
      (htree : Catalog.ofTree root projectRoot = .error fault) :
      Becomes wording content path projectRoot (.error fault.message)
  | catalog {text : String} {root : Node} {c : Catalog} (hcontent : content = .ok text)
      (hread : (Encoding.ofPath path).readTree text = .ok root)
      (htree : Catalog.ofTree root projectRoot = .ok c) :
      Becomes wording content path projectRoot (.ok c)

/-- Every file of a list has a catalog; these are the catalogs in their order. -/
abbrev AllYield (becomes : String → Except String Catalog → Prop) :
    List String → List Catalog → Prop :=
  List.Forall₂ fun path c => becomes path (.ok c)

/-- Some file of a list fails. -/
def SomeFails (becomes : String → Except String Catalog → Prop) (paths : List String) : Prop :=
  ∃ path ∈ paths, ∃ cause, becomes path (.error cause)

/-- What is reported of a list of files: in their order, a line for each time
    that a file is asked for which fails, and nothing of the others. -/
inductive Reports (becomes : String → Except String Catalog → Prop) :
    List String → String → Prop where
  | nil : Reports becomes [] ""
  | passed {path : String} {c : Catalog} {paths : List String} {report : String}
      (h : becomes path (.ok c)) (hrest : Reports becomes paths report) :
      Reports becomes (path :: paths) report
  | failed {path cause : String} {paths : List String} {report : String}
      (h : becomes path (.error cause)) (hrest : Reports becomes paths report) :
      Reports becomes (path :: paths) ("error: " ++ path ++ ": " ++ cause ++ "\n" ++ report)

/-- What a run leaves behind: its status, what it printed and what it reported.
    The words for help and version are looked for in the first place only. -/
inductive Leaves (program : String) (wording : Wording) (files : Files) :
    List String → Outcome → Prop where
  | nothing : Leaves program wording files [] ⟨1, "", usage program⟩
  | help {first : String} {rest : List String} (h : first ∈ ["help", "--help", "-h"]) :
      Leaves program wording files (first :: rest) ⟨0, usage program, ""⟩
  | version {first : String} {rest : List String} (h : first ∈ ["version", "--version", "-V"]) :
      Leaves program wording files (first :: rest) ⟨0, "modidx 0.1.0\n", ""⟩
  /-- Arguments that are turned down, with an empty line before the usage. -/
  | misuse {first : String} {rest : List String} {fault : UsageFault}
      (hhelp : first ∉ ["help", "--help", "-h"])
      (hversion : first ∉ ["version", "--version", "-V"])
      (hoptions : Options.ofArguments (first :: rest) = .error fault) :
      Leaves program wording files (first :: rest)
        ⟨1, "", "error: " ++ fault.message ++ "\n" ++ "\n" ++ usage program⟩
  | catalogs {first : String} {rest : List String} {options : Options} {catalogs : List Catalog}
      (hhelp : first ∉ ["help", "--help", "-h"])
      (hversion : first ∉ ["version", "--version", "-V"])
      (hoptions : Options.ofArguments (first :: rest) = .ok options)
      (hall : AllYield (fun path => Becomes wording (files path) path options.projectRoot)
        options.paths catalogs) :
      Leaves program wording files (first :: rest)
        ⟨0, Catalog.render catalogs options.pretty ++ "\n", ""⟩
  | reports {first : String} {rest : List String} {options : Options} {report : String}
      (hhelp : first ∉ ["help", "--help", "-h"])
      (hversion : first ∉ ["version", "--version", "-V"])
      (hoptions : Options.ofArguments (first :: rest) = .ok options)
      (hsome : SomeFails (fun path => Becomes wording (files path) path options.projectRoot)
        options.paths)
      (hreports : Reports (fun path => Becomes wording (files path) path options.projectRoot)
        options.paths report) :
      Leaves program wording files (first :: rest) ⟨1, "", report⟩

/-! ## One file -/

section file

variable {wording : Wording} {content : Except String String} {text path projectRoot : String}
  {result : Except String Catalog}

/-- A text that is not read is malformed in the encoding of its file. -/
theorem becomes_of_readTree_eq_error {fault : SourceFault}
    (h : (Encoding.ofPath path).readTree text = .error fault) :
    Becomes wording (.ok text) path projectRoot (.error (fault.message wording text)) := by
  cases hpath : Encoding.ofPath path with
  | xml =>
    rw [hpath] at h
    obtain ⟨xmlFault, hread, rfl⟩ := mapError_eq_error.mp h
    exact .malformedXml rfl hpath hread
  | json =>
    rw [hpath] at h
    obtain ⟨jsonFault, hread, rfl⟩ := mapError_eq_error.mp h
    exact .malformedJson rfl hpath hread

/-- What the rules say of a file is what is found by reading its content. -/
theorem becomes_iff :
    Becomes wording content path projectRoot result ↔
      (Catalog.ofContent content path projectRoot).mapError (FileCause.message wording) =
        result := by
  constructor
  · intro h
    cases h with
    | unreadable hcontent =>
      rw [hcontent]
      rfl
    | malformedXml hcontent hpath hread =>
      rw [hcontent, Catalog.ofContent, hpath, Catalog.ofText, Encoding.readTree, hread]
      rfl
    | malformedJson hcontent hpath hread =>
      rw [hcontent, Catalog.ofContent, hpath, Catalog.ofText, Encoding.readTree, hread]
      rfl
    | faultyTree hcontent hread htree =>
      rw [hcontent, Catalog.ofContent, Catalog.ofText_of_readTree_eq_ok hread, htree]
      rfl
    | catalog hcontent hread htree =>
      rw [hcontent, Catalog.ofContent, Catalog.ofText_of_readTree_eq_ok hread, htree]
      rfl
  · rintro rfl
    cases content with
    | error reason => exact .unreadable rfl
    | ok text =>
      rw [Catalog.ofContent]
      cases hread : (Encoding.ofPath path).readTree text with
      | error fault =>
        rw [Catalog.ofText_of_readTree_eq_error hread]
        exact becomes_of_readTree_eq_error hread
      | ok root =>
        rw [Catalog.ofText_of_readTree_eq_ok hread]
        cases htree : Catalog.ofTree root projectRoot with
        | error fault => exact .faultyTree rfl hread htree
        | ok c => exact .catalog rfl hread htree

end file

/-- What is found of a file, with the cause in words where there is no
    catalog. -/
abbrev Told (wording : Wording) (become : String → Except FileCause Catalog) (path : String)
    (result : Except String Catalog) : Prop :=
  (become path).mapError (FileCause.message wording) = result

theorem becomes_eq_told (wording : Wording) (files : Files) (projectRoot : String) :
    (fun path => Becomes wording (files path) path projectRoot) =
      Told wording fun path => Catalog.ofContent (files path) path projectRoot := by
  funext path result
  exact propext becomes_iff

/-! ## Results for a list of files -/

section results

variable {c : Catalog} {f : FileFault} {results : List (Except FileFault Catalog)}

theorem failed_cons_ok : failed (.ok c :: results) = failed results := rfl

theorem failed_cons_error : failed (.error f :: results) = f :: failed results := rfl

theorem succeeded_cons_ok : succeeded (.ok c :: results) = c :: succeeded results := rfl

variable {wording : Wording} {become : String → Except FileCause Catalog} {path words : String}
  {cause : FileCause} {paths : List String} {catalogs : List Catalog} {report : String}

theorem told_ok_iff : Told wording become path (.ok c) ↔ become path = .ok c :=
  mapError_eq_ok

theorem told_error_iff :
    Told wording become path (.error words) ↔
      ∃ cause, become path = .error cause ∧ cause.message wording = words :=
  mapError_eq_error

/-- The results for some files, each cause under the path of its file. -/
def resultsOf (become : String → Except FileCause Catalog) (paths : List String) :
    List (Except FileFault Catalog) :=
  paths.map fun path => (become path).mapError fun cause => ⟨path, cause⟩

theorem resultsOf_cons_of_ok (h : become path = .ok c) :
    resultsOf become (path :: paths) = .ok c :: resultsOf become paths := by
  rw [resultsOf, List.map_cons, h]
  rfl

theorem resultsOf_cons_of_error (h : become path = .error cause) :
    resultsOf become (path :: paths) = .error ⟨path, cause⟩ :: resultsOf become paths := by
  rw [resultsOf, List.map_cons, h]
  rfl

theorem not_someFails_nil : ¬ SomeFails (Told wording become) [] := by
  simp [SomeFails]

theorem someFails_cons_of_ok (h : become path = .ok c) :
    SomeFails (Told wording become) (path :: paths) ↔ SomeFails (Told wording become) paths := by
  simp [SomeFails, told_error_iff, h]

theorem someFails_cons_of_error (h : become path = .error cause) :
    SomeFails (Told wording become) (path :: paths) :=
  ⟨path, List.mem_cons_self, _, told_error_iff.mpr ⟨cause, h, rfl⟩⟩

/-- A fault is among the results exactly when some file fails. -/
theorem failed_eq_nil_iff :
    failed (resultsOf become paths) = [] ↔ ¬ SomeFails (Told wording become) paths := by
  induction paths with
  | nil => simpa [resultsOf, failed] using not_someFails_nil
  | cons path paths ih =>
    cases h : become path with
    | ok c => rw [resultsOf_cons_of_ok h, failed_cons_ok, someFails_cons_of_ok h, ih]
    | error cause =>
      rw [resultsOf_cons_of_error h, failed_cons_error]
      simpa using someFails_cons_of_error h

/-- If no file fails, then there is a catalog of each among the results. -/
theorem allYield_succeeded (h : ¬ SomeFails (Told wording become) paths) :
    AllYield (Told wording become) paths (succeeded (resultsOf become paths)) := by
  induction paths with
  | nil => exact .nil
  | cons path paths ih =>
    cases hpath : become path with
    | ok c =>
      rw [resultsOf_cons_of_ok hpath, succeeded_cons_ok]
      exact .cons (told_ok_iff.mpr hpath)
        (ih fun hrest => h ((someFails_cons_of_ok hpath).mpr hrest))
    | error cause => exact absurd (someFails_cons_of_error hpath) h

/-- If there is a catalog of each file, then none fails, and the catalogs are
    those among the results. -/
theorem succeeded_of_allYield (h : AllYield (Told wording become) paths catalogs) :
    ¬ SomeFails (Told wording become) paths ∧ catalogs = succeeded (resultsOf become paths) := by
  induction h with
  | nil => exact ⟨not_someFails_nil, rfl⟩
  | cons hpath _ ih =>
    obtain ⟨hnone, hcatalogs⟩ := ih
    have hpath := told_ok_iff.mp hpath
    rw [someFails_cons_of_ok hpath, resultsOf_cons_of_ok hpath, succeeded_cons_ok, ← hcatalogs]
    exact ⟨hnone, rfl⟩

/-- The lines for the faults among the results are the reports of the files. -/
theorem reports_iff :
    Reports (Told wording become) paths report ↔
      report = String.join
        ((failed (resultsOf become paths)).map fun f => faultLine (f.message wording)) := by
  have hline : ∀ (path : String) (cause : FileCause),
      faultLine (FileFault.message wording ⟨path, cause⟩) =
        "error: " ++ path ++ ": " ++ cause.message wording ++ "\n" := by
    intro path cause
    simp only [faultLine, FileFault.message, String.append_assoc]
  constructor
  · intro h
    induction h with
    | nil => rfl
    | passed h _ ih => rwa [resultsOf_cons_of_ok (told_ok_iff.mp h), failed_cons_ok]
    | failed h _ ih =>
      obtain ⟨cause, hcause, rfl⟩ := told_error_iff.mp h
      rw [resultsOf_cons_of_error hcause, failed_cons_error, List.map_cons, String.join_cons,
        hline, ih]
  · rintro rfl
    induction paths with
    | nil => exact .nil
    | cons path paths ih =>
      cases h : become path with
      | ok c =>
        rw [resultsOf_cons_of_ok h, failed_cons_ok]
        exact .passed (told_ok_iff.mpr h) ih
      | error cause =>
        rw [resultsOf_cons_of_error h, failed_cons_error, List.map_cons, String.join_cons, hline]
        exact .failed (told_error_iff.mpr ⟨cause, h, rfl⟩) ih

/-- There is a catalog of every file, or some file fails and there is a report. -/
theorem allYield_or_reports :
    (∃ catalogs, AllYield (Told wording become) paths catalogs) ∨
      SomeFails (Told wording become) paths ∧
        ∃ report, Reports (Told wording become) paths report := by
  by_cases hsome : SomeFails (Told wording become) paths
  · exact .inr ⟨hsome, _, reports_iff.mpr rfl⟩
  · exact .inl ⟨_, allYield_succeeded hsome⟩

/-- Where a file fails there is something to report. -/
theorem Reports.ne_empty (h : Reports (Told wording become) paths report)
    (hsome : SomeFails (Told wording become) paths) : report ≠ "" := by
  induction h with
  | nil => exact absurd hsome not_someFails_nil
  | passed h _ ih => exact ih ((someFails_cons_of_ok (told_ok_iff.mp h)).mp hsome)
  | failed h _ _ =>
    -- its own line is there, whatever follows
    simp

end results

/-! ## Runs -/

section runs

variable {program : String} {wording : Wording} {files : Files} {arguments : List String}
  {first : String} {rest : List String} {options : Options} {o : Outcome}

theorem catalogs_eq_resultsOf (options : Options) (files : Files) :
    options.catalogs files =
      resultsOf (fun path => Catalog.ofContent (files path) path options.projectRoot)
        options.paths := by
  exact List.map_congr_left fun path _ => Catalog.ofFile_eq_mapError files _ path

/-- A run on files, where the first argument asks for nothing else. -/
theorem run_of_ofArguments (hhelp : first ∉ ["help", "--help", "-h"])
    (hversion : first ∉ ["version", "--version", "-V"]) :
    run wording files (first :: rest) program =
      match Options.ofArguments (first :: rest) with
      | .ok options => conclude wording options.pretty (options.catalogs files)
      | .error fault => ⟨1, "", faultLine fault.message ++ "\n" ++ usage program⟩ := by
  rw [run, Request.ofArguments, if_neg hhelp, if_neg hversion]
  cases Options.ofArguments (first :: rest) <;> rfl

/-- What the rules say is what the command does. -/
theorem Leaves.eq_run (h : Leaves program wording files arguments o) :
    o = run wording files arguments program := by
  cases h with
  | nothing => rfl
  | help h =>
    rw [run, Request.ofArguments, if_pos h]
    rfl
  | @version first rest h =>
    -- no word asks for both
    have hhelp : first ∉ ["help", "--help", "-h"] := by
      simp only [List.mem_cons, List.not_mem_nil, or_false] at h
      rcases h with rfl | rfl | rfl <;> decide
    have houtput : "modidx 0.1.0\n" = name ++ " " ++ Command.version ++ "\n" := by decide
    rw [run, Request.ofArguments, if_neg hhelp, if_pos h, houtput]
    rfl
  | misuse hhelp hversion hoptions =>
    rw [run_of_ofArguments hhelp hversion, hoptions]
    simp only [faultLine, String.append_assoc]
  | catalogs hhelp hversion hoptions hall =>
    rw [becomes_eq_told] at hall
    obtain ⟨hnone, rfl⟩ := succeeded_of_allYield hall
    rw [run_of_ofArguments hhelp hversion, hoptions]
    dsimp only
    rw [conclude, catalogs_eq_resultsOf, failed_eq_nil_iff.mpr hnone]
    rfl
  | @reports first rest options report hhelp hversion hoptions hsome hreports =>
    rw [becomes_eq_told] at hsome hreports
    rw [run_of_ofArguments hhelp hversion, hoptions]
    dsimp only
    have hfailed : (failed (options.catalogs files)).isEmpty ≠ true := by
      rw [catalogs_eq_resultsOf, ne_eq, List.isEmpty_iff, failed_eq_nil_iff]
      exact not_not.mpr hsome
    rw [conclude, if_neg hfailed, catalogs_eq_resultsOf, ← reports_iff.mp hreports]

/-- There is a rule for every run. -/
theorem leaves_run (program : String) (wording : Wording) (files : Files)
    (arguments : List String) :
    Leaves program wording files arguments (run wording files arguments program) := by
  -- any rule that applies will do, since what it says is what the command does
  suffices ∃ o, Leaves program wording files arguments o by
    obtain ⟨o, h⟩ := this
    rwa [← h.eq_run]
  cases arguments with
  | nil => exact ⟨_, .nothing⟩
  | cons first rest =>
    by_cases hhelp : first ∈ ["help", "--help", "-h"]
    · exact ⟨_, .help hhelp⟩
    by_cases hversion : first ∈ ["version", "--version", "-V"]
    · exact ⟨_, .version hversion⟩
    cases hoptions : Options.ofArguments (first :: rest) with
    | error fault => exact ⟨_, .misuse hhelp hversion hoptions⟩
    | ok options =>
      have hresults := @allYield_or_reports wording
        (fun path => Catalog.ofContent (files path) path options.projectRoot) options.paths
      rw [← becomes_eq_told] at hresults
      rcases hresults with ⟨catalogs, hall⟩ | ⟨hsome, report, hreports⟩
      · exact ⟨_, .catalogs hhelp hversion hoptions hall⟩
      · exact ⟨_, .reports hhelp hversion hoptions hsome hreports⟩

theorem usage_ne_empty : usage program ≠ "" := by
  intro h
  unfold usage at h
  exact absurd (String.append_eq_empty_iff.mp h).2 (by decide)

/-- No rule lets a run print something and fail, or report something and
    succeed. -/
theorem Leaves.allOrNothing (h : Leaves program wording files arguments o) : o.AllOrNothing := by
  cases h with
  | nothing => exact .inr ⟨rfl, rfl, usage_ne_empty⟩
  | help h => exact .inl ⟨rfl, usage_ne_empty, rfl⟩
  | version h => exact .inl ⟨rfl, by decide, rfl⟩
  | misuse => exact .inr ⟨rfl, rfl, by simp⟩
  | catalogs => exact .inl ⟨rfl, by simp, rfl⟩
  | reports _ _ _ hsome hreports =>
    rw [becomes_eq_told] at hsome hreports
    exact .inr ⟨rfl, rfl, hreports.ne_empty hsome⟩

/-- A run looks at the files that it is asked for, and at no others. -/
theorem run_congr {files' : Files}
    (h : ∀ path ∈ (Request.ofArguments arguments).paths, files' path = files path) :
    run wording files' arguments program = run wording files arguments program := by
  unfold run
  cases hrequest : Request.ofArguments arguments with
  | catalogs options =>
    -- the results are told from the contents at the listed paths alone
    rw [hrequest] at h
    show conclude _ _ (options.catalogs files') = conclude _ _ (options.catalogs files)
    rw [catalogs_eq_resultsOf, catalogs_eq_resultsOf, resultsOf, resultsOf]
    refine congrArg _ (List.map_congr_left fun path hpath => ?_)
    rw [h path hpath]
  | _ => rfl

end runs

/-- The rules say of every run exactly what it leaves behind.  Whatever the
    arguments and the files, and in whatever words these are turned down, it is
    all or nothing: a run that succeeds reports nothing, and a run that fails
    prints nothing.  Files that were not asked for make no difference. -/
theorem leaves_iff_eq_run (program : String) (wording : Wording) (files : Files)
    (arguments : List String) :
    (∀ o, Leaves program wording files arguments o ↔ o = run wording files arguments program) ∧
    (run wording files arguments program).AllOrNothing ∧
    ∀ files' : Files,
      (∀ path ∈ (Request.ofArguments arguments).paths, files' path = files path) →
        run wording files' arguments program = run wording files arguments program := by
  have hrun := leaves_run program wording files arguments
  refine ⟨?_, hrun.allOrNothing, fun files' h => run_congr h⟩
  intro o
  constructor
  · exact Leaves.eq_run
  · rintro rfl
    exact hrun

/-- A directory with a tree, a tree whose use clause has no target, a file for
    each way to be malformed, and a directory. -/
def sampleFiles : Files := fun path =>
  if path = "tree.json" then .ok "[\"module\", \x7b\"name\": \"Util\"\x7d]"
  else if path = "use.xml" then .ok "<ofp><module name=\"m\"><use/></module></ofp>"
  else if path = "bare.json" then .ok "\x7b\x7d"
  else if path = "empty.xml" then .ok ""
  else if path = "latin.xml" then .error "stream did not contain valid UTF-8"
  else if path = "src" then .error "Is a directory (os error 21)"
  else .error "No such file or directory (os error 2)"

/-- What is said of an empty document and of an object without members. -/
def sampleWording : Wording where
  xml _ _ := "the document does not have a root node"
  json _ _ := "missing field `tag` at line 1 column 2"

/-- Only the tree is left to be read. -/
def sampleRemains : Files := fun path =>
  if path = "tree.json" then sampleFiles path else .error "Permission denied (os error 13)"

/-- The catalog of the tree is printed, whatever becomes of the other files as
    long as they are not asked for.  When some of them fail that are asked for,
    then nothing of it is printed, and each of them is reported for its own
    cause, as often as it was asked for. -/
theorem leaves_iff_eq_run_sampleFiles :
    Leaves "modidx" sampleWording sampleFiles ["tree.json"]
      ⟨0, "\x7b\"FileName\":[null,null],\"Modules\":[\"util\"],\"Exports\":\x7b\"util\":[]\x7d," ++
        "\"Uses\":\x7b\x7d,\"Imports\":\x7b\x7d,\"Private\":\x7b\x7d,\"Public\":\x7b\x7d," ++
        "\"Subpgms\":\x7b\x7d,\"Syms\":\x7b\"util\":[]\x7d\x7d\n", ""⟩ ∧
    run sampleWording sampleRemains ["tree.json"] = run sampleWording sampleFiles ["tree.json"] ∧
    Leaves "modidx" sampleWording sampleFiles
      ["absent.xml", "use.xml", "tree.json", "--pretty", "bare.json", "empty.xml", "latin.xml",
        "src", "absent.xml"]
      ⟨1, "", "error: absent.xml: cannot read file: No such file or directory (os error 2)\n" ++
        "error: use.xml: `use` node is missing required attribute `name`\n" ++
        "error: bare.json: malformed JSON tree: missing field `tag` at line 1 column 2\n" ++
        "error: empty.xml: malformed XML: the document does not have a root node\n" ++
        "error: latin.xml: cannot read file: stream did not contain valid UTF-8\n" ++
        "error: src: cannot read file: Is a directory (os error 21)\n" ++
        "error: absent.xml: cannot read file: No such file or directory (os error 2)\n"⟩ := by
  obtain ⟨hone, -, hothers⟩ := leaves_iff_eq_run "modidx" sampleWording sampleFiles ["tree.json"]
  obtain ⟨hsome, -, -⟩ := leaves_iff_eq_run "modidx" sampleWording sampleFiles
    ["absent.xml", "use.xml", "tree.json", "--pretty", "bare.json", "empty.xml", "latin.xml",
      "src", "absent.xml"]
  refine ⟨(hone _).mpr (by decide +kernel), hothers sampleRemains ?_,
    (hsome _).mpr (by decide +kernel)⟩
  -- the tree is the one path that the run needs
  decide +kernel

end Command

end ModuleCatalog
