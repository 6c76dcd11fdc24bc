import ModuleCatalog.CatalogJson
import ModuleCatalog.Command.Options
import ModuleCatalog.Source

/-! # The command

    The command prints the catalogs of some tree files.  It is all or nothing:
    if one of the files fails, every failing file is reported and no catalog is
    printed. -/

namespace ModuleCatalog

/-- The state of the files: at each path the text of the file, or the reason
    that the system gives why it cannot be read as a text. -/
abbrev Files := String → Except String String

/-- Why there is no catalog of a file. -/
inductive FileCause where
  /-- It cannot be read as a text, for the reason that the system gives. -/
  | unreadable (reason : String)
  /-- Something is wrong with its text. -/
  | source (text : String) (fault : SourceFault)
deriving DecidableEq, Repr

/-- The cause in words. -/
def FileCause.message (wording : Wording) : FileCause → String
  | unreadable reason => "cannot read file: " ++ reason
  | source text fault => fault.message wording text

/-- A file that failed, with the path that it was asked for by. -/
structure FileFault where
  path : String
  cause : FileCause
deriving DecidableEq, Repr

/-- The cause in words, behind the path. -/
def FileFault.message (wording : Wording) (f : FileFault) : String :=
  f.path ++ ": " ++ f.cause.message wording

/-- The catalog of the file at a path. -/
def Catalog.ofFile (files : Files) (projectRoot path : String) : Except FileFault Catalog :=
  match files path with
  | .error reason => .error ⟨path, .unreadable reason⟩
  | .ok text =>
    (Catalog.ofText (Encoding.ofPath path) text projectRoot).mapError fun fault =>
      ⟨path, .source text fault⟩

/-- What becomes of each file that is asked for, in order. -/
def Options.catalogs (options : Options) (files : Files) : List (Except FileFault Catalog) :=
  options.paths.map (Catalog.ofFile files options.projectRoot)

/-! ## Runs -/

/-- What a run leaves behind. -/
structure Outcome where
  /-- The exit status; zero stands for success. -/
  status : Nat
  /-- What was printed. -/
  output : String := ""
  /-- What was reported. -/
  report : String := ""
deriving DecidableEq, Repr

namespace Command

/-- The name of the command. -/
def name : String := "modidx"

/-- The version of the command. -/
def version : String := "0.1.0"

/-- How the command is used, under the name that it was started by. -/
def usage (program : String) : String :=
  "Usage: " ++ program ++ " <tree.xml|tree.json>... [options]\n\n" ++
  "Reads each parsed program tree and prints its module index as JSON\n" ++
  "(one object for a single file, an array for several).\n\n" ++
  "Options:\n" ++
  "  --project-root=<name>  Directory anchoring the reported file path (default: delphi)\n" ++
  "  --pretty               Indent the JSON output\n" ++
  "  --help, -h             Show this help message\n" ++
  "  --version, -V          Show version information\n\n" ++
  "Environment:\n" ++
  "  MODIDX_LOG, RUST_LOG   Log filter, e.g. MODIDX_LOG=modidx_resolve=debug\n\n" ++
  "Examples:\n" ++
  "  " ++ program ++ " petasce_processed.xml\n" ++
  "  " ++ program ++ " --pretty a_processed.xml b_processed.xml\n"

/-- The line that reports a fault. -/
def faultLine (message : String) : String := "error: " ++ message ++ "\n"

/-- The catalogs, if there is one of every file. -/
def succeeded (results : List (Except FileFault Catalog)) : List Catalog :=
  results.filterMap Except.toOption

/-- The faults of the files that failed. -/
def failed (results : List (Except FileFault Catalog)) : List FileFault :=
  results.filterMap fun
    | .ok _ => none
    | .error fault => some fault

/-- What a run leaves behind that is told the results for its files. -/
def conclude (wording : Wording) (pretty : Bool) (results : List (Except FileFault Catalog)) :
    Outcome :=
  if (failed results).isEmpty then
    { status := 0, output := Catalog.render (succeeded results) pretty ++ "\n" }
  else
    { status := 1
      report := String.join ((failed results).map fun fault => faultLine (fault.message wording)) }

/-- What an invocation asks for. -/
inductive Request where
  /-- Nothing, which is answered with the usage. -/
  | nothing
  | help
  | version
  /-- Something that cannot be done. -/
  | misuse (fault : UsageFault)
  | catalogs (options : Options)
deriving DecidableEq, Repr

/-- What some arguments ask for. -/
def Request.ofArguments : List String → Request
  | [] => nothing
  | first :: rest =>
    if first ∈ ["help", "--help", "-h"] then help
    else if first ∈ ["version", "--version", "-V"] then version
    else
      match Options.ofArguments (first :: rest) with
      | .ok options => catalogs options
      | .error fault => misuse fault

/-- The files that a request needs. -/
def Request.paths : Request → List String
  | catalogs options => options.paths
  | _ => []

/-- Deal with a request. -/
def Request.answer (program : String) (wording : Wording) (files : Files) : Request → Outcome
  | nothing => { status := 1, report := usage program }
  | help => { status := 0, output := usage program }
  | version => { status := 0, output := name ++ " " ++ Command.version ++ "\n" }
  | misuse fault => { status := 1, report := faultLine fault.message ++ "\n" ++ usage program }
  | catalogs options => conclude wording options.pretty (options.catalogs files)

/-- Run the command, started by the name `program`. -/
def run (wording : Wording) (files : Files) (arguments : List String) (program : String := name) :
    Outcome :=
  (Request.ofArguments arguments).answer program wording files

end Command

end ModuleCatalog
