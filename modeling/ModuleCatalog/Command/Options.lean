import ModuleCatalog.SourceFile

/-! # Options of the command

    Every argument is a switch, the name of the project directory, or the path
    of a tree file, in any order.  Later names of the project directory replace
    earlier ones; the first argument that is none of these is reported. -/

namespace ModuleCatalog

/-- What one invocation asks for. -/
structure Options where
  /-- The tree files, in the order of the output. -/
  paths : List String := []
  /-- The name of the project directory. -/
  projectRoot : String := SourceFile.defaultRoot
  /-- Whether the output is indented. -/
  pretty : Bool := false
deriving DecidableEq, Repr

/-- Why arguments ask for nothing that can be done. -/
inductive UsageFault where
  | emptyProjectRoot
  | unknownOption (argument : String)
  | noTreeFile
deriving DecidableEq, Repr

/-- The fault in words. -/
def UsageFault.message : UsageFault → String
  | emptyProjectRoot => "--project-root needs a directory name"
  | unknownOption argument => "unknown option '" ++ argument ++ "'"
  | noTreeFile => "missing tree file"

/-- What one argument means. -/
inductive Argument where
  | projectRoot (name : String)
  | pretty
  | unknown (text : String)
  | path (text : String)
deriving DecidableEq, Repr

namespace Argument

/-- What stands before the name of the project directory. -/
def projectRootMark : List Char := "--project-root=".toList

/-- Read one argument.  A path does not begin with a dash. -/
def ofText (text : String) : Argument :=
  if projectRootMark.isPrefixOf text.toList then
    projectRoot (String.ofList (text.toList.drop projectRootMark.length))
  else if text = "--pretty" then pretty
  else if ['-'].isPrefixOf text.toList then unknown text
  else path text

end Argument

namespace Options

/-- The options after one more argument. -/
def add (options : Options) : Argument → Except UsageFault Options
  | .projectRoot name =>
    if name.isEmpty then .error .emptyProjectRoot else .ok { options with projectRoot := name }
  | .pretty => .ok { options with pretty := true }
  | .unknown text => .error (.unknownOption text)
  | .path text => .ok { options with paths := options.paths ++ [text] }

/-- Read the arguments behind the name of the program. -/
def ofArguments (arguments : List String) : Except UsageFault Options := do
  let options ← (arguments.map Argument.ofText).foldlM add {}
  if options.paths.isEmpty then .error .noTreeFile else return options

end Options

end ModuleCatalog
