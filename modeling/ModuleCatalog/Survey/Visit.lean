import ModuleCatalog.Survey.Basic
import ModuleCatalog.Survey.Fault
import ModuleCatalog.Tree.Node

/-! # Surveying a tree

    A tree is surveyed by visiting its nodes in document order.  A module or
    program opens a unit, and what follows belongs to that unit until the next
    one is opened, however the nodes are nested.  What precedes every unit
    belongs to the entry point, the first program of the tree.

    A declaration is read as a whole when it is visited: names behind a
    private marker inside it are hidden.  The nodes inside it are visited
    again in their turn. -/

namespace ModuleCatalog

namespace Node

/-- The attribute under `key`, which every node of the given kind needs. -/
def require (n : Node) (kind : NodeKind) (key : String) : Except TreeFault String :=
  match n.attr? key with
  | some value => .ok value
  | none => .error (.missingAttribute kind key)

/-- The attribute under `key` in lower case. -/
def symbol (n : Node) (kind : NodeKind) (key : String) : Except TreeFault String :=
  Text.lower <$> n.require kind key

/-- The unit that a node of the given kind names.  The text comes in lower case,
    and the name takes it to lower case once more. -/
def unitNamed (n : Node) (kind : NodeKind) : Except TreeFault ModuleName :=
  ModuleName.ofSpelling <$> n.symbol kind "name"

/-- The children of one kind. -/
def childrenOfKind (n : Node) (kind : NodeKind) : List Node :=
  n.children.filter fun child => child.kind? == some kind

/-- The names that a use clause is limited to: those directly under the lists
    that stand directly under the clause. -/
def onlyNames (n : Node) : Except TreeFault (List String) :=
  ((n.childrenOfKind .only).flatMap (·.childrenOfKind .name)).mapM (·.symbol .name "id")

end Node

/-- The name of the first program of a tree, if the tree has a program. -/
def entryPoint (root : Node) : Except TreeFault (Option ModuleName) :=
  match (descendants root).find? fun n => n.kind? == some .program with
  | none => .ok none
  | some program => some <$> program.unitNamed .program

/-! ## Declarations -/

/-- How far a declaration has been read. -/
structure DeclarationScan where
  /-- Whether a private marker has been passed. -/
  marking : Bool := false
  /-- The names behind it. -/
  hidden : SymbolSet := ∅

/-- Read one node of a declaration.  A marker needs its keyword, and a name
    behind a private marker needs its text and a unit to belong to. -/
def DeclarationScan.read (home : Except TreeFault ModuleName) (scan : DeclarationScan)
    (n : Node) : Except TreeFault DeclarationScan :=
  match n.kind? with
  | some .accessSpec => do
    let keyword ← n.symbol .accessSpec "keyword"
    return if keyword = "private" then { scan with marking := true } else scan
  | some .name =>
    if scan.marking then do
      let symbol ← n.symbol .name "id"
      let _ ← home
      return { scan with hidden := scan.hidden.insert symbol }
    else .ok scan
  | _ => .ok scan

/-- The names that a declaration hides in the unit `home`. -/
def Node.hiddenNames (n : Node) (home : Except TreeFault ModuleName) :
    Except TreeFault SymbolSet :=
  DeclarationScan.hidden <$> (descendants n).foldlM (DeclarationScan.read home) {}

/-! ## The pass over a tree -/

/-- What stays the same during one pass. -/
structure Setting where
  /-- The name of the project directory. -/
  projectRoot : String
  /-- The first program of the tree. -/
  entryPoint : Option ModuleName

/-- A pass that has come to some place in the tree. -/
structure Pass where
  /-- The modules and programs so far, in the order in which they first
      appeared. -/
  modules : List ModuleName := []
  /-- What the nodes have contributed so far to which unit, last one first. -/
  contributions : List (ModuleName × Contribution) := []
  /-- What is known so far of the source file. -/
  file : SourceFile := {}
  /-- The unit that was opened last. -/
  opened : Option ModuleName := none

namespace Pass

/-- The unit that a node of the given kind belongs to at this place. -/
def home (setting : Setting) (p : Pass) (kind : NodeKind) : Except TreeFault ModuleName :=
  match p.opened.or setting.entryPoint with
  | some name => .ok name
  | none => .error (.unscoped kind)

/-- The pass after a contribution to a unit. -/
def contribute (p : Pass) (name : ModuleName) (contribution : Contribution) : Pass :=
  { p with contributions := (name, contribution) :: p.contributions }

/-- A module or program opens its unit. -/
def enterUnit (p : Pass) (kind : NodeKind) (n : Node) : Except TreeFault Pass := do
  let name ← n.unitNamed kind
  let modules := if name ∈ p.modules then p.modules else p.modules ++ [name]
  return { p with modules, opened := some name }

/-- The name of a node is contributed to the unit that the node belongs to.
    Nodes without a name contribute nothing. -/
def addNamed (setting : Setting) (p : Pass) (kind : NodeKind) (n : Node)
    (contribution : String → Contribution) : Except TreeFault Pass :=
  match n.attr? "name" with
  | none => .ok p
  | some name => do
    let home ← p.home setting kind
    return p.contribute home (contribution (Text.lower name))

/-- A declaration hides names.  Where it hides none, no unit is needed. -/
def addDeclaration (setting : Setting) (p : Pass) (n : Node) : Except TreeFault Pass := do
  let hidden ← n.hiddenNames (p.home setting .declaration)
  if hidden.isEmpty then return p
  let home ← p.home setting .declaration
  return p.contribute home (.hidden hidden)

/-- A use clause names its target and the symbols that it is limited to. -/
def addUse (setting : Setting) (p : Pass) (n : Node) : Except TreeFault Pass := do
  let target ← n.unitNamed .use
  let names ← n.onlyNames
  let home ← p.home setting .use
  return p.contribute home (.use ⟨target, .ofNames names⟩)

/-- A file node tells the path of the tree file. -/
def addFile (setting : Setting) (p : Pass) (n : Node) : Except TreeFault Pass := do
  let path ← n.require .file "path"
  return { p with file := p.file.learn setting.projectRoot path }

/-- Visit one node.  Access specifications, lists of names and names are read
    with the declaration or use clause above them. -/
def visit (setting : Setting) (p : Pass) (n : Node) : Except TreeFault Pass :=
  match n.kind? with
  | some .program => p.enterUnit .program n
  | some .module => p.enterUnit .module n
  | some .variable => p.addNamed setting .variable n .variable
  | some .subroutine => p.addNamed setting .subroutine n .subprogram
  | some .function => p.addNamed setting .function n .subprogram
  | some .declaration => p.addDeclaration setting n
  | some .use => p.addUse setting n
  | some .file => p.addFile setting n
  | some .accessSpec | some .only | some .name | none => .ok p

/-- What a pass through a whole tree has found out. -/
def survey (p : Pass) : Survey where
  modules := p.modules
  records := .gather p.contributions
  file := p.file

end Pass

/-- Survey the tree at `root`. -/
def Survey.ofTree (root : Node) (projectRoot : String := SourceFile.defaultRoot) :
    Except TreeFault Survey := do
  let setting : Setting := { projectRoot, entryPoint := ← entryPoint root }
  Pass.survey <$> (descendants root).foldlM (Pass.visit setting) {}

end ModuleCatalog
