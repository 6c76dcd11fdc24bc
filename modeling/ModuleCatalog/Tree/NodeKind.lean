/-! # Kinds of nodes

    A program tree holds nodes with arbitrary tags.  The tags listed here name
    the constructs that the catalog is made from; every other tag is only a
    layer between a node and what lies below it. -/

namespace ModuleCatalog

/-- The constructs that a catalog is made from. -/
inductive NodeKind where
  /-- The main program, also the fallback for what precedes every unit. -/
  | program
  | module
  | variable
  | subroutine
  | function
  /-- A declaration statement, in which names may be hidden. -/
  | declaration
  /-- The access that a declaration gives to the names after it. -/
  | accessSpec
  /-- A clause that brings in another module. -/
  | use
  /-- The names that a use clause is limited to. -/
  | only
  | name
  /-- The file that the tree was made from. -/
  | file
deriving DecidableEq, Repr

namespace NodeKind

/-- Every kind, in the order of the vocabulary. -/
def all : List NodeKind :=
  [.program, .module, .variable, .subroutine, .function, .declaration, .accessSpec, .use, .only,
    .name, .file]

/-- The lower-case spelling of a kind as a tag. -/
def tag : NodeKind → String
  | .program => "program"
  | .module => "module"
  | .variable => "variable"
  | .subroutine => "subroutine"
  | .function => "function"
  | .declaration => "declaration"
  | .accessSpec => "access-spec"
  | .use => "use"
  | .only => "only"
  | .name => "name"
  | .file => "file"

instance : ToString NodeKind := ⟨tag⟩

/-- The kind that a tag names.  ASCII letter case makes no difference; other
    letters have to agree as they are. -/
def ofTag? (tag : String) : Option NodeKind :=
  let folded := tag.toLower
  all.find? fun kind => kind.tag == folded

/-- The place of a kind in the vocabulary. -/
def position (kind : NodeKind) : Nat := all.idxOf kind

/-- The vocabulary is complete. -/
theorem mem_all (kind : NodeKind) : kind ∈ all := by
  cases kind <;> decide

/-- Each kind is read back from its own spelling. -/
@[simp] theorem ofTag?_tag (kind : NodeKind) : ofTag? kind.tag = some kind := by
  cases kind <;> decide +kernel

end NodeKind

end ModuleCatalog
