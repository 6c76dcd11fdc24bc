import ModuleCatalog.Survey.Visit
import ModuleCatalog.Tables

/-! # Catalogs

    The catalog of a tree holds what other tools ask for: the units, their
    tables, and the file that the tree was made from. -/

namespace ModuleCatalog

/-- What is known of the units of one tree. -/
structure Catalog where
  file : SourceFile := {}
  /-- The modules and programs, in the order in which they first appear. -/
  modules : List ModuleName := []
  exports : SymbolTable := ∅
  /-- The use clauses as written, also those that bring in nothing. -/
  uses : Std.ExtTreeMap ModuleName (List UseClause) := ∅
  imports : ImportTable := ∅
  hidden : SymbolTable := ∅
  variableNames : SymbolTable := ∅
  subprograms : SymbolTable := ∅
  symbols : SymbolTable := ∅

namespace Catalog

/-- A set of symbols, unless it is empty. -/
def nonempty? (symbols : SymbolSet) : Option SymbolSet :=
  if symbols.isEmpty then none else some symbols

/-- The catalog of a survey and the tables drawn up from it.  Units that hold
    none of a sort have no row for that sort. -/
def ofTables (s : Survey) (symbols exports : SymbolTable) (imports : ImportTable) : Catalog where
  file := s.file
  modules := s.modules
  exports := exports
  uses := s.records.tabulate fun record => Survey.nonempty? record.uses
  imports := imports
  hidden := s.records.tabulate fun record => nonempty? record.hidden
  variableNames := s.records.tabulate fun record => nonempty? record.variableNames
  subprograms := s.records.tabulate fun record => nonempty? record.subprograms
  symbols := symbols

/-- The catalog of a survey. -/
def ofSurvey (s : Survey) : Catalog :=
  let symbols := s.symbolTable
  let exports := s.exportTable symbols
  ofTables s symbols exports (s.importTable exports)

/-- The catalog of the tree at `root`. -/
def ofTree (root : Node) (projectRoot : String := SourceFile.defaultRoot) :
    Except TreeFault Catalog :=
  ofSurvey <$> Survey.ofTree root projectRoot

/-- Whether the tree opens no unit at all. -/
def isEmpty (c : Catalog) : Bool := c.modules.isEmpty

end Catalog

end ModuleCatalog
