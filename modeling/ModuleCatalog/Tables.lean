import ModuleCatalog.Survey.Basic

/-! # Symbols, exports and imports

    Three tables are drawn up from a survey, each from the ones before it: the
    symbols that each unit declares, those of them that it exports, and what
    its use clauses bring in.  Exports are fixed before any clause is resolved,
    so a clause sees what its target declares itself and never what the target
    brings in. -/

namespace ModuleCatalog

/-- Symbols under the names of units. -/
abbrev SymbolTable := Std.ExtTreeMap ModuleName SymbolSet

/-- What a use clause brings in: symbols of its target. -/
structure Import where
  target : ModuleName
  symbols : SymbolSet

/-- The resolved use clauses under the names of the units that hold them. -/
abbrev ImportTable := Std.ExtTreeMap ModuleName (List Import)

/-- The row under a text.  Only a text in lower case can be a name. -/
def rowAt? {β : Type} (table : Std.ExtTreeMap ModuleName β) (text : String) : Option β :=
  (ModuleName.ofText? text).bind fun name => table[name]?

namespace Survey

/-- The symbols that a unit declares; none if it has no record. -/
def symbolsOf (s : Survey) (name : ModuleName) : SymbolSet :=
  match s.record? name with
  | some record => record.symbols
  | none => ∅

/-- The symbols that each listed unit declares. -/
def symbolTable (s : Survey) : SymbolTable :=
  .ofList (s.modules.map fun name => (name, s.symbolsOf name))

/-- The symbols of each unit that are not hidden.  A hidden symbol stays hidden
    when it is also a variable or a subprogram. -/
def exportTable (s : Survey) (symbols : SymbolTable) : SymbolTable :=
  symbols.map fun name declared =>
    match s.record? name with
    | some record => declared \ record.hidden
    | none => declared

/-- What one use clause brings in.  A clause without a list brings in all that
    its target exports, and nothing from an unknown target; a list of two or
    more names is taken as it is; a list of one name is dropped. -/
def resolveUse (exports : SymbolTable) (clause : UseClause) : Option Import :=
  match clause.selection with
  | .everything => some ⟨clause.target, exports[clause.target]?.getD ∅⟩
  | .only names =>
    if names.length > 1 then some ⟨clause.target, .ofList names⟩ else none

/-- A list, unless it is empty. -/
def nonempty? {α : Type u} (l : List α) : Option (List α) :=
  if l.isEmpty then none else some l

/-- The resolved clauses of each unit in their order.  Units of which no clause
    is left have no row. -/
def importTable (s : Survey) (exports : SymbolTable) : ImportTable :=
  s.records.tabulate fun record => nonempty? (record.uses.filterMap (resolveUse exports))

end Survey

end ModuleCatalog
