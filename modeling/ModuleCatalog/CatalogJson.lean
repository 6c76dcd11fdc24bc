import ModuleCatalog.Catalog
import ModuleCatalog.Json.Writer

/-! # Catalogs in JSON

    A catalog is an object with nine members in a fixed order.  Tables are
    objects with their names in ascending order, sets are arrays in ascending
    order, and a use clause is an object with its target as the only key. -/

namespace ModuleCatalog

open Json (Value)

/-- The value of a text that may be missing. -/
def textValue? : Option String → Value String
  | some text => .string text
  | none => .null

/-- The array of some texts. -/
def textsValue (texts : List String) : Value String :=
  .array (texts.map .string)

/-- The array of a set of symbols. -/
def symbolsValue (symbols : SymbolSet) : Value String :=
  textsValue symbols.toList

/-- The object of a table, with `row` for the value of a row. -/
def tableValue {β : Type} (row : β → Value String) (table : Std.ExtTreeMap ModuleName β) :
    Value String :=
  .object (table.toList.map fun (name, content) => (name.text, row content))

/-- The texts that stand for a selection; a lone star stands for everything. -/
def Selection.texts : Selection → List String
  | everything => ["*"]
  | only names => names

/-- The value of a use clause as written. -/
def UseClause.toValue (clause : UseClause) : Value String :=
  .object [(clause.target.text, textsValue clause.selection.texts)]

/-- The value of a resolved use clause. -/
def Import.toValue (i : Import) : Value String :=
  .object [(i.target.text, symbolsValue i.symbols)]

/-- The value of what is known of the source file: its name and directory. -/
def SourceFile.toValue (file : SourceFile) : Value String :=
  .array [textValue? file.name, textValue? file.directory]

namespace Catalog

/-- The value of a catalog. -/
def toValue (c : Catalog) : Value String :=
  .object
    [("FileName", c.file.toValue),
     ("Modules", textsValue (c.modules.map ModuleName.text)),
     ("Exports", tableValue symbolsValue c.exports),
     ("Uses", tableValue (fun clauses => .array (clauses.map UseClause.toValue)) c.uses),
     ("Imports", tableValue (fun imports => .array (imports.map Import.toValue)) c.imports),
     ("Private", tableValue symbolsValue c.hidden),
     ("Public", tableValue symbolsValue c.variableNames),
     ("Subpgms", tableValue symbolsValue c.subprograms),
     ("Syms", tableValue symbolsValue c.symbols)]

/-- The value of some catalogs: a single one is not wrapped in an array. -/
def valueOf : List Catalog → Value String
  | [c] => c.toValue
  | catalogs => .array (catalogs.map toValue)

/-- The text of some catalogs. -/
def render (catalogs : List Catalog) (pretty : Bool) : String :=
  (valueOf catalogs).write pretty

end Catalog

end ModuleCatalog
