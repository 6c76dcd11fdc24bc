import Mathlib.Data.List.Forall2
import ModuleCatalog.CatalogJson
import ModuleCatalog.Proofs.Reading

/-! # Catalogs rendered

    What a rendered catalog has to show is said by the relations here: nine
    members in a fixed order, tables as objects with ascending keys, sets as
    ascending arrays, and `null` for what is not known of the file.  Texts are
    ordered by their code points.  Both layouts spell a value that shows the
    catalogs, a reader gets that value from either of them, and they differ in
    blanks only (`Catalog.render_spells`). -/

namespace ModuleCatalog

open Json (Value)

/-! ## What a value shows -/

/-- A text that may be missing: it is a string, or `null` where it is. -/
def ShowsText : Option String → Value String → Prop
  | some text, value => value = .string text
  | none, value => value = .null

/-- A set is an array of its members, each once and in ascending order. -/
def ShowsSet (symbols : SymbolSet) (value : Value String) : Prop :=
  ∃ texts : List String, value = .array (texts.map .string) ∧ texts.Pairwise (· < ·) ∧
    ∀ text, text ∈ texts ↔ text ∈ symbols

/-- A list is an array with what each of its items shows, in the same order. -/
def ShowsList {α : Type} (shows : α → Value String → Prop) (items : List α)
    (value : Value String) : Prop :=
  ∃ values, value = .array values ∧ List.Forall₂ shows items values

/-- A table is an object with a member for each row and no other, in ascending
    order of the names. -/
def ShowsTable {β : Type} (shows : β → Value String → Prop)
    (table : Std.ExtTreeMap ModuleName β) (value : Value String) : Prop :=
  ∃ members, value = .object members ∧ (members.map Prod.fst).Pairwise (· < ·) ∧
    (∀ (name : ModuleName) (row : β), table[name]? = some row →
      ∃ shown, (name.text, shown) ∈ members ∧ shows row shown) ∧
    ∀ key shown, (key, shown) ∈ members →
      ∃ (name : ModuleName) (row : β), name.text = key ∧ table[name]? = some row ∧ shows row shown

/-- A name is its text. -/
def ModuleName.Shows (name : ModuleName) (value : Value String) : Prop :=
  value = .string name.text

/-- A use clause is an object with the target as its only key: a lone star
    stands for everything, and a list of names for itself. -/
def UseClause.Shows (clause : UseClause) (value : Value String) : Prop :=
  match clause.selection with
  | .everything => value = .object [(clause.target.text, .array [.string "*"])]
  | .only names => value = .object [(clause.target.text, .array (names.map .string))]

/-- A resolved use clause is an object with the target as its only key. -/
def Import.Shows (i : Import) (value : Value String) : Prop :=
  ∃ symbols, value = .object [(i.target.text, symbols)] ∧ ShowsSet i.symbols symbols

/-- What is known of the file is an array of its name and its directory. -/
def SourceFile.Shows (file : SourceFile) (value : Value String) : Prop :=
  ∃ name directory, value = .array [name, directory] ∧ ShowsText file.name name ∧
    ShowsText file.directory directory

namespace Catalog

/-- A catalog is an object with nine members in a fixed order. -/
def Shows (c : Catalog) (value : Value String) : Prop :=
  ∃ file modules exports uses imports hidden variableNames subprograms symbols,
    value = .object
      [("FileName", file), ("Modules", modules), ("Exports", exports), ("Uses", uses),
        ("Imports", imports), ("Private", hidden), ("Public", variableNames),
        ("Subpgms", subprograms), ("Syms", symbols)] ∧
    c.file.Shows file ∧ ShowsList ModuleName.Shows c.modules modules ∧
    ShowsTable ShowsSet c.exports exports ∧
    ShowsTable (ShowsList UseClause.Shows) c.uses uses ∧
    ShowsTable (ShowsList Import.Shows) c.imports imports ∧
    ShowsTable ShowsSet c.hidden hidden ∧ ShowsTable ShowsSet c.variableNames variableNames ∧
    ShowsTable ShowsSet c.subprograms subprograms ∧ ShowsTable ShowsSet c.symbols symbols

/-- A single catalog is shown as it is, and any other number of them as an
    array. -/
def ShowsAll : List Catalog → Value String → Prop
  | [c], value => c.Shows value
  | catalogs, value => ShowsList Shows catalogs value

end Catalog

/-! ## What is written shows what it is made for -/

theorem showsText_textValue? (text? : Option String) : ShowsText text? (textValue? text?) := by
  cases text? <;> rfl

/-- Strings in the order of `compare` are in ascending order. -/
theorem lt_of_compare_eq_lt {s t : String} (h : compare s t = .lt) : s < t :=
  compareOfLessAndEq_eq_lt.mp h

theorem showsSet_symbolsValue (symbols : SymbolSet) : ShowsSet symbols (symbolsValue symbols) := by
  refine ⟨symbols.toList, rfl, ?_, ?_⟩
  · exact Std.ExtTreeSet.ordered_toList.imp lt_of_compare_eq_lt
  · intro text
    exact Std.ExtTreeSet.mem_toList

theorem showsList_array {α : Type} {shows : α → Value String → Prop} {toValue : α → Value String}
    (h : ∀ item, shows item (toValue item)) (items : List α) :
    ShowsList shows items (.array (items.map toValue)) := by
  refine ⟨items.map toValue, rfl, ?_⟩
  induction items with
  | nil => exact .nil
  | cons item items ih => exact .cons (h item) ih

theorem showsTable_tableValue {β : Type} {shows : β → Value String → Prop}
    {toValue : β → Value String} (h : ∀ row, shows row (toValue row))
    (table : Std.ExtTreeMap ModuleName β) : ShowsTable shows table (tableValue toValue table) := by
  refine ⟨_, rfl, ?_, ?_, ?_⟩
  · rw [List.map_map, List.pairwise_map]
    refine Std.ExtTreeMap.ordered_keys_toList.imp ?_
    intro a b hlt
    exact lt_of_compare_eq_lt hlt
  · intro name row hrow
    have hmem := Std.ExtTreeMap.mem_toList_iff_getElem?_eq_some.mpr hrow
    exact ⟨toValue row, List.mem_map.mpr ⟨(name, row), hmem, rfl⟩, h row⟩
  · intro key shown hmember
    obtain ⟨⟨name, row⟩, hmem, e⟩ := List.mem_map.mp hmember
    cases e
    exact ⟨name, row, rfl, Std.ExtTreeMap.mem_toList_iff_getElem?_eq_some.mp hmem, h row⟩

theorem UseClause.shows_toValue (clause : UseClause) : clause.Shows clause.toValue := by
  obtain ⟨target, selection⟩ := clause
  cases selection <;> rfl

theorem Import.shows_toValue (i : Import) : i.Shows i.toValue :=
  ⟨_, rfl, showsSet_symbolsValue i.symbols⟩

theorem SourceFile.shows_toValue (file : SourceFile) : file.Shows file.toValue :=
  ⟨_, _, rfl, showsText_textValue? file.name, showsText_textValue? file.directory⟩

namespace Catalog

theorem shows_toValue (c : Catalog) : c.Shows c.toValue := by
  have hmodules : ShowsList ModuleName.Shows c.modules
      (textsValue (c.modules.map ModuleName.text)) := by
    have hname : ∀ name : ModuleName, name.Shows (.string name.text) := fun name => rfl
    rw [textsValue, List.map_map]
    exact showsList_array hname c.modules
  refine ⟨_, _, _, _, _, _, _, _, _, rfl, c.file.shows_toValue, hmodules, ?_, ?_, ?_, ?_, ?_, ?_, ?_⟩
  · exact showsTable_tableValue showsSet_symbolsValue c.exports
  · exact showsTable_tableValue (showsList_array UseClause.shows_toValue) c.uses
  · exact showsTable_tableValue (showsList_array Import.shows_toValue) c.imports
  · exact showsTable_tableValue showsSet_symbolsValue c.hidden
  · exact showsTable_tableValue showsSet_symbolsValue c.variableNames
  · exact showsTable_tableValue showsSet_symbolsValue c.subprograms
  · exact showsTable_tableValue showsSet_symbolsValue c.symbols

theorem showsAll_valueOf (catalogs : List Catalog) : ShowsAll catalogs (valueOf catalogs) := by
  match catalogs with
  | [] => exact showsList_array shows_toValue []
  | [c] => exact c.shows_toValue
  | c :: c' :: rest => exact showsList_array shows_toValue (c :: c' :: rest)

end Catalog

/-! ## Catalogs hold no numbers -/

theorem numberless_textValue? (text? : Option String) : (textValue? text?).Numberless := by
  cases text? with
  | none => exact Value.numberless_null
  | some text => exact Value.numberless_string text

theorem numberless_textsValue (texts : List String) : (textsValue texts).Numberless := by
  refine Value.numberless_array ?_
  intro item hitem
  obtain ⟨text, -, rfl⟩ := List.mem_map.mp hitem
  exact Value.numberless_string text

theorem numberless_arrayOf {α : Type} {toValue : α → Value String}
    (h : ∀ item, (toValue item).Numberless) (items : List α) :
    (Value.array (items.map toValue)).Numberless := by
  refine Value.numberless_array ?_
  intro value hvalue
  obtain ⟨item, -, rfl⟩ := List.mem_map.mp hvalue
  exact h item

theorem numberless_tableValue {β : Type} {toValue : β → Value String}
    (h : ∀ row, (toValue row).Numberless) (table : Std.ExtTreeMap ModuleName β) :
    (tableValue toValue table).Numberless := by
  refine Value.numberless_object ?_
  intro member hmember
  obtain ⟨⟨name, row⟩, -, rfl⟩ := List.mem_map.mp hmember
  exact h row

/-- An object with one key holds no numbers if its member does not. -/
theorem numberless_single {key : String} {value : Value String} (h : value.Numberless) :
    (Value.object [(key, value)]).Numberless := by
  refine Value.numberless_object ?_
  intro member hmember
  obtain rfl := List.mem_singleton.mp hmember
  exact h

namespace Catalog

theorem numberless_toValue (c : Catalog) : c.toValue.Numberless := by
  have hsymbols : ∀ symbols, (symbolsValue symbols).Numberless :=
    fun symbols => numberless_textsValue symbols.toList
  have huse : ∀ clause : UseClause, clause.toValue.Numberless :=
    fun clause => numberless_single (numberless_textsValue _)
  have himport : ∀ i : Import, i.toValue.Numberless :=
    fun i => numberless_single (hsymbols i.symbols)
  have hfile : c.file.toValue.Numberless := by
    refine Value.numberless_array ?_
    simp only [List.forall_mem_cons]
    exact ⟨numberless_textValue? _, numberless_textValue? _, by simp⟩
  refine Value.numberless_object ?_
  simp only [List.forall_mem_cons]
  refine ⟨hfile, numberless_textsValue _, ?_, ?_, ?_, ?_, ?_, ?_, ?_, by simp⟩
  · exact numberless_tableValue hsymbols c.exports
  · exact numberless_tableValue (numberless_arrayOf huse) c.uses
  · exact numberless_tableValue (numberless_arrayOf himport) c.imports
  · exact numberless_tableValue hsymbols c.hidden
  · exact numberless_tableValue hsymbols c.variableNames
  · exact numberless_tableValue hsymbols c.subprograms
  · exact numberless_tableValue hsymbols c.symbols

theorem numberless_valueOf (catalogs : List Catalog) : (valueOf catalogs).Numberless := by
  match catalogs with
  | [] => exact numberless_arrayOf numberless_toValue []
  | [c] => exact c.numberless_toValue
  | c :: c' :: rest => exact numberless_arrayOf numberless_toValue (c :: c' :: rest)

/-- What is rendered is read as the value of the catalogs. -/
theorem read_render (catalogs : List Catalog) (pretty : Bool) :
    Json.read (render catalogs pretty) = .ok ((valueOf catalogs).map some) :=
  Json.read_write (numberless_valueOf catalogs) pretty

/-- The indented text without its blanks is the compact one. -/
theorem withoutBlanks_render (catalogs : List Catalog) :
    Json.withoutBlanks (render catalogs true) = render catalogs false :=
  Json.withoutBlanks_of_spells ((valueOf catalogs).spells_write true) (numberless_valueOf catalogs)

/-- The value of some catalogs shows them, both layouts spell it, and a reader
    gets it back from either of them, every literal of it a text.  So they tell
    the same, and deleting the blanks outside of the string literals of the
    indented text leaves the compact text. -/
theorem render_spells (catalogs : List Catalog) :
    ShowsAll catalogs (valueOf catalogs) ∧
      (∀ pretty, Json.Spells (valueOf catalogs).tokens (render catalogs pretty).toList ∧
        Json.read (render catalogs pretty) = .ok ((valueOf catalogs).map some)) ∧
      Json.withoutBlanks (render catalogs true) = render catalogs false := by
  refine ⟨showsAll_valueOf catalogs, ?_, withoutBlanks_render catalogs⟩
  intro pretty
  exact ⟨(valueOf catalogs).spells_write pretty, read_render catalogs pretty⟩

end Catalog

end ModuleCatalog
