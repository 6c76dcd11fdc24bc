import ModuleCatalog.Catalog

/-! # Rows of tables

    What stands under a name in each of the tables that are drawn up from a
    survey.  The surveys are arbitrary here: a listed name may lack a record,
    a record may lack a listing, and a name may be listed more than once. -/

namespace ModuleCatalog

/-- A table of what `f` makes of some names has a row for each of them, also
    when a name is repeated. -/
theorem getElem?_ofList_map {β : Type} (names : List ModuleName) (f : ModuleName → β)
    (name : ModuleName) :
    (Std.ExtTreeMap.ofList (names.map fun n => (n, f n)))[name]? =
      if name ∈ names then some (f name) else none := by
  -- a row that is put in once more holds the same, so rows already there do not matter
  have hinsert : ∀ table : Std.ExtTreeMap ModuleName β,
      (table.insertMany (names.map fun n => (n, f n)))[name]? =
        if name ∈ names then some (f name) else table[name]? := by
    induction names with
    | nil =>
      intro table
      rfl
    | cons n names ih =>
      intro table
      rw [List.map_cons, Std.ExtTreeMap.insertMany_cons, ih]
      by_cases hmem : name ∈ names
      · rw [if_pos hmem, if_pos (List.mem_cons_of_mem n hmem)]
      · rw [if_neg hmem, Std.ExtTreeMap.getElem?_insert]
        by_cases h : n = name
        · simp [h]
        · have hcompare : compare n name ≠ .eq := fun e => h (Std.LawfulEqOrd.eq_of_compare e)
          simp [hcompare, hmem, Ne.symm h]
  rw [Std.ExtTreeMap.ofList_eq_insertMany_empty, hinsert, Std.ExtTreeMap.getElem?_empty]

/-- An empty set is left out, and read as empty again. -/
@[simp] theorem Catalog.getD_nonempty? (symbols : SymbolSet) :
    (Catalog.nonempty? symbols).getD ∅ = symbols := by
  unfold Catalog.nonempty?
  by_cases h : symbols.isEmpty = true
  · rw [if_pos h, Std.ExtTreeSet.isEmpty_iff.mp h, Option.getD_none]
  · rw [if_neg h, Option.getD_some]

namespace Survey

variable {s : Survey} {name : ModuleName}

/-- An empty list is left out, and read as empty again. -/
@[simp] theorem getD_nonempty? {α : Type u} (l : List α) : (nonempty? l).getD [] = l := by
  cases l <;> rfl

theorem nonempty?_eq_some_iff {α : Type u} {l l' : List α} :
    nonempty? l = some l' ↔ l ≠ [] ∧ l' = l := by
  cases l <;> simp [nonempty?, eq_comm]

theorem getElem?_symbolTable (s : Survey) (name : ModuleName) :
    s.symbolTable[name]? = if name ∈ s.modules then some (s.symbolsOf name) else none :=
  getElem?_ofList_map s.modules s.symbolsOf name

/-- Listed units, and only those, have their symbols in the table. -/
theorem mem_symbolTable_iff : name ∈ s.symbolTable ↔ name ∈ s.modules := by
  rw [Std.ExtTreeMap.mem_iff_isSome_getElem?, getElem?_symbolTable]
  by_cases h : name ∈ s.modules <;> simp [h]

/-- Exports are drawn up for the units of the table of symbols. -/
theorem mem_exportTable_iff {symbols : SymbolTable} :
    name ∈ s.exportTable symbols ↔ name ∈ symbols :=
  Std.ExtTreeMap.mem_map

/-- A unit has a row in a table of its records only if it has a record. -/
theorem exists_record_of_mem_tabulate {β : Type} {f : UnitRecord → Option β}
    (h : name ∈ s.records.tabulate f) : ∃ record, s.record? name = some record := by
  rw [Std.ExtTreeMap.mem_iff_isSome_getElem?, RecordBook.getElem?_tabulate] at h
  cases hrecord : s.records.find? name with
  | none =>
    rw [hrecord] at h
    cases h
  | some record => exact ⟨record, hrecord⟩

/-! ## The record of a unit -/

/-- The record of a unit, a blank one if it has none. -/
def recordOf (s : Survey) (name : ModuleName) : UnitRecord := (s.record? name).getD { name }

theorem symbolsOf_eq (s : Survey) (name : ModuleName) :
    s.symbolsOf name = (s.recordOf name).symbols := by
  unfold symbolsOf recordOf
  cases s.record? name with
  | none => rfl
  | some record => rfl

/-- A table that leaves blank records out has the row that is made of the
    record of a unit, be there one or not. -/
theorem getElem?_tabulate {β : Type} {f : UnitRecord → Option β} (hblank : f { name } = none) :
    (s.records.tabulate f)[name]? = f (s.recordOf name) := by
  rw [RecordBook.getElem?_tabulate, recordOf, record?]
  cases s.records.find? name with
  | none => exact hblank.symm
  | some record => rfl

/-- The row of one sort of symbols holds those of the record of the unit. -/
theorem getD_tabulate {sort : UnitRecord → SymbolSet} (hblank : sort { name } = ∅) :
    (s.records.tabulate fun record => Catalog.nonempty? (sort record))[name]?.getD ∅ =
      sort (s.recordOf name) := by
  have hnone : Catalog.nonempty? (sort { name }) = none := by
    rw [hblank]
    rfl
  rw [getElem?_tabulate hnone, Catalog.getD_nonempty?]

/-- Of the symbols given for a unit those are exported that it does not hide. -/
theorem getElem?_exportTable (s : Survey) (symbols : SymbolTable) (name : ModuleName) :
    (s.exportTable symbols)[name]? = symbols[name]?.map (· \ (s.recordOf name).hidden) := by
  unfold exportTable recordOf
  rw [Std.ExtTreeMap.getElem?_map]
  cases s.record? name with
  | some record => rfl
  | none =>
    -- nothing is taken away for a unit without a record
    have hempty : ∀ declared : SymbolSet, declared \ ∅ = declared := by
      intro declared
      refine Std.ExtTreeSet.ext_mem fun symbol => ?_
      simp
    simp [hempty]

/-- The symbols of a listed unit are those of its record. -/
theorem mem_getD_symbolTable_iff {symbol : String} :
    symbol ∈ s.symbolTable[name]?.getD ∅ ↔
      name ∈ s.modules ∧ symbol ∈ (s.recordOf name).symbols := by
  rw [getElem?_symbolTable, symbolsOf_eq]
  by_cases hlisted : name ∈ s.modules <;> simp [hlisted]

/-- The exports of a listed unit are the symbols of its record that it does not
    hide. -/
theorem mem_getD_exportTable_iff {symbol : String} :
    symbol ∈ (s.exportTable s.symbolTable)[name]?.getD ∅ ↔
      name ∈ s.modules ∧ symbol ∈ (s.recordOf name).symbols ∧
        symbol ∉ (s.recordOf name).hidden := by
  rw [getElem?_exportTable, getElem?_symbolTable, symbolsOf_eq]
  by_cases hlisted : name ∈ s.modules <;> simp [hlisted]

theorem getElem?_importTable (s : Survey) (exports : SymbolTable) (name : ModuleName) :
    (s.importTable exports)[name]? =
      nonempty? ((s.recordOf name).uses.filterMap (resolveUse exports)) :=
  getElem?_tabulate rfl

/-! ## Surveys with the same tables -/

variable {s' : Survey}

/-- The tables of a sort of symbols agree when the records do. -/
theorem tabulate_eq {sort : UnitRecord → SymbolSet}
    (hblank : ∀ name, sort { name } = ∅)
    (hsort : ∀ name, sort (s'.recordOf name) = sort (s.recordOf name)) :
    (s'.records.tabulate fun record => Catalog.nonempty? (sort record)) =
      s.records.tabulate fun record => Catalog.nonempty? (sort record) := by
  have hnone : ∀ name, Catalog.nonempty? (sort { name }) = none := by
    intro name
    rw [hblank]
    rfl
  refine Std.ExtTreeMap.ext_getElem? fun name => ?_
  rw [getElem?_tabulate (hnone name), getElem?_tabulate (hnone name), hsort]

/-- The table of symbols is told from the units and their symbols. -/
theorem symbolTable_congr (hmodules : ∀ name, name ∈ s'.modules ↔ name ∈ s.modules)
    (hsymbols : ∀ name, (s'.recordOf name).symbols = (s.recordOf name).symbols) :
    s'.symbolTable = s.symbolTable := by
  refine Std.ExtTreeMap.ext_getElem? fun name => ?_
  rw [getElem?_symbolTable, getElem?_symbolTable, symbolsOf_eq, symbolsOf_eq]
  simp only [hmodules, hsymbols]

/-- What is exported of given symbols is told from what the units hide. -/
theorem exportTable_congr (hhidden : ∀ name, (s'.recordOf name).hidden = (s.recordOf name).hidden)
    (symbols : SymbolTable) : s'.exportTable symbols = s.exportTable symbols := by
  refine Std.ExtTreeMap.ext_getElem? fun name => ?_
  rw [getElem?_exportTable, getElem?_exportTable, hhidden]

end Survey

end ModuleCatalog
