import ModuleCatalog.Proofs.Imports

/-! # The normal form of catalogs

    The records of a survey are kept in no particular order.  A catalog does not
    show any: its tables hold what is in the records, row by row, and are
    themselves in ascending order.  So surveys that hold the same have the same
    catalog, in whatever order their records were put in
    (`Catalog.ofTables_normal_form`). -/

namespace ModuleCatalog

/-! ## Ascending order -/

/-- A text comes before another one in the order of code points. -/
def CodePointsLt (s t : String) : Prop :=
  s.toList.map Char.toNat < t.toList.map Char.toNat

theorem codePointsLt_of_compare {s t : String} (h : compare s t = .lt) : CodePointsLt s t := by
  have hlt : s < t := compareOfLessAndEq_eq_lt.mp h
  exact List.map_lt (fun _ _ hchar => hchar) hlt

/-- The rows of a table stand in ascending order of their names. -/
def AscendingRows {β : Type} (table : Std.ExtTreeMap ModuleName β) : Prop :=
  (table.toList.map fun row => row.1.text).Pairwise CodePointsLt

/-- The symbols of a set stand in ascending order. -/
def AscendingSymbols (symbols : SymbolSet) : Prop := symbols.toList.Pairwise CodePointsLt

theorem ascendingRows {β : Type} (table : Std.ExtTreeMap ModuleName β) : AscendingRows table := by
  refine List.pairwise_map.mpr (Std.ExtTreeMap.ordered_keys_toList.imp ?_)
  intro a b hlt
  exact codePointsLt_of_compare hlt

theorem ascendingSymbols (symbols : SymbolSet) : AscendingSymbols symbols :=
  Std.ExtTreeSet.ordered_toList.imp codePointsLt_of_compare

/-- What a catalog of a tree looks like: everything is in ascending order, and
    only the tables that list every unit have empty rows. -/
structure Catalog.NormalForm (c : Catalog) : Prop where
  ascending_uses : AscendingRows c.uses
  ascending_imports : AscendingRows c.imports ∧ ∀ (name : ModuleName) (row : List Import),
    c.imports[name]? = some row → ∀ i ∈ row, AscendingSymbols i.symbols
  ascending_symbols : ∀ table ∈ [c.exports, c.hidden, c.variableNames, c.subprograms, c.symbols],
    AscendingRows table ∧ ∀ (name : ModuleName) (symbols : SymbolSet),
      table[name]? = some symbols → AscendingSymbols symbols
  uses_nonempty : ∀ (name : ModuleName) (row : List UseClause),
    c.uses[name]? = some row → ∃ clause, clause ∈ row
  imports_nonempty : ∀ (name : ModuleName) (row : List Import),
    c.imports[name]? = some row → ∃ i, i ∈ row
  symbols_nonempty : ∀ table ∈ [c.hidden, c.variableNames, c.subprograms],
    ∀ (name : ModuleName) (symbols : SymbolSet),
      table[name]? = some symbols → ∃ symbol, symbol ∈ symbols

/-! ## Rows of records -/

theorem Catalog.nonempty?_eq_some_iff {symbols symbols' : SymbolSet} :
    nonempty? symbols = some symbols' ↔ symbols ≠ ∅ ∧ symbols' = symbols := by
  rw [nonempty?, Option.ite_none_left_eq_some, Std.ExtTreeSet.isEmpty_iff, Option.some.injEq,
    eq_comm (a := symbols) (b := symbols')]

namespace RecordBook

variable {name : ModuleName} {record : UnitRecord}

/-- A table holds one field of the records wherever that is not blank, under the
    name of the record, and nothing else. -/
def RowsOf {β : Type} (book : RecordBook) (field : UnitRecord → β) (blank : β)
    (table : Std.ExtTreeMap ModuleName β) : Prop :=
  ∀ (name : ModuleName) (row : β), table[name]? = some row ↔
    row ≠ blank ∧ ∃ record, (name, record) ∈ book.entries ∧ field record = row

/-- A table that leaves out what is blank holds the rest unchanged. -/
theorem rowsOf_tabulate {β : Type} {blank : β} {keep : β → Option β}
    (hkeep : ∀ row row', keep row = some row' ↔ row ≠ blank ∧ row' = row) (book : RecordBook)
    (field : UnitRecord → β) :
    book.RowsOf field blank (book.tabulate fun record => keep (field record)) := by
  intro name row
  rw [getElem?_tabulate, Option.bind_eq_some_iff]
  simp only [find?_eq_some_iff, hkeep]
  constructor
  · rintro ⟨record, hentry, hne, rfl⟩
    exact ⟨hne, record, hentry, rfl⟩
  · rintro ⟨hne, record, hentry, rfl⟩
    exact ⟨record, hentry, hne, rfl⟩

theorem rowsOf_tabulate_nonempty? (book : RecordBook) (field : UnitRecord → SymbolSet) :
    book.RowsOf field ∅ (book.tabulate fun record => Catalog.nonempty? (field record)) :=
  rowsOf_tabulate (fun _ _ => Catalog.nonempty?_eq_some_iff) book field

/-- A table is told from what is found in the book. -/
theorem tabulate_congr {β : Type} {book book' : RecordBook}
    (h : ∀ name, book'.find? name = book.find? name) (f : UnitRecord → Option β) :
    book'.tabulate f = book.tabulate f := by
  refine Std.ExtTreeMap.ext_getElem? fun name => ?_
  rw [getElem?_tabulate, getElem?_tabulate, h]

/-! ## Putting records in -/

/-- The book of some records that are put in one after the other. -/
def insertAll (rows : List (ModuleName × UnitRecord)) : RecordBook :=
  rows.foldl (fun book row => book.insert row.1 row.2) ⟨[], List.nodup_nil⟩

/-- Under distinct names every record that was put in is found, and no other. -/
theorem find?_insertAll_eq_some_iff {rows : List (ModuleName × UnitRecord)}
    (h : (rows.map Prod.fst).Nodup) :
    (insertAll rows).find? name = some record ↔ (name, record) ∈ rows := by
  induction rows using List.reverseRecOn with
  | nil => simp [insertAll, find?]
  | append_singleton rows row ih =>
    obtain ⟨key, last⟩ := row
    rw [List.map_append, List.nodup_append] at h
    obtain ⟨hrows, -, hdistinct⟩ := h
    have hinsert : insertAll (rows ++ [(key, last)]) = (insertAll rows).insert key last := by
      simp [insertAll]
    rw [hinsert, find?_insert, List.mem_append, List.mem_singleton, Prod.mk.injEq]
    by_cases hname : name = key
    · -- nothing was put in under this name before
      have hnew : (name, record) ∉ rows := by
        intro hmem
        exact hdistinct name (List.mem_map.mpr ⟨_, hmem, rfl⟩) key (by simp) hname
      simp [hname, hname ▸ hnew, eq_comm]
    · simp [hname, ih hrows]

theorem find?_insertAll_eq_of_perm {rows rows' : List (ModuleName × UnitRecord)}
    (hperm : rows'.Perm rows) (h : (rows.map Prod.fst).Nodup) (name : ModuleName) :
    (insertAll rows').find? name = (insertAll rows).find? name := by
  refine Option.ext fun record => ?_
  rw [find?_insertAll_eq_some_iff h,
    find?_insertAll_eq_some_iff ((hperm.map Prod.fst).nodup_iff.mpr h), hperm.mem_iff]

end RecordBook

/-! ## Surveys that hold the same -/

/-- Two surveys list the same units, know the same of the file, and have the
    same records, be they kept in the same order or not. -/
structure Survey.HoldsSame (s s' : Survey) : Prop where
  modules_eq : s'.modules = s.modules
  file_eq : s'.file = s.file
  find?_eq : ∀ name, s'.records.find? name = s.records.find? name

namespace Survey.HoldsSame

variable {s s' : Survey}

theorem recordOf_eq (h : s.HoldsSame s') (name : ModuleName) :
    s'.recordOf name = s.recordOf name := by
  rw [recordOf, recordOf, record?, record?, h.find?_eq]

theorem symbolTable_eq (h : s.HoldsSame s') : s'.symbolTable = s.symbolTable :=
  symbolTable_congr (fun name => by rw [h.modules_eq]) fun name => by rw [h.recordOf_eq]

theorem exportTable_eq (h : s.HoldsSame s') (symbols : SymbolTable) :
    s'.exportTable symbols = s.exportTable symbols :=
  exportTable_congr (fun name => by rw [h.recordOf_eq]) symbols

theorem importTable_eq (h : s.HoldsSame s') (exports : SymbolTable) :
    s'.importTable exports = s.importTable exports :=
  RecordBook.tabulate_congr h.find?_eq _

theorem ofTables_eq (h : s.HoldsSame s') (symbols exports : SymbolTable) (imports : ImportTable) :
    Catalog.ofTables s' symbols exports imports = Catalog.ofTables s symbols exports imports := by
  simp only [Catalog.ofTables, h.modules_eq, h.file_eq, RecordBook.tabulate_congr h.find?_eq]

theorem ofSurvey_eq (h : s.HoldsSame s') : Catalog.ofSurvey s' = Catalog.ofSurvey s := by
  simp only [Catalog.ofSurvey, h.symbolTable_eq, h.exportTable_eq, h.importTable_eq, h.ofTables_eq]

end Survey.HoldsSame

/-! ## Catalogs -/

namespace Catalog

/-- A catalog of a survey is in normal form. -/
theorem normalForm_ofSurvey (s : Survey) : (ofSurvey s).NormalForm where
  ascending_uses := ascendingRows _
  ascending_imports := ⟨ascendingRows _, fun _ _ _ i _ => ascendingSymbols i.symbols⟩
  ascending_symbols := fun table _ =>
    ⟨ascendingRows table, fun _ symbols _ => ascendingSymbols symbols⟩
  uses_nonempty := by
    intro name row hrow
    rw [getElem?_uses_ofSurvey, Survey.nonempty?_eq_some_iff] at hrow
    obtain ⟨hne, rfl⟩ := hrow
    exact List.exists_mem_of_ne_nil _ hne
  imports_nonempty := by
    intro name row hrow
    rw [getElem?_imports_ofSurvey, Survey.nonempty?_eq_some_iff] at hrow
    obtain ⟨hne, rfl⟩ := hrow
    exact List.exists_mem_of_ne_nil _ hne
  symbols_nonempty := by
    have hrows : ∀ field : UnitRecord → SymbolSet, ∀ (name : ModuleName) (symbols : SymbolSet),
        (s.records.tabulate fun record => nonempty? (field record))[name]? = some symbols →
        ∃ symbol, symbol ∈ symbols := by
      intro field name symbols hrow
      obtain ⟨hne, -⟩ := (s.records.rowsOf_tabulate_nonempty? field name symbols).mp hrow
      by_contra hnone
      exact hne (Std.ExtTreeSet.eq_empty_iff_forall_not_mem.mpr (not_exists.mp hnone))
    simp only [List.forall_mem_cons]
    exact ⟨hrows _, hrows _, hrows _, by simp⟩

/-- A catalog of some tables takes the units, the file and the tables over as
    they are.  To these it adds the rows of the records: for every sort those
    that are not empty, unchanged and under the name of their record, and no
    others.  So the order in which the records are kept does not matter, and
    surveys that hold the same have the same tables and the same catalog, in
    whatever order their records were put in.  The catalog of every tree is in
    normal form. -/
theorem ofTables_normal_form (s : Survey) (symbols exports : SymbolTable) (imports : ImportTable) :
    (∀ c, c = ofTables s symbols exports imports →
      (c.file = s.file ∧ c.modules = s.modules ∧ c.symbols = symbols ∧ c.exports = exports ∧
        c.imports = imports) ∧
      s.records.RowsOf UnitRecord.uses [] c.uses ∧
      s.records.RowsOf UnitRecord.hidden ∅ c.hidden ∧
      s.records.RowsOf UnitRecord.variableNames ∅ c.variableNames ∧
      s.records.RowsOf UnitRecord.subprograms ∅ c.subprograms) ∧
    (∀ s' : Survey, s'.modules = s.modules → s'.file = s.file →
      s'.records.entries.Perm s.records.entries →
      ofTables s' symbols exports imports = ofTables s symbols exports imports) ∧
    (∀ s' : Survey, s.HoldsSame s' →
      s'.symbolTable = s.symbolTable ∧
      (∀ symbols, s'.exportTable symbols = s.exportTable symbols) ∧
      (∀ exports, s'.importTable exports = s.importTable exports) ∧
      ofTables s' symbols exports imports = ofTables s symbols exports imports ∧
      ofSurvey s' = ofSurvey s) ∧
    (∀ rows rows' : List (ModuleName × UnitRecord), rows'.Perm rows →
      (rows.map Prod.fst).Nodup →
      ofSurvey { s with records := .insertAll rows' } =
        ofSurvey { s with records := .insertAll rows }) ∧
    ∀ root projectRoot c, ofTree root projectRoot = .ok c → c.NormalForm := by
  refine ⟨?_, ?_, ?_, ?_, ?_⟩
  · rintro c rfl
    refine ⟨⟨rfl, rfl, rfl, rfl, rfl⟩, ?_, ?_, ?_, ?_⟩
    · exact RecordBook.rowsOf_tabulate (fun _ _ => Survey.nonempty?_eq_some_iff) _ _
    all_goals exact RecordBook.rowsOf_tabulate_nonempty? _ _
  · intro s' hmodules hfile hperm
    have hsame : s.HoldsSame s' := ⟨hmodules, hfile, RecordBook.find?_eq_of_perm hperm⟩
    exact hsame.ofTables_eq symbols exports imports
  · intro s' hsame
    exact ⟨hsame.symbolTable_eq, hsame.exportTable_eq, hsame.importTable_eq,
      hsame.ofTables_eq symbols exports imports, hsame.ofSurvey_eq⟩
  · intro rows rows' hperm hdistinct
    have hsame : Survey.HoldsSame { s with records := .insertAll rows }
        { s with records := .insertAll rows' } :=
      ⟨rfl, rfl, RecordBook.find?_insertAll_eq_of_perm hperm hdistinct⟩
    exact hsame.ofSurvey_eq
  · intro root projectRoot c hc
    obtain ⟨-, rfl⟩ := ofTree_eq_ok_iff.mp hc
    exact normalForm_ofSurvey _

/-- A unit that uses another one, and that other unit with a variable and a
    hidden name. -/
def sampleRows : List (ModuleName × UnitRecord) :=
  [(.ofSpelling "Main", { name := .ofSpelling "Main", uses := [⟨.ofSpelling "Lib", .everything⟩] }),
    (.ofSpelling "Lib",
      { name := .ofSpelling "Lib", variableNames := .ofList ["x", "y"], hidden := .ofList ["y"] })]

/-- Put in the other way round, the records make the same catalog, and the name
    that one of them hides is found under every spelling of its unit. -/
theorem ofTables_normal_form_sampleRows :
    ofSurvey { records := .insertAll sampleRows.reverse } =
        ofSurvey { records := .insertAll sampleRows } ∧
      (ofSurvey { records := .insertAll sampleRows }).hidden[ModuleName.ofSpelling "LIB"]? =
        some (.ofList ["y"]) ∧
      ∃ c, ofTree sampleProject "src" = .ok c ∧ c.NormalForm := by
  have hdistinct : (sampleRows.map Prod.fst).Nodup := by decide +kernel
  have hlib : ModuleName.ofSpelling "LIB" = .ofSpelling "Lib" := ModuleName.ext (by decide +kernel)
  obtain ⟨hrows, -, -, hinserted, htree⟩ :=
    ofTables_normal_form { records := .insertAll sampleRows } ∅ ∅ ∅
  obtain ⟨-, -, hhidden, -⟩ := hrows _ rfl
  obtain ⟨c, hc⟩ := exists_eq_ok_of_isOk (x := ofTree sampleProject "src") (by decide +kernel)
  refine ⟨hinserted _ _ sampleRows.reverse_perm hdistinct, ?_, c, hc, htree _ _ c hc⟩
  refine (hhidden _ _).mpr ⟨by simp, sampleRows[1].2, ?_, rfl⟩
  rw [← RecordBook.find?_eq_some_iff, RecordBook.find?_insertAll_eq_some_iff hdistinct, hlib]
  exact List.getElem_mem (l := sampleRows) (n := 1) (by decide)

end Catalog

end ModuleCatalog
