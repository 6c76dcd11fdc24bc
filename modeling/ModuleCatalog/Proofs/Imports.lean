import ModuleCatalog.Proofs.Exports
import ModuleCatalog.Proofs.UseClauses

/-! # What use clauses come to

    A table of imports is told from use clauses and exports alone, clause by
    clause.  The rules of `Resolves` say what a single clause comes to, and
    `ImportsOf` which rows a table has then.  There is exactly one such table,
    and it is the one that is drawn up from a survey, in whatever order its
    records are kept (`Survey.importsOf_iff_eq_importTable`). -/

namespace ModuleCatalog

/-- A clause is dropped when it is limited to fewer than two names, where a
    repeated name counts each time. -/
def UseClause.Survives (clause : UseClause) : Prop :=
  ∀ names, clause.selection = .only names → 2 ≤ names.length

/-- What some clauses come to, in their order, when they meet some exports. -/
inductive Resolves (exports : SymbolTable) : List UseClause → List Import → Prop where
  | nil : Resolves exports [] []
  /-- Without a list a clause brings in what its target exports, and nothing
      from an unknown target. -/
  | everything {target : ModuleName} {symbols : SymbolSet} {clauses : List UseClause}
      {row : List Import}
      (hsymbols : ∀ symbol, symbol ∈ symbols ↔
        ∃ exported, exports[target]? = some exported ∧ symbol ∈ exported)
      (hrow : Resolves exports clauses row) :
      Resolves exports (⟨target, .everything⟩ :: clauses) (⟨target, symbols⟩ :: row)
  /-- A list of two or more names is taken as it is, whatever the target
      exports. -/
  | only {target : ModuleName} {names : List String} {symbols : SymbolSet}
      {clauses : List UseClause} {row : List Import} (hnames : 2 ≤ names.length)
      (hsymbols : ∀ symbol, symbol ∈ symbols ↔ symbol ∈ names)
      (hrow : Resolves exports clauses row) :
      Resolves exports (⟨target, .only names⟩ :: clauses) (⟨target, symbols⟩ :: row)
  /-- A shorter list is dropped, and its neighbours stay as they are. -/
  | dropped {target : ModuleName} {names : List String} {clauses : List UseClause}
      {row : List Import} (hnames : names.length < 2) (hrow : Resolves exports clauses row) :
      Resolves exports (⟨target, .only names⟩ :: clauses) row

/-- A table holds what the clauses of each unit come to, and a unit has a row
    exactly when one of its clauses survives. -/
structure ImportsOf (uses : ModuleName → List UseClause) (exports : SymbolTable)
    (imports : ImportTable) : Prop where
  row_iff : ∀ (name : ModuleName) (row : List Import),
    imports[name]? = some row ↔ row ≠ [] ∧ Resolves exports (uses name) row
  mem_iff : ∀ name, name ∈ imports ↔ ∃ clause ∈ uses name, clause.Survives

/-! ## Single clauses -/

/-- The row of a table of symbols, read as empty where there is none. -/
theorem mem_getD_iff {table : SymbolTable} {name : ModuleName} {symbol : String} :
    symbol ∈ table[name]?.getD ∅ ↔ ∃ symbols, table[name]? = some symbols ∧ symbol ∈ symbols := by
  cases table[name]? <;> simp

namespace Survey

variable {exports : SymbolTable} {target : ModuleName} {names : List String} {clause : UseClause}
  {clauses : List UseClause} {row : List Import}

theorem resolveUse_everything (exports : SymbolTable) (target : ModuleName) :
    resolveUse exports ⟨target, .everything⟩ = some ⟨target, exports[target]?.getD ∅⟩ := rfl

theorem resolveUse_only (h : 2 ≤ names.length) :
    resolveUse exports ⟨target, .only names⟩ = some ⟨target, .ofList names⟩ :=
  if_pos h

theorem resolveUse_dropped (h : names.length < 2) :
    resolveUse exports ⟨target, .only names⟩ = none :=
  if_neg (Nat.not_lt.mpr (Nat.le_of_lt_succ h))

/-- A clause comes to something exactly when it survives. -/
theorem isSome_resolveUse_iff : (resolveUse exports clause).isSome = true ↔ clause.Survives := by
  obtain ⟨target, selection⟩ := clause
  cases selection with
  | everything => simp [resolveUse_everything, UseClause.Survives]
  | only names =>
    by_cases hnames : 2 ≤ names.length
    · simp [resolveUse_only hnames, UseClause.Survives, hnames]
    · simp [resolveUse_dropped (Nat.lt_of_not_le hnames), UseClause.Survives, hnames]

/-- Clauses come to what the rules say. -/
theorem resolves_filterMap (exports : SymbolTable) (clauses : List UseClause) :
    Resolves exports clauses (clauses.filterMap (resolveUse exports)) := by
  induction clauses with
  | nil => exact .nil
  | cons clause clauses ih =>
    obtain ⟨target, selection⟩ := clause
    cases selection with
    | everything =>
      rw [List.filterMap_cons_some (resolveUse_everything exports target)]
      exact .everything (fun symbol => mem_getD_iff) ih
    | only names =>
      by_cases hnames : 2 ≤ names.length
      · rw [List.filterMap_cons_some (resolveUse_only hnames)]
        exact .only hnames (fun symbol => by simp) ih
      · have hnames := Nat.lt_of_not_le hnames
        rw [List.filterMap_cons_none (resolveUse_dropped hnames)]
        exact .dropped hnames ih

/-- The rules leave no choice. -/
theorem eq_filterMap_of_resolves (h : Resolves exports clauses row) :
    row = clauses.filterMap (resolveUse exports) := by
  induction h with
  | nil => rfl
  | @everything target symbols clauses row hsymbols hrow ih =>
    have hsymbols : symbols = exports[target]?.getD ∅ := by
      refine Std.ExtTreeSet.ext_mem fun symbol => ?_
      rw [hsymbols, mem_getD_iff]
    rw [List.filterMap_cons_some (resolveUse_everything exports target), ← ih, hsymbols]
  | @only target names symbols clauses row hnames hsymbols hrow ih =>
    have hsymbols : symbols = .ofList names := by
      refine Std.ExtTreeSet.ext_mem fun symbol => ?_
      rw [hsymbols, Std.ExtTreeSet.mem_ofList, List.contains_iff_mem]
    rw [List.filterMap_cons_some (resolveUse_only hnames), ← ih, hsymbols]
  | dropped hnames hrow ih =>
    rw [List.filterMap_cons_none (resolveUse_dropped hnames), ← ih]

theorem resolves_iff :
    Resolves exports clauses row ↔ row = clauses.filterMap (resolveUse exports) := by
  constructor
  · exact eq_filterMap_of_resolves
  · rintro rfl
    exact resolves_filterMap exports clauses

end Survey

/-! ## Tables of imports -/

variable {uses : ModuleName → List UseClause} {exports : SymbolTable} {imports : ImportTable}

/-- A table of the rows that some clauses come to, empty ones left out. -/
theorem importsOf_of_getElem?
    (h : ∀ name : ModuleName, imports[name]? =
      Survey.nonempty? ((uses name).filterMap (Survey.resolveUse exports))) :
    ImportsOf uses exports imports := by
  have hrow : ∀ (name : ModuleName) (row : List Import),
      imports[name]? = some row ↔ row ≠ [] ∧ Resolves exports (uses name) row := by
    intro name row
    rw [h, Survey.nonempty?_eq_some_iff, Survey.resolves_iff]
    exact and_congr_left fun e => by rw [e]
  constructor
  case row_iff => exact hrow
  case mem_iff =>
    intro name
    -- something is left of the clauses when some clause is kept
    have hsurvives : (uses name).filterMap (Survey.resolveUse exports) ≠ [] ↔
        ∃ clause ∈ uses name, clause.Survives := by
      simp only [ne_eq, List.filterMap_eq_nil_iff, not_forall, exists_prop,
        ← Option.isSome_iff_ne_none, Survey.isSome_resolveUse_iff]
    rw [← hsurvives, Std.ExtTreeMap.mem_iff_isSome_getElem?, Option.isSome_iff_exists]
    constructor
    · intro hmem
      obtain ⟨row, hmem⟩ := hmem
      obtain ⟨hne, hresolves⟩ := (hrow name row).mp hmem
      rwa [← Survey.resolves_iff.mp hresolves]
    · intro hne
      exact ⟨_, (hrow name _).mpr ⟨hne, Survey.resolves_filterMap exports _⟩⟩

/-- There is at most one such table. -/
theorem ImportsOf.iff_eq {imports' : ImportTable} (h : ImportsOf uses exports imports) :
    ImportsOf uses exports imports' ↔ imports' = imports := by
  constructor
  · intro h'
    refine Std.ExtTreeMap.ext_getElem? fun name => Option.ext fun row => ?_
    rw [h.row_iff, h'.row_iff]
  · rintro rfl
    exact h

/-- The same entries in another order are found all the same. -/
theorem RecordBook.find?_eq_of_perm {book book' : RecordBook}
    (h : book'.entries.Perm book.entries) (name : ModuleName) :
    book'.find? name = book.find? name := by
  refine Option.ext fun record => ?_
  rw [find?_eq_some_iff, find?_eq_some_iff, h.mem_iff]

namespace Survey

/-- What is found under a name does not depend on the order of the records. -/
theorem recordOf_eq_of_perm {s s' : Survey} (h : s'.records.entries.Perm s.records.entries)
    (name : ModuleName) : s'.recordOf name = s.recordOf name := by
  rw [recordOf, recordOf, record?, record?, RecordBook.find?_eq_of_perm h]

/-- The imports of a survey are those of its use clauses. -/
theorem importsOf_importTable (s : Survey) (exports : SymbolTable) :
    ImportsOf (fun name => (s.recordOf name).uses) exports (s.importTable exports) :=
  importsOf_of_getElem? (s.getElem?_importTable exports)

end Survey

namespace Catalog

theorem getElem?_imports_ofSurvey (s : Survey) (name : ModuleName) :
    (ofSurvey s).imports[name]? = Survey.nonempty?
      ((s.recordOf name).uses.filterMap (Survey.resolveUse (ofSurvey s).exports)) :=
  s.getElem?_importTable _ name

/-- The imports of a catalog are told from the use clauses and the exports that
    it shows. -/
theorem importsOf_ofSurvey (s : Survey) :
    ImportsOf (fun name => (ofSurvey s).uses[name]?.getD []) (ofSurvey s).exports
      (ofSurvey s).imports := by
  simp only [getElem?_uses_ofSurvey, Survey.getD_nonempty?]
  exact s.importsOf_importTable _

/-- What a catalog shows as exported by a unit it shows as declared there. -/
theorem declared_of_mem_exports {s : Survey} {name : ModuleName} {symbol : String}
    (h : symbol ∈ (ofSurvey s).exports[name]?.getD ∅) :
    symbol ∈ (ofSurvey s).variableNames[name]?.getD ∅ ∨
      symbol ∈ (ofSurvey s).subprograms[name]?.getD ∅ := by
  have hvariables : (ofSurvey s).variableNames[name]?.getD ∅ = (s.recordOf name).variableNames :=
    Survey.getD_tabulate rfl
  have hsubprograms : (ofSurvey s).subprograms[name]?.getD ∅ = (s.recordOf name).subprograms :=
    Survey.getD_tabulate rfl
  rw [hvariables, hsubprograms]
  exact Survey.declared_of_mem_exportTable h

end Catalog

namespace Survey

/-- The table of imports of a survey holds what the use clauses of each unit
    come to, and is the only such table: the order in which the records are
    kept makes no difference, nor does a clause that is dropped.  In a catalog
    of a tree it is told from the use clauses and the exports alone, and what a
    target exports is declared by the target itself. -/
theorem importsOf_iff_eq_importTable (s : Survey) (exports : SymbolTable) :
    (∀ imports, ImportsOf (fun name => (s.recordOf name).uses) exports imports ↔
      imports = s.importTable exports) ∧
    (∀ s' : Survey, s'.records.entries.Perm s.records.entries →
      s'.importTable exports = s.importTable exports) ∧
    (∀ (s' : Survey) (name : ModuleName) (before behind : List UseClause) (clause : UseClause),
      ¬ clause.Survives → (s.recordOf name).uses = before ++ clause :: behind →
      (s'.recordOf name).uses = before ++ behind →
      (s'.importTable exports)[name]? = (s.importTable exports)[name]?) ∧
    ∀ root projectRoot c, Catalog.ofTree root projectRoot = .ok c →
      (∀ imports, ImportsOf (fun name => c.uses[name]?.getD []) c.exports imports ↔
        imports = c.imports) ∧
      ∀ (target : ModuleName) (symbol : String), symbol ∈ c.exports[target]?.getD ∅ →
        symbol ∈ c.variableNames[target]?.getD ∅ ∨ symbol ∈ c.subprograms[target]?.getD ∅ := by
  refine ⟨?_, ?_, ?_, ?_⟩
  · intro imports
    exact (s.importsOf_importTable exports).iff_eq
  · intro s' hperm
    -- a table is told from its lookups, and these find the same records
    refine Std.ExtTreeMap.ext_getElem? fun name => ?_
    rw [getElem?_importTable, getElem?_importTable, recordOf_eq_of_perm hperm]
  · intro s' name before behind clause hdropped huses huses'
    have hnone : resolveUse exports clause = none := by
      rw [← Option.not_isSome_iff_eq_none, isSome_resolveUse_iff]
      exact hdropped
    rw [getElem?_importTable, getElem?_importTable, huses, huses', List.filterMap_append,
      List.filterMap_append, List.filterMap_cons_none hnone]
  · intro root projectRoot c hc
    obtain ⟨-, rfl⟩ := Catalog.ofTree_eq_ok_iff.mp hc
    constructor
    · intro imports
      exact (Catalog.importsOf_ofSurvey (summary root projectRoot)).iff_eq
    · intro target symbol hexported
      exact Catalog.declared_of_mem_exports hexported

/-- Two modules that use each other get what the other one declares, the one
    that uses itself gets its own exports, and the clause between these two is
    dropped. -/
theorem importsOf_iff_eq_importTable_sampleProject :
    ∃ c, Catalog.ofTree sampleProject "src" = .ok c ∧
      c.imports[ModuleName.ofSpelling "Shapes"]? = some
        [⟨.ofSpelling "Base", .ofList ["origin"]⟩, ⟨.ofSpelling "Shapes", .ofList ["area"]⟩] := by
  obtain ⟨c, h⟩ := exists_eq_ok_of_isOk (x := Catalog.ofTree sampleProject "src")
    (by decide +kernel)
  have hc : c = Catalog.ofSurvey (summary sampleProject "src") := (Catalog.ofTree_eq_ok_iff.mp h).2
  have huses : c.uses[ModuleName.ofSpelling "Shapes"]?.getD [] =
      [⟨.ofSpelling "Base", .everything⟩, ⟨.ofSpelling "Base", .only ["origin"]⟩,
        ⟨.ofSpelling "Shapes", .everything⟩] := by
    rw [hc]
    decide +kernel
  have hbase : c.exports[ModuleName.ofSpelling "Base"]? = some (.ofList ["origin"]) := by
    rw [hc]
    decide +kernel
  have hshapes : c.exports[ModuleName.ofSpelling "Shapes"]? = some (.ofList ["area"]) := by
    rw [hc]
    decide +kernel
  obtain ⟨-, -, -, htree⟩ := importsOf_iff_eq_importTable {} ∅
  obtain ⟨himports, -⟩ := htree sampleProject "src" c h
  refine ⟨c, h, (((himports c.imports).mpr rfl).row_iff _ _).mpr ⟨by simp, ?_⟩⟩
  rw [huses]
  refine .everything ?_ (.dropped (by decide) (.everything ?_ .nil))
  · intro symbol
    simp [hbase]
  · intro symbol
    simp [hshapes]

end Survey

end ModuleCatalog
