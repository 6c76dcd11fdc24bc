import ModuleCatalog.Proofs.Rows

/-! # What units export

    A unit exports the symbols that are given for it, without those that it
    hides.  This holds of every survey and every table of symbols: the table
    may have been drawn up from another survey, a unit with symbols may lack a
    record, and a record may lack a listing.  For the symbols of the survey
    itself, the exports of a listed unit are told from its record alone. -/

namespace ModuleCatalog

namespace UnitRecord

/-- What is declared and not hidden are the variables and subprograms that are
    not hidden: hiding wins over both. -/
theorem symbols_diff_hidden (r : UnitRecord) :
    r.symbols \ r.hidden = (r.variableNames ∪ r.subprograms) \ r.hidden := by
  refine Std.ExtTreeSet.ext_mem fun symbol => ?_
  simp only [symbols, Std.ExtTreeSet.mem_diff_iff, Std.ExtTreeSet.mem_union_iff]
  -- a symbol that is only hidden is lost on both sides
  constructor
  · intro h
    obtain ⟨(hvariable | hhidden) | hsubprogram, hshown⟩ := h
    · exact ⟨.inl hvariable, hshown⟩
    · exact absurd hhidden hshown
    · exact ⟨.inr hsubprogram, hshown⟩
  · intro h
    obtain ⟨hvariable | hsubprogram, hshown⟩ := h
    · exact ⟨.inl (.inl hvariable), hshown⟩
    · exact ⟨.inr hsubprogram, hshown⟩

end UnitRecord

namespace Survey

variable {s : Survey} {name : ModuleName} {symbol : String}

/-- The hidden names of a unit are those of its record, if it has one. -/
theorem mem_hidden_recordOf_iff :
    symbol ∈ (s.recordOf name).hidden ↔
      ∃ record, s.record? name = some record ∧ symbol ∈ record.hidden := by
  unfold recordOf
  cases s.record? name with
  | none => simp
  | some record => simp

/-- The exports of a unit for which symbols are given. -/
theorem exists_row_exportTable {symbols : SymbolTable} {declared : SymbolSet}
    (hdeclared : symbols[name]? = some declared) :
    ∃ exported, (s.exportTable symbols)[name]? = some exported ∧
      (∀ symbol, symbol ∈ exported ↔ symbol ∈ declared ∧
        ¬ ∃ record, s.record? name = some record ∧ symbol ∈ record.hidden) ∧
      (s.record? name = none → exported = declared) := by
  have hmem : ∀ symbol, symbol ∈ declared \ (s.recordOf name).hidden ↔ symbol ∈ declared ∧
      ¬ ∃ record, s.record? name = some record ∧ symbol ∈ record.hidden := by
    intro symbol
    rw [Std.ExtTreeSet.mem_diff_iff, mem_hidden_recordOf_iff]
  refine ⟨declared \ (s.recordOf name).hidden, ?_, hmem, ?_⟩
  · rw [getElem?_exportTable, hdeclared, Option.map_some]
  · intro hnone
    refine Std.ExtTreeSet.ext_mem fun symbol => ?_
    simp [hmem, hnone]

/-- An exported symbol is not hidden, whatever symbols were given. -/
theorem not_mem_hidden_of_mem_exportTable {symbols : SymbolTable}
    (h : symbol ∈ (s.exportTable symbols)[name]?.getD ∅) :
    symbol ∉ (s.recordOf name).hidden := by
  rw [getElem?_exportTable] at h
  cases hdeclared : symbols[name]? with
  | none =>
    rw [hdeclared] at h
    exact absurd h Std.ExtTreeSet.not_mem_empty
  | some declared =>
    rw [hdeclared, Option.map_some, Option.getD_some] at h
    exact (Std.ExtTreeSet.mem_diff_iff.mp h).2

/-- The exports of a unit, drawn up from the symbols of the survey itself. -/
theorem getElem?_exportTable_symbolTable (hlisted : name ∈ s.modules) :
    (s.exportTable s.symbolTable)[name]? =
      some (((s.recordOf name).variableNames ∪ (s.recordOf name).subprograms) \
        (s.recordOf name).hidden) := by
  rw [getElem?_exportTable, getElem?_symbolTable, if_pos hlisted, Option.map_some, symbolsOf_eq,
    UnitRecord.symbols_diff_hidden]

/-- What a unit exports it declares itself, as a variable or a subprogram. -/
theorem declared_of_mem_exportTable (h : symbol ∈ (s.exportTable s.symbolTable)[name]?.getD ∅) :
    symbol ∈ (s.recordOf name).variableNames ∨ symbol ∈ (s.recordOf name).subprograms := by
  by_cases hlisted : name ∈ s.modules
  · rw [getElem?_exportTable_symbolTable hlisted, Option.getD_some,
      Std.ExtTreeSet.mem_diff_iff, Std.ExtTreeSet.mem_union_iff] at h
    exact h.1
  · -- what is not listed has no exports
    rw [getElem?_exportTable, getElem?_symbolTable, if_neg hlisted] at h
    exact absurd h Std.ExtTreeSet.not_mem_empty

end Survey

namespace Catalog

/-- Exports are told of exactly the units that symbols are given for, and are
    these symbols without the hidden names of the unit; all of them, if the
    unit has no record.  So no unit of the catalog exports what it hides.  With
    the symbols of the survey itself, a listed unit exports its variables and
    subprograms without the hidden names, all of them symbols of the unit. -/
theorem exports_without_hidden (s : Survey) (symbols : SymbolTable) (imports : ImportTable)
    {c : Catalog} (h : c = ofTables s symbols (s.exportTable symbols) imports) :
    (∀ name, name ∈ c.exports ↔ name ∈ symbols) ∧
    (∀ (name : ModuleName) (declared : SymbolSet), symbols[name]? = some declared →
      ∃ exported, c.exports[name]? = some exported ∧
        (∀ symbol, symbol ∈ exported ↔ symbol ∈ declared ∧
          ¬ ∃ record, s.record? name = some record ∧ symbol ∈ record.hidden) ∧
        (s.record? name = none → exported = declared)) ∧
    (∀ (name : ModuleName) (symbol : String),
      symbol ∈ c.exports[name]?.getD ∅ → symbol ∉ c.hidden[name]?.getD ∅) ∧
    (symbols = s.symbolTable → ∀ name ∈ s.modules,
      ∃ exported declared, c.exports[name]? = some exported ∧ c.symbols[name]? = some declared ∧
        exported = ((s.recordOf name).variableNames ∪ (s.recordOf name).subprograms) \
          (s.recordOf name).hidden ∧
        ∀ symbol ∈ exported, symbol ∈ declared) := by
  subst h
  refine ⟨?_, ?_, ?_, ?_⟩
  · intro name
    exact Survey.mem_exportTable_iff
  · intro name declared hdeclared
    exact Survey.exists_row_exportTable hdeclared
  · intro name symbol hexported
    -- a blank record and a missing one both hide nothing
    have hrow : (ofTables s symbols (s.exportTable symbols) imports).hidden[name]?.getD ∅ =
        (s.recordOf name).hidden := Survey.getD_tabulate rfl
    rw [hrow]
    exact Survey.not_mem_hidden_of_mem_exportTable hexported
  · intro hsymbols name hlisted
    subst hsymbols
    have hdeclared : s.symbolTable[name]? = some (s.recordOf name).symbols := by
      rw [Survey.getElem?_symbolTable, if_pos hlisted, Survey.symbolsOf_eq]
    refine ⟨_, _, Survey.getElem?_exportTable_symbolTable hlisted, hdeclared, rfl, ?_⟩
    intro symbol hexported
    rw [← UnitRecord.symbols_diff_hidden] at hexported
    exact (Std.ExtTreeSet.mem_diff_iff.mp hexported).1

/-- A survey that no tree has: one unit is listed twice, one has no record, and
    one has a record but is not listed. -/
def strayingSurvey : Survey where
  modules := [.ofSpelling "Lib", .ofSpelling "Idle", .ofSpelling "Lib"]
  records := .gather
    [(.ofSpelling "Lib", .variable "open"), (.ofSpelling "Lib", .variable "shut"),
      (.ofSpelling "Lib", .hidden (.ofList ["shut", "gone"])),
      (.ofSpelling "Lib", .subprogram "gone"), (.ofSpelling "Lib", .subprogram "run"),
      (.ofSpelling "Ghost", .hidden (.ofList ["veil"]))]

/-- Symbols of another survey. -/
def strayingSymbols : SymbolTable :=
  (∅ : SymbolTable).insert (.ofSpelling "Ghost") (.ofList ["veil", "face"])

/-- Hiding wins over variables and subprograms, and over the symbols of another
    survey. -/
theorem exports_without_hidden_strayingSurvey :
    ∃ own foreign : SymbolSet,
      (strayingSurvey.exportTable strayingSurvey.symbolTable)[ModuleName.ofSpelling "LIB"]? =
        some own ∧
      (strayingSurvey.exportTable strayingSymbols)[ModuleName.ofSpelling "Ghost"]? =
        some foreign ∧
      "open" ∈ own ∧ "run" ∈ own ∧ "shut" ∉ own ∧ "gone" ∉ own ∧
      "face" ∈ foreign ∧ "veil" ∉ foreign := by
  obtain ⟨-, -, -, hown⟩ :=
    exports_without_hidden strayingSurvey strayingSurvey.symbolTable ∅ rfl
  obtain ⟨-, hgiven, -, -⟩ := exports_without_hidden strayingSurvey strayingSymbols ∅ rfl
  obtain ⟨own, _, hexported, -, rfl, -⟩ := hown rfl (.ofSpelling "LIB") (by decide +kernel)
  obtain ⟨foreign, hforeign, hmem, -⟩ := hgiven (.ofSpelling "Ghost") (.ofList ["veil", "face"]) rfl
  have hface : "face" ∈ foreign := by
    rw [hmem, ← Survey.mem_hidden_recordOf_iff]
    decide +kernel
  have hveil : "veil" ∉ foreign := by
    rw [hmem, ← Survey.mem_hidden_recordOf_iff]
    decide +kernel
  refine ⟨_, foreign, hexported, hforeign, ?_, ?_, ?_, ?_, hface, hveil⟩
  all_goals decide +kernel

end Catalog

end ModuleCatalog
