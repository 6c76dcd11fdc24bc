import ModuleCatalog.Proofs.Attribution
import ModuleCatalog.Proofs.Rows

/-! # How the tables of a catalog hang together

    A record may be opened for the entry point before a pass has reached the
    program and listed it, so on the way a record may lack a listing.  At the
    end of a pass no record does: the program that was fallen back to is in
    the tree, and a pass that comes to its end has visited it. -/

namespace ModuleCatalog

/-- Every record stands under its own name, and that name is listed. -/
structure Survey.Listed (s : Survey) : Prop where
  name_eq : ∀ {name record}, s.record? name = some record → record.name = name
  mem_modules : ∀ {name record}, s.record? name = some record → name ∈ s.modules

/-- The tables of a catalog agree with each other and with the survey that
    they are drawn up from. -/
structure Catalog.Coherent (s : Survey) (c : Catalog) : Prop where
  modules_eq : c.modules = s.modules
  /-- Records stand under their own names, and these are listed. -/
  records : ∀ entry ∈ s.records.entries, entry.2.name = entry.1 ∧ entry.1 ∈ c.modules
  mem_symbols : ∀ name, name ∈ c.symbols ↔ name ∈ c.modules
  mem_exports : ∀ name, name ∈ c.exports ↔ name ∈ c.modules
  mem_modules_of_uses : ∀ name ∈ c.uses, name ∈ c.modules
  mem_modules_of_imports : ∀ name ∈ c.imports, name ∈ c.modules
  mem_modules_of_hidden : ∀ name ∈ c.hidden, name ∈ c.modules
  mem_modules_of_variableNames : ∀ name ∈ c.variableNames, name ∈ c.modules
  mem_modules_of_subprograms : ∀ name ∈ c.subprograms, name ∈ c.modules
  /-- The symbols of a unit are those of the three sorts together. -/
  symbols_eq : ∀ name : ModuleName, c.symbols[name]?.getD ∅ =
    c.variableNames[name]?.getD ∅ ∪ c.hidden[name]?.getD ∅ ∪ c.subprograms[name]?.getD ∅
  /-- No symbol of any record is missing. -/
  symbols_of_record : ∀ entry ∈ s.records.entries, c.symbols[entry.1]? = some entry.2.symbols

/-! ## Records of listed units -/

namespace Survey

variable {root : Node} {projectRoot : String} {name : ModuleName} {record : UnitRecord}

theorem modules_summary :
    (summary root projectRoot).modules =
      ((descendants root).filterMap Node.unitName?).eraseDups := rfl

theorem mem_modules_summary_iff :
    name ∈ (summary root projectRoot).modules ↔
      ∃ u ∈ descendants root, u.unitName? = some name := by
  rw [modules_summary, List.mem_eraseDups, List.mem_filterMap]

/-- There is a record under a name only if something went to that name. -/
theorem record?_summary_eq_some (h : (summary root projectRoot).record? name = some record) :
    record.name = name ∧
      ∃ contribution, (name, contribution) ∈
        contributionsFrom (root.firstProgram?.bind Node.unitName?) (descendants root) := by
  rw [record?, records_summary, RecordBook.find?_gather_reverse_eq_some_iff] at h
  obtain ⟨hsome, rfl⟩ := h
  obtain ⟨contribution, hmem⟩ := List.exists_mem_of_ne_nil _ hsome
  exact ⟨UnitRecord.name_ofContributions _, contribution, mem_contributedTo_iff.mp hmem⟩

/-- The unit of a contribution is one of the tree, and the pass has listed it. -/
theorem listed_summary (root : Node) (projectRoot : String) :
    (summary root projectRoot).Listed := by
  constructor
  case name_eq =>
    intro name record h
    exact (record?_summary_eq_some h).1
  case mem_modules =>
    intro name record h
    obtain ⟨-, contribution, hmem⟩ := record?_summary_eq_some h
    obtain ⟨p, hgoverned, -⟩ := mem_contributionsFrom_iff.mp hmem
    rw [← governor?_eq_homeBehind] at hgoverned
    -- be it the unit opened last or the first program, it is a node of the tree
    rw [mem_modules_summary_iff]
    exact exists_unit_of_governor? (fun u => p.mem_of_mem_before) hgoverned

/-! ## Tables of listed units -/

namespace Listed

variable {s : Survey} (h : s.Listed)

include h

theorem mem_modules_of_mem_tabulate {β : Type} {f : UnitRecord → Option β}
    (hmem : name ∈ s.records.tabulate f) : name ∈ s.modules := by
  obtain ⟨record, hrecord⟩ := exists_record_of_mem_tabulate hmem
  exact h.mem_modules hrecord

/-- The table of symbols holds whatever some record does. -/
theorem getElem?_symbolTable_of_record (hrecord : s.record? name = some record) :
    s.symbolTable[name]? = some record.symbols := by
  rw [getElem?_symbolTable, if_pos (h.mem_modules hrecord), symbolsOf, hrecord]

/-- The symbols of a unit are those of the three sorts together. -/
theorem getD_symbolTable (name : ModuleName) :
    s.symbolTable[name]?.getD ∅ =
      ((s.record? name).map UnitRecord.variableNames).getD ∅ ∪
        ((s.record? name).map UnitRecord.hidden).getD ∅ ∪
        ((s.record? name).map UnitRecord.subprograms).getD ∅ := by
  cases hrecord : s.record? name with
  | some record =>
    rw [h.getElem?_symbolTable_of_record hrecord]
    rfl
  | none =>
    -- a listed unit without a record has a row, but an empty one
    have hempty : s.symbolTable[name]?.getD ∅ = ∅ := by
      rw [getElem?_symbolTable, symbolsOf, hrecord]
      by_cases hlisted : name ∈ s.modules
      · rw [if_pos hlisted]
        rfl
      · rw [if_neg hlisted]
        rfl
    rw [hempty]
    rfl

end Listed

end Survey

/-! ## Coherent catalogs -/

namespace Catalog

variable {root : Node} {projectRoot : String} {s : Survey} {c : Catalog}

/-- When all records are listed, the tables agree. -/
theorem coherent_ofSurvey (h : s.Listed) : Coherent s (ofSurvey s) := by
  constructor
  case modules_eq => rfl
  case records =>
    intro entry hentry
    obtain ⟨name, record⟩ := entry
    have hrecord : s.record? name = some record := (RecordBook.find?_eq_some_iff ..).mpr hentry
    exact ⟨h.name_eq hrecord, h.mem_modules hrecord⟩
  case mem_symbols =>
    intro name
    exact Survey.mem_symbolTable_iff
  case mem_exports =>
    intro name
    exact Survey.mem_exportTable_iff.trans Survey.mem_symbolTable_iff
  case mem_modules_of_uses | mem_modules_of_imports | mem_modules_of_hidden |
      mem_modules_of_variableNames | mem_modules_of_subprograms =>
    intro name hmem
    simp only [ofSurvey, ofTables, Survey.importTable] at hmem
    exact h.mem_modules_of_mem_tabulate hmem
  case symbols_eq =>
    intro name
    simp only [ofSurvey, ofTables, RecordBook.getD_tabulate]
    exact h.getD_symbolTable name
  case symbols_of_record =>
    intro entry hentry
    obtain ⟨name, record⟩ := entry
    have hrecord : s.record? name = some record := (RecordBook.find?_eq_some_iff ..).mpr hentry
    exact h.getElem?_symbolTable_of_record hrecord

/-- A table with rows for listed units only is empty when none is listed. -/
theorem eq_empty_of_isEmpty {β : Type} {table : Std.ExtTreeMap ModuleName β}
    (hempty : c.isEmpty = true) (h : ∀ name ∈ table, name ∈ c.modules) : table = ∅ := by
  have hmodules : c.modules = [] := List.isEmpty_iff.mp hempty
  rw [Std.ExtTreeMap.eq_empty_iff_forall_not_mem]
  intro name hmem
  have hlisted := h name hmem
  rw [hmodules] at hlisted
  cases hlisted

/-- A coherent catalog without units holds nothing in any of its tables. -/
theorem Coherent.tables_eq_empty (h : Coherent s c) (hempty : c.isEmpty = true) :
    c.modules = [] ∧ c.exports = ∅ ∧ c.uses = ∅ ∧ c.imports = ∅ ∧ c.hidden = ∅ ∧
      c.variableNames = ∅ ∧ c.subprograms = ∅ ∧ c.symbols = ∅ := by
  refine ⟨List.isEmpty_iff.mp hempty, ?_, ?_, ?_, ?_, ?_, ?_, ?_⟩
  · exact eq_empty_of_isEmpty hempty fun name => (h.mem_exports name).mp
  · exact eq_empty_of_isEmpty hempty h.mem_modules_of_uses
  · exact eq_empty_of_isEmpty hempty h.mem_modules_of_imports
  · exact eq_empty_of_isEmpty hempty h.mem_modules_of_hidden
  · exact eq_empty_of_isEmpty hempty h.mem_modules_of_variableNames
  · exact eq_empty_of_isEmpty hempty h.mem_modules_of_subprograms
  · exact eq_empty_of_isEmpty hempty fun name => (h.mem_symbols name).mp

/-- The catalog of a tree lists the names of its modules and programs in
    document order, each once, and its tables are coherent.  If the tree opens
    no unit, then there is nothing in any table. -/
theorem coherent_of_ofTree (h : ofTree root projectRoot = .ok c) :
    (∀ n ∈ descendants root, n.kind? = some .module ∨ n.kind? = some .program →
      ∃ name, n.attr? "name" = some name ∧ n.unitName? = some (.ofSpelling name)) ∧
    c.modules = ((descendants root).filterMap Node.unitName?).eraseDups ∧
    (∃ s, Survey.ofTree root projectRoot = .ok s ∧ c = ofSurvey s ∧ Coherent s c) ∧
    (c.isEmpty = true →
      c.modules = [] ∧ c.exports = ∅ ∧ c.uses = ∅ ∧ c.imports = ∅ ∧ c.hidden = ∅ ∧
        c.variableNames = ∅ ∧ c.subprograms = ∅ ∧ c.symbols = ∅) := by
  obtain ⟨hwell, rfl⟩ := ofTree_eq_ok_iff.mp h
  have hcoherent := coherent_ofSurvey (Survey.listed_summary root projectRoot)
  refine ⟨?_, rfl, ⟨_, Survey.ofTree_eq_ok_iff.mpr ⟨hwell, rfl⟩, rfl, hcoherent⟩, ?_⟩
  · intro n hn hkind
    obtain ⟨name, hname⟩ := Option.ne_none_iff_exists'.mp (hwell.unit_name n hn hkind)
    refine ⟨name, hname, ?_⟩
    rw [Node.unitName?_of_opensUnit (Node.opensUnit_iff.mpr hkind.symm), hname, Option.map_some]
  · exact hcoherent.tables_eq_empty

/-- The units of a tree are listed once each, however often they are opened. -/
theorem coherent_sampleTree :
    ∃ s c, ofTree sampleTree "src" = .ok c ∧ Coherent s c ∧
      c.modules = [.ofSpelling "Util", .ofSpelling "Main"] := by
  obtain ⟨c, h⟩ := exists_eq_ok_of_isOk (x := ofTree sampleTree "src") (by decide +kernel)
  obtain ⟨-, hmodules, ⟨s, -, -, hcoherent⟩, -⟩ := coherent_of_ofTree h
  refine ⟨s, c, h, hcoherent, ?_⟩
  rw [hmodules]
  decide +kernel

end Catalog

end ModuleCatalog
