import ModuleCatalog.Proofs.Imports
import ModuleCatalog.Proofs.Listing
import ModuleCatalog.Proofs.Respelling

/-! # Catalogs are in lower case

    Texts come into a catalog on two ways: as names of units, which are in
    lower case by their type, and as symbols, which are texts like any other
    and are in lower case because every contribution is made of lower-cased
    attributes.  No step on the way from a contribution to a table makes a
    symbol of its own (`names_precede_iff`, `Mentions.name_or_symbol`), so a
    catalog shows nothing else (`Catalog.lower_case_of_ofTree`). -/

namespace ModuleCatalog

/-! ## Looking rows up by a text -/

section lookup

variable {β : Type} {table : Std.ExtTreeMap ModuleName β} {text spelling : String} {row : β}

/-- A row is found by a text exactly when its key reads that text, letter by
    letter. -/
theorem rowAt?_eq_some_iff :
    rowAt? table text = some row ↔
      ∃ name : ModuleName, name.text = text ∧ (name, row) ∈ table.toList := by
  simp only [rowAt?, Option.bind_eq_some_iff, ModuleName.ofText?_eq_some_iff,
    Std.ExtTreeMap.mem_toList_iff_getElem?_eq_some]

theorem rowAt?_lower :
    rowAt? table (Text.lower spelling) = table[ModuleName.ofSpelling spelling]? := by
  have hname : ModuleName.ofText? (Text.lower spelling) = some (.ofSpelling spelling) :=
    ModuleName.ofText?_eq_some_iff.mpr rfl
  rw [rowAt?, hname, Option.bind_some]

/-- Nothing is found by a text that is not in lower case. -/
theorem rowAt?_eq_none (h : Text.lower text ≠ text) : rowAt? table text = none := by
  rw [Option.eq_none_iff_forall_not_mem]
  intro row hrow
  obtain ⟨name, rfl, -⟩ := rowAt?_eq_some_iff.mp hrow
  exact h name.lower_text

end lookup

/-! ## Symbols of contributions and records -/

/-- A use clause lists a symbol. -/
def UseClause.Lists (clause : UseClause) (symbol : String) : Prop :=
  ∃ names, clause.selection = .only names ∧ symbol ∈ names

/-- A contribution brings a symbol along. -/
def Contribution.Names (symbol : String) : Contribution → Prop
  | .variable name | .subprogram name => symbol = name
  | .hidden symbols => symbol ∈ symbols
  | .use clause => clause.Lists symbol

namespace UnitRecord

variable {record : UnitRecord} {contribution : Contribution} {name : ModuleName} {symbol : String}

/-- A record names a symbol, as one of its own or in the list of a clause. -/
def Names (record : UnitRecord) (symbol : String) : Prop :=
  symbol ∈ record.symbols ∨ ∃ clause ∈ record.uses, clause.Lists symbol

theorem not_names_blank : ¬ Names { name } symbol := by
  simp [Names, symbols]

/-- A contribution adds its symbols to those of the record, and no others. -/
theorem names_precede_iff :
    (record.precede contribution).Names symbol ↔
      record.Names symbol ∨ contribution.Names symbol := by
  unfold Names symbols
  simp only [Std.ExtTreeSet.mem_union_iff]
  cases contribution with
  | «variable» name | subprogram name =>
    simp only [precede, Contribution.Names, Std.ExtTreeSet.mem_insert]
    grind
  | hidden symbols =>
    simp only [precede, Contribution.Names, Std.ExtTreeSet.mem_union_iff]
    grind
  | use clause =>
    simp only [precede, Contribution.Names, List.mem_cons, exists_eq_or_imp]
    grind

/-- A record names what some of its contributions brings along. -/
theorem names_ofContributions_iff {contributions : List Contribution} :
    (ofContributions name contributions).Names symbol ↔
      ∃ contribution ∈ contributions, contribution.Names symbol := by
  induction contributions with
  | nil =>
    show Names { name } symbol ↔ _
    simp [not_names_blank]
  | cons contribution contributions ih =>
    show ((ofContributions name contributions).precede contribution).Names symbol ↔ _
    rw [names_precede_iff, ih, or_comm]
    simp only [List.mem_cons, exists_eq_or_imp]

end UnitRecord

namespace Node

variable {n : Node} {contribution : Contribution} {symbol : String}

/-- The symbols of a use clause are lower-cased texts of its names. -/
theorem lower_of_mem_onlySymbols (h : symbol ∈ n.onlySymbols) : Text.lower symbol = symbol := by
  obtain ⟨item, -, hitem⟩ := List.mem_filterMap.mp h
  obtain ⟨-, id, -, rfl⟩ := nameSymbol?_eq_some_iff.mp hitem
  exact Text.lower_lower id

/-- Whatever a node contributes, it contributes it in lower case. -/
theorem lower_of_contribution? (h : n.contribution? = some contribution)
    (hnames : contribution.Names symbol) : Text.lower symbol = symbol := by
  cases contribution with
  | «variable» name =>
    obtain ⟨-, spelling, -, rfl⟩ := contribution?_eq_variable_iff.mp h
    cases hnames
    exact Text.lower_lower spelling
  | subprogram name =>
    obtain ⟨-, spelling, -, rfl⟩ := contribution?_eq_subprogram_iff.mp h
    cases hnames
    exact Text.lower_lower spelling
  | hidden symbols =>
    obtain ⟨-, rfl, -⟩ := contribution?_eq_hidden_iff.mp h
    obtain ⟨_, _, id, -, rfl⟩ := mem_hiddenSymbols_iff.mp hnames
    exact Text.lower_lower id
  | use clause =>
    obtain ⟨-, target, -, rfl⟩ := contribution?_eq_use_iff.mp h
    obtain ⟨names, hnames, hmem⟩ := hnames
    -- a clause without names has no list
    have hne : n.onlySymbols ≠ [] := by
      intro hnil
      rw [hnil] at hnames
      cases hnames
    have hlist : names = n.onlySymbols := by
      rw [Selection.ofNames_of_ne_nil hne] at hnames
      exact (Selection.only.inj hnames).symm
    exact lower_of_mem_onlySymbols (hlist ▸ hmem)

/-- The lower case of the lower case is that of the text itself: a node names
    the unit that its attribute as it stands is a spelling of. -/
theorem unitNamed_eq_map_require (n : Node) (kind : NodeKind) :
    n.unitNamed kind = ModuleName.ofSpelling <$> n.require kind "name" := by
  unfold unitNamed symbol
  cases n.require kind "name" with
  | error fault => rfl
  | ok spelling => exact congrArg Except.ok (ModuleName.ofSpelling_lower spelling)

end Node

/-- The entry point is told from the name of the first program as it stands. -/
theorem entryPoint_eq_require (root : Node) :
    entryPoint root = match root.firstProgram? with
      | none => .ok none
      | some program =>
        (fun spelling => some (.ofSpelling spelling)) <$> program.require .program "name" := by
  unfold entryPoint Node.firstProgram?
  cases (descendants root).find? _ with
  | none => rfl
  | some program =>
    show some <$> program.unitNamed .program = _
    rw [Node.unitNamed_eq_map_require, Functor.map_map]

/-- The records of a tree name symbols in lower case only. -/
theorem Survey.lower_of_names_recordOf_summary {root : Node} {projectRoot symbol : String}
    {name : ModuleName} (h : ((summary root projectRoot).recordOf name).Names symbol) :
    Text.lower symbol = symbol := by
  rw [recordOf_summary, UnitRecord.names_ofContributions_iff] at h
  obtain ⟨contribution, hmem, hnames⟩ := h
  obtain ⟨p, -, hcontribution⟩ := mem_contributionsFrom_iff.mp (mem_contributedTo_iff.mp hmem)
  exact Node.lower_of_contribution? hcontribution hnames

/-! ## Texts of a catalog -/

namespace Catalog

/-- The tables that have a set of symbols under each name. -/
def symbolTables (c : Catalog) : List SymbolTable :=
  [c.exports, c.hidden, c.variableNames, c.subprograms, c.symbols]

/-- A catalog mentions a text as the name of a unit or as a symbol. -/
inductive Mentions (c : Catalog) : String → Prop where
  | unit {name : ModuleName} (h : name ∈ c.modules) : Mentions c name.text
  /-- The key of a row of symbols. -/
  | holder {table : SymbolTable} {name : ModuleName} (htable : table ∈ c.symbolTables)
      (h : name ∈ table) : Mentions c name.text
  /-- A member of some set of symbols. -/
  | symbol {table : SymbolTable} {name : ModuleName} {symbols : SymbolSet} {symbol : String}
      (htable : table ∈ c.symbolTables) (hrow : table[name]? = some symbols)
      (h : symbol ∈ symbols) : Mentions c symbol
  /-- The key of a row of use clauses. -/
  | user {name : ModuleName} (h : name ∈ c.uses) : Mentions c name.text
  | target {name : ModuleName} {row : List UseClause} {clause : UseClause}
      (hrow : c.uses[name]? = some row) (h : clause ∈ row) : Mentions c clause.target.text
  /-- A name of an explicit list. -/
  | listed {name : ModuleName} {row : List UseClause} {clause : UseClause} {symbol : String}
      (hrow : c.uses[name]? = some row) (hclause : clause ∈ row) (h : clause.Lists symbol) :
      Mentions c symbol
  /-- The key of a row of imports. -/
  | importer {name : ModuleName} (h : name ∈ c.imports) : Mentions c name.text
  | source {name : ModuleName} {row : List Import} {brought : Import}
      (hrow : c.imports[name]? = some row) (h : brought ∈ row) : Mentions c brought.target.text
  | imported {name : ModuleName} {row : List Import} {brought : Import} {symbol : String}
      (hrow : c.imports[name]? = some row) (hbrought : brought ∈ row)
      (h : symbol ∈ brought.symbols) : Mentions c symbol

variable {s : Survey} {name : ModuleName} {symbol text : String}

/-- What stands in a row of symbols is a symbol of the record of that unit. -/
theorem mem_symbols_of_mem_row {table : SymbolTable} (htable : table ∈ (ofSurvey s).symbolTables)
    (h : symbol ∈ table[name]?.getD ∅) : symbol ∈ (s.recordOf name).symbols := by
  -- three of the tables show one sort of symbols of the records each
  have hsort : ∀ sort : UnitRecord → SymbolSet, sort { name } = ∅ →
      symbol ∈ (s.records.tabulate fun record => nonempty? (sort record))[name]?.getD ∅ →
      symbol ∈ sort (s.recordOf name) := by
    intro sort hblank h
    rwa [Survey.getD_tabulate hblank] at h
  simp only [symbolTables, List.mem_cons, List.not_mem_nil, or_false] at htable
  rcases htable with rfl | rfl | rfl | rfl | rfl
  · exact (Survey.mem_getD_exportTable_iff.mp h).2.1
  · have hhidden := hsort UnitRecord.hidden rfl h
    simp [UnitRecord.symbols, hhidden]
  · have hvariable := hsort UnitRecord.variableNames rfl h
    simp [UnitRecord.symbols, hvariable]
  · have hsubprogram := hsort UnitRecord.subprograms rfl h
    simp [UnitRecord.symbols, hsubprogram]
  · exact (Survey.mem_getD_symbolTable_iff.mp h).2

theorem names_of_lists {row : List UseClause} {clause : UseClause}
    (hrow : (ofSurvey s).uses[name]? = some row) (hclause : clause ∈ row)
    (h : clause.Lists symbol) : (s.recordOf name).Names symbol := by
  rw [getElem?_uses_ofSurvey, Survey.nonempty?_eq_some_iff] at hrow
  obtain ⟨-, rfl⟩ := hrow
  exact .inr ⟨clause, hclause, h⟩

/-- What an import brings in is exported by its target or listed by its
    clause. -/
theorem exists_names_of_imported {row : List Import} {brought : Import}
    (hrow : (ofSurvey s).imports[name]? = some row) (hbrought : brought ∈ row)
    (h : symbol ∈ brought.symbols) : ∃ home, (s.recordOf home).Names symbol := by
  rw [getElem?_imports_ofSurvey, Survey.nonempty?_eq_some_iff] at hrow
  obtain ⟨-, rfl⟩ := hrow
  obtain ⟨⟨target, selection⟩, hclause, hresolved⟩ := List.mem_filterMap.mp hbrought
  cases selection with
  | everything =>
    -- the symbols are a row of the exports, and so symbols of the target
    cases hresolved
    refine ⟨target, .inl (mem_symbols_of_mem_row ?_ h)⟩
    exact List.mem_cons_self
  | only names =>
    -- the symbols are those of the list, whatever the target exports
    obtain ⟨-, hresolved⟩ := Option.ite_none_right_eq_some.mp hresolved
    cases hresolved
    have hmem : symbol ∈ names := by simpa using h
    exact ⟨name, .inr ⟨_, hclause, names, rfl, hmem⟩⟩

/-- What a catalog mentions is the name of a unit, or some record names it. -/
theorem Mentions.name_or_symbol (h : (ofSurvey s).Mentions text) :
    (∃ name : ModuleName, name.text = text) ∨ ∃ name, (s.recordOf name).Names text := by
  cases h with
  | unit h | holder htable h | user h | importer h | target hrow h | source hrow h =>
    -- names of units are in lower case wherever they stand
    exact .inl ⟨_, rfl⟩
  | symbol htable hrow h =>
    have hsymbol := mem_getD_iff.mpr ⟨_, hrow, h⟩
    exact .inr ⟨_, .inl (mem_symbols_of_mem_row htable hsymbol)⟩
  | listed hrow hclause h => exact .inr ⟨_, names_of_lists hrow hclause h⟩
  | imported hrow hbrought h => exact .inr (exists_names_of_imported hrow hbrought h)

variable {root : Node} {projectRoot : String} {c : Catalog}

/-- Every name and symbol in the catalog of a tree is in lower case.  Rows are
    looked up by keys that read the very text that is asked for, so nothing is
    found by a text that is not in lower case, while the lower case of the name
    of a module or program always finds its symbols and exports.  Lower-casing
    a second time changes nothing: units, entry point and targets, which are
    taken to lower case twice, are those that the attributes as they stand are
    spellings of, and a tree that is in lower case already has the same
    catalog. -/
theorem lower_case_of_ofTree (h : ofTree root projectRoot = .ok c) :
    (∀ text, c.Mentions text → Text.lower text = text) ∧
    (∀ (β : Type) (table : Std.ExtTreeMap ModuleName β) (text : String) (row : β),
      rowAt? table text = some row ↔
        ∃ name : ModuleName, name.text = text ∧ (name, row) ∈ table.toList) ∧
    (∀ text, Text.lower text ≠ text →
      (∀ table ∈ c.symbolTables, rowAt? table text = none) ∧
        rowAt? c.uses text = none ∧ rowAt? c.imports text = none) ∧
    (∀ u ∈ descendants root, u.kind? = some .module ∨ u.kind? = some .program →
      ∃ spelling declared exported, u.attr? "name" = some spelling ∧
        rowAt? c.symbols (Text.lower spelling) = some declared ∧
        rowAt? c.exports (Text.lower spelling) = some exported) ∧
    (∀ text, Text.lower (Text.lower text) = Text.lower text) ∧
    (∀ (n : Node) (kind : NodeKind),
      n.unitNamed kind = ModuleName.ofSpelling <$> n.require kind "name") ∧
    (entryPoint root = match root.firstProgram? with
      | none => .ok none
      | some program =>
        (fun spelling => some (.ofSpelling spelling)) <$> program.require .program "name") ∧
    ∀ root', root.Respells (fun s t => t = Text.lower s) root' →
      ofTree root' projectRoot = .ok c := by
  obtain ⟨hwell, hc⟩ := ofTree_eq_ok_iff.mp h
  refine ⟨?_, fun _ _ _ _ => rowAt?_eq_some_iff, ?_, ?_, Text.lower_lower,
    Node.unitNamed_eq_map_require, entryPoint_eq_require root, ?_⟩
  · intro text hmentions
    rw [hc] at hmentions
    obtain ⟨name, rfl⟩ | ⟨name, hnames⟩ := hmentions.name_or_symbol
    · exact name.lower_text
    · exact Survey.lower_of_names_recordOf_summary hnames
  · intro text hcapital
    exact ⟨fun _ _ => rowAt?_eq_none hcapital, rowAt?_eq_none hcapital, rowAt?_eq_none hcapital⟩
  · intro u hu hkind
    obtain ⟨spelling, hspelling⟩ := Option.ne_none_iff_exists'.mp (hwell.unit_name u hu hkind)
    have hname : u.unitName? = some (.ofSpelling spelling) := by
      rw [Node.unitName?_of_opensUnit (Node.opensUnit_iff.mpr hkind.symm), hspelling,
        Option.map_some]
    have hlisted : ModuleName.ofSpelling spelling ∈ (Survey.summary root projectRoot).modules :=
      Survey.mem_modules_summary_iff.mpr ⟨u, hu, hname⟩
    have hdeclared : ModuleName.ofSpelling spelling ∈ c.symbols := by
      rw [hc]
      exact Survey.mem_symbolTable_iff.mpr hlisted
    have hexported : ModuleName.ofSpelling spelling ∈ c.exports := by
      rw [hc] at hdeclared ⊢
      exact Survey.mem_exportTable_iff.mpr hdeclared
    obtain ⟨declared, hdeclared⟩ :=
      Option.isSome_iff_exists.mp (Std.ExtTreeMap.mem_iff_isSome_getElem?.mp hdeclared)
    obtain ⟨exported, hexported⟩ :=
      Option.isSome_iff_exists.mp (Std.ExtTreeMap.mem_iff_isSome_getElem?.mp hexported)
    exact ⟨spelling, declared, exported, hspelling, rowAt?_lower.trans hdeclared,
      rowAt?_lower.trans hexported⟩
  · intro root' hrespells
    -- an attribute that is in lower case already reads as the one it came from
    have hlower : ∀ s t : String, t = Text.lower s → Text.lower s = Text.lower t := by
      rintro s t rfl
      exact (Text.lower_lower s).symm
    rw [← h]
    exact (ofTree_eq_of_readsAlike projectRoot (hrespells.forall₂_readsAlike hlower)).symm

/-- A program that uses a module in another spelling.  One name begins with the
    capital that two characters become, and others end in a capital sigma. -/
def sampleScript : Node :=
  let node := fun (kind : NodeKind) attrs children => Node.mk kind.tag (.ofList attrs) children
  { tag := "project"
    children :=
      [node .module [("name", "İZMİR")] [node .variable [("name", "ΣΑΣ")] []],
        node .program [("name", "ΟΔΟΣ")] [node .use [("name", "i̇zmİr")] []]] }

/-- Both units are found by the lower case of their names, and not by the names
    as they stand. -/
theorem lower_case_of_ofTree_sampleScript :
    ∃ c, ofTree sampleScript "src" = .ok c ∧
      rowAt? c.exports "ΟΔΟΣ" = none ∧ rowAt? c.exports "İZMİR" = none ∧
      (∃ exported, rowAt? c.exports "οδος" = some exported) ∧
      ∃ exported, rowAt? c.exports "i̇zmi̇r" = some exported := by
  obtain ⟨c, h⟩ := exists_eq_ok_of_isOk (x := ofTree sampleScript "src") (by decide +kernel)
  obtain ⟨-, -, hcapital, hunits, -⟩ := lower_case_of_ofTree h
  have hexports : ∀ spelling, Text.lower spelling ≠ spelling → rowAt? c.exports spelling = none :=
    fun spelling hne => (hcapital spelling hne).1 _ List.mem_cons_self
  have hrow : ∀ spelling text, Text.lower spelling = text →
      (∃ u ∈ descendants sampleScript, (u.kind? = some .module ∨ u.kind? = some .program) ∧
        u.attr? "name" = some spelling) → ∃ exported, rowAt? c.exports text = some exported := by
    rintro spelling _ rfl ⟨u, hu, hkind, hspelling⟩
    obtain ⟨spelling', declared, exported, hspelling', -, hexported⟩ := hunits u hu hkind
    obtain rfl := Option.some.inj (hspelling.symm.trans hspelling')
    exact ⟨exported, hexported⟩
  refine ⟨c, h, hexports _ (by decide +kernel), hexports _ (by decide +kernel), ?_, ?_⟩
  · exact hrow "ΟΔΟΣ" "οδος" (by decide +kernel) (by decide +kernel)
  · exact hrow "İZMİR" "i̇zmi̇r" (by decide +kernel) (by decide +kernel)

end Catalog

end ModuleCatalog
