import ModuleCatalog.Proofs.Book
import ModuleCatalog.Proofs.Outcome

/-! # Where symbols go

    Every row of a catalog is told from the tree alone: which nodes are
    governed by the name of the row, and what they contribute.  The pass that
    keeps the last unit opened, and falls back to a program that it has not
    reached yet, does not show in these statements. -/

namespace ModuleCatalog

variable {root : Node} {projectRoot symbol : String} {name : ModuleName}

/-- A file with a variable in front of its program, and with a module that is
    opened twice, in two spellings. -/
def sampleTree : Node :=
  let node := fun (kind : NodeKind) attrs children => Node.mk kind.tag (.ofList attrs) children
  node .file [("path", "src/main.f90")]
    [node .variable [("name", "X")] [],
      node .module [("name", "Util")]
        [node .declaration []
          [node .name [("id", "Shown")] [], node .accessSpec [("keyword", "PRIVATE")] [],
            node .name [("id", "Secret")] []]],
      node .program [("name", "Main")] [],
      node .module [("name", "UTIL")] [node .function [("name", "Area")] []]]

namespace Survey

/-- The records of a tree are gathered from what its nodes contribute. -/
theorem records_summary :
    (summary root projectRoot).records =
      .gather (contributionsFrom (root.firstProgram?.bind Node.unitName?)
        (descendants root)).reverse := rfl

/-- The row of a name holds what the nodes that it governs add. -/
theorem mem_row_iff {field : UnitRecord → SymbolSet} {adds : Contribution → String → Prop}
    (h : Collects field adds) :
    symbol ∈ (((summary root projectRoot).records.tabulate fun record =>
        Catalog.nonempty? (field record))[name]?.getD ∅) ↔
      ∃ p : Place (descendants root), governor? root p.before = some name ∧
        ∃ contribution, p.node.contribution? = some contribution ∧ adds contribution symbol := by
  rw [records_summary, h.mem_row_iff]
  simp only [mem_contributionsFrom_iff, ← governor?_eq_homeBehind]
  constructor
  · intro hmem
    obtain ⟨contribution, ⟨p, hgoverned, hcontribution⟩, hadds⟩ := hmem
    exact ⟨p, hgoverned, contribution, hcontribution, hadds⟩
  · intro hplace
    obtain ⟨p, hgoverned, contribution, hcontribution, hadds⟩ := hplace
    exact ⟨contribution, ⟨p, hgoverned, hcontribution⟩, hadds⟩

end Survey

/-- A declaration adds a symbol exactly when it hides a name with that symbol. -/
theorem adds_hidden_iff {n : Node} :
    (∃ contribution, n.contribution? = some contribution ∧
        ∃ hidden, contribution = .hidden hidden ∧ symbol ∈ hidden) ↔
      n.kind? = some .declaration ∧ symbol ∈ hiddenSymbols (descendants n) := by
  constructor
  · intro h
    obtain ⟨_, hcontribution, hidden, rfl, hmem⟩ := h
    obtain ⟨hkind, rfl, -⟩ := Node.contribution?_eq_hidden_iff.mp hcontribution
    exact ⟨hkind, hmem⟩
  · intro h
    obtain ⟨hkind, hmem⟩ := h
    have hne : hiddenSymbols (descendants n) ≠ ∅ := by
      intro hempty
      rw [hempty] at hmem
      exact Std.ExtTreeSet.not_mem_empty hmem
    exact ⟨_, Node.contribution?_eq_hidden_iff.mpr ⟨hkind, rfl, hne⟩, _, rfl, hmem⟩

namespace Catalog

variable {c : Catalog}

/-! ## Variables and subprograms -/

/-- The variables of a unit are the names of the variables that it governs, and
    its subprograms those of the subroutines and functions that it governs. -/
theorem mem_named_rows_iff (h : ofTree root projectRoot = .ok c) (name : ModuleName)
    (symbol : String) :
    (symbol ∈ c.variableNames[name]?.getD ∅ ↔
      ∃ p : Place (descendants root), governor? root p.before = some name ∧
        p.node.kind? = some .variable ∧
        ∃ spelling, p.node.attr? "name" = some spelling ∧ Text.lower spelling = symbol) ∧
    (symbol ∈ c.subprograms[name]?.getD ∅ ↔
      ∃ p : Place (descendants root), governor? root p.before = some name ∧
        (p.node.kind? = some .subroutine ∨ p.node.kind? = some .function) ∧
        ∃ spelling, p.node.attr? "name" = some spelling ∧ Text.lower spelling = symbol) := by
  obtain ⟨-, rfl⟩ := ofTree_eq_ok_iff.mp h
  constructor
  · refine (Survey.mem_row_iff collects_variableNames).trans (exists_congr fun p => ?_)
    simp only [exists_eq_right, Node.contribution?_eq_variable_iff]
  · refine (Survey.mem_row_iff collects_subprograms).trans (exists_congr fun p => ?_)
    simp only [exists_eq_right, Node.contribution?_eq_subprogram_iff]

/-- The variable in front of the program is its own, and so is the function of
    the module that was opened again. -/
theorem named_rows_sampleTree :
    ∃ c, ofTree sampleTree "src" = .ok c ∧
      "x" ∈ c.variableNames[ModuleName.ofSpelling "Main"]?.getD ∅ ∧
      "area" ∈ c.subprograms[ModuleName.ofSpelling "Util"]?.getD ∅ := by
  obtain ⟨c, h⟩ := exists_eq_ok_of_isOk (x := ofTree sampleTree "src") (by decide +kernel)
  refine ⟨c, h, ?_, ?_⟩
  · refine (mem_named_rows_iff h _ _).1.mpr ⟨.nth _ 1 (by decide +kernel), ?_, ?_, "X", ?_, ?_⟩
    all_goals decide +kernel
  · refine (mem_named_rows_iff h _ _).2.mpr ⟨.nth _ 9 (by decide +kernel), ?_, ?_, "Area", ?_, ?_⟩
    all_goals decide +kernel

/-! ## Hidden names -/

/-- The hidden names of a unit are those that stand behind a private marker
    inside a declaration that the unit governs where the declaration begins;
    and each declaration hides the names behind its own marker, no others. -/
theorem mem_hidden_row_iff (h : ofTree root projectRoot = .ok c) (name : ModuleName) :
    (∀ symbol, symbol ∈ c.hidden[name]?.getD ∅ ↔
      ∃ d : Place (descendants root), governor? root d.before = some name ∧
        d.node.kind? = some .declaration ∧
        ∃ n : Place (descendants d.node), n.IsHidden ∧
          ∃ id, n.node.attr? "id" = some id ∧ Text.lower id = symbol) ∧
    ∀ d : Place (descendants root), governor? root d.before = some name →
      d.node.kind? = some .declaration →
      ∃ hidden, d.node.hiddenNames (.ok name) = .ok hidden ∧
        ∀ symbol, symbol ∈ hidden ↔
          ∃ n : Place (descendants d.node), n.IsHidden ∧
            ∃ id, n.node.attr? "id" = some id ∧ Text.lower id = symbol := by
  obtain ⟨hwell, rfl⟩ := ofTree_eq_ok_iff.mp h
  constructor
  · intro symbol
    refine (Survey.mem_row_iff collects_hidden).trans (exists_congr fun d => ?_)
    rw [adds_hidden_iff, mem_hiddenSymbols_iff]
  · intro d hgoverned hkind
    -- within its unit a declaration never misses one
    have hhome : ∀ fault, (.ok name : Except TreeFault ModuleName) = .error fault ↔
        ¬ True ∧ fault = .unscoped .declaration := by simp
    have hnone : Faultless (ScanFaultAt True) (descendants d.node) :=
      faultless_scan_iff.mpr ⟨hwell.marker_keyword d.node d.mem hkind,
        hwell.hidden_id d.node d.mem hkind, fun _ => trivial⟩
    refine ⟨_, (Node.hiddenNames_eq_ok_iff hhome).mpr ⟨hnone, rfl⟩, fun symbol => ?_⟩
    rw [mem_hiddenSymbols_iff]

/-- The name behind the marker is hidden. -/
theorem hidden_row_sampleTree :
    ∃ c, ofTree sampleTree "src" = .ok c ∧
      "secret" ∈ c.hidden[ModuleName.ofSpelling "Util"]?.getD ∅ := by
  obtain ⟨c, h⟩ := exists_eq_ok_of_isOk (x := ofTree sampleTree "src") (by decide +kernel)
  refine ⟨c, h, ((mem_hidden_row_iff h _).1 _).mpr ⟨.nth _ 3 (by decide +kernel), ?_, ?_,
    .nth _ 3 (by decide +kernel), ⟨?_, ?_⟩, "Secret", ?_, ?_⟩⟩
  all_goals decide +kernel

end Catalog

end ModuleCatalog
