import ModuleCatalog.Proofs.Declaration
import ModuleCatalog.Proofs.Governor

/-! # What nodes contribute

    What one node contributes does not depend on where it stands; to which
    unit it goes depends on the nodes ahead of it only.  A book made from
    contributions holds, under each name, exactly what was contributed to that
    name. -/

namespace ModuleCatalog

namespace Node

/-- The path that a file node tells. -/
def filePath? (n : Node) : Option String :=
  if n.kind? = some .file then n.attr? "path" else none

/-- What a node contributes to the unit that governs its place. -/
def contribution? (n : Node) : Option Contribution :=
  match n.kind? with
  | some .variable => (n.attr? "name").map fun name => .variable (Text.lower name)
  | some .subroutine | some .function =>
    (n.attr? "name").map fun name => .subprogram (Text.lower name)
  | some .declaration =>
    let hidden := hiddenSymbols (descendants n)
    if hidden.isEmpty then none else some (.hidden hidden)
  | some .use =>
    (n.attr? "name").map fun target => .use ⟨.ofSpelling target, .ofNames n.onlySymbols⟩
  | _ => none

variable {n : Node} {symbol : String}

theorem contribution?_eq_variable_iff :
    n.contribution? = some (.variable symbol) ↔
      n.kind? = some .variable ∧ ∃ name, n.attr? "name" = some name ∧ Text.lower name = symbol := by
  unfold contribution?
  cases n.kind? with
  | none => simp
  | some kind => cases kind <;> simp

theorem contribution?_eq_subprogram_iff :
    n.contribution? = some (.subprogram symbol) ↔
      (n.kind? = some .subroutine ∨ n.kind? = some .function) ∧
        ∃ name, n.attr? "name" = some name ∧ Text.lower name = symbol := by
  unfold contribution?
  cases n.kind? with
  | none => simp
  | some kind => cases kind <;> simp

/-- A declaration contributes what it hides, unless that is nothing. -/
theorem contribution?_eq_hidden_iff {hidden : SymbolSet} :
    n.contribution? = some (.hidden hidden) ↔
      n.kind? = some .declaration ∧ hidden = hiddenSymbols (descendants n) ∧ hidden ≠ ∅ := by
  unfold contribution?
  cases n.kind? with
  | none => simp
  | some kind =>
    cases kind with
    | declaration =>
      simp only [Option.ite_none_left_eq_some, Option.some.injEq, Contribution.hidden.injEq,
        true_and, Std.ExtTreeSet.isEmpty_iff]
      constructor
      · intro h
        obtain ⟨hne, rfl⟩ := h
        exact ⟨rfl, hne⟩
      · intro h
        obtain ⟨rfl, hne⟩ := h
        exact ⟨hne, rfl⟩
    | _ => simp

theorem contribution?_eq_use_iff {clause : UseClause} :
    n.contribution? = some (.use clause) ↔
      n.kind? = some .use ∧ ∃ target, n.attr? "name" = some target ∧
        ⟨.ofSpelling target, .ofNames n.onlySymbols⟩ = clause := by
  unfold contribution?
  cases n.kind? with
  | none => simp
  | some kind => cases kind <;> simp

/-- Units contribute nothing themselves. -/
theorem contribution?_of_opensUnit (h : n.opensUnit = true) : n.contribution? = none := by
  rcases opensUnit_iff.mp h with hkind | hkind <;> simp [contribution?, hkind]

theorem filePath?_of_kind? {kind : NodeKind} (hkind : n.kind? = some kind) (h : kind ≠ .file) :
    n.filePath? = none := by
  simp [filePath?, hkind, h]

end Node

/-! ## Contributions in document order -/

/-- What some nodes contribute to which unit, in document order, when `home?`
    governs ahead of them. -/
def contributionsFrom (home? : Option ModuleName) : List Node → List (ModuleName × Contribution)
  | [] => []
  | n :: rest =>
    (home?.bind fun home => n.contribution?.map (home, ·)).toList ++
      contributionsFrom (homeBehind home? [n]) rest

/-- The contributions of a list go on behind any part of it with the unit that
    governs there. -/
theorem contributionsFrom_append (home? : Option ModuleName) (xs ys : List Node) :
    contributionsFrom home? (xs ++ ys) =
      contributionsFrom home? xs ++ contributionsFrom (homeBehind home? xs) ys := by
  induction xs generalizing home? with
  | nil => rfl
  | cons n xs ih =>
    -- `n` is ahead of both parts, and what governs behind it is handed on
    rw [List.cons_append, contributionsFrom, contributionsFrom, ih, List.append_assoc,
      ← homeBehind_append]
    rfl

theorem contributionsFrom_singleton (home? : Option ModuleName) (n : Node) :
    contributionsFrom home? [n] = (home?.bind fun home => n.contribution?.map (home, ·)).toList :=
  List.append_nil _

/-- The contributions of some nodes, each told from its own place. -/
theorem contributionsFrom_eq_filterMap (home? : Option ModuleName) (nodes : List Node) :
    contributionsFrom home? nodes =
      (Place.all nodes).filterMap fun p => (homeBehind home? p.before).bind fun home =>
        p.node.contribution?.map (home, ·) := by
  induction nodes generalizing home? with
  | nil => rfl
  | cons n nodes ih =>
    have hhanded : ∀ p : Place nodes, homeBehind home? (p.behindHead n).before =
        homeBehind (homeBehind home? [n]) p.before := by
      intro p
      exact homeBehind_append home? [n] p.before
    rw [contributionsFrom, ih, Place.all, List.filterMap_cons, List.filterMap_map]
    simp only [Function.comp_def, hhanded, homeBehind_nil]
    -- the head is governed by `home?`, and contributes at most once
    cases home?.bind fun home => n.contribution?.map (home, ·) <;> rfl

/-- Contributed is what some node contributes, and that to the unit that
    governs the place of the node. -/
theorem mem_contributionsFrom_iff {home? : Option ModuleName} {nodes : List Node}
    {name : ModuleName} {contribution : Contribution} :
    (name, contribution) ∈ contributionsFrom home? nodes ↔
      ∃ p : Place nodes, homeBehind home? p.before = some name ∧
        p.node.contribution? = some contribution := by
  induction nodes generalizing home? with
  | nil => simpa [contributionsFrom] using fun p : Place [] => p.elim_nil.elim
  | cons n nodes ih =>
    rw [Place.exists_cons_iff (P := fun before m => homeBehind home? before = some name ∧
      m.contribution? = some contribution), contributionsFrom, List.mem_append, ih]
    -- the head is governed by `home?`, its tail by what it leaves behind
    refine or_congr ?_ (exists_congr fun p => ?_)
    · rw [homeBehind_nil]
      cases home? <;> cases n.contribution? <;> simp [eq_comm]
    · rw [← homeBehind_append, List.singleton_append]

end ModuleCatalog
