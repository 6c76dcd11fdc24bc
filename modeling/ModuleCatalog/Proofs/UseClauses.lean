import Mathlib.Algebra.BigOperators.Group.List.Lemmas
import Mathlib.Algebra.GroupWithZero.Nat
import ModuleCatalog.Proofs.Attribution
import ModuleCatalog.Proofs.Rows

/-! # Where use clauses go

    The use clauses of a unit are told from the tree alone: one for each use
    node that the unit governs, in document order, with the target and the
    names that the node gives.  So no clause is lost or told twice, wherever
    its node stands and however often its unit is opened. -/

namespace ModuleCatalog

/-! ## Reading a list in order -/

/-- What is read from the selected items, and from nothing else, goes in step
    with the selected items. -/
theorem forall₂_filter_filterMap {α : Type u} {β : Type v} {R : α → β → Prop} {selects : α → Bool}
    {read? : α → Option β} {xs : List α}
    (hselected : ∀ x ∈ xs, selects x = true → ∃ y, read? x = some y ∧ R x y)
    (hothers : ∀ x ∈ xs, selects x = false → read? x = none) :
    List.Forall₂ R (xs.filter selects) (xs.filterMap read?) := by
  induction xs with
  | nil => exact .nil
  | cons x xs ih =>
    have ih := ih (fun z hz => hselected z (List.mem_cons_of_mem x hz))
      (fun z hz => hothers z (List.mem_cons_of_mem x hz))
    cases hx : selects x with
    | true =>
      obtain ⟨y, hread, hxy⟩ := hselected x List.mem_cons_self hx
      rw [List.filter_cons_of_pos hx, List.filterMap_cons_some hread]
      exact .cons hxy ih
    | false =>
      have hread := hothers x List.mem_cons_self hx
      rw [List.filter_cons_of_neg (by simp [hx]), List.filterMap_cons_none hread]
      exact ih

/-- Rows that are as long as their name is frequent in a list are together as
    long as the list. -/
theorem sum_length_rows {α : Type} {table : Std.ExtTreeMap ModuleName (List α)}
    {names : List ModuleName}
    (hlength : ∀ name : ModuleName, (table[name]?.getD []).length = names.count name)
    (hnonempty : ∀ name : ModuleName, table[name]? ≠ some []) :
    (table.toList.map fun row => row.2.length).sum = names.length := by
  -- every name of the list has a row, and no other name has one
  have hkeys : table.keys.Perm names.dedup := by
    refine (List.perm_ext_iff_of_nodup Std.ExtTreeMap.nodup_keys names.nodup_dedup).mpr ?_
    intro name
    rw [Std.ExtTreeMap.mem_keys, List.mem_dedup, ← List.count_pos_iff, ← hlength,
      Std.ExtTreeMap.mem_iff_isSome_getElem?]
    have hne := hnonempty name
    cases hrow : table[name]? with
    | none => simp
    | some row =>
      rw [hrow] at hne
      have hpos : 0 < row.length := List.length_pos_iff.mpr fun e => hne (congrArg some e)
      simpa using hpos
  have hcount : ∀ row ∈ table.toList, row.2.length = names.count row.1 := by
    intro row hrow
    rw [← hlength, Std.ExtTreeMap.mem_toList_iff_getElem?_eq_some.mp hrow, Option.getD_some]
  calc (table.toList.map fun row => row.2.length).sum
      = (table.toList.map fun row => names.count row.1).sum := by
        rw [List.map_congr_left hcount]
    _ = (table.keys.map names.count).sum := by
        rw [← Std.ExtTreeMap.map_fst_toList_eq_keys, List.map_map]
        rfl
    _ = (names.dedup.map names.count).sum := (hkeys.map _).sum_eq
    _ = names.length := List.sum_map_count_dedup_eq_length names

/-! ## What a use node says -/

namespace Selection

variable {names : List String}

theorem ofNames_eq_everything_iff : ofNames names = .everything ↔ names = [] := by
  cases names <;> simp [ofNames]

theorem ofNames_of_ne_nil (h : names ≠ []) : ofNames names = .only names := by
  cases names with
  | nil => exact absurd rfl h
  | cons name names => rfl

/-- An empty list is no limit, so no clause is limited to it. -/
theorem ofNames_ne_only_nil : ofNames names ≠ .only [] := by
  cases names <;> simp [ofNames]

end Selection

/-- The use clause of a contribution. -/
def Contribution.useClause? : Contribution → Option UseClause
  | .use clause => some clause
  | _ => none

namespace Node

variable {n : Node} {clause : UseClause}

/-- A use clause says what its node says. -/
structure Asks (n : Node) (clause : UseClause) : Prop where
  /-- Its target is the name that the node gives. -/
  target : ∃ spelling, n.attr? "name" = some spelling ∧ clause.target = .ofSpelling spelling
  /-- It is limited to the names directly under the lists directly under the
      node, in their order and with repeats; without names it is not limited. -/
  selection : ∃ names,
    List.Forall₂ (fun item name => ∃ id, item.attr? "id" = some id ∧ Text.lower id = name)
      n.onlyItems names ∧
    (clause.selection = .everything ↔ names = []) ∧
    (names ≠ [] → clause.selection = .only names)

/-- The use clause that a node contributes. -/
def useClause? (n : Node) : Option UseClause := n.contribution?.bind Contribution.useClause?

theorem useClause?_eq_some_iff :
    n.useClause? = some clause ↔
      n.kind? = some .use ∧ ∃ target, n.attr? "name" = some target ∧
        ⟨.ofSpelling target, .ofNames n.onlySymbols⟩ = clause := by
  rw [← contribution?_eq_use_iff, useClause?, Option.bind_eq_some_iff]
  constructor
  · intro h
    obtain ⟨contribution, hcontribution, hclause⟩ := h
    cases contribution with
    | use clause' =>
      cases hclause
      exact hcontribution
    | _ => cases hclause
  · intro h
    exact ⟨_, h, rfl⟩

theorem useClause?_of_kind?_ne (h : n.kind? ≠ some .use) : n.useClause? = none := by
  rw [Option.eq_none_iff_forall_not_mem]
  intro clause hclause
  exact h (useClause?_eq_some_iff.mp hclause).1

/-- Where no text is missing, the symbols of a use clause are those of its
    names. -/
theorem forall₂_onlySymbols (h : ∀ item ∈ n.onlyItems, item.attr? "id" ≠ none) :
    List.Forall₂ (fun item name => ∃ id, item.attr? "id" = some id ∧ Text.lower id = name)
      n.onlyItems n.onlySymbols := by
  rw [← List.filter_true n.onlyItems]
  refine forall₂_filter_filterMap ?_ (fun _ _ h => by cases h)
  intro item hitem _
  obtain ⟨_, _, _, _, hkind⟩ := mem_onlyItems_iff.mp hitem
  obtain ⟨id, hid⟩ := Option.ne_none_iff_exists'.mp (h item hitem)
  exact ⟨_, nameSymbol?_eq_some_iff.mpr ⟨hkind, id, hid, rfl⟩, id, hid, rfl⟩

/-- A clause that is read off a use node says what the node says. -/
theorem asks_of_onlyItems {target : String} (htarget : n.attr? "name" = some target)
    (hids : ∀ item ∈ n.onlyItems, item.attr? "id" ≠ none) :
    n.Asks ⟨.ofSpelling target, .ofNames n.onlySymbols⟩ where
  target := ⟨target, htarget, rfl⟩
  selection := ⟨n.onlySymbols, forall₂_onlySymbols hids, Selection.ofNames_eq_everything_iff,
    Selection.ofNames_of_ne_nil⟩

/-- A use node of a well-formed tree contributes a clause that says the same. -/
theorem WellFormed.exists_useClause? {root : Node} (h : root.WellFormed) (hn : n ∈ descendants root)
    (hkind : n.kind? = some .use) : ∃ clause, n.useClause? = some clause ∧ n.Asks clause := by
  obtain ⟨target, htarget⟩ := Option.ne_none_iff_exists'.mp (h.use_name n hn hkind)
  have hids : ∀ item ∈ n.onlyItems, item.attr? "id" ≠ none := by
    intro item hitem
    obtain ⟨list, hlist, honly, hmem, hname⟩ := mem_onlyItems_iff.mp hitem
    exact h.only_id n hn hkind list hlist honly item hmem hname
  exact ⟨_, useClause?_eq_some_iff.mpr ⟨hkind, target, htarget, rfl⟩,
    asks_of_onlyItems htarget hids⟩

/-- Where there is some unit for a place of a well-formed tree, the place is
    governed. -/
theorem WellFormed.exists_governor_of_housed {root : Node} (h : root.WellFormed)
    {p : Place (descendants root)} (hhoused : Housed root p.before) :
    ∃ name, governor? root p.before = some name := by
  have hnamed : UnitsNamed p.before := by
    intro u hu hunit
    exact h.unit_name u (p.mem_of_mem_before hu) (opensUnit_iff.mp hunit).symm
  refine Option.ne_none_iff_exists'.mp fun hnone => ?_
  exact (governor?_eq_none_iff hnamed h.not_entryUnnamed).mp hnone hhoused

/-- What needs a unit in a well-formed tree is governed by one. -/
theorem WellFormed.exists_governor {root : Node} (h : root.WellFormed)
    (p : Place (descendants root)) (hneeds : p.node.NeedsUnit) :
    ∃ name, governor? root p.before = some name :=
  h.exists_governor_of_housed (h.housed p hneeds)

end Node

/-! ## The clauses of a unit -/

/-- A place where a use node stands that a unit governs. -/
def Place.IsUseOf {root : Node} (p : Place (descendants root)) (name : ModuleName) : Prop :=
  p.node.kind? = some .use ∧ governor? root p.before = some name

instance {root : Node} (p : Place (descendants root)) (name : ModuleName) :
    Decidable (p.IsUseOf name) :=
  inferInstanceAs (Decidable (_ ∧ _))

/-- The units that govern the use nodes of a tree, in document order. -/
def useHomes (root : Node) : List ModuleName :=
  (Place.all (descendants root)).filterMap fun p =>
    if p.node.kind? = some .use then governor? root p.before else none

/-- A unit governs as many use nodes as it is named for. -/
theorem count_useHomes (root : Node) (name : ModuleName) :
    (useHomes root).count name =
      ((Place.all (descendants root)).filter fun p => p.IsUseOf name).length := by
  rw [useHomes, List.count_filterMap, List.countP_eq_length_filter]
  congr 2
  funext p
  rw [Bool.eq_iff_iff, beq_iff_eq, decide_eq_true_iff, Place.IsUseOf]
  by_cases hkind : p.node.kind? = some .use <;> simp [hkind]

/-- In a well-formed tree each use node has a unit. -/
theorem length_useHomes {root : Node} (h : root.WellFormed) :
    (useHomes root).length = (descendants root).countP (·.kind? = some .use) := by
  have hhoused : ∀ p : Place (descendants root),
      (if p.node.kind? = some .use then governor? root p.before else none).isSome =
        decide (p.node.kind? = some .use) := by
    intro p
    by_cases hkind : p.node.kind? = some .use
    · obtain ⟨name, hgoverned⟩ := h.exists_governor p (.use hkind)
      simp [hkind, hgoverned]
    · simp [hkind]
  calc (useHomes root).length
      = (Place.all (descendants root)).countP fun p => decide (p.node.kind? = some .use) := by
        rw [useHomes, List.length_filterMap_eq_countP]
        simp only [hhoused]
    _ = ((Place.all (descendants root)).map Place.node).countP (·.kind? = some .use) := by
        rw [List.countP_map]
        rfl
    _ = (descendants root).countP (·.kind? = some .use) := by
        rw [Place.map_node_all]

/-- A record holds the use clauses of its contributions in their order. -/
theorem UnitRecord.uses_ofContributions (name : ModuleName) (contributions : List Contribution) :
    (ofContributions name contributions).uses =
      contributions.filterMap Contribution.useClause? := by
  induction contributions with
  | nil => rfl
  | cons contribution contributions ih =>
    -- every other contribution leaves the clauses as they are
    cases contribution with
    | use clause =>
      show clause :: (ofContributions name contributions).uses = clause :: _
      rw [ih]
    | _ => exact ih

/-- The clauses contributed to a unit are those of the nodes that it governs. -/
theorem useClauses_contributionsFrom (home? : Option ModuleName) (nodes : List Node)
    (name : ModuleName) :
    (contributedTo name (contributionsFrom home? nodes)).filterMap Contribution.useClause? =
      (Place.all nodes).filterMap fun p =>
        if homeBehind home? p.before = some name then p.node.useClause? else none := by
  rw [contributedTo, contributionsFrom_eq_filterMap, List.filterMap_filterMap,
    List.filterMap_filterMap]
  congr 1
  funext p
  rw [Node.useClause?]
  cases homeBehind home? p.before with
  | none => simp
  | some home =>
    cases p.node.contribution? with
    | none => simp
    | some contribution => by_cases hhome : home = name <;> simp [hhome]

/-- In a part of a well-formed tree, the clauses contributed to a unit go in
    step with the use nodes that it governs. -/
theorem forall₂_useClauses {root : Node} {nodes : List Node} (hwell : root.WellFormed)
    (hnodes : ∀ n ∈ nodes, n ∈ descendants root) (name : ModuleName) :
    List.Forall₂ (fun (p : Place nodes) clause => p.node.Asks clause)
      ((Place.all nodes).filter fun p =>
        p.node.kind? = some .use ∧ governor? root p.before = some name)
      ((contributedTo name (contributionsFrom (root.firstProgram?.bind Node.unitName?)
        nodes)).filterMap Contribution.useClause?) := by
  rw [useClauses_contributionsFrom]
  simp only [← governor?_eq_homeBehind]
  refine forall₂_filter_filterMap ?_ ?_
  · intro p _ hselected
    obtain ⟨hkind, hgoverned⟩ := of_decide_eq_true hselected
    rw [if_pos hgoverned]
    exact hwell.exists_useClause? (hnodes p.node p.mem) hkind
  · intro p _ hother
    have hother := of_decide_eq_false hother
    by_cases hgoverned : governor? root p.before = some name
    · -- governed by the unit, but no use node
      rw [if_pos hgoverned]
      exact Node.useClause?_of_kind?_ne fun hkind => hother ⟨hkind, hgoverned⟩
    · rw [if_neg hgoverned]

namespace Survey

variable {root : Node} {projectRoot : String} {name : ModuleName}

/-- The record of a unit is made of what the tree contributes to the unit. -/
theorem recordOf_summary (root : Node) (projectRoot : String) (name : ModuleName) :
    (summary root projectRoot).recordOf name =
      .ofContributions name (contributedTo name
        (contributionsFrom (root.firstProgram?.bind Node.unitName?) (descendants root))) := by
  rw [summary, Pass.recordOf_survey, Pass.behind, List.reverse_reverse]
  rfl

/-- The use clauses of a unit are those of the nodes that it governs. -/
theorem uses_recordOf_summary (root : Node) (projectRoot : String) (name : ModuleName) :
    ((summary root projectRoot).recordOf name).uses =
      (Place.all (descendants root)).filterMap fun p =>
        if governor? root p.before = some name then p.node.useClause? else none := by
  rw [recordOf_summary, UnitRecord.uses_ofContributions, useClauses_contributionsFrom]
  simp only [governor?_eq_homeBehind]

end Survey

/-- Modules that use each other and themselves.  One of them is opened twice,
    and one of its use nodes stands inside a declaration. -/
def sampleProject : Node :=
  let node := fun (kind : NodeKind) attrs children => Node.mk kind.tag (.ofList attrs) children
  let name := fun id => node .name [("id", id)] []
  { tag := "project"
    children :=
      [node .module [("name", "Base")]
        [node .use [("name", "Shapes")] [],
          node .declaration []
            [node .use [("name", "Limits")]
              [node .only [] [name "Low"], node .only [] [name "LOW"]]],
          node .variable [("name", "Origin")] []],
        node .module [("name", "Shapes")]
          [node .use [("name", "BASE")] [],
            node .use [("name", "Base")] [node .only [] [name "Origin"]],
            node .use [("name", "shapes")] [],
            node .function [("name", "Area")] []],
        node .module [("name", "base")] [node .use [("name", "Nowhere")] [name "stray"]]] }

namespace Catalog

variable {root : Node} {projectRoot : String} {c : Catalog}

/-- The row of a unit lists its use clauses, and no row is empty. -/
theorem getElem?_uses_ofSurvey (s : Survey) (name : ModuleName) :
    (ofSurvey s).uses[name]? = Survey.nonempty? (s.recordOf name).uses :=
  Survey.getElem?_tabulate rfl

/-- The clauses of a unit go in step with the use nodes that it governs. -/
theorem forall₂_uses_ofSurvey (projectRoot : String) (hwell : root.WellFormed)
    (name : ModuleName) :
    List.Forall₂ (fun (p : Place (descendants root)) clause => p.node.Asks clause)
      ((Place.all (descendants root)).filter fun p => p.IsUseOf name)
      ((ofSurvey (.summary root projectRoot)).uses[name]?.getD []) := by
  rw [getElem?_uses_ofSurvey, Survey.getD_nonempty?, Survey.recordOf_summary,
    UnitRecord.uses_ofContributions]
  exact forall₂_useClauses hwell (fun _ hn => hn) name

/-- The use clauses of a unit are those of the use nodes that it governs, one
    for each node, in document order.  So there are as many clauses in all as
    use nodes in the tree, and none of them is limited to nothing. -/
theorem uses_in_document_order (h : ofTree root projectRoot = .ok c) :
    (∀ name : ModuleName,
      List.Forall₂ (fun (p : Place (descendants root)) clause => p.node.Asks clause)
        ((Place.all (descendants root)).filter fun p => p.IsUseOf name)
        (c.uses[name]?.getD [])) ∧
    (c.uses.toList.map fun row => row.2.length).sum =
      (descendants root).countP (·.kind? = some .use) ∧
    ∀ (name : ModuleName) (clauses : List UseClause), c.uses[name]? = some clauses →
      ∀ clause ∈ clauses, clause.selection ≠ .only [] := by
  obtain ⟨hwell, rfl⟩ := ofTree_eq_ok_iff.mp h
  have hrows := fun name => forall₂_uses_ofSurvey projectRoot hwell name
  refine ⟨hrows, ?_, ?_⟩
  · -- a row is as long as its unit has use nodes, and no node is left over
    rw [← length_useHomes hwell]
    refine sum_length_rows ?_ ?_
    · intro name
      rw [count_useHomes, (hrows name).length_eq]
    · intro name hempty
      rw [getElem?_uses_ofSurvey, Survey.nonempty?_eq_some_iff] at hempty
      exact hempty.1 hempty.2.symm
  · intro name clauses hrow clause hclause
    rw [getElem?_uses_ofSurvey, Survey.nonempty?_eq_some_iff] at hrow
    obtain ⟨-, rfl⟩ := hrow
    rw [Survey.uses_recordOf_summary, List.mem_filterMap] at hclause
    obtain ⟨p, -, hread⟩ := hclause
    split at hread
    · obtain ⟨-, _, -, rfl⟩ := Node.useClause?_eq_some_iff.mp hread
      exact Selection.ofNames_ne_only_nil
    · cases hread

/-- The module that is opened twice has three clauses. -/
theorem uses_in_document_order_sampleProject :
    ∃ c, ofTree sampleProject "src" = .ok c ∧
      (c.uses[ModuleName.ofSpelling "Base"]?.getD []).length = 3 ∧
      (c.uses.toList.map fun row => row.2.length).sum = 6 := by
  obtain ⟨c, h⟩ := exists_eq_ok_of_isOk (x := ofTree sampleProject "src") (by decide +kernel)
  obtain ⟨hrows, hsum, -⟩ := uses_in_document_order h
  refine ⟨c, h, ?_, ?_⟩
  · rw [← (hrows _).length_eq]
    decide +kernel
  · rw [hsum]
    decide +kernel

end Catalog

end ModuleCatalog
