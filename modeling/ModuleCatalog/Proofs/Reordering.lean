import ModuleCatalog.Proofs.Imports
import ModuleCatalog.Proofs.Listing

/-! # The order of units

    A tree that only lists modules and programs can list them in any order.
    What stands inside a listed unit never belongs to what precedes the unit,
    so each unit contributes the same wherever it stands, and a record that
    several listed units contribute to differs at most in the order of its use
    clauses (`Catalog.ofTree_reordered`). -/

namespace ModuleCatalog

/-! ## Lists -/

/-- What is gathered from some items does not depend on their order, if any two
    of them do not both contribute to it. -/
theorem flatMap_eq_of_perm {α : Type u} {β : Type v} {f : α → List β} {xs ys : List α}
    (hperm : xs.Perm ys) (hone : xs.Pairwise fun x y => f x = [] ∨ f y = []) :
    xs.flatMap f = ys.flatMap f := by
  induction hperm with
  | nil => rfl
  | cons x hperm ih => rw [List.flatMap_cons, List.flatMap_cons, ih (List.pairwise_cons.mp hone).2]
  | swap x y xs =>
    -- one of the two gives nothing, so it does not matter which is first
    rcases (List.pairwise_cons.mp hone).1 x List.mem_cons_self with hnil | hnil
    · simp [hnil]
    · simp [hnil]
  | trans hperm _ ih ih' =>
    exact (ih hone).trans (ih' (hperm.pairwise hone Or.symm))

theorem nodup_eraseDups {α : Type u} [DecidableEq α] (xs : List α) : xs.eraseDups.Nodup := by
  induction xs using List.reverseRecOn with
  | nil => exact .nil
  | append_singleton xs x ih =>
    rw [Pass.eraseDups_append_singleton]
    by_cases hx : x ∈ xs.eraseDups
    · rwa [if_pos hx]
    · rw [if_neg hx]
      exact ih.append (List.nodup_singleton x) (by simpa using hx)

theorem eraseDups_perm {α : Type u} [DecidableEq α] {xs ys : List α} (hperm : xs.Perm ys) :
    xs.eraseDups.Perm ys.eraseDups := by
  refine (List.perm_ext_iff_of_nodup (nodup_eraseDups xs) (nodup_eraseDups ys)).mpr ?_
  intro x
  rw [List.mem_eraseDups, List.mem_eraseDups, hperm.mem_iff]

/-! ## Trees that list units -/

namespace Node

/-- A tree that is a list of modules and programs under a root without a
    meaning of its own. -/
structure ListsUnits (root : Node) : Prop where
  kind?_eq_none : root.kind? = none
  kind?_of_mem : ∀ child ∈ root.children,
    child.kind? = some .module ∨ child.kind? = some .program

/-- The names of the units that are opened in a tree, in document order. -/
def unitNames (n : Node) : List ModuleName := (descendants n).filterMap unitName?

/-- What a tree contributes on its own, when nothing governs ahead of it. -/
def contributions (n : Node) : List (ModuleName × Contribution) :=
  contributionsFrom none (descendants n)

variable {root root' child n : Node} {name : ModuleName}

theorem contribution?_of_kind?_none (h : n.kind? = none) : n.contribution? = none := by
  simp [contribution?, h]

theorem unitName?_of_kind?_none (h : n.kind? = none) : n.unitName? = none :=
  unitName?_of_not_opensUnit (by simp [opensUnit, h])

/-- A unit contributes the same, whatever governs ahead of it. -/
theorem contributionsFrom_of_opensUnit (home? : Option ModuleName)
    (hunit : child.opensUnit = true) :
    contributionsFrom home? (descendants child) = child.contributions := by
  -- the head contributes nothing and governs all that follows
  have hhead : ∀ home? : Option ModuleName, contributionsFrom home? (descendants child) =
      contributionsFrom child.unitName? (child.children.flatMap descendants) := by
    intro home?
    rw [descendants_eq, contributionsFrom, contribution?_of_opensUnit hunit, homeBehind_singleton,
      if_pos hunit]
    cases home? <;> rfl
  rw [contributions, hhead home?, hhead none]

/-- What is contributed to a unit comes from a tree that opens it. -/
theorem mem_unitNames_of_contributedTo (h : contributedTo name n.contributions ≠ []) :
    name ∈ n.unitNames := by
  obtain ⟨contribution, hmem⟩ := List.exists_mem_of_ne_nil _ h
  obtain ⟨p, hgoverned, -⟩ := mem_contributionsFrom_iff.mp (mem_contributedTo_iff.mp hmem)
  unfold homeBehind at hgoverned
  cases hlast : lastUnit? p.before with
  | none =>
    rw [hlast] at hgoverned
    cases hgoverned
  | some u =>
    rw [hlast] at hgoverned
    have hu := p.mem_of_mem_before (opensUnit_of_lastUnit? hlast).1
    exact List.mem_filterMap.mpr ⟨u, hu, hgoverned⟩

theorem NeedsUnit.kind?_ne_none (h : n.NeedsUnit) : n.kind? ≠ none := by
  cases h with
  | use hkind => simp [hkind]
  | named hkind _ _ => simp [hkind]
  | hides hkind _ _ => simp [hkind]

theorem NeedsUnit.not_opensUnit (h : n.NeedsUnit) : ¬ n.opensUnit = true := by
  rw [opensUnit_iff]
  cases h with
  | use hkind => simp [hkind]
  | named hkind hnamed _ => rcases hnamed with rfl | rfl | rfl <;> simp [hkind]
  | hides hkind _ _ => simp [hkind]

namespace ListsUnits

/-- What a list of units contributes is what the units contribute on their
    own, one after the other. -/
theorem contributionsFrom_eq_flatMap (h : root.ListsUnits) (home? : Option ModuleName) :
    contributionsFrom home? (descendants root) = root.children.flatMap contributions := by
  have hchildren : ∀ (children : List Node) (home? : Option ModuleName),
      (∀ child ∈ children, child.opensUnit = true) →
      contributionsFrom home? (children.flatMap descendants) = children.flatMap contributions := by
    intro children
    -- each child is governed from its own head on, whatever the one before it left
    induction children with
    | nil => exact fun _ _ => rfl
    | cons child children ih =>
      intro home? hunits
      rw [List.flatMap_cons, List.flatMap_cons, contributionsFrom_append,
        contributionsFrom_of_opensUnit home? (hunits child List.mem_cons_self),
        ih _ fun c hc => hunits c (List.mem_cons_of_mem child hc)]
  rw [descendants_eq, contributionsFrom, contribution?_of_kind?_none h.kind?_eq_none,
    hchildren _ _ fun child hchild => opensUnit_iff.mpr (h.kind?_of_mem child hchild).symm]
  cases home? <;> rfl

theorem filterMap_unitName?_eq_flatMap (h : root.ListsUnits) :
    (descendants root).filterMap unitName? = root.children.flatMap unitNames := by
  rw [descendants_eq, List.filterMap_cons_none (unitName?_of_kind?_none h.kind?_eq_none),
    List.filterMap_flatMap]
  rfl

/-- The record of a unit is made of what the listed units contribute to it. -/
theorem recordOf_summary_eq (h : root.ListsUnits) (projectRoot : String) (name : ModuleName) :
    (Survey.summary root projectRoot).recordOf name =
      .ofContributions name
        (root.children.flatMap fun child => contributedTo name child.contributions) := by
  rw [Survey.recordOf_summary, h.contributionsFrom_eq_flatMap, contributedTo,
    List.filterMap_flatMap]
  rfl

/-- Listed units that do not open each other's names contribute in no order:
    no record is made of more than one of them. -/
theorem recordOf_summary_eq_of_disjoint (h : root.ListsUnits) (h' : root'.ListsUnits)
    (hperm : root.children.Perm root'.children)
    (hdisjoint : root.children.Pairwise fun a b => a.unitNames.Disjoint b.unitNames)
    (projectRoot : String) (name : ModuleName) :
    (Survey.summary root' projectRoot).recordOf name =
      (Survey.summary root projectRoot).recordOf name := by
  have hone : root.children.Pairwise fun a b =>
      contributedTo name a.contributions = [] ∨ contributedTo name b.contributions = [] := by
    -- two that contribute to the same unit both open it
    refine hdisjoint.imp fun {a b} hab => ?_
    by_contra hboth
    rw [not_or] at hboth
    exact hab (mem_unitNames_of_contributedTo hboth.1) (mem_unitNames_of_contributedTo hboth.2)
  rw [h.recordOf_summary_eq, h'.recordOf_summary_eq, flatMap_eq_of_perm hperm hone]

/-- What needs a unit in a list of units stands behind the first of them. -/
theorem exists_unit_before (h : root.ListsUnits) (p : Place (descendants root))
    (hneeds : p.node.NeedsUnit) : ∃ u ∈ p.before, u.opensUnit = true := by
  obtain ⟨before, n, behind, split⟩ := p
  have hnotRoot : n ≠ root := by
    rintro rfl
    exact hneeds.kind?_ne_none h.kind?_eq_none
  rw [descendants_eq] at split
  -- neither the root nor the first unit needs one
  cases before with
  | nil => exact absurd (List.cons.inj split).1.symm hnotRoot
  | cons m before =>
    obtain ⟨-, split⟩ := List.cons.inj split
    cases hchildren : root.children with
    | nil =>
      -- nothing stands below the root
      rw [hchildren] at split
      simp at split
    | cons first children =>
      have hunit : first.opensUnit = true :=
        opensUnit_iff.mpr (h.kind?_of_mem first (by simp [hchildren])).symm
      rw [hchildren, List.flatMap_cons, descendants_eq first] at split
      cases before with
      | nil =>
        obtain ⟨rfl, -⟩ := List.cons.inj split
        exact absurd hunit hneeds.not_opensUnit
      | cons m' before =>
        obtain ⟨rfl, -⟩ := List.cons.inj split
        exact ⟨_, by simp, hunit⟩

/-- Apart from the root, the same nodes stand in both trees. -/
theorem mem_descendants_of_perm (h' : root'.ListsUnits)
    (hperm : root.children.Perm root'.children) (hn : n ∈ descendants root')
    (hkind : n.kind? ≠ none) : n ∈ descendants root := by
  rw [descendants_eq] at hn ⊢
  rcases List.mem_cons.mp hn with rfl | hn
  · exact absurd h'.kind?_eq_none hkind
  · exact List.mem_cons_of_mem root ((hperm.flatMap_right descendants).mem_iff.mpr hn)

/-- The order of the units makes no difference to what a tree needs. -/
theorem wellFormed_of_perm (h' : root'.ListsUnits) (hperm : root.children.Perm root'.children)
    (hwell : root.WellFormed) : root'.WellFormed := by
  have hmem : ∀ {n : Node} {kind : NodeKind}, n ∈ descendants root' → n.kind? = some kind →
      n ∈ descendants root := by
    intro n kind hn hkind
    exact mem_descendants_of_perm h' hperm hn (by simp [hkind])
  constructor
  case unit_name =>
    intro n hn hkind
    have hn : n ∈ descendants root := hkind.elim (hmem hn) (hmem hn)
    exact hwell.unit_name n hn hkind
  case use_name =>
    intro n hn hkind
    exact hwell.use_name n (hmem hn hkind) hkind
  case only_id =>
    intro n hn hkind
    exact hwell.only_id n (hmem hn hkind) hkind
  case file_path =>
    intro n hn hkind
    exact hwell.file_path n (hmem hn hkind) hkind
  case marker_keyword =>
    intro d hd hkind
    exact hwell.marker_keyword d (hmem hd hkind) hkind
  case hidden_id =>
    intro d hd hkind
    exact hwell.hidden_id d (hmem hd hkind) hkind
  case behind_module =>
    -- the unit in front is a module where there is no program
    intro hno p hneeds
    obtain ⟨u, hu, hunit⟩ := h'.exists_unit_before p hneeds
    rcases opensUnit_iff.mp hunit with hkind | hkind
    · exact absurd hkind (hno u (p.mem_of_mem_before hu))
    · exact ⟨u, hu, hkind⟩

end ListsUnits

end Node

/-! ## Surveys that differ in order only -/

/-- A sort of symbols does not depend on the order of the contributions. -/
theorem Collects.ofContributions_eq_of_perm {field : UnitRecord → SymbolSet}
    {adds : Contribution → String → Prop} (h : Collects field adds) {name : ModuleName}
    {contributions contributions' : List Contribution}
    (hperm : contributions.Perm contributions') :
    field (.ofContributions name contributions') =
      field (.ofContributions name contributions) :=
  h.ofContributions_congr fun _ _ _ => hperm.symm.mem_iff

namespace Survey

/-- Two surveys find the same units, and the same in each of them, but for the
    order of the units and that of their use clauses. -/
structure Reorders (s s' : Survey) : Prop where
  modules : s'.modules.Perm s.modules
  variableNames : ∀ name, (s'.recordOf name).variableNames = (s.recordOf name).variableNames
  hidden : ∀ name, (s'.recordOf name).hidden = (s.recordOf name).hidden
  subprograms : ∀ name, (s'.recordOf name).subprograms = (s.recordOf name).subprograms
  uses : ∀ name, (s'.recordOf name).uses.Perm (s.recordOf name).uses

/-- Lists of the same units have surveys that differ in order only. -/
theorem reorders_summary {root root' : Node} (h : root.ListsUnits) (h' : root'.ListsUnits)
    (hperm : root.children.Perm root'.children) (projectRoot : String) :
    Reorders (summary root projectRoot) (summary root' projectRoot) := by
  have hcontributed : ∀ name : ModuleName,
      (root.children.flatMap fun child => contributedTo name child.contributions).Perm
        (root'.children.flatMap fun child => contributedTo name child.contributions) :=
    fun name => hperm.flatMap_right _
  have hcollects : ∀ {field : UnitRecord → SymbolSet} {adds : Contribution → String → Prop},
      Collects field adds → ∀ name, field ((summary root' projectRoot).recordOf name) =
        field ((summary root projectRoot).recordOf name) := by
    intro field adds hfield name
    rw [h.recordOf_summary_eq, h'.recordOf_summary_eq]
    exact hfield.ofContributions_eq_of_perm (hcontributed name)
  constructor
  case modules =>
    rw [modules_summary, modules_summary, h.filterMap_unitName?_eq_flatMap,
      h'.filterMap_unitName?_eq_flatMap]
    exact eraseDups_perm (hperm.flatMap_right Node.unitNames).symm
  case variableNames => exact hcollects collects_variableNames
  case hidden => exact hcollects collects_hidden
  case subprograms => exact hcollects collects_subprograms
  case uses =>
    intro name
    rw [h.recordOf_summary_eq, h'.recordOf_summary_eq, UnitRecord.uses_ofContributions,
      UnitRecord.uses_ofContributions]
    exact (hcontributed name).symm.filterMap _

namespace Reorders

variable {s s' : Survey} (h : s.Reorders s')

include h

theorem symbolTable_eq : s'.symbolTable = s.symbolTable := by
  refine symbolTable_congr (fun name => h.modules.mem_iff) fun name => ?_
  simp only [UnitRecord.symbols, h.variableNames, h.hidden, h.subprograms]

theorem exportTable_eq (symbols : SymbolTable) :
    s'.exportTable symbols = s.exportTable symbols :=
  exportTable_congr h.hidden symbols

end Reorders

end Survey

/-! ## Catalogs that differ in order only -/

namespace Catalog

/-- Two catalogs tell the same, but for the order of the units and that of the
    clauses and imports of a unit. -/
structure Reorders (c c' : Catalog) : Prop where
  exports : c'.exports = c.exports
  symbols : c'.symbols = c.symbols
  hidden : c'.hidden = c.hidden
  variableNames : c'.variableNames = c.variableNames
  subprograms : c'.subprograms = c.subprograms
  modules : c'.modules.Perm c.modules
  uses : ∀ name : ModuleName, (c'.uses[name]?.getD []).Perm (c.uses[name]?.getD [])
  imports : ∀ name : ModuleName, (c'.imports[name]?.getD []).Perm (c.imports[name]?.getD [])

variable {s s' : Survey}

theorem exports_ofSurvey_eq (h : s.Reorders s') : (ofSurvey s').exports = (ofSurvey s).exports := by
  show s'.exportTable s'.symbolTable = s.exportTable s.symbolTable
  rw [h.symbolTable_eq, h.exportTable_eq]

/-- Surveys that differ in order only have catalogs that do. -/
theorem reorders_ofSurvey (h : s.Reorders s') : Reorders (ofSurvey s) (ofSurvey s') := by
  constructor
  case exports => exact exports_ofSurvey_eq h
  case symbols => exact h.symbolTable_eq
  case hidden => exact Survey.tabulate_eq (fun _ => rfl) h.hidden
  case variableNames => exact Survey.tabulate_eq (fun _ => rfl) h.variableNames
  case subprograms => exact Survey.tabulate_eq (fun _ => rfl) h.subprograms
  case modules => exact h.modules
  case uses =>
    intro name
    rw [getElem?_uses_ofSurvey, getElem?_uses_ofSurvey, Survey.getD_nonempty?,
      Survey.getD_nonempty?]
    exact h.uses name
  case imports =>
    intro name
    rw [getElem?_imports_ofSurvey, getElem?_imports_ofSurvey, Survey.getD_nonempty?,
      Survey.getD_nonempty?, exports_ofSurvey_eq h]
    exact (h.uses name).filterMap _

/-- If the clauses of each unit keep their order, so do the imports. -/
theorem uses_imports_ofSurvey_eq (h : s.Reorders s')
    (huses : ∀ name, (s'.recordOf name).uses = (s.recordOf name).uses) :
    (ofSurvey s').uses = (ofSurvey s).uses ∧ (ofSurvey s').imports = (ofSurvey s).imports := by
  constructor
  · refine Std.ExtTreeMap.ext_getElem? fun name => ?_
    rw [getElem?_uses_ofSurvey, getElem?_uses_ofSurvey, huses]
  · refine Std.ExtTreeMap.ext_getElem? fun name => ?_
    rw [getElem?_imports_ofSurvey, getElem?_imports_ofSurvey, exports_ofSurvey_eq h, huses]

/-- A list of modules and programs has a catalog in one order exactly when it
    has one in any other.  The two catalogs tell the same, but for the order of
    the units and that of the clauses and imports of a unit; and these keep
    their order too, if no unit is opened in two of the listed ones. -/
theorem ofTree_reordered {root : Node} {children : List Node} (projectRoot : String)
    (hroot : root.ListsUnits) (hperm : root.children.Perm children) :
    ((∃ c, ofTree root projectRoot = .ok c) ↔
      ∃ c, ofTree { root with children := children } projectRoot = .ok c) ∧
    ∀ c c', ofTree root projectRoot = .ok c →
      ofTree { root with children := children } projectRoot = .ok c' →
      Reorders c c' ∧
      ((root.children.Pairwise fun a b => a.unitNames.Disjoint b.unitNames) →
        c'.uses = c.uses ∧ c'.imports = c.imports) := by
  have hroot' : ({ root with children := children } : Node).ListsUnits := by
    constructor
    case kind?_eq_none => exact hroot.kind?_eq_none
    case kind?_of_mem =>
      intro child hchild
      exact hroot.kind?_of_mem child (hperm.mem_iff.mpr hchild)
  constructor
  · simp only [ofTree_eq_ok_iff, exists_and_left, exists_eq, and_true]
    exact ⟨hroot'.wellFormed_of_perm hperm, hroot.wellFormed_of_perm hperm.symm⟩
  · intro c c' h h'
    obtain ⟨-, rfl⟩ := ofTree_eq_ok_iff.mp h
    obtain ⟨-, rfl⟩ := ofTree_eq_ok_iff.mp h'
    have hreorders := Survey.reorders_summary hroot hroot' hperm projectRoot
    refine ⟨reorders_ofSurvey hreorders, fun hdisjoint => ?_⟩
    refine uses_imports_ofSurvey_eq hreorders fun name => ?_
    rw [hroot.recordOf_summary_eq_of_disjoint hroot' hperm hdisjoint]

/-- The two modules that use each other, each opened once. -/
def samplePair : Node := { sampleProject with children := sampleProject.children.take 2 }

/-- Two modules in both orders: only the list of modules shows which one was
    opened first. -/
theorem ofTree_reordered_samplePair :
    ∃ c c', ofTree samplePair "src" = .ok c ∧
      ofTree { samplePair with children := samplePair.children.reverse } "src" = .ok c' ∧
      Reorders c c' ∧ c'.uses = c.uses ∧ c'.imports = c.imports ∧ c'.modules ≠ c.modules := by
  have hunits : samplePair.ListsUnits := ⟨by decide +kernel, by decide +kernel⟩
  obtain ⟨hiff, hsame⟩ := ofTree_reordered "src" hunits (List.reverse_perm samplePair.children).symm
  obtain ⟨c, h⟩ := exists_eq_ok_of_isOk (x := ofTree samplePair "src") (by decide +kernel)
  obtain ⟨c', h'⟩ := hiff.mp ⟨c, h⟩
  obtain ⟨hreorders, hequal⟩ := hsame c c' h h'
  have hopened : samplePair.children.Pairwise fun a b =>
      ∀ name ∈ a.unitNames, name ∉ b.unitNames := by
    decide +kernel
  obtain ⟨huses, himports⟩ := hequal (hopened.imp fun hab name ha hb => hab name ha hb)
  refine ⟨c, c', h, h', hreorders, huses, himports, ?_⟩
  -- the names are the same, but the other one comes first
  obtain ⟨-, rfl⟩ := ofTree_eq_ok_iff.mp h
  obtain ⟨-, rfl⟩ := ofTree_eq_ok_iff.mp h'
  decide +kernel

end Catalog

end ModuleCatalog
