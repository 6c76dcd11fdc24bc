import ModuleCatalog.Catalog
import ModuleCatalog.Proofs.Fault

/-! # Which trees have a catalog

    A tree has a catalog when it is well-formed: every attribute that some
    reader asks for is there, and whatever has to belong to a unit has one
    ahead of it, unless the tree has a program.  Any other tree is turned down
    with the first of its faults in document order, where a first program
    without a name goes ahead of everything. -/

namespace ModuleCatalog

namespace Node

/-- Whether a node has to belong to a unit. -/
inductive NeedsUnit (n : Node) : Prop where
  | use (hkind : n.kind? = some .use)
  | named {kind : NodeKind} (hkind : n.kind? = some kind)
      (hnamed : kind = .variable ∨ kind = .subroutine ∨ kind = .function)
      (hname : n.attr? "name" ≠ none)
  | hides (hkind : n.kind? = some .declaration) (p : Place (descendants n)) (hp : p.IsHidden)

/-- What a tree needs to have a catalog. -/
structure WellFormed (root : Node) : Prop where
  /-- Modules and programs have names. -/
  unit_name : ∀ n ∈ descendants root,
    n.kind? = some .module ∨ n.kind? = some .program → n.attr? "name" ≠ none
  /-- Use clauses have targets. -/
  use_name : ∀ n ∈ descendants root, n.kind? = some .use → n.attr? "name" ≠ none
  /-- The names in the lists of use clauses have texts. -/
  only_id : ∀ n ∈ descendants root, n.kind? = some .use →
    ∀ list ∈ n.children, list.kind? = some .only →
      ∀ item ∈ list.children, item.kind? = some .name → item.attr? "id" ≠ none
  /-- Files have paths. -/
  file_path : ∀ n ∈ descendants root, n.kind? = some .file → n.attr? "path" ≠ none
  /-- Access specifications below declarations have keywords. -/
  marker_keyword : ∀ d ∈ descendants root, d.kind? = some .declaration →
    ∀ a ∈ descendants d, a.kind? = some .accessSpec → a.attr? "keyword" ≠ none
  /-- Names behind a private marker of some declaration have texts. -/
  hidden_id : ∀ d ∈ descendants root, d.kind? = some .declaration →
    ∀ p : Place (descendants d), p.IsHidden → p.node.attr? "id" ≠ none
  /-- Without a program, what has to belong to a unit stands behind a module. -/
  behind_module : (∀ n ∈ descendants root, n.kind? ≠ some .program) →
    ∀ p : Place (descendants root), p.node.NeedsUnit → ∃ m ∈ p.before, m.kind? = some .module

variable {root : Node}

/-- In a well-formed tree there is a unit for everything that needs one. -/
theorem WellFormed.housed (h : root.WellFormed) (p : Place (descendants root))
    (hneeds : p.node.NeedsUnit) : Housed root p.before := by
  by_cases hprogram : ∃ n ∈ descendants root, n.kind? = some .program
  · exact .inr hprogram
  · have hno : ∀ n ∈ descendants root, n.kind? ≠ some .program :=
      fun n hn hkind => hprogram ⟨n, hn, hkind⟩
    obtain ⟨m, hm, hkind⟩ := h.behind_module hno p hneeds
    exact .inl ⟨m, hm, opensUnit_iff.mpr (.inr hkind)⟩

/-- The first program of a well-formed tree has a name. -/
theorem WellFormed.not_entryUnnamed (h : root.WellFormed) : ¬ root.EntryUnnamed := by
  intro hentry
  obtain ⟨program, hfirst, hnone⟩ := hentry
  have hkind := kind?_of_firstProgram? hfirst
  exact h.unit_name program (mem_of_firstProgram? hfirst) (.inr hkind) hnone

/-- A declaration without a first fault is faultless. -/
theorem faultless_scan_of_faultless (h : Faultless (FaultAt root) (descendants root))
    (p : Place (descendants root)) (hkind : p.node.kind? = some .declaration) :
    Faultless (ScanFaultAt (Housed root p.before)) (descendants p.node) := by
  by_contra hfaulty
  obtain ⟨fault, hfirst⟩ := exists_firstFault_iff.mpr hfaulty
  exact h p fault (.declaration hkind hfirst)

/-- What needs a unit in a faultless tree has one. -/
theorem housed_of_faultless (h : Faultless (FaultAt root) (descendants root))
    (p : Place (descendants root)) (hneeds : p.node.NeedsUnit) : Housed root p.before := by
  by_contra hhome
  cases hneeds with
  | use hkind =>
    -- its other faults go ahead of the missing unit
    by_cases hname : p.node.attr? "name" = none
    · exact h p _ (.useTarget hkind hname)
    · by_cases hids : ∃ item ∈ p.node.onlyItems, item.attr? "id" = none
      · exact h p _ (.useItem hkind hname hids)
      · exact h p _ (.useUnscoped hkind hname (fun i hi hnone => hids ⟨i, hi, hnone⟩) hhome)
  | named hkind hnamed hname => exact h p _ (.unscoped hkind hnamed hname hhome)
  | hides hkind q hq =>
    exact hhome ((faultless_scan_iff.mp (faultless_scan_of_faultless h p hkind)).2.2 ⟨q, hq⟩)

/-- A tree is well-formed when nothing is wrong with any of its nodes. -/
theorem wellFormed_iff :
    root.WellFormed ↔
      ¬ root.EntryUnnamed ∧ Faultless (FaultAt root) (descendants root) := by
  constructor
  · intro h
    refine ⟨h.not_entryUnnamed, ?_⟩
    -- every rule that finds a fault asks for something that is there
    intro p fault hfault
    cases hfault with
    | unitName hkind hunit hnone =>
      exact h.unit_name p.node p.mem (opensUnit_iff.mp hunit).symm hnone
    | unscoped hkind hnamed hname hhome =>
      exact hhome (h.housed p (.named hkind hnamed hname))
    | declaration hkind hfirst =>
      refine hfirst.not_faultless (faultless_scan_iff.mpr ⟨?_, ?_, ?_⟩)
      · exact h.marker_keyword p.node p.mem hkind
      · exact h.hidden_id p.node p.mem hkind
      · intro hhidden
        obtain ⟨q, hq⟩ := hhidden
        exact h.housed p (.hides hkind q hq)
    | useTarget hkind hnone =>
      exact h.use_name p.node p.mem hkind hnone
    | useItem hkind hname hnone =>
      obtain ⟨item, hitem, hnone⟩ := hnone
      obtain ⟨list, hlist, honly, hmem, hname⟩ := mem_onlyItems_iff.mp hitem
      exact h.only_id p.node p.mem hkind list hlist honly item hmem hname hnone
    | useUnscoped hkind hname hids hhome =>
      exact hhome (h.housed p (.use hkind))
    | filePath hkind hnone =>
      exact h.file_path p.node p.mem hkind hnone
  · intro h
    -- a first program without a name is itself a fault, so `h.1` is not needed
    have h := h.2
    constructor
    case unit_name =>
      intro n hn hkind
      exact unitsNamed_of_faultless h n hn (opensUnit_iff.mpr hkind.symm)
    case use_name =>
      intro n hn hkind hnone
      obtain ⟨p, rfl⟩ := Place.exists_of_mem hn
      exact h p _ (.useTarget hkind hnone)
    case only_id =>
      intro n hn hkind list hlist honly item hitem hname hnone
      obtain ⟨p, rfl⟩ := Place.exists_of_mem hn
      have hmem := mem_onlyItems_iff.mpr ⟨list, hlist, honly, hitem, hname⟩
      by_cases htarget : p.node.attr? "name" = none
      · exact h p _ (.useTarget hkind htarget)
      · exact h p _ (.useItem hkind htarget ⟨item, hmem, hnone⟩)
    case file_path =>
      intro n hn hkind hnone
      obtain ⟨p, rfl⟩ := Place.exists_of_mem hn
      exact h p _ (.filePath hkind hnone)
    case marker_keyword =>
      intro d hd hkind
      obtain ⟨p, rfl⟩ := Place.exists_of_mem hd
      exact (faultless_scan_iff.mp (faultless_scan_of_faultless h p hkind)).1
    case hidden_id =>
      intro d hd hkind
      obtain ⟨p, rfl⟩ := Place.exists_of_mem hd
      exact (faultless_scan_iff.mp (faultless_scan_of_faultless h p hkind)).2.1
    case behind_module =>
      intro hno p hneeds
      rcases housed_of_faultless h p hneeds with ⟨m, hm, hunit⟩ | ⟨n, hn, hkind⟩
      · rcases opensUnit_iff.mp hunit with hkind | hkind
        · exact absurd hkind (hno m (p.mem_of_mem_before hm))
        · exact ⟨m, hm, hkind⟩
      · exact absurd hkind (hno n hn)

end Node

/-! ## Surveys -/

namespace Survey

variable {root : Node} {projectRoot : String} {s : Survey}

/-- What a pass through the whole tree at `root` finds out. -/
def summary (root : Node) (projectRoot : String) : Survey :=
  (Pass.behind (.ofTree root projectRoot) (descendants root)).survey

/-- A survey is made of exactly the well-formed trees, and is their summary. -/
theorem ofTree_eq_ok_iff :
    ofTree root projectRoot = .ok s ↔ root.WellFormed ∧ s = summary root projectRoot := by
  rw [Node.wellFormed_iff, and_assoc]
  simp only [ofTree, bind_eq_ok, entryPoint_eq_ok_iff, map_eq_ok]
  constructor
  · intro h
    obtain ⟨_, ⟨hentry, rfl⟩, _, hrun, rfl⟩ := h
    obtain ⟨hnone, rfl⟩ := (Pass.reading projectRoot hentry).foldlM_eq_ok_iff.mp hrun
    exact ⟨hentry, hnone, rfl⟩
  · intro h
    obtain ⟨hentry, hnone, rfl⟩ := h
    have hrun := (Pass.reading projectRoot hentry).foldlM_eq_ok_iff.mpr ⟨hnone, rfl⟩
    exact ⟨_, ⟨hentry, rfl⟩, _, hrun, rfl⟩

/-- The survey of any other tree fails, for its entry point or for the first
    fault among its nodes. -/
theorem ofTree_eq_error_iff {fault : TreeFault} :
    ofTree root projectRoot = .error fault ↔
      root.EntryUnnamed ∧ fault = .missingAttribute .program "name" ∨
      ¬ root.EntryUnnamed ∧ FirstFault (FaultAt root) (descendants root) fault := by
  simp only [ofTree, bind_eq_error, entryPoint_eq_error_iff, entryPoint_eq_ok_iff, map_eq_error]
  refine or_congr_right ⟨?_, ?_⟩
  · intro h
    obtain ⟨_, ⟨hentry, rfl⟩, hrun⟩ := h
    exact ⟨hentry, (Pass.reading projectRoot hentry).foldlM_eq_error_iff.mp hrun⟩
  · intro h
    obtain ⟨hentry, hfirst⟩ := h
    exact ⟨_, ⟨hentry, rfl⟩, (Pass.reading projectRoot hentry).foldlM_eq_error_iff.mpr hfirst⟩

end Survey

/-! ## Catalogs -/

namespace Catalog

variable {root : Node} {projectRoot : String} {c : Catalog}

theorem ofTree_eq_ok_iff :
    ofTree root projectRoot = .ok c ↔
      root.WellFormed ∧ c = ofSurvey (.summary root projectRoot) := by
  simp only [ofTree, map_eq_ok, Survey.ofTree_eq_ok_iff]
  constructor
  · intro h
    obtain ⟨_, ⟨h, rfl⟩, rfl⟩ := h
    exact ⟨h, rfl⟩
  · intro h
    obtain ⟨h, rfl⟩ := h
    exact ⟨_, ⟨h, rfl⟩, rfl⟩

/-- Exactly the well-formed trees have a catalog.  Any other tree is turned
    down: for its first program if that has no name, whatever else is wrong
    with the tree, and otherwise for the first node in document order that has
    a fault, with that fault. -/
theorem ofTree_outcome (root : Node) (projectRoot : String) :
    ((∃ c, ofTree root projectRoot = .ok c) ↔ root.WellFormed) ∧
    ∀ fault, ofTree root projectRoot = .error fault ↔
      root.EntryUnnamed ∧ fault = .missingAttribute .program "name" ∨
      ¬ root.EntryUnnamed ∧ FirstFault (FaultAt root) (descendants root) fault := by
  constructor
  · constructor
    · intro h
      obtain ⟨c, h⟩ := h
      exact (ofTree_eq_ok_iff.mp h).1
    · intro h
      exact ⟨_, ofTree_eq_ok_iff.mpr ⟨h, rfl⟩⟩
  · intro fault
    rw [ofTree, map_eq_error, Survey.ofTree_eq_error_iff]

end Catalog

end ModuleCatalog
