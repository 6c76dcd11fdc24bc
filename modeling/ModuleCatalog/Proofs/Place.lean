import Mathlib.Data.List.Induction

/-! # Places

    Two nodes of a tree may look alike, so a node does not tell where it
    stands.  A `Place` of a list is one of its items together with what stands
    before and behind it.

    A reader that goes through a list and stops at the first fault is
    described by the faults of single places: `Reading` says that one step of
    the reader keeps to the description, and then a whole run does
    (`Reading.foldlM_eq_ok_iff`, `Reading.foldlM_eq_error_iff`). -/

namespace ModuleCatalog

variable {ν : Type u} {ε : Type v} {σ : Type w}

/-- One item of a list, with what stands before and behind it. -/
structure Place (nodes : List ν) where
  before : List ν
  node : ν
  behind : List ν
  split : nodes = before ++ node :: behind

namespace Place

variable {nodes : List ν} {n : ν}

theorem mem (p : Place nodes) : p.node ∈ nodes := by
  obtain ⟨before, m, behind, rfl⟩ := p
  simp

theorem mem_of_mem_before (p : Place nodes) {m : ν} (h : m ∈ p.before) : m ∈ nodes := by
  obtain ⟨before, _, behind, rfl⟩ := p
  exact List.mem_append_left _ h

/-- The place of the item with a number, counted from zero. -/
def nth (nodes : List ν) (i : Nat) (h : i < nodes.length) : Place nodes where
  before := nodes.take i
  node := nodes[i]
  behind := nodes.drop (i + 1)
  split := by rw [← List.drop_eq_getElem_cons h, List.take_append_drop]

/-- Every item of a list has a place. -/
theorem exists_of_mem (h : n ∈ nodes) : ∃ p : Place nodes, p.node = n := by
  obtain ⟨before, behind, split⟩ := List.append_of_mem h
  exact ⟨⟨before, n, behind, split⟩, rfl⟩

/-- The place as it stands behind one more item. -/
def behindHead (n : ν) (p : Place nodes) : Place (n :: nodes) where
  before := n :: p.before
  node := p.node
  behind := p.behind
  split := congrArg (n :: ·) p.split

/-- All places of a list, first to last. -/
def all : (nodes : List ν) → List (Place nodes)
  | [] => []
  | n :: nodes => ⟨[], n, nodes, rfl⟩ :: (all nodes).map (behindHead n)

/-- Each item has one place, and the places are in the order of the items. -/
theorem map_node_all (nodes : List ν) : (all nodes).map Place.node = nodes := by
  induction nodes with
  | nil => rfl
  | cons n nodes ih =>
    -- one more item ahead leaves the nodes of the other places as they are
    rw [all, List.map_cons, List.map_map]
    exact congrArg (n :: ·) ih

/-- A list without items has no places. -/
theorem elim_nil (p : Place ([] : List ν)) : False := by
  simpa using p.split

/-- The places of a list are its head and the places of its tail. -/
theorem exists_cons_iff {P : List ν → ν → Prop} :
    (∃ p : Place (n :: nodes), P p.before p.node) ↔
      P [] n ∨ ∃ p : Place nodes, P (n :: p.before) p.node := by
  constructor
  · intro h
    obtain ⟨⟨before, m, behind, split⟩, h⟩ := h
    cases before with
    | nil =>
      cases split
      exact .inl h
    | cons b before =>
      cases split
      exact .inr ⟨⟨before, m, behind, rfl⟩, h⟩
  · intro h
    rcases h with h | ⟨p, h⟩
    · exact ⟨⟨[], n, nodes, rfl⟩, h⟩
    · exact ⟨⟨n :: p.before, p.node, p.behind, congrArg (n :: ·) p.split⟩, h⟩

/-- The places of a list are those of the list without its last item, and the
    place of that item. -/
theorem exists_append_singleton_iff {P : List ν → ν → Prop} :
    (∃ p : Place (nodes ++ [n]), P p.before p.node) ↔
      (∃ p : Place nodes, P p.before p.node) ∨ P nodes n := by
  constructor
  · intro h
    obtain ⟨⟨before, m, behind, split⟩, h⟩ := h
    -- the place is the last one exactly when nothing stands behind it
    rcases List.eq_nil_or_concat behind with rfl | ⟨behind, last, rfl⟩
    · obtain ⟨rfl, e⟩ := List.append_inj' split rfl
      cases e
      exact .inr h
    · rw [List.concat_eq_append, ← List.cons_append, ← List.append_assoc] at split
      obtain ⟨rfl, -⟩ := List.append_inj' split rfl
      exact .inl ⟨⟨before, m, behind, rfl⟩, h⟩
  · intro h
    rcases h with ⟨⟨before, m, behind, rfl⟩, h⟩ | h
    · exact ⟨⟨before, m, behind ++ [n], by simp⟩, h⟩
    · exact ⟨⟨nodes, n, [], rfl⟩, h⟩

end Place

/-! ## The first fault -/

section faults

variable (faultAt : List ν → ν → ε → Prop)

/-- There is no fault at any place. -/
def Faultless (nodes : List ν) : Prop :=
  ∀ (p : Place nodes) (fault : ε), ¬ faultAt p.before p.node fault

/-- There is this fault at some place, and none at the places before it. -/
def FirstFault (nodes : List ν) (fault : ε) : Prop :=
  ∃ p : Place nodes, faultAt p.before p.node fault ∧ Faultless faultAt p.before

variable {faultAt} {nodes : List ν} {n : ν}

theorem faultless_nil : Faultless faultAt [] :=
  fun p => p.elim_nil.elim

theorem not_faultless_iff :
    ¬ Faultless faultAt nodes ↔ ∃ p : Place nodes, ∃ fault, faultAt p.before p.node fault := by
  simp only [Faultless, not_forall, not_not]

theorem faultless_append_singleton_iff :
    Faultless faultAt (nodes ++ [n]) ↔
      Faultless faultAt nodes ∧ ∀ fault, ¬ faultAt nodes n fault := by
  have h : (∃ p : Place (nodes ++ [n]), ∃ fault, faultAt p.before p.node fault) ↔ _ :=
    Place.exists_append_singleton_iff (P := fun before m => ∃ fault, faultAt before m fault)
  rw [← not_iff_not, not_faultless_iff, h, ← not_faultless_iff, not_and_or, not_forall_not]

theorem firstFault_append_singleton_iff {fault : ε} :
    FirstFault faultAt (nodes ++ [n]) fault ↔
      FirstFault faultAt nodes fault ∨ faultAt nodes n fault ∧ Faultless faultAt nodes :=
  Place.exists_append_singleton_iff
    (P := fun before m => faultAt before m fault ∧ Faultless faultAt before)

/-- Where there is a first fault, there is some fault. -/
theorem FirstFault.not_faultless {fault : ε} (h : FirstFault faultAt nodes fault) :
    ¬ Faultless faultAt nodes := by
  obtain ⟨p, hp, -⟩ := h
  exact fun hnone => hnone p fault hp

/-- Where there is some fault, there is a first one. -/
theorem exists_firstFault_iff :
    (∃ fault, FirstFault faultAt nodes fault) ↔ ¬ Faultless faultAt nodes := by
  constructor
  · intro h
    obtain ⟨fault, h⟩ := h
    exact h.not_faultless
  · intro h
    induction nodes using List.reverseRecOn with
    | nil => exact absurd faultless_nil h
    | append_singleton nodes n ih =>
      -- `n` counts only if everything ahead of it is faultless
      by_cases hnone : Faultless faultAt nodes
      · rw [faultless_append_singleton_iff, not_and, not_forall_not] at h
        obtain ⟨fault, hfault⟩ := h hnone
        exact ⟨fault, firstFault_append_singleton_iff.mpr (.inr ⟨hfault, hnone⟩)⟩
      · obtain ⟨fault, hfirst⟩ := ih hnone
        exact ⟨fault, firstFault_append_singleton_iff.mpr (.inl hfirst)⟩

end faults

/-! ## Readers that stop at the first fault -/

/-- A step of a reader keeps to a description: behind faultless items the
    reader is in the described state, it fails with the faults of the next
    place, and otherwise goes on to the state described there. -/
structure Reading (step : σ → ν → Except ε σ) (state : List ν → σ)
    (faultAt : List ν → ν → ε → Prop) : Prop where
  error_iff : ∀ {before : List ν} {n : ν} {fault : ε}, Faultless faultAt before →
    (step (state before) n = .error fault ↔ faultAt before n fault)
  eq_of_ok : ∀ {before : List ν} {n : ν} {s : σ}, Faultless faultAt before →
    step (state before) n = .ok s → s = state (before ++ [n])

namespace Reading

variable {step : σ → ν → Except ε σ} {state : List ν → σ} {faultAt : List ν → ν → ε → Prop}
  {nodes : List ν}

/-- A step succeeds where there is no fault. -/
theorem faultless_of_ok (h : Reading step state faultAt) {n : ν} {s : σ}
    (hnone : Faultless faultAt nodes) (hstep : step (state nodes) n = .ok s) :
    Faultless faultAt (nodes ++ [n]) := by
  rw [faultless_append_singleton_iff]
  refine ⟨hnone, fun fault hfault => ?_⟩
  rw [(h.error_iff hnone).mpr hfault] at hstep
  cases hstep

/-- A run comes to its end exactly where there is no fault, and then in the
    described state. -/
theorem foldlM_eq_ok_iff (h : Reading step state faultAt) {s : σ} :
    nodes.foldlM step (state []) = .ok s ↔ Faultless faultAt nodes ∧ s = state nodes := by
  -- from the end, as the description is about what has been read already
  induction nodes using List.reverseRecOn generalizing s with
  | nil =>
    have : ([] : List ν).foldlM step (state []) = .ok s ↔ s = state [] :=
      ⟨fun e => by cases e; rfl, fun e => by rw [e]; rfl⟩
    rw [this, and_iff_right faultless_nil]
  | append_singleton nodes n ih =>
    rw [List.foldlM_append]
    cases hrun : nodes.foldlM step (state []) with
    | error fault =>
      refine ⟨nofun, fun ⟨hnone, _⟩ => ?_⟩
      have hok := ih.mpr ⟨(faultless_append_singleton_iff.mp hnone).1, rfl⟩
      rw [hrun] at hok
      cases hok
    | ok s' =>
      obtain ⟨hnone, rfl⟩ := ih.mp hrun
      show step (state nodes) n >>= pure = .ok s ↔ _
      rw [bind_pure]
      constructor
      · intro hstep
        exact ⟨h.faultless_of_ok hnone hstep, h.eq_of_ok hnone hstep⟩
      · intro hend
        obtain ⟨hnone', rfl⟩ := hend
        cases hstep : step (state nodes) n with
        | error fault =>
          exact absurd ((h.error_iff hnone).mp hstep)
            ((faultless_append_singleton_iff.mp hnone').2 fault)
        | ok s => rw [h.eq_of_ok hnone hstep]

/-- A run fails with the first fault. -/
theorem foldlM_eq_error_iff (h : Reading step state faultAt) {fault : ε} :
    nodes.foldlM step (state []) = .error fault ↔ FirstFault faultAt nodes fault := by
  induction nodes using List.reverseRecOn with
  | nil => exact ⟨nofun, fun e => absurd faultless_nil e.not_faultless⟩
  | append_singleton nodes n ih =>
    rw [List.foldlM_append, firstFault_append_singleton_iff, ← ih]
    cases hrun : nodes.foldlM step (state []) with
    | error fault' =>
      -- the run has stopped before `n`, whose own faults no longer count
      have hfaulty : ¬ Faultless faultAt nodes := fun hnone => by
        rw [h.foldlM_eq_ok_iff.mpr ⟨hnone, rfl⟩] at hrun
        cases hrun
      simp [hfaulty, bind, Except.bind]
    | ok s =>
      obtain ⟨hnone, rfl⟩ := h.foldlM_eq_ok_iff.mp hrun
      show step (state nodes) n >>= pure = .error fault ↔ _
      rw [bind_pure, h.error_iff hnone]
      simp [hnone]

end Reading

end ModuleCatalog
