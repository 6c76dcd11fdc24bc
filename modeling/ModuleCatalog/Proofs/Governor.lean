import ModuleCatalog.Proofs.Attribute

/-! # The unit that governs a place

    A module or program governs what comes behind it in document order, until
    the next one is opened.  What comes ahead of all of them is governed by
    the first program of the tree, wherever that stands. -/

namespace ModuleCatalog

namespace Node

/-- Whether a node opens a unit. -/
def opensUnit (n : Node) : Bool := n.kind? == some .program || n.kind? == some .module

/-- The name of the unit that a node opens. -/
def unitName? (n : Node) : Option ModuleName :=
  if n.opensUnit then (n.attr? "name").map .ofSpelling else none

/-- The first program of a tree in document order. -/
def firstProgram? (root : Node) : Option Node :=
  (descendants root).find? fun n => n.kind? == some .program

/-- The first program of the tree has no name. -/
def EntryUnnamed (root : Node) : Prop :=
  ∃ program, root.firstProgram? = some program ∧ program.attr? "name" = none

theorem opensUnit_iff {n : Node} :
    n.opensUnit = true ↔ n.kind? = some .program ∨ n.kind? = some .module := by
  simp [opensUnit]

theorem unitName?_of_not_opensUnit {n : Node} (h : n.opensUnit = false) : n.unitName? = none := by
  simp [unitName?, h]

theorem unitName?_of_opensUnit {n : Node} (h : n.opensUnit = true) :
    n.unitName? = (n.attr? "name").map .ofSpelling := by
  simp [unitName?, h]

theorem kind?_of_firstProgram? {root program : Node} (h : root.firstProgram? = some program) :
    program.kind? = some .program := by
  simpa using List.find?_some h

theorem mem_of_firstProgram? {root program : Node} (h : root.firstProgram? = some program) :
    program ∈ descendants root :=
  List.mem_of_find?_eq_some h

theorem firstProgram?_eq_none_iff {root : Node} :
    root.firstProgram? = none ↔ ∀ n ∈ descendants root, n.kind? ≠ some .program := by
  simp [firstProgram?]

theorem unitName?_of_firstProgram? {root program : Node}
    (h : root.firstProgram? = some program) :
    program.unitName? = (program.attr? "name").map .ofSpelling :=
  unitName?_of_opensUnit (opensUnit_iff.mpr (.inl (kind?_of_firstProgram? h)))

end Node

/-! ## The governor -/

/-- The last of some nodes that opens a unit. -/
def lastUnit? (before : List Node) : Option Node := (before.filter Node.opensUnit).getLast?

/-- The name of the unit that governs what comes behind `before` in the tree at
    `root`. -/
def governor? (root : Node) (before : List Node) : Option ModuleName :=
  ((lastUnit? before).or root.firstProgram?).bind Node.unitName?

/-- The unit that governs behind some nodes when `home?` governs ahead of them. -/
def homeBehind (home? : Option ModuleName) (before : List Node) : Option ModuleName :=
  match lastUnit? before with
  | some unit => unit.unitName?
  | none => home?

/-- There is some unit for what comes behind `before`: one was opened there, or
    the tree has a program. -/
def Housed (root : Node) (before : List Node) : Prop :=
  (∃ u ∈ before, u.opensUnit = true) ∨ ∃ p ∈ descendants root, p.kind? = some .program

theorem governor?_eq_homeBehind (root : Node) (before : List Node) :
    governor? root before = homeBehind (root.firstProgram?.bind Node.unitName?) before := by
  unfold governor? homeBehind
  cases lastUnit? before <;> simp

theorem lastUnit?_append (xs ys : List Node) :
    lastUnit? (xs ++ ys) = (lastUnit? ys).or (lastUnit? xs) := by
  simp [lastUnit?]

theorem lastUnit?_singleton (n : Node) :
    lastUnit? [n] = if n.opensUnit then some n else none := by
  cases h : n.opensUnit <;> simp [lastUnit?, h]

theorem lastUnit?_eq_none_iff {before : List Node} :
    lastUnit? before = none ↔ ∀ u ∈ before, u.opensUnit = false := by
  simp [lastUnit?]

/-- The last unit opened is one of the nodes, and a unit. -/
theorem opensUnit_of_lastUnit? {before : List Node} {u : Node} (h : lastUnit? before = some u) :
    u ∈ before ∧ u.opensUnit = true :=
  List.mem_filter.mp (List.mem_of_getLast? h)

@[simp] theorem homeBehind_nil (home? : Option ModuleName) : homeBehind home? [] = home? := rfl

/-- What governs is handed on from node to node. -/
theorem homeBehind_append (home? : Option ModuleName) (xs ys : List Node) :
    homeBehind home? (xs ++ ys) = homeBehind (homeBehind home? xs) ys := by
  unfold homeBehind
  rw [lastUnit?_append]
  cases lastUnit? ys <;> simp

theorem homeBehind_singleton (home? : Option ModuleName) (n : Node) :
    homeBehind home? [n] = if n.opensUnit then n.unitName? else home? := by
  unfold homeBehind
  rw [lastUnit?_singleton]
  cases n.opensUnit <;> rfl

/-- What governs a place is the name of a unit of the tree, be it one that is
    opened behind the place. -/
theorem exists_unit_of_governor? {root : Node} {name : ModuleName} {before : List Node}
    (hbefore : ∀ u ∈ before, u ∈ descendants root) (h : governor? root before = some name) :
    ∃ u ∈ descendants root, u.unitName? = some name := by
  obtain ⟨u, hu, hname⟩ := Option.bind_eq_some_iff.mp h
  refine ⟨u, ?_, hname⟩
  rcases Option.or_eq_some_iff.mp hu with hlast | ⟨-, hfirst⟩
  · exact hbefore u (opensUnit_of_lastUnit? hlast).1
  · exact Node.mem_of_firstProgram? hfirst

/-! ## Units with names -/

/-- Every unit opened among some nodes has a name. -/
def UnitsNamed (before : List Node) : Prop :=
  ∀ u ∈ before, u.opensUnit = true → u.attr? "name" ≠ none

/-- Named units make the fallback a matter of the places ahead of all units. -/
theorem homeBehind_none_or {before : List Node} (h : UnitsNamed before)
    (home? : Option ModuleName) : (homeBehind none before).or home? = homeBehind home? before := by
  unfold homeBehind
  cases hlast : lastUnit? before with
  | none => rfl
  | some u =>
    obtain ⟨hmem, hunit⟩ := opensUnit_of_lastUnit? hlast
    obtain ⟨name, hname⟩ := Option.ne_none_iff_exists'.mp (h u hmem hunit)
    simp [Node.unitName?_of_opensUnit hunit, hname]

/-- With named units and a named first program, a place is governed exactly
    where there is some unit for it. -/
theorem governor?_eq_none_iff {root : Node} {before : List Node} (h : UnitsNamed before)
    (hentry : ¬ root.EntryUnnamed) : governor? root before = none ↔ ¬ Housed root before := by
  unfold governor? Housed
  cases hlast : lastUnit? before with
  | some u =>
    obtain ⟨hmem, hunit⟩ := opensUnit_of_lastUnit? hlast
    -- a unit that was opened has a name, so the fallback is not asked
    have hname := h u hmem hunit
    simp only [Option.some_or, Option.bind_some, Node.unitName?_of_opensUnit hunit,
      Option.map_eq_none_iff, hname, false_iff, Classical.not_not]
    exact .inl ⟨u, hmem, hunit⟩
  | none =>
    have hnone := lastUnit?_eq_none_iff.mp hlast
    have hno : ¬ ∃ u ∈ before, u.opensUnit = true := by
      intro h
      obtain ⟨u, hu, hunit⟩ := h
      rw [hnone u hu] at hunit
      cases hunit
    -- ahead of all units it is the first program that counts
    rw [Option.none_or]
    cases hfirst : root.firstProgram? with
    | none => simpa [hno] using Node.firstProgram?_eq_none_iff.mp hfirst
    | some program =>
      have hname : program.attr? "name" ≠ none := fun e => hentry ⟨program, hfirst, e⟩
      simp only [Option.bind_some, Node.unitName?_of_firstProgram? hfirst,
        Option.map_eq_none_iff, hname, false_iff, Classical.not_not]
      exact .inr ⟨program, Node.mem_of_firstProgram? hfirst, Node.kind?_of_firstProgram? hfirst⟩

/-! ## The entry point -/

theorem entryPoint_eq_ok_iff {root : Node} {entry : Option ModuleName} :
    entryPoint root = .ok entry ↔
      ¬ root.EntryUnnamed ∧ entry = root.firstProgram?.bind Node.unitName? := by
  unfold entryPoint Node.EntryUnnamed
  rw [← Node.firstProgram?]
  cases hfirst : root.firstProgram? with
  | none => simp [eq_comm]
  | some program =>
    simp only [map_eq_ok, Node.unitNamed_eq_ok_iff, Option.bind_some,
      Node.unitName?_of_firstProgram? hfirst, Option.some.injEq, exists_eq_left']
    cases program.attr? "name" <;> simp [eq_comm]

theorem entryPoint_eq_error_iff {root : Node} {fault : TreeFault} :
    entryPoint root = .error fault ↔
      root.EntryUnnamed ∧ fault = .missingAttribute .program "name" := by
  unfold entryPoint Node.EntryUnnamed
  rw [← Node.firstProgram?]
  cases hfirst : root.firstProgram? with
  | none => simp
  | some program =>
    simp only [map_eq_error, Node.unitNamed_eq_error_iff, Option.some.injEq, exists_eq_left']

end ModuleCatalog
