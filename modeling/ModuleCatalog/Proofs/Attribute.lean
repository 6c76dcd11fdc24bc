import ModuleCatalog.Fallible
import ModuleCatalog.Survey.Visit

/-! # What nodes need

    When a node has what its kind needs, and what is read from it then.  The
    symbols of names and of lists of names are also read without asking
    whether they are there (`nameSymbol?`, `onlySymbols`). -/

namespace ModuleCatalog

namespace Node

variable {n : Node} {kind : NodeKind} {key : String} {fault : TreeFault}

theorem require_eq_ok_iff {value : String} :
    n.require kind key = .ok value ↔ n.attr? key = some value := by
  unfold require
  cases n.attr? key <;> simp

theorem require_eq_error_iff :
    n.require kind key = .error fault ↔
      n.attr? key = none ∧ fault = .missingAttribute kind key := by
  unfold require
  cases n.attr? key <;> simp [eq_comm]

theorem symbol_eq_ok_iff {value : String} :
    n.symbol kind key = .ok value ↔ ∃ raw, n.attr? key = some raw ∧ Text.lower raw = value := by
  simp only [symbol, map_eq_ok, require_eq_ok_iff]

theorem symbol_eq_error_iff :
    n.symbol kind key = .error fault ↔
      n.attr? key = none ∧ fault = .missingAttribute kind key := by
  rw [symbol, map_eq_error, require_eq_error_iff]

/-- The lower case of the lower case is that of the text itself, so a node names
    the unit that its attribute stands for. -/
theorem unitNamed_eq_ok_iff {name : ModuleName} :
    n.unitNamed kind = .ok name ↔
      ∃ spelling, n.attr? "name" = some spelling ∧ ModuleName.ofSpelling spelling = name := by
  simp only [unitNamed, map_eq_ok, symbol_eq_ok_iff]
  constructor
  · rintro ⟨_, ⟨spelling, hname, rfl⟩, rfl⟩
    exact ⟨spelling, hname, (ModuleName.ofSpelling_lower spelling).symm⟩
  · rintro ⟨spelling, hname, rfl⟩
    exact ⟨_, ⟨spelling, hname, rfl⟩, ModuleName.ofSpelling_lower spelling⟩

theorem unitNamed_eq_error_iff :
    n.unitNamed kind = .error fault ↔
      n.attr? "name" = none ∧ fault = .missingAttribute kind "name" := by
  rw [unitNamed, map_eq_error, symbol_eq_error_iff]

/-! ## Names -/

/-- The symbol that a name stands for. -/
def nameSymbol? (n : Node) : Option String :=
  if n.kind? = some .name then (n.attr? "id").map Text.lower else none

/-- The names directly under the lists directly under a use clause. -/
def onlyItems (n : Node) : List Node :=
  (n.childrenOfKind .only).flatMap (·.childrenOfKind .name)

/-- The symbols that a use clause is limited to. -/
def onlySymbols (n : Node) : List String := n.onlyItems.filterMap nameSymbol?

theorem nameSymbol?_eq_some_iff {symbol : String} :
    n.nameSymbol? = some symbol ↔
      n.kind? = some .name ∧ ∃ id, n.attr? "id" = some id ∧ Text.lower id = symbol := by
  unfold nameSymbol?
  split <;> simp [*]

theorem mem_childrenOfKind_iff {child : Node} :
    child ∈ n.childrenOfKind kind ↔ child ∈ n.children ∧ child.kind? = some kind := by
  simp [childrenOfKind]

theorem mem_onlyItems_iff {item : Node} :
    item ∈ n.onlyItems ↔
      ∃ list ∈ n.children, list.kind? = some .only ∧
        item ∈ list.children ∧ item.kind? = some .name := by
  simp only [onlyItems, List.mem_flatMap, mem_childrenOfKind_iff, and_assoc]

/-- Reading some names gives their symbols in order, if each has one. -/
theorem mapM_symbol_eq_ok_iff {items : List Node} (h : ∀ item ∈ items, item.kind? = some .name)
    {symbols : List String} :
    items.mapM (·.symbol .name "id") = .ok symbols ↔
      (∀ item ∈ items, item.attr? "id" ≠ none) ∧ symbols = items.filterMap nameSymbol? := by
  -- `filterMap` would also leave out what is no name, hence `h`
  induction items generalizing symbols with
  | nil => simpa using pure_eq_ok.trans eq_comm
  | cons item items ih =>
    have hkind := h item (by simp)
    have ih := @ih fun i hi => h i (by simp [hi])
    simp only [List.mapM_cons, bind_eq_ok, symbol_eq_ok_iff, pure_eq_ok, ih, List.forall_mem_cons]
    cases hid : item.attr? "id" with
    | none => simp
    | some id =>
      have hsymbol : item.nameSymbol? = some (Text.lower id) :=
        nameSymbol?_eq_some_iff.mpr ⟨hkind, id, hid, rfl⟩
      simp only [List.filterMap_cons, hsymbol]
      constructor
      · intro hread
        obtain ⟨_, ⟨_, ⟨⟩, rfl⟩, _, ⟨hall, rfl⟩, rfl⟩ := hread
        exact ⟨⟨by simp, hall⟩, rfl⟩
      · intro hread
        obtain ⟨⟨-, hall⟩, rfl⟩ := hread
        exact ⟨_, ⟨_, rfl, rfl⟩, _, ⟨hall, rfl⟩, rfl⟩

/-- Reading some names fails when one of them has no symbol. -/
theorem mapM_symbol_eq_error_iff {items : List Node} :
    items.mapM (·.symbol .name "id") = .error fault ↔
      (∃ item ∈ items, item.attr? "id" = none) ∧ fault = .missingAttribute .name "id" := by
  induction items with
  | nil => simp [pure_ne_error]
  | cons item items ih =>
    simp only [List.mapM_cons, bind_eq_error, symbol_eq_error_iff, symbol_eq_ok_iff,
      pure_ne_error, and_false, exists_false, or_false, ih, List.mem_cons, exists_eq_or_imp]
    cases hid : item.attr? "id" with
    | none => simp
    | some id => simp

theorem onlyNames_eq_ok_iff {symbols : List String} :
    n.onlyNames = .ok symbols ↔
      (∀ item ∈ n.onlyItems, item.attr? "id" ≠ none) ∧ symbols = n.onlySymbols :=
  mapM_symbol_eq_ok_iff fun item hitem => by
    obtain ⟨_, _, _, _, hkind⟩ := mem_onlyItems_iff.mp hitem
    exact hkind

theorem onlyNames_eq_error_iff :
    n.onlyNames = .error fault ↔
      (∃ item ∈ n.onlyItems, item.attr? "id" = none) ∧ fault = .missingAttribute .name "id" :=
  mapM_symbol_eq_error_iff

end Node

end ModuleCatalog
