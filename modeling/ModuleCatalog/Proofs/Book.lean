import ModuleCatalog.Proofs.Rows

/-! # What a book of records holds

    The record under a name is made of what was contributed to that name, and
    a name to which nothing was contributed has no record.  For each sort of
    symbols this tells which symbols a row of its table holds: all that were
    contributed to the name, in whatever order, and no others
    (`Collects.mem_row_iff`). -/

namespace ModuleCatalog

/-- The record that some contributions make, first one of the document first. -/
def UnitRecord.ofContributions (name : ModuleName) (contributions : List Contribution) :
    UnitRecord :=
  contributions.foldr (fun contribution record => record.precede contribution) { name }

/-- What is contributed to one unit, in the order in which it stands. -/
def contributedTo (name : ModuleName) (contributions : List (ModuleName × Contribution)) :
    List Contribution :=
  contributions.filterMap fun (home, contribution) =>
    if home = name then some contribution else none

variable {name home : ModuleName} {contribution : Contribution}
  {contributions : List (ModuleName × Contribution)}

theorem mem_contributedTo_iff :
    contribution ∈ contributedTo name contributions ↔ (name, contribution) ∈ contributions := by
  unfold contributedTo
  rw [List.mem_filterMap]
  constructor
  · intro h
    obtain ⟨⟨home, c⟩, hmem, h⟩ := h
    have h : home = name ∧ c = contribution := by simpa using h
    rw [← h.1, ← h.2]
    exact hmem
  · intro hmem
    exact ⟨(name, contribution), hmem, by simp⟩

theorem contributedTo_cons :
    contributedTo name ((home, contribution) :: contributions) =
      if home = name then contribution :: contributedTo name contributions
      else contributedTo name contributions := by
  unfold contributedTo
  by_cases h : home = name <;> simp [h]

theorem contributedTo_append (name : ModuleName)
    (contributions contributions' : List (ModuleName × Contribution)) :
    contributedTo name (contributions ++ contributions') =
      contributedTo name contributions ++ contributedTo name contributions' :=
  List.filterMap_append

theorem UnitRecord.name_precede (record : UnitRecord) (contribution : Contribution) :
    (record.precede contribution).name = record.name := by
  cases contribution <;> rfl

/-- A record keeps the name that it was opened under. -/
theorem UnitRecord.name_ofContributions (contributions : List Contribution) :
    (ofContributions name contributions).name = name := by
  induction contributions with
  | nil => rfl
  | cons contribution contributions ih =>
    show ((ofContributions name contributions).precede contribution).name = name
    rw [name_precede, ih]

namespace RecordBook

/-- A book is gathered from the last contribution to the first. -/
theorem gather_reverse_cons :
    gather ((home, contribution) :: contributions).reverse =
      (gather contributions.reverse).change home (·.precede contribution) := by
  simp [gather, List.foldl_append]

/-- The record under a name is made of what was contributed to that name. -/
theorem find?_gather_reverse (contributions : List (ModuleName × Contribution)) :
    (gather contributions.reverse).find? name =
      (Survey.nonempty? (contributedTo name contributions)).map (.ofContributions name) := by
  induction contributions with
  | nil => rfl
  | cons entry contributions ih =>
    obtain ⟨home, contribution⟩ := entry
    rw [gather_reverse_cons, find?_change, contributedTo_cons]
    by_cases h : name = home
    · subst h
      -- a record that is opened only now is blank, as that of no contributions
      have hblank : (((gather contributions.reverse).find? name).getD { name }) =
          UnitRecord.ofContributions name (contributedTo name contributions) := by
        rw [ih]
        cases contributedTo name contributions <;> rfl
      rw [if_pos rfl, if_pos rfl, hblank]
      rfl
    · rw [if_neg h, if_neg (Ne.symm h), ih]

theorem find?_gather_reverse_eq_some_iff {record : UnitRecord} :
    (gather contributions.reverse).find? name = some record ↔
      contributedTo name contributions ≠ [] ∧
        record = .ofContributions name (contributedTo name contributions) := by
  rw [find?_gather_reverse, Survey.nonempty?]
  cases contributedTo name contributions <;> simp [eq_comm]

/-- Where a table of symbols has no row, there is no symbol to put into it. -/
theorem getD_tabulate (book : RecordBook) (field : UnitRecord → SymbolSet) :
    ((book.tabulate fun record => Catalog.nonempty? (field record))[name]?.getD ∅) =
      ((book.find? name).map field).getD ∅ := by
  rw [getElem?_tabulate]
  cases book.find? name with
  | none => rfl
  | some record => exact Catalog.getD_nonempty? (field record)

end RecordBook

/-- The record of a unit is made of what a pass has found for it. -/
theorem Pass.recordOf_survey (p : Pass) (name : ModuleName) :
    p.survey.recordOf name =
      .ofContributions name (contributedTo name p.contributions.reverse) := by
  have hrecord : p.survey.record? name =
      (RecordBook.gather p.contributions.reverse.reverse).find? name := by
    rw [List.reverse_reverse]
    rfl
  rw [Survey.recordOf, hrecord, RecordBook.find?_gather_reverse]
  unfold Survey.nonempty?
  cases contributedTo name _ <;> rfl

/-! ## Sorts of symbols -/

/-- A sort of symbols in a record collects what contributions add to it. -/
structure Collects (field : UnitRecord → SymbolSet) (adds : Contribution → String → Prop) :
    Prop where
  blank : ∀ name, field { name } = ∅
  precede : ∀ record contribution symbol,
    symbol ∈ field (record.precede contribution) ↔ symbol ∈ field record ∨ adds contribution symbol

theorem collects_variableNames :
    Collects UnitRecord.variableNames fun contribution symbol =>
      contribution = .variable symbol where
  blank _ := rfl
  precede record contribution symbol := by
    cases contribution <;> simp [UnitRecord.precede, or_comm]

theorem collects_subprograms :
    Collects UnitRecord.subprograms fun contribution symbol =>
      contribution = .subprogram symbol where
  blank _ := rfl
  precede record contribution symbol := by
    cases contribution <;> simp [UnitRecord.precede, or_comm]

theorem collects_hidden :
    Collects UnitRecord.hidden fun contribution symbol =>
      ∃ hidden, contribution = .hidden hidden ∧ symbol ∈ hidden where
  blank _ := rfl
  precede record contribution symbol := by
    cases contribution <;> simp [UnitRecord.precede]

namespace Collects

variable {field : UnitRecord → SymbolSet} {adds : Contribution → String → Prop} {symbol : String}

/-- A record holds what some of its contributions adds. -/
theorem mem_ofContributions_iff (h : Collects field adds) {contributions : List Contribution} :
    symbol ∈ field (.ofContributions name contributions) ↔
      ∃ contribution ∈ contributions, adds contribution symbol := by
  induction contributions with
  | nil =>
    show symbol ∈ field { name } ↔ _
    simp [h.blank]
  | cons contribution contributions ih =>
    show symbol ∈ field ((UnitRecord.ofContributions name contributions).precede contribution) ↔ _
    rw [h.precede, ih, or_comm]
    simp only [List.mem_cons, exists_eq_or_imp]

/-- Records hold the same if the same is contributed that adds something. -/
theorem ofContributions_congr (h : Collects field adds)
    {contributions contributions' : List Contribution}
    (hsame : ∀ contribution symbol, adds contribution symbol →
      (contribution ∈ contributions ↔ contribution ∈ contributions')) :
    field (.ofContributions name contributions) = field (.ofContributions name contributions') := by
  refine Std.ExtTreeSet.ext_mem fun symbol => ?_
  rw [h.mem_ofContributions_iff, h.mem_ofContributions_iff]
  exact exists_congr fun contribution => and_congr_left fun hadds => hsame contribution symbol hadds

/-- The row of a name holds what the contributions to that name add. -/
theorem mem_row_iff (h : Collects field adds) :
    symbol ∈ (((RecordBook.gather contributions.reverse).tabulate fun record =>
        Catalog.nonempty? (field record))[name]?.getD ∅) ↔
      ∃ contribution, (name, contribution) ∈ contributions ∧ adds contribution symbol := by
  have hmem : symbol ∈ field (.ofContributions name (contributedTo name contributions)) ↔ _ :=
    h.mem_ofContributions_iff
  simp only [mem_contributedTo_iff] at hmem
  rw [RecordBook.getD_tabulate, RecordBook.find?_gather_reverse, ← hmem]
  unfold Survey.nonempty?
  cases hnone : contributedTo name contributions with
  | nil =>
    -- an empty record would hold as little as none
    show symbol ∈ ∅ ↔ symbol ∈ field { name }
    rw [h.blank]
  | cons contribution rest => rfl

end Collects

end ModuleCatalog
