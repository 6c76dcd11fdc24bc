import Std.Data.ExtTreeMap
import Std.Data.ExtTreeSet
import ModuleCatalog.ModuleName

/-! # What a program unit holds

    A `UnitRecord` gathers what the nodes of one program unit contribute.  A
    `RecordBook` keeps one record under each name, in the order in which the
    records were opened.  Readers find records by name (`find?`) or draw up a
    table from all of them (`tabulate`), and neither depends on that order.
    A book is made from contributions by `gather`. -/

namespace ModuleCatalog

/-- A set of symbols, in ascending order of code points. -/
abbrev SymbolSet := Std.ExtTreeSet String

/-- What a use clause asks of its target. -/
inductive Selection where
  /-- Everything that the target exports. -/
  | everything
  /-- The listed names, in document order and with repeats. -/
  | only (names : List String)
deriving DecidableEq, Repr

/-- The selection that a list of names stands for: no names, no limit. -/
def Selection.ofNames : List String → Selection
  | [] => everything
  | name :: names => only (name :: names)

/-- A use clause as it was written. -/
structure UseClause where
  target : ModuleName
  selection : Selection
deriving DecidableEq

/-- What one module or program holds. -/
structure UnitRecord where
  name : ModuleName
  /-- Its variables. -/
  variableNames : SymbolSet := ∅
  /-- The names that its declarations hide. -/
  hidden : SymbolSet := ∅
  /-- Its subroutines and functions. -/
  subprograms : SymbolSet := ∅
  /-- Its use clauses, in document order. -/
  uses : List UseClause := []

/-- All symbols native to a unit. -/
def UnitRecord.symbols (r : UnitRecord) : SymbolSet :=
  r.variableNames ∪ r.hidden ∪ r.subprograms

/-- What one node contributes to the unit that it belongs to. -/
inductive Contribution where
  | variable (symbol : String)
  | subprogram (symbol : String)
  /-- The names that a declaration hides. -/
  | hidden (symbols : SymbolSet)
  | use (clause : UseClause)

/-- The record with one more contribution in front of those that it holds. -/
def UnitRecord.precede (r : UnitRecord) : Contribution → UnitRecord
  | .variable symbol => { r with variableNames := r.variableNames.insert symbol }
  | .subprogram symbol => { r with subprograms := r.subprograms.insert symbol }
  | .hidden symbols => { r with hidden := r.hidden ∪ symbols }
  | .use clause => { r with uses := clause :: r.uses }

/-! ## Books of records -/

/-- One record under each name, in the order in which they were opened. -/
structure RecordBook where
  entries : List (ModuleName × UnitRecord) := []
  nodup_keys : (entries.map Prod.fst).Nodup := by decide

namespace RecordBook

/-- The record under a name. -/
def find? (book : RecordBook) (name : ModuleName) : Option UnitRecord :=
  book.entries.lookup name

/-- The entries with the record under `name` changed by `f`, behind the others
    if there was none. -/
def alterEntries (name : ModuleName) (f : Option UnitRecord → UnitRecord) :
    List (ModuleName × UnitRecord) → List (ModuleName × UnitRecord)
  | [] => [(name, f none)]
  | (key, record) :: rest =>
    if key = name then (key, f (some record)) :: rest
    else (key, record) :: alterEntries name f rest

/-- Altering a record opens at most its own key, and that one at the end. -/
theorem keys_alterEntries (name : ModuleName) (f : Option UnitRecord → UnitRecord)
    (entries : List (ModuleName × UnitRecord)) :
    (alterEntries name f entries).map Prod.fst =
      if name ∈ entries.map Prod.fst then entries.map Prod.fst
      else entries.map Prod.fst ++ [name] := by
  induction entries with
  | nil => simp [alterEntries]
  | cons entry rest ih =>
    obtain ⟨key, record⟩ := entry
    by_cases h : key = name
    · simp [alterEntries, h]
    · have h' : ¬ name = key := fun e => h e.symm
      simp only [alterEntries, h, if_false, List.map_cons, ih, List.mem_cons, h', false_or]
      split <;> simp

/-- The book with the record under `name` changed by `f`, which is told
    whether there was one. -/
def alter (book : RecordBook) (name : ModuleName) (f : Option UnitRecord → UnitRecord) :
    RecordBook where
  entries := alterEntries name f book.entries
  nodup_keys := by
    rw [keys_alterEntries]
    split
    · exact book.nodup_keys
    · rename_i h
      rw [List.nodup_append]
      refine ⟨book.nodup_keys, by simp, ?_⟩
      rintro a ha b hb rfl
      exact h (List.mem_singleton.mp hb ▸ ha)

/-- The book with `record` under `name`, in place of what was there. -/
def insert (book : RecordBook) (name : ModuleName) (record : UnitRecord) : RecordBook :=
  book.alter name fun _ => record

/-- The book with the record under `name` changed by `f`.  A record that was
    not there is opened first. -/
def change (book : RecordBook) (name : ModuleName) (f : UnitRecord → UnitRecord) : RecordBook :=
  book.alter name fun record? => f (record?.getD { name })

/-- The book of some contributions to units, the last one of the document
    first. -/
def gather (contributions : List (ModuleName × Contribution)) : RecordBook :=
  contributions.foldl (fun book (name, contribution) =>
    book.change name (·.precede contribution)) {}

/-- The table of what `f` makes of each record; records of which it makes
    nothing are left out. -/
def tabulate {β : Type u} (book : RecordBook) (f : UnitRecord → Option β) :
    Std.ExtTreeMap ModuleName β :=
  Std.ExtTreeMap.ofList (book.entries.filterMap fun (key, record) => (f record).map (key, ·))

/-! ## Looking records up -/

theorem lookup_alterEntries (name key : ModuleName) (f : Option UnitRecord → UnitRecord)
    (entries : List (ModuleName × UnitRecord)) :
    (alterEntries name f entries).lookup key =
      if key = name then some (f (entries.lookup name)) else entries.lookup key := by
  induction entries with
  | nil =>
    by_cases h : key = name
    · simp [alterEntries, h]
    · have hb : (key == name) = false := by simp [h]
      simp [alterEntries, List.lookup_cons, h, hb]
  | cons entry rest ih =>
    obtain ⟨k, record⟩ := entry
    by_cases hk : k = name
    · subst hk
      by_cases h : key = k
      · simp [alterEntries, h]
      · have hb : (key == k) = false := by simp [h]
        simp [alterEntries, List.lookup_cons, h, hb]
    · have hb : (name == k) = false := by simp [Ne.symm hk]
      simp only [alterEntries, hk, if_false, List.lookup_cons, hb, ih]
      by_cases h : key = k
      · subst h
        simp [hk]
      · have hb' : (key == k) = false := by simp [h]
        simp [hb']

/-- Altering a record changes what is found under its name, and nothing else. -/
theorem find?_alter (book : RecordBook) (name key : ModuleName)
    (f : Option UnitRecord → UnitRecord) :
    (book.alter name f).find? key =
      if key = name then some (f (book.find? name)) else book.find? key :=
  lookup_alterEntries name key f book.entries

theorem find?_insert (book : RecordBook) (name key : ModuleName) (record : UnitRecord) :
    (book.insert name record).find? key = if key = name then some record else book.find? key :=
  find?_alter book name key _

theorem find?_change (book : RecordBook) (name key : ModuleName) (f : UnitRecord → UnitRecord) :
    (book.change name f).find? key =
      if key = name then some (f ((book.find? name).getD { name })) else book.find? key :=
  find?_alter book name key _

/-- A record is found under a name exactly when the book has that entry. -/
theorem find?_eq_some_iff (book : RecordBook) (name : ModuleName) (record : UnitRecord) :
    book.find? name = some record ↔ (name, record) ∈ book.entries := by
  obtain ⟨entries, nodup⟩ := book
  unfold find?
  induction entries with
  | nil => simp
  | cons entry rest ih =>
    obtain ⟨k, r⟩ := entry
    simp only [List.map_cons, List.nodup_cons] at nodup
    by_cases h : name = k
    · subst h
      have hnone : (name, record) ∉ rest := fun hm =>
        nodup.1 (List.mem_map.mpr ⟨(name, record), hm, rfl⟩)
      simp only [List.lookup_cons, beq_self_eq_true, List.mem_cons, hnone, or_false]
      constructor
      · intro e; cases e; rfl
      · intro e; cases e; rfl
    · have hb : (name == k) = false := by simp [h]
      simp only [List.lookup_cons, hb, List.mem_cons]
      rw [ih nodup.2]
      constructor
      · exact .inr
      · rintro (e | hm)
        · cases e; exact absurd rfl h
        · exact hm

/-- A table holds what its function makes of the record under each name. -/
theorem getElem?_tabulate {β : Type u} (book : RecordBook) (f : UnitRecord → Option β)
    (name : ModuleName) : (book.tabulate f)[name]? = (book.find? name).bind f := by
  have hdistinct : (book.entries.filterMap fun (key, record) => (f record).map (key, ·)).Pairwise
      (fun a b => ¬ compare a.1 b.1 = .eq) := by
    rw [List.pairwise_filterMap]
    refine (List.pairwise_map.mp book.nodup_keys).imp ?_
    rintro ⟨k, r⟩ ⟨k', r'⟩ hne b hb b' hb' heq
    obtain ⟨v, -, rfl⟩ := Option.map_eq_some_iff.mp hb
    obtain ⟨v', -, rfl⟩ := Option.map_eq_some_iff.mp hb'
    exact hne (Std.LawfulEqOrd.eq_of_compare heq)
  rw [tabulate]
  cases hv : (book.find? name).bind f with
  | some v =>
    obtain ⟨record, hfind, hv⟩ := Option.bind_eq_some_iff.mp hv
    refine Std.ExtTreeMap.getElem?_ofList_of_mem Std.ReflOrd.compare_self hdistinct ?_
    exact List.mem_filterMap.mpr ⟨(name, record), (find?_eq_some_iff ..).mp hfind, by simp [hv]⟩
  | none =>
    refine Std.ExtTreeMap.getElem?_ofList_of_contains_eq_false ?_
    rw [← Bool.not_eq_true, List.contains_iff_mem]
    intro hm
    obtain ⟨⟨k, v⟩, hrow, hk⟩ := List.mem_map.mp hm
    obtain ⟨⟨k', record⟩, hentry, hmade⟩ := List.mem_filterMap.mp hrow
    obtain ⟨v', hv', e⟩ := Option.map_eq_some_iff.mp hmade
    cases e
    cases hk
    rw [(find?_eq_some_iff ..).mpr hentry, Option.bind_some, hv'] at hv
    cases hv

end RecordBook

end ModuleCatalog
