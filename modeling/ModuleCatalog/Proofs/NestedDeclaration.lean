import ModuleCatalog.Proofs.Gap
import ModuleCatalog.Proofs.Growth
import ModuleCatalog.Proofs.NormalForm

/-! # Declarations inside declarations

    A declaration is read as a whole, with the declarations inside it, and
    these are visited again in their turn.  A later visit finds nothing new.
    What an inner declaration reads is a connected part of what the outer one
    has read, and a marker that has been passed inside has been passed outside
    as well (`ScanFaultAt.after`, `hiddenSymbols_inner`).  Unless a unit is
    opened on the way, both belong to the same unit (`Pass.opened_of_run`).  So
    the inner declaration contributes names that its unit hides already, which
    no record shows (`Pass.holdsSame_contribute`). -/

namespace ModuleCatalog

/-! ## Reading a part of a declaration -/

section reading

variable {housed : Prop} {passed : List Node} {n : Node} {fault : TreeFault}

theorem PastMarker.after (earlier : List Node) (h : PastMarker passed) :
    PastMarker (earlier ++ passed) := by
  obtain ⟨a, ha, hmarker⟩ := h
  exact ⟨a, List.mem_append_right earlier ha, hmarker⟩

/-- What is wrong with a node is wrong with it after more has been read. -/
theorem ScanFaultAt.after (earlier : List Node) (h : ScanFaultAt housed passed n fault) :
    ScanFaultAt housed (earlier ++ passed) n fault := by
  cases h with
  | keyword hkind hnone => exact .keyword hkind hnone
  | id hkind hpast hnone => exact .id hkind (hpast.after earlier) hnone
  | unscoped hkind hpast hid hhome => exact .unscoped hkind (hpast.after earlier) hid hhome

/-- Where nothing is wrong with a declaration, nothing is wrong with what is
    read from a node inside it on. -/
theorem faultless_inner (h : Faultless (ScanFaultAt housed) (descendants n))
    (d : Place (descendants n)) : Faultless (ScanFaultAt housed) (descendants d.node) := by
  intro r fault hfault
  obtain ⟨p, hbefore, hnode⟩ := d.exists_outer r
  refine h p fault ?_
  rw [hbefore, hnode]
  exact hfault.after d.before

/-- A name that is hidden when only a part is read is hidden in the whole. -/
theorem hiddenSymbols_inner (d : Place (descendants n)) {symbol : String}
    (h : symbol ∈ hiddenSymbols (descendants d.node)) : symbol ∈ hiddenSymbols (descendants n) := by
  obtain ⟨r, ⟨hkind, hpast⟩, hid⟩ := mem_hiddenSymbols_iff.mp h
  obtain ⟨p, hbefore, hnode⟩ := d.exists_outer r
  rw [mem_hiddenSymbols_iff]
  refine ⟨p, ⟨?_, ?_⟩, ?_⟩
  · rw [hnode]
    exact hkind
  · rw [hbefore]
    exact hpast.after d.before
  · rw [hnode]
    exact hid

end reading

/-! ## Visiting a declaration -/

namespace Pass

variable {setting : Setting} {p q p' : Pass} {n : Node} {home : ModuleName} {symbol : String}

/-- There is a unit for what a pass comes to next. -/
def IsHoused (setting : Setting) (p : Pass) : Prop := p.opened.or setting.entryPoint ≠ none

theorem home_eq_error_iff {kind : NodeKind} {fault : TreeFault} :
    p.home setting kind = .error fault ↔ ¬ p.IsHoused setting ∧ fault = .unscoped kind := by
  unfold home IsHoused
  cases p.opened.or setting.entryPoint <;> simp [eq_comm]

/-- Passes that have opened the same unit last are in the same unit. -/
theorem home_congr (h : q.opened = p.opened) (kind : NodeKind) :
    q.home setting kind = p.home setting kind := by
  rw [home, home, h]

/-- The visit of a node hides a symbol in a unit. -/
def Marks (setting : Setting) (p : Pass) (n : Node) (home : ModuleName) (symbol : String) : Prop :=
  ∃ hidden, p.visit setting n = .ok (p.contribute home (.hidden hidden)) ∧ symbol ∈ hidden

/-- The visit of a declaration without a fault contributes what the declaration
    hides, unless that is nothing. -/
theorem visit_declaration_eq_ok_iff (hkind : n.kind? = some .declaration) :
    p.visit setting n = .ok p' ↔
      Faultless (ScanFaultAt (p.IsHoused setting)) (descendants n) ∧
        (hiddenSymbols (descendants n) = ∅ ∧ p' = p ∨
          hiddenSymbols (descendants n) ≠ ∅ ∧ ∃ home, p.home setting .declaration = .ok home ∧
            p' = p.contribute home (.hidden (hiddenSymbols (descendants n)))) := by
  simp only [visit, hkind, addDeclaration, bind_eq_ok,
    Node.hiddenNames_eq_ok_iff fun _ => home_eq_error_iff]
  constructor
  · intro h
    obtain ⟨_, ⟨hnone, rfl⟩, h⟩ := h
    refine ⟨hnone, ?_⟩
    by_cases hempty : hiddenSymbols (descendants n) = ∅
    · rw [if_pos (Std.ExtTreeSet.isEmpty_iff.mpr hempty), pure_eq_ok] at h
      exact .inl ⟨hempty, h.symm⟩
    · rw [if_neg fun h => hempty (Std.ExtTreeSet.isEmpty_iff.mp h)] at h
      simp only [bind_eq_ok, pure_eq_ok] at h
      obtain ⟨home, hhome, rfl⟩ := h
      exact .inr ⟨hempty, home, hhome, rfl⟩
  · intro h
    obtain ⟨hnone, h⟩ := h
    refine ⟨_, ⟨hnone, rfl⟩, ?_⟩
    rcases h with ⟨hempty, rfl⟩ | ⟨hne, home, hhome, rfl⟩
    · rw [if_pos (Std.ExtTreeSet.isEmpty_iff.mpr hempty)]
      rfl
    · rw [if_neg fun h => hne (Std.ExtTreeSet.isEmpty_iff.mp h)]
      simp only [bind_eq_ok, pure_eq_ok]
      exact ⟨home, hhome, rfl⟩

/-- A faultless declaration marks the names behind its private marker, in the
    unit that it belongs to. -/
theorem marks_declaration_iff (hkind : n.kind? = some .declaration) :
    p.Marks setting n home symbol ↔
      Faultless (ScanFaultAt (p.IsHoused setting)) (descendants n) ∧
        p.home setting .declaration = .ok home ∧ symbol ∈ hiddenSymbols (descendants n) := by
  unfold Marks
  simp only [visit_declaration_eq_ok_iff hkind]
  constructor
  · intro h
    obtain ⟨hidden, ⟨hnone, h⟩, hsymbol⟩ := h
    rcases h with ⟨-, hsame⟩ | ⟨-, home', hhome, hcontributed⟩
    · -- a contribution makes a longer list
      have hlist := congrArg Pass.contributions hsame
      simp [contribute] at hlist
    · have hlist := congrArg Pass.contributions hcontributed
      simp only [contribute, List.cons.injEq, Prod.mk.injEq, Contribution.hidden.injEq,
        and_true] at hlist
      obtain ⟨rfl, rfl⟩ := hlist
      exact ⟨hnone, hhome, hsymbol⟩
  · intro h
    obtain ⟨hnone, hhome, hsymbol⟩ := h
    have hne : hiddenSymbols (descendants n) ≠ ∅ := by
      intro hempty
      rw [hempty] at hsymbol
      exact Std.ExtTreeSet.not_mem_empty hsymbol
    exact ⟨_, ⟨hnone, .inr ⟨hne, home, hhome, rfl⟩⟩, hsymbol⟩

/-- A faultless declaration is visited with success: if it hides anything,
    there is a unit for it. -/
theorem exists_visit_declaration (hkind : n.kind? = some .declaration)
    (hnone : Faultless (ScanFaultAt (p.IsHoused setting)) (descendants n)) :
    ∃ p', p.visit setting n = .ok p' := by
  simp only [visit_declaration_eq_ok_iff hkind]
  by_cases hempty : hiddenSymbols (descendants n) = ∅
  · exact ⟨p, hnone, .inl ⟨hempty, rfl⟩⟩
  · have hhidden : ∃ symbol, symbol ∈ hiddenSymbols (descendants n) := by
      by_contra h
      exact hempty (Std.ExtTreeSet.eq_empty_iff_forall_not_mem.mpr (not_exists.mp h))
    obtain ⟨symbol, hsymbol⟩ := hhidden
    obtain ⟨r, hr, -⟩ := mem_hiddenSymbols_iff.mp hsymbol
    have hhoused : p.IsHoused setting := (faultless_scan_iff.mp hnone).2.2 ⟨r, hr⟩
    cases hhome : p.home setting .declaration with
    | ok home => exact ⟨_, hnone, .inr ⟨hempty, home, rfl, rfl⟩⟩
    | error fault => exact absurd hhoused (home_eq_error_iff.mp hhome).1

end Pass

/-! ## Names that are hidden already -/

attribute [ext] UnitRecord

/-- A record does not change with names that it hides already. -/
theorem UnitRecord.ofContributions_append_hidden (name : ModuleName)
    {contributions : List Contribution} {hidden : SymbolSet}
    (hcovered : ∀ symbol ∈ hidden, ∃ wide, .hidden wide ∈ contributions ∧ symbol ∈ wide) :
    ofContributions name (contributions ++ [.hidden hidden]) =
      ofContributions name contributions := by
  have hcollects : ∀ {field : UnitRecord → SymbolSet} {adds : Contribution → String → Prop},
      Collects field adds →
      (∀ symbol, adds (.hidden hidden) symbol → ∃ c ∈ contributions, adds c symbol) →
      field (ofContributions name (contributions ++ [.hidden hidden])) =
        field (ofContributions name contributions) := by
    intro field adds hfield hadded
    refine Std.ExtTreeSet.ext_mem fun symbol => ?_
    rw [hfield.mem_ofContributions_iff, hfield.mem_ofContributions_iff]
    constructor
    · intro h
      obtain ⟨contribution, hmem, hadds⟩ := h
      rcases List.mem_append.mp hmem with hmem | hmem
      · exact ⟨contribution, hmem, hadds⟩
      · rw [List.mem_singleton.mp hmem] at hadds
        exact hadded symbol hadds
    · intro h
      obtain ⟨contribution, hmem, hadds⟩ := h
      exact ⟨contribution, List.mem_append_left _ hmem, hadds⟩
  ext1
  case name => rw [name_ofContributions, name_ofContributions]
  case variableNames => exact hcollects collects_variableNames (by simp)
  case hidden =>
    refine hcollects collects_hidden fun symbol hadds => ?_
    obtain ⟨_, hadded, hsymbol⟩ := hadds
    obtain rfl := Contribution.hidden.inj hadded
    obtain ⟨wide, hwide, hmem⟩ := hcovered symbol hsymbol
    exact ⟨_, hwide, wide, rfl, hmem⟩
  case subprograms => exact hcollects collects_subprograms (by simp)
  case uses =>
    rw [uses_ofContributions, uses_ofContributions, List.filterMap_append]
    exact List.append_nil _

namespace Pass

variable {setting : Setting} {q q' : Pass} {n : Node}

/-- The record under a name, if anything has been contributed to that name. -/
theorem find?_records_survey_eq_some_iff {name : ModuleName} {record : UnitRecord} :
    q.survey.records.find? name = some record ↔
      contributedTo name q.contributions.reverse ≠ [] ∧
        record = .ofContributions name (contributedTo name q.contributions.reverse) := by
  rw [← RecordBook.find?_gather_reverse_eq_some_iff, List.reverse_reverse]
  rfl

/-- No record shows names that have been contributed to their unit before. -/
theorem holdsSame_contribute {home : ModuleName} {hidden : SymbolSet} (hne : hidden ≠ ∅)
    (hcovered : ∀ symbol ∈ hidden, ∃ wide,
      (home, .hidden wide) ∈ q.contributions ∧ symbol ∈ wide) :
    q.survey.HoldsSame (q.contribute home (.hidden hidden)).survey where
  modules_eq := rfl
  file_eq := rfl
  find?_eq name := by
    have hcontributed :
        contributedTo name (q.contribute home (.hidden hidden)).contributions.reverse =
          contributedTo name q.contributions.reverse ++
            contributedTo name [(home, .hidden hidden)] := by
      rw [contribute, List.reverse_cons, contributedTo_append]
    refine Option.ext fun record => ?_
    rw [find?_records_survey_eq_some_iff, find?_records_survey_eq_some_iff, hcontributed,
      contributedTo_cons]
    by_cases hname : home = name
    · subst hname
      have hearlier : ∀ symbol ∈ hidden, ∃ wide,
          .hidden wide ∈ contributedTo home q.contributions.reverse ∧ symbol ∈ wide := by
        intro symbol hsymbol
        obtain ⟨wide, hwide, hmem⟩ := hcovered symbol hsymbol
        exact ⟨wide, mem_contributedTo_iff.mpr (List.mem_reverse.mpr hwide), hmem⟩
      -- some name is hidden, so the record was there before
      have hopen : contributedTo home q.contributions.reverse ≠ [] := by
        intro hnil
        refine hne (Std.ExtTreeSet.eq_empty_iff_forall_not_mem.mpr fun symbol hsymbol => ?_)
        obtain ⟨wide, hwide, -⟩ := hearlier symbol hsymbol
        exact List.ne_nil_of_mem hwide hnil
      rw [if_pos rfl]
      show contributedTo home q.contributions.reverse ++ [.hidden hidden] ≠ [] ∧
        record = .ofContributions home (_ ++ [.hidden hidden]) ↔ _
      rw [UnitRecord.ofContributions_append_hidden home hearlier]
      exact and_congr_left fun _ => iff_of_true (by simp) hopen
    · rw [if_neg hname]
      show contributedTo name q.contributions.reverse ++ [] ≠ [] ∧
        record = .ofContributions name (_ ++ []) ↔ _
      rw [List.append_nil]

/-- The visit of a declaration that marks only what has been contributed before
    leaves what is known as it is. -/
theorem holdsSame_of_marks (hkind : n.kind? = some .declaration)
    (hvisit : q.visit setting n = .ok q')
    (hcovered : ∀ home symbol, q.Marks setting n home symbol → ∃ wide,
      (home, .hidden wide) ∈ q.contributions ∧ symbol ∈ wide) :
    q.survey.HoldsSame q'.survey := by
  obtain ⟨-, hfound⟩ := (visit_declaration_eq_ok_iff hkind).mp hvisit
  rcases hfound with ⟨-, rfl⟩ | ⟨hne, home, -, rfl⟩
  · exact ⟨rfl, rfl, fun _ => rfl⟩
  · exact holdsSame_contribute hne fun symbol hsymbol => hcovered home symbol ⟨_, hvisit, hsymbol⟩

/-! ## Two visits -/

/-- Let a declaration `d` stand in a declaration `o`, with no module or program
    between them.  If the visit of `o` succeeds, then so does that of `d` by
    any pass in the same unit, and marks nothing that the visit of `o` does not
    mark.  So a pass that comes from `o` to `d` finds out nothing new there:
    the units, the file and every record stay as they are. -/
theorem inner_declaration_marks_nothing_new {root : Node} (o : Place (descendants root))
    (d : Place (descendants o.node)) (ho : o.node.kind? = some .declaration)
    (hd : d.node.kind? = some .declaration) (hunits : ∀ u ∈ d.before, u.opensUnit = false) :
    (∃ inner : Place (descendants root),
      inner.before = o.before ++ d.before ∧ inner.node = d.node) ∧
    ∀ (setting : Setting) (p p₁ : Pass), p.visit setting o.node = .ok p₁ →
      (∀ q : Pass, q.opened = p.opened →
        (∃ q', q.visit setting d.node = .ok q') ∧
        ∀ home symbol, q.Marks setting d.node home symbol → p.Marks setting o.node home symbol) ∧
      (d.before ≠ [] → ∀ q, d.before.foldlM (visit setting) p = .ok q →
        q.opened = p.opened ∧
        ∃ q', q.visit setting d.node = .ok q' ∧ q'.opened = q.opened ∧
          q.survey.HoldsSame q'.survey) := by
  refine ⟨o.exists_outer d, fun setting p p₁ hvisit => ?_⟩
  obtain ⟨hnone, -⟩ := (visit_declaration_eq_ok_iff ho).mp hvisit
  have hlater : ∀ q : Pass, q.opened = p.opened →
      (∃ q', q.visit setting d.node = .ok q') ∧
      ∀ home symbol, q.Marks setting d.node home symbol → p.Marks setting o.node home symbol := by
    intro q hopened
    have hinner : Faultless (ScanFaultAt (q.IsHoused setting)) (descendants d.node) := by
      rw [IsHoused, hopened]
      exact faultless_inner hnone d
    refine ⟨exists_visit_declaration hd hinner, fun home symbol hmarks => ?_⟩
    obtain ⟨-, hhome, hsymbol⟩ := (marks_declaration_iff hd).mp hmarks
    rw [home_congr hopened] at hhome
    exact (marks_declaration_iff ho).mpr ⟨hnone, hhome, hiddenSymbols_inner d hsymbol⟩
  refine ⟨hlater, fun hbelow q hrun => ?_⟩
  have hopened : q.opened = p.opened := opened_of_run hunits hrun
  obtain ⟨⟨q', hvisit'⟩, hmarks⟩ := hlater q hopened
  have hunit : d.node.opensUnit = false := by simp [Node.opensUnit, hd]
  refine ⟨hopened, q', hvisit', (advances_of_visit hvisit').opened_eq hunit, ?_⟩
  -- the pass has visited `o`, and has kept what `o` contributed
  obtain ⟨between, hbetween⟩ := d.exists_before_eq_cons hbelow
  rw [hbetween, List.foldlM_cons, hvisit] at hrun
  have hextends : p₁.Extends q := extends_of_run hrun
  refine holdsSame_of_marks hd hvisit' fun home symbol hmarked => ?_
  obtain ⟨wide, hwide, hsymbol⟩ := hmarks home symbol hmarked
  obtain rfl := Except.ok.inj (hvisit.symm.trans hwide)
  exact ⟨wide, hextends.contributions.subset List.mem_cons_self, hsymbol⟩

/-- A declaration in a declaration, with a variable between them.  Each has a
    private marker of its own. -/
def sampleNest : Node :=
  let node := fun (kind : NodeKind) attrs children => Node.mk kind.tag (.ofList attrs) children
  let marker := node .accessSpec [("keyword", "PRIVATE")] []
  let name := fun id => node .name [("id", id)] []
  { tag := "project"
    children :=
      [node .module [("name", "Base")]
        [node .declaration []
          [marker, name "Low", node .variable [("name", "Mid")] [],
            node .declaration [] [name "Mid", marker, name "High"], name "Top"]]] }

/-- The inner declaration contributes a name, and no record shows it. -/
theorem inner_declaration_marks_nothing_new_sampleNest :
    let setting : Setting := ⟨"src", none⟩
    ∃ (o : Place (descendants sampleNest)) (d : Place (descendants o.node)) (p q q' : Pass),
      o.node.kind? = some .declaration ∧ d.node.kind? = some .declaration ∧
      o.before.foldlM (visit setting) {} = .ok p ∧
      d.before.foldlM (visit setting) p = .ok q ∧ q.visit setting d.node = .ok q' ∧
      q.contributions.length = 2 ∧ q'.contributions.length = 3 ∧ q.survey.HoldsSame q'.survey := by
  intro setting
  let o : Place (descendants sampleNest) := .nth _ 2 (by decide +kernel)
  let d : Place (descendants o.node) := .nth _ 4 (by decide +kernel)
  have ho : o.node.kind? = some .declaration := by decide +kernel
  have hd : d.node.kind? = some .declaration := by decide +kernel
  have hlengths : (do
      let p ← o.before.foldlM (visit setting) {}
      let _ ← p.visit setting o.node
      let q ← d.before.foldlM (visit setting) p
      let q' ← q.visit setting d.node
      return (q.contributions.length, q'.contributions.length)) = .ok (2, 3) := by
    decide +kernel
  simp only [bind_eq_ok, pure_eq_ok, Prod.mk.injEq] at hlengths
  obtain ⟨p, hp, p₁, hp₁, q, hq, q', hq', hbefore, hbehind⟩ := hlengths
  obtain ⟨-, hvisits⟩ := inner_declaration_marks_nothing_new o d ho hd (by decide +kernel)
  obtain ⟨-, hlater⟩ := hvisits setting p p₁ hp₁
  obtain ⟨-, q'', hq'', -, hsame⟩ := hlater (by decide +kernel) q hq
  obtain rfl := Except.ok.inj (hq'.symm.trans hq'')
  exact ⟨o, d, p, q, q', ho, hd, hp, hq, hq', hbefore, hbehind, hsame⟩

end Pass

end ModuleCatalog
