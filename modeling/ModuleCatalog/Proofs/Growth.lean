import ModuleCatalog.Proofs.Imports
import ModuleCatalog.Proofs.Likeness

/-! # Growing trees

    A tree grows when one more child is put behind those of its root.  What was
    found out before stays found out, whatever the child holds: lists become
    longer at their ends and sets larger, and a symbol is withdrawn from the
    exports only if it is hidden now.

    The child may hold the first program of the tree, and so give a unit to
    nodes that were visited long before it.  To a pass that has missed no unit
    this makes no difference (`SameIfHoused`): all its nodes stay where they
    were.  A fault that is not a missing unit stays as well
    (`Catalog.ofTree_withChild`). -/

namespace ModuleCatalog

/-! ## Passes that go on -/

namespace Pass

variable {setting : Setting} {kind : NodeKind} {n : Node} {p q r : Pass}

/-- What the visit of a node can make of a pass. -/
inductive Advances (p : Pass) (n : Node) : Pass → Prop where
  /-- Nothing is told. -/
  | idle : Advances p n p
  /-- A unit is opened, and listed if it was not before. -/
  | unit (hunit : n.opensUnit = true) (name : ModuleName) :
      Advances p n { p with
        modules := if name ∈ p.modules then p.modules else p.modules ++ [name]
        opened := some name }
  /-- Something is contributed to a unit. -/
  | contribution (home : ModuleName) (contribution : Contribution) :
      Advances p n (p.contribute home contribution)
  /-- Something is learned of the source file. -/
  | file (file : SourceFile) : Advances p n { p with file }

theorem advances_of_enterUnit (hunit : n.opensUnit = true) (h : p.enterUnit kind n = .ok q) :
    p.Advances n q := by
  simp only [enterUnit, bind_eq_ok, pure_eq_ok] at h
  obtain ⟨name, -, rfl⟩ := h
  exact .unit hunit name

theorem advances_of_addNamed {contribution : String → Contribution}
    (h : p.addNamed setting kind n contribution = .ok q) : p.Advances n q := by
  unfold addNamed at h
  split at h
  · cases h
    exact .idle
  · simp only [bind_eq_ok, pure_eq_ok] at h
    obtain ⟨home, -, rfl⟩ := h
    exact .contribution home _

theorem advances_of_addDeclaration (h : p.addDeclaration setting n = .ok q) : p.Advances n q := by
  simp only [addDeclaration, bind_eq_ok] at h
  obtain ⟨hidden, -, h⟩ := h
  split at h
  · cases h
    exact .idle
  · simp only [bind_eq_ok, pure_eq_ok] at h
    obtain ⟨home, -, rfl⟩ := h
    exact .contribution home _

theorem advances_of_addUse (h : p.addUse setting n = .ok q) : p.Advances n q := by
  simp only [addUse, bind_eq_ok, pure_eq_ok] at h
  obtain ⟨target, -, names, -, home, -, rfl⟩ := h
  exact .contribution home _

theorem advances_of_addFile (h : p.addFile setting n = .ok q) : p.Advances n q := by
  simp only [addFile, bind_eq_ok, pure_eq_ok] at h
  obtain ⟨path, -, rfl⟩ := h
  exact .file _

/-- A visit does one of these things, if it succeeds. -/
theorem advances_of_visit (h : p.visit setting n = .ok q) : p.Advances n q := by
  unfold visit at h
  split at h
  case h_1 hkind => exact advances_of_enterUnit (Node.opensUnit_iff.mpr (.inl hkind)) h
  case h_2 hkind => exact advances_of_enterUnit (Node.opensUnit_iff.mpr (.inr hkind)) h
  case h_3 | h_4 | h_5 => exact advances_of_addNamed h
  case h_6 => exact advances_of_addDeclaration h
  case h_7 => exact advances_of_addUse h
  case h_8 => exact advances_of_addFile h
  -- the other kinds are passed over
  all_goals
    cases h
    exact .idle

/-- A pass has gone on to another one: units were listed at the end only, and
    all that was contributed is still there. -/
structure Extends (p q : Pass) : Prop where
  modules : p.modules <+: q.modules
  /-- The last contribution comes first. -/
  contributions : p.contributions <:+ q.contributions

theorem Extends.refl (p : Pass) : p.Extends p := ⟨List.prefix_rfl, List.suffix_rfl⟩

theorem Extends.trans (h : p.Extends q) (h' : q.Extends r) : p.Extends r :=
  ⟨h.modules.trans h'.modules, h.contributions.trans h'.contributions⟩

/-- A visit takes nothing back. -/
theorem Advances.extends (h : p.Advances n q) : p.Extends q := by
  cases h with
  | idle => exact .refl p
  | unit _ name =>
    refine ⟨?_, List.suffix_rfl⟩
    dsimp only
    split
    · exact List.prefix_rfl
    · exact List.prefix_append _ _
  | contribution home contribution => exact ⟨List.prefix_rfl, List.suffix_cons _ _⟩
  | file _ => exact ⟨List.prefix_rfl, List.suffix_rfl⟩

/-- Only modules and programs change the unit that a pass is in. -/
theorem Advances.opened_eq (h : p.Advances n q) (hunit : n.opensUnit = false) :
    q.opened = p.opened := by
  cases h with
  | unit hopens => simp [hunit] at hopens
  | _ => rfl

/-- A run takes nothing back. -/
theorem extends_of_run {nodes : List Node} (h : nodes.foldlM (visit setting) p = .ok q) :
    p.Extends q := by
  induction nodes generalizing p with
  | nil =>
    cases h
    exact .refl _
  | cons n nodes ih =>
    rw [List.foldlM_cons, bind_eq_ok] at h
    obtain ⟨p', hvisit, hrun⟩ := h
    exact (advances_of_visit hvisit).extends.trans (ih hrun)

/-- A run through nodes that open no unit stays in its unit. -/
theorem opened_of_run {nodes : List Node} (hunits : ∀ u ∈ nodes, u.opensUnit = false)
    (h : nodes.foldlM (visit setting) p = .ok q) : q.opened = p.opened := by
  induction nodes generalizing p with
  | nil =>
    cases h
    rfl
  | cons n nodes ih =>
    rw [List.foldlM_cons, bind_eq_ok] at h
    obtain ⟨p', hvisit, hrun⟩ := h
    have hlater : q.opened = p'.opened :=
      ih (fun u hu => hunits u (List.mem_cons_of_mem n hu)) hrun
    rw [hlater, (advances_of_visit hvisit).opened_eq (hunits n List.mem_cons_self)]

end Pass

/-! ## Surveys that grow -/

/-- A record holds the more, the more was contributed. -/
theorem Collects.mem_of_prefix {field : UnitRecord → SymbolSet}
    {adds : Contribution → String → Prop} (h : Collects field adds) {name : ModuleName}
    {contributions contributions' : List Contribution} (hbegins : contributions <+: contributions')
    {symbol : String} (hmem : symbol ∈ field (.ofContributions name contributions)) :
    symbol ∈ field (.ofContributions name contributions') := by
  obtain ⟨contribution, hcontribution, hadds⟩ := h.mem_ofContributions_iff.mp hmem
  exact h.mem_ofContributions_iff.mpr ⟨contribution, hbegins.subset hcontribution, hadds⟩

namespace Survey

/-- A survey finds all that another one finds, and perhaps more behind it. -/
structure Grows (s s' : Survey) : Prop where
  modules : s.modules <+: s'.modules
  variableNames : ∀ name, ∀ symbol ∈ (s.recordOf name).variableNames,
    symbol ∈ (s'.recordOf name).variableNames
  hidden : ∀ name, ∀ symbol ∈ (s.recordOf name).hidden, symbol ∈ (s'.recordOf name).hidden
  subprograms : ∀ name, ∀ symbol ∈ (s.recordOf name).subprograms,
    symbol ∈ (s'.recordOf name).subprograms
  uses : ∀ name, (s.recordOf name).uses <+: (s'.recordOf name).uses

theorem Grows.symbols {s s' : Survey} (h : s.Grows s') {name : ModuleName} {symbol : String}
    (hmem : symbol ∈ (s.recordOf name).symbols) :
    symbol ∈ (s'.recordOf name).symbols := by
  simp only [UnitRecord.symbols, Std.ExtTreeSet.mem_union_iff] at hmem ⊢
  obtain (hvariable | hhidden) | hsubprogram := hmem
  · exact .inl (.inl (h.variableNames name symbol hvariable))
  · exact .inl (.inr (h.hidden name symbol hhidden))
  · exact .inr (h.subprograms name symbol hsubprogram)

end Survey

/-- A pass that has gone on knows more. -/
theorem Pass.Extends.grows {p q : Pass} (h : p.Extends q) : p.survey.Grows q.survey := by
  have hcontributed : ∀ name, contributedTo name p.contributions.reverse <+:
      contributedTo name q.contributions.reverse := by
    intro name
    exact (List.reverse_prefix.mpr h.contributions).filterMap _
  have hcollects : ∀ {field : UnitRecord → SymbolSet} {adds : Contribution → String → Prop},
      Collects field adds → ∀ name, ∀ symbol ∈ field (p.survey.recordOf name),
        symbol ∈ field (q.survey.recordOf name) := by
    intro field adds hfield name symbol hmem
    rw [recordOf_survey] at hmem ⊢
    exact hfield.mem_of_prefix (hcontributed name) hmem
  constructor
  case modules => exact h.modules
  case variableNames => exact hcollects collects_variableNames
  case hidden => exact hcollects collects_hidden
  case subprograms => exact hcollects collects_subprograms
  case uses =>
    intro name
    rw [recordOf_survey, recordOf_survey, UnitRecord.uses_ofContributions,
      UnitRecord.uses_ofContributions]
    exact (hcontributed name).filterMap _

/-! ## Catalogs that grow -/

namespace Catalog

/-- A catalog tells all that another one tells, and perhaps more behind it.
    Only hiding can take a symbol back. -/
structure Grows (c c' : Catalog) : Prop where
  modules : c.modules <+: c'.modules
  variableNames : ∀ name : ModuleName, ∀ symbol ∈ c.variableNames[name]?.getD ∅,
    symbol ∈ c'.variableNames[name]?.getD ∅
  hidden : ∀ name : ModuleName, ∀ symbol ∈ c.hidden[name]?.getD ∅,
    symbol ∈ c'.hidden[name]?.getD ∅
  subprograms : ∀ name : ModuleName, ∀ symbol ∈ c.subprograms[name]?.getD ∅,
    symbol ∈ c'.subprograms[name]?.getD ∅
  symbols : ∀ name : ModuleName, ∀ symbol ∈ c.symbols[name]?.getD ∅,
    symbol ∈ c'.symbols[name]?.getD ∅
  uses : ∀ name : ModuleName, c.uses[name]?.getD [] <+: c'.uses[name]?.getD []
  /-- What an import brings in may change, but not where it comes from. -/
  targets : ∀ name : ModuleName,
    (c.imports[name]?.getD []).map Import.target <+: (c'.imports[name]?.getD []).map Import.target
  exports : ∀ name : ModuleName, ∀ symbol ∈ c.exports[name]?.getD ∅,
    symbol ∈ c'.exports[name]?.getD ∅ ∨ symbol ∈ c'.hidden[name]?.getD ∅

/-- Where a clause leads does not depend on what is exported there. -/
theorem map_target_resolveUse (exports exports' : SymbolTable) (clause : UseClause) :
    (Survey.resolveUse exports clause).map Import.target =
      (Survey.resolveUse exports' clause).map Import.target := by
  obtain ⟨target, selection⟩ := clause
  cases selection with
  | everything => rfl
  | only names => rfl

variable {s s' : Survey}

/-- The targets of the imports of a unit are told from its use clauses. -/
theorem map_target_imports_ofSurvey (s : Survey) (name : ModuleName) :
    ((ofSurvey s).imports[name]?.getD []).map Import.target =
      (s.recordOf name).uses.filterMap fun clause =>
        (Survey.resolveUse ∅ clause).map Import.target := by
  rw [getElem?_imports_ofSurvey, Survey.getD_nonempty?, List.map_filterMap]
  simp only [map_target_resolveUse (ofSurvey s).exports ∅]

/-- Surveys that grow have catalogs that do. -/
theorem grows_ofSurvey (h : s.Grows s') : (ofSurvey s).Grows (ofSurvey s') := by
  have hlisted : ∀ {name : ModuleName}, name ∈ s.modules → name ∈ s'.modules :=
    fun hname => h.modules.subset hname
  have hrow : ∀ {sort : UnitRecord → SymbolSet}, (∀ name, sort { name } = ∅) →
      (∀ name, ∀ symbol ∈ sort (s.recordOf name), symbol ∈ sort (s'.recordOf name)) →
      ∀ name : ModuleName,
        ∀ symbol ∈ (s.records.tabulate fun record => nonempty? (sort record))[name]?.getD ∅,
          symbol ∈ (s'.records.tabulate fun record => nonempty? (sort record))[name]?.getD ∅ := by
    intro sort hblank hsort name symbol hmem
    rw [Survey.getD_tabulate (hblank name)] at hmem ⊢
    exact hsort name symbol hmem
  constructor
  case modules => exact h.modules
  case variableNames => exact hrow (fun _ => rfl) h.variableNames
  case hidden => exact hrow (fun _ => rfl) h.hidden
  case subprograms => exact hrow (fun _ => rfl) h.subprograms
  case symbols =>
    intro name symbol hmem
    obtain ⟨hname, hmem⟩ := Survey.mem_getD_symbolTable_iff.mp hmem
    exact Survey.mem_getD_symbolTable_iff.mpr ⟨hlisted hname, h.symbols hmem⟩
  case uses =>
    intro name
    rw [getElem?_uses_ofSurvey, getElem?_uses_ofSurvey, Survey.getD_nonempty?,
      Survey.getD_nonempty?]
    exact h.uses name
  case targets =>
    intro name
    rw [map_target_imports_ofSurvey, map_target_imports_ofSurvey]
    exact (h.uses name).filterMap _
  case exports =>
    intro name symbol hmem
    obtain ⟨hname, hmem, -⟩ := Survey.mem_getD_exportTable_iff.mp hmem
    -- the symbol is still one of the unit, so only hiding can withdraw it
    by_cases hhidden : symbol ∈ (s'.recordOf name).hidden
    · refine .inr ?_
      show symbol ∈ (s'.records.tabulate fun record => nonempty? record.hidden)[name]?.getD ∅
      rwa [Survey.getD_tabulate rfl]
    · exact .inl (Survey.mem_getD_exportTable_iff.mpr ⟨hlisted hname, h.symbols hmem, hhidden⟩)

end Catalog

/-! ## Missing units -/

/-- Two computations come to the same, unless the first one misses a unit. -/
def SameIfHoused {α : Type} (x y : Except TreeFault α) : Prop :=
  x = y ∨ ∃ kind, x = .error (.unscoped kind)

namespace SameIfHoused

variable {α β σ : Type} {x y : Except TreeFault α}

theorem refl (x : Except TreeFault α) : SameIfHoused x x := .inl rfl

theorem bind {f g : α → Except TreeFault β} (h : SameIfHoused x y)
    (hnext : ∀ a, SameIfHoused (f a) (g a)) : SameIfHoused (x >>= f) (y >>= g) := by
  rcases h with rfl | ⟨kind, rfl⟩
  · cases x with
    | error fault => exact refl _
    | ok a => exact hnext a
  · exact .inr ⟨kind, rfl⟩

theorem map (f : α → β) (h : SameIfHoused x y) : SameIfHoused (f <$> x) (f <$> y) := by
  rcases h with rfl | ⟨kind, rfl⟩
  · exact refl _
  · exact .inr ⟨kind, rfl⟩

/-- Runs come to the same when their steps do. -/
theorem foldlM {ν : Type} {step step' : σ → ν → Except TreeFault σ}
    (hstep : ∀ s n, SameIfHoused (step s n) (step' s n)) (nodes : List ν) (s : σ) :
    SameIfHoused (nodes.foldlM step s) (nodes.foldlM step' s) := by
  induction nodes generalizing s with
  | nil => exact refl _
  | cons n nodes ih =>
    rw [List.foldlM_cons, List.foldlM_cons]
    exact (hstep s n).bind ih

theorem eq_ok_of_eq_ok {a : α} (h : SameIfHoused x y) (hx : x = .ok a) : y = .ok a := by
  rcases h with rfl | ⟨kind, rfl⟩
  · exact hx
  · cases hx

theorem eq_missingAttribute {kind : NodeKind} {key : String} (h : SameIfHoused x y)
    (hx : x = .error (.missingAttribute kind key)) :
    y = .error (.missingAttribute kind key) := by
  rcases h with rfl | ⟨kind, rfl⟩
  · exact hx
  · cases hx

end SameIfHoused

theorem Node.sameIfHoused_hiddenNames (n : Node) {home home' : Except TreeFault ModuleName}
    (hhome : SameIfHoused home home') :
    SameIfHoused (n.hiddenNames home) (n.hiddenNames home') := by
  refine .map _ (.foldlM (fun scan m => ?_) _ _)
  unfold DeclarationScan.read
  split
  · exact .refl _
  · split
    · exact .bind (.refl _) fun symbol => hhome.bind fun _ => .refl _
    · exact .refl _
  · exact .refl _

namespace Pass

/-- An entry point makes no difference where no unit is missed. -/
theorem sameIfHoused_visit (projectRoot : String) (entry' : Option ModuleName) (p : Pass)
    (n : Node) : SameIfHoused (p.visit ⟨projectRoot, none⟩ n) (p.visit ⟨projectRoot, entry'⟩ n) := by
  have hhome : ∀ kind,
      SameIfHoused (p.home ⟨projectRoot, none⟩ kind) (p.home ⟨projectRoot, entry'⟩ kind) := by
    intro kind
    unfold home
    cases p.opened with
    | none => exact .inr ⟨kind, rfl⟩
    | some name => exact .refl _
  have hnamed : ∀ (kind : NodeKind) (contribution : String → Contribution),
      SameIfHoused (p.addNamed ⟨projectRoot, none⟩ kind n contribution)
        (p.addNamed ⟨projectRoot, entry'⟩ kind n contribution) := by
    intro kind contribution
    unfold addNamed
    split
    · exact .refl _
    · exact (hhome kind).bind fun _ => .refl _
  unfold visit
  split
  case h_3 | h_4 | h_5 => exact hnamed _ _
  case h_6 =>
    refine (n.sameIfHoused_hiddenNames (hhome _)).bind fun hidden => ?_
    split
    · exact .refl _
    · exact (hhome _).bind fun _ => .refl _
  case h_7 =>
    exact .bind (.refl _) fun target => .bind (.refl _) fun names => (hhome _).bind fun _ => .refl _
  -- the other nodes belong to no unit
  all_goals exact .refl _

end Pass

/-! ## One more child -/

namespace Node

variable {root child : Node}

/-- A root that does not read its children reads alike with one more. -/
theorem readsAlike_withChild (huse : root.kind? ≠ some .use)
    (hdeclaration : root.kind? ≠ some .declaration) : (root.withChild child).ReadsAlike root where
  alike := ⟨rfl, fun _ _ => rfl, rfl⟩
  scan hkind := absurd hkind hdeclaration
  items hkind := absurd hkind huse

theorem descendants_withChild (root child : Node) :
    descendants (root.withChild child) =
      root.withChild child :: (root.children.flatMap descendants ++ descendants child) := by
  rw [descendants_eq]
  simp [withChild, withChildren]

/-- A pass through the grown tree goes on where one through the tree ends. -/
theorem run_withChild (huse : root.kind? ≠ some .use)
    (hdeclaration : root.kind? ≠ some .declaration) (setting : Setting) (p : Pass) :
    (descendants (root.withChild child)).foldlM (Pass.visit setting) p =
      (descendants root).foldlM (Pass.visit setting) p >>=
        (descendants child).foldlM (Pass.visit setting) := by
  have hhead : p.visit setting (root.withChild child) = p.visit setting root :=
    Pass.visit_eq_of_readsAlike (readsAlike_withChild huse hdeclaration) p
  rw [descendants_withChild, descendants_eq root, ← List.cons_append, List.foldlM_append,
    List.foldlM_cons, List.foldlM_cons, hhead]

/-- The first program of the grown tree is that of the tree, as it is now, or
    that of the child. -/
theorem firstProgram?_withChild (root child : Node) :
    (root.withChild child).firstProgram? =
      if root.kind? = some .program then some (root.withChild child)
      else root.firstProgram?.or child.firstProgram? := by
  unfold firstProgram?
  rw [descendants_withChild, descendants_eq root, List.find?_cons, List.find?_cons,
    List.find?_append]
  have hkind : (root.withChild child).kind? = root.kind? := rfl
  rw [hkind]
  by_cases hprogram : root.kind? = some .program
  · simp [hprogram]
  · have hno : (root.kind? == some .program) = false := by simp [hprogram]
    simp [hno, hprogram]

theorem firstProgram?_withChild_of_none (h : root.firstProgram? = none) :
    (root.withChild child).firstProgram? = child.firstProgram? := by
  have hkind : root.kind? ≠ some .program :=
    firstProgram?_eq_none_iff.mp h root (by rw [descendants_eq]; exact List.mem_cons_self)
  rw [firstProgram?_withChild, if_neg hkind, h, Option.none_or]

/-- If the tree has a program, the child does not change its entry point. -/
theorem entryPoint_withChild {program : Node} (h : root.firstProgram? = some program) :
    entryPoint (root.withChild child) = entryPoint root := by
  unfold entryPoint
  rw [← firstProgram?, ← firstProgram?, firstProgram?_withChild, h]
  by_cases hkind : root.kind? = some .program
  · -- the root has the same name with one more child
    have hroot : root.firstProgram? = some root := by
      rw [firstProgram?, descendants_eq, List.find?_cons, hkind]
      rfl
    obtain rfl := Option.some.inj (h.symm.trans hroot)
    rw [if_pos hkind]
    rfl
  · rw [if_neg hkind, Option.some_or]

end Node

namespace Survey

variable {root child : Node}

/-- When nothing is wrong with the entry point of the grown tree, nothing is
    wrong with that of the tree, and passes come to the same with both unless
    they miss a unit.  The entry point is still the same, or the tree had none
    and the child has brought one. -/
theorem exists_entryPoint_withChild (projectRoot : String) {entry' : Option ModuleName}
    (hentry' : entryPoint (root.withChild child) = .ok entry') :
    ∃ entry, entryPoint root = .ok entry ∧
      (∀ (nodes : List Node) (p : Pass),
        SameIfHoused (nodes.foldlM (Pass.visit ⟨projectRoot, entry⟩) p)
          (nodes.foldlM (Pass.visit ⟨projectRoot, entry'⟩) p)) ∧
      (entry = entry' ∨ root.firstProgram? = none ∧
        ∃ program, child.firstProgram? = some program ∧
          (root.withChild child).firstProgram? = some program) := by
  cases hprogram : root.firstProgram? with
  | some program =>
    rw [Node.entryPoint_withChild hprogram] at hentry'
    exact ⟨entry', hentry', fun nodes p => .refl _, .inl rfl⟩
  | none =>
    have hnone : entryPoint root = .ok none := by
      unfold entryPoint
      rw [← Node.firstProgram?, hprogram]
    refine ⟨none, hnone, fun nodes p => ?_, ?_⟩
    · exact .foldlM (Pass.sameIfHoused_visit projectRoot entry') nodes p
    · have hfirst : (root.withChild child).firstProgram? = child.firstProgram? :=
        Node.firstProgram?_withChild_of_none hprogram
      cases hchild : child.firstProgram? with
      | some program => exact .inr ⟨rfl, program, rfl, hfirst.trans hchild⟩
      | none =>
        rw [entryPoint_eq_ok_iff, hfirst, hchild] at hentry'
        exact .inl hentry'.2.symm

end Survey

namespace Catalog

/-- A root that is neither a use clause nor a declaration gets one more child.
    If the tree has a catalog before and after, then the catalog has grown.  An
    attribute that was missing is still the fault of the tree, unless the fault
    is now a first program without a name.  A unit that was missing is there
    only if the child holds the first program of the grown tree. -/
theorem ofTree_withChild (root child : Node) (projectRoot : String)
    (huse : root.kind? ≠ some .use) (hdeclaration : root.kind? ≠ some .declaration) :
    (∀ c c', ofTree root projectRoot = .ok c →
      ofTree (root.withChild child) projectRoot = .ok c' → c.Grows c') ∧
    (∀ kind key, ofTree root projectRoot = .error (.missingAttribute kind key) →
      ofTree (root.withChild child) projectRoot = .error (.missingAttribute kind key) ∨
      ofTree (root.withChild child) projectRoot = .error (.missingAttribute .program "name")) ∧
    ∀ kind c', ofTree root projectRoot = .error (.unscoped kind) →
      ofTree (root.withChild child) projectRoot = .ok c' →
      root.firstProgram? = none ∧
        ∃ program, child.firstProgram? = some program ∧
          (root.withChild child).firstProgram? = some program := by
  cases hentry' : entryPoint (root.withChild child) with
  | error fault =>
    -- the first program of the grown tree has no name
    obtain ⟨-, rfl⟩ := entryPoint_eq_error_iff.mp hentry'
    have hfault : ofTree (root.withChild child) projectRoot =
        .error (.missingAttribute .program "name") := by
      rw [ofTree, Survey.ofTree, hentry']
      rfl
    rw [hfault]
    refine ⟨?_, fun _ _ _ => .inr rfl, ?_⟩
    all_goals
      intro _ _ _ h'
      cases h'
  | ok entry' =>
    obtain ⟨entry, hentry, hsame, hcause⟩ :=
      Survey.exists_entryPoint_withChild projectRoot hentry'
    have hsame := hsame (descendants root) {}
    -- the pass through the grown tree goes on where the one through the tree ends
    rw [ofTree_of_entryPoint hentry, ofTree_of_entryPoint hentry',
      Node.run_withChild huse hdeclaration]
    simp only [map_eq_ok, map_eq_error]
    refine ⟨?_, ?_, ?_⟩
    · intro c c' h h'
      obtain ⟨p, hrun, rfl⟩ := h
      obtain ⟨q, hrun', rfl⟩ := h'
      rw [hsame.eq_ok_of_eq_ok hrun] at hrun'
      have hextends : p.Extends q := Pass.extends_of_run hrun'
      exact grows_ofSurvey hextends.grows
    · intro kind key hrun
      left
      rw [hsame.eq_missingAttribute hrun]
      rfl
    · intro kind c' hrun h'
      obtain ⟨q, hrun', -⟩ := h'
      rcases hcause with rfl | hbrought
      · -- with the same entry point the pass stops where it stopped before
        rw [hrun] at hrun'
        cases hrun'
      · exact hbrought

/-- A tree with a variable that belongs to no unit. -/
def sampleSeed : Node where
  tag := "project"
  children := [⟨NodeKind.tag .variable, .ofList [("name", "Seed")], []⟩]

/-- A program, with a name or without. -/
def sampleProgram (attrs : List (String × String)) : Node :=
  ⟨NodeKind.tag .program, .ofList attrs, []⟩

/-- A declaration that hides the variable. -/
def sampleVeil : Node where
  tag := NodeKind.tag .declaration
  children :=
    [⟨NodeKind.tag .accessSpec, .ofList [("keyword", "private")], []⟩,
      ⟨NodeKind.tag .name, .ofList [("id", "SEED")], []⟩]

/-- A program behind the variable gives it a unit, and a declaration behind
    both takes it back from the exports.  A program without a name is a fault
    that stays. -/
theorem ofTree_withChild_sampleSeed :
    (ofTree sampleSeed "src" = .error (.unscoped .variable) ∧
      ∃ program, (sampleProgram [("name", "Main")]).firstProgram? = some program) ∧
    (∃ c c', ofTree (sampleSeed.withChild (sampleProgram [("name", "Main")])) "src" = .ok c ∧
      ofTree ((sampleSeed.withChild (sampleProgram [("name", "Main")])).withChild sampleVeil)
        "src" = .ok c' ∧
      c.Grows c' ∧
      "seed" ∈ c.exports[ModuleName.ofSpelling "Main"]?.getD ∅ ∧
      "seed" ∈ c'.hidden[ModuleName.ofSpelling "Main"]?.getD ∅) ∧
    ofTree ((sampleSeed.withChild (sampleProgram [])).withChild sampleVeil) "src" =
      .error (.missingAttribute .program "name") := by
  let housed := sampleSeed.withChild (sampleProgram [("name", "Main")])
  obtain ⟨c, h⟩ := exists_eq_ok_of_isOk (x := ofTree housed "src") (by decide +kernel)
  obtain ⟨c', h'⟩ := exists_eq_ok_of_isOk (x := ofTree (housed.withChild sampleVeil) "src")
    (by decide +kernel)
  refine ⟨?_, ⟨c, c', h, h', ?_, ?_, ?_⟩, ?_⟩
  · have hseed : ofTree sampleSeed "src" = .error (.unscoped .variable) :=
      (map_eq_error (g := fun _ => ())).mp (by decide +kernel)
    obtain ⟨-, -, hbrought⟩ := ofTree_withChild sampleSeed (sampleProgram [("name", "Main")])
      "src" (by decide +kernel) (by decide +kernel)
    obtain ⟨-, program, hprogram, -⟩ := hbrought _ _ hseed h
    exact ⟨hseed, program, hprogram⟩
  · obtain ⟨hgrows, -, -⟩ := ofTree_withChild housed sampleVeil "src"
      (by decide +kernel) (by decide +kernel)
    exact hgrows c c' h h'
  · obtain ⟨-, rfl⟩ := ofTree_eq_ok_iff.mp h
    decide +kernel
  · obtain ⟨-, rfl⟩ := ofTree_eq_ok_iff.mp h'
    decide +kernel
  · have hunnamed : ofTree (sampleSeed.withChild (sampleProgram [])) "src" =
        .error (.missingAttribute .program "name") :=
      (map_eq_error (g := fun _ => ())).mp (by decide +kernel)
    obtain ⟨-, hmissing, -⟩ := ofTree_withChild (sampleSeed.withChild (sampleProgram []))
      sampleVeil "src" (by decide +kernel) (by decide +kernel)
    exact (hmissing _ _ hunnamed).elim id id

end Catalog

end ModuleCatalog
