import ModuleCatalog.Proofs.Earlier
import ModuleCatalog.Proofs.Gap
import ModuleCatalog.Proofs.Imports

/-! # Removing use clauses

    A use clause says what a unit brings in and nothing about what the unit
    declares.  So a tree may lose a use node: the catalog loses the clause of
    that node, with what it came to, and keeps everything else
    (`Catalog.ofTree_without_use`).

    The node must not stand inside a declaration, which would read the names in
    the lists of the clause as its own, and what stands below it must be read
    for the clause only. -/

namespace ModuleCatalog

/-! ## Visiting a use node -/

/-- A node that is read with some node above it, if at all. -/
def Node.IsPassedOver (n : Node) : Prop :=
  ∀ kind ∈ [NodeKind.module, .program, .variable, .subroutine, .function, .declaration, .use, .file],
    n.kind? ≠ some kind

instance (n : Node) : Decidable n.IsPassedOver :=
  inferInstanceAs (Decidable (∀ kind ∈ _, _))

namespace Pass

variable {setting : Setting} {n : Node} {p q : Pass}

theorem visit_of_isPassedOver (p : Pass) (h : n.IsPassedOver) : p.visit setting n = .ok p := by
  unfold visit
  split
  case h_1 hkind | h_2 hkind | h_3 hkind | h_4 hkind | h_5 hkind | h_6 hkind | h_7 hkind |
      h_8 hkind =>
    exact absurd hkind (h _ (by decide))
  all_goals rfl

theorem run_of_isPassedOver {nodes : List Node} (p : Pass) (h : ∀ n ∈ nodes, n.IsPassedOver) :
    nodes.foldlM (visit setting) p = .ok p := by
  induction nodes with
  | nil => rfl
  | cons n nodes ih =>
    rw [List.foldlM_cons, visit_of_isPassedOver p (h n List.mem_cons_self)]
    exact ih fun m hm => h m (List.mem_cons_of_mem n hm)

/-- A use node contributes the clause that it asks for, to the unit that it
    belongs to. -/
theorem exists_clause_of_visit (hkind : n.kind? = some .use) (h : p.visit setting n = .ok q) :
    ∃ home clause, p.home setting .use = .ok home ∧ n.Asks clause ∧
      q = p.contribute home (.use clause) := by
  simp only [visit, hkind, addUse, bind_eq_ok, Node.unitNamed_eq_ok_iff,
    Node.onlyNames_eq_ok_iff, pure_eq_ok] at h
  obtain ⟨_, ⟨target, htarget, rfl⟩, _, ⟨hids, rfl⟩, home, hhome, rfl⟩ := h
  exact ⟨home, _, hhome, Node.asks_of_onlyItems htarget hids, rfl⟩

end Pass

/-! ## Surveys without a clause -/

namespace Survey

/-- A survey finds what another one finds, but for one use clause of `home`. -/
structure Drops (s s' : Survey) (home : ModuleName) (before : List UseClause)
    (clause : UseClause) (behind : List UseClause) : Prop where
  file : s'.file = s.file
  modules : s'.modules = s.modules
  variableNames : ∀ name, (s'.recordOf name).variableNames = (s.recordOf name).variableNames
  hidden : ∀ name, (s'.recordOf name).hidden = (s.recordOf name).hidden
  subprograms : ∀ name, (s'.recordOf name).subprograms = (s.recordOf name).subprograms
  uses_other : ∀ name, name ≠ home → (s'.recordOf name).uses = (s.recordOf name).uses
  uses_with : (s.recordOf home).uses = before ++ clause :: behind
  uses_without : (s'.recordOf home).uses = before ++ behind

end Survey

/-- The use clauses that some contributions hold for a unit. -/
def useClausesFor (name : ModuleName) (contributions : List (ModuleName × Contribution)) :
    List UseClause :=
  (contributedTo name contributions).filterMap Contribution.useClause?

/-- A clause that a pass did not find in the middle of its way is all that its
    survey lacks in the end. -/
theorem Pass.drops_survey_onto (q : Pass) (home : ModuleName) (clause : UseClause)
    (earlier : List (ModuleName × Contribution)) :
    (q.onto ((home, .use clause) :: earlier)).survey.Drops (q.onto earlier).survey home
      (useClausesFor home earlier.reverse) clause
      (useClausesFor home q.contributions.reverse) := by
  have hwith : ∀ name,
      contributedTo name (q.onto ((home, .use clause) :: earlier)).contributions.reverse =
        contributedTo name earlier.reverse ++
          ((if home = name then [.use clause] else []) ++
            contributedTo name q.contributions.reverse) := by
    intro name
    rw [onto, List.reverse_append, List.reverse_cons, contributedTo_append, contributedTo_append,
      contributedTo_cons, List.append_assoc]
    rfl
  have hwithout : ∀ name, contributedTo name (q.onto earlier).contributions.reverse =
      contributedTo name earlier.reverse ++ contributedTo name q.contributions.reverse := by
    intro name
    rw [onto, List.reverse_append, contributedTo_append]
  have hcollects : ∀ {field : UnitRecord → SymbolSet} {adds : Contribution → String → Prop},
      Collects field adds → (∀ symbol, ¬ adds (.use clause) symbol) → ∀ name,
      field ((q.onto earlier).survey.recordOf name) =
        field ((q.onto ((home, .use clause) :: earlier)).survey.recordOf name) := by
    intro field adds hfield hnone name
    rw [recordOf_survey, recordOf_survey, hwith, hwithout]
    refine hfield.ofContributions_congr fun contribution symbol hadds => ?_
    have hne : contribution ≠ .use clause := by
      rintro rfl
      exact hnone symbol hadds
    by_cases hhome : home = name <;> simp [hhome, hne]
  constructor
  case file => rfl
  case modules => rfl
  case variableNames => exact hcollects collects_variableNames (by simp)
  case hidden => exact hcollects collects_hidden (by simp)
  case subprograms => exact hcollects collects_subprograms (by simp)
  case uses_other =>
    intro name hname
    rw [recordOf_survey, recordOf_survey, hwith, hwithout, if_neg (Ne.symm hname)]
    rfl
  case uses_with =>
    rw [recordOf_survey, UnitRecord.uses_ofContributions, hwith, if_pos rfl]
    simp [useClausesFor, Contribution.useClause?]
  case uses_without =>
    rw [recordOf_survey, UnitRecord.uses_ofContributions, hwithout, List.filterMap_append]
    rfl

/-! ## Catalogs without a clause -/

namespace Catalog

/-- A catalog tells what another one tells, but for one use clause of `home`
    and what this came to. -/
structure Drops (c c' : Catalog) (home : ModuleName) (before : List UseClause)
    (clause : UseClause) (behind : List UseClause) : Prop where
  file : c'.file = c.file
  modules : c'.modules = c.modules
  exports : c'.exports = c.exports
  hidden : c'.hidden = c.hidden
  variableNames : c'.variableNames = c.variableNames
  subprograms : c'.subprograms = c.subprograms
  symbols : c'.symbols = c.symbols
  other_rows : ∀ name : ModuleName, name ≠ home →
    c'.uses[name]? = c.uses[name]? ∧ c'.imports[name]? = c.imports[name]?
  uses_with : c.uses[home]? = some (before ++ clause :: behind)
  /-- Without other clauses the unit has no row. -/
  uses_without : c'.uses[home]? = Survey.nonempty? (before ++ behind)
  /-- The other clauses come to the same in both catalogs, for the exports are
      the same. -/
  imports : ∃ row own row', Resolves c.exports before row ∧ Resolves c.exports [clause] own ∧
    Resolves c.exports behind row' ∧
    c.imports[home]? = Survey.nonempty? (row ++ own ++ row') ∧
    c'.imports[home]? = Survey.nonempty? (row ++ row')

variable {s s' : Survey} {home : ModuleName} {before behind : List UseClause} {clause : UseClause}

/-- Surveys that lack a clause have catalogs that do. -/
theorem drops_ofSurvey (h : s.Drops s' home before clause behind) :
    (ofSurvey s).Drops (ofSurvey s') home before clause behind := by
  have hsymbols : s'.symbolTable = s.symbolTable := by
    refine Survey.symbolTable_congr (fun name => by rw [h.modules]) fun name => ?_
    simp only [UnitRecord.symbols, h.variableNames, h.hidden, h.subprograms]
  have hexports : (ofSurvey s').exports = (ofSurvey s).exports := by
    show s'.exportTable s'.symbolTable = s.exportTable s.symbolTable
    rw [hsymbols, Survey.exportTable_congr h.hidden]
  constructor
  case file => exact h.file
  case modules => exact h.modules
  case exports => exact hexports
  case hidden => exact Survey.tabulate_eq (fun _ => rfl) h.hidden
  case variableNames => exact Survey.tabulate_eq (fun _ => rfl) h.variableNames
  case subprograms => exact Survey.tabulate_eq (fun _ => rfl) h.subprograms
  case symbols => exact hsymbols
  case other_rows =>
    intro name hname
    rw [getElem?_uses_ofSurvey, getElem?_uses_ofSurvey, getElem?_imports_ofSurvey,
      getElem?_imports_ofSurvey, h.uses_other name hname, hexports]
    exact ⟨rfl, rfl⟩
  case uses_with =>
    rw [getElem?_uses_ofSurvey, h.uses_with, Survey.nonempty?_eq_some_iff]
    exact ⟨by simp, rfl⟩
  case uses_without => rw [getElem?_uses_ofSurvey, h.uses_without]
  case imports =>
    refine ⟨_, _, _, Survey.resolves_filterMap _ before, Survey.resolves_filterMap _ [clause],
      Survey.resolves_filterMap _ behind, ?_, ?_⟩
    · rw [getElem?_imports_ofSurvey, h.uses_with, ← List.filterMap_append, ← List.filterMap_append,
        List.append_assoc, List.singleton_append]
    · rw [getElem?_imports_ofSurvey, h.uses_without, hexports, ← List.filterMap_append]

end Catalog

/-! ## Trees without a use node -/

namespace Gap

variable {g : Gap} {u : Node}

/-- A use node can be exchanged for nothing where no declaration reads it. -/
theorem exchanges_use (huse : u.kind? = some .use)
    (hdeclaration : ∀ f ∈ g.frames, f.kind? ≠ some .declaration) : g.Exchanges [u] [] := by
  constructor
  case scan =>
    intro h
    obtain ⟨f, hf, hkind⟩ := h
    exact absurd hkind (hdeclaration f hf)
  case items => simp [huse]
  case names => simp [huse]

/-- The programs of a tree stay when a use node without programs goes. -/
theorem entryPoint_without_use (huse : u.kind? = some .use)
    (hbelow : ∀ n ∈ u.children.flatMap descendants, n.IsPassedOver) :
    entryPoint (g.fill [u]) = entryPoint (g.fill []) := by
  have hnone : ((descendants u).filter (·.kind? == some .program)) = [] := by
    rw [List.filter_eq_nil_iff, Node.descendants_eq]
    intro n hn hkind
    rcases List.mem_cons.mp hn with rfl | hn
    · simp [huse] at hkind
    · exact hbelow n hn .program (by simp) (by simpa using hkind)
  refine entryPoint_eq_of_alike ?_
  rw [descendants_fill, descendants_fill, List.filter_append, List.filter_append,
    List.filter_append, List.filter_append, List.flatMap_singleton, hnone]
  refine forall₂_append (forall₂_append ?_ .nil) (Node.forall₂_alike_refl _)
  exact Node.forall₂_filter_kind (fun _ _ hnm => hnm.kind?_eq) (· == some .program)
    (g.forall₂_alike_ahead [u] [])

end Gap

namespace Pass

variable {setting : Setting} {p : Pass}

/-- A pass through a tree with a use node, and one through the tree without it,
    differ in nothing but the clause that the node contributes. -/
theorem exists_run_without_use {g : Gap} {u : Node} (huse : u.kind? = some .use)
    (hdeclaration : ∀ f ∈ g.frames, f.kind? ≠ some .declaration)
    (hbelow : ∀ n ∈ u.children.flatMap descendants, n.IsPassedOver)
    (hrun : (descendants (g.fill [u])).foldlM (visit setting) {} = .ok p) :
    ∃ (p₁ q : Pass) (home : ModuleName) (clause : UseClause),
      (g.ahead [u]).foldlM (visit setting) {} = .ok p₁ ∧
      p₁.home setting .use = .ok home ∧ u.Asks clause ∧
      p = q.onto ((home, .use clause) :: p₁.contributions) ∧
      (descendants (g.fill [])).foldlM (visit setting) {} = .ok (q.onto p₁.contributions) := by
  -- the pass comes to the use node, visits it, and goes on behind it
  simp only [g.descendants_fill, List.foldlM_append, bind_eq_ok, List.flatMap_singleton,
    Node.descendants_eq u, List.foldlM_cons] at hrun
  obtain ⟨p₃, ⟨p₁, hahead, p₂, hvisit, hpassed⟩, hbehind⟩ := hrun
  obtain ⟨home, clause, hhome, hasks, rfl⟩ := exists_clause_of_visit huse hvisit
  rw [run_of_isPassedOver _ hbelow] at hpassed
  obtain rfl := Except.ok.inj hpassed
  -- behind the node both passes do what one without contributions would do
  let blank : Pass := { p₁ with contributions := [] }
  have hwith : p₁.contribute home (.use clause) =
      blank.onto ((home, .use clause) :: p₁.contributions) := rfl
  have hwithout : p₁ = blank.onto p₁.contributions := rfl
  rw [hwith, run_onto, map_eq_ok] at hbehind
  obtain ⟨q, hblank, rfl⟩ := hbehind
  refine ⟨p₁, q, home, clause, hahead, hhome, hasks, rfl, ?_⟩
  have hsame : (g.ahead []).foldlM (visit setting) {} = (g.ahead [u]).foldlM (visit setting) {} :=
    (foldlM_eq_of_forall₂
      (Gap.forall₂_readsAlike_ahead (Gap.exchanges_use huse hdeclaration))
      (fun p _ _ hnm => visit_eq_of_readsAlike hnm p) {}).symm
  rw [g.descendants_fill, List.flatMap_nil, List.append_nil, List.foldlM_append, hsame, hahead]
  show g.behind.foldlM (visit setting) p₁ = _
  rw [hwithout, run_onto, hblank]
  rfl

/-- A pass that has come to some place in a tree has gathered what is ahead of
    it, and belongs to the unit that governs there. -/
theorem home_eq_ok_iff_of_run {root : Node} {projectRoot : String} {entry : Option ModuleName}
    (hentry : entryPoint root = .ok entry) {nodes : List Node}
    (hrun : nodes.foldlM (visit ⟨projectRoot, entry⟩) {} = .ok p) :
    p.contributions.reverse =
        contributionsFrom (root.firstProgram?.bind Node.unitName?) nodes ∧
      ∀ kind home, p.home ⟨projectRoot, entry⟩ kind = .ok home ↔
        governor? root nodes = some home := by
  obtain ⟨hnamed, rfl⟩ := entryPoint_eq_ok_iff.mp hentry
  obtain ⟨hnone, rfl⟩ := (reading projectRoot hnamed).foldlM_eq_ok_iff.mp hrun
  refine ⟨List.reverse_reverse _, fun kind home => ?_⟩
  exact home_behind_eq_ok_iff (unitsNamed_of_faultless hnone)

end Pass

namespace Catalog

/-- Take a use node out of a tree with a catalog, if it is not the root, stands
    inside no declaration, and holds nothing that is visited for its own sake.
    The tree still has a catalog, which tells the same but for one clause: the
    one that the node asks for, in the row of the unit that governs the node,
    behind the clauses of the use nodes ahead of it.  The gaps meant here are
    all the places of a tree but that of its root. -/
theorem ofTree_without_use (projectRoot : String) :
    (∀ (root : Node) (p : Place (descendants root)), p.before ≠ [] →
      ∃ g : Gap, g.fill [p.node] = root ∧ g.ahead [p.node] = p.before) ∧
    ∀ (g : Gap) (u : Node) (c : Catalog), u.kind? = some .use →
      (∀ f ∈ g.frames, f.kind? ≠ some .declaration) →
      (∀ n ∈ u.children.flatMap descendants, n.IsPassedOver) →
      ofTree (g.fill [u]) projectRoot = .ok c →
      ∃ c' home before clause behind, ofTree (g.fill []) projectRoot = .ok c' ∧
        governor? (g.fill [u]) (g.ahead [u]) = some home ∧ u.Asks clause ∧
        List.Forall₂ (fun (p : Place (g.ahead [u])) asked => p.node.Asks asked)
          ((Place.all (g.ahead [u])).filter fun p =>
            p.node.kind? = some .use ∧ governor? (g.fill [u]) p.before = some home) before ∧
        c.Drops c' home before clause behind := by
  refine ⟨fun root p hp => p.exists_gap hp, ?_⟩
  intro g u c huse hdeclaration hbelow h
  obtain ⟨hwell, -⟩ := ofTree_eq_ok_iff.mp h
  obtain ⟨entry, hentry, p, hrun, rfl⟩ := ofTree_eq_ok_iff_run.mp h
  obtain ⟨p₁, q, home, clause, hahead, hhome, hasks, rfl, hrun'⟩ :=
    Pass.exists_run_without_use huse hdeclaration hbelow hrun
  obtain ⟨hgathered, hgoverned⟩ := Pass.home_eq_ok_iff_of_run hentry hahead
  have hentry' : entryPoint (g.fill []) = .ok entry :=
    (g.entryPoint_without_use huse hbelow).symm.trans hentry
  have hnodes : ∀ n ∈ g.ahead [u], n ∈ descendants (g.fill [u]) := by
    intro n hn
    rw [g.descendants_fill]
    exact List.mem_append_left _ (List.mem_append_left _ hn)
  refine ⟨_, home, _, clause, _, ofTree_eq_ok_iff_run.mpr ⟨entry, hentry', _, hrun', rfl⟩,
    (hgoverned _ _).mp hhome, hasks, ?_, drops_ofSurvey (q.drops_survey_onto ..)⟩
  rw [hgathered]
  exact forall₂_useClauses hwell hnodes home

/-- In a module that uses another one already, behind a module that declares
    something. -/
def sampleShelf : Gap :=
  let node := fun (kind : NodeKind) name children =>
    Node.mk kind.tag (.ofList [("name", name)]) children
  .inside { tag := "project", left := [node .module "Base" [node .variable "Origin" []]] } <|
    .child
      { tag := NodeKind.tag .module
        attrs := .ofList [("name", "Shapes")]
        left := [node .use "Limits" []]
        right := [node .function "Area" []] }

/-- A use node that is limited to two names. -/
def sampleUse : Node where
  tag := NodeKind.tag .use
  attrs := .ofList [("name", "Base")]
  children :=
    [{ tag := NodeKind.tag .only
       children :=
        [⟨NodeKind.tag .name, .ofList [("id", "Origin")], []⟩,
          ⟨NodeKind.tag .name, .ofList [("id", "Unit")], []⟩] }]

/-- The second clause of the module goes, and the first one stays. -/
theorem ofTree_without_use_sampleShelf :
    (∃ g : Gap, g.fill [sampleUse] = sampleShelf.fill [sampleUse] ∧
      (g.ahead [sampleUse]).length = 5) ∧
    ∃ c c' before clause behind, ofTree (sampleShelf.fill [sampleUse]) "src" = .ok c ∧
      ofTree (sampleShelf.fill []) "src" = .ok c' ∧
      c.Drops c' (.ofSpelling "Shapes") before clause behind ∧ before.length = 1 ∧
      clause.target = .ofSpelling "Base" := by
  obtain ⟨hplaces, hremoved⟩ := ofTree_without_use "src"
  constructor
  · obtain ⟨g, hfill, hahead⟩ := hplaces _ (sampleShelf.place sampleUse) (List.cons_ne_nil _ _)
    have hlength : (sampleShelf.ahead [sampleUse]).length = 5 := by decide +kernel
    exact ⟨g, hfill, (congrArg List.length hahead).trans hlength⟩
  · obtain ⟨c, h⟩ := exists_eq_ok_of_isOk (x := ofTree (sampleShelf.fill [sampleUse]) "src")
      (by decide +kernel)
    obtain ⟨c', home, before, clause, behind, h', hgoverned, hasks, hbefore, hdrops⟩ :=
      hremoved sampleShelf sampleUse c (by decide +kernel) (by decide +kernel) (by decide +kernel) h
    have hshapes : governor? (sampleShelf.fill [sampleUse]) (sampleShelf.ahead [sampleUse]) =
        some (.ofSpelling "Shapes") := by
      decide +kernel
    obtain rfl := Option.some.inj (hshapes.symm.trans hgoverned)
    refine ⟨c, c', before, clause, behind, h, h', hdrops, ?_, ?_⟩
    · rw [← hbefore.length_eq]
      decide +kernel
    · obtain ⟨spelling, hspelling, htarget⟩ := hasks.target
      have hbase : sampleUse.attr? "name" = some "Base" := by decide +kernel
      rw [htarget, Option.some.inj (hspelling.symm.trans hbase)]

end Catalog

end ModuleCatalog
