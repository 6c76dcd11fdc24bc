import ModuleCatalog.Proofs.Gap
import ModuleCatalog.Proofs.UseClauses

/-! # Units around a node

    A pass keeps the unit that was opened last and never goes back to the one
    before it.  What stands below a node stands together in document order, so
    for a node inside a unit this comes to the following: it belongs to the
    last unit that was opened inside its innermost unit ahead of it
    (`governor?_of_isLastUnitWithin`), and to the innermost unit itself if
    there is none (`governor?_of_forall_not_isLastUnitWithin`).  Nothing
    outside the innermost unit has a say in this (`governor?_of_before`). -/

namespace ModuleCatalog

/-! ## Ancestors -/

namespace Place

section positions

variable {ν : Type u} {nodes : List ν} {p q : Place nodes}

/-- One place stands ahead of another. -/
def Precedes (p q : Place nodes) : Prop := p.before.length < q.before.length

/-- A place is told from what stands before it. -/
theorem eq_of_length_before_eq (h : p.before.length = q.before.length) : p = q := by
  obtain ⟨before, n, behind, split⟩ := p
  obtain ⟨before', n', behind', split'⟩ := q
  obtain ⟨rfl, hrest⟩ := List.append_inj (split.symm.trans split') h
  obtain ⟨rfl, rfl⟩ := List.cons.inj hrest
  rfl

/-- What stands ahead of a place stands in the part before it. -/
theorem Precedes.exists_before (h : p.Precedes q) :
    ∃ between, q.before = p.before ++ p.node :: between := by
  obtain ⟨before, n, behind, split⟩ := p
  obtain ⟨before', n', behind', split'⟩ := q
  have hsplit : before ++ (n :: behind) = before' ++ (n' :: behind') := split.symm.trans split'
  rcases List.append_eq_append_iff.mp hsplit with ⟨rest, hbefore, hbehind⟩ | ⟨rest, hbefore, -⟩
  · cases rest with
    | nil =>
      -- then both places would be the same
      have hlength := congrArg List.length hbefore
      simp only [Precedes, List.append_nil] at h hlength
      omega
    | cons m between =>
      obtain ⟨rfl, -⟩ := List.cons.inj hbehind
      exact ⟨between, hbefore⟩
  · have hlength := congrArg List.length hbefore
    simp only [Precedes, List.length_append] at h hlength
    omega

/-- The places of a list are those of its numbers. -/
theorem forall_iff_forall_nth {P : Place nodes → Prop} :
    (∀ p, P p) ↔ ∀ i : Fin nodes.length, P (.nth nodes i i.isLt) := by
  constructor
  · intro h i
    exact h _
  · intro h p
    have hlength : p.before.length < nodes.length := by
      have hsplit := congrArg List.length p.split
      rw [List.length_append, List.length_cons] at hsplit
      omega
    have hsame : nth nodes p.before.length hlength = p :=
      eq_of_length_before_eq (List.length_take_of_le hlength.le)
    exact hsame ▸ h ⟨p.before.length, hlength⟩

instance {P : Place nodes → Prop} [DecidablePred P] : Decidable (∀ p, P p) :=
  decidable_of_iff' _ forall_iff_forall_nth

instance : Decidable (p.Precedes q) := inferInstanceAs (Decidable (_ < _))

end positions

variable {root : Node} {s u p : Place (descendants root)}

/-- The node at `s` stands around the node at `p`: the place `p` is one below
    the node, and not its own. -/
def Encloses (s p : Place (descendants root)) : Prop :=
  ∃ d : Place (descendants s.node), d.before ≠ [] ∧ p.before = s.before ++ d.before ∧
    p.node = d.node

/-- What stands between a node and one inside it stands inside it. -/
theorem Encloses.exists_between (h : s.Encloses p) :
    ∃ between, p.before = s.before ++ s.node :: between ∧
      ∀ {ahead : List Node} {m : Node} {rest : List Node}, between = ahead ++ m :: rest →
        ∃ u : Place (descendants root), u.before = s.before ++ s.node :: ahead ∧ u.node = m ∧
          s.Encloses u := by
  obtain ⟨d, hd, hbefore, -⟩ := h
  obtain ⟨between, hbetween⟩ := d.exists_before_eq_cons hd
  rw [hbetween] at hbefore
  refine ⟨between, hbefore, ?_⟩
  rintro ahead m rest rfl
  have hinner : descendants s.node =
      (s.node :: ahead) ++ m :: (rest ++ d.node :: d.behind) :=
    d.split.trans (by rw [hbetween]; simp)
  obtain ⟨u, hu, hnode⟩ := s.exists_outer ⟨s.node :: ahead, m, _, hinner⟩
  exact ⟨u, hu, hnode, ⟨s.node :: ahead, m, _, hinner⟩, by simp, hu, hnode⟩

theorem Encloses.precedes (h : s.Encloses p) : s.Precedes p := by
  obtain ⟨between, hbefore, -⟩ := h.exists_between
  rw [Precedes, hbefore]
  simp

/-- Of two places that enclose a third one, the first encloses the second. -/
theorem Encloses.of_precedes (hs : s.Encloses p) (hup : u.Precedes p) (hsu : s.Precedes u) :
    s.Encloses u := by
  obtain ⟨between, hbefore, hinner⟩ := hs.exists_between
  obtain ⟨rest, hrest⟩ := hup.exists_before
  obtain ⟨ahead, hahead⟩ := hsu.exists_before
  have hbetween : between = ahead ++ u.node :: rest := by
    rw [hahead, List.append_assoc, List.cons_append, hbefore] at hrest
    exact (List.cons.inj (List.append_cancel_left hrest)).2
  obtain ⟨u', hu', -, hencloses⟩ := hinner hbetween
  have hsame : u' = u := eq_of_length_before_eq (by rw [hu', hahead])
  rwa [← hsame]

/-- A node encloses what stands among the nodes of its own tree, itself
    apart. -/
theorem encloses_iff :
    s.Encloses p ↔ s.before.length < p.before.length ∧
      p.before.length < s.before.length + (descendants s.node).length := by
  constructor
  · intro h
    refine ⟨h.precedes, ?_⟩
    obtain ⟨d, -, hbefore, -⟩ := h
    have hlength := congrArg List.length d.split
    rw [List.length_append, List.length_cons] at hlength
    rw [hbefore, List.length_append, hlength]
    omega
  · intro h
    obtain ⟨hahead, hbelow⟩ := h
    obtain ⟨rest, hnodes⟩ := s.exists_descendants_eq
    have hindex : p.before.length - s.before.length < (descendants s.node).length := by omega
    obtain ⟨q, hq, hnode⟩ := s.exists_outer (.nth (descendants s.node) _ hindex)
    have hbefore : (nth (descendants s.node) _ hindex).before.length =
        p.before.length - s.before.length := List.length_take_of_le hindex.le
    have hsame : q = p := by
      refine eq_of_length_before_eq ?_
      rw [hq, List.length_append, hbefore]
      omega
    subst hsame
    refine ⟨_, ?_, hq, hnode⟩
    rw [← List.length_pos_iff, hbefore]
    omega

instance : Decidable (s.Encloses p) := decidable_of_iff' _ encloses_iff

/-! ## Units around a place -/

/-- The node at `s` is the innermost unit around the node at `p`. -/
structure IsInnermostUnit (s p : Place (descendants root)) : Prop where
  opens : s.node.opensUnit = true
  encloses : s.Encloses p
  innermost : ∀ u, u.node.opensUnit = true → u.Encloses p → ¬ s.Encloses u

/-- The node at `l` is the last unit that was opened inside the node at `s`
    ahead of the node at `p`. -/
structure IsLastUnitWithin (s l p : Place (descendants root)) : Prop where
  opens : l.node.opensUnit = true
  within : s.Encloses l
  ahead : l.Precedes p
  last : ∀ u, u.node.opensUnit = true → s.Encloses u → u.Precedes p → ¬ l.Precedes u

theorem isInnermostUnit_iff :
    s.IsInnermostUnit p ↔ s.node.opensUnit = true ∧ s.Encloses p ∧
      ∀ u, u.node.opensUnit = true → u.Encloses p → ¬ s.Encloses u :=
  ⟨fun h => ⟨h.opens, h.encloses, h.innermost⟩, fun h => ⟨h.1, h.2.1, h.2.2⟩⟩

theorem isLastUnitWithin_iff {l : Place (descendants root)} :
    s.IsLastUnitWithin l p ↔ l.node.opensUnit = true ∧ s.Encloses l ∧ l.Precedes p ∧
      ∀ u, u.node.opensUnit = true → s.Encloses u → u.Precedes p → ¬ l.Precedes u :=
  ⟨fun h => ⟨h.opens, h.within, h.ahead, h.last⟩, fun h => ⟨h.1, h.2.1, h.2.2.1, h.2.2.2⟩⟩

instance : Decidable (s.IsInnermostUnit p) := decidable_of_iff' _ isInnermostUnit_iff

instance {l : Place (descendants root)} : Decidable (s.IsLastUnitWithin l p) :=
  decidable_of_iff' _ isLastUnitWithin_iff

/-- Of the units around a node one is the innermost. -/
theorem exists_isInnermostUnit (hu : u.node.opensUnit = true) (h : u.Encloses p) :
    ∃ s, IsInnermostUnit s p := by
  -- a unit that is not the innermost has another one inside it, which is nearer to `p`
  induction hdistance : p.before.length - u.before.length using Nat.strong_induction_on
    generalizing u with
  | _ distance ih =>
    by_cases hinnermost : ∀ u', u'.node.opensUnit = true → u'.Encloses p → ¬ u.Encloses u'
    · exact ⟨u, hu, h, hinnermost⟩
    · push Not at hinnermost
      obtain ⟨u', hu', h', hbetween⟩ := hinnermost
      have hnear : u.before.length < u'.before.length := hbetween.precedes
      have hfar : u'.before.length < p.before.length := h'.precedes
      exact ih (p.before.length - u'.before.length) (by omega) hu' h' rfl

theorem IsInnermostUnit.unique {s' : Place (descendants root)} (h : s.IsInnermostUnit p)
    (h' : s'.IsInnermostUnit p) : s' = s := by
  have hnot : ¬ s.Precedes s' := fun hlt =>
    h.innermost s' h'.opens h'.encloses (h.encloses.of_precedes h'.encloses.precedes hlt)
  have hnot' : ¬ s'.Precedes s := fun hlt =>
    h'.innermost s h.opens h.encloses (h'.encloses.of_precedes h.encloses.precedes hlt)
  unfold Precedes at hnot hnot'
  exact eq_of_length_before_eq (by omega)

end Place

/-! ## Which unit governs -/

section governor

open Place

variable {root : Node} {s l p : Place (descendants root)}

/-- What a unit governs behind some nodes inside it. -/
theorem governor?_of_before {unit : Node} {ahead between : List Node}
    (hunit : unit.opensUnit = true) :
    governor? root (ahead ++ unit :: between) =
      ((lastUnit? between).getD unit).unitName? := by
  have hlast : lastUnit? (ahead ++ unit :: between) = some ((lastUnit? between).getD unit) := by
    rw [List.append_cons, lastUnit?_append, lastUnit?_append, lastUnit?_singleton, hunit,
      if_pos rfl]
    cases lastUnit? between <;> rfl
  rw [governor?, hlast]
  rfl

/-- The last unit opened inside an enclosing unit governs. -/
theorem governor?_of_isLastUnitWithin (hencloses : s.Encloses p) (h : s.IsLastUnitWithin l p) :
    governor? root p.before = l.node.unitName? := by
  obtain ⟨between, hbefore, hinner⟩ := hencloses.exists_between
  obtain ⟨ahead, hl⟩ := h.within.precedes.exists_before
  obtain ⟨rest, hrest⟩ := h.ahead.exists_before
  have hbetween : between = ahead ++ l.node :: rest := by
    rw [hl, List.append_assoc, List.cons_append, hbefore] at hrest
    exact (List.cons.inj (List.append_cancel_left hrest)).2
  -- a unit behind `l` would be a later one
  have hnone : lastUnit? rest = none := by
    refine lastUnit?_eq_none_iff.mpr fun u hu => ?_
    by_contra hunit
    obtain ⟨first, last, rfl⟩ := List.append_of_mem hu
    have hsplit : between = (ahead ++ l.node :: first) ++ u :: last := by
      rw [hbetween]
      simp
    obtain ⟨v, hv, rfl, hwithin⟩ := hinner hsplit
    refine h.last v (by simpa using hunit) hwithin ?_ ?_
    · rw [Precedes, hv, hbefore, hbetween]
      simp
    · rw [Precedes, hv, hl]
      simp
  rw [hrest, governor?_of_before h.opens, hnone]
  rfl

/-- Where units are among some nodes, one is the last. -/
theorem exists_last_unit {nodes : List Node} (h : lastUnit? nodes ≠ none) :
    ∃ first u last, nodes = first ++ u :: last ∧ u.opensUnit = true ∧
      ∀ v ∈ last, v.opensUnit = false := by
  induction nodes using List.reverseRecOn with
  | nil => exact absurd rfl h
  | append_singleton nodes n ih =>
    cases hn : n.opensUnit with
    | true => exact ⟨nodes, n, [], rfl, hn, by simp⟩
    | false =>
      rw [lastUnit?_append, lastUnit?_singleton, hn] at h
      obtain ⟨first, u, last, rfl, hu, hlast⟩ := ih h
      refine ⟨first, u, last ++ [n], by simp, hu, fun v hv => ?_⟩
      rcases List.mem_append.mp hv with hv | hv
      · exact hlast v hv
      · rw [List.mem_singleton.mp hv, hn]

/-- An enclosing unit governs if no unit was opened inside it. -/
theorem governor?_of_forall_not_isLastUnitWithin (hs : s.node.opensUnit = true)
    (hencloses : s.Encloses p) (h : ∀ l, ¬ s.IsLastUnitWithin l p) :
    governor? root p.before = s.node.unitName? := by
  obtain ⟨between, hbefore, hinner⟩ := hencloses.exists_between
  have hnone : lastUnit? between = none := by
    by_contra hsome
    obtain ⟨first, u, last, rfl, hu, hlast⟩ := exists_last_unit hsome
    obtain ⟨l, hl, rfl, hwithin⟩ := hinner rfl
    have hahead : l.Precedes p := by
      rw [Precedes, hl, hbefore]
      simp
    refine h l ⟨hu, hwithin, hahead, fun v hv _ hvp hlv => ?_⟩
    -- a unit between `l` and `p` would be among the nodes behind `l`
    obtain ⟨rest, hrest⟩ := hlv.exists_before
    obtain ⟨rest', hrest'⟩ := hvp.exists_before
    have hsplit : last = rest ++ v.node :: rest' := by
      rw [hrest, hl, hbefore] at hrest'
      simpa using hrest'
    have hvlast := hlast v.node (by simp [hsplit])
    rw [hvlast] at hv
    cases hv
  rw [hbefore, governor?_of_before hs, hnone]
  rfl

end governor

/-! ## Where contributions go -/

/-- Whether nodes of a kind may contribute something. -/
def NodeKind.contributes : NodeKind → Bool
  | .variable | .subroutine | .function | .declaration | .use => true
  | .program | .module | .file | .accessSpec | .only | .name => false

/-- Units do not contribute anything to the unit around them. -/
theorem Node.opensUnit_of_contributes {n : Node} {kind : NodeKind} (hkind : n.kind? = some kind)
    (hcontributes : kind.contributes = true) : n.opensUnit = false := by
  rw [← Bool.not_eq_true, opensUnit_iff, hkind, Option.some.injEq, Option.some.injEq]
  rintro (rfl | rfl)
  all_goals cases hcontributes

/-- A record shows what has been contributed to it. -/
def UnitRecord.Holds (record : UnitRecord) : Contribution → Prop
  | .variable symbol => symbol ∈ record.variableNames
  | .subprogram symbol => symbol ∈ record.subprograms
  | .hidden symbols => ∀ symbol ∈ symbols, symbol ∈ record.hidden
  | .use clause => clause ∈ record.uses

/-- A record shows all that it is made of. -/
theorem UnitRecord.holds_ofContributions {name : ModuleName} {contribution : Contribution}
    {contributions : List Contribution} (h : contribution ∈ contributions) :
    (ofContributions name contributions).Holds contribution := by
  match contribution with
  | .variable symbol => exact collects_variableNames.mem_ofContributions_iff.mpr ⟨_, h, rfl⟩
  | .subprogram symbol => exact collects_subprograms.mem_ofContributions_iff.mpr ⟨_, h, rfl⟩
  | .hidden symbols =>
    intro symbol hsymbol
    exact collects_hidden.mem_ofContributions_iff.mpr ⟨_, h, _, rfl, hsymbol⟩
  | .use clause =>
    rw [Holds, uses_ofContributions]
    exact List.mem_filterMap.mpr ⟨_, h, rfl⟩

namespace Place

variable {root : Node} {projectRoot : String} {name : ModuleName}

/-- What the node at `p` contributes goes to the unit `name`. -/
structure GoesTo (p : Place (descendants root)) (projectRoot : String) (name : ModuleName) :
    Prop where
  /-- A pass that comes to the node adds what the node contributes to `name`,
      and leaves everything else as it is. -/
  visit : ∃ entryPoint q, ModuleCatalog.entryPoint root = .ok entryPoint ∧
    p.before.foldlM (Pass.visit ⟨projectRoot, entryPoint⟩) {} = .ok q ∧
    q.visit ⟨projectRoot, entryPoint⟩ p.node =
      .ok (p.node.contribution?.elim q (q.contribute name))
  /-- In the end the record of `name` shows it. -/
  record : ∀ contribution, p.node.contribution? = some contribution →
    ∃ survey record, Survey.ofTree root projectRoot = .ok survey ∧
      survey.record? name = some record ∧ record.Holds contribution

variable {p : Place (descendants root)}

/-- What a node contributes goes to one unit only. -/
theorem GoesTo.unique {name' : ModuleName} (h : p.GoesTo projectRoot name)
    (h' : p.GoesTo projectRoot name') (hcontributes : p.node.contribution? ≠ none) :
    name' = name := by
  obtain ⟨entryPoint, q, hentry, hrun, hvisit⟩ := h.visit
  obtain ⟨entryPoint', q', hentry', hrun', hvisit'⟩ := h'.visit
  obtain rfl := Except.ok.inj (hentry.symm.trans hentry')
  obtain rfl := Except.ok.inj (hrun.symm.trans hrun')
  obtain ⟨contribution, hcontribution⟩ := Option.ne_none_iff_exists'.mp hcontributes
  rw [hcontribution] at hvisit hvisit'
  have hsame := congrArg Pass.contributions (Except.ok.inj (hvisit.symm.trans hvisit'))
  simp only [Option.elim_some, Pass.contribute, List.cons.injEq, Prod.mk.injEq] at hsame
  exact hsame.1.1.symm

/-- Contributions go to the unit that governs the place. -/
theorem goesTo_of_governor? {survey : Survey} {kind : NodeKind}
    (h : Survey.ofTree root projectRoot = .ok survey) (hkind : p.node.kind? = some kind)
    (hcontributes : kind.contributes = true) (hgoverned : governor? root p.before = some name) :
    p.GoesTo projectRoot name := by
  obtain ⟨hwell, rfl⟩ := Survey.ofTree_eq_ok_iff.mp h
  obtain ⟨hentry, hnone⟩ := Node.wellFormed_iff.mp hwell
  have hhome : homeBehind (root.firstProgram?.bind Node.unitName?) p.before = some name := by
    rw [← governor?_eq_homeBehind, hgoverned]
  constructor
  case visit =>
    have hrun := (Pass.reading projectRoot hentry).foldlM_eq_ok_iff.mpr ⟨hnone, rfl⟩
    rw [p.split, List.foldlM_append, bind_eq_ok] at hrun
    obtain ⟨q, hbefore, hrest⟩ := hrun
    obtain ⟨hahead, rfl⟩ := (Pass.reading projectRoot hentry).foldlM_eq_ok_iff.mp hbefore
    rw [List.foldlM_cons, bind_eq_ok] at hrest
    obtain ⟨q', hvisit, -⟩ := hrest
    refine ⟨_, _, entryPoint_eq_ok_iff.mpr ⟨hentry, rfl⟩, hbefore, hvisit.trans ?_⟩
    rw [(Pass.reading projectRoot hentry).eq_of_ok hahead hvisit]
    have hpath : p.node.filePath? = none := by
      refine Node.filePath?_of_kind? hkind ?_
      rintro rfl
      cases hcontributes
    cases hcontribution : p.node.contribution? with
    | some contribution =>
      exact congrArg _ (Pass.behind_append_of_contribution hcontribution hpath hhome)
    | none =>
      have hunit : p.node.opensUnit = false := Node.opensUnit_of_contributes hkind hcontributes
      exact congrArg _ (Pass.behind_append_of_idle hunit hcontribution hpath)
  case record =>
    intro contribution hcontribution
    have hmem : contribution ∈ contributedTo name
        (contributionsFrom (root.firstProgram?.bind Node.unitName?) (descendants root)) :=
      mem_contributedTo_iff.mpr (mem_contributionsFrom_iff.mpr ⟨p, hhome, hcontribution⟩)
    refine ⟨_, .ofContributions name _, h, ?_, UnitRecord.holds_ofContributions hmem⟩
    rw [Survey.record?, Survey.records_summary]
    exact RecordBook.find?_gather_reverse_eq_some_iff.mpr ⟨List.ne_nil_of_mem hmem, rfl⟩

/-- A node that contributes nothing goes wherever one likes. -/
theorem GoesTo.of_idle (h : p.GoesTo projectRoot name) (hidle : p.node.contribution? = none)
    (name' : ModuleName) : p.GoesTo projectRoot name' where
  visit := by simpa only [hidle, Option.elim_none] using h.visit
  record contribution hcontribution := by
    rw [hidle] at hcontribution
    cases hcontribution

/-- What the node at `p` contributes goes to the name that `unit` has. -/
def GoesToUnit (p : Place (descendants root)) (projectRoot : String) (unit : Node) : Prop :=
  ∃ name, unit.unitName? = some name ∧ p.GoesTo projectRoot name

/-- Contributions go to the unit whose name governs the place. -/
theorem goesToUnit_of_governor? {survey : Survey} {kind : NodeKind} {unit : Node}
    (h : Survey.ofTree root projectRoot = .ok survey) (hkind : p.node.kind? = some kind)
    (hcontributes : kind.contributes = true) (hmem : unit ∈ descendants root)
    (hunit : unit.opensUnit = true) (hgoverned : governor? root p.before = unit.unitName?) :
    p.GoesToUnit projectRoot unit := by
  obtain ⟨hwell, -⟩ := Survey.ofTree_eq_ok_iff.mp h
  have hname := hwell.unit_name unit hmem (Node.opensUnit_iff.mp hunit).symm
  obtain ⟨spelling, hname⟩ := Option.ne_none_iff_exists'.mp hname
  have hunitName : unit.unitName? = some (.ofSpelling spelling) := by
    rw [Node.unitName?_of_opensUnit hunit, hname, Option.map_some]
  exact ⟨_, hunitName, goesTo_of_governor? h hkind hcontributes (hgoverned.trans hunitName)⟩

/-- The nodes at `p` and `p'` are alike, and stand at the same place inside the
    nodes at `s` and `s'`, which are alike. -/
structure SameSpot {root' : Node} (s p : Place (descendants root))
    (s' p' : Place (descendants root')) : Prop where
  outer_eq : s'.node = s.node
  inner_eq : p'.node = p.node
  before_eq : ∃ between, p.before = s.before ++ between ∧ p'.before = s'.before ++ between

/-- What governs inside a unit is told from that unit alone. -/
theorem SameSpot.governor?_eq {root' : Node} {s : Place (descendants root)}
    {s' p' : Place (descendants root')} (h : SameSpot s p s' p') (hs : s.node.opensUnit = true)
    (hencloses : s.Encloses p) : governor? root' p'.before = governor? root p.before := by
  obtain ⟨between, hbefore, hbefore'⟩ := h.before_eq
  obtain ⟨inner, hinner, -⟩ := hencloses.exists_between
  obtain rfl := List.append_cancel_left (hbefore.symm.trans hinner)
  rw [hbefore, hbefore', governor?_of_before hs, governor?_of_before hs]

/-- At the same spot of the same unit contributions go to the same name, in
    whatever trees. -/
theorem SameSpot.goesTo {root' : Node} {projectRoot' : String} {survey survey' : Survey}
    {kind : NodeKind} {s : Place (descendants root)} {s' p' : Place (descendants root')}
    (hspot : SameSpot s p s' p') (h : Survey.ofTree root projectRoot = .ok survey)
    (h' : Survey.ofTree root' projectRoot' = .ok survey') (hkind : p.node.kind? = some kind)
    (hcontributes : kind.contributes = true) (hs : s.node.opensUnit = true)
    (hencloses : s.Encloses p) (hgoes : p.GoesTo projectRoot name) :
    p'.GoesTo projectRoot' name := by
  obtain ⟨ahead, hahead⟩ := hencloses.precedes.exists_before
  have hhoused : Housed root p.before := .inl ⟨s.node, by simp [hahead], hs⟩
  obtain ⟨home, hgoverned⟩ :=
    (Survey.ofTree_eq_ok_iff.mp h).1.exists_governor_of_housed hhoused
  have hgoes' : p'.GoesTo projectRoot' home :=
    goesTo_of_governor? h' (hspot.inner_eq ▸ hkind) hcontributes
      ((hspot.governor?_eq hs hencloses).trans hgoverned)
  by_cases hidle : p.node.contribution? = none
  · exact hgoes'.of_idle (hspot.inner_eq ▸ hidle) name
  · have hhome : p.GoesTo projectRoot home := goesTo_of_governor? h hkind hcontributes hgoverned
    exact hgoes.unique hhome hidle ▸ hgoes'

end Place

/-! ## Nodes inside a unit -/

namespace Survey

open Place

variable {root : Node} {projectRoot : String} {survey : Survey}

/-- Let a node that may contribute something stand inside some unit of a tree
    that has a survey.  Of the units around the node one is the innermost, and
    what the node contributes goes to the last unit opened inside that one
    ahead of the node, or to the innermost unit itself if there is none.  What
    else the tree holds has no say in this: in any other tree that has a
    survey, a node like it at the same spot of a unit like that goes to the
    same name.  Where no unit stands inside another one, the node goes to the
    unit around it. -/
theorem goesTo_enclosing_unit (h : ofTree root projectRoot = .ok survey)
    (p : Place (descendants root)) {kind : NodeKind} (hkind : p.node.kind? = some kind)
    (hcontributes : kind.contributes = true) {u : Place (descendants root)}
    (hu : u.node.opensUnit = true) (hinside : u.Encloses p) :
    (∃ s : Place (descendants root), s.IsInnermostUnit p ∧
      (∀ s' : Place (descendants root), s'.IsInnermostUnit p → s' = s) ∧
      (∀ l, s.IsLastUnitWithin l p → p.GoesToUnit projectRoot l.node) ∧
      ((∀ l, ¬ s.IsLastUnitWithin l p) → p.GoesToUnit projectRoot s.node) ∧
      ∀ (root' : Node) (projectRoot' : String) (survey' : Survey),
        ofTree root' projectRoot' = .ok survey' →
        ∀ s' p' : Place (descendants root'), SameSpot s p s' p' →
          ∀ name, p.GoesTo projectRoot name → p'.GoesTo projectRoot' name) ∧
    ((∀ outer inner : Place (descendants root), outer.node.opensUnit = true →
        inner.node.opensUnit = true → ¬ outer.Encloses inner) →
      p.GoesToUnit projectRoot u.node) ∧
    (p.node.contribution? ≠ none → ∀ name name', p.GoesTo projectRoot name →
      p.GoesTo projectRoot name' → name' = name) := by
  obtain ⟨s, hs⟩ := exists_isInnermostUnit hu hinside
  have hlast : ∀ l, s.IsLastUnitWithin l p → p.GoesToUnit projectRoot l.node := fun l hl =>
    goesToUnit_of_governor? h hkind hcontributes l.mem hl.opens
      (governor?_of_isLastUnitWithin hs.encloses hl)
  have hself : (∀ l, ¬ s.IsLastUnitWithin l p) → p.GoesToUnit projectRoot s.node := fun hnone =>
    goesToUnit_of_governor? h hkind hcontributes s.mem hs.opens
      (governor?_of_forall_not_isLastUnitWithin hs.opens hs.encloses hnone)
  refine ⟨⟨s, hs, fun s' hs' => hs.unique hs', hlast, hself, ?_⟩, ?_, ?_⟩
  · intro root' projectRoot' survey' h' s' p' hspot name hgoes
    exact hspot.goesTo h h' hkind hcontributes hs.opens hs.encloses hgoes
  · intro hapart
    obtain rfl : u = s :=
      hs.unique ⟨hu, hinside, fun inner hinner _ => hapart u inner hu hinner⟩
    exact hself fun l hl => hapart u l hu hl.opens hl.within
  · intro hcontribution name name' hgoes hgoes'
    exact hgoes.unique hgoes' hcontribution

/-- A module that is opened inside another one, behind a variable of that one
    and ahead of a second variable. -/
def sampleEnclosed : Node :=
  let node := fun (kind : NodeKind) attrs children => Node.mk kind.tag (.ofList attrs) children
  { tag := "project"
    children :=
      [node .module [("name", "Ahead")] [],
        node .module [("name", "Outer")]
          [node .variable [("name", "First")] [],
            { tag := "part", children := [node .module [("name", "Inner")] []] },
            { tag := "part", children := [node .variable [("name", "Second")] []] }]] }

/-- The first variable goes to the outer module and the second to the inner
    one, though both stand in the outer one only. -/
theorem goesTo_enclosing_unit_sampleEnclosed :
    ∃ (survey : Survey) (s first l second : Place (descendants sampleEnclosed)),
      ofTree sampleEnclosed "src" = .ok survey ∧
      first.node.attr? "name" = some "First" ∧ second.node.attr? "name" = some "Second" ∧
      s.IsInnermostUnit first ∧ s.IsInnermostUnit second ∧ s.IsLastUnitWithin l second ∧
      first.GoesTo "src" (.ofSpelling "Outer") ∧ second.GoesTo "src" (.ofSpelling "Inner") := by
  obtain ⟨survey, h⟩ :=
    exists_eq_ok_of_isOk (x := ofTree sampleEnclosed "src") (by decide +kernel)
  let s : Place (descendants sampleEnclosed) := .nth _ 2 (by decide +kernel)
  let first : Place (descendants sampleEnclosed) := .nth _ 3 (by decide +kernel)
  let l : Place (descendants sampleEnclosed) := .nth _ 5 (by decide +kernel)
  let second : Place (descendants sampleEnclosed) := .nth _ 7 (by decide +kernel)
  have hfirst : s.IsInnermostUnit first := by decide +kernel
  have hsecond : s.IsInnermostUnit second := by decide +kernel
  have hl : s.IsLastUnitWithin l second := by decide +kernel
  refine ⟨survey, s, first, l, second, h, by decide +kernel, by decide +kernel, hfirst, hsecond,
    hl, ?_, ?_⟩
  · have hkind : first.node.kind? = some .variable := by decide +kernel
    obtain ⟨⟨s', hs', -, -, hself, -⟩, -⟩ :=
      goesTo_enclosing_unit h first hkind rfl hfirst.opens hfirst.encloses
    obtain rfl := hfirst.unique hs'
    obtain ⟨name, hname, hgoes⟩ := hself (by decide +kernel)
    have houter : s.node.unitName? = some (.ofSpelling "Outer") := by decide +kernel
    obtain rfl := Option.some.inj (houter.symm.trans hname)
    exact hgoes
  · have hkind : second.node.kind? = some .variable := by decide +kernel
    obtain ⟨⟨s', hs', -, hlast, -, -⟩, -⟩ :=
      goesTo_enclosing_unit h second hkind rfl hsecond.opens hsecond.encloses
    obtain rfl := hsecond.unique hs'
    obtain ⟨name, hname, hgoes⟩ := hlast l hl
    have hinner : l.node.unitName? = some (.ofSpelling "Inner") := by decide +kernel
    obtain rfl := Option.some.inj (hinner.symm.trans hname)
    exact hgoes

end Survey

end ModuleCatalog
