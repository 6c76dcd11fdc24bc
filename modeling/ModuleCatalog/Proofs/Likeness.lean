import Mathlib.Data.List.Forall2
import ModuleCatalog.Catalog
import ModuleCatalog.Proofs.Attribute

/-! # What a pass reads of a tree

    A pass reads little of a node: its kind, its path, and the lower case of
    three other attributes (`Node.Alike`).  Of what stands below the node it
    reads something only if the node is a declaration or a use clause
    (`Node.ReadsAlike`).  Nodes whose tag is no kind are passed over.  So trees
    whose other nodes read alike, one by one in document order, have the same
    survey or the same fault (`Survey.ofTree_eq_of_readsAlike`). -/

namespace ModuleCatalog

/-! ## Reading lists in step -/

section lists

variable {ν : Type u} {σ : Type v} {ε : Type w} {R : ν → ν → Prop} {xs ys : List ν}

/-- What cannot be told apart by any step cannot be told apart by a run. -/
theorem foldlM_eq_of_forall₂ {step : σ → ν → Except ε σ} (h : List.Forall₂ R xs ys)
    (hstep : ∀ s x y, R x y → step s x = step s y) (s : σ) :
    xs.foldlM step s = ys.foldlM step s := by
  induction h generalizing s with
  | nil => rfl
  | cons hxy _ ih => simp only [List.foldlM_cons, hstep s _ _ hxy, ih]

/-- A run may leave out what each step passes over. -/
theorem foldlM_filter_of_idle {step : σ → ν → Except ε σ} {keep : ν → Bool}
    (hidle : ∀ s x, keep x = false → step s x = .ok s) (xs : List ν) (s : σ) :
    (xs.filter keep).foldlM step s = xs.foldlM step s := by
  have hstep : (fun s x => if keep x = true then step s x else pure s) = step := by
    funext s x
    cases hkeep : keep x with
    | false => exact (hidle s x hkeep).symm
    | true => rfl
  rw [List.foldlM_filter, hstep]

theorem forall₂_append {xs' ys' : List ν} (h : List.Forall₂ R xs ys)
    (h' : List.Forall₂ R xs' ys') : List.Forall₂ R (xs ++ xs') (ys ++ ys') :=
  List.rel_append h h'

end lists

/-! ## Nodes that read alike -/

namespace Node

/-- Of two lists in step, the nodes of some kinds are in step again, if nodes in
    step have the same kind. -/
theorem forall₂_filter_kind {R : Node → Node → Prop} {ns ms : List Node}
    (hkind : ∀ n m, R n m → n.kind? = m.kind?) (keep : Option NodeKind → Bool)
    (h : List.Forall₂ R ns ms) :
    List.Forall₂ R (ns.filter fun n => keep n.kind?) (ms.filter fun m => keep m.kind?) :=
  List.rel_filter (fun n m hnm => by simp only [hkind n m hnm]) h

/-- Two nodes give the same answers where a node is asked on its own: for its
    kind, for its path, and for the attributes of which only the lower case
    counts. -/
structure Alike (n m : Node) : Prop where
  kind?_eq : n.kind? = m.kind?
  lower_eq : ∀ key ∈ ["name", "id", "keyword"],
    (n.attr? key).map Text.lower = (m.attr? key).map Text.lower
  path_eq : n.attr? "path" = m.attr? "path"

/-- The nodes of a tree whose tag is a kind, in document order. -/
def knownNodes (n : Node) : List Node := (descendants n).filter (·.kind?.isSome)

/-- Two nodes read alike, and so does what is read with them: the whole of a
    declaration, and the names that a use clause is limited to. -/
structure ReadsAlike (n m : Node) : Prop where
  alike : n.Alike m
  scan : n.kind? = some .declaration → List.Forall₂ Alike n.knownNodes m.knownNodes
  items : n.kind? = some .use → List.Forall₂ Alike n.onlyItems m.onlyItems

variable {n m : Node}

theorem Alike.refl (n : Node) : n.Alike n := ⟨rfl, fun _ _ => rfl, rfl⟩

theorem forall₂_alike_refl (ns : List Node) : List.Forall₂ Alike ns ns :=
  List.forall₂_same.mpr fun n _ => .refl n

theorem ReadsAlike.refl (n : Node) : n.ReadsAlike n :=
  ⟨.refl n, fun _ => forall₂_alike_refl _, fun _ => forall₂_alike_refl _⟩

theorem forall₂_readsAlike_refl (ns : List Node) : List.Forall₂ ReadsAlike ns ns :=
  List.forall₂_same.mpr fun n _ => .refl n

/-! ## Reading single attributes -/

/-- What only looks at the lower case of an attribute does not tell two
    spellings apart. -/
theorem require_bind_eq {α : Type} {kind : NodeKind} {key : String}
    {read : String → Except TreeFault α}
    (h : (n.attr? key).map Text.lower = (m.attr? key).map Text.lower)
    (hread : ∀ s t, Text.lower s = Text.lower t → read s = read t) :
    (n.require kind key >>= read) = (m.require kind key >>= read) := by
  unfold require
  cases hn : n.attr? key with
  | none =>
    cases hm : m.attr? key with
    | none => rfl
    | some t => simp [hn, hm] at h
  | some s =>
    cases hm : m.attr? key with
    | none => simp [hn, hm] at h
    | some t =>
      have hlower : Text.lower s = Text.lower t := by simpa [hn, hm] using h
      exact hread s t hlower

theorem symbol_eq {kind : NodeKind} {key : String}
    (h : (n.attr? key).map Text.lower = (m.attr? key).map Text.lower) :
    n.symbol kind key = m.symbol kind key := by
  have hbind : ∀ n : Node, n.symbol kind key = n.require kind key >>= fun s => .ok (Text.lower s) := by
    intro n
    unfold symbol
    cases n.require kind key <;> rfl
  rw [hbind, hbind, require_bind_eq h fun s t hlower => by rw [hlower]]

theorem unitNamed_eq {kind : NodeKind}
    (h : (n.attr? "name").map Text.lower = (m.attr? "name").map Text.lower) :
    n.unitNamed kind = m.unitNamed kind := by
  rw [unitNamed, unitNamed, symbol_eq h]

theorem onlyNames_eq (h : List.Forall₂ Alike n.onlyItems m.onlyItems) :
    n.onlyNames = m.onlyNames := by
  show n.onlyItems.mapM _ = m.onlyItems.mapM _
  generalize n.onlyItems = xs at h
  generalize m.onlyItems = ys at h
  induction h with
  | nil => rfl
  | cons hxy _ ih =>
    simp only [List.mapM_cons, symbol_eq (hxy.lower_eq "id" (by simp)), ih]

/-! ## Reading declarations -/

theorem read_eq_of_alike {home : Except TreeFault ModuleName} (h : n.Alike m)
    (scan : DeclarationScan) : scan.read home n = scan.read home m := by
  unfold DeclarationScan.read
  rw [h.kind?_eq, symbol_eq (h.lower_eq "keyword" (by simp)),
    symbol_eq (h.lower_eq "id" (by simp))]

theorem read_of_unknown {home : Except TreeFault ModuleName} (scan : DeclarationScan)
    (h : n.kind?.isSome = false) : scan.read home n = .ok scan := by
  have hkind : n.kind? = none := by simpa using h
  simp only [DeclarationScan.read, hkind]

theorem hiddenNames_eq {home : Except TreeFault ModuleName}
    (h : List.Forall₂ Alike n.knownNodes m.knownNodes) :
    n.hiddenNames home = m.hiddenNames home := by
  have hknown : ∀ n : Node, n.hiddenNames home =
      DeclarationScan.hidden <$> n.knownNodes.foldlM (DeclarationScan.read home) {} := by
    intro n
    rw [knownNodes, foldlM_filter_of_idle fun scan _ => read_of_unknown scan]
    rfl
  rw [hknown, hknown, foldlM_eq_of_forall₂ h fun scan _ _ hxy => read_eq_of_alike hxy scan]

end Node

/-! ## Visiting nodes -/

namespace Pass

variable {setting : Setting} {n m : Node}

/-- A visit does not tell nodes apart that are alike, if what is read with them
    is the same. -/
theorem visit_eq_of_alike (h : n.Alike m)
    (hscan : n.kind? = some .declaration → ∀ home, n.hiddenNames home = m.hiddenNames home)
    (hitems : n.kind? = some .use → n.onlyNames = m.onlyNames) (p : Pass) :
    p.visit setting n = p.visit setting m := by
  have hname := h.lower_eq "name" (by simp)
  have henter : ∀ kind, p.enterUnit kind n = p.enterUnit kind m := by
    intro kind
    simp only [enterUnit, Node.unitNamed_eq hname]
  have hnamed : ∀ kind contribution,
      p.addNamed setting kind n contribution = p.addNamed setting kind m contribution := by
    intro kind contribution
    unfold addNamed
    cases hn : n.attr? "name" <;> cases hm : m.attr? "name" <;> simp_all
  unfold visit
  rw [← h.kind?_eq]
  split
  case h_1 | h_2 => exact henter _
  case h_3 | h_4 | h_5 => exact hnamed _ _
  case h_6 hkind =>
    simp only [addDeclaration, hscan hkind]
  case h_7 hkind =>
    simp only [addUse, Node.unitNamed_eq hname, hitems hkind]
  case h_8 => simp only [addFile, Node.require, h.path_eq]
  -- the other kinds are passed over
  all_goals rfl

/-- A visit does not tell nodes apart that read alike. -/
theorem visit_eq_of_readsAlike (h : n.ReadsAlike m) (p : Pass) :
    p.visit setting n = p.visit setting m :=
  visit_eq_of_alike h.alike (fun hkind _ => Node.hiddenNames_eq (h.scan hkind))
    (fun hkind => Node.onlyNames_eq (h.items hkind)) p

theorem visit_of_unknown (p : Pass) (h : n.kind?.isSome = false) : p.visit setting n = .ok p := by
  have hkind : n.kind? = none := by simpa using h
  simp only [visit, hkind]

end Pass

/-! ## Surveys -/

/-- The entry point is told from the programs of a tree. -/
theorem entryPoint_eq_of_alike {root root' : Node}
    (h : List.Forall₂ Node.Alike ((descendants root).filter (·.kind? == some .program))
      ((descendants root').filter (·.kind? == some .program))) :
    entryPoint root = entryPoint root' := by
  unfold entryPoint
  rw [← List.head?_filter, ← List.head?_filter]
  generalize (descendants root).filter _ = programs at h ⊢
  generalize (descendants root').filter _ = programs' at h ⊢
  cases h with
  | nil => rfl
  | cons hprogram _ =>
    simp only [List.head?_cons, Node.unitNamed_eq (hprogram.lower_eq "name" (by simp))]

namespace Survey

/-- Trees whose known nodes read alike have the same survey or the same fault. -/
theorem ofTree_eq_of_readsAlike {root root' : Node} (projectRoot : String)
    (h : List.Forall₂ Node.ReadsAlike root.knownNodes root'.knownNodes) :
    ofTree root projectRoot = ofTree root' projectRoot := by
  have hprograms : ∀ n : Node, (descendants n).filter (·.kind? == some .program) =
      n.knownNodes.filter (·.kind? == some .program) := by
    intro n
    rw [Node.knownNodes, List.filter_filter]
    refine List.filter_congr fun m _ => ?_
    cases m.kind? <;> simp
  have hentry : entryPoint root = entryPoint root' := by
    refine entryPoint_eq_of_alike ?_
    rw [hprograms, hprograms]
    exact Node.forall₂_filter_kind (fun _ _ hnm => hnm.kind?_eq) (· == some .program)
      (h.imp fun _ _ hnm => hnm.alike)
  have hknown : ∀ (n : Node) (setting : Setting),
      n.knownNodes.foldlM (Pass.visit setting) {} =
        (descendants n).foldlM (Pass.visit setting) {} :=
    fun n setting => foldlM_filter_of_idle (fun p _ => Pass.visit_of_unknown p) _ _
  unfold ofTree
  rw [hentry]
  simp only [← hknown, foldlM_eq_of_forall₂ h fun p _ _ hnm => Pass.visit_eq_of_readsAlike hnm p]

end Survey

namespace Catalog

variable {root : Node} {projectRoot : String}

/-- A catalog comes from a pass that reaches the end of the tree. -/
theorem ofTree_eq_ok_iff_run {c : Catalog} :
    ofTree root projectRoot = .ok c ↔
      ∃ entry, entryPoint root = .ok entry ∧
        ∃ p, (descendants root).foldlM (Pass.visit ⟨projectRoot, entry⟩) {} = .ok p ∧
          c = ofSurvey p.survey := by
  simp only [ofTree, Survey.ofTree, map_eq_ok, bind_eq_ok]
  constructor
  · intro h
    obtain ⟨_, ⟨entry, hentry, p, hrun, rfl⟩, rfl⟩ := h
    exact ⟨entry, hentry, p, hrun, rfl⟩
  · intro h
    obtain ⟨entry, hentry, p, hrun, rfl⟩ := h
    exact ⟨_, ⟨entry, hentry, p, hrun, rfl⟩, rfl⟩

/-- Once the entry point is known, all depends on the pass. -/
theorem ofTree_of_entryPoint {entry : Option ModuleName} (hentry : entryPoint root = .ok entry) :
    ofTree root projectRoot = (fun p => ofSurvey p.survey) <$>
      (descendants root).foldlM (Pass.visit ⟨projectRoot, entry⟩) {} := by
  rw [ofTree, Survey.ofTree, hentry]
  show ofSurvey <$> (Pass.survey <$> _) = _
  rw [Functor.map_map]

theorem ofTree_eq_of_readsAlike {root' : Node} (projectRoot : String)
    (h : List.Forall₂ Node.ReadsAlike root.knownNodes root'.knownNodes) :
    ofTree root projectRoot = ofTree root' projectRoot := by
  rw [ofTree, ofTree, Survey.ofTree_eq_of_readsAlike projectRoot h]

end Catalog

end ModuleCatalog
