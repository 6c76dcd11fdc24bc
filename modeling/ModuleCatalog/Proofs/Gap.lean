import ModuleCatalog.Proofs.Likeness
import ModuleCatalog.Proofs.Place

/-! # Gaps in trees

    A gap in a tree is a place between the children of one of its nodes.
    Filled with some trees it gives a tree again, so two trees that differ at
    one place only are one gap filled twice.  Every node but the root fills a
    gap on its own (`Place.exists_gap`).

    The nodes around a gap read alike, whichever of two fillings is in it, if
    the fillings look alike to those of them that read more than themselves
    (`Gap.forall₂_readsAlike_ahead`). -/

namespace ModuleCatalog

/-- What holds of a node when it holds of all its children holds of every
    node. -/
theorem Node.induction {P : Node → Prop} (h : ∀ n : Node, (∀ c ∈ n.children, P c) → P n)
    (n : Node) : P n :=
  h n fun c _ => Node.induction h c
termination_by Branching.size n
decreasing_by exact Branching.size_lt_of_mem_children ‹_›

/-- If nodes that correspond have children that correspond, then all nodes of
    their trees do, in document order. -/
theorem Node.forall₂_descendants_of_children {R : Node → Node → Prop}
    (hchildren : ∀ n m, R n m → List.Forall₂ R n.children m.children) {n m : Node} (h : R n m) :
    List.Forall₂ R (descendants n) (descendants m) := by
  induction n using Node.induction generalizing m with
  | h n ih =>
    have hbelow : ∀ {ns ms : List Node}, List.Forall₂ R ns ms → (∀ c ∈ ns, c ∈ n.children) →
        List.Forall₂ R (ns.flatMap descendants) (ms.flatMap descendants) := by
      intro ns ms hnms
      induction hnms with
      | nil => exact fun _ => .nil
      | cons hcd _ ihs =>
        intro hmem
        rw [List.flatMap_cons, List.flatMap_cons]
        exact forall₂_append (ih _ (hmem _ List.mem_cons_self) hcd)
          (ihs fun c hc => hmem c (List.mem_cons_of_mem _ hc))
    rw [descendants_eq n, descendants_eq m]
    exact .cons h (hbelow (hchildren n m h) fun _ hc => hc)

/-- A node with a gap between its children. -/
structure Frame where
  tag : String
  attrs : Attributes := ∅
  /-- The children in front of the gap. -/
  left : List Node := []
  /-- The children behind the gap. -/
  right : List Node := []

/-- A place between the children of a node, seen from the root of the tree. -/
inductive Gap where
  /-- Between the children of the root. -/
  | child (root : Frame)
  /-- Somewhere below one of the children of the root. -/
  | inside (root : Frame) (inner : Gap)

namespace Frame

/-- The node with some trees in the gap. -/
def fill (f : Frame) (trees : List Node) : Node := ⟨f.tag, f.attrs, f.left ++ trees ++ f.right⟩

/-- The kind of the node. -/
def kind? (f : Frame) : Option NodeKind := NodeKind.ofTag? f.tag

variable (f : Frame) (trees : List Node)

theorem childrenOfKind_fill (kind : NodeKind) :
    (f.fill trees).childrenOfKind kind =
      f.left.filter (·.kind? == some kind) ++ trees.filter (·.kind? == some kind) ++
        f.right.filter (·.kind? == some kind) := by
  simp only [Node.childrenOfKind, fill, List.filter_append]

theorem descendants_fill :
    descendants (f.fill trees) =
      f.fill trees :: (f.left.flatMap descendants ++ trees.flatMap descendants ++
        f.right.flatMap descendants) := by
  rw [Node.descendants_eq]
  simp only [fill, List.flatMap_append]

end Frame

namespace Gap

/-- The tree with some trees in the gap. -/
def fill : Gap → List Node → Node
  | .child root, trees => root.fill trees
  | .inside root inner, trees => root.fill [inner.fill trees]

/-- The node whose child is missing. -/
def parent : Gap → Frame
  | .child root => root
  | .inside _ inner => inner.parent

/-- The nodes around the gap, from the root to the parent. -/
def frames : Gap → List Frame
  | .child root => [root]
  | .inside root inner => root :: inner.frames

/-- The nodes ahead of what fills the gap, in document order. -/
def ahead : Gap → List Node → List Node
  | .child root, trees => root.fill trees :: root.left.flatMap descendants
  | .inside root inner, trees =>
    root.fill [inner.fill trees] :: (root.left.flatMap descendants ++ inner.ahead trees)

/-- The nodes behind what fills the gap, in document order. -/
def behind : Gap → List Node
  | .child root => root.right.flatMap descendants
  | .inside root inner => inner.behind ++ root.right.flatMap descendants

/-- What fills a gap stands together in document order. -/
theorem descendants_fill (g : Gap) (trees : List Node) :
    descendants (g.fill trees) = g.ahead trees ++ trees.flatMap descendants ++ g.behind := by
  induction g with
  | child root => simp [fill, ahead, behind, Frame.descendants_fill]
  | inside root inner ih => simp [fill, ahead, behind, Frame.descendants_fill, ih]

end Gap

/-! ## The gap that a node fills -/

/-- The place of a node that fills a gap on its own. -/
def Gap.place (g : Gap) (u : Node) : Place (descendants (g.fill [u])) where
  before := g.ahead [u]
  node := u
  behind := u.children.flatMap descendants ++ g.behind
  split := by
    rw [g.descendants_fill, List.flatMap_singleton, Node.descendants_eq, List.append_assoc,
      List.cons_append]

namespace Place

/-- A place in the lists that are made of some items is one in the list that is
    made of one of them. -/
theorem exists_of_flatMap {α : Type u} {ν : Type v} {f : α → List ν} {xs : List α}
    (p : Place (xs.flatMap f)) :
    ∃ (q : Place xs) (r : Place (f q.node)),
      p.before = q.before.flatMap f ++ r.before ∧ p.node = r.node := by
  induction xs with
  | nil => exact p.elim_nil.elim
  | cons x xs ih =>
    obtain ⟨before, n, behind, split⟩ := p
    -- a place behind the list of `x` is one in the lists of the others
    have hlater : ∀ before', before = f x ++ before' → xs.flatMap f = before' ++ n :: behind →
        ∃ (q : Place (x :: xs)) (r : Place (f q.node)),
          before = q.before.flatMap f ++ r.before ∧ n = r.node := by
      intro before' hbefore hsplit
      obtain ⟨q, r, hq, hr⟩ := ih ⟨before', n, behind, hsplit⟩
      refine ⟨q.behindHead x, r, ?_, hr⟩
      show before = f x ++ q.before.flatMap f ++ r.before
      rw [hbefore, List.append_assoc, ← hq]
    rw [List.flatMap_cons, List.append_eq_append_iff] at split
    rcases split with ⟨before', hbefore, hsplit⟩ | ⟨rest, hsplit, hbehind⟩
    · exact hlater before' hbefore hsplit
    · cases rest with
      | nil => exact hlater [] (by simpa using hsplit.symm) (by simpa using hbehind.symm)
      | cons m rest =>
        obtain ⟨rfl, -⟩ := List.cons.inj hbehind
        exact ⟨⟨[], x, xs, rfl⟩, ⟨before, n, rest, hsplit⟩, rfl, rfl⟩

theorem node_eq_of_before_eq_nil {root : Node} (p : Place (descendants root))
    (hp : p.before = []) : p.node = root := by
  obtain ⟨before, n, behind, split⟩ := p
  cases hp
  rw [Node.descendants_eq] at split
  exact (List.cons.inj split).1.symm

/-- A place other than that of the root is a place below one of its children. -/
theorem exists_child {root : Node} (p : Place (descendants root)) (hp : p.before ≠ []) :
    ∃ (q : Place root.children) (r : Place (descendants q.node)),
      p.before = root :: (q.before.flatMap descendants ++ r.before) ∧ p.node = r.node := by
  obtain ⟨before, n, behind, split⟩ := p
  obtain ⟨m, before, rfl⟩ := List.exists_cons_of_ne_nil hp
  rw [Node.descendants_eq, List.cons_append] at split
  obtain ⟨hroot, hbelow⟩ := List.cons.inj split
  obtain ⟨q, r, hbefore, hnode⟩ := exists_of_flatMap ⟨before, n, behind, hbelow⟩
  refine ⟨q, r, ?_, hnode⟩
  dsimp only at hbefore ⊢
  rw [← hroot, hbefore]

/-- A node without one of its children. -/
def frame {n : Node} (q : Place n.children) : Frame := ⟨n.tag, n.attrs, q.before, q.behind⟩

theorem fill_frame {n : Node} (q : Place n.children) : q.frame.fill [q.node] = n := by
  obtain ⟨tag, attrs, children⟩ := n
  show (⟨tag, attrs, q.before ++ [q.node] ++ q.behind⟩ : Node) = ⟨tag, attrs, children⟩
  rw [List.append_assoc, List.singleton_append, ← q.split]

/-- Every node but the root of a tree fills a gap of the tree. -/
theorem exists_gap {root : Node} (p : Place (descendants root)) (hp : p.before ≠ []) :
    ∃ g : Gap, g.fill [p.node] = root ∧ g.ahead [p.node] = p.before := by
  induction root using Node.induction with
  | h root ih =>
    obtain ⟨q, r, hbefore, hnode⟩ := p.exists_child hp
    rw [hbefore, hnode]
    by_cases hr : r.before = []
    · -- the node is the child itself
      rw [r.node_eq_of_before_eq_nil hr, hr, List.append_nil]
      refine ⟨.child q.frame, q.fill_frame, ?_⟩
      rw [Gap.ahead, q.fill_frame]
      rfl
    · obtain ⟨g, hfill, hahead⟩ := ih q.node q.mem r hr
      refine ⟨.inside q.frame g, ?_, ?_⟩
      · rw [Gap.fill, hfill, q.fill_frame]
      · rw [Gap.ahead, hfill, hahead, q.fill_frame]
        rfl

end Place

/-! ## Places in a subtree -/

namespace Place

variable {root : Node}

/-- A node and what stands below it stand together in document order. -/
theorem exists_descendants_eq (o : Place (descendants root)) :
    ∃ rest, descendants root = o.before ++ descendants o.node ++ rest := by
  by_cases ho : o.before = []
  · refine ⟨[], ?_⟩
    rw [o.node_eq_of_before_eq_nil ho, ho, List.nil_append, List.append_nil]
  · obtain ⟨g, hfill, hahead⟩ := o.exists_gap ho
    have hnodes := g.descendants_fill [o.node]
    rw [hfill, hahead, List.flatMap_singleton] at hnodes
    exact ⟨g.behind, hnodes⟩

/-- A place below a node is a place of the whole tree. -/
theorem exists_outer (o : Place (descendants root)) (d : Place (descendants o.node)) :
    ∃ p : Place (descendants root), p.before = o.before ++ d.before ∧ p.node = d.node := by
  obtain ⟨rest, hnodes⟩ := o.exists_descendants_eq
  refine ⟨⟨o.before ++ d.before, d.node, d.behind ++ rest, ?_⟩, rfl, rfl⟩
  calc descendants root
      = o.before ++ descendants o.node ++ rest := hnodes
    _ = o.before ++ (d.before ++ d.node :: d.behind) ++ rest := by rw [← d.split]
    _ = o.before ++ d.before ++ d.node :: (d.behind ++ rest) := by simp

/-- What stands ahead of a node below the root begins with the root. -/
theorem exists_before_eq_cons (d : Place (descendants root)) (hd : d.before ≠ []) :
    ∃ between, d.before = root :: between := by
  obtain ⟨q, r, hbefore, -⟩ := d.exists_child hd
  exact ⟨_, hbefore⟩

end Place

/-! ## Two fillings of one gap -/

/-- The nodes of some trees whose tag is a kind, in document order. -/
def knownNodesOf (trees : List Node) : List Node :=
  (trees.flatMap descendants).filter (·.kind?.isSome)

namespace Gap

variable {trees trees' : List Node}

/-- Two fillings of a gap can be exchanged without a node around the gap
    reading differently: they have the same known nodes, in case the gap is
    inside a declaration, and the same names for a list or use clause whose
    children they are. -/
structure Exchanges (g : Gap) (trees trees' : List Node) : Prop where
  scan : (∃ f ∈ g.frames, f.kind? = some .declaration) → knownNodesOf trees = knownNodesOf trees'
  items : g.parent.kind? = some .use →
    (trees.filter (·.kind? == some .only)).flatMap (·.childrenOfKind .name) =
      (trees'.filter (·.kind? == some .only)).flatMap (·.childrenOfKind .name)
  names : g.parent.kind? = some .only →
    trees.filter (·.kind? == some .name) = trees'.filter (·.kind? == some .name)

/-- The conditions are the same seen from further inside. -/
theorem Exchanges.inner {root : Frame} {inner : Gap}
    (h : (inside root inner).Exchanges trees trees') : inner.Exchanges trees trees' := by
  refine ⟨fun hdeclaration => h.scan ?_, h.items, h.names⟩
  obtain ⟨f, hf, hkind⟩ := hdeclaration
  exact ⟨f, List.mem_cons_of_mem root hf, hkind⟩

/-- The root of a tree with a gap is a node around the gap. -/
theorem exists_frame_of_kind?_fill {g : Gap} {kind : NodeKind}
    (h : (g.fill trees).kind? = some kind) : ∃ f ∈ g.frames, f.kind? = some kind := by
  cases g with
  | child root => exact ⟨root, List.mem_cons_self, h⟩
  | inside root inner => exact ⟨root, List.mem_cons_self, h⟩

theorem alike_fill (g : Gap) (trees trees' : List Node) :
    (g.fill trees).Alike (g.fill trees') := by
  cases g with
  | child root => exact ⟨rfl, fun _ _ => rfl, rfl⟩
  | inside root inner => exact ⟨rfl, fun _ _ => rfl, rfl⟩

/-- Asked on their own, the nodes ahead of a gap do not know what is in it. -/
theorem forall₂_alike_ahead (g : Gap) (trees trees' : List Node) :
    List.Forall₂ Node.Alike (g.ahead trees) (g.ahead trees') := by
  induction g with
  | child root => exact .cons ⟨rfl, fun _ _ => rfl, rfl⟩ (Node.forall₂_alike_refl _)
  | inside root inner ih =>
    exact .cons ⟨rfl, fun _ _ => rfl, rfl⟩ (forall₂_append (Node.forall₂_alike_refl _) ih)

theorem knownNodes_fill (g : Gap) (trees : List Node) :
    (g.fill trees).knownNodes =
      (g.ahead trees).filter (·.kind?.isSome) ++ knownNodesOf trees ++
        g.behind.filter (·.kind?.isSome) := by
  rw [Node.knownNodes, descendants_fill, List.filter_append, List.filter_append]
  rfl

theorem forall₂_alike_knownNodes (g : Gap) (hknown : knownNodesOf trees = knownNodesOf trees') :
    List.Forall₂ Node.Alike (g.fill trees).knownNodes (g.fill trees').knownNodes := by
  rw [knownNodes_fill, knownNodes_fill, hknown]
  refine forall₂_append (forall₂_append ?_ (Node.forall₂_alike_refl _)) (Node.forall₂_alike_refl _)
  exact Node.forall₂_filter_kind (fun _ _ hnm => hnm.kind?_eq) (·.isSome)
    (g.forall₂_alike_ahead trees trees')

/-- One child that looks different leaves the others as they are. -/
theorem forall₂_alike_children (f : Frame) {n m : Node} (h : n.Alike m) :
    List.Forall₂ Node.Alike (f.fill [n]).children (f.fill [m]).children :=
  forall₂_append (forall₂_append (Node.forall₂_alike_refl _) (.cons h .nil))
    (Node.forall₂_alike_refl _)

theorem forall₂_alike_names {g : Gap} (h : g.Exchanges trees trees')
    (hkind : (g.fill trees).kind? = some .only) :
    List.Forall₂ Node.Alike ((g.fill trees).childrenOfKind .name)
      ((g.fill trees').childrenOfKind .name) := by
  cases g with
  | child root =>
    rw [fill, fill, Frame.childrenOfKind_fill, Frame.childrenOfKind_fill, h.names hkind]
    exact Node.forall₂_alike_refl _
  | inside root inner =>
    -- the gap is further down, so each child is still there
    exact Node.forall₂_filter_kind (fun _ _ hnm => hnm.kind?_eq) (· == some .name)
      (forall₂_alike_children root (inner.alike_fill trees trees'))

theorem onlyItems_fill (f : Frame) (trees : List Node) :
    (f.fill trees).onlyItems =
      (f.left.filter (·.kind? == some .only)).flatMap (·.childrenOfKind .name) ++
        (trees.filter (·.kind? == some .only)).flatMap (·.childrenOfKind .name) ++
        (f.right.filter (·.kind? == some .only)).flatMap (·.childrenOfKind .name) := by
  rw [Node.onlyItems, Frame.childrenOfKind_fill, List.flatMap_append, List.flatMap_append]

theorem forall₂_alike_items {g : Gap} (h : g.Exchanges trees trees')
    (hkind : (g.fill trees).kind? = some .use) :
    List.Forall₂ Node.Alike (g.fill trees).onlyItems (g.fill trees').onlyItems := by
  cases g with
  | child root =>
    rw [fill, fill, onlyItems_fill, onlyItems_fill, h.items hkind]
    exact Node.forall₂_alike_refl _
  | inside root inner =>
    have hinner : inner.Exchanges trees trees' := h.inner
    rw [fill, fill, onlyItems_fill, onlyItems_fill]
    refine forall₂_append (forall₂_append (Node.forall₂_alike_refl _) ?_)
      (Node.forall₂_alike_refl _)
    -- the child around the gap may itself be a list of names
    have hkind? := (inner.alike_fill trees trees').kind?_eq
    by_cases honly : (inner.fill trees).kind? = some .only
    · simpa [honly, ← hkind?] using forall₂_alike_names hinner honly
    · simp [honly, ← hkind?]

/-- What can be exchanged in a gap makes no difference to the nodes ahead of
    it. -/
theorem forall₂_readsAlike_ahead {g : Gap} (h : g.Exchanges trees trees') :
    List.Forall₂ Node.ReadsAlike (g.ahead trees) (g.ahead trees') := by
  -- the root of the tree reads alike, for it is ahead of its own gap
  have hroot : ∀ {g : Gap}, g.Exchanges trees trees' →
      (g.fill trees).ReadsAlike (g.fill trees') := by
    intro g h
    refine ⟨g.alike_fill trees trees', fun hkind => ?_, forall₂_alike_items h⟩
    exact g.forall₂_alike_knownNodes (h.scan (exists_frame_of_kind?_fill hkind))
  induction g with
  | child root => exact .cons (hroot h) (Node.forall₂_readsAlike_refl _)
  | inside root inner ih =>
    exact .cons (hroot h) (forall₂_append (Node.forall₂_readsAlike_refl _) (ih h.inner))

/-- Two fillings with the same known nodes that can be exchanged make trees
    that read alike. -/
theorem forall₂_readsAlike_knownNodes {g : Gap} (h : g.Exchanges trees trees')
    (hknown : knownNodesOf trees = knownNodesOf trees') :
    List.Forall₂ Node.ReadsAlike (g.fill trees).knownNodes (g.fill trees').knownNodes := by
  rw [knownNodes_fill, knownNodes_fill, hknown]
  refine forall₂_append (forall₂_append ?_ (Node.forall₂_readsAlike_refl _))
    (Node.forall₂_readsAlike_refl _)
  exact Node.forall₂_filter_kind (fun _ _ hnm => hnm.alike.kind?_eq) (·.isSome)
    (forall₂_readsAlike_ahead h)

end Gap

end ModuleCatalog
