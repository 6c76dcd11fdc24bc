import Mathlib.Data.List.Forall2
import ModuleCatalog.Tree.Traversal

/-! # Walks on one stack

    A walk can keep what is still to come on a stack that lies in one array,
    with the next node at its end.  A call takes this node off, puts its
    children at the end, and turns round the part that they make up.  What was
    further down stays where it is.

    Read from its end, the stack is the work list of a `Walk`
    (`StackWalk.pending_next_cons`).  So the answers to the calls list the
    subtrees that lie on the stack one after the other
    (`StackWalk.answer_eq_getElem?`).

    Nothing is asked of the nodes but their children.  They may be handles into
    a tree that is kept elsewhere, and one handle may stand at several places.
    The places of a tree are told apart by addresses: from the root down, the
    number of the child, counted from zero (`nodeAt?`). -/

namespace ModuleCatalog

variable {ν : Type u}

/-! ## Walking -/

/-- The array with the items from a position on turned round. -/
def reverseFrom (items : Array ν) (start : Nat) : Array ν :=
  items.extract 0 start ++ (items.extract start items.size).reverse

/-- A walk through a tree, with the subtrees that are still to be visited. -/
structure StackWalk (ν : Type u) where
  /-- The next subtree comes last. -/
  stack : Array ν

namespace StackWalk

/-- The walk through the tree at `root`. -/
def start (root : ν) : StackWalk ν := ⟨#[root]⟩

/-- A call: the next node, if there is one, and the walk after it. -/
def next (childrenOf : ν → List ν) (w : StackWalk ν) : Option ν × StackWalk ν :=
  match w.stack.back? with
  | none => (none, w)
  | some n =>
    let rest := w.stack.pop
    (some n, ⟨reverseFrom (rest ++ childrenOf n) rest.size⟩)

/-- The answer to the call with a number, counted from zero. -/
def answer (childrenOf : ν → List ν) (w : StackWalk ν) : (number : Nat) → Option ν
  | 0 => (w.next childrenOf).1
  | number + 1 => (w.next childrenOf).2.answer childrenOf number

/-- What is still to be visited, next subtree first. -/
def pending (w : StackWalk ν) : List ν := w.stack.toList.reverse

end StackWalk

/-! ## What a walk has to list -/

/-- A tree is listed in order: its root, and then, child by child, what lists
    the subtrees of the children. -/
inductive ListsInOrder (childrenOf : ν → List ν) : ν → List ν → Prop where
  | node {n : ν} {below : List (List ν)}
      (hbelow : List.Forall₂ (ListsInOrder childrenOf) (childrenOf n) below) :
      ListsInOrder childrenOf n (n :: below.flatten)

/-- The node at an address. -/
def nodeAt? (childrenOf : ν → List ν) (root : ν) : (address : List Nat) → Option ν
  | [] => some root
  | number :: address => (childrenOf root)[number]?.bind fun child =>
    nodeAt? childrenOf child address

/-- The node at an address that begins with the number of a tree. -/
def nodeAmong? (childrenOf : ν → List ν) (trees : List ν) : (address : List Nat) → Option ν
  | [] => none
  | number :: address => trees[number]?.bind fun tree => nodeAt? childrenOf tree address

/-- The addresses of some nodes, as `at?` tells them: all there are, each of
    them once, and in the order of the nodes.  Of two addresses the one with
    the smaller number comes first where they part, and the shorter one if they
    do not. -/
structure Addresses (at? : List Nat → Option ν) (addresses : List (List Nat))
    (nodes : List ν) : Prop where
  ascending : addresses.Pairwise (· < ·)
  mem_iff : ∀ address, address ∈ addresses ↔ (at? address).isSome
  map_eq : addresses.map at? = nodes.map some

variable {childrenOf : ν → List ν}

namespace StackWalk

variable {w : StackWalk ν} {n : ν} {rest : List ν}

/-! ## One call -/

theorem pending_start (root : ν) : (start root).pending = [root] := rfl

theorem toList_reverseFrom (items : Array ν) (start : Nat) :
    (reverseFrom items start).toList =
      items.toList.take start ++ (items.toList.drop start).reverse := by
  have htake : (items.toList.drop start).take (items.size - start) = items.toList.drop start :=
    List.take_of_length_le (by simp)
  simp [reverseFrom, htake]

/-- Nothing comes of a walk that has nothing to visit. -/
theorem next_of_pending_eq_nil (h : w.pending = []) : w.next childrenOf = (none, w) := by
  have hback : w.stack.back? = none := by
    simpa [pending] using h
  rw [next, hback]

/-- The next node is the first one pending, and its children take its place. -/
theorem pending_next_cons (childrenOf : ν → List ν) (h : w.pending = n :: rest) :
    (w.next childrenOf).1 = some n ∧
      (w.next childrenOf).2.pending = childrenOf n ++ rest := by
  have hstack : w.stack.toList = rest.reverse ++ [n] := by
    rw [← List.reverse_reverse w.stack.toList]
    show w.pending.reverse = _
    rw [h, List.reverse_cons]
  have hback : w.stack.back? = some n := by
    rw [← Array.getLast?_toList, hstack, List.getLast?_concat]
  have hpop : w.stack.pop.toList = rest.reverse := by
    rw [Array.toList_pop, hstack, List.dropLast_concat]
  rw [next, hback]
  refine ⟨rfl, ?_⟩
  show (reverseFrom (w.stack.pop ++ childrenOf n) w.stack.pop.size).toList.reverse = _
  rw [toList_reverseFrom, Array.toList_appendList, ← Array.length_toList, List.take_left,
    List.drop_left, hpop, List.reverse_append, List.reverse_reverse, List.reverse_reverse]

/-! ## All calls -/

/-- A walk that has nothing to visit answers nothing for ever. -/
theorem answer_of_pending_eq_nil (h : w.pending = []) (number : Nat) :
    w.answer childrenOf number = none := by
  induction number with
  | zero => rw [answer, next_of_pending_eq_nil h]
  | succ number ih => rw [answer, next_of_pending_eq_nil h, ih]

/-- The answers to the calls list what is pending, one subtree after the
    other. -/
theorem answer_eq_getElem? {lists : List (List ν)}
    (h : List.Forall₂ (ListsInOrder childrenOf) w.pending lists) (number : Nat) :
    w.answer childrenOf number = lists.flatten[number]? := by
  generalize hpending : w.pending = pending at h
  induction number generalizing w pending lists with
  | zero =>
    cases h with
    | nil => exact answer_of_pending_eq_nil hpending 0
    | cons hn hrest =>
      obtain ⟨hbelow⟩ := hn
      exact (pending_next_cons childrenOf hpending).1
  | succ number ih =>
    cases h with
    | nil => exact answer_of_pending_eq_nil hpending (number + 1)
    | cons hn hrest =>
      -- the lists of the children come ahead of those of the others
      obtain ⟨hbelow⟩ := hn
      obtain ⟨-, hpending'⟩ := pending_next_cons childrenOf hpending
      rw [answer, ih _ hpending' (List.rel_append hbelow hrest)]
      simp

end StackWalk

/-! ## Addresses -/

namespace Addresses

variable {addresses : List (List Nat)} {trees nodes below : List ν} {n tree : ν}

/-- Below no trees there are no addresses. -/
theorem nil : Addresses (nodeAmong? childrenOf ([] : List ν)) [] [] where
  ascending := .nil
  mem_iff address := by cases address <;> simp [nodeAmong?]
  map_eq := rfl

/-- Every address among some trees begins with a number. -/
theorem exists_eq_cons (h : Addresses (nodeAmong? childrenOf trees) addresses nodes)
    {address : List Nat} (hmem : address ∈ addresses) :
    ∃ number inner, address = number :: inner := by
  cases address with
  | nil => simpa [nodeAmong?] using (h.mem_iff []).mp hmem
  | cons number inner => exact ⟨number, inner, rfl⟩

/-- What is the same at addresses that begin with a number is the same at all
    addresses among some trees. -/
theorem map_congr (h : Addresses (nodeAmong? childrenOf trees) addresses nodes)
    {at? at?' : List Nat → Option ν}
    (hsame : ∀ number inner, at? (number :: inner) = at?' (number :: inner)) :
    addresses.map at? = addresses.map at?' := by
  refine List.map_congr_left fun address hmem => ?_
  obtain ⟨number, inner, rfl⟩ := h.exists_eq_cons hmem
  exact hsame number inner

/-- One more tree ahead takes the number zero, and the others move on. -/
theorem cons {own others : List (List Nat)}
    (hown : Addresses (nodeAt? childrenOf tree) own nodes)
    (hothers : Addresses (nodeAmong? childrenOf trees) others below) :
    Addresses (nodeAmong? childrenOf (tree :: trees))
      (own.map (0 :: ·) ++ others.map (List.modifyHead (· + 1))) (nodes ++ below) := by
  constructor
  case ascending =>
    rw [List.pairwise_append, List.pairwise_map, List.pairwise_map]
    refine ⟨?_, ?_, ?_⟩
    · exact hown.ascending.imp List.cons_lt_cons_self.mpr
    · refine hothers.ascending.imp_of_mem ?_
      intro address address' hmem hmem' hlt
      obtain ⟨number, inner, rfl⟩ := hothers.exists_eq_cons hmem
      obtain ⟨number', inner', rfl⟩ := hothers.exists_eq_cons hmem'
      simpa [List.cons_lt_cons_iff] using hlt
    · intro address hmem address' hmem'
      obtain ⟨inner, -, rfl⟩ := List.mem_map.mp hmem
      obtain ⟨moved, hmoved, rfl⟩ := List.mem_map.mp hmem'
      obtain ⟨number, inner', rfl⟩ := hothers.exists_eq_cons hmoved
      exact List.cons_lt_cons_iff.mpr (.inl (Nat.succ_pos number))
  case mem_iff =>
    intro address
    rw [List.mem_append, List.mem_map, List.mem_map]
    constructor
    · intro h
      rcases h with ⟨inner, hmem, rfl⟩ | ⟨moved, hmem, rfl⟩
      · exact (hown.mem_iff inner).mp hmem
      · obtain ⟨number, inner, rfl⟩ := hothers.exists_eq_cons hmem
        exact (hothers.mem_iff (number :: inner)).mp hmem
    · intro h
      match address with
      | [] => cases h
      | 0 :: inner => exact .inl ⟨inner, (hown.mem_iff inner).mpr h, rfl⟩
      | (number + 1) :: inner =>
        exact .inr ⟨number :: inner, (hothers.mem_iff (number :: inner)).mpr h, rfl⟩
  case map_eq =>
    have hmoved : others.map (nodeAmong? childrenOf (tree :: trees) ∘ List.modifyHead (· + 1)) =
        others.map (nodeAmong? childrenOf trees) :=
      hothers.map_congr fun _ _ => rfl
    rw [List.map_append, List.map_map, List.map_map, hmoved, hothers.map_eq, List.map_append,
      ← hown.map_eq]
    rfl

/-- The root has the empty address, which comes ahead of all others. -/
theorem root (h : Addresses (nodeAmong? childrenOf (childrenOf n)) addresses below) :
    Addresses (nodeAt? childrenOf n) ([] :: addresses) (n :: below) := by
  constructor
  case ascending =>
    refine .cons (fun address hmem => ?_) h.ascending
    obtain ⟨number, inner, rfl⟩ := h.exists_eq_cons hmem
    exact List.nil_lt_cons number inner
  case mem_iff =>
    intro address
    cases address with
    | nil => exact iff_of_true List.mem_cons_self rfl
    | cons number inner =>
      have hne : number :: inner ≠ [] := List.cons_ne_nil number inner
      rw [List.mem_cons, or_iff_right hne]
      exact h.mem_iff (number :: inner)
  case map_eq =>
    have hbelow : addresses.map (nodeAt? childrenOf n) =
        addresses.map (nodeAmong? childrenOf (childrenOf n)) :=
      h.map_congr fun _ _ => rfl
    rw [List.map_cons, hbelow, h.map_eq]
    rfl

end Addresses

/-! ## Trees -/

/-- If each of some nodes has a list and addresses, then so have all of them
    together. -/
theorem exists_lists {trees : List ν}
    (h : ∀ tree ∈ trees, ∃ nodes addresses, ListsInOrder childrenOf tree nodes ∧
      Addresses (nodeAt? childrenOf tree) addresses nodes) :
    ∃ lists addresses, List.Forall₂ (ListsInOrder childrenOf) trees lists ∧
      Addresses (nodeAmong? childrenOf trees) addresses lists.flatten := by
  induction trees with
  | nil => exact ⟨[], [], .nil, .nil⟩
  | cons tree trees ih =>
    obtain ⟨nodes, own, hnodes, hown⟩ := h tree List.mem_cons_self
    obtain ⟨lists, others, hlists, hothers⟩ := ih fun m hm => h m (List.mem_cons_of_mem tree hm)
    exact ⟨nodes :: lists, _, .cons hnodes hlists, hown.cons hothers⟩

/-- A tree that does not go down for ever can be listed. -/
theorem exists_listsInOrder {root : ν} (h : Acc (fun child n => child ∈ childrenOf n) root) :
    ∃ nodes addresses, ListsInOrder childrenOf root nodes ∧
      Addresses (nodeAt? childrenOf root) addresses nodes := by
  induction h with
  | intro n _ ih =>
    obtain ⟨below, addresses, hbelow, haddresses⟩ := exists_lists ih
    exact ⟨_, _, .node hbelow, haddresses.root⟩

/-- The recursion of a preorder is that of a list in order. -/
theorem listsInOrder_preorder [Branching ν] (root : ν) :
    ListsInOrder Branching.children root (Branching.preorder root) := by
  rw [Branching.preorder_eq, List.flatMap_def]
  exact .node (List.forall₂_map_right_iff.mpr
    (List.forall₂_same.mpr fun child hchild => listsInOrder_preorder child))
termination_by Branching.size root
decreasing_by exact Branching.size_lt_of_mem_children hchild

/-- Trees that are finite by their type do not go down for ever. -/
theorem acc_children [Branching ν] (root : ν) :
    Acc (fun child n => child ∈ Branching.children n) root :=
  ⟨root, fun child _ => acc_children child⟩
termination_by Branching.size root
decreasing_by exact Branching.size_lt_of_mem_children ‹_›

namespace StackWalk

/-- The work list of a walk is the stack read from its end, call by call. -/
theorem next?_pending [Branching ν] (w : StackWalk ν) :
    (Walk.mk w.pending).next? =
      (w.next Branching.children).1.map fun n => (n, ⟨(w.next Branching.children).2.pending⟩) := by
  cases hpending : w.pending with
  | nil =>
    rw [next_of_pending_eq_nil hpending]
    rfl
  | cons n rest =>
    obtain ⟨hnext, hpending'⟩ := pending_next_cons Branching.children hpending
    rw [hnext, hpending']
    rfl

/-- A walk answers with the list of its tree, and then with nothing for ever. -/
theorem answer_start_eq_getElem? {root : ν} {nodes : List ν}
    (h : ListsInOrder childrenOf root nodes) (number : Nat) :
    (start root).answer childrenOf number = nodes[number]? := by
  have hlists : List.Forall₂ (ListsInOrder childrenOf) (start root).pending [nodes] := by
    rw [pending_start]
    exact .cons h .nil
  rw [answer_eq_getElem? hlists, List.flatten_singleton]

/-- A tree has one list in order: that of the answers. -/
theorem eq_of_listsInOrder {root : ν} {nodes nodes' : List ν}
    (h : ListsInOrder childrenOf root nodes) (h' : ListsInOrder childrenOf root nodes') :
    nodes = nodes' := by
  refine List.ext_getElem? fun number => ?_
  rw [← answer_start_eq_getElem? h, answer_start_eq_getElem? h']

/-- Let a tree be told by the children of its nodes, and let it not go down for
    ever.  The answers of a walk on one stack list the tree in order: a node
    comes ahead of the subtrees of its children, and these follow one after the
    other, first to last.  There is one answer for each address of the tree, in
    the order of the addresses, and nothing after them, however often the walk
    is asked.  Where trees are known to be finite by their type, a `Walk` goes
    in step with the stack, and the answers are the `descendants`. -/
theorem answers_in_document_order :
    (∀ {ν : Type u} (childrenOf : ν → List ν) (root : ν),
      Acc (fun child n => child ∈ childrenOf n) root →
      ∃ nodes addresses, ListsInOrder childrenOf root nodes ∧
        Addresses (nodeAt? childrenOf root) addresses nodes ∧
        ∀ number, (start root).answer childrenOf number = nodes[number]?) ∧
    ∀ {ν : Type u} [Branching ν] (root : ν),
      ListsInOrder Branching.children root (descendants root) ∧
      (∃ addresses, Addresses (nodeAt? Branching.children root) addresses (descendants root)) ∧
      (∀ number, (start root).answer Branching.children number = (descendants root)[number]?) ∧
      ∀ w : StackWalk ν, (Walk.mk w.pending).next? =
        (w.next Branching.children).1.map fun n =>
          (n, ⟨(w.next Branching.children).2.pending⟩) := by
  constructor
  · intro ν childrenOf root hfinite
    obtain ⟨nodes, addresses, hlists, haddresses⟩ := exists_listsInOrder hfinite
    exact ⟨nodes, addresses, hlists, haddresses, answer_start_eq_getElem? hlists⟩
  · intro ν _ root
    have hlists : ListsInOrder Branching.children root (descendants root) := by
      rw [descendants_eq_preorder]
      exact listsInOrder_preorder root
    obtain ⟨nodes, addresses, hlists', haddresses⟩ := exists_listsInOrder (acc_children root)
    obtain rfl := eq_of_listsInOrder hlists' hlists
    exact ⟨hlists, ⟨addresses, haddresses⟩, answer_start_eq_getElem? hlists, next?_pending⟩

/-- The children in a tree of handles.  The handle `1` stands at two places of
    the tree at `0`. -/
def sampleChildren : Nat → List Nat
  | 0 => [1, 2, 4]
  | 2 => [3, 1]
  | _ => []

/-- The handle that stands at two places is answered twice. -/
theorem answers_in_document_order_sampleChildren :
    Acc (fun child n => child ∈ sampleChildren n) 0 ∧
      (List.range 7).map ((start 0).answer sampleChildren) =
        [some 0, some 1, some 2, some 3, some 1, some 4, none] ∧
      ∃ nodes addresses, ListsInOrder sampleChildren 0 nodes ∧
        Addresses (nodeAt? sampleChildren 0) addresses nodes ∧ nodes.length = 6 := by
  have hleaf : ∀ n, sampleChildren n = [] → Acc (fun child n => child ∈ sampleChildren n) n :=
    fun n hn => ⟨n, fun child hchild => absurd hchild (by simp [hn])⟩
  have hinner : Acc (fun child n => child ∈ sampleChildren n) 2 := by
    refine ⟨2, fun child hchild => hleaf child ?_⟩
    have hchild : child = 3 ∨ child = 1 := by simpa [sampleChildren] using hchild
    rcases hchild with rfl | rfl <;> rfl
  have hfinite : Acc (fun child n => child ∈ sampleChildren n) 0 := by
    refine ⟨0, fun child hchild => ?_⟩
    have hchild : child = 1 ∨ child = 2 ∨ child = 4 := by simpa [sampleChildren] using hchild
    rcases hchild with rfl | rfl | rfl
    · exact hleaf 1 rfl
    · exact hinner
    · exact hleaf 4 rfl
  obtain ⟨nodes, addresses, hlists, haddresses, hanswers⟩ :=
    answers_in_document_order.1 sampleChildren 0 hfinite
  have hlast : nodes[5]? = some 4 := (hanswers 5).symm.trans (by decide +kernel)
  have hend : nodes[6]? = none := (hanswers 6).symm.trans (by decide +kernel)
  refine ⟨hfinite, by decide +kernel, nodes, addresses, hlists, haddresses, ?_⟩
  have hlt : 5 < nodes.length := (List.getElem?_eq_some_iff.mp hlast).1
  have hle : nodes.length ≤ 6 := List.getElem?_eq_none_iff.mp hend
  omega

end StackWalk

end ModuleCatalog
