/-! # Document order

    A tree is visited in document order: a node first, then the subtrees of
    its children from first to last.  `preorder` says this by recursion.
    `descendants` computes the same list with a work list of the subtrees
    that are still to come, so the depth of a tree costs no stack.

    The main statement is `descendants_eq_preorder`. -/

namespace ModuleCatalog

/-- The sizes of some nodes together. -/
def totalSize {ν : Type u} (size : ν → Nat) : List ν → Nat
  | [] => 0
  | n :: ns => size n + totalSize size ns

@[simp] theorem totalSize_append {ν : Type u} (size : ν → Nat) (ms ns : List ν) :
    totalSize size (ms ++ ns) = totalSize size ms + totalSize size ns := by
  induction ms with
  | nil => simp [totalSize]
  | cons m ms ih => simp [totalSize, ih, Nat.add_assoc]

/-- One of some nodes is no larger than all of them together. -/
theorem le_totalSize_of_mem {ν : Type u} (size : ν → Nat) {n : ν} {ns : List ν} (h : n ∈ ns) :
    size n ≤ totalSize size ns := by
  induction ns with
  | nil => cases h
  | cons m ms ih =>
    rcases List.mem_cons.mp h with rfl | h
    · exact Nat.le_add_right _ _
    · exact Nat.le_trans (ih h) (Nat.le_add_left _ _)

/-- Nodes of finite trees.  A node is larger than all its children together, so
    that a work list of nodes gets smaller with every node visited. -/
class Branching (ν : Type u) where
  /-- The direct children, first to last. -/
  children : ν → List ν
  /-- The size of the tree at a node. -/
  size : ν → Nat
  totalSize_children_lt : ∀ n, totalSize size (children n) < size n

namespace Branching

variable {ν : Type u} [Branching ν]

/-- A child is smaller than its parent. -/
theorem size_lt_of_mem_children {n c : ν} (h : c ∈ children n) : size c < size n :=
  Nat.lt_of_le_of_lt (le_totalSize_of_mem size h) (totalSize_children_lt n)

/-- The nodes of a tree in document order, by recursion. -/
def preorder (n : ν) : List ν :=
  n :: (children n).attach.flatMap fun c => preorder c.1
termination_by size n
decreasing_by exact size_lt_of_mem_children c.2

/-- A node comes first, and the subtrees of its children follow in order. -/
theorem preorder_eq (n : ν) : preorder n = n :: (children n).flatMap preorder := by
  rw [preorder, List.flatMap_subtype (g := preorder) (fun _ _ => rfl), List.unattach_attach]

end Branching

open Branching

/-! ## Walks -/

/-- A walk through a tree: the subtrees still to be visited, next one first. -/
structure Walk (ν : Type u) where
  pending : List ν

namespace Walk

variable {ν : Type u} [Branching ν]

/-- The walk through the tree at `root`. -/
def start (root : ν) : Walk ν := ⟨[root]⟩

/-- The next node, if there is one, and the walk after it: the children of the
    node take its place. -/
def next? : Walk ν → Option (ν × Walk ν)
  | ⟨[]⟩ => none
  | ⟨n :: rest⟩ => some (n, ⟨children n ++ rest⟩)

/-- The size of all that is still to be visited. -/
def remaining (w : Walk ν) : Nat := totalSize size w.pending

/-- A step makes less of what is still to be visited. -/
theorem remaining_lt_of_next? {w w' : Walk ν} {n : ν} (h : w.next? = some (n, w')) :
    w'.remaining < w.remaining := by
  obtain ⟨_ | ⟨m, rest⟩⟩ := w
  · cases h
  · cases h
    have := totalSize_children_lt n
    simp only [remaining, totalSize_append, totalSize]
    omega

/-- All nodes of a walk, after those of `seen`, which is in reverse order. -/
def visit (seen : List ν) (w : Walk ν) : List ν :=
  match _h : w.next? with
  | none => seen.reverse
  | some (n, w') => visit (n :: seen) w'
termination_by w.remaining
decreasing_by exact remaining_lt_of_next? _h

/-- The nodes that a walk visits, in order. -/
def toList (w : Walk ν) : List ν := w.visit []

/-- A walk visits the subtrees of its work list one after the other. -/
theorem visit_eq (seen : List ν) (w : Walk ν) :
    w.visit seen = seen.reverse ++ w.pending.flatMap preorder := by
  fun_induction visit seen w with
  | case1 seen w h =>
    obtain ⟨_ | ⟨m, rest⟩⟩ := w
    · simp
    · cases h
  | case2 seen w n w' h ih =>
    obtain ⟨_ | ⟨m, rest⟩⟩ := w
    · cases h
    · cases h
      rw [ih]
      simp [preorder_eq n]

theorem toList_eq (w : Walk ν) : w.toList = w.pending.flatMap preorder :=
  visit_eq [] w

end Walk

/-- The nodes of the tree at `root` in document order, `root` first. -/
def descendants {ν : Type u} [Branching ν] (root : ν) : List ν :=
  (Walk.start root).toList

/-- Walking through a tree visits its nodes in document order. -/
theorem descendants_eq_preorder {ν : Type u} [Branching ν] (root : ν) :
    descendants root = preorder root := by
  simp [descendants, Walk.toList_eq, Walk.start]

end ModuleCatalog
