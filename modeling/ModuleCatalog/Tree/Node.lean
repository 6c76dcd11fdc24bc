import Std.Data.ExtTreeMap
import ModuleCatalog.Tree.NodeKind
import ModuleCatalog.Tree.Traversal

/-! # Program trees

    A program tree is made by some front end.  Each node has a tag, text
    attributes under distinct keys, and children in document order. -/

namespace ModuleCatalog

/-- Attributes: at most one text under each key.  Keys keep their case. -/
abbrev Attributes := Std.ExtTreeMap String String

/-- A node of a program tree, with the subtrees below it. -/
structure Node where
  tag : String
  attrs : Attributes := ∅
  children : List Node := []

namespace Node

instance : Inhabited Node := ⟨⟨"", ∅, []⟩⟩

/-- The attribute under `key`. -/
def attr? (n : Node) (key : String) : Option String := n.attrs[key]?

/-- The kind that the tag names, if the tag belongs to the vocabulary. -/
def kind? (n : Node) : Option NodeKind := NodeKind.ofTag? n.tag

/-- The node with `value` under `key`, in place of what was there. -/
def withAttr (n : Node) (key value : String) : Node :=
  { n with attrs := n.attrs.insert key value }

/-- The node with more children behind the ones it has. -/
def withChildren (n : Node) (more : List Node) : Node :=
  { n with children := n.children ++ more }

/-- The node with one more child behind the ones it has. -/
def withChild (n : Node) (child : Node) : Node := n.withChildren [child]

/-! ## Size -/

mutual

/-- The number of nodes of a tree. -/
def size : Node → Nat
  | ⟨_, _, children⟩ => sizeAll children + 1

/-- The number of nodes of several trees. -/
def sizeAll : List Node → Nat
  | [] => 0
  | n :: ns => size n + sizeAll ns

end

theorem sizeAll_eq_totalSize (ns : List Node) : sizeAll ns = totalSize size ns := by
  induction ns with
  | nil => simp [sizeAll, totalSize]
  | cons n ns ih => simp [sizeAll, totalSize, ih]

instance : Branching Node where
  children := Node.children
  size := size
  totalSize_children_lt := by
    rintro ⟨tag, attrs, children⟩
    simp [size, sizeAll_eq_totalSize]

/-- A node comes first, and what stands below it follows child by child. -/
theorem descendants_eq (root : Node) :
    descendants root = root :: root.children.flatMap descendants := by
  have hpreorder : (descendants : Node → List Node) = Branching.preorder :=
    funext descendants_eq_preorder
  rw [hpreorder]
  exact Branching.preorder_eq root

end Node

end ModuleCatalog
