import ModuleCatalog.Tree.NodeKind

/-! # What can be wrong with a tree -/

namespace ModuleCatalog

/-- Why no survey of a tree can be made. -/
inductive TreeFault where
  /-- A node of the given kind lacks an attribute that its kind needs. -/
  | missingAttribute (kind : NodeKind) (key : String)
  /-- A node of the given kind precedes every program unit, and the tree has no
      program that it could belong to. -/
  | unscoped (kind : NodeKind)
deriving DecidableEq, Repr

/-- The fault in words. -/
def TreeFault.message : TreeFault → String
  | missingAttribute kind key =>
    "`" ++ kind.tag ++ "` node is missing required attribute `" ++ key ++ "`"
  | unscoped kind =>
    "`" ++ kind.tag ++ "` node appears before any module or program, " ++
      "and the tree has no program to fall back to"

end ModuleCatalog
