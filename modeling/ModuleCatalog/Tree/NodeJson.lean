import ModuleCatalog.Json.Reader
import ModuleCatalog.Json.Writer
import ModuleCatalog.Tree.Node

/-! # Trees in JSON

    A node is an object with the members `tag`, `attrs` and `children`, of
    which the last two may be left out; unknown members are skipped, whatever
    they hold.  It may also be an array of the tag, the attributes and the
    children.  The arrays and objects that make up the tree may nest
    `nestingLimit` deep; what is skipped does not count. -/

namespace ModuleCatalog

open Json (Value LiteralText Fault)

namespace Node

/-! ## Writing -/

/-- The object of a set of attributes, keys in ascending order. -/
def attrsValue (attrs : Attributes) : Value String :=
  .object (attrs.toList.map fun (key, value) => (key, .string value))

mutual

/-- The value of a node.  Without attributes or children the members for them
    are left out. -/
def toValue : Node → Value String
  | ⟨tag, attrs, children⟩ =>
    .object (("tag", .string tag) ::
      ((if attrs.isEmpty then [] else [("attrs", attrsValue attrs)]) ++
        if children.isEmpty then [] else [("children", .array (toValues children))]))

/-- The values of some nodes. -/
def toValues : List Node → List (Value String)
  | [] => []
  | n :: ns => n.toValue :: toValues ns

end

/-- The text of a node, on one line. -/
def write (n : Node) : String := n.toValue.write

/-! ## Reading -/

/-- How deep the arrays and objects of a tree may nest. -/
def nestingLimit : Nat := 127

/-- The text of a string. -/
def textOf? : Value LiteralText → Option String
  | .string text => text
  | _ => none

/-- The attributes that the members of an object stand for.  Of members with
    one key the last one counts. -/
def attrsOf? (members : List (LiteralText × Value LiteralText)) : Option Attributes :=
  members.foldlM (fun attrs (key?, value) => do
    let key ← key?
    return attrs.insert key (← textOf? value)) ∅

/-- The parts of a node that have been read so far. -/
structure Parts where
  tag : Option String := none
  attrs : Option Attributes := none
  children : Option (List Node) := none

/-- The node that the parts make up, if the tag is among them. -/
def Parts.node? (parts : Parts) : Option Node :=
  parts.tag.map fun tag => ⟨tag, parts.attrs.getD ∅, parts.children.getD []⟩

/-- How the attributes and the children of a node are read. -/
structure Readers where
  attrs : Value LiteralText → Option Attributes
  children : Value LiteralText → Option (List Node)

/-- The parts with one more member.  No part may come twice. -/
def Parts.add (readers : Readers) (parts : Parts) (member : LiteralText × Value LiteralText) :
    Option Parts := do
  let key ← member.1
  if key = "tag" then
    if parts.tag.isSome then none else return { parts with tag := ← textOf? member.2 }
  else if key = "attrs" then
    if parts.attrs.isSome then none else return { parts with attrs := ← readers.attrs member.2 }
  else if key = "children" then
    if parts.children.isSome then none
    else return { parts with children := ← readers.children member.2 }
  else return parts

/-- The node that an object or array stands for. -/
def ofValueWith? (readers : Readers) : Value LiteralText → Option Node
  | .object members => do (← members.foldlM (Parts.add readers) {}).node?
  | .array [tag] => do return ⟨← textOf? tag, ∅, []⟩
  | .array [tag, attrs] => do return ⟨← textOf? tag, ← readers.attrs attrs, []⟩
  | .array [tag, attrs, children] => do
    return ⟨← textOf? tag, ← readers.attrs attrs, ← readers.children children⟩
  | _ => none

/-- The node that a value stands for, if its arrays and objects nest at most
    `depth` deep. -/
def ofValue? : (depth : Nat) → Value LiteralText → Option Node
  | 0, _ => none
  | 1, value => ofValueWith? ⟨fun _ => none, fun _ => none⟩ value
  | depth + 2, value =>
    ofValueWith?
      { attrs := fun
          | .object members => attrsOf? members
          | _ => none
        children := fun
          | .array items => items.mapM (ofValue? depth)
          | _ => none }
      value

/-- Read the text of a node. -/
def read (text : String) : Except Fault Node := do
  match ofValue? nestingLimit (← Json.read text) with
  | some n => .ok n
  | none => .error .notATree

end Node

end ModuleCatalog
