import ModuleCatalog.Xml.Entity
import ModuleCatalog.Xml.Item
import ModuleCatalog.Xml.Namespace

/-! # Content

    Content is read item by item.  Start tags open elements and end tags close
    the innermost one, which then joins the children of the element around it.
    Where text refers to an entity, the text of the entity is read as content
    in its place: it may hold whole elements, leave one open, or close one.

    The reading of a text ends with the end tag that matches the level on which
    it began; what follows is left over. -/

namespace ModuleCatalog.Xml

/-- An element whose end tag is still to come. -/
structure OpenElement where
  name : QName
  attrs : Attributes
  /-- Its children so far, last one first. -/
  children : List Node := []
  /-- The prefixes that are bound within it. -/
  bindings : Bindings := []

/-- The node of an element that is closed. -/
def OpenElement.node (e : OpenElement) : Node :=
  ⟨e.name.localName, e.attrs, e.children.reverse⟩

/-- A document read up to some place. -/
structure Builder where
  /-- The open elements, innermost first. -/
  elements : List OpenElement := []
  /-- The finished elements that are in no other one, last one first. -/
  roots : List Node := []
  /-- What a tag has left behind that was cut short by the end of the text of
      an entity; the next tag takes it up. -/
  pending : TagAttributes := {}
  /-- The references that were counted. -/
  references : Nat := 0

namespace Builder

/-- The prefixes that are bound here. -/
def bindings (b : Builder) : Bindings :=
  match b.elements with
  | [] => []
  | e :: _ => e.bindings

/-- A finished element joins the one around it. -/
def addNode (b : Builder) (n : Node) : Builder :=
  match b.elements with
  | [] => { b with roots := n :: b.roots }
  | e :: es => { b with elements := { e with children := n :: e.children } :: es }

/-- An attribute is added to those of the current tag. -/
def addAttribute (entities : Entities) (levels : Nat) (b : Builder) (a : WrittenAttribute) :
    Except Fault Builder := do
  let (value, references) ← attributeValue entities levels b.references a.2
  return { b with pending := ← b.pending.add a.1 value, references }

/-- The start tag of an element, where `levels` levels of entities may still be
    opened. -/
def startTag (entities : Entities) (levels : Nat) (b : Builder) (tag : StartTag) :
    Except Fault Builder :=
  if tag.name.qualifier = "xmlns" then .error .reservedNamespace
  else do
    let b ← tag.attributes.foldlM (addAttribute entities levels) b
    if tag.ending = .cut then return b
    let bindings := b.pending.bindings ++ b.bindings
    let attrs ← nodeAttributes bindings b.pending
    checkElementName bindings tag.name
    let b := { b with pending := {} }
    let element : OpenElement := { name := tag.name, attrs, bindings }
    return if tag.ending = .opened then { b with elements := element :: b.elements }
      else b.addNode element.node

/-- The end tag of an element. -/
def endTag (b : Builder) (name : QName) : Except Fault Builder := do
  let _ ← nodeAttributes (b.pending.bindings ++ b.bindings) b.pending
  match b.elements with
  | [] => .error .mismatchedEndTag
  | e :: es =>
    if e.name = name then
      return ({ b with elements := es, pending := {} } : Builder).addNode e.node
    else .error .mismatchedEndTag

end Builder

/-- Where in a text the reading of content is. -/
structure Level where
  /-- How many end tags are still to come until the reading ends. -/
  depth : Nat
  /-- Whether an end tag may come: in the text of an entity not before the
      first start tag. -/
  begun : Bool

/-- Read content.  `expand` reads the text of an entity in its place. -/
def content (entities : Entities) (levels : Nat)
    (expand : String → Builder → Except Fault Builder) (level : Level) (b : Builder) :
    Input → Except Fault (Builder × Input)
  | [] => .ok (b, [])
  | c :: rest =>
    match _hi : item (c :: rest) with
    | .error fault => .error fault
    | .ok (.ignored, behind) => content entities levels expand level b behind
    | .ok (.text names, behind) =>
      match names.foldlM (fun b name => expand name b) b with
      | .error fault => .error fault
      | .ok b => content entities levels expand level b behind
    | .ok (.startTag tag, behind) =>
      match b.startTag entities levels tag with
      | .error fault => .error fault
      | .ok b =>
        let depth := if tag.ending = .opened then level.depth + 1 else level.depth
        content entities levels expand { depth, begun := true } b behind
    | .ok (.endTag name, behind) =>
      if level.begun then
        match b.endTag name with
        | .error fault => .error fault
        | .ok b =>
          if level.depth ≤ 1 then .ok (b, behind)
          else content entities levels expand { level with depth := level.depth - 1 } b behind
      else .error .mismatchedEndTag
termination_by input => input.length
decreasing_by all_goals exact item_length_lt _hi

/-- Read the text of an entity as content, where `levels` levels of entities may
    still be opened.  What is left over of the text is dropped. -/
def expandInContent (entities : Entities) : (levels : Nat) → String → Builder →
    Except Fault Builder
  | 0, _, _ => .error .endlessReferences
  | levels + 1, name, b =>
    match entities.lookup name with
    | none => .error (.unknownEntity name)
    | some text => do
      let references ← countReference (levels + 1) b.references
      let (b, _) ← content entities levels (expandInContent entities levels)
        { depth := 1, begun := false } { b with references } text
      return { b with references := countBehind (levels + 1) b.references }

/-- Read the root element behind its `<`, and give back the text behind it. -/
def rootElement (entities : Entities) (input : Input) : Except Fault (Builder × Input) := do
  let (tag, rest) ← startTag input
  let b ← Builder.startTag entities entityDepth {} tag
  if tag.ending = .opened then
    content entities entityDepth (expandInContent entities entityDepth)
      { depth := 1, begun := true } b rest
  else return (b, rest)

end ModuleCatalog.Xml
