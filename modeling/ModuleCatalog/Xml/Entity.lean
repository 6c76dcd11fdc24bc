import ModuleCatalog.Xml.Reference

/-! # Entities

    An entity gives a name to a text.  A reference to it stands for that text,
    which may hold further references: at most `entityDepth` deep, and at most
    `referenceLimit` of them below one reference of the document itself. -/

namespace ModuleCatalog.Xml

/-- The texts of the entities under their names.  Of several texts under one
    name the first one counts. -/
abbrev Entities := List (String × Input)

/-- How deep entities may refer to one another. -/
def entityDepth : Nat := 10

/-- How many references may stand below one reference of the document. -/
def referenceLimit : Nat := 255

/-- The count of references after one more, where `levels` more levels of
    entities may be opened.  References of the document itself do not count. -/
def countReference (levels count : Nat) : Except Fault Nat :=
  if levels = entityDepth then .ok count
  else if count < referenceLimit then .ok (count + 1)
  else .error .endlessReferences

/-- The count of references after a reference has been dealt with: back in the
    document itself the count starts anew. -/
def countBehind (levels count : Nat) : Nat := if levels = entityDepth then 0 else count

/-! ## Attribute values -/

/-- The value of an attribute read so far. -/
structure ValueScan where
  /-- Its characters, last one first. -/
  text : Input
  /-- The references that were counted. -/
  references : Nat

/-- A text in which a carriage return and the line feed behind it are one
    character. -/
def joinLineEnds : Input → Input
  | '\r' :: '\n' :: rest => '\n' :: joinLineEnds rest
  | c :: rest => c :: joinLineEnds rest
  | [] => []

/-- A blank of any kind is a space in an attribute value. -/
def normalizedChar (c : Char) : Char :=
  if c = '\t' || c = '\n' || c = '\r' then ' ' else c

/-- Read one piece of an attribute value.  Characters that the document refers
    to are taken as they are; within an entity they are treated like plain
    ones, and a `<` must not come in that way. -/
def ValueScan.read (expand : String → ValueScan → Except Fault ValueScan) (nested : Bool)
    (scan : ValueScan) : Piece → Except Fault ValueScan
  | .plain c => .ok { scan with text := normalizedChar c :: scan.text }
  | .character c =>
    if nested then
      if c = '<' then .error .markupInAttribute
      else .ok { scan with text := normalizedChar c :: scan.text }
    else .ok { scan with text := c :: scan.text }
  | .entity name => expand name scan

/-- Read a text into an attribute value. -/
def ValueScan.readText (expand : String → ValueScan → Except Fault ValueScan) (nested : Bool)
    (scan : ValueScan) (text : Input) : Except Fault ValueScan := do
  (← pieces (joinLineEnds text)).foldlM (ValueScan.read expand nested) scan

/-- Read the text of an entity into an attribute value, where `levels` levels
    of entities may still be opened. -/
def expandInValue (entities : Entities) : (levels : Nat) → String → ValueScan →
    Except Fault ValueScan
  | 0, _, _ => .error .endlessReferences
  | levels + 1, name, scan =>
    match entities.lookup name with
    | none => .error (.unknownEntity name)
    | some text => do
      let references ← countReference (levels + 1) scan.references
      let scan ← ValueScan.readText (expandInValue entities levels) true
        { scan with references } text
      return { scan with references := countBehind (levels + 1) scan.references }

/-- The value that the literal of an attribute stands for, and the references
    that have been counted then. -/
def attributeValue (entities : Entities) (levels references : Nat) (literal : Input) :
    Except Fault (String × Nat) := do
  let scan ← ValueScan.readText (expandInValue entities levels) (levels != entityDepth)
    ⟨[], references⟩ literal
  return (String.ofList scan.text.reverse, scan.references)

end ModuleCatalog.Xml
