import ModuleCatalog.Xml.Content
import ModuleCatalog.Xml.Doctype

/-! # Documents

    A document may begin with a byte order mark and an XML declaration.  Around
    its root element stand comments and instructions, and before it perhaps a
    document type declaration. -/

namespace ModuleCatalog.Xml

/-- The text behind a byte order mark, if there is one. -/
def skipByteOrderMark : Input → Input
  | '\ufeff' :: rest => rest
  | input => input

/-! ## The XML declaration -/

/-- The text behind the blanks that part the attributes of a declaration; none
    are needed at its end. -/
def declarationSpaces (input : Input) : Except Fault Input :=
  match input with
  | [] => .ok []
  | c :: rest =>
    if isSpace c then .ok (spaces rest)
    else if ['?', '>'].isPrefixOf input then .ok input
    else .error (.unexpectedCharacter c)

/-- The text behind an attribute, if the text begins with its name. -/
def skipAttribute (name input : Input) : Except Fault Input :=
  if name.isPrefixOf input then do
    let (_, rest) ← writtenAttribute input
    return rest
  else .ok input

/-- The text behind an attribute and the blanks behind it, if the text begins
    with its name. -/
def skipPartedAttribute (name input : Input) : Except Fault Input :=
  if name.isPrefixOf input then do declarationSpaces (← skipAttribute name input)
  else .ok input

/-- The text behind an XML declaration whose opening mark was read.  A version
    has to be given. -/
def xmlDeclaration (input : Input) : Except Fault Input := do
  let version := ['v', 'e', 'r', 's', 'i', 'o', 'n']
  if !version.isPrefixOf (spaces input) then .error .misplacedDeclaration
  else
    let rest ← skipPartedAttribute version (spaces input)
    let rest ← skipPartedAttribute ['e', 'n', 'c', 'o', 'd', 'i', 'n', 'g'] rest
    let rest ← skipAttribute ['s', 't', 'a', 'n', 'd', 'a', 'l', 'o', 'n', 'e'] rest
    expect ['?', '>'] (spaces rest)

/-- The text behind the XML declaration, if there is one. -/
def skipXmlDeclaration (input : Input) : Except Fault Input :=
  if ['<', '?', 'x', 'm', 'l', ' '].isPrefixOf input then xmlDeclaration (input.drop 5)
  else .ok input

/-! ## The parts of a document -/

/-- The text behind comments, instructions and blanks. -/
def miscellany (input : Input) : Except Fault Input :=
  match _hs : spaces input with
  | '<' :: '!' :: '-' :: '-' :: rest =>
    match _hr : comment rest with
    | .error fault => .error fault
    | .ok behind => miscellany behind
  | '<' :: '?' :: rest =>
    match _hr : instruction rest with
    | .error fault => .error fault
    | .ok behind => miscellany behind
  | rest => .ok rest
termination_by input.length
decreasing_by
  · have := spaces_length_le input
    have := comment_length_le _hr
    simp_all only [List.length_cons]
    omega
  · have := spaces_length_le input
    have := instruction_length_le _hr
    simp_all only [List.length_cons]
    omega

/-- The entities of a document and the text behind what precedes its root. -/
def prolog (input : Input) : Except Fault (Entities × Input) := do
  let rest ← miscellany (← skipXmlDeclaration (skipByteOrderMark input))
  match rest with
  | '<' :: '!' :: 'D' :: 'O' :: 'C' :: 'T' :: 'Y' :: 'P' :: 'E' :: rest =>
    let (entities, rest) ← doctype rest
    return (entities, ← miscellany rest)
  | rest => return ([], rest)

/-- The root of a document that has been read to its end. -/
def Builder.root (b : Builder) : Except Fault Node :=
  match b.roots.reverse, b.elements with
  | [], [] => .error .noRoot
  | _, _ :: _ => .error .unclosedElement
  | root :: _, [] => .ok root

/-- The document read up to the end of its root element, if one begins here, and
    the text behind it. -/
def rootElement? (entities : Entities) : Input → Except Fault (Builder × Input)
  | '<' :: rest => rootElement entities rest
  | rest => .ok ({}, rest)

/-- The tree of a document: its root element, with the elements below it.  Tags
    are local names, and attributes are those without a namespace. -/
def read (text : String) : Except Fault Node := do
  let (entities, rest) ← prolog text.toList
  let (b, rest) ← rootElement? entities rest
  match ← miscellany rest with
  | [] => b.root
  | _ :: _ => .error .trailingContent

end ModuleCatalog.Xml
