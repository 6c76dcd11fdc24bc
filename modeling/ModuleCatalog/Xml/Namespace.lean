import ModuleCatalog.Tree.Node
import ModuleCatalog.Xml.Scan

/-! # Namespaces

    Attributes in the name of the `xmlns` prefix bind other prefixes to
    namespaces, for the element that holds them and all below it.  The plain
    attributes of an element are told apart by namespace and local name; those
    without a namespace are the attributes of the node. -/

namespace ModuleCatalog.Xml

/-- The namespace that the `xml` prefix is bound to everywhere. -/
def xmlNamespace : String := "http://www.w3.org/XML/1998/namespace"

/-- The namespace of the `xmlns` prefix, which no document may bind. -/
def xmlnsNamespace : String := "http://www.w3.org/2000/xmlns/"

/-- Prefixes and the namespaces that they are bound to, innermost first. -/
abbrev Bindings := List (String × String)

/-- The attributes of a tag that have been read so far. -/
structure TagAttributes where
  /-- The prefixes that the tag binds. -/
  bindings : Bindings := []
  /-- The other attributes with their values, last one first. -/
  plain : List (QName × String) := []

namespace TagAttributes

/-- The attributes with one more prefix bound. -/
def bind (attrs : TagAttributes) (qualifier uri : String) : Except Fault TagAttributes :=
  if uri = xmlnsNamespace then .error .reservedNamespace
  else if (qualifier = "xml") != (uri = xmlNamespace) then .error .reservedNamespace
  else if (attrs.bindings.lookup qualifier).isSome then .error (.duplicatePrefix qualifier)
  else if uri = xmlNamespace then .ok attrs
  else .ok { attrs with bindings := (qualifier, uri) :: attrs.bindings }

/-- The attributes with one more of them.  A binding of the namespace without a
    prefix is checked and has no further effect, as nothing without a prefix
    is looked up. -/
def add (attrs : TagAttributes) (name : QName) (value : String) : Except Fault TagAttributes :=
  if name.qualifier = "xmlns" then attrs.bind name.localName value
  else if name.localName = "xmlns" then
    if value = xmlNamespace ∨ value = xmlnsNamespace then .error .reservedNamespace
    else .ok attrs
  else .ok { attrs with plain := (name, value) :: attrs.plain }

end TagAttributes

/-- The namespace of the attribute `name`; an attribute without a prefix has
    none. -/
def namespaceOf? (bindings : Bindings) (name : QName) : Except Fault (Option String) :=
  if name.qualifier = "" then .ok none
  else if name.qualifier = "xml" then .ok (some xmlNamespace)
  else
    match bindings.lookup name.qualifier with
    | some uri => .ok (some uri)
    | none => .error (.unboundPrefix name.qualifier)

/-- The plain attributes of a tag in their order, with their namespaces. -/
def expandedAttributes (bindings : Bindings) (attrs : TagAttributes) :
    Except Fault (List ((Option String × String) × String)) :=
  attrs.plain.reverse.mapM fun (name, value) => do
    return ((← namespaceOf? bindings name, name.localName), value)

/-- The first name that two of the attributes have in common. -/
def duplicateName? : List ((Option String × String) × String) → Option String
  | [] => none
  | (name, _) :: rest =>
    if (rest.lookup name).isSome then some name.2 else duplicateName? rest

/-- The attributes of the node for a tag: those without a namespace. -/
def nodeAttributes (bindings : Bindings) (attrs : TagAttributes) : Except Fault Attributes := do
  let expanded ← expandedAttributes bindings attrs
  match duplicateName? expanded with
  | some name => .error (.duplicateAttribute name)
  | none =>
    return .ofList (expanded.filterMap fun ((uri?, localName), value) =>
      if uri?.isNone then some (localName, value) else none)

/-- Elements have to have a bound prefix or none. -/
def checkElementName (bindings : Bindings) (name : QName) : Except Fault Unit :=
  if name.qualifier = "" ∨ (bindings.lookup name.qualifier).isSome then .ok ()
  else .error (.unboundPrefix name.qualifier)

end ModuleCatalog.Xml
