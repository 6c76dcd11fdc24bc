/-! # What can be wrong with a document -/

namespace ModuleCatalog.Xml

/-- Why a text is no XML document that can be read. -/
inductive Fault where
  /-- It ends within some markup. -/
  | cutShort
  /-- A character that no document may hold. -/
  | forbiddenCharacter (c : Char)
  /-- A character that cannot stand where it stands. -/
  | unexpectedCharacter (c : Char)
  /-- Something other than a name where a name has to be. -/
  | malformedName
  /-- Two hyphens within a comment. -/
  | malformedComment
  /-- An ampersand that begins no reference to a character or entity. -/
  | malformedReference
  /-- The end mark of a character data section within plain text. -/
  | strayCharacterDataEnd
  /-- An XML declaration that is not at the start. -/
  | misplacedDeclaration
  /-- Markup that is not allowed where it stands. -/
  | misplacedMarkup
  /-- A reference to an entity without a text. -/
  | unknownEntity (name : String)
  /-- References within references without an end, or too many of them. -/
  | endlessReferences
  /-- A `<` that comes into an attribute through an entity. -/
  | markupInAttribute
  /-- A prefix that is not bound to a namespace. -/
  | unboundPrefix (name : String)
  /-- A prefix or namespace that is bound in a way that is reserved. -/
  | reservedNamespace
  /-- A prefix that is bound twice by one tag. -/
  | duplicatePrefix (name : String)
  /-- An attribute that a tag holds twice. -/
  | duplicateAttribute (name : String)
  /-- An end tag that does not end the innermost element. -/
  | mismatchedEndTag
  /-- An element without an end tag. -/
  | unclosedElement
  /-- No element at all. -/
  | noRoot
  /-- Something behind the root element. -/
  | trailingContent
deriving DecidableEq, Repr

end ModuleCatalog.Xml
