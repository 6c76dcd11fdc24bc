import ModuleCatalog.Catalog
import ModuleCatalog.Encoding
import ModuleCatalog.Tree.NodeJson
import ModuleCatalog.Xml.Document

/-! # Catalogs of texts

    The text of a tree file is read in its encoding, and the catalog of its
    tree is made.  How a text is turned down that cannot be read is not said
    here: the words come from outside, as a `Wording`. -/

namespace ModuleCatalog

/-- Why there is no catalog of a text. -/
inductive SourceFault where
  /-- The text is no XML document. -/
  | xml (fault : Xml.Fault)
  /-- The text is no tree in JSON. -/
  | json (fault : Json.Fault)
  /-- The tree cannot be surveyed. -/
  | tree (fault : TreeFault)
deriving DecidableEq, Repr

/-- What is said of a text that cannot be read.  It may depend on all of the
    text, as it does where the place of the fault is told. -/
structure Wording where
  /-- What is said of a text that is no XML document. -/
  xml : Xml.Fault → (text : String) → String
  /-- What is said of a text that is no tree in JSON. -/
  json : Json.Fault → (text : String) → String

/-- The fault of a text in words. -/
def SourceFault.message (wording : Wording) (text : String) : SourceFault → String
  | xml fault => "malformed XML: " ++ wording.xml fault text
  | json fault => "malformed JSON tree: " ++ wording.json fault text
  | tree fault => fault.message

/-- The tree that a text holds. -/
def Encoding.readTree (encoding : Encoding) (text : String) : Except SourceFault Node :=
  match encoding with
  | .xml => (Xml.read text).mapError .xml
  | .json => (Node.read text).mapError .json

/-- The catalog of the tree that a text holds. -/
def Catalog.ofText (encoding : Encoding) (text : String)
    (projectRoot : String := SourceFile.defaultRoot) : Except SourceFault Catalog := do
  let root ← encoding.readTree text
  (Catalog.ofTree root projectRoot).mapError .tree

section

variable {encoding : Encoding} {text projectRoot : String}

theorem Catalog.ofText_of_readTree_eq_ok {root : Node} (h : encoding.readTree text = .ok root) :
    ofText encoding text projectRoot = (ofTree root projectRoot).mapError .tree := by
  rw [ofText, h]
  rfl

theorem Catalog.ofText_of_readTree_eq_error {fault : SourceFault}
    (h : encoding.readTree text = .error fault) :
    ofText encoding text projectRoot = .error fault := by
  rw [ofText, h]
  rfl

end

end ModuleCatalog
