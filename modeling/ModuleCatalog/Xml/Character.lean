import ModuleCatalog.Text.CodeRange

/-! # Characters of XML -/

namespace ModuleCatalog.Xml

/-- Characters that a document may hold: no control characters but tab and line
    ends, and neither of the two that are no characters. -/
def isXmlChar (c : Char) : Bool :=
  if c.toNat < 0x20 then c = '\t' || c = '\n' || c = '\r'
  else c ≠ '\ufffe' && c ≠ '\uffff'

/-- Blanks between the parts of markup. -/
def isSpace (c : Char) : Bool :=
  c = ' ' || c = '\t' || c = '\n' || c = '\r'

/-- Code points with which a name may begin. -/
def nameStartRanges : List Text.CodeRange :=
  [ ⟨0x3A, 0x3A⟩, ⟨0x41, 0x5A⟩, ⟨0x5F, 0x5F⟩, ⟨0x61, 0x7A⟩, ⟨0xC0, 0xD6⟩, ⟨0xD8, 0xF6⟩,
    ⟨0xF8, 0x2FF⟩, ⟨0x370, 0x37D⟩, ⟨0x37F, 0x1FFF⟩, ⟨0x200C, 0x200D⟩, ⟨0x2070, 0x218F⟩,
    ⟨0x2C00, 0x2FEF⟩, ⟨0x3001, 0xD7FF⟩, ⟨0xF900, 0xFDCF⟩, ⟨0xFDF0, 0xFFFD⟩,
    ⟨0x10000, 0xEFFFF⟩ ]

/-- Code points with which a name may go on, beside those with which it may
    begin. -/
def nameRestRanges : List Text.CodeRange :=
  [ ⟨0x2D, 0x2E⟩, ⟨0x30, 0x39⟩, ⟨0xB7, 0xB7⟩, ⟨0x300, 0x36F⟩, ⟨0x203F, 0x2040⟩ ]

/-- Characters with which a name may begin. -/
def isNameStart (c : Char) : Bool := Text.inRanges nameStartRanges c

/-- Characters that a name may hold. -/
def isNameChar (c : Char) : Bool := isNameStart c || Text.inRanges nameRestRanges c

end ModuleCatalog.Xml
