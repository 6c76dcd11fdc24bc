import ModuleCatalog.Xml.Reference

/-! # Items of content

    Content is a sequence of items: text, tags, and what leaves no trace in the
    tree, which are comments, instructions and character data sections. -/

namespace ModuleCatalog.Xml

/-- An attribute as written: its name and its literal. -/
abbrev WrittenAttribute := QName × Input

/-- How a tag ends that begins an element. -/
inductive TagEnd where
  /-- The content of the element follows. -/
  | opened
  /-- The element has no content. -/
  | emptied
  /-- The text ends between two parts of the tag. -/
  | cut
deriving DecidableEq, Repr

/-- A tag that begins an element, as written. -/
structure StartTag where
  name : QName
  attributes : List WrittenAttribute
  ending : TagEnd

/-- One item of content. -/
inductive Item where
  /-- What leaves no trace. -/
  | ignored
  /-- Text, of which only the entities matter that it refers to. -/
  | text (entities : List String)
  | startTag (tag : StartTag)
  | endTag (name : QName)

/-! ## Tags -/

/-- An attribute. -/
def writtenAttribute (input : Input) : Except Fault (WrittenAttribute × Input) := do
  let (name, rest) ← qualifiedName input
  let rest ← expect ['='] (spaces rest)
  let (literal, rest) ← attributeLiteral (spaces rest)
  return ((name, literal), rest)

theorem writtenAttribute_length_le {input rest : Input} {a : WrittenAttribute}
    (h : writtenAttribute input = .ok (a, rest)) : rest.length ≤ input.length := by
  obtain ⟨⟨n, rest₁⟩, h₁, h⟩ := bind_eq_ok.mp h
  obtain ⟨rest₂, h₂, h⟩ := bind_eq_ok.mp h
  obtain ⟨⟨l, rest₃⟩, h₃, h⟩ := bind_eq_ok.mp h
  cases h
  have := qualifiedName_length_le h₁
  have := spaces_length_le rest₁
  have := expect_length_le h₂
  have := spaces_length_le rest₂
  have := attributeLiteral_length_le h₃
  omega

/-- The end of a tag that begins an element. -/
def closing? : Input → Option (TagEnd × Input)
  | '>' :: rest => some (.opened, rest)
  | '/' :: '>' :: rest => some (.emptied, rest)
  | _ => none

theorem closing?_length_le {input rest : Input} {ending : TagEnd}
    (h : closing? input = some (ending, rest)) : rest.length ≤ input.length := by
  unfold closing? at h
  split at h
  · cases h; simp
  · cases h; simp only [List.length_cons]; omega
  · cases h

/-- The attributes of a tag behind those of `before`, which come last first, and
    the way the tag ends.  A blank has to precede each attribute. -/
def attributesFrom (before : List WrittenAttribute) :
    Input → Except Fault ((List WrittenAttribute × TagEnd) × Input)
  | [] => .ok ((before.reverse, .cut), [])
  | c :: rest =>
    match closing? (c :: rest) with
    | some (ending, rest) => .ok ((before.reverse, ending), rest)
    | none =>
      if isSpace c then
        match closing? (spaces rest) with
        | some (ending, rest) => .ok ((before.reverse, ending), rest)
        | none =>
          match _ha : writtenAttribute (spaces rest) with
          | .error fault => .error fault
          | .ok (a, behind) => attributesFrom (a :: before) behind
      else .error (.unexpectedCharacter c)
termination_by input => input.length
decreasing_by
  have := writtenAttribute_length_le _ha
  have := spaces_length_le rest
  simp only [List.length_cons]
  omega

theorem attributesFrom_length_le {before : List WrittenAttribute} {input rest : Input}
    {r : List WrittenAttribute × TagEnd} (h : attributesFrom before input = .ok (r, rest)) :
    rest.length ≤ input.length := by
  fun_induction attributesFrom before input with
  | case1 => cases h; simp
  | case2 before c behind ending behind' hc => cases h; exact closing?_length_le hc
  | case3 before c behind _ _ ending behind' hc =>
    cases h
    have := closing?_length_le hc
    have := spaces_length_le behind
    simp only [List.length_cons]
    omega
  | case4 => cases h
  | case5 before c behind _ _ _ a behind' ha ih =>
    have := ih h
    have := writtenAttribute_length_le ha
    have := spaces_length_le behind
    simp only [List.length_cons]
    omega
  | case6 => cases h

/-- A tag that begins an element, behind its `<`. -/
def startTag (input : Input) : Except Fault (StartTag × Input) := do
  let (name, rest) ← qualifiedName input
  let ((attributes, ending), rest) ← attributesFrom [] rest
  return (⟨name, attributes, ending⟩, rest)

/-- A tag that ends an element, behind its `</`. -/
def endTag (input : Input) : Except Fault (QName × Input) := do
  let (name, rest) ← qualifiedName input
  let rest ← expect ['>'] (spaces rest)
  return (name, rest)

theorem startTag_length_le {input rest : Input} {tag : StartTag}
    (h : startTag input = .ok (tag, rest)) : rest.length ≤ input.length := by
  obtain ⟨⟨n, rest₁⟩, h₁, h⟩ := bind_eq_ok.mp h
  obtain ⟨⟨r, rest₂⟩, h₂, h⟩ := bind_eq_ok.mp h
  cases h
  exact Nat.le_trans (attributesFrom_length_le h₂) (qualifiedName_length_le h₁)

theorem endTag_length_le {input rest : Input} {n : QName} (h : endTag input = .ok (n, rest)) :
    rest.length ≤ input.length := by
  obtain ⟨⟨n, rest₁⟩, h₁, h⟩ := bind_eq_ok.mp h
  obtain ⟨rest₂, h₂, h⟩ := bind_eq_ok.mp h
  cases h
  have := qualifiedName_length_le h₁
  have := spaces_length_le rest₁
  have := expect_length_le h₂
  omega

/-! ## Text -/

/-- Whether a text holds the end mark of a character data section. -/
def holdsCharacterDataEnd : Input → Bool
  | [] => false
  | c :: rest => [']', ']', '>'].isPrefixOf (c :: rest) || holdsCharacterDataEnd rest

/-- The name of the entity that a piece refers to. -/
def Piece.entityName? : Piece → Option String
  | .entity name => some name
  | _ => none

/-- The entities that a text without markup refers to. -/
def entitiesOfText (text : Input) : Except Fault (List String) :=
  match text.find? (!isXmlChar ·) with
  | some c => .error (.forbiddenCharacter c)
  | none =>
    if holdsCharacterDataEnd text then .error .strayCharacterDataEnd
    else return (← pieces text).filterMap Piece.entityName?

/-! ## Items -/

/-- The next item of content that is not at its end. -/
def item : Input → Except Fault (Item × Input)
  | [] => .error .cutShort
  | '<' :: '!' :: '-' :: '-' :: rest => return (.ignored, ← comment rest)
  | '<' :: '!' :: rest => do
    let rest ← expect ['[', 'C', 'D', 'A', 'T', 'A', '['] rest
    return (.ignored, ← skipPast [']', ']', '>'] rest)
  | '<' :: '?' :: rest => return (.ignored, ← instruction rest)
  | '<' :: '/' :: rest => do
    let (name, rest) ← endTag rest
    return (.endTag name, rest)
  | '<' :: rest => do
    let (tag, rest) ← startTag rest
    return (.startTag tag, rest)
  | c :: rest => do
    let entities ← entitiesOfText (c :: rest.takeWhile (· ≠ '<'))
    return (.text entities, rest.dropWhile (· ≠ '<'))

/-- Every item takes some characters. -/
theorem item_length_lt {input rest : Input} {i : Item} (h : item input = .ok (i, rest)) :
    rest.length < input.length := by
  unfold item at h
  split at h
  · cases h
  · obtain ⟨rest₁, h₁, h⟩ := bind_eq_ok.mp h
    cases h
    have := comment_length_le h₁
    simp only [List.length_cons]
    omega
  · obtain ⟨rest₁, h₁, h⟩ := bind_eq_ok.mp h
    obtain ⟨rest₂, h₂, h⟩ := bind_eq_ok.mp h
    cases h
    have := expect_length_le h₁
    have := skipPast_length_le h₂
    simp only [List.length_cons]
    omega
  · obtain ⟨rest₁, h₁, h⟩ := bind_eq_ok.mp h
    cases h
    have := instruction_length_le h₁
    simp only [List.length_cons]
    omega
  · obtain ⟨⟨n, rest₁⟩, h₁, h⟩ := bind_eq_ok.mp h
    cases h
    have := endTag_length_le h₁
    simp only [List.length_cons]
    omega
  · obtain ⟨⟨tag, rest₁⟩, h₁, h⟩ := bind_eq_ok.mp h
    cases h
    have := startTag_length_le h₁
    simp only [List.length_cons]
    omega
  · rename_i c behind _ _ _ _ _
    obtain ⟨es, h₁, h⟩ := bind_eq_ok.mp h
    cases h
    have := (List.dropWhile_sublist (l := behind) (· ≠ '<')).length_le
    simp only [List.length_cons]
    omega

end ModuleCatalog.Xml
