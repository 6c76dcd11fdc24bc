import ModuleCatalog.Fallible
import ModuleCatalog.Xml.Character
import ModuleCatalog.Xml.Fault

/-! # Reading markup from the left

    The parts that markup is made of: blanks, fixed marks, names and quoted
    literals.  Each function takes a text and gives back what it read and the
    text behind it, which is never longer than the text it was given. -/

namespace ModuleCatalog.Xml

/-- A text that is being read. -/
abbrev Input := List Char

/-! ## Blanks and marks -/

/-- The text behind its leading blanks. -/
def spaces (input : Input) : Input := input.dropWhile isSpace

/-- The text behind its leading blanks, of which there has to be one. -/
def someSpaces : Input → Except Fault Input
  | [] => .error .cutShort
  | c :: rest => if isSpace c then .ok (spaces rest) else .error (.unexpectedCharacter c)

/-- The text behind a mark, which it has to begin with. -/
def expect (mark input : Input) : Except Fault Input :=
  if mark.isPrefixOf input then .ok (input.drop mark.length)
  else
    match input with
    | [] => .error .cutShort
    | c :: _ => .error (.unexpectedCharacter c)

/-- The text behind the first occurrence of a mark.  Only characters of XML may
    stand before it. -/
def skipPast (mark : Input) : Input → Except Fault Input
  | [] => .error .cutShort
  | c :: rest =>
    if mark.isPrefixOf (c :: rest) then .ok ((c :: rest).drop mark.length)
    else if isXmlChar c then skipPast mark rest
    else .error (.forbiddenCharacter c)

theorem spaces_length_le (input : Input) : (spaces input).length ≤ input.length :=
  (List.dropWhile_sublist _).length_le

theorem someSpaces_length_le {input rest : Input} (h : someSpaces input = .ok rest) :
    rest.length ≤ input.length := by
  unfold someSpaces at h
  split at h
  · cases h
  · split at h
    · cases h
      exact Nat.le_succ_of_le (spaces_length_le _)
    · cases h

theorem expect_length_le {mark input rest : Input} (h : expect mark input = .ok rest) :
    rest.length ≤ input.length := by
  unfold expect at h
  split at h
  · cases h
    simp
  · split at h <;> cases h

theorem skipPast_length_le {mark input rest : Input} (h : skipPast mark input = .ok rest) :
    rest.length ≤ input.length := by
  induction input with
  | nil => cases h
  | cons c input ih =>
    simp only [skipPast] at h
    split at h
    · cases h
      simp
    · split at h
      · exact Nat.le_succ_of_le (ih h)
      · cases h

/-! ## Names -/

/-- A name as written: what stands before its colon, empty if there is none,
    and what stands behind it. -/
structure QName where
  qualifier : String
  localName : String
deriving DecidableEq, Repr

/-- A name, which may hold any number of colons. -/
def name : Input → Except Fault (String × Input)
  | [] => .error .cutShort
  | c :: rest =>
    if isNameStart c then
      .ok (String.ofList (c :: rest.takeWhile isNameChar), rest.dropWhile isNameChar)
    else .error .malformedName

/-- Whether a text begins with a character that a name may begin with. -/
def beginsName : Input → Bool
  | [] => false
  | c :: _ => isNameStart c

/-- The name that some characters of names make up.  At most one colon parts
    it, and each part that is there begins as a name does. -/
def QName.ofChars? (chars : Input) : Option QName :=
  match chars.span (· ≠ ':') with
  | (localName, []) =>
    if beginsName localName then some ⟨"", String.ofList localName⟩ else none
  | (qualifier, _ :: localName) =>
    if localName.contains ':' || !beginsName localName
        || !(qualifier.isEmpty || beginsName qualifier) then none
    else some ⟨String.ofList qualifier, String.ofList localName⟩

/-- A name with at most one colon. -/
def qualifiedName (input : Input) : Except Fault (QName × Input) :=
  match QName.ofChars? (input.takeWhile isNameChar) with
  | some n => .ok (n, input.dropWhile isNameChar)
  | none => .error .malformedName

theorem name_length_le {input rest : Input} {n : String} (h : name input = .ok (n, rest)) :
    rest.length ≤ input.length := by
  unfold name at h
  split at h
  · cases h
  · split at h
    · cases h
      exact Nat.le_succ_of_le (List.dropWhile_sublist _).length_le
    · cases h

theorem qualifiedName_length_le {input rest : Input} {n : QName}
    (h : qualifiedName input = .ok (n, rest)) : rest.length ≤ input.length := by
  unfold qualifiedName at h
  split at h
  · cases h
    exact (List.dropWhile_sublist _).length_le
  · cases h

/-! ## Literals -/

/-- Whether a character can enclose a literal. -/
def isQuote (c : Char) : Bool := c = '"' || c = '\''

/-- A literal between two equal quotes. -/
def quoted : Input → Except Fault (Input × Input)
  | [] => .error .cutShort
  | q :: rest =>
    if isQuote q then
      match rest.dropWhile (· ≠ q) with
      | [] => .error .cutShort
      | _ :: behind => .ok (rest.takeWhile (· ≠ q), behind)
    else .error (.unexpectedCharacter q)

/-- The literal of an attribute: characters of XML without a `<`. -/
def attributeLiteral (input : Input) : Except Fault (Input × Input) := do
  let (literal, rest) ← quoted input
  match literal.find? fun c => c = '<' || !isXmlChar c with
  | some c => .error (.forbiddenCharacter c)
  | none => return (literal, rest)

theorem quoted_length_le {input literal rest : Input} (h : quoted input = .ok (literal, rest)) :
    rest.length ≤ input.length := by
  unfold quoted at h
  split at h
  · cases h
  · rename_i q behind
    split at h
    · split at h
      · cases h
      · rename_i hd
        cases h
        have := (List.dropWhile_sublist (l := behind) (· ≠ q)).length_le
        rw [hd] at this
        simp only [List.length_cons] at this ⊢
        omega
    · cases h

theorem attributeLiteral_length_le {input literal rest : Input}
    (h : attributeLiteral input = .ok (literal, rest)) : rest.length ≤ input.length := by
  obtain ⟨⟨literal', rest'⟩, hq, h⟩ := bind_eq_ok.mp h
  have := quoted_length_le hq
  simp only at h
  split at h
  · cases h
  · cases h
    exact this

/-! ## Comments and instructions -/

/-- The text behind a comment whose opening mark was read.  The first two
    hyphens have to end it. -/
def comment : Input → Except Fault Input
  | [] => .error .cutShort
  | '-' :: '-' :: '>' :: rest => .ok rest
  | '-' :: '-' :: _ => .error .malformedComment
  | c :: rest => if isXmlChar c then comment rest else .error (.forbiddenCharacter c)

/-- The text behind a processing instruction whose opening mark was read.  Its
    target and a blank must not be those of an XML declaration. -/
def instruction (input : Input) : Except Fault Input :=
  if ['x', 'm', 'l', ' '].isPrefixOf input then .error .misplacedDeclaration
  else do
    let (_, rest) ← name input
    skipPast ['?', '>'] (spaces rest)

theorem comment_length_le {input rest : Input} (h : comment input = .ok rest) :
    rest.length ≤ input.length := by
  fun_induction comment input with
  | case1 => cases h
  | case2 => cases h; simp only [List.length_cons]; omega
  | case3 => cases h
  | case4 c behind _ _ _ ih => exact Nat.le_succ_of_le (ih h)
  | case5 => cases h

theorem instruction_length_le {input rest : Input} (h : instruction input = .ok rest) :
    rest.length ≤ input.length := by
  unfold instruction at h
  split at h
  · cases h
  · obtain ⟨⟨n, behind⟩, hn, h⟩ := bind_eq_ok.mp h
    have := name_length_le hn
    have := spaces_length_le behind
    have := skipPast_length_le h
    omega

end ModuleCatalog.Xml
