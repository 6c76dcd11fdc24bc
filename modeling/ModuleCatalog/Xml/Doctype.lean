import ModuleCatalog.Xml.Entity

/-! # Document type declarations

    Of a document type declaration only the entities matter that it gives a
    text to.  External entities and declarations of other kinds are read and
    forgotten. -/

namespace ModuleCatalog.Xml

/-- An external identifier, if there is one: its keyword and its literals. -/
def externalId (input : Input) : Except Fault (Bool × Input) := do
  if ['S', 'Y', 'S', 'T', 'E', 'M'].isPrefixOf input then
    let (_, rest) ← quoted (← someSpaces (input.drop 6))
    return (true, rest)
  else if ['P', 'U', 'B', 'L', 'I', 'C'].isPrefixOf input then
    let (_, rest) ← quoted (← someSpaces (input.drop 6))
    let (_, rest) ← quoted (← someSpaces rest)
    return (true, rest)
  else return (false, input)

/-- The name of a notation behind an external identifier, if there is one. -/
def skipNotation (input : Input) : Except Fault Input := do
  let rest := spaces input
  if ['N', 'D', 'A', 'T', 'A'].isPrefixOf rest then
    let (_, rest) ← name (← someSpaces (rest.drop 5))
    return rest
  else return rest

/-- What an entity stands for: its text, or nothing if it is external.  Only
    `general` entities may have a notation. -/
def entityDefinition (general : Bool) (input : Input) : Except Fault (Option Input × Input) := do
  match input with
  | [] => .error .cutShort
  | c :: _ =>
    if isQuote c then
      let (text, rest) ← quoted input
      return (some text, rest)
    else
      let (isExternal, rest) ← externalId input
      if !isExternal then .error (.unexpectedCharacter c)
      else if general then return (none, ← skipNotation rest)
      else return (none, rest)

/-- Whether an entity is a general one: the others have a mark and a blank
    before their name. -/
def entityScope : Input → Except Fault (Bool × Input)
  | '%' :: rest => return (false, ← someSpaces rest)
  | rest => return (true, rest)

/-- An entity declaration behind its opening mark. -/
def entityDeclaration (input : Input) : Except Fault (Option (String × Input) × Input) := do
  let (general, rest) ← entityScope (← someSpaces input)
  let (entity, rest) ← name rest
  let (text?, rest) ← entityDefinition general (← someSpaces rest)
  let rest ← expect ['>'] (spaces rest)
  return (text?.map (entity, ·), rest)

theorem externalId_length_le {input rest : Input} {r : Bool}
    (h : externalId input = .ok (r, rest)) : rest.length ≤ input.length := by
  unfold externalId at h
  split at h
  · obtain ⟨rest₁, h₁, h⟩ := bind_eq_ok.mp h
    obtain ⟨⟨l, rest₂⟩, h₂, h⟩ := bind_eq_ok.mp h
    cases h
    have := someSpaces_length_le h₁
    have := quoted_length_le h₂
    simp only [List.length_drop] at *
    omega
  · split at h
    · obtain ⟨rest₁, h₁, h⟩ := bind_eq_ok.mp h
      obtain ⟨⟨l, rest₂⟩, h₂, h⟩ := bind_eq_ok.mp h
      obtain ⟨rest₃, h₃, h⟩ := bind_eq_ok.mp h
      obtain ⟨⟨l', rest₄⟩, h₄, h⟩ := bind_eq_ok.mp h
      cases h
      have := someSpaces_length_le h₁
      have := quoted_length_le h₂
      have := someSpaces_length_le h₃
      have := quoted_length_le h₄
      simp only [List.length_drop] at *
      omega
    · cases h
      exact Nat.le_refl _

theorem skipNotation_length_le {input rest : Input} (h : skipNotation input = .ok rest) :
    rest.length ≤ input.length := by
  have := spaces_length_le input
  unfold skipNotation at h
  simp only at h
  split at h
  · obtain ⟨rest₁, h₁, h⟩ := bind_eq_ok.mp h
    obtain ⟨⟨n, rest₂⟩, h₂, h⟩ := bind_eq_ok.mp h
    cases h
    have := someSpaces_length_le h₁
    have := name_length_le h₂
    simp only [List.length_drop] at *
    omega
  · cases h
    exact this

theorem entityDefinition_length_le {general : Bool} {input rest : Input} {r : Option Input}
    (h : entityDefinition general input = .ok (r, rest)) : rest.length ≤ input.length := by
  unfold entityDefinition at h
  split at h
  · cases h
  · split at h
    · obtain ⟨⟨text, rest₁⟩, h₁, h⟩ := bind_eq_ok.mp h
      cases h
      exact quoted_length_le h₁
    · obtain ⟨⟨isExternal, rest₁⟩, h₁, h⟩ := bind_eq_ok.mp h
      have := externalId_length_le h₁
      simp only at h
      split at h
      · cases h
      · split at h
        · obtain ⟨rest₂, h₂, h⟩ := bind_eq_ok.mp h
          cases h
          exact Nat.le_trans (skipNotation_length_le h₂) this
        · cases h
          exact this

theorem entityScope_length_le {input rest : Input} {general : Bool}
    (h : entityScope input = .ok (general, rest)) : rest.length ≤ input.length := by
  unfold entityScope at h
  split at h
  · obtain ⟨rest₁, h₁, h⟩ := bind_eq_ok.mp h
    cases h
    exact Nat.le_succ_of_le (someSpaces_length_le h₁)
  · cases h
    exact Nat.le_refl _

theorem entityDeclaration_length_le {input rest : Input} {r : Option (String × Input)}
    (h : entityDeclaration input = .ok (r, rest)) : rest.length ≤ input.length := by
  obtain ⟨rest₁, h₁, h⟩ := bind_eq_ok.mp h
  obtain ⟨⟨general, rest₂⟩, h₂, h⟩ := bind_eq_ok.mp h
  obtain ⟨⟨entity, rest₃⟩, h₃, h⟩ := bind_eq_ok.mp h
  obtain ⟨rest₄, h₄, h⟩ := bind_eq_ok.mp h
  obtain ⟨⟨text?, rest₅⟩, h₅, h⟩ := bind_eq_ok.mp h
  obtain ⟨rest₆, h₆, h⟩ := bind_eq_ok.mp h
  cases h
  have := someSpaces_length_le h₁
  have := entityScope_length_le h₂
  have := name_length_le h₃
  have := someSpaces_length_le h₄
  have := entityDefinition_length_le h₅
  have := spaces_length_le rest₅
  have := expect_length_le h₆
  simp only at *
  omega

/-- One part of the inner part of a document type declaration. -/
inductive Declaration where
  | entity (entity? : Option (String × Input))
  /-- A comment, an instruction, or a declaration of another kind. -/
  | ignored

/-- Whether a text begins with the keyword of a declaration that is ignored. -/
def beginsIgnored (input : Input) : Bool :=
  ['E', 'L', 'E', 'M', 'E', 'N', 'T'].isPrefixOf input ||
    ['A', 'T', 'T', 'L', 'I', 'S', 'T'].isPrefixOf input ||
    ['N', 'O', 'T', 'A', 'T', 'I', 'O', 'N'].isPrefixOf input

/-- The text behind the first `>`. -/
def skipPastClosing (input : Input) : Except Fault Input :=
  match input.dropWhile (· ≠ '>') with
  | [] => .error .cutShort
  | _ :: rest => .ok rest

/-- One declaration behind its `<`. -/
def declaration : Input → Except Fault (Declaration × Input)
  | '!' :: '-' :: '-' :: rest => return (.ignored, ← comment rest)
  | '?' :: rest => return (.ignored, ← instruction rest)
  | '!' :: 'E' :: 'N' :: 'T' :: 'I' :: 'T' :: 'Y' :: rest => do
    let (entity?, rest) ← entityDeclaration rest
    return (.entity entity?, rest)
  | '!' :: rest =>
    if beginsIgnored rest then return (.ignored, ← skipPastClosing rest)
    else .error .misplacedMarkup
  | _ => .error .misplacedMarkup

theorem skipPastClosing_length_le {input rest : Input} (h : skipPastClosing input = .ok rest) :
    rest.length ≤ input.length := by
  unfold skipPastClosing at h
  split at h
  · cases h
  · rename_i c behind hd
    cases h
    have := (List.dropWhile_sublist (l := input) (· ≠ '>')).length_le
    rw [hd] at this
    simp only [List.length_cons] at this
    omega

theorem declaration_length_le {input rest : Input} {d : Declaration}
    (h : declaration input = .ok (d, rest)) : rest.length ≤ input.length := by
  unfold declaration at h
  split at h
  · obtain ⟨rest₁, h₁, h⟩ := bind_eq_ok.mp h
    cases h
    have := comment_length_le h₁
    simp only [List.length_cons]
    omega
  · obtain ⟨rest₁, h₁, h⟩ := bind_eq_ok.mp h
    cases h
    exact Nat.le_succ_of_le (instruction_length_le h₁)
  · obtain ⟨⟨e, rest₁⟩, h₁, h⟩ := bind_eq_ok.mp h
    cases h
    have := entityDeclaration_length_le h₁
    simp only [List.length_cons]
    omega
  · split at h
    · obtain ⟨rest₁, h₁, h⟩ := bind_eq_ok.mp h
      cases h
      exact Nat.le_succ_of_le (skipPastClosing_length_le h₁)
    · cases h
  · cases h

/-- The inner part of a document type declaration up to its end.  The entities
    of `before` come first; nothing may follow the inner part but blanks. -/
def innerDeclarations (before : Entities) (input : Input) : Except Fault (Entities × Input) :=
  match _hs : spaces input with
  | [] => .error .cutShort
  | ']' :: rest => do return (before, ← expect ['>'] (spaces rest))
  | '<' :: rest =>
    match _hd : declaration rest with
    | .error fault => .error fault
    | .ok (.ignored, behind) => innerDeclarations before behind
    | .ok (.entity none, behind) => innerDeclarations before behind
    | .ok (.entity (some entity), behind) => innerDeclarations (before ++ [entity]) behind
  | c :: _ => .error (.unexpectedCharacter c)
termination_by input.length
decreasing_by
  all_goals
    have := declaration_length_le _hd
    have := spaces_length_le input
    rw [_hs] at this
    simp only [List.length_cons] at this
    omega

/-- A document type declaration behind its opening mark: its entities and the
    text behind it. -/
def doctype (input : Input) : Except Fault (Entities × Input) := do
  let (_, rest) ← name (← someSpaces input)
  let (_, rest) ← externalId (spaces rest)
  match spaces rest with
  | '>' :: rest => return ([], rest)
  | '[' :: rest => innerDeclarations [] rest
  | [] => .error .cutShort
  | c :: _ => .error (.unexpectedCharacter c)

end ModuleCatalog.Xml
