import ModuleCatalog.Json.Writer
import ModuleCatalog.Proofs.Lexing

/-! # Laid out tokens

    A text spells some tokens if it holds them in their order, each as the
    writer has it, with any blanks around them.  The writer spells the tokens
    that it is given in either layout.  What it has for a token is one of the
    ways to write the token (`Spells.writes`), and when the blanks outside of
    string literals are deleted, the compact text is left
    (`withoutBlanks_of_spells`). -/

namespace ModuleCatalog.Json

/-- A text holds some tokens in their order and nothing but blanks besides. -/
inductive Spells : List (Token String) → List Char → Prop where
  | nil : Spells [] []
  | blank {tokens : List (Token String)} {text : List Char} {c : Char}
      (hc : isBlank c = true) (h : Spells tokens text) : Spells tokens (c :: text)
  | token (token : Token String) {tokens : List (Token String)} {text : List Char}
      (h : Spells tokens text) : Spells (token :: tokens) (token.written.toList ++ text)

/-- A token with `f` applied to its text. -/
def Token.map {τ : Type u} {σ : Type v} (f : τ → σ) : Token τ → Token σ
  | openArray => .openArray
  | closeArray => .closeArray
  | openObject => .openObject
  | closeObject => .closeObject
  | comma => .comma
  | colon => .colon
  | null => .null
  | bool value => .bool value
  | number literal => .number literal
  | string text => .string (f text)

/-! ## Layouts -/

variable {tokens : List (Token String)} {text : List Char}

theorem Spells.blanks {blanks : List Char} (hblanks : ∀ c ∈ blanks, isBlank c = true)
    (h : Spells tokens text) : Spells tokens (blanks ++ text) := by
  induction blanks with
  | nil => exact h
  | cons c blanks ih =>
    rw [List.forall_mem_cons] at hblanks
    exact .blank hblanks.1 (ih hblanks.2)

/-- The compact text of some tokens is what they are written as, one behind the
    other. -/
theorem toList_compact (tokens : List (Token String)) :
    (compact tokens).toList = tokens.flatMap fun token => token.written.toList := by
  have hfrom : ∀ out : String, (tokens.foldl (fun out token => out ++ token.written) out).toList =
      out.toList ++ tokens.flatMap fun token => token.written.toList := by
    induction tokens with
    | nil => simp
    | cons token tokens ih =>
      intro out
      rw [List.foldl_cons, ih, String.toList_append, List.flatMap_cons, List.append_assoc]
  rw [compact, hfrom]
  simp

theorem spells_compact (tokens : List (Token String)) : Spells tokens (compact tokens).toList := by
  rw [toList_compact]
  induction tokens with
  | nil => exact .nil
  | cons token tokens ih => exact .token token ih

theorem isBlank_of_mem_newLine {level : Nat} {c : Char} (h : c ∈ (newLine level).toList) :
    isBlank c = true := by
  rw [newLine, String.toList_ofList, List.mem_cons, List.mem_replicate] at h
  rcases h with rfl | ⟨-, rfl⟩
  · rfl
  · rfl

/-- What spells the rest of some tokens behind the next one, be it with blanks
    around it, spells them all. -/
theorem exists_spells_cons {out laid before behind : String} {token : Token String}
    (hbefore : ∀ c ∈ before.toList, isBlank c = true)
    (hbehind : ∀ c ∈ behind.toList, isBlank c = true)
    (h : ∃ text, laid.toList = (out ++ before ++ token.written ++ behind).toList ++ text ∧
      Spells tokens text) :
    ∃ text, laid.toList = out.toList ++ text ∧ Spells (token :: tokens) text := by
  obtain ⟨text, hlaid, hspells⟩ := h
  refine ⟨before.toList ++ (token.written.toList ++ (behind.toList ++ text)), ?_, ?_⟩
  · rw [hlaid]
    simp only [String.toList_append, List.append_assoc]
  · exact (Spells.token token (hspells.blanks hbehind)).blanks hbefore

/-- The writer spells tokens behind what stands there already. -/
theorem exists_spells_indentedFrom (out : String) (level : Nat) (tokens : List (Token String)) :
    ∃ text, (indentedFrom out level tokens).toList = out.toList ++ text ∧ Spells tokens text := by
  have hnone : ∀ c ∈ "".toList, isBlank c = true := by simp
  have hline : ∀ level, ∀ c ∈ (newLine level).toList, isBlank c = true :=
    fun level c hc => isBlank_of_mem_newLine hc
  have hspace : ∀ c ∈ " ".toList, isBlank c = true := by simp [isBlank]
  fun_induction indentedFrom out level tokens with
  | case1 out level => exact ⟨[], by simp, .nil⟩
  | case2 out level rest ih =>
    obtain ⟨text, htext, hspells⟩ := ih
    exact ⟨'[' :: ']' :: text, by simp [htext], .token .openArray (.token .closeArray hspells)⟩
  | case3 out level rest ih =>
    obtain ⟨text, htext, hspells⟩ := ih
    exact ⟨'\x7b' :: '\x7d' :: text, by simp [htext],
      .token .openObject (.token .closeObject hspells)⟩
  | case4 out level rest _ _ ih | case5 out level rest _ _ ih =>
    exact exists_spells_cons hnone (hline (level + 1)) (by simpa using ih)
  | case6 out level rest _ _ ih | case7 out level rest _ _ ih =>
    exact exists_spells_cons (hline (level - 1)) hnone (by simpa using ih)
  | case8 out level rest _ _ ih =>
    exact exists_spells_cons hnone (hline level) (by simpa using ih)
  | case9 out level rest _ _ ih =>
    exact exists_spells_cons hnone hspace (by simpa using ih)
  | case10 out level token rest _ _ _ _ _ _ _ _ ih =>
    exact exists_spells_cons hnone hnone (by simpa using ih)

theorem spells_indented (tokens : List (Token String)) :
    Spells tokens (indented tokens).toList := by
  obtain ⟨text, htext, hspells⟩ := exists_spells_indentedFrom "" 0 tokens
  rw [indented, htext]
  simpa using hspells

/-- Either layout spells the tokens of the value that is written. -/
theorem Value.spells_write (value : Value String) (pretty : Bool) :
    Spells value.tokens (value.write pretty).toList := by
  cases pretty with
  | false => exact spells_compact value.tokens
  | true => exact spells_indented value.tokens

/-! ## One way to write -/

theorem hexDigit?_digitChar : ∀ d < 16, Text.hexDigit? (Nat.digitChar d) = some d := by
  decide

/-- A control character is written by four hexadecimal digits. -/
theorem writesUnits_controlEscape {c : Char} (hcontrol : c.toNat < 0x20) :
    WritesUnits [c.toNat] (controlEscape c) := by
  have hzero : Text.hexDigit? '0' = some 0 := rfl
  have hhigh := hexDigit?_digitChar (c.toNat / 16) (by omega)
  have hlow := hexDigit?_digitChar (c.toNat % 16) (by omega)
  have hvalue : c.toNat / 16 * 16 + c.toNat % 16 = c.toNat := by omega
  have hunit : Text.numeral? 16 Text.hexDigit?
      ['0', '0', Nat.digitChar (c.toNat / 16), Nat.digitChar (c.toNat % 16)] = some c.toNat := by
    simp [Text.numeral?, hzero, hhigh, hlow, hvalue]
  exact .code rfl hunit .nil

/-- A character of a string literal stands for its code point, escaped or
    not. -/
theorem writesUnits_escapedChar (c : Char) : WritesUnits [c.toNat] (escapedChar c) := by
  unfold escapedChar
  split
  case h_8 hquote hbackslash _ _ _ _ _ =>
    by_cases hcontrol : c.toNat < 0x20
    · rw [if_pos hcontrol]
      exact writesUnits_controlEscape hcontrol
    · rw [if_neg hcontrol]
      exact .plain hquote hbackslash (by omega) .nil
  all_goals exact .short rfl .nil

theorem writesUnits_escapedChars (cs : List Char) :
    WritesUnits (cs.map Char.toNat) (cs.flatMap escapedChar) := by
  induction cs with
  | nil => exact .nil
  | cons c cs ih => exact (writesUnits_escapedChar c).append ih

/-- Code points encode their characters. -/
theorem encodes_map_toNat (cs : List Char) : Encodes cs (cs.map Char.toNat) := by
  induction cs with
  | nil => exact .nil
  | cons c cs ih => exact .single c ih

/-- What the writer writes for a token is one way to write it. -/
theorem Token.writes_written {token : Token String} (hnumber : token.isNumber = false) :
    (token.map some).Writes token.written.toList := by
  cases token with
  | number => cases hnumber
  | string text =>
    have h := Token.Writes.text (writesUnits_escapedChars text.toList)
      (encodes_map_toNat text.toList)
    rw [String.ofList_toList] at h
    rw [written, stringLiteral, String.toList_ofList]
    exact h
  | bool value => cases value <;> exact .word rfl
  | openArray | closeArray | openObject | closeObject | comma | colon | null => exact .word rfl

/-- A text that spells tokens without numbers writes them. -/
theorem Spells.writes (hspells : Spells tokens text)
    (hnumber : ∀ token ∈ tokens, token.isNumber = false) :
    Writes (tokens.map (Token.map some)) text := by
  induction hspells with
  | nil => exact .nil
  | blank hc _ ih => exact .blank hc (ih hnumber)
  | token token _ ih =>
    rw [List.forall_mem_cons] at hnumber
    exact .token (Token.writes_written hnumber.1) (ih hnumber.2)

/-! ## Texts without blanks -/

/-- Where a character of a text stands. -/
inductive Zone where
  | outside
  /-- In a string literal. -/
  | inside
  /-- Behind a backslash in a string literal. -/
  | escaped
deriving DecidableEq

/-- Where the next character stands. -/
def Zone.next (c : Char) : Zone → Zone
  | outside => if c = '"' then inside else outside
  | inside => if c = '"' then outside else if c = '\\' then escaped else inside
  | escaped => inside

/-- A text without the blanks that stand outside of its string literals. -/
def withoutBlanksFrom : Zone → List Char → List Char
  | _, [] => []
  | zone, c :: rest =>
    if zone = .outside ∧ isBlank c = true then withoutBlanksFrom .outside rest
    else c :: withoutBlanksFrom (zone.next c) rest

/-- A text without the blanks that stand outside of its string literals. -/
def withoutBlanks (text : String) : String :=
  String.ofList (withoutBlanksFrom .outside text.toList)

theorem withoutBlanksFrom_blank {c : Char} (hc : isBlank c = true) (rest : List Char) :
    withoutBlanksFrom .outside (c :: rest) = withoutBlanksFrom .outside rest := by
  simp [withoutBlanksFrom, hc]

theorem withoutBlanksFrom_inside (c : Char) (rest : List Char) :
    withoutBlanksFrom .inside (c :: rest) = c :: withoutBlanksFrom (Zone.inside.next c) rest := by
  simp [withoutBlanksFrom]

theorem withoutBlanksFrom_escaped (c : Char) (rest : List Char) :
    withoutBlanksFrom .escaped (c :: rest) = c :: withoutBlanksFrom .inside rest := by
  simp [withoutBlanksFrom, Zone.next]

theorem next_digitChar : ∀ d < 16, Zone.inside.next (Nat.digitChar d) = .inside := by
  decide

/-- A character of a string literal is kept, and the literal goes on. -/
theorem withoutBlanksFrom_escapedChar (c : Char) (rest : List Char) :
    withoutBlanksFrom .inside (escapedChar c ++ rest) =
      escapedChar c ++ withoutBlanksFrom .inside rest := by
  unfold escapedChar
  split
  case h_8 hquote hbackslash _ _ _ _ _ =>
    by_cases hcontrol : c.toNat < 0x20
    · have hhigh := next_digitChar (c.toNat / 16) (by omega)
      have hlow := next_digitChar (c.toNat % 16) (by omega)
      have hzero : Zone.inside.next '0' = .inside := rfl
      have hbackslash' : Zone.inside.next '\\' = .escaped := rfl
      rw [if_pos hcontrol]
      simp [controlEscape, withoutBlanksFrom_inside, withoutBlanksFrom_escaped, hbackslash', hzero,
        hhigh, hlow]
    · have hc : c ≠ '"' := fun e => hquote e
      have hc' : c ≠ '\\' := fun e => hbackslash e
      have hnext : Zone.inside.next c = .inside := by simp [Zone.next, hc, hc']
      rw [if_neg hcontrol, List.singleton_append, withoutBlanksFrom_inside, hnext]
      rfl
  all_goals rfl

/-- A string literal is kept as it is. -/
theorem withoutBlanksFrom_stringLiteral (text : String) (rest : List Char) :
    withoutBlanksFrom .outside ((stringLiteral text).toList ++ rest) =
      (stringLiteral text).toList ++ withoutBlanksFrom .outside rest := by
  have hchars : ∀ cs : List Char,
      withoutBlanksFrom .inside (cs.flatMap escapedChar ++ '"' :: rest) =
        cs.flatMap escapedChar ++ '"' :: withoutBlanksFrom .outside rest := by
    intro cs
    induction cs with
    | nil => rfl
    | cons c cs ih =>
      rw [List.flatMap_cons, List.append_assoc, withoutBlanksFrom_escapedChar, ih,
        List.append_assoc]
  have hopen : ∀ rest, withoutBlanksFrom .outside ('"' :: rest) =
      '"' :: withoutBlanksFrom .inside rest := fun rest => rfl
  rw [stringLiteral, String.toList_ofList]
  simp [hopen, hchars]

theorem withoutBlanksFrom_written {token : Token String} (hnumber : token.isNumber = false)
    (rest : List Char) :
    withoutBlanksFrom .outside (token.written.toList ++ rest) =
      token.written.toList ++ withoutBlanksFrom .outside rest := by
  cases token with
  | number => cases hnumber
  | string text => exact withoutBlanksFrom_stringLiteral text rest
  | bool value => cases value <;> rfl
  | openArray | closeArray | openObject | closeObject | comma | colon | null => rfl

/-- Without blanks, all texts that spell the same tokens are the compact one. -/
theorem withoutBlanks_of_spells {text : String} (hspells : Spells tokens text.toList)
    (hnumber : ∀ token ∈ tokens, token.isNumber = false) :
    withoutBlanks text = compact tokens := by
  rw [← String.toList_inj, withoutBlanks, String.toList_ofList, toList_compact]
  generalize text.toList = cs at hspells
  induction hspells with
  | nil => rfl
  | blank hc _ ih => rw [withoutBlanksFrom_blank hc, ih hnumber]
  | token token _ ih =>
    rw [List.forall_mem_cons] at hnumber
    rw [withoutBlanksFrom_written hnumber.1, ih hnumber.2, List.flatMap_cons]

end ModuleCatalog.Json
