import Mathlib.Data.List.Forall2
import Mathlib.Data.List.TakeDrop
import ModuleCatalog.Xml.Entity
import ModuleCatalog.Xml.Item

/-! # Markup as it is written

    The parts of a document from the side of a writer: blanks, names, texts in
    which characters are replaced by references, and remarks that leave no
    trace.  Each part is read as what it was written for, whatever stands
    behind it. -/

namespace ModuleCatalog.Xml

/-! ## Runs of characters -/

/-- A run of characters of a class cannot go on here. -/
def Stops (p : Char → Bool) (rest : Input) : Prop :=
  ∀ c behind, rest = c :: behind → p c = false

theorem stops_nil (p : Char → Bool) : Stops p [] := by
  intro c behind h
  cases h

theorem stops_cons {p : Char → Bool} {c : Char} (hc : p c = false) (rest : Input) :
    Stops p (c :: rest) := by
  intro d behind h
  cases h
  exact hc

variable {p : Char → Bool} {cs rest : Input}

theorem takeWhile_append_of_stops (hcs : ∀ c ∈ cs, p c = true) (hrest : Stops p rest) :
    (cs ++ rest).takeWhile p = cs := by
  rw [List.takeWhile_append_of_pos hcs]
  cases rest with
  | nil => simp
  | cons c behind => simp [hrest c behind rfl]

theorem dropWhile_append_of_stops (hcs : ∀ c ∈ cs, p c = true) (hrest : Stops p rest) :
    (cs ++ rest).dropWhile p = rest := by
  rw [List.dropWhile_append_of_pos hcs]
  cases rest with
  | nil => rfl
  | cons c behind => simp [hrest c behind rfl]

/-! ## Blanks and names -/

/-- Nothing but blanks. -/
def IsBlanks (text : Input) : Prop := ∀ c ∈ text, isSpace c = true

theorem isBlanks_nil : IsBlanks [] := by
  intro c hc
  cases hc

theorem isBlanks_cons {c : Char} {blanks : Input} :
    IsBlanks (c :: blanks) ↔ isSpace c = true ∧ IsBlanks blanks :=
  List.forall_mem_cons

/-- Blanks do not count where more of them may follow. -/
theorem spaces_append {blanks : Input} (hblanks : IsBlanks blanks) (rest : Input) :
    spaces (blanks ++ rest) = spaces rest :=
  List.dropWhile_append_of_pos hblanks

theorem spaces_of_stops (hrest : Stops isSpace rest) : spaces rest = rest :=
  dropWhile_append_of_stops (List.forall_mem_nil _) hrest

/-- A name is read up to its end. -/
theorem name_append {text : Input} (hbegins : beginsName text = true)
    (hchars : ∀ c ∈ text, isNameChar c = true) (hrest : Stops isNameChar rest) :
    name (text ++ rest) = .ok (String.ofList text, rest) := by
  cases text with
  | nil => cases hbegins
  | cons c text =>
    have hinner : ∀ d ∈ text, isNameChar d = true := fun d hd =>
      hchars d (List.mem_cons_of_mem _ hd)
    have hstart : isNameStart c = true := hbegins
    rw [List.cons_append, name, if_pos hstart, takeWhile_append_of_stops hinner hrest,
      dropWhile_append_of_stops hinner hrest]

/-- A name without a colon. -/
def IsPlainName (text : Input) : Prop :=
  beginsName text = true ∧ (∀ c ∈ text, isNameChar c = true) ∧ ':' ∉ text

instance (text : Input) : Decidable (IsPlainName text) :=
  decidable_of_iff (beginsName text = true ∧ text.all isNameChar = true ∧ ':' ∉ text)
    (by rw [IsPlainName, List.all_eq_true])

/-- A name without a colon is read as a name without a prefix. -/
theorem qualifiedName_append {name : Input} (hname : IsPlainName name)
    (hrest : Stops isNameChar rest) :
    qualifiedName (name ++ rest) = .ok (⟨"", String.ofList name⟩, rest) := by
  obtain ⟨hbegins, hchars, hcolon⟩ := hname
  have hne : ∀ c ∈ name, decide (c ≠ ':') = true := by
    intro c hc
    simpa using fun e : c = ':' => hcolon (e ▸ hc)
  have hspan : name.span (· ≠ ':') = (name, []) := by
    have htake := takeWhile_append_of_stops hne (stops_nil _)
    have hdrop := dropWhile_append_of_stops hne (stops_nil _)
    rw [List.append_nil] at htake hdrop
    rw [List.span_eq_takeWhile_dropWhile, htake, hdrop]
  have hparsed : QName.ofChars? name = some ⟨"", String.ofList name⟩ := by
    rw [QName.ofChars?, hspan]
    exact if_pos hbegins
  rw [qualifiedName, takeWhile_append_of_stops hchars hrest,
    dropWhile_append_of_stops hchars hrest, hparsed]

/-! ## References -/

/-- What stands between the marks of a reference to a character: one of the
    five fixed names, or the code point as a decimal or hexadecimal number. -/
inductive RefersTo : Char → Input → Prop where
  | quote : RefersTo '"' "quot".toList
  | ampersand : RefersTo '&' "amp".toList
  | apostrophe : RefersTo '\'' "apos".toList
  | less : RefersTo '<' "lt".toList
  | greater : RefersTo '>' "gt".toList
  | decimal {c : Char} {digits : Input} (hdigits : digits ≠ [])
      (hvalue : Text.numeral? 10 Text.decimalDigit? digits = some c.toNat) :
      RefersTo c ('#' :: digits)
  | hexadecimal {c : Char} {digits : Input} (hdigits : digits ≠ [])
      (hvalue : Text.numeral? 16 Text.hexDigit? digits = some c.toNat) :
      RefersTo c ('#' :: 'x' :: digits)

/-- Characters that stand between the marks of a reference. -/
def isReferenceChar (c : Char) : Bool := c = '#' || c.isAlphanum

theorem isReferenceChar_iff {c : Char} : isReferenceChar c = true ↔
    c.toNat = 0x23 ∨ (0x30 ≤ c.toNat ∧ c.toNat ≤ 0x39) ∨ (0x41 ≤ c.toNat ∧ c.toNat ≤ 0x5A) ∨
      (0x61 ≤ c.toNat ∧ c.toNat ≤ 0x7A) := by
  have hmark : c = '#' ↔ c.toNat = 0x23 := by
    rw [Char.ext_iff, ← UInt32.toNat_inj]
    rfl
  have hletter : c.isAlpha = (decide (c.val ≥ 'A'.val ∧ c.val ≤ 'Z'.val) ||
      (decide (c.val ≥ 'a'.val) && decide (c.val ≤ 'z'.val))) := rfl
  simp only [isReferenceChar, Char.isAlphanum, hletter, Char.isDigit, Bool.or_eq_true,
    Bool.and_eq_true, decide_eq_true_eq, ge_iff_le, UInt32.le_iff_toNat_le, hmark]
  simp
  omega

theorem isSome_of_numeral? {base : Nat} {digit? : Char → Option Nat} {digits : Input} {n : Nat}
    (h : Text.numeral? base digit? digits = some n) :
    ∀ c ∈ digits, (digit? c).isSome = true := by
  rw [Text.numeral?] at h
  -- The fold starts anew behind each digit, so its value cannot stay 0 in the induction.
  generalize 0 = value at h
  induction digits generalizing value with
  | nil => simp
  | cons d digits ih =>
    rw [List.foldlM_cons] at h
    cases hd : digit? d with
    | none =>
      rw [hd] at h
      cases h
    | some k =>
      rw [hd] at h
      rintro c (_ | ⟨_, hc⟩)
      · rw [hd]
        rfl
      · exact ih _ h c hc

theorem isReferenceChar_of_decimalDigit? {c : Char} (h : (Text.decimalDigit? c).isSome = true) :
    isReferenceChar c = true := by
  by_cases hdigit : c.isDigit = true
  · simp [isReferenceChar, Char.isAlphanum, hdigit]
  · simp [Text.decimalDigit?, hdigit] at h

theorem isReferenceChar_of_hexDigit? {c : Char} (h : (Text.hexDigit? c).isSome = true) :
    isReferenceChar c = true := by
  by_cases hdigit : c.isDigit = true
  · simp [isReferenceChar, Char.isAlphanum, hdigit]
  · have hletter : ('a' ≤ c ∧ c ≤ 'f') ∨ ('A' ≤ c ∧ c ≤ 'F') := by
      by_contra hnone
      rw [not_or] at hnone
      rw [Text.hexDigit?, if_neg hdigit, if_neg hnone.1, if_neg hnone.2] at h
      cases h
    change (97 ≤ c.toNat ∧ c.toNat ≤ 102) ∨ (65 ≤ c.toNat ∧ c.toNat ≤ 70) at hletter
    rw [isReferenceChar_iff]
    omega

theorem isReferenceChar_of_refersTo {c : Char} {body : Input} (h : RefersTo c body) :
    ∀ d ∈ body, isReferenceChar d = true := by
  cases h with
  | quote | ampersand | apostrophe | less | greater => exact List.all_eq_true.mp (by decide)
  | decimal hdigits hvalue =>
    rintro d (_ | ⟨_, hd⟩)
    · decide
    · exact isReferenceChar_of_decimalDigit? (isSome_of_numeral? hvalue d hd)
  | hexadecimal hdigits hvalue =>
    rintro d (_ | ⟨_, _ | ⟨_, hd⟩⟩)
    · decide
    · decide
    · exact isReferenceChar_of_hexDigit? (isSome_of_numeral? hvalue d hd)

theorem isXmlChar_of_isReferenceChar {c : Char} (h : isReferenceChar c = true) :
    isXmlChar c = true := by
  have hbounds : 0x20 ≤ c.toNat ∧ c.toNat < 0x80 := by
    rw [isReferenceChar_iff] at h
    omega
  have hfffe : c ≠ '\ufffe' := by
    rintro rfl
    exact absurd hbounds.2 (by decide)
  have hffff : c ≠ '\uffff' := by
    rintro rfl
    exact absurd hbounds.2 (by decide)
  rw [isXmlChar, if_neg (by omega)]
  simp [hfffe, hffff]

theorem ofNumber?_toNat {c : Char} (hc : isXmlChar c = true) :
    Piece.ofNumber? c.toNat = some (.character c) := by
  have hle : c.toNat ≤ Piece.maxNumber := by
    have hlt := c.val.toNat_lt
    exact Nat.le_pred_of_lt hlt
  have hvalid : c.toNat.isValidChar := c.valid
  rw [Piece.ofNumber?, if_pos hle, if_pos hvalid, Char.ofNat_toNat]
  exact if_pos hc

/-- A reference to a character of XML is read as that character. -/
theorem ofBody?_of_refersTo {c : Char} {body : Input} (h : RefersTo c body)
    (hc : isXmlChar c = true) : Piece.ofBody? body = some (.character c) := by
  cases h with
  | quote | ampersand | apostrophe | less | greater => decide +kernel
  | @decimal _ digits hdigits hvalue =>
    cases digits with
    | nil => contradiction
    | cons d digits =>
      have hd := isSome_of_numeral? hvalue d (List.mem_cons_self ..)
      have hx : d ≠ 'x' := by
        rintro rfl
        exact absurd hd (by decide)
      have hbody : Piece.ofBody? ('#' :: d :: digits) =
          (Text.numeral? 10 Text.decimalDigit? (d :: digits)).bind Piece.ofNumber? := by
        simp [Piece.ofBody?, hx]
      rw [hbody, hvalue]
      exact ofNumber?_toNat hc
  | @hexadecimal _ digits hdigits hvalue =>
    cases digits with
    | nil => contradiction
    | cons d digits =>
      have hbody : Piece.ofBody? ('#' :: 'x' :: d :: digits) =
          (Text.numeral? 16 Text.hexDigit? (d :: digits)).bind Piece.ofNumber? := rfl
      rw [hbody, hvalue]
      exact ofNumber?_toNat hc

/-! ## Texts with references -/

/-- A text that stands for some characters: each of them as it is, unless it is
    one that is always escaped, or by a reference. -/
inductive Written (escaped : Input) : Input → Input → Prop where
  | nil : Written escaped [] []
  | plain {c : Char} {chars text : Input} (hplain : c ∉ escaped)
      (h : Written escaped chars text) : Written escaped (c :: chars) (c :: text)
  | reference {c : Char} {body chars text : Input} (hbody : RefersTo c body)
      (h : Written escaped chars text) :
      Written escaped (c :: chars) ('&' :: (body ++ ';' :: text))

/-- A piece of a text that stands for a character. -/
inductive Piece.StandsFor (escaped : Input) : Piece → Char → Prop where
  | plain {c : Char} (hplain : c ∉ escaped) : StandsFor escaped (.plain c) c
  | reference (c : Char) : StandsFor escaped (.character c) c

section

variable {escaped chars text : Input}

/-- What such a text is made of. -/
theorem Written.mem (h : Written escaped chars text) :
    ∀ d ∈ text, (d ∈ chars ∧ d ∉ escaped) ∨ isReferenceChar d = true ∨ d = '&' ∨ d = ';' := by
  induction h with
  | nil => simp
  | @plain c chars text hplain h ih =>
    rintro d (_ | ⟨_, hd⟩)
    · exact .inl ⟨List.mem_cons_self .., hplain⟩
    · rcases ih d hd with ⟨hchars, hescaped⟩ | hmark
      · exact .inl ⟨List.mem_cons_of_mem _ hchars, hescaped⟩
      · exact .inr hmark
  | @reference c body chars text hbody h ih =>
    intro d hd
    rw [List.mem_cons, List.mem_append, List.mem_cons] at hd
    rcases hd with rfl | hd | rfl | hd
    · simp
    · exact .inr (.inl (isReferenceChar_of_refersTo hbody d hd))
    · simp
    · rcases ih d hd with ⟨hchars, hescaped⟩ | hmark
      · exact .inl ⟨List.mem_cons_of_mem _ hchars, hescaped⟩
      · exact .inr hmark

/-- Characters that are always escaped are not in the text, unless references
    are made of them. -/
theorem Written.not_mem (h : Written escaped chars text) {d : Char} (hd : d ∈ escaped)
    (hreference : isReferenceChar d = false) (hmarks : d ≠ '&' ∧ d ≠ ';') : d ∉ text := by
  intro hmem
  rcases h.mem d hmem with ⟨-, hescaped⟩ | hbody | rfl | rfl
  · exact hescaped hd
  · rw [hreference] at hbody
    cases hbody
  · exact hmarks.1 rfl
  · exact hmarks.2 rfl

theorem Written.xmlChars (h : Written escaped chars text)
    (hchars : ∀ c ∈ chars, isXmlChar c = true) : ∀ d ∈ text, isXmlChar d = true := by
  intro d hd
  rcases h.mem d hd with ⟨hmem, -⟩ | hbody | rfl | rfl
  · exact hchars d hmem
  · exact isXmlChar_of_isReferenceChar hbody
  · decide
  · decide

/-- A reference is read up to its end mark. -/
theorem piecesFrom_body (before : List Piece) {body : Input} (hend : ';' ∉ body)
    (read rest : Input) :
    piecesFrom before (some read) (body ++ ';' :: rest) =
      piecesFrom before (some (body.reverse ++ read)) (';' :: rest) := by
  induction body generalizing read with
  | nil => rfl
  | cons c body ih =>
    have hc : c ≠ ';' := fun e => hend (e ▸ List.mem_cons_self ..)
    have hbody : ';' ∉ body := fun hmem => hend (List.mem_cons_of_mem _ hmem)
    rw [List.cons_append, piecesFrom]
    simp only [if_neg hc]
    rw [ih hbody, List.reverse_cons, List.append_assoc]
    rfl

/-- A text is read as pieces that stand for its characters, one by one. -/
theorem Written.exists_pieces (h : Written escaped chars text) (hmark : '&' ∈ escaped)
    (hchars : ∀ c ∈ chars, isXmlChar c = true) :
    ∃ read, List.Forall₂ (Piece.StandsFor escaped) read chars ∧
      ∀ before, piecesFrom before none text = .ok (before.reverse ++ read) := by
  induction h with
  | nil => exact ⟨[], .nil, fun before => by simp [piecesFrom]⟩
  | @plain c chars text hplain h ih =>
    obtain ⟨read, hread, hpieces⟩ := ih fun d hd => hchars d (List.mem_cons_of_mem _ hd)
    have hc : c ≠ '&' := fun e => hplain (e ▸ hmark)
    refine ⟨.plain c :: read, .cons (.plain hplain) hread, fun before => ?_⟩
    rw [piecesFrom]
    simp only [if_neg hc]
    rw [hpieces]
    simp
  | @reference c body chars text hbody h ih =>
    obtain ⟨read, hread, hpieces⟩ := ih fun d hd => hchars d (List.mem_cons_of_mem _ hd)
    have hend : ';' ∉ body := fun hmem =>
      absurd (isReferenceChar_of_refersTo hbody _ hmem) (by decide)
    have hpiece := ofBody?_of_refersTo hbody (hchars c (List.mem_cons_self ..))
    refine ⟨.character c :: read, .cons (.reference c) hread, fun before => ?_⟩
    have hopen : piecesFrom before none ('&' :: (body ++ ';' :: text)) =
        piecesFrom before (some []) (body ++ ';' :: text) := rfl
    rw [hopen, piecesFrom_body before hend, List.append_nil, piecesFrom]
    simp only [List.reverse_reverse, hpiece]
    rw [if_pos trivial, hpieces]
    simp

end

/-! ## Attribute values -/

/-- The characters that are always escaped in an attribute value. -/
def valueEscapes : Input := ['&', '<', '"', '\t', '\n', '\r']

theorem joinLineEnds_of_not_mem {text : Input} (h : '\r' ∉ text) : joinLineEnds text = text := by
  fun_induction joinLineEnds text with
  | case1 => simp at h
  | case2 c text _ ih => rw [ih fun hmem => h (List.mem_cons_of_mem _ hmem)]
  | case3 => rfl

section

variable {chars text : Input} (expand : String → ValueScan → Except Fault ValueScan)

theorem read_of_standsFor (scan : ValueScan) {piece : Piece} {c : Char}
    (h : piece.StandsFor valueEscapes c) :
    scan.read expand false piece = .ok { scan with text := c :: scan.text } := by
  cases h with
  | plain hplain =>
    have hc : normalizedChar c = c := by
      simp only [valueEscapes, List.mem_cons, not_or] at hplain
      simp [normalizedChar, hplain]
    rw [ValueScan.read, hc]
  | reference => rfl

theorem foldlM_read {read : List Piece}
    (h : List.Forall₂ (Piece.StandsFor valueEscapes) read chars) (scan : ValueScan) :
    read.foldlM (ValueScan.read expand false) scan =
      .ok { scan with text := chars.reverse ++ scan.text } := by
  induction h generalizing scan with
  | nil => rfl
  | @cons piece c read chars hpiece h ih =>
    rw [List.foldlM_cons, read_of_standsFor expand scan hpiece]
    show read.foldlM _ _ = _
    rw [ih]
    simp

/-- The literal of a value is read as that value. -/
theorem attributeValue_of_written (h : Written valueEscapes chars text)
    (hchars : ∀ c ∈ chars, isXmlChar c = true) (entities : Entities) (references : Nat) :
    attributeValue entities entityDepth references text =
      .ok (String.ofList chars, references) := by
  have hjoined : joinLineEnds text = text :=
    joinLineEnds_of_not_mem (h.not_mem (by decide) (by decide) (by decide))
  obtain ⟨read, hread, hpieces⟩ := h.exists_pieces (by decide) hchars
  have hpieces : pieces text = .ok read := hpieces []
  rw [attributeValue, ValueScan.readText, hjoined, hpieces]
  show (List.foldlM _ _ _ >>= _) = _
  rw [show (entityDepth != entityDepth) = false from rfl, foldlM_read _ hread]
  simp [bind, Except.bind, pure, Except.pure]

/-- A value between quotes is read as its literal. -/
theorem attributeLiteral_append (h : Written valueEscapes chars text)
    (hchars : ∀ c ∈ chars, isXmlChar c = true) (rest : Input) :
    attributeLiteral ('"' :: (text ++ '"' :: rest)) = .ok (text, rest) := by
  have hquote : ∀ c ∈ text, decide (c ≠ '"') = true := by
    intro c hc
    have hnot := h.not_mem (d := '"') (by decide) (by decide) (by decide)
    simpa using fun e : c = '"' => hnot (e ▸ hc)
  have hstops : Stops (fun c => decide (c ≠ '"')) ('"' :: rest) := stops_cons (by decide) rest
  have hquoted : quoted ('"' :: (text ++ '"' :: rest)) = .ok (text, rest) := by
    rw [quoted, if_pos (by decide), takeWhile_append_of_stops hquote hstops,
      dropWhile_append_of_stops hquote hstops]
  have hfind : text.find? (fun c => decide (c = '<') || !isXmlChar c) = none := by
    rw [List.find?_eq_none]
    intro c hc
    have hnot := h.not_mem (d := '<') (by decide) (by decide) (by decide)
    have hne : c ≠ '<' := fun e => hnot (e ▸ hc)
    simp [hne, h.xmlChars hchars c hc]
  rw [attributeLiteral, hquoted]
  simp only [bind, Except.bind, hfind]
  rfl

end

/-! ## Character data -/

/-- Text between elements: characters of XML in which the end mark of a
    character data section does not occur. -/
def IsCharacterData (text : Input) : Prop :=
  ∃ chars, (∀ c ∈ chars, isXmlChar c = true) ∧ Written ['&', '<'] chars text ∧
    ¬ [']', ']', '>'] <:+: text

theorem holdsCharacterDataEnd_eq_false {text : Input} (h : ¬ [']', ']', '>'] <:+: text) :
    holdsCharacterDataEnd text = false := by
  induction text with
  | nil => rfl
  | cons c text ih =>
    rw [List.infix_cons_iff, not_or] at h
    rw [holdsCharacterDataEnd, ih h.2, Bool.or_false, ← Bool.not_eq_true,
      List.isPrefixOf_iff_prefix]
    exact h.1

theorem filterMap_entityName? {escaped chars : Input} {read : List Piece}
    (h : List.Forall₂ (Piece.StandsFor escaped) read chars) :
    read.filterMap Piece.entityName? = [] := by
  induction h with
  | nil => rfl
  | cons hpiece h ih =>
    cases hpiece with
    | plain => exact ih
    | reference => exact ih

/-- Text between elements refers to no entities. -/
theorem entitiesOfText_of_isCharacterData {text : Input} (h : IsCharacterData text) :
    entitiesOfText text = .ok [] := by
  obtain ⟨chars, hchars, hwritten, hend⟩ := h
  have hfind : text.find? (!isXmlChar ·) = none := by
    rw [List.find?_eq_none]
    intro c hc
    simp [hwritten.xmlChars hchars c hc]
  obtain ⟨read, hread, hpieces⟩ := hwritten.exists_pieces (by decide) hchars
  have hpieces : pieces text = .ok read := hpieces []
  rw [entitiesOfText, hfind]
  simp only [holdsCharacterDataEnd_eq_false hend, hpieces]
  simp [bind, Except.bind, pure, Except.pure, filterMap_entityName? hread]

/-! ## Remarks -/

/-- A comment: two hyphens only stand at its end. -/
inductive IsComment : Input → Prop where
  | intro {body : Input} (hbody : ∀ c ∈ body, isXmlChar c = true)
      (hhyphens : ¬ ['-', '-'] <:+: body ++ ['-']) :
      IsComment (['<', '!', '-', '-'] ++ (body ++ ['-', '-', '>']))

/-- A section of character data, in which only its end mark is markup. -/
inductive IsSection : Input → Prop where
  | intro {body : Input} (hbody : ∀ c ∈ body, isXmlChar c = true)
      (hend : ¬ [']', ']', '>'] <:+: body) :
      IsSection (['<', '!', '[', 'C', 'D', 'A', 'T', 'A', '['] ++ (body ++ [']', ']', '>']))

/-- A processing instruction: its target and, behind a blank, what the target is
    given. -/
inductive IsInstruction : Input → Prop where
  | intro {target body : Input} (htarget : beginsName target = true)
      (hchars : ∀ c ∈ target, isNameChar c = true) (hdeclaration : target ≠ ['x', 'm', 'l'])
      (hparted : Stops (!isSpace ·) body) (hbody : ∀ c ∈ body, isXmlChar c = true)
      (hend : ¬ ['?', '>'] <:+: body) :
      IsInstruction (['<', '?'] ++ (target ++ (body ++ ['?', '>'])))

/-- The first two hyphens end a comment. -/
theorem comment_append {body : Input} (hbody : ∀ c ∈ body, isXmlChar c = true)
    (hhyphens : ¬ ['-', '-'] <:+: body ++ ['-']) (rest : Input) :
    comment (body ++ '-' :: '-' :: '>' :: rest) = .ok rest := by
  induction body with
  | nil => rfl
  | cons c body ih =>
    rw [List.cons_append, List.infix_cons_iff, not_or] at hhyphens
    have hrest := ih (fun d hd => hbody d (List.mem_cons_of_mem _ hd)) hhyphens.2
    have hchar := hbody c (List.mem_cons_self ..)
    by_cases hc : c = '-'
    · -- Behind a hyphen stands another character, or there would be two of them.
      subst hc
      cases body with
      | nil => exact absurd (List.prefix_refl _) hhyphens.1
      | cons d body =>
        have hd : d ≠ '-' := by
          rintro rfl
          exact hhyphens.1 ⟨body ++ ['-'], rfl⟩
        rw [← hrest]
        simp [comment, hd, hchar]
    · rw [← hrest]
      simp [comment, hc, hchar]

section

variable {start : Input} {last : Char}

/-- A mark whose last character occurs only there does not begin before another
    one, unless all of it stands before that. -/
theorem not_mark_across (hlast : last ∉ start) {front : Input} (hsome : front ≠ [])
    (hfront : ¬ start ++ [last] <+: front) (rest : Input) :
    ¬ start ++ [last] <+: front ++ (start ++ [last] ++ rest) := by
  rintro ⟨behind, h⟩
  rcases List.append_eq_append_iff.mp h with ⟨after, hinside, -⟩ | ⟨common, hstart, hcommon⟩
  · exact hfront ⟨after, hinside.symm⟩
  · have hsuffix : common <:+ start ++ [last] := ⟨front, hstart.symm⟩
    have hshorter : common.length ≤ start.length := by
      have hlength := congrArg List.length hstart
      have hpos := List.length_pos_iff.mpr hsome
      simp only [List.length_append, List.length_cons, List.length_nil] at hlength
      omega
    by_cases hnil : common = []
    · rw [hnil, List.append_nil] at hstart
      exact hfront (hstart ▸ List.prefix_refl _)
    · -- What the two marks have in common ends one and begins the other.
      have hend : [last] <:+ common :=
        List.suffix_of_suffix_length_le (List.suffix_append ..) hsuffix
          (List.length_pos_iff.mpr hnil)
      have hbegin : common <+: start :=
        List.prefix_of_prefix_length_le ⟨behind, hcommon.symm⟩
          (List.append_assoc .. ▸ List.prefix_append ..) hshorter
      exact hlast (hbegin.subset (hend.subset (List.mem_singleton_self last)))

/-- What stands before a mark is skipped with it. -/
theorem skipPast_append (hlast : last ∉ start) {body : Input}
    (hbody : ∀ c ∈ body, isXmlChar c = true) (hmark : ¬ start ++ [last] <:+: body)
    (rest : Input) :
    skipPast (start ++ [last]) (body ++ (start ++ [last] ++ rest)) = .ok rest := by
  induction body with
  | nil =>
    have hbegins : (start ++ [last]).isPrefixOf (start ++ [last] ++ rest) = true :=
      List.isPrefixOf_iff_prefix.mpr (List.prefix_append ..)
    obtain ⟨c, behind, hcons⟩ : ∃ c behind, start ++ [last] ++ rest = c :: behind :=
      List.exists_cons_of_ne_nil (by simp)
    rw [List.nil_append, hcons, skipPast, ← hcons, if_pos hbegins, List.drop_left]
  | cons c body ih =>
    rw [List.infix_cons_iff, not_or] at hmark
    have hrest := ih (fun d hd => hbody d (List.mem_cons_of_mem _ hd)) hmark.2
    have hnot := not_mark_across hlast (List.cons_ne_nil c body) hmark.1 rest
    rw [List.cons_append] at hnot
    rw [List.cons_append, skipPast, if_neg (by rwa [List.isPrefixOf_iff_prefix]),
      if_pos (hbody c (List.mem_cons_self ..)), hrest]

end

theorem isNameChar_eq_false_of_isSpace {c : Char} (h : isSpace c = true) :
    isNameChar c = false := by
  simp only [isSpace, Bool.or_eq_true, decide_eq_true_eq] at h
  rcases h with ((rfl | rfl) | rfl) | rfl
  all_goals decide

section

variable {target body : Input}

theorem stops_of_parted (hparted : Stops (!isSpace ·) body) (rest : Input) :
    Stops isNameChar (body ++ '?' :: '>' :: rest) := by
  cases body with
  | nil => exact stops_cons (by decide) _
  | cons c body =>
    have hspace : isSpace c = true := by simpa using hparted c body rfl
    exact stops_cons (isNameChar_eq_false_of_isSpace hspace) _

/-- An instruction is not taken for an XML declaration. -/
theorem not_declaration_prefix (hchars : ∀ c ∈ target, isNameChar c = true)
    (hdeclaration : target ≠ ['x', 'm', 'l']) (hparted : Stops (!isSpace ·) body) (rest : Input) :
    ¬ ['x', 'm', 'l', ' '] <+: target ++ (body ++ '?' :: '>' :: rest) := by
  rintro ⟨behind, h⟩
  have htarget := takeWhile_append_of_stops hchars (stops_of_parted hparted rest)
  have hspace : Stops isNameChar (' ' :: behind) := stops_cons (by decide) behind
  have hnames : ∀ c ∈ ['x', 'm', 'l'], isNameChar c = true := List.all_eq_true.mp (by decide)
  have hxml := takeWhile_append_of_stops hnames hspace
  rw [← h] at htarget
  exact hdeclaration (htarget.symm.trans hxml)

/-- An instruction is read up to its end mark. -/
theorem instruction_append (htarget : beginsName target = true)
    (hchars : ∀ c ∈ target, isNameChar c = true) (hdeclaration : target ≠ ['x', 'm', 'l'])
    (hparted : Stops (!isSpace ·) body) (hbody : ∀ c ∈ body, isXmlChar c = true)
    (hend : ¬ ['?', '>'] <:+: body) (rest : Input) :
    instruction (target ++ (body ++ '?' :: '>' :: rest)) = .ok rest := by
  have hnot := not_declaration_prefix hchars hdeclaration hparted rest
  have hname := name_append htarget hchars (stops_of_parted hparted rest)
  have hspaces : spaces (body ++ '?' :: '>' :: rest) = spaces body ++ '?' :: '>' :: rest := by
    have hmark : spaces ('?' :: '>' :: rest) = '?' :: '>' :: rest :=
      spaces_of_stops (stops_cons (by decide) _)
    rw [spaces, List.dropWhile_append]
    split
    · rename_i hempty
      rw [List.isEmpty_iff] at hempty
      rw [spaces, hempty]
      exact hmark
    · rfl
  have hinner : ∀ c ∈ spaces body, isXmlChar c = true := fun c hc =>
    hbody c ((List.dropWhile_sublist _).subset hc)
  have hend' : ¬ ['?', '>'] <:+: spaces body := fun h =>
    hend (h.trans (List.dropWhile_suffix _).isInfix)
  rw [instruction, if_neg (by rwa [List.isPrefixOf_iff_prefix]), hname]
  show skipPast ['?', '>'] (spaces _) = _
  rw [hspaces]
  have hmark : '>' ∉ ['?'] := by decide
  exact skipPast_append hmark hinner hend' rest

end

/-- A remark: a comment, a section of character data, or an instruction. -/
def IsRemark (text : Input) : Prop := IsComment text ∨ IsSection text ∨ IsInstruction text

/-- A remark is an item that is ignored. -/
theorem item_append_of_isRemark {text : Input} (h : IsRemark text) (rest : Input) :
    item (text ++ rest) = .ok (.ignored, rest) := by
  rcases h with h | h | h
  · obtain ⟨hbody, hhyphens⟩ := h
    have hread := comment_append hbody hhyphens rest
    simp [item, hread, bind, Except.bind, pure, Except.pure]
  · obtain ⟨hbody, hend⟩ := h
    have hmark : '>' ∉ [']', ']'] := by decide
    have hread := skipPast_append hmark hbody hend rest
    simp [item, expect, bind, Except.bind, pure, Except.pure] at hread ⊢
    simp [hread]
  · obtain ⟨htarget, hchars, hdeclaration, hparted, hbody, hend⟩ := h
    have hread := instruction_append htarget hchars hdeclaration hparted hbody hend rest
    simp [item, hread, bind, Except.bind, pure, Except.pure]

end ModuleCatalog.Xml
