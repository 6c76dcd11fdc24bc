import Mathlib.Algebra.Group.Nat.Defs
import Mathlib.Data.List.Chain
import Mathlib.Data.List.Induction
import ModuleCatalog.Fallible
import ModuleCatalog.Json.Lexer

/-! # The grammar of JSON texts

    What may be written for some tokens, told without the lexer: numbers by
    their parts, string literals by their code units, each of which may be
    written in several ways, and blanks wherever one likes (`Writes`).

    The leaves of the grammar are compared with the parts of the lexer here.
    The automaton for numbers comes to an end exactly on the numbers of the
    grammar (`isNumber_iff`), and code units name a text exactly if they encode
    one (`textOfUnits_eq_some_iff`). -/

namespace ModuleCatalog.Json

/-! ## Numbers -/

/-- One or more decimal digits. -/
def IsDigits (cs : List Char) : Prop := cs ≠ [] ∧ ∀ c ∈ cs, c.isDigit = true

/-- The whole part of a number.  No zero stands ahead of another digit. -/
inductive IsWhole : List Char → Prop where
  | zero : IsWhole ['0']
  | digits {c : Char} {cs : List Char} (hc : c.isDigit = true) (hne : c ≠ '0')
      (hcs : ∀ d ∈ cs, d.isDigit = true) : IsWhole (c :: cs)

/-- The fraction of a number, which may be missing. -/
inductive IsFraction : List Char → Prop where
  | nil : IsFraction []
  | point {cs : List Char} (hcs : IsDigits cs) : IsFraction ('.' :: cs)

/-- The exponent of a number, which may be missing. -/
inductive IsExponent : List Char → Prop where
  | nil : IsExponent []
  | mark {mark : Char} {sign cs : List Char} (hmark : mark = 'e' ∨ mark = 'E')
      (hsign : sign = [] ∨ sign = ['+'] ∨ sign = ['-']) (hcs : IsDigits cs) :
      IsExponent (mark :: (sign ++ cs))

/-- A number. -/
inductive IsNumber : List Char → Prop where
  | intro {sign whole fraction exponent : List Char} (hsign : sign = [] ∨ sign = ['-'])
      (hwhole : IsWhole whole) (hfraction : IsFraction fraction)
      (hexponent : IsExponent exponent) :
      IsNumber (sign ++ (whole ++ (fraction ++ exponent)))

/-! ## String literals -/

/-- The body of a string literal writes some code units.  A character that is
    written plainly stands for its code point. -/
inductive WritesUnits : List Nat → List Char → Prop where
  | nil : WritesUnits [] []
  | plain {c : Char} {units : List Nat} {body : List Char} (hquote : c ≠ '"')
      (hbackslash : c ≠ '\\') (hcontrol : 0x20 ≤ c.toNat) (h : WritesUnits units body) :
      WritesUnits (c.toNat :: units) (c :: body)
  | short {c : Char} {unit : Nat} {units : List Nat} {body : List Char}
      (hc : Lexer.shortEscape? c = some unit) (h : WritesUnits units body) :
      WritesUnits (unit :: units) ('\\' :: c :: body)
  | code {digits : List Char} {unit : Nat} {units : List Nat} {body : List Char}
      (hlength : digits.length = 4) (hunit : Text.numeral? 16 Text.hexDigit? digits = some unit)
      (h : WritesUnits units body) :
      WritesUnits (unit :: units) ('\\' :: 'u' :: (digits ++ body))

/-- Code units encode the characters of a text, some of them by a surrogate
    pair. -/
inductive Encodes : List Char → List Nat → Prop where
  | nil : Encodes [] []
  | single (c : Char) {cs : List Char} {units : List Nat} (h : Encodes cs units) :
      Encodes (c :: cs) (c.toNat :: units)
  | pair {high low : Nat} {cs : List Char} {units : List Nat}
      (hhigh : isHighSurrogate high = true) (hlow : isLowSurrogate low = true)
      (h : Encodes cs units) : Encodes (pairedChar high low :: cs) (high :: low :: units)

/-! ## Tokens -/

variable {τ : Type u}

/-- Whether a token is a number. -/
def Token.isNumber : Token τ → Bool
  | number _ => true
  | _ => false

/-- The one way to write a token that is neither a number nor a string. -/
def Token.word? : Token τ → Option (List Char)
  | openArray => some ['[']
  | closeArray => some [']']
  | openObject => some ['\x7b']
  | closeObject => some ['\x7d']
  | comma => some [',']
  | colon => some [':']
  | null => some ['n', 'u', 'l', 'l']
  | bool true => some ['t', 'r', 'u', 'e']
  | bool false => some ['f', 'a', 'l', 's', 'e']
  | number _ | string _ => none

/-- A token may be written in this way.  A literal whose code units encode no
    text names none. -/
inductive Token.Writes : Token LiteralText → List Char → Prop where
  | word {token : Token LiteralText} {cs : List Char} (h : token.word? = some cs) :
      token.Writes cs
  | number {cs : List Char} (h : IsNumber cs) : (Token.number (String.ofList cs)).Writes cs
  | text {cs : List Char} {units : List Nat} {body : List Char} (hbody : WritesUnits units body)
      (hencodes : Encodes cs units) :
      (Token.string (some (String.ofList cs))).Writes ('"' :: (body ++ ['"']))
  | broken {units : List Nat} {body : List Char} (hbody : WritesUnits units body)
      (hbroken : ∀ cs, ¬ Encodes cs units) : (Token.string none).Writes ('"' :: (body ++ ['"']))

/-- The characters that may stand between two tokens. -/
def isBlank (c : Char) : Bool := c = ' ' || c = '\t' || c = '\n' || c = '\r'

/-- A text holds some tokens in their order and nothing but blanks besides. -/
inductive Writes : List (Token LiteralText) → List Char → Prop where
  | nil : Writes [] []
  | blank {tokens : List (Token LiteralText)} {text : List Char} {c : Char}
      (hc : isBlank c = true) (h : Writes tokens text) : Writes tokens (c :: text)
  | token {token : Token LiteralText} {tokens : List (Token LiteralText)}
      {written text : List Char} (hwritten : token.Writes written) (h : Writes tokens text) :
      Writes (token :: tokens) (written ++ text)

theorem Writes.append {tokens tokens' : List (Token LiteralText)} {text text' : List Char}
    (h : Writes tokens text) (h' : Writes tokens' text') :
    Writes (tokens ++ tokens') (text ++ text') := by
  induction h with
  | nil => exact h'
  | blank hc _ ih => exact .blank hc ih
  | token hwritten _ ih =>
    rw [List.append_assoc]
    exact .token hwritten ih

/-- Two numbers may not stand side by side, where they would be read as one. -/
def NumbersApart (tokens : List (Token τ)) : Prop :=
  tokens.IsChain fun token next => token.isNumber = true → next.isNumber = false

/-! ## The automaton for numbers -/

namespace NumberPart

/-- The part that is read last in a text. -/
def run? (part : NumberPart) (cs : List Char) : Option NumberPart := cs.foldlM next? part

/-- A number without its sign, up to the end of the given part. -/
inductive EndsIn : NumberPart → List Char → Prop where
  | sign : EndsIn sign []
  | zero : EndsIn zero ['0']
  | whole {c : Char} {cs : List Char} (hc : c.isDigit = true) (hne : c ≠ '0')
      (hcs : ∀ d ∈ cs, d.isDigit = true) : EndsIn whole (c :: cs)
  | point {cs : List Char} (hcs : IsWhole cs) : EndsIn point (cs ++ ['.'])
  | fraction {cs ds : List Char} (hcs : IsWhole cs) (hds : IsDigits ds) :
      EndsIn fraction (cs ++ '.' :: ds)
  | exponent {cs ds : List Char} {mark : Char} (hcs : IsWhole cs) (hds : IsFraction ds)
      (hmark : mark = 'e' ∨ mark = 'E') : EndsIn exponent (cs ++ (ds ++ [mark]))
  | exponentSign {cs ds : List Char} {mark sign : Char} (hcs : IsWhole cs) (hds : IsFraction ds)
      (hmark : mark = 'e' ∨ mark = 'E') (hsign : sign = '+' ∨ sign = '-') :
      EndsIn exponentSign (cs ++ (ds ++ [mark, sign]))
  | power {cs ds es : List Char} {mark : Char} {sign : List Char} (hcs : IsWhole cs)
      (hds : IsFraction ds) (hmark : mark = 'e' ∨ mark = 'E')
      (hsign : sign = [] ∨ sign = ['+'] ∨ sign = ['-']) (hes : IsDigits es) :
      EndsIn power (cs ++ (ds ++ mark :: (sign ++ es)))

variable {part part' : NumberPart} {cs ds : List Char} {c : Char}

theorem run?_append :
    part.run? (cs ++ ds) = (part.run? cs).bind fun part => part.run? ds :=
  List.foldlM_append

end NumberPart

theorem isDigits_singleton {c : Char} (hc : c.isDigit = true) : IsDigits [c] :=
  ⟨List.cons_ne_nil _ _, by simpa using hc⟩

theorem IsDigits.concat {cs : List Char} {c : Char} (h : IsDigits cs) (hc : c.isDigit = true) :
    IsDigits (cs ++ [c]) :=
  ⟨by simp, by simpa [or_imp, forall_and, hc] using h.2⟩

namespace NumberPart

variable {part part' : NumberPart} {cs ds : List Char} {c : Char}

/-- One more character leads from part to part. -/
theorem EndsIn.next (h : part.EndsIn cs) (hnext : part.next? c = some part') :
    part'.EndsIn (cs ++ [c]) := by
  cases h with
  | sign =>
    simp only [next?] at hnext
    split at hnext
    case isTrue hc =>
      cases hnext
      exact hc ▸ .zero
    case isFalse hne =>
      split at hnext <;> cases hnext
      exact .whole ‹_› hne (by simp)
  | zero =>
    simp only [next?] at hnext
    split at hnext
    case isTrue hc =>
      cases hnext
      exact hc ▸ .point .zero
    case isFalse =>
      split at hnext <;> cases hnext
      exact .exponent .zero .nil ‹_›
  | whole hc hne hcs =>
    simp only [next?] at hnext
    split at hnext
    case isTrue hdigit =>
      cases hnext
      exact .whole hc hne (by simpa [or_imp, forall_and, hdigit] using hcs)
    case isFalse =>
      split at hnext
      case isTrue hpoint =>
        cases hnext
        exact hpoint ▸ .point (.digits hc hne hcs)
      case isFalse =>
        split at hnext <;> cases hnext
        exact .exponent (.digits hc hne hcs) .nil ‹_›
  | point hcs =>
    simp only [next?] at hnext
    split at hnext <;> cases hnext
    rw [List.append_assoc]
    exact .fraction hcs (isDigits_singleton ‹_›)
  | fraction hcs hds =>
    simp only [next?] at hnext
    rw [List.append_assoc]
    split at hnext
    case isTrue hdigit =>
      cases hnext
      exact .fraction hcs (hds.concat hdigit)
    case isFalse =>
      split at hnext <;> cases hnext
      exact .exponent hcs (.point hds) ‹_›
  | exponent hcs hds hmark =>
    simp only [next?] at hnext
    rw [List.append_assoc, List.append_assoc]
    split at hnext
    case isTrue hdigit =>
      cases hnext
      exact .power hcs hds hmark (.inl rfl) (isDigits_singleton hdigit)
    case isFalse =>
      split at hnext <;> cases hnext
      exact .exponentSign hcs hds hmark ‹_›
  | @exponentSign _ _ _ sign hcs hds hmark hsign =>
    simp only [next?] at hnext
    split at hnext <;> cases hnext
    rw [List.append_assoc, List.append_assoc]
    have hsigns : [sign] = ['+'] ∨ [sign] = ['-'] := by simpa using hsign
    exact .power hcs hds hmark (.inr hsigns) (isDigits_singleton ‹_›)
  | power hcs hds hmark hsign hes =>
    simp only [next?] at hnext
    split at hnext <;> cases hnext
    rw [List.append_assoc, List.append_assoc, List.cons_append, List.append_assoc]
    exact .power hcs hds hmark hsign (hes.concat ‹_›)

/-- The automaton tells the part that a text ends in. -/
theorem endsIn_of_run? (h : sign.run? cs = some part) : part.EndsIn cs :=
  keeps_foldlM EndsIn EndsIn.next .sign h

/-- The last part of a complete number ends a number. -/
theorem EndsIn.isNumber (h : part.EndsIn cs) (hcomplete : part.isComplete = true)
    {minus : List Char} (hminus : minus = [] ∨ minus = ['-']) : IsNumber (minus ++ cs) := by
  cases h with
  | zero => exact .intro hminus .zero .nil .nil
  | whole hc hne hcs =>
    have h := IsNumber.intro hminus (.digits hc hne hcs) .nil .nil
    rwa [List.append_nil, List.append_nil] at h
  | fraction hcs hds =>
    have h := IsNumber.intro hminus hcs (.point hds) .nil
    rwa [List.append_nil] at h
  | power hcs hds hmark hsign hes => exact .intro hminus hcs hds (.mark hmark hsign hes)
  | sign | point | exponent | exponentSign => cases hcomplete

/-! ### Numbers of the grammar -/

/-- A part that goes on with digits comes to its end through them. -/
theorem run?_digits (hpart : ∀ d : Char, d.isDigit = true → part.next? d = some part)
    (hcs : ∀ d ∈ cs, d.isDigit = true) : part.run? cs = some part := by
  induction cs with
  | nil => rfl
  | cons d cs ih =>
    rw [List.forall_mem_cons] at hcs
    rw [run?, List.foldlM_cons, hpart d hcs.1]
    exact ih hcs.2

/-- One digit leads to a part that goes on with digits. -/
theorem run?_isDigits (hcs : IsDigits cs)
    (hfirst : ∀ d : Char, d.isDigit = true → part.next? d = some part')
    (hpart : ∀ d : Char, d.isDigit = true → part'.next? d = some part') :
    part.run? cs = some part' := by
  obtain ⟨hne, hcs⟩ := hcs
  obtain ⟨d, cs, rfl⟩ := List.exists_cons_of_ne_nil hne
  rw [List.forall_mem_cons] at hcs
  rw [run?, List.foldlM_cons, hfirst d hcs.1]
  exact run?_digits hpart hcs.2

theorem run?_whole (h : IsWhole cs) :
    ∃ part, sign.run? cs = some part ∧ (part = zero ∨ part = whole) := by
  cases h with
  | zero => exact ⟨zero, rfl, .inl rfl⟩
  | @digits c cs hc hne hcs =>
    refine ⟨whole, ?_, .inr rfl⟩
    have hfirst : sign.next? c = some whole := by rw [next?, if_neg hne, if_pos hc]
    rw [run?, List.foldlM_cons, hfirst]
    exact run?_digits (fun d hd => by rw [next?, if_pos hd]) hcs

theorem run?_fraction (h : IsFraction cs) (hpart : part = zero ∨ part = whole) :
    ∃ part', part.run? cs = some part' ∧ (part' = zero ∨ part' = whole ∨ part' = fraction) := by
  cases h with
  | nil => exact ⟨part, rfl, hpart.imp_right .inl⟩
  | point hcs =>
    have hpoint : part.next? '.' = some point := by
      rcases hpart with rfl | rfl
      all_goals rfl
    refine ⟨fraction, ?_, .inr (.inr rfl)⟩
    rw [run?, List.foldlM_cons, hpoint]
    exact run?_isDigits hcs (fun d hd => by rw [next?, if_pos hd])
      fun d hd => by rw [next?, if_pos hd]

theorem run?_exponent (h : IsExponent cs)
    (hpart : part = zero ∨ part = whole ∨ part = fraction) :
    ∃ part', part.run? cs = some part' ∧ part'.isComplete = true := by
  cases h with
  | nil =>
    refine ⟨part, rfl, ?_⟩
    rcases hpart with rfl | rfl | rfl
    all_goals rfl
  | @mark mark sign cs hmark hsign hcs =>
    have hnext : part.next? mark = some exponent := by
      rcases hpart with rfl | rfl | rfl
      all_goals rcases hmark with rfl | rfl
      all_goals rfl
    have hpower : ∀ d : Char, d.isDigit = true → power.next? d = some power :=
      fun d hd => by rw [next?, if_pos hd]
    have hsigned : exponentSign.run? cs = some power :=
      run?_isDigits hcs (fun d hd => by rw [next?, if_pos hd]) hpower
    refine ⟨power, ?_, rfl⟩
    rw [run?, List.foldlM_cons, hnext]
    rcases hsign with rfl | rfl | rfl
    · exact run?_isDigits hcs (fun d hd => by rw [next?, if_pos hd]) hpower
    · exact hsigned
    · exact hsigned

end NumberPart

/-- The automaton comes to an end exactly on the numbers of the grammar. -/
theorem isNumber_iff {cs : List Char} :
    IsNumber cs ↔ ∃ minus rest part, cs = minus ++ rest ∧ (minus = [] ∨ minus = ['-']) ∧
      NumberPart.sign.run? rest = some part ∧ part.isComplete = true := by
  constructor
  · intro h
    obtain ⟨hsign, hwhole, hfraction, hexponent⟩ := h
    obtain ⟨part, hrun, hpart⟩ := NumberPart.run?_whole hwhole
    obtain ⟨part', hrun', hpart'⟩ := NumberPart.run?_fraction hfraction hpart
    obtain ⟨part'', hrun'', hcomplete⟩ := NumberPart.run?_exponent hexponent hpart'
    refine ⟨_, _, part'', rfl, hsign, ?_, hcomplete⟩
    rw [NumberPart.run?_append, hrun, Option.bind_some, NumberPart.run?_append, hrun',
      Option.bind_some, hrun'']
  · intro h
    obtain ⟨minus, rest, part, rfl, hminus, hrun, hcomplete⟩ := h
    exact (NumberPart.endsIn_of_run? hrun).isNumber hcomplete hminus

/-! ## Code units -/

/-- The code point of a character is no half of a surrogate pair. -/
theorem not_surrogate (c : Char) :
    isHighSurrogate c.toNat = false ∧ isLowSurrogate c.toNat = false := by
  have hvalid : c.toNat < 0xD800 ∨ 0xDFFF < c.toNat ∧ c.toNat < 0x110000 := c.valid
  simp only [isHighSurrogate, isLowSurrogate, Bool.and_eq_false_iff, decide_eq_false_iff_not]
  omega

/-- Any other code unit is a code point. -/
theorem toNat_ofNat_of_not_surrogate {unit : Nat} (hunit : unit < 0x110000)
    (hhigh : isHighSurrogate unit = false) (hlow : isLowSurrogate unit = false) :
    (Char.ofNat unit).toNat = unit := by
  have hvalid : unit.isValidChar := by
    simp only [isHighSurrogate, isLowSurrogate, Bool.and_eq_false_iff,
      decide_eq_false_iff_not] at hhigh hlow
    unfold Nat.isValidChar
    omega
  rw [Char.ofNat, dif_pos hvalid]
  rfl

theorem Encodes.append {cs cs' : List Char} {units units' : List Nat} (h : Encodes cs units)
    (h' : Encodes cs' units') : Encodes (cs ++ cs') (units ++ units') := by
  induction h with
  | nil => exact h'
  | single c _ ih => exact .single c ih
  | pair hhigh hlow _ ih => exact .pair hhigh hlow ih

variable {units units' : List Nat} {after mid cs : List Char}

/-- What is read from some code units goes on ahead of them. -/
theorem textOfUnits_append (h : textOfUnits after units = some mid) :
    textOfUnits after (units ++ units') = textOfUnits mid units' := by
  fun_induction textOfUnits after units with
  | case1 after =>
    cases h
    rfl
  | case2 after low hlow high units hhigh ih =>
    rw [List.cons_append, List.cons_append, textOfUnits.eq_def]
    simp [hlow, hhigh, ih h]
  | case3 | case4 | case5 => cases h
  | case6 after low units hlow hhigh ih =>
    rw [List.cons_append, textOfUnits.eq_def]
    simp [hlow, hhigh, ih h]

theorem textOfUnits_reverse (h : Encodes cs units) (after : List Char) :
    textOfUnits after units.reverse = some (cs ++ after) := by
  -- the first code units are read last
  induction h with
  | nil => rfl
  | single c _ ih =>
    obtain ⟨hhigh, hlow⟩ := not_surrogate c
    rw [List.reverse_cons, textOfUnits_append ih, textOfUnits.eq_def]
    simp [hhigh, hlow, textOfUnits]
  | pair hhigh hlow _ ih =>
    rw [List.reverse_cons, List.reverse_cons, List.append_assoc, textOfUnits_append ih]
    simp [textOfUnits, hhigh, hlow]

theorem exists_encodes_of_textOfUnits (hunits : ∀ unit ∈ units, unit < 0x110000)
    (h : textOfUnits after units = some cs) :
    ∃ cs', cs = cs' ++ after ∧ Encodes cs' units.reverse := by
  fun_induction textOfUnits after units with
  | case1 after =>
    cases h
    exact ⟨[], rfl, .nil⟩
  | case2 after low hlow high units hhigh ih =>
    rw [List.forall_mem_cons, List.forall_mem_cons] at hunits
    obtain ⟨cs', rfl, hencodes⟩ := ih hunits.2.2 h
    refine ⟨cs' ++ [pairedChar high low], by simp, ?_⟩
    rw [List.reverse_cons, List.reverse_cons, List.append_assoc]
    exact hencodes.append (.pair hhigh hlow .nil)
  | case3 | case4 | case5 => cases h
  | case6 after low units hlow hhigh ih =>
    rw [List.forall_mem_cons] at hunits
    obtain ⟨cs', rfl, hencodes⟩ := ih hunits.2 h
    have hunit := toNat_ofNat_of_not_surrogate hunits.1 (by simpa using hhigh) (by simpa using hlow)
    refine ⟨cs' ++ [Char.ofNat low], by simp, ?_⟩
    rw [List.reverse_cons]
    refine hencodes.append ?_
    have hsingle := Encodes.single (Char.ofNat low) .nil
    rwa [hunit] at hsingle

/-- Code units name a text exactly if they encode it. -/
theorem textOfUnits_eq_some_iff (hunits : ∀ unit ∈ units, unit < 0x110000) :
    textOfUnits [] units.reverse = some cs ↔ Encodes cs units := by
  constructor
  · intro h
    obtain ⟨cs', rfl, hencodes⟩ := exists_encodes_of_textOfUnits (by simpa using hunits) h
    rwa [List.append_nil, ← List.reverse_reverse units]
  · intro h
    rw [textOfUnits_reverse h, List.append_nil]

theorem hexDigit?_lt {c : Char} {digit : Nat} (h : Text.hexDigit? c = some digit) :
    digit < 16 := by
  have h0 : ('0' : Char).toNat = 48 := rfl
  have ha : ('a' : Char).toNat = 97 := rfl
  have hA : ('A' : Char).toNat = 65 := rfl
  simp only [Text.hexDigit?, Char.isDigit, Bool.and_eq_true, decide_eq_true_eq, Char.le_def,
    UInt32.le_iff_toNat_le, ge_iff_le, Char.toNat_val] at h
  split at h
  case isTrue hc =>
    cases h
    have : c.toNat ≤ 57 := hc.2
    omega
  case isFalse =>
    split at h
    case isTrue hc =>
      cases h
      have : c.toNat ≤ 102 := hc.2
      omega
    case isFalse =>
      split at h <;> cases h
      rename_i hc
      have : c.toNat ≤ 70 := hc.2
      omega

/-- One more digit makes the number so many times as great. -/
theorem numeral?_concat (base : Nat) (digit? : Char → Option Nat) (digits : List Char) (c : Char) :
    Text.numeral? base digit? (digits ++ [c]) =
      (Text.numeral? base digit? digits).bind fun value =>
        (digit? c).map (value * base + ·) := by
  simp [Text.numeral?, List.foldlM_append]

theorem hexNumeral_lt {digits : List Char} {value : Nat}
    (h : Text.numeral? 16 Text.hexDigit? digits = some value) : value < 16 ^ digits.length := by
  induction digits using List.reverseRecOn generalizing value with
  | nil =>
    cases h
    exact Nat.one_pos
  | append_singleton digits c ih =>
    rw [numeral?_concat] at h
    obtain ⟨before, hbefore, hvalue⟩ := Option.bind_eq_some_iff.mp h
    obtain ⟨digit, hdigit, rfl⟩ := Option.map_eq_some_iff.mp hvalue
    have hlt := ih hbefore
    have hlt' := hexDigit?_lt hdigit
    rw [List.length_append, List.length_singleton, Nat.pow_succ]
    omega

/-- What is written in the body of a literal are code points. -/
theorem WritesUnits.lt {body : List Char} (h : WritesUnits units body) :
    ∀ unit ∈ units, unit < 0x110000 := by
  induction h with
  | nil => simp
  | @plain c units body _ _ _ _ ih =>
    have hvalid : c.toNat < 0xD800 ∨ 0xDFFF < c.toNat ∧ c.toNat < 0x110000 := c.valid
    rw [List.forall_mem_cons]
    exact ⟨by omega, ih⟩
  | short hc _ ih =>
    rw [List.forall_mem_cons]
    refine ⟨?_, ih⟩
    unfold Lexer.shortEscape? at hc
    split at hc <;> cases hc
    all_goals decide
  | code hlength hunit _ ih =>
    rw [List.forall_mem_cons]
    have hlt := hexNumeral_lt hunit
    rw [hlength] at hlt
    exact ⟨by omega, ih⟩

end ModuleCatalog.Json
