import ModuleCatalog.Proofs.Grammar

/-! # Lexing

    The lexer gets from a text the tokens that the text writes, and no others.
    What it has read is written by its tokens and by what is begun
    (`Lexer.HasRead`), which every step keeps up.  The other way round, it
    comes from one token to the next as long as no two numbers stand side by
    side (`Lexer.Behind.read_written`). -/

namespace ModuleCatalog.Json

variable {tokens : List (Token LiteralText)} {text : List Char}

theorem Writes.concat {token : Token LiteralText} {written : List Char}
    (h : Writes tokens text) (hwritten : token.Writes written) :
    Writes (tokens ++ [token]) (text ++ written) := by
  have hlast : Writes [token] (written ++ []) := .token hwritten .nil
  rw [List.append_nil] at hlast
  exact h.append hlast

theorem Writes.concat_blank {c : Char} (h : Writes tokens text) (hc : isBlank c = true) :
    Writes tokens (text ++ [c]) := by
  have hlast := h.append (.blank hc .nil)
  rwa [List.append_nil] at hlast

namespace Lexer

/-! ## What has been read -/

/-- The text that the lexer has read up to some place. -/
inductive HasRead : Lexer → List Char → Prop where
  | between {tokens : List (Token LiteralText)} {text : List Char}
      (h : Writes tokens.reverse text) : HasRead ⟨tokens, .between⟩ text
  | word {tokens : List (Token LiteralText)} {text seen missing : List Char}
      {token : Token LiteralText} (h : Writes tokens.reverse text)
      (hword : token.word? = some (seen ++ missing)) :
      HasRead ⟨tokens, .word missing token⟩ (text ++ seen)
  | number {tokens : List (Token LiteralText)} {text seen minus rest : List Char}
      {part : NumberPart} (h : Writes tokens.reverse text) (hseen : seen.reverse = minus ++ rest)
      (hminus : minus = [] ∨ minus = ['-']) (hrun : NumberPart.sign.run? rest = some part) :
      HasRead ⟨tokens, .number part seen⟩ (text ++ seen.reverse)
  | string {tokens : List (Token LiteralText)} {text body : List Char} {units : List Nat}
      (h : Writes tokens.reverse text) (hbody : WritesUnits units.reverse body) :
      HasRead ⟨tokens, .string units⟩ (text ++ '"' :: body)
  | escape {tokens : List (Token LiteralText)} {text body : List Char} {units : List Nat}
      (h : Writes tokens.reverse text) (hbody : WritesUnits units.reverse body) :
      HasRead ⟨tokens, .escape units⟩ (text ++ '"' :: (body ++ ['\\']))
  | codeUnit {tokens : List (Token LiteralText)} {text body digits : List Char}
      {units : List Nat} {missing value : Nat} (h : Writes tokens.reverse text)
      (hbody : WritesUnits units.reverse body) (hmissing : 0 < missing)
      (hlength : digits.length + missing = 4)
      (hvalue : Text.numeral? 16 Text.hexDigit? digits = some value) :
      HasRead ⟨tokens, .codeUnit units missing value⟩
        (text ++ '"' :: (body ++ '\\' :: 'u' :: digits))

/-- The lexer stands behind some tokens, last one first: between two tokens, or
    at what may be the end of a word or of a number. -/
inductive Behind (read : List (Token LiteralText)) : Lexer → Prop where
  | between : Behind read ⟨read, .between⟩
  | word {before : List (Token LiteralText)} {token : Token LiteralText}
      (hread : read = token :: before) : Behind read ⟨before, .word [] token⟩
  | number {before : List (Token LiteralText)} {part : NumberPart} {seen : List Char}
      (hcomplete : part.isComplete = true) (hread : read = numberToken seen :: before) :
      Behind read ⟨before, .number part seen⟩

end Lexer

/-- Code units may be written one behind the other. -/
theorem WritesUnits.append {units units' : List Nat} {body body' : List Char}
    (h : WritesUnits units body) (h' : WritesUnits units' body') :
    WritesUnits (units ++ units') (body ++ body') := by
  induction h with
  | nil => exact h'
  | plain hquote hbackslash hcontrol _ ih => exact .plain hquote hbackslash hcontrol ih
  | short hc _ ih => exact .short hc ih
  | code hlength hunit _ ih =>
    rw [List.cons_append, List.cons_append, List.cons_append, List.append_assoc]
    exact .code hlength hunit ih

/-- The lexer tells what a literal names. -/
theorem Token.Writes.literal {units : List Nat} {body : List Char}
    (hbody : WritesUnits units.reverse body) :
    (Token.string ((textOfUnits [] units).map String.ofList)).Writes ('"' :: (body ++ ['"'])) := by
  cases htext : textOfUnits [] units with
  | some cs => exact .text hbody ((textOfUnits_eq_some_iff hbody.lt).mp (by simpa using htext))
  | none =>
    refine .broken hbody fun cs hencodes => ?_
    have hsome := (textOfUnits_eq_some_iff hbody.lt).mpr hencodes
    rw [List.reverse_reverse, htext] at hsome
    cases hsome

namespace Lexer

variable {l l' : Lexer} {c : Char} {read : List (Token LiteralText)} {body : List Char}
  {units : List Nat}

/-- What has been read where the lexer stands behind some tokens is written by
    these. -/
theorem HasRead.writes (h : l.HasRead text) (hbehind : l.Behind read) :
    Writes read.reverse text := by
  cases hbehind with
  | between =>
    cases h with
    | between h => exact h
  | word hread =>
    cases h with
    | word h hword =>
      rw [List.append_nil] at hword
      rw [hread, List.reverse_cons]
      exact h.concat (.word hword)
  | number hcomplete hread =>
    cases h with
    | number h hseen hminus hrun =>
      rw [hread, List.reverse_cons]
      exact h.concat (.number
        (isNumber_iff.mpr ⟨_, _, _, hseen, hminus, hrun, hcomplete⟩))

/-- A literal goes on with one more code unit, in whatever way it is written. -/
theorem HasRead.unit {unit : Nat} {written : List Char} (h : Writes read.reverse text)
    (hbody : WritesUnits units.reverse body) (hunit : WritesUnits [unit] written) :
    HasRead ⟨read, .string (unit :: units)⟩ (text ++ '"' :: (body ++ written)) := by
  refine .string h ?_
  rw [List.reverse_cons]
  exact hbody.append hunit

/-- One more digit of a code unit is the last one or not. -/
theorem HasRead.digit {digits : List Char} {missing value : Nat} (h : Writes read.reverse text)
    (hbody : WritesUnits units.reverse body) (hmissing : 0 < missing)
    (hlength : digits.length + missing = 5)
    (hvalue : Text.numeral? 16 Text.hexDigit? digits = some value) :
    HasRead ⟨read, if missing ≤ 1 then .string (value :: units)
        else .codeUnit units (missing - 1) value⟩
      (text ++ '"' :: (body ++ '\\' :: 'u' :: digits)) := by
  split
  case isTrue hlast =>
    have hcode := WritesUnits.code (by omega) hvalue .nil
    rw [List.append_nil] at hcode
    exact .unit h hbody hcode
  case isFalse => exact .codeUnit h hbody (by omega) (by omega) hvalue

/-- Between two tokens a character is a blank, a token of its own, or begins
    one. -/
theorem HasRead.of_stepBetween (h : Writes read.reverse text)
    (hstep : stepBetween read c = some l) : l.HasRead (text ++ [c]) := by
  have hmark : ∀ token : Token LiteralText, token.word? = some [c] →
      HasRead ⟨token :: read, .between⟩ (text ++ [c]) := by
    intro token hword
    refine .between ?_
    rw [List.reverse_cons]
    exact h.concat (.word hword)
  unfold stepBetween at hstep
  split at hstep
  case h_16 =>
    obtain ⟨part, hpart, rfl⟩ := Option.map_eq_some_iff.mp hstep
    have hrun : NumberPart.sign.run? [c] = some part := by
      rw [NumberPart.run?, List.foldlM_cons, hpart]
      rfl
    exact @HasRead.number read text [c] [] [c] part h rfl (.inl rfl) hrun
  all_goals cases hstep
  case h_1 | h_2 | h_3 | h_4 => exact .between (h.concat_blank rfl)
  case h_5 | h_6 | h_7 | h_8 | h_9 | h_10 => exact hmark _ rfl
  case h_11 => exact .string h .nil
  case h_12 => exact @HasRead.word read text ['t'] _ (.bool true) h rfl
  case h_13 => exact @HasRead.word read text ['f'] _ (.bool false) h rfl
  case h_14 => exact @HasRead.word read text ['n'] _ .null h rfl
  case h_15 => exact @HasRead.number read text ['-'] ['-'] [] .sign h rfl (.inr rfl) rfl

/-- Every step keeps track of the text. -/
theorem HasRead.step (h : l.HasRead text) (hstep : l.step c = some l') :
    l'.HasRead (text ++ [c]) := by
  cases h with
  | between h => exact .of_stepBetween h hstep
  | @word tokens text seen missing token h hword =>
    cases missing with
    | nil =>
      -- the word is complete, and `c` stands behind it
      exact .of_stepBetween ((HasRead.word h hword).writes (.word rfl)) hstep
    | cons d missing =>
      simp only [Lexer.step] at hstep
      split at hstep <;> cases hstep
      rename_i hc
      rw [List.append_assoc]
      refine .word h ?_
      rw [hword, hc, List.append_assoc]
      rfl
  | @number tokens text seen minus rest part h hseen hminus hrun =>
    simp only [Lexer.step] at hstep
    split at hstep
    case h_1 part' hnext =>
      cases hstep
      have hseen' : (c :: seen).reverse = minus ++ (rest ++ [c]) := by
        rw [List.reverse_cons, hseen, List.append_assoc]
      rw [List.append_assoc, ← List.reverse_cons]
      refine .number h hseen' hminus ?_
      rw [NumberPart.run?_append, hrun, Option.bind_some, NumberPart.run?, List.foldlM_cons, hnext]
      rfl
    case h_2 =>
      -- `c` does not go on with the number, which has to be complete then
      split at hstep
      case isTrue hcomplete =>
        exact .of_stepBetween
          ((HasRead.number h hseen hminus hrun).writes (.number hcomplete rfl)) hstep
      case isFalse => cases hstep
  | string h hbody =>
    simp only [Lexer.step] at hstep
    split at hstep
    case isTrue hquote =>
      cases hstep
      subst hquote
      refine .between ?_
      rw [List.reverse_cons, List.append_assoc, List.cons_append]
      exact h.concat (.literal hbody)
    case isFalse hquote =>
      rw [List.append_assoc, List.cons_append]
      split at hstep
      case isTrue hbackslash =>
        cases hstep
        subst hbackslash
        exact .escape h hbody
      case isFalse hbackslash =>
        split at hstep <;> cases hstep
        exact .unit h hbody (.plain hquote hbackslash (by omega) .nil)
  | escape h hbody =>
    rw [List.append_assoc, List.cons_append, List.append_assoc]
    simp only [Lexer.step] at hstep
    split at hstep
    case isTrue hu =>
      cases hstep
      subst hu
      exact .codeUnit h hbody (by decide) rfl rfl
    case isFalse =>
      obtain ⟨unit, hunit, rfl⟩ := Option.map_eq_some_iff.mp hstep
      exact .unit h hbody (.short hunit .nil)
  | @codeUnit tokens text body digits units missing value h hbody hmissing hlength hvalue =>
    rw [List.append_assoc, List.cons_append, List.append_assoc, List.cons_append, List.cons_append]
    simp only [Lexer.step] at hstep
    obtain ⟨digit, hdigit, rfl⟩ := Option.map_eq_some_iff.mp hstep
    have hlength' : (digits ++ [c]).length = digits.length + 1 := List.length_append
    refine .digit h hbody hmissing (by omega) ?_
    rw [numeral?_concat, hvalue, Option.bind_some, hdigit]
    rfl

/-- A text may end only where the lexer stands behind some tokens. -/
theorem behind_of_finish (h : l.finish = some tokens) :
    ∃ read, l.Behind read ∧ tokens = read.reverse := by
  obtain ⟨read, mode⟩ := l
  simp only [Lexer.finish] at h
  split at h
  case h_1 =>
    cases h
    exact ⟨_, .between, rfl⟩
  case h_2 =>
    cases h
    exact ⟨_, .word rfl, rfl⟩
  case h_3 =>
    split at h <;> cases h
    exact ⟨_, .number ‹_› rfl, rfl⟩
  all_goals cases h

end Lexer

/-- The tokens of a text write it. -/
theorem writes_of_tokenize? (h : tokenize? text = some tokens) : Writes tokens text := by
  obtain ⟨l, hrun, hfinish⟩ := Option.bind_eq_some_iff.mp h
  have hstart : Lexer.HasRead {} [] := .between .nil
  have hread : l.HasRead text := keeps_foldlM Lexer.HasRead .step hstart hrun
  obtain ⟨read, hbehind, rfl⟩ := Lexer.behind_of_finish hfinish
  exact hread.writes hbehind

/-! ## From token to token -/

namespace Lexer

/-- Whether the lexer is in a number. -/
def inNumber (l : Lexer) : Bool :=
  match l.mode with
  | .number .. => true
  | _ => false

/-- Whether a character may go on with a complete number. -/
def goesOn (c : Char) : Bool := c.isDigit || c = '.' || c = 'e' || c = 'E'

variable {l l' : Lexer} {read : List (Token LiteralText)} {c : Char}

theorem next?_eq_none {part : NumberPart} (hcomplete : part.isComplete = true)
    (hc : goesOn c = false) : part.next? c = none := by
  simp only [goesOn, Bool.or_eq_false_iff, decide_eq_false_iff_not] at hc
  obtain ⟨⟨⟨hdigit, hpoint⟩, he⟩, hE⟩ := hc
  cases part with
  | zero | whole | fraction | power => simp [NumberPart.next?, hdigit, hpoint, he, hE]
  | sign | point | exponent | exponentSign => cases hcomplete

theorem Behind.step (h : l.Behind read) (hc : l.inNumber = true → goesOn c = false) :
    l.step c = stepBetween read c := by
  cases h with
  | between => rfl
  | word hread => rw [hread]; rfl
  | number hcomplete hread =>
    simp only [Lexer.step, next?_eq_none hcomplete (hc rfl), hcomplete, if_true, hread]

theorem Behind.finish (h : l.Behind read) : l.finish = some read.reverse := by
  cases h with
  | between => rfl
  | word hread => rw [hread]; rfl
  | number hcomplete hread => simp only [Lexer.finish, hcomplete, if_true, hread]

theorem Behind.step_blank (h : l.Behind read) (hc : isBlank c = true) :
    l.step c = some ⟨read, .between⟩ := by
  simp only [isBlank, Bool.or_eq_true, decide_eq_true_eq] at hc
  rcases hc with ((rfl | rfl) | rfl) | rfl
  all_goals rw [h.step fun _ => rfl]; rfl

/-! ### Numbers -/

/-- The characters of a number are kept, last one first. -/
theorem foldlM_number {part part' : NumberPart} {cs seen : List Char}
    (hrun : part.run? cs = some part') :
    cs.foldlM Lexer.step ⟨read, .number part seen⟩ =
      some ⟨read, .number part' (cs.reverse ++ seen)⟩ := by
  induction cs generalizing part seen with
  | nil =>
    cases hrun
    rfl
  | cons c cs ih =>
    rw [NumberPart.run?, List.foldlM_cons] at hrun
    obtain ⟨next, hnext, hrun⟩ := Option.bind_eq_some_iff.mp hrun
    have hstep : Lexer.step ⟨read, .number part seen⟩ c =
        some ⟨read, .number next (c :: seen)⟩ := by
      simp only [Lexer.step, hnext]
    rw [List.foldlM_cons, hstep, List.reverse_cons, List.append_assoc]
    exact ih hrun

/-- A digit begins a number. -/
theorem stepBetween_of_next? {part : NumberPart} (h : NumberPart.sign.next? c = some part) :
    stepBetween read c = some ⟨read, .number part [c]⟩ := by
  have hdigit : c.isDigit = true := by
    simp only [NumberPart.next?] at h
    split at h
    case isTrue hc => exact hc ▸ rfl
    case isFalse =>
      split at h
      case isTrue hc => exact hc
      case isFalse => cases h
  unfold stepBetween
  split
  case h_16 => rw [h]; rfl
  all_goals cases hdigit

theorem Behind.read_number (h : l.Behind read) (hl : l.inNumber = false) {cs : List Char}
    (hnumber : IsNumber cs) :
    ∃ l', cs.foldlM Lexer.step l = some l' ∧
      l'.Behind (.number (String.ofList cs) :: read) := by
  obtain ⟨minus, rest, part, rfl, hminus, hrun, hcomplete⟩ := isNumber_iff.mp hnumber
  have hstep : ∀ c, l.step c = stepBetween read c := fun c => h.step (by simp [hl])
  have hread : ∀ seen : List Char, seen.reverse = minus ++ rest →
      Behind (.number (String.ofList (minus ++ rest)) :: read) ⟨read, .number part seen⟩ :=
    fun seen hseen => .number hcomplete (by rw [numberToken, hseen])
  rcases hminus with rfl | rfl
  · cases rest with
    | nil =>
      -- without a digit nothing is complete
      cases hrun
      cases hcomplete
    | cons c rest =>
      rw [NumberPart.run?, List.foldlM_cons] at hrun
      obtain ⟨next, hnext, hrun⟩ := Option.bind_eq_some_iff.mp hrun
      refine ⟨⟨read, .number part (rest.reverse ++ [c])⟩, ?_, hread _ (by simp)⟩
      rw [List.nil_append, List.foldlM_cons, hstep, stepBetween_of_next? hnext]
      exact foldlM_number hrun
  · refine ⟨⟨read, .number part (rest.reverse ++ ['-'])⟩, ?_, hread _ (by simp)⟩
    rw [List.singleton_append, List.foldlM_cons, hstep]
    exact foldlM_number hrun

/-! ### String literals -/

/-- The digits of a code unit escape are read as their number. -/
theorem foldlM_codeUnit {units : List Nat} {missing value unit : Nat} {digits : List Char}
    (hlength : digits.length = missing) (hmissing : 0 < missing)
    (hunit : digits.foldlM (fun value c => (Text.hexDigit? c).map (value * 16 + ·)) value =
      some unit) :
    digits.foldlM Lexer.step ⟨read, .codeUnit units missing value⟩ =
      some ⟨read, .string (unit :: units)⟩ := by
  induction digits generalizing missing value with
  | nil =>
    rw [List.length_nil] at hlength
    omega
  | cons c digits ih =>
    rw [List.foldlM_cons] at hunit
    obtain ⟨next, hnext, hunit⟩ := Option.bind_eq_some_iff.mp hunit
    obtain ⟨digit, hdigit, rfl⟩ := Option.map_eq_some_iff.mp hnext
    rw [List.length_cons] at hlength
    have hstep : Lexer.step ⟨read, .codeUnit units missing value⟩ c =
        some ⟨read, if missing ≤ 1 then .string ((value * 16 + digit) :: units)
          else .codeUnit units (missing - 1) (value * 16 + digit)⟩ := by
      simp only [Lexer.step, hdigit, Option.map_some]
    rw [List.foldlM_cons, hstep]
    cases digits with
    | nil =>
      cases hunit
      rw [if_pos (by simpa using hlength.symm.le)]
      rfl
    | cons d digits =>
      rw [List.length_cons] at hlength
      rw [if_neg (by omega)]
      exact ih (by rw [List.length_cons]; omega) (by omega) hunit

theorem foldlM_units {units before : List Nat} {body : List Char}
    (hbody : WritesUnits units body) :
    body.foldlM Lexer.step ⟨read, .string before⟩ =
      some ⟨read, .string (units.reverse ++ before)⟩ := by
  induction hbody generalizing before with
  | nil => rfl
  | @plain c units body hquote hbackslash hcontrol _ ih =>
    have hstep : Lexer.step ⟨read, .string before⟩ c =
        some ⟨read, .string (c.toNat :: before)⟩ := by
      simp only [Lexer.step, if_neg hquote, if_neg hbackslash, if_neg (Nat.not_lt.mpr hcontrol)]
    rw [List.foldlM_cons, hstep, List.reverse_cons, List.append_assoc]
    exact ih
  | @short c unit units body hc _ ih =>
    have hu : c ≠ 'u' := by
      rintro rfl
      cases hc
    have hstep : Lexer.step ⟨read, .escape before⟩ c =
        some ⟨read, .string (unit :: before)⟩ := by
      simp only [Lexer.step, if_neg hu, hc, Option.map_some]
    rw [List.foldlM_cons, List.reverse_cons, List.append_assoc]
    show (c :: body).foldlM Lexer.step ⟨read, .escape before⟩ = _
    rw [List.foldlM_cons, hstep]
    exact ih
  | @code digits unit units body hlength hunit _ ih =>
    rw [List.foldlM_cons, List.reverse_cons, List.append_assoc]
    show ('u' :: (digits ++ body)).foldlM Lexer.step ⟨read, .escape before⟩ = _
    rw [List.foldlM_cons]
    show (digits ++ body).foldlM Lexer.step ⟨read, .codeUnit before 4 0⟩ = _
    rw [List.foldlM_append, foldlM_codeUnit hlength (by decide) hunit]
    exact ih

/-- A literal is read as what its code units name. -/
theorem Behind.read_literal (h : l.Behind read) {units : List Nat} {body : List Char}
    (hbody : WritesUnits units body) :
    ('"' :: (body ++ ['"'])).foldlM Lexer.step l =
      some ⟨.string ((textOfUnits [] units.reverse).map String.ofList) :: read, .between⟩ := by
  rw [List.foldlM_cons, h.step fun _ => rfl]
  show (body ++ ['"']).foldlM Lexer.step ⟨read, .string []⟩ = _
  rw [List.foldlM_append, foldlM_units hbody, List.append_nil]
  rfl

/-! ### Tokens -/

/-- A word is read back. -/
theorem Behind.read_word (h : l.Behind read) {token : Token LiteralText} {cs : List Char}
    (hword : token.word? = some cs) :
    ∃ l', cs.foldlM Lexer.step l = some l' ∧ l'.Behind (token :: read) ∧ l'.inNumber = false := by
  match token with
  | .openArray | .closeArray | .openObject | .closeObject | .comma | .colon =>
    cases hword
    refine ⟨⟨_, .between⟩, ?_, .between, rfl⟩
    rw [List.foldlM_cons, h.step fun _ => rfl]
    rfl
  | .null | .bool true | .bool false =>
    cases hword
    refine ⟨⟨read, .word [] _⟩, ?_, .word rfl, rfl⟩
    rw [List.foldlM_cons, h.step fun _ => rfl]
    rfl

/-- A token is read back, whatever was read before it, unless it is a number
    that goes on with another one. -/
theorem Behind.read_token (h : l.Behind read) {token : Token LiteralText} {written : List Char}
    (hwritten : token.Writes written) (hl : l.inNumber = true → token.isNumber = false) :
    ∃ l', written.foldlM Lexer.step l = some l' ∧ l'.Behind (token :: read) ∧
      (l'.inNumber = true → token.isNumber = true) := by
  cases hwritten with
  | word hword =>
    obtain ⟨l', hrun, hbehind, hl'⟩ := h.read_word hword
    exact ⟨l', hrun, hbehind, by simp [hl']⟩
  | number hnumber =>
    have hl : l.inNumber = false := by
      rw [← Bool.not_eq_true]
      intro hin
      cases hl hin
    obtain ⟨l', hrun, hbehind⟩ := h.read_number hl hnumber
    exact ⟨l', hrun, hbehind, fun _ => rfl⟩
  | text hbody hencodes =>
    refine ⟨_, h.read_literal hbody, ?_, nofun⟩
    rw [(textOfUnits_eq_some_iff hbody.lt).mpr hencodes]
    exact .between
  | broken hbody hbroken =>
    have hnone : textOfUnits [] _ = none := Option.eq_none_iff_forall_ne_some.mpr fun cs htext =>
      hbroken cs ((textOfUnits_eq_some_iff hbody.lt).mp htext)
    refine ⟨_, h.read_literal hbody, ?_, nofun⟩
    rw [hnone]
    exact .between

/-- Blanks leave no trace, and tokens are read one behind the other. -/
theorem Behind.read_written (hwrites : Writes tokens text) (hapart : NumbersApart tokens)
    (h : l.Behind read)
    (hl : l.inNumber = true → ∀ token ∈ tokens.head?, token.isNumber = false) :
    ∃ l', text.foldlM Lexer.step l = some l' ∧ l'.Behind (tokens.reverse ++ read) := by
  induction hwrites generalizing l read with
  | nil => exact ⟨l, rfl, h⟩
  | blank hc _ ih =>
    -- a blank ends a number, so that anything may stand behind it
    obtain ⟨l', hrest, h'⟩ := ih hapart .between (l := ⟨read, .between⟩) nofun
    refine ⟨l', ?_, h'⟩
    rw [List.foldlM_cons, h.step_blank hc]
    exact hrest
  | token hwritten _ ih =>
    rw [NumbersApart, List.isChain_cons] at hapart
    obtain ⟨l', hrun, h', hl'⟩ := h.read_token hwritten fun hin => hl hin _ rfl
    obtain ⟨l'', hrest, h''⟩ := ih hapart.2 h' fun hin next hnext => hapart.1 next hnext (hl' hin)
    refine ⟨l'', ?_, ?_⟩
    · rw [List.foldlM_append, hrun]
      exact hrest
    · rw [List.reverse_cons, List.append_assoc]
      exact h''

end Lexer

/-- From a text the lexer gets exactly the tokens that the text writes. -/
theorem tokenize?_eq_some_iff (hapart : NumbersApart tokens) :
    tokenize? text = some tokens ↔ Writes tokens text := by
  refine ⟨writes_of_tokenize?, fun hwrites => ?_⟩
  have hstart : Lexer.Behind [] {} := .between
  obtain ⟨l, hrun, hbehind⟩ := hstart.read_written hwrites hapart nofun
  rw [tokenize?, hrun, Option.bind_some, hbehind.finish]
  simp

end ModuleCatalog.Json
