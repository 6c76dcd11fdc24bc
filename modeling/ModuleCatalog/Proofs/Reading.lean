import ModuleCatalog.Json.Reader
import ModuleCatalog.Proofs.Layout

/-! # Values read back

    The tokens of a value are those of no other value, and the reader finds the
    value exactly from them, however deep it nests
    (`Value.ofTokens?_eq_some_iff`).  So what is read from a text is the value
    that the text writes, in whatever way (`read_eq_ok_iff`); and a value
    without numbers is read back from what is written for it, in either layout
    (`read_write`). -/

namespace ModuleCatalog.Json

variable {τ : Type u} {σ : Type v}

/-! ## Values with other texts -/

mutual

/-- A value with `f` applied to its texts, keys included. -/
def Value.map (f : τ → σ) : Value τ → Value σ
  | .null => .null
  | .bool value => .bool value
  | .number literal => .number literal
  | .string text => .string (f text)
  | .array items => .array (mapItems f items)
  | .object members => .object (mapMembers f members)

/-- The items of an array with `f` applied to their texts. -/
def mapItems (f : τ → σ) : List (Value τ) → List (Value σ)
  | [] => []
  | item :: items => item.map f :: mapItems f items

/-- The members of an object with `f` applied to their texts. -/
def mapMembers (f : τ → σ) : List (τ × Value τ) → List (σ × Value σ)
  | [] => []
  | (key, value) :: members => (f key, value.map f) :: mapMembers f members

end

theorem mapItems_eq_map (f : τ → σ) (items : List (Value τ)) :
    mapItems f items = items.map (Value.map f) := by
  induction items with
  | nil => rfl
  | cons item items ih => rw [mapItems, ih, List.map_cons]

theorem mapMembers_eq_map (f : τ → σ) (members : List (τ × Value τ)) :
    mapMembers f members = members.map fun member => (f member.1, member.2.map f) := by
  induction members with
  | nil => rfl
  | cons member members ih => rw [mapMembers, ih, List.map_cons]

mutual

theorem Value.tokens_map (f : τ → σ) : ∀ value : Value τ,
    (value.map f).tokens = value.tokens.map (Token.map f)
  | .null => rfl
  | .bool _ => rfl
  | .number _ => rfl
  | .string _ => rfl
  | .array items => by
    rw [Value.map, Value.tokens, Value.tokens, itemTokens_map f items]
    simp [Token.map]
  | .object members => by
    rw [Value.map, Value.tokens, Value.tokens, memberTokens_map f members]
    simp [Token.map]

theorem itemTokens_map (f : τ → σ) : ∀ items : List (Value τ),
    itemTokens (mapItems f items) = (itemTokens items).map (Token.map f)
  | [] => rfl
  | item :: items => by
    have hempty : (mapItems f items).isEmpty = items.isEmpty := by
      rw [mapItems_eq_map, List.isEmpty_map]
    rw [mapItems, itemTokens, itemTokens, item.tokens_map f, itemTokens_map f items, hempty,
      List.map_append]
    split <;> rfl

theorem memberTokens_map (f : τ → σ) : ∀ members : List (τ × Value τ),
    memberTokens (mapMembers f members) = (memberTokens members).map (Token.map f)
  | [] => rfl
  | (key, value) :: members => by
    have hempty : (mapMembers f members).isEmpty = members.isEmpty := by
      rw [mapMembers_eq_map, List.isEmpty_map]
    rw [mapMembers, memberTokens, memberTokens, value.tokens_map f, memberTokens_map f members,
      hempty, List.map_append]
    split <;> rfl

end

/-! ## From tokens to values -/

namespace Reader

/-- The end of an array has to come at once or not before an item. -/
theorem step_firstItem {token : Token τ} (h : token ≠ .closeArray) (frames : List (Frame τ)) :
    step ⟨frames, .firstItem⟩ token = step ⟨frames, .value⟩ token := by
  unfold step
  split
  all_goals simp_all

/-- A value is not mistaken for the end of an array. -/
theorem exists_tokens_cons (value : Value τ) :
    ∃ token tokens, value.tokens = token :: tokens ∧ token ≠ .closeArray := by
  cases value with
  | null | bool | number | string => exact ⟨_, [], rfl, by simp⟩
  | array items => exact ⟨_, itemTokens items ++ [.closeArray], rfl, by simp⟩
  | object members => exact ⟨_, memberTokens members ++ [.closeObject], rfl, by simp⟩

theorem foldlM_firstItem (value : Value τ) (rest : List (Token τ)) (frames : List (Frame τ)) :
    (value.tokens ++ rest).foldlM step ⟨frames, .firstItem⟩ =
      (value.tokens ++ rest).foldlM step ⟨frames, .value⟩ := by
  obtain ⟨token, tokens, htokens, hne⟩ := exists_tokens_cons value
  rw [htokens, List.cons_append, List.foldlM_cons, List.foldlM_cons, step_firstItem hne]

mutual

/-- The tokens of a value are read as that value, whatever is open around it. -/
theorem foldlM_tokens (frames : List (Frame τ)) : ∀ value : Value τ,
    value.tokens.foldlM step ⟨frames, .value⟩ = some ⟨frames, .rest value⟩
  | .null => rfl
  | .bool _ => rfl
  | .number _ => rfl
  | .string _ => rfl
  | .array [] => rfl
  | .array (item :: items) => by
    -- Behind its opening token the array is a frame around its items.  The first of them may
    -- not be taken for its end.
    have hitems := foldlM_itemTokens frames [] (item :: items) (List.cons_ne_nil _ _)
    rw [Value.tokens, List.cons_append, List.foldlM_cons]
    show (itemTokens (item :: items) ++ [Token.closeArray]).foldlM step
      ⟨.array [] :: frames, .firstItem⟩ = _
    rw [itemTokens, List.append_assoc] at hitems ⊢
    rw [foldlM_firstItem, hitems]
    rfl
  | .object [] => rfl
  | .object ((key, value) :: members) =>
    foldlM_memberTokens frames [] ((key, value) :: members) (List.cons_ne_nil _ _)

/-- The items of an array join those that were read before. -/
theorem foldlM_itemTokens (frames : List (Frame τ)) (before : List (Value τ)) :
    ∀ items : List (Value τ), items ≠ [] →
      (itemTokens items ++ [Token.closeArray]).foldlM step ⟨.array before :: frames, .value⟩ =
        some ⟨frames, .rest (.array (before.reverse ++ items))⟩
  | [item], _ => by
    have hitem := foldlM_tokens (.array before :: frames) item
    rw [itemTokens, List.isEmpty_nil, if_pos rfl, List.append_nil, List.foldlM_append, hitem]
    show some (Reader.mk frames (.rest (.array (item :: before).reverse))) = _
    rw [List.reverse_cons]
  | item :: next :: items, _ => by
    have hitem := foldlM_tokens (.array before :: frames) item
    have hitems := foldlM_itemTokens frames (item :: before) (next :: items)
      (List.cons_ne_nil _ _)
    rw [itemTokens, List.append_assoc, List.foldlM_append, hitem]
    rw [List.reverse_cons, List.append_assoc] at hitems
    exact hitems

/-- The members of an object join those that were read before. -/
theorem foldlM_memberTokens (frames : List (Frame τ)) (before : List (τ × Value τ)) :
    ∀ members : List (τ × Value τ), members ≠ [] →
      (memberTokens members ++ [Token.closeObject]).foldlM step ⟨.object before :: frames, .key⟩ =
        some ⟨frames, .rest (.object (before.reverse ++ members))⟩
  | [(key, value)], _ => by
    have hvalue := foldlM_tokens (.member before key :: frames) value
    rw [memberTokens, List.isEmpty_nil, if_pos rfl, List.append_nil, List.cons_append,
      List.cons_append, List.foldlM_cons]
    show (value.tokens ++ [Token.closeObject]).foldlM step ⟨.member before key :: frames, .value⟩ = _
    rw [List.foldlM_append, hvalue]
    show some (Reader.mk frames (.rest (.object ((key, value) :: before).reverse))) = _
    rw [List.reverse_cons]
  | (key, value) :: next :: members, _ => by
    have hvalue := foldlM_tokens (.member before key :: frames) value
    have hmembers := foldlM_memberTokens frames ((key, value) :: before) (next :: members)
      (List.cons_ne_nil _ _)
    rw [memberTokens, List.append_assoc, List.cons_append, List.cons_append, List.foldlM_cons]
    show (value.tokens ++ _).foldlM step ⟨.member before key :: frames, .value⟩ = _
    rw [List.foldlM_append, hvalue]
    rw [List.reverse_cons, List.append_assoc] at hmembers
    exact hmembers

end

end Reader

/-- A value is told from its tokens. -/
theorem Value.ofTokens?_tokens (value : Value τ) : ofTokens? value.tokens = some value := by
  rw [ofTokens?, Reader.foldlM_tokens]
  rfl

/-! ## From values back to tokens -/

section consumed

/-- The tokens of some items with a comma behind each. -/
def itemsAhead (items : List (Value τ)) : List (Token τ) :=
  items.flatMap fun item => item.tokens ++ [.comma]

/-- The tokens of some members with a comma behind each. -/
def membersAhead (members : List (τ × Value τ)) : List (Token τ) :=
  members.flatMap fun (key, value) => .string key :: .colon :: value.tokens ++ [.comma]

/-- The tokens of an array or object that is still open. -/
def Frame.tokens : Frame τ → List (Token τ)
  | .array items => .openArray :: itemsAhead items.reverse
  | .object members => .openObject :: membersAhead members.reverse
  | .member members key => .openObject :: membersAhead members.reverse ++ [.string key, .colon]

/-- The tokens of all that is still open, outermost first. -/
def openTokens (frames : List (Frame τ)) : List (Token τ) := frames.reverse.flatMap Frame.tokens

theorem openTokens_cons (frame : Frame τ) (frames : List (Frame τ)) :
    openTokens (frame :: frames) = openTokens frames ++ frame.tokens := by
  simp [openTokens]

/-- The last item of an array has no comma behind it. -/
theorem itemTokens_concat (items : List (Value τ)) (value : Value τ) :
    itemTokens (items ++ [value]) = itemsAhead items ++ value.tokens := by
  induction items with
  | nil => simp [itemTokens, itemsAhead]
  | cons item items ih =>
    have hne : (items ++ [value]).isEmpty = false := by simp
    rw [List.cons_append, itemTokens, hne, if_neg Bool.false_ne_true, ih]
    simp [itemsAhead]

theorem memberTokens_concat (members : List (τ × Value τ)) (key : τ) (value : Value τ) :
    memberTokens (members ++ [(key, value)]) =
      membersAhead members ++ .string key :: .colon :: value.tokens := by
  induction members with
  | nil => simp [memberTokens, membersAhead]
  | cons member members ih =>
    have hne : (members ++ [(key, value)]).isEmpty = false := by simp
    rw [List.cons_append, memberTokens, hne, if_neg Bool.false_ne_true, ih]
    simp [membersAhead]

namespace Reader

/-- The tokens that the reader has read up to some place. -/
inductive HasRead : Reader τ → List (Token τ) → Prop where
  | value (frames : List (Frame τ)) : HasRead ⟨frames, .value⟩ (openTokens frames)
  | firstItem (frames : List (Frame τ)) : HasRead ⟨frames, .firstItem⟩ (openTokens frames)
  | firstKey (frames : List (Frame τ)) : HasRead ⟨frames, .firstKey⟩ (openTokens frames)
  | key (frames : List (Frame τ)) : HasRead ⟨frames, .key⟩ (openTokens frames)
  | colon (members : List (τ × Value τ)) (key : τ) (frames : List (Frame τ)) :
      HasRead ⟨.member members key :: frames, .colon⟩
        (openTokens (.object members :: frames) ++ [.string key])
  | rest (frames : List (Frame τ)) (value : Value τ) :
      HasRead ⟨frames, .rest value⟩ (openTokens frames ++ value.tokens)

variable {r r' : Reader τ} {token : Token τ} {tokens : List (Token τ)} {frames : List (Frame τ)}

theorem HasRead.of_stepValue (h : stepValue frames token = some r') :
    r'.HasRead (openTokens frames ++ [token]) := by
  cases token with
  | null | bool | number | string =>
    cases h
    exact .rest frames _
  | openArray =>
    cases h
    have hopen := HasRead.firstItem (.array [] :: frames)
    rwa [openTokens_cons] at hopen
  | openObject =>
    cases h
    have hopen := HasRead.firstKey (.object [] :: frames)
    rwa [openTokens_cons] at hopen
  | closeArray | closeObject | comma | colon => cases h

theorem HasRead.of_stepKey (h : stepKey frames token = some r') :
    r'.HasRead (openTokens frames ++ [token]) := by
  unfold stepKey at h
  split at h <;> cases h
  exact .colon _ _ _

theorem HasRead.of_stepRest {value : Value τ} (h : stepRest value frames token = some r') :
    r'.HasRead (openTokens frames ++ value.tokens ++ [token]) := by
  unfold stepRest at h
  split at h <;> cases h
  case h_1 items frames =>
    have hnext := HasRead.value (.array (value :: items) :: frames)
    rw [openTokens_cons] at hnext ⊢
    simpa [Frame.tokens, itemsAhead] using hnext
  case h_2 items frames =>
    have hclosed := HasRead.rest frames (.array (value :: items).reverse)
    rw [List.reverse_cons, Value.tokens, itemTokens_concat] at hclosed
    rw [openTokens_cons, Frame.tokens]
    simpa using hclosed
  case h_3 members key frames =>
    have hnext := HasRead.key (.object ((key, value) :: members) :: frames)
    rw [openTokens_cons] at hnext ⊢
    simpa [Frame.tokens, membersAhead] using hnext
  case h_4 members key frames =>
    have hclosed := HasRead.rest frames (.object ((key, value) :: members).reverse)
    rw [List.reverse_cons, Value.tokens, memberTokens_concat] at hclosed
    rw [openTokens_cons, Frame.tokens]
    simpa using hclosed

/-- Every step keeps track of the tokens. -/
theorem HasRead.step (h : r.HasRead tokens) (hstep : r.step token = some r') :
    r'.HasRead (tokens ++ [token]) := by
  cases h with
  | value frames => exact .of_stepValue hstep
  | firstItem frames =>
    simp only [Reader.step] at hstep
    split at hstep
    case h_1 _ frames =>
      cases hstep
      have hclosed := HasRead.rest frames (.array [])
      rw [openTokens_cons, List.append_assoc]
      exact hclosed
    case h_2 => exact .of_stepValue hstep
  | firstKey frames =>
    simp only [Reader.step] at hstep
    split at hstep
    case h_1 _ frames =>
      cases hstep
      have hclosed := HasRead.rest frames (.object [])
      rw [openTokens_cons, List.append_assoc]
      exact hclosed
    case h_2 => exact .of_stepKey hstep
  | key frames => exact .of_stepKey hstep
  | colon members key frames =>
    simp only [Reader.step] at hstep
    split at hstep <;> cases hstep
    have hnext := HasRead.value (.member members key :: frames)
    rw [openTokens_cons] at hnext ⊢
    simpa [Frame.tokens] using hnext
  | rest frames value => exact .of_stepRest hstep

end Reader

end consumed

/-- The reader finds a value exactly from the tokens of the value. -/
theorem Value.ofTokens?_eq_some_iff {tokens : List (Token τ)} {value : Value τ} :
    ofTokens? tokens = some value ↔ tokens = value.tokens := by
  constructor
  · intro h
    obtain ⟨r, hrun, hfinish⟩ := Option.bind_eq_some_iff.mp h
    have hread := keeps_foldlM Reader.HasRead .step (.value []) hrun
    unfold Reader.finish at hfinish
    split at hfinish <;> cases hfinish
    rename_i hframes hexpecting
    obtain ⟨frames, expecting⟩ := r
    subst hframes hexpecting
    generalize hall : openTokens [] ++ tokens = all at hread
    cases hread
    exact hall
  · rintro rfl
    exact ofTokens?_tokens value

/-! ## Numbers stand apart -/

/-- What is no number may stand ahead of anything. -/
theorem numbersApart_cons {token : Token τ} {tokens : List (Token τ)}
    (htoken : token.isNumber = false) (h : NumbersApart tokens) :
    NumbersApart (token :: tokens) := by
  rw [NumbersApart, List.isChain_cons]
  refine ⟨fun next _ hnumber => ?_, h⟩
  rw [htoken] at hnumber
  cases hnumber

mutual

/-- No number stands next to another one in the tokens of a value. -/
theorem Value.numbersApart_append {rest : List (Token τ)}
    (hnext : ∀ token ∈ rest.head?, token.isNumber = false) (h : NumbersApart rest) :
    ∀ value : Value τ, NumbersApart (value.tokens ++ rest)
  | .null => numbersApart_cons rfl h
  | .bool _ => numbersApart_cons rfl h
  | .number _ => List.isChain_cons.mpr ⟨fun next hmem _ => hnext next hmem, h⟩
  | .string _ => numbersApart_cons rfl h
  | .array items => by
    rw [Value.tokens, List.cons_append, List.cons_append, List.append_assoc]
    exact numbersApart_cons rfl
      (numbersApart_itemTokens (by simp [Token.isNumber]) (numbersApart_cons rfl h) items)
  | .object members => by
    rw [Value.tokens, List.cons_append, List.cons_append, List.append_assoc]
    exact numbersApart_cons rfl
      (numbersApart_memberTokens (by simp [Token.isNumber]) (numbersApart_cons rfl h) members)

theorem numbersApart_itemTokens {rest : List (Token τ)}
    (hnext : ∀ token ∈ rest.head?, token.isNumber = false) (h : NumbersApart rest) :
    ∀ items : List (Value τ), NumbersApart (itemTokens items ++ rest)
  | [] => h
  | item :: items => by
    rw [itemTokens, List.append_assoc]
    split
    · exact item.numbersApart_append hnext h
    · exact item.numbersApart_append (by simp [Token.isNumber])
        (numbersApart_cons rfl (numbersApart_itemTokens hnext h items))

theorem numbersApart_memberTokens {rest : List (Token τ)}
    (hnext : ∀ token ∈ rest.head?, token.isNumber = false) (h : NumbersApart rest) :
    ∀ members : List (τ × Value τ), NumbersApart (memberTokens members ++ rest)
  | [] => h
  | (key, value) :: members => by
    rw [memberTokens, List.append_assoc, List.cons_append, List.cons_append]
    refine numbersApart_cons rfl (numbersApart_cons rfl ?_)
    split
    · exact value.numbersApart_append hnext h
    · exact value.numbersApart_append (by simp [Token.isNumber])
        (numbersApart_cons rfl (numbersApart_memberTokens hnext h members))

end

/-- What is read from a text is the value whose tokens the text writes. -/
theorem read_eq_ok_iff {text : String} {value : Value LiteralText} :
    read text = .ok value ↔ Writes value.tokens text.toList := by
  have hapart : NumbersApart value.tokens := by
    have h := @Value.numbersApart_append _ [] (by simp) .nil value
    rwa [List.append_nil] at h
  rw [← tokenize?_eq_some_iff hapart, read]
  cases htokens : tokenize? text.toList with
  | none => simp
  | some tokens =>
    rw [Option.some.injEq, ← Value.ofTokens?_eq_some_iff]
    cases hvalue : Value.ofTokens? tokens <;> simp [hvalue]

/-! ## Values without numbers -/

/-- Neither the value nor what it holds is a number. -/
def Value.Numberless (value : Value τ) : Prop :=
  ∀ token ∈ value.tokens, token.isNumber = false

namespace Value

theorem numberless_null : (null : Value τ).Numberless := by
  simp [Numberless, tokens, Token.isNumber]

theorem numberless_string (text : τ) : (string text).Numberless := by
  simp [Numberless, tokens, Token.isNumber]

theorem numberless_array {items : List (Value τ)} (h : ∀ item ∈ items, item.Numberless) :
    (array items).Numberless := by
  have hitems : ∀ token ∈ itemTokens items, token.isNumber = false := by
    induction items with
    | nil => simp [itemTokens]
    | cons item items ih =>
      rw [List.forall_mem_cons] at h
      intro token htoken
      rw [itemTokens, List.mem_append] at htoken
      rcases htoken with htoken | htoken
      · exact h.1 token htoken
      · split at htoken
        · cases htoken
        · rcases List.mem_cons.mp htoken with rfl | htoken
          · rfl
          · exact ih h.2 token htoken
  intro token htoken
  simp only [tokens, List.cons_append, List.mem_cons, List.mem_append, List.not_mem_nil,
    or_false] at htoken
  rcases htoken with rfl | htoken | rfl
  · rfl
  · exact hitems token htoken
  · rfl

theorem numberless_object {members : List (τ × Value τ)}
    (h : ∀ member ∈ members, member.2.Numberless) : (object members).Numberless := by
  have hmembers : ∀ token ∈ memberTokens members, token.isNumber = false := by
    induction members with
    | nil => simp [memberTokens]
    | cons member members ih =>
      rw [List.forall_mem_cons] at h
      intro token htoken
      rw [memberTokens, List.mem_append, List.mem_cons, List.mem_cons] at htoken
      rcases htoken with (rfl | rfl | htoken) | htoken
      · rfl
      · rfl
      · exact h.1 token htoken
      · split at htoken
        · cases htoken
        · rcases List.mem_cons.mp htoken with rfl | htoken
          · rfl
          · exact ih h.2 token htoken
  intro token htoken
  simp only [tokens, List.cons_append, List.mem_cons, List.mem_append, List.not_mem_nil,
    or_false] at htoken
  rcases htoken with rfl | htoken | rfl
  · rfl
  · exact hmembers token htoken
  · rfl

end Value

/-! ## Texts read back -/

/-- What is read where a value without numbers is spelled: the same value,
    whose literals all name texts. -/
theorem read_of_spells {value : Value String} {text : String}
    (hspells : Spells value.tokens text.toList) (hnumberless : value.Numberless) :
    read text = .ok (value.map some) := by
  rw [read_eq_ok_iff, value.tokens_map]
  exact hspells.writes hnumberless

/-- A value without numbers is read back from what is written for it. -/
theorem read_write {value : Value String} (hnumberless : value.Numberless) (pretty : Bool) :
    read (value.write pretty) = .ok (value.map some) :=
  read_of_spells (value.spells_write pretty) hnumberless

end ModuleCatalog.Json
