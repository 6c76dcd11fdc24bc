import Mathlib.Data.List.Induction
import ModuleCatalog.Tree.NodeJson

/-! # What the members of an object tell

    The members of an object are read one by one.  What they come to is told
    from the values under the three names of a node: of each part there is at
    most one, and the tag may not be missing (`ofValueWith?_object_eq_some_iff`).
    The order of the members shows nowhere in this, nor does what stands under
    other names. -/

namespace ModuleCatalog

open Json (Value LiteralText)

namespace Node

/-- The members of an object, with the keys that their literals name. -/
abbrev Members := List (LiteralText × Value LiteralText)

/-- The names of the members that tell a node. -/
def memberNames : List String := ["tag", "attrs", "children"]

/-- The values of the members with one name, in their order. -/
def valuesAt (name : String) (members : Members) : List (Value LiteralText) :=
  (members.filter fun member => member.1 = some name).map Prod.snd

variable {members members' : Members} {name key : String} {value : Value LiteralText}

theorem valuesAt_append :
    valuesAt name (members ++ members') = valuesAt name members ++ valuesAt name members' := by
  simp [valuesAt]

theorem valuesAt_cons :
    valuesAt name ((some key, value) :: members) =
      if key = name then value :: valuesAt name members else valuesAt name members := by
  by_cases h : key = name <;> simp [valuesAt, h]

theorem valuesAt_cons_of_ne (hne : key ≠ name) :
    valuesAt name ((some key, value) :: members) = valuesAt name members := by
  rw [valuesAt_cons, if_neg hne]

theorem valuesAt_concat :
    valuesAt name (members ++ [(some key, value)]) =
      valuesAt name members ++ if key = name then [value] else [] := by
  rw [valuesAt_append, valuesAt_cons]
  rfl

/-- A member with a key of its own tells nothing under other names. -/
theorem valuesAt_insert {before behind : Members} (hne : key ≠ name) :
    valuesAt name (before ++ (some key, value) :: behind) = valuesAt name (before ++ behind) := by
  rw [valuesAt_append, valuesAt_cons_of_ne hne, valuesAt_append]

theorem keys_insert {before behind : Members} :
    (∀ member ∈ before ++ (some key, value) :: behind, member.1 ≠ none) ↔
      ∀ member ∈ before ++ behind, member.1 ≠ none := by
  simp [or_imp, forall_and]

/-- Members that lack a name have no values under it. -/
theorem valuesAt_eq_nil_iff :
    valuesAt name members = [] ↔ ∀ member ∈ members, member.1 ≠ some name := by
  simp [valuesAt]

theorem length_valuesAt (name : String) (members : Members) :
    (valuesAt name members).length = (members.map Prod.fst).count (some name) := by
  rw [valuesAt, List.length_map, List.count_eq_countP, List.countP_map,
    List.countP_eq_length_filter]
  refine congrArg List.length (List.filter_congr fun member _ => ?_)
  rw [Function.comp_apply, Bool.eq_iff_iff, decide_eq_true_iff, beq_iff_eq]

/-! ## Parts -/

section part

variable {α : Type} {read : Value LiteralText → Option α}
  {values values' : List (Value LiteralText)}

/-- The part of a node that is read from the members with its name.  It may be
    missing, and may not come twice. -/
def readPart (read : Value LiteralText → Option α) : List (Value LiteralText) → Option (Option α)
  | [] => some none
  | [value] => (read value).map some
  | _ :: _ :: _ => none

theorem readPart_of_two_le (h : 2 ≤ values.length) : readPart read values = none := by
  match values with
  | [] | [_] => simp at h
  | _ :: _ :: _ => rfl

/-- What stands for a part was read for it, unless it stands in for a missing
    one. -/
theorem eq_or_exists_of_readPart {blank a : α}
    (h : (readPart read values).map (·.getD blank) = some a) :
    a = blank ∨ ∃ value, read value = some a := by
  match values with
  | [] =>
    cases h
    exact .inl rfl
  | [value] =>
    obtain ⟨part, hpart, rfl⟩ := Option.map_eq_some_iff.mp h
    obtain ⟨b, hread, rfl⟩ := Option.map_eq_some_iff.mp hpart
    exact .inr ⟨value, hread⟩
  | _ :: _ :: _ => cases h

/-- The order does not count, as there is no more than one value. -/
theorem readPart_eq_of_perm (h : values'.Perm values) :
    readPart read values' = readPart read values := by
  match values with
  | [] => rw [h.eq_nil]
  | [value] => rw [List.perm_singleton.mp h]
  | _ :: _ :: _ =>
    have hlength : 2 ≤ values'.length := by
      rw [h.length_eq]
      simp
    rw [readPart_of_two_le hlength, readPart_of_two_le (by simp)]

/-- What one more member does to the part under `name`: with this name it is
    read for the part, which has to be missing so far. -/
def Fills (name : String) (read : Value LiteralText → Option α) (key : String)
    (value : Value LiteralText) (before after : Option α) : Prop :=
  if key = name then before = none ∧ ∃ a, read value = some a ∧ some a = after
  else before = after

theorem readPart_concat_eq_some_iff {after : Option α} :
    readPart read (valuesAt name (members ++ [(some key, value)])) = some after ↔
      ∃ before, readPart read (valuesAt name members) = some before ∧
        Fills name read key value before after := by
  rw [valuesAt_concat]
  unfold Fills
  by_cases h : key = name
  · simp only [if_pos h]
    match valuesAt name members with
    | [] => simp [readPart]
    | [first] => simp [readPart]
    | _ :: _ :: _ => simp [readPart]
  · simp [h]

end part

/-- The parts that members tell. -/
structure Parts.ToldBy (readers : Readers) (members : Members) (parts : Parts) : Prop where
  keys : ∀ member ∈ members, member.1 ≠ none
  tag : readPart textOf? (valuesAt "tag" members) = some parts.tag
  attrs : readPart readers.attrs (valuesAt "attrs" members) = some parts.attrs
  children : readPart readers.children (valuesAt "children" members) = some parts.children

namespace Parts

variable {readers : Readers} {parts parts' : Parts}

theorem toldBy_nil_iff : parts.ToldBy readers [] ↔ parts = {} := by
  obtain ⟨tag, attrs, children⟩ := parts
  constructor
  · intro h
    obtain ⟨-, htag, hattrs, hchildren⟩ := h
    cases htag
    cases hattrs
    cases hchildren
    rfl
  · intro h
    cases h
    exact ⟨by simp, rfl, rfl, rfl⟩

/-- A member fills the part of its name, and leaves the others as they are. -/
theorem add_eq_some_iff :
    add readers parts (some key, value) = some parts' ↔
      Fills "tag" textOf? key value parts.tag parts'.tag ∧
        Fills "attrs" readers.attrs key value parts.attrs parts'.attrs ∧
        Fills "children" readers.children key value parts.children parts'.children := by
  obtain ⟨tag, attrs, children⟩ := parts
  obtain ⟨tag', attrs', children'⟩ := parts'
  unfold add Fills
  show (if key = "tag" then _ else _) = some _ ↔ _
  -- a part that is there already takes no second value, one that is missing what is read
  by_cases htag : key = "tag"
  · subst htag
    cases tag with
    | none => grind [Option.bind_eq_some_iff]
    | some => simp
  · by_cases hattrs : key = "attrs"
    · subst hattrs
      cases attrs with
      | none => grind [Option.bind_eq_some_iff]
      | some => simp
    · by_cases hchildren : key = "children"
      · subst hchildren
        cases children with
        | none => grind [Option.bind_eq_some_iff]
        | some => simp
      · simp [htag, hattrs, hchildren]

/-- One more member fills one of the parts that the others tell. -/
theorem toldBy_concat_iff {member : LiteralText × Value LiteralText} :
    parts'.ToldBy readers (members ++ [member]) ↔
      ∃ parts : Parts, parts.ToldBy readers members ∧ parts.add readers member = some parts' := by
  obtain ⟨key?, value⟩ := member
  cases key? with
  | none =>
    -- a literal that names no text is no key
    refine ⟨fun h => absurd rfl (h.keys _ (List.mem_append_right _ List.mem_cons_self)), ?_⟩
    intro h
    obtain ⟨parts, -, hadd⟩ := h
    cases hadd
  | some key =>
    -- the parts ahead of the member are found one by one, and put together
    simp only [add_eq_some_iff]
    constructor
    · intro h
      obtain ⟨tag, htag, hfilled⟩ := readPart_concat_eq_some_iff.mp h.tag
      obtain ⟨attrs, hattrs, hfilled'⟩ := readPart_concat_eq_some_iff.mp h.attrs
      obtain ⟨children, hchildren, hfilled''⟩ := readPart_concat_eq_some_iff.mp h.children
      exact ⟨⟨tag, attrs, children⟩,
        ⟨fun member hmember => h.keys member (List.mem_append_left _ hmember), htag, hattrs,
          hchildren⟩, hfilled, hfilled', hfilled''⟩
    · intro h
      obtain ⟨parts, htold, hfilled, hfilled', hfilled''⟩ := h
      exact
        { keys := by simpa [or_imp, forall_and] using htold.keys
          tag := readPart_concat_eq_some_iff.mpr ⟨_, htold.tag, hfilled⟩
          attrs := readPart_concat_eq_some_iff.mpr ⟨_, htold.attrs, hfilled'⟩
          children := readPart_concat_eq_some_iff.mpr ⟨_, htold.children, hfilled''⟩ }

/-- The parts that are read from members are those that they tell. -/
theorem foldlM_add_eq_some_iff :
    members.foldlM (add readers) {} = some parts ↔ parts.ToldBy readers members := by
  induction members using List.reverseRecOn generalizing parts with
  | nil =>
    rw [toldBy_nil_iff]
    exact ⟨fun h => (Option.some.inj h).symm, fun h => congrArg some h.symm⟩
  | append_singleton members member ih =>
    rw [List.foldlM_append, toldBy_concat_iff]
    simp only [← ih]
    show ((members.foldlM (add readers) {}).bind fun parts => add readers parts member >>= pure) =
      some parts ↔ _
    simp only [bind_pure, Option.bind_eq_some_iff]

end Parts

/-! ## Nodes -/

/-- The node that members tell.  It has to have a tag. -/
structure ToldBy (readers : Readers) (members : Members) (n : Node) : Prop where
  keys : ∀ member ∈ members, member.1 ≠ none
  tag : readPart textOf? (valuesAt "tag" members) = some (some n.tag)
  attrs : (readPart readers.attrs (valuesAt "attrs" members)).map (·.getD ∅) = some n.attrs
  children : (readPart readers.children (valuesAt "children" members)).map (·.getD []) =
    some n.children

/-- An object stands for the node that its members tell. -/
theorem ofValueWith?_object_eq_some_iff {readers : Readers} {n : Node} :
    ofValueWith? readers (.object members) = some n ↔ n.ToldBy readers members := by
  have hread : ofValueWith? readers (.object members) = some n ↔
      ∃ parts : Parts, parts.ToldBy readers members ∧ parts.node? = some n := by
    simp only [← Parts.foldlM_add_eq_some_iff]
    exact Option.bind_eq_some_iff
  rw [hread]
  constructor
  · intro h
    obtain ⟨⟨tag, attrs, children⟩, ⟨hkeys, htag, hattrs, hchildren⟩, hnode⟩ := h
    obtain ⟨tag, rfl, rfl⟩ := Option.map_eq_some_iff.mp hnode
    exact ⟨hkeys, htag, by rw [hattrs]; rfl, by rw [hchildren]; rfl⟩
  · intro h
    obtain ⟨tag, _, _⟩ := n
    obtain ⟨hkeys, htag, hattrs, hchildren⟩ := h
    obtain ⟨attrs, hattrs', rfl⟩ := Option.map_eq_some_iff.mp hattrs
    obtain ⟨children, hchildren', rfl⟩ := Option.map_eq_some_iff.mp hchildren
    exact ⟨⟨some tag, attrs, children⟩, ⟨hkeys, htag, hattrs', hchildren'⟩, rfl⟩

/-- The attributes and the children of the node were read for some value, or
    there are none. -/
theorem ToldBy.exists_read {readers : Readers} {n : Node} (h : n.ToldBy readers members) :
    (n.attrs = ∅ ∨ ∃ value, readers.attrs value = some n.attrs) ∧
      (n.children = [] ∨ ∃ value, readers.children value = some n.children) :=
  ⟨eq_or_exists_of_readPart h.attrs, eq_or_exists_of_readPart h.children⟩

end Node

end ModuleCatalog
