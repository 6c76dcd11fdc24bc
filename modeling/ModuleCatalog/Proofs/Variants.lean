import ModuleCatalog.Fallible
import ModuleCatalog.Proofs.Members
import ModuleCatalog.Proofs.Reading
import ModuleCatalog.Source

/-! # Variants of the text of a tree

    The order of the members of an object does not count, nor what stands under
    other names than those of a node, nor an empty part that might as well be
    missing.  Changes of these kinds make variants of a value, and all of them
    stand for the same tree (`Varies.ofValue?_eq`).  With a name that comes
    twice, or without a tag, an object stands for nothing, and then so does all
    that it stands in (`HoldsNode.ofValue?_eq_none`). -/

namespace ModuleCatalog

open Json (Value LiteralText Fault)

namespace Node

variable {members members' : Members} {key : String} {value : Value LiteralText}

/-! ## Changes that do not count -/

/-- The members of two objects tell the same, whatever that is. -/
structure TellAlike (readers : Readers) (members' members : Members) : Prop where
  keys : (∀ member ∈ members', member.1 ≠ none) ↔ ∀ member ∈ members, member.1 ≠ none
  tag : readPart textOf? (valuesAt "tag" members') = readPart textOf? (valuesAt "tag" members)
  attrs : (readPart readers.attrs (valuesAt "attrs" members')).map (·.getD ∅) =
    (readPart readers.attrs (valuesAt "attrs" members)).map (·.getD ∅)
  children : (readPart readers.children (valuesAt "children" members')).map (·.getD []) =
    (readPart readers.children (valuesAt "children" members)).map (·.getD [])

namespace TellAlike

variable {readers : Readers}

theorem ofValueWith?_eq (h : TellAlike readers members' members) :
    ofValueWith? readers (.object members') = ofValueWith? readers (.object members) := by
  refine Option.ext fun n => ?_
  rw [ofValueWith?_object_eq_some_iff, ofValueWith?_object_eq_some_iff]
  constructor
  · intro hn
    exact ⟨h.keys.mp hn.keys, h.tag ▸ hn.tag, h.attrs ▸ hn.attrs, h.children ▸ hn.children⟩
  · intro hn
    exact ⟨h.keys.mpr hn.keys, h.tag ▸ hn.tag, h.attrs ▸ hn.attrs, h.children ▸ hn.children⟩

/-- The order of the members does not count. -/
theorem of_perm (h : members'.Perm members) : TellAlike readers members' members := by
  have hvalues : ∀ name, (valuesAt name members').Perm (valuesAt name members) :=
    fun name => (h.filter _).map _
  exact
    { keys := by simp only [h.mem_iff]
      tag := readPart_eq_of_perm (hvalues _)
      attrs := by rw [readPart_eq_of_perm (hvalues _)]
      children := by rw [readPart_eq_of_perm (hvalues _)] }

/-- Members under other names do not count. -/
theorem insert {before behind : Members} (hkey : key ∉ memberNames) :
    TellAlike readers (before ++ (some key, value) :: behind) (before ++ behind) := by
  simp only [memberNames, List.mem_cons, List.not_mem_nil, or_false, not_or] at hkey
  obtain ⟨htag, hattrs, hchildren⟩ := hkey
  exact
    { keys := keys_insert
      tag := by rw [valuesAt_insert htag]
      attrs := by rw [valuesAt_insert hattrs]
      children := by rw [valuesAt_insert hchildren] }

/-- Empty attributes are as good as none. -/
theorem emptyAttrs (hread : readers.attrs (.object []) = some ∅)
    (hnone : ∀ member ∈ members, member.1 ≠ some "attrs") :
    TellAlike readers ((some "attrs", .object []) :: members) members where
  keys := by simp
  tag := by rw [valuesAt_cons_of_ne (by decide)]
  attrs := by
    rw [valuesAt_cons, if_pos rfl, valuesAt_eq_nil_iff.mpr hnone]
    simp [readPart, hread]
  children := by rw [valuesAt_cons_of_ne (by decide)]

/-- An empty list of children is as good as none. -/
theorem emptyChildren (hread : readers.children (.array []) = some [])
    (hnone : ∀ member ∈ members, member.1 ≠ some "children") :
    TellAlike readers ((some "children", .array []) :: members) members where
  keys := by simp
  tag := by rw [valuesAt_cons_of_ne (by decide)]
  attrs := by rw [valuesAt_cons_of_ne (by decide)]
  children := by
    rw [valuesAt_cons, if_pos rfl, valuesAt_eq_nil_iff.mpr hnone]
    simp [readPart, hread]

/-- Of the children only what is read counts. -/
theorem children_of_eq {before behind : Members} {value' : Value LiteralText}
    (hread : readers.children value' = readers.children value) :
    TellAlike readers (before ++ (some "children", value') :: behind)
      (before ++ (some "children", value) :: behind) where
  keys := by rw [keys_insert, keys_insert]
  tag := by rw [valuesAt_insert (by decide), valuesAt_insert (by decide)]
  attrs := by rw [valuesAt_insert (by decide), valuesAt_insert (by decide)]
  children := by
    simp only [valuesAt_append, valuesAt_cons, if_true]
    -- the member counts only if it is the one with this name
    match valuesAt "children" before, valuesAt "children" behind with
    | [], [] => simp only [List.nil_append, readPart, hread]
    | [], _ :: _ => rfl
    | _ :: _, _ =>
      rw [readPart_of_two_le (by simp only [List.length_append, List.length_cons]; omega),
        readPart_of_two_le (by simp only [List.length_append, List.length_cons]; omega)]

end TellAlike

/-! ## Variants -/

/-- A value is varied without effect on the tree that it stands for.  The
    arrays and objects of the tree are counted by `level` from the outermost
    one, which is at the first. -/
inductive Varies : (level : Nat) → Value LiteralText → Value LiteralText → Prop where
  | refl (level : Nat) (v : Value LiteralText) : Varies level v v
  | trans {level : Nat} {v v' v'' : Value LiteralText} (h : Varies level v v')
      (h' : Varies level v' v'') : Varies level v v''
  /-- The members of the object of a node come in another order. -/
  | reorder {level : Nat} {members members' : Members} (h : members'.Perm members) :
      Varies level (.object members) (.object members')
  /-- A member with another name, which may hold anything, is put in
      somewhere. -/
  | insert {level : Nat} {key : String} (before behind : Members) (value : Value LiteralText)
      (hkey : key ∉ memberNames) :
      Varies level (.object (before ++ behind)) (.object (before ++ (some key, value) :: behind))
  /-- Empty attributes are added where none were given. -/
  | emptyAttrs {level : Nat} {members : Members}
      (hnone : ∀ member ∈ members, member.1 ≠ some "attrs") (hlevel : level < nestingLimit) :
      Varies level (.object members) (.object ((some "attrs", .object []) :: members))
  | emptySecond {level : Nat} (tag : Value LiteralText) (hlevel : level < nestingLimit) :
      Varies level (.array [tag]) (.array [tag, .object []])
  /-- An empty list of children is added where none was given. -/
  | emptyChildren {level : Nat} {members : Members}
      (hnone : ∀ member ∈ members, member.1 ≠ some "children") (hlevel : level < nestingLimit) :
      Varies level (.object members) (.object ((some "children", .array []) :: members))
  | emptyThird {level : Nat} (tag attrs : Value LiteralText) (hlevel : level < nestingLimit) :
      Varies level (.array [tag, attrs]) (.array [tag, attrs, .array []])
  /-- One of the children is varied. -/
  | child {level : Nat} {item item' : Value LiteralText} (before behind : Members)
      (front back : List (Value LiteralText)) (h : Varies (level + 2) item item') :
      Varies level
        (.object (before ++ (some "children", .array (front ++ item :: back)) :: behind))
        (.object (before ++ (some "children", .array (front ++ item' :: back)) :: behind))
  | childOfArray {level : Nat} {item item' : Value LiteralText} (tag attrs : Value LiteralText)
      (front back : List (Value LiteralText)) (h : Varies (level + 2) item item') :
      Varies level (.array [tag, attrs, .array (front ++ item :: back)])
        (.array [tag, attrs, .array (front ++ item' :: back)])

variable {v v' : Value LiteralText}

/-- Values that are read alike by any readers stand for the same. -/
theorem ofValue?_congr (h : ∀ readers, ofValueWith? readers v' = ofValueWith? readers v)
    (depth : Nat) : ofValue? depth v' = ofValue? depth v := by
  match depth with
  | 0 => rfl
  | 1 => exact h _
  | depth + 2 => exact h _

theorem mapM_ofValue?_congr {depth : Nat} {item item' : Value LiteralText}
    (h : ofValue? depth item' = ofValue? depth item) (front back : List (Value LiteralText)) :
    (front ++ item' :: back).mapM (ofValue? depth) =
      (front ++ item :: back).mapM (ofValue? depth) := by
  rw [List.mapM_append, List.mapM_append, List.mapM_cons, List.mapM_cons, h]

/-- Variants stand for the same tree, if they stand for any. -/
theorem Varies.ofValue?_eq {level : Nat} (h : Varies level v v') {depth : Nat}
    (hdepth : depth + level = nestingLimit + 1) : ofValue? depth v' = ofValue? depth v := by
  -- of all that may nest, `depth` is what is left below the level of the value
  induction h generalizing depth with
  | refl => rfl
  | trans _ _ ih ih' => rw [ih' hdepth, ih hdepth]
  | reorder hperm => exact ofValue?_congr (fun _ => (TellAlike.of_perm hperm).ofValueWith?_eq) depth
  | insert before behind value hkey =>
    exact ofValue?_congr (fun _ => (TellAlike.insert hkey).ofValueWith?_eq) depth
  | emptyAttrs hnone hlevel =>
    obtain ⟨depth, rfl⟩ : ∃ d, depth = d + 2 := ⟨depth - 2, by omega⟩
    exact (TellAlike.emptyAttrs rfl hnone).ofValueWith?_eq
  | emptySecond tag hlevel =>
    obtain ⟨depth, rfl⟩ : ∃ d, depth = d + 2 := ⟨depth - 2, by omega⟩
    rfl
  | emptyChildren hnone hlevel =>
    obtain ⟨depth, rfl⟩ : ∃ d, depth = d + 2 := ⟨depth - 2, by omega⟩
    exact (TellAlike.emptyChildren rfl hnone).ofValueWith?_eq
  | emptyThird tag attrs hlevel =>
    obtain ⟨depth, rfl⟩ : ∃ d, depth = d + 2 := ⟨depth - 2, by omega⟩
    rfl
  | @child _ item item' before behind front back _ ih =>
    match depth with
    | 0 => rfl
    | 1 =>
      -- at the limit children are not read at all
      let readers : Readers := ⟨fun _ => none, fun _ => none⟩
      have hread : readers.children (.array (front ++ item' :: back)) =
          readers.children (.array (front ++ item :: back)) := rfl
      exact (TellAlike.children_of_eq hread).ofValueWith?_eq
    | depth + 2 =>
      have hitem : ofValue? depth item' = ofValue? depth item := ih (by omega)
      exact (TellAlike.children_of_eq (mapM_ofValue?_congr hitem front back)).ofValueWith?_eq
  | @childOfArray _ item item' tag attrs front back _ ih =>
    match depth with
    | 0 => rfl
    | 1 => rfl
    | depth + 2 =>
      have hitem : ofValue? depth item' = ofValue? depth item := ih (by omega)
      simp only [ofValue?, ofValueWith?, mapM_ofValue?_congr hitem front back]

/-! ## Objects that stand for nothing -/

/-- The value `inner` stands where a node has to be, in the tree that `outer` is
    read as. -/
inductive HoldsNode : (outer inner : Value LiteralText) → Prop where
  | self (v : Value LiteralText) : HoldsNode v v
  | child {members : Members} {items : List (Value LiteralText)} {item inner : Value LiteralText}
      (hmember : (some "children", .array items) ∈ members) (hitem : item ∈ items)
      (h : HoldsNode item inner) : HoldsNode (.object members) inner
  | childOfArray {tag attrs : Value LiteralText} {items : List (Value LiteralText)}
      {item inner : Value LiteralText} (hitem : item ∈ items) (h : HoldsNode item inner) :
      HoldsNode (.array [tag, attrs, .array items]) inner

/-- The members of an object cannot be those of a node. -/
inductive Unfit (members : Members) : Prop where
  | repeated {name : String} (hname : name ∈ memberNames)
      (h : 2 ≤ (members.map Prod.fst).count (some name))
  | untagged (h : ∀ member ∈ members, member.1 ≠ some "tag")

theorem Unfit.not_toldBy {readers : Readers} {n : Node} (h : Unfit members) :
    ¬ n.ToldBy readers members := by
  intro hn
  obtain ⟨-, htag, hattrs, hchildren⟩ := hn
  cases h with
  | repeated hname h =>
    rw [← length_valuesAt] at h
    simp only [memberNames, List.mem_cons, List.not_mem_nil, or_false] at hname
    rcases hname with rfl | rfl | rfl
    · rw [readPart_of_two_le h] at htag
      cases htag
    · rw [readPart_of_two_le h] at hattrs
      cases hattrs
    · rw [readPart_of_two_le h] at hchildren
      cases hchildren
  | untagged h =>
    rw [valuesAt_eq_nil_iff.mpr h] at htag
    cases htag

theorem Unfit.ofValueWith?_eq_none {readers : Readers} (h : Unfit members) :
    ofValueWith? readers (.object members) = none :=
  Option.eq_none_iff_forall_ne_some.mpr fun _ hn =>
    h.not_toldBy (ofValueWith?_object_eq_some_iff.mp hn)

theorem Unfit.ofValue?_eq_none (h : Unfit members) :
    ∀ depth, ofValue? depth (.object members) = none
  | 0 => rfl
  | 1 => h.ofValueWith?_eq_none
  | _ + 2 => h.ofValueWith?_eq_none

/-- An object with a member for the children that cannot be read stands for
    nothing. -/
theorem ofValueWith?_object_eq_none {readers : Readers} (hmember : (some "children", v) ∈ members)
    (hread : readers.children v = none) : ofValueWith? readers (.object members) = none := by
  refine Option.eq_none_iff_forall_ne_some.mpr fun n hn => ?_
  have hchildren := (ofValueWith?_object_eq_some_iff.mp hn).children
  -- `v` would be the only value for the children, or one of several
  have hmem : v ∈ valuesAt "children" members :=
    List.mem_map.mpr ⟨_, List.mem_filter.mpr ⟨hmember, by simp⟩, rfl⟩
  match hvalues : valuesAt "children" members with
  | [] => simp [hvalues] at hmem
  | [value] =>
    rw [hvalues, List.mem_singleton] at hmem
    rw [hvalues, ← hmem, readPart, hread] at hchildren
    cases hchildren
  | _ :: _ :: _ =>
    rw [hvalues] at hchildren
    cases hchildren

theorem ofValueWith?_array_eq_none {readers : Readers} (tag attrs : Value LiteralText)
    (hread : readers.children v = none) : ofValueWith? readers (.array [tag, attrs, v]) = none := by
  simp [ofValueWith?, hread]

theorem mapM_eq_none_of_mem {α β : Type} {f : α → Option β} {items : List α} {item : α}
    (hitem : item ∈ items) (h : f item = none) : items.mapM f = none := by
  obtain ⟨front, back, rfl⟩ := List.append_of_mem hitem
  rw [List.mapM_append, List.mapM_cons, h]
  cases front.mapM f <;> rfl

/-- With something inside that stands for nothing, a value stands for nothing,
    however deep it may nest. -/
theorem HoldsNode.ofValue?_eq_none {outer inner : Value LiteralText} (h : HoldsNode outer inner)
    (hinner : ∀ depth, ofValue? depth inner = none) : ∀ depth, ofValue? depth outer = none := by
  induction h with
  | self => exact hinner
  | child hmember hitem _ ih =>
    intro depth
    match depth with
    | 0 => rfl
    | 1 => exact ofValueWith?_object_eq_none hmember rfl
    | depth + 2 =>
      exact ofValueWith?_object_eq_none hmember (mapM_eq_none_of_mem hitem (ih hinner depth))
  | childOfArray hitem _ ih =>
    intro depth
    match depth with
    | 0 => rfl
    | 1 => exact ofValueWith?_array_eq_none _ _ rfl
    | depth + 2 =>
      exact ofValueWith?_array_eq_none _ _ (mapM_eq_none_of_mem hitem (ih hinner depth))

/-! ## Texts -/

/-- The second text is a variant of the first: the value that it writes is
    varied, and it is written anew. -/
def IsVariant (text text' : String) : Prop :=
  ∃ v v', Json.Writes v.tokens text.toList ∧ Varies 1 v v' ∧ Json.Writes v'.tokens text'.toList

/-- The text writes a value in which an object that has to be a node has a part
    twice, or no tag. -/
def HoldsUnfit (text : String) : Prop :=
  ∃ v members, Json.Writes v.tokens text.toList ∧ HoldsNode v (.object members) ∧ Unfit members

theorem read_eq {text : String} {v : Value LiteralText} (h : Json.Writes v.tokens text.toList) :
    read text = match ofValue? nestingLimit v with
      | some n => .ok n
      | none => .error .notATree := by
  rw [read, Json.read_eq_ok_iff.mpr h]
  rfl

/-- A text that holds a tree writes one value, and all its variants hold the same
    tree and have the same catalog.  No text is taken for a tree where a part of
    some node is written twice or a tag is missing. -/
theorem read_variant (text : String) :
    (∀ n, read text = .ok n →
      (∃ v : Value LiteralText, Json.Writes v.tokens text.toList ∧
        ∀ w : Value LiteralText, Json.Writes w.tokens text.toList → w = v) ∧
      ∀ text', IsVariant text text' → read text' = .ok n ∧
        ∀ projectRoot, Catalog.ofText .json text' projectRoot =
          Catalog.ofText .json text projectRoot) ∧
    (HoldsUnfit text → read text = .error .notATree ∧
      ∀ projectRoot, Catalog.ofText .json text projectRoot = .error (.json .notATree)) := by
  constructor
  · intro n h
    constructor
    · obtain ⟨v, hread, -⟩ := bind_eq_ok.mp h
      refine ⟨v, Json.read_eq_ok_iff.mp hread, fun w hw => ?_⟩
      exact Except.ok.inj ((Json.read_eq_ok_iff.mpr hw).symm.trans hread)
    · intro text' hvariant
      obtain ⟨v, v', hv, hvaries, hv'⟩ := hvariant
      have hsame : read text' = read text := by
        rw [read_eq hv, read_eq hv', hvaries.ofValue?_eq rfl]
      refine ⟨hsame.trans h, fun projectRoot => ?_⟩
      rw [Catalog.ofText, Catalog.ofText, Encoding.readTree, Encoding.readTree, hsame]
  · intro hunfit
    obtain ⟨v, members, hv, hholds, hunfit⟩ := hunfit
    have hread : read text = .error .notATree := by
      rw [read_eq hv, hholds.ofValue?_eq_none hunfit.ofValue?_eq_none]
    refine ⟨hread, fun projectRoot => Catalog.ofText_of_readTree_eq_error ?_⟩
    rw [Encoding.readTree, hread]
    rfl

/-- A tree of two nodes. -/
def sampleShort : String :=
  "\x7b\"tag\": \"module\", \"children\": [\x7b\"tag\": \"name\"\x7d]\x7d"

/-- The same tree with one member more for each node, the tags moved behind and
    spelled in another way.  One member holds a broken literal. -/
def sampleVariant : String :=
  "\x7b\"x\": [-1e5, \"\\ud800\"],\n\"children\": " ++
    "[\x7b\"attrs\":\x7b\x7d,\"\\u0074ag\":\"n\\u0061me\"\x7d],\"tag\": \"module\"\x7d"

/-- The inner node has two tags, one of them behind an escape. -/
def sampleUnfit : String :=
  "\x7b\"tag\": \"module\", \"children\": [\x7b\"tag\": \"name\", \"t\\u0061g\": \"name\"\x7d]\x7d"

/-- The variant is read as the same tree, and the text with two tags in one
    object is not read. -/
theorem read_variant_sampleShort :
    let n : Node := ⟨"module", ∅, [⟨"name", ∅, []⟩]⟩
    read sampleShort = .ok n ∧ IsVariant sampleShort sampleVariant ∧ HoldsUnfit sampleUnfit ∧
      read sampleVariant = .ok n ∧ read sampleUnfit = .error .notATree := by
  intro n
  let tag : LiteralText × Value LiteralText := (some "tag", .string (some "module"))
  let name : LiteralText × Value LiteralText := (some "tag", .string (some "name"))
  let skipped : Value LiteralText := .array [.number "-1e5", .string none]
  have hshort : Json.Writes (Value.object [tag, (some "children", .array [.object [name]])]).tokens
      sampleShort.toList := Json.writes_of_tokenize? (by decide +kernel)
  have hvariant : Json.Writes (Value.object [(some "x", skipped),
      (some "children", .array [.object [(some "attrs", .object []), name]]), tag]).tokens
      sampleVariant.toList := Json.writes_of_tokenize? (by decide +kernel)
  have hunfit : Json.Writes
      (Value.object [tag, (some "children", .array [.object [name, name]])]).tokens
      sampleUnfit.toList := Json.writes_of_tokenize? (by decide +kernel)
  have hread : read sampleShort = .ok n := read_eq hshort
  have hvaries : IsVariant sampleShort sampleVariant := by
    refine ⟨_, _, hshort, ?_, hvariant⟩
    have hinner : Varies 3 (.object [name]) (.object [(some "attrs", .object []), name]) :=
      .emptyAttrs (by simp [name]) (by decide)
    have hchild : Varies 1 _ _ := .child [tag] [] [] [] hinner
    exact (hchild.trans (.reorder (.swap _ _ []))).trans (.insert [] _ skipped (by decide))
  have hholds : HoldsUnfit sampleUnfit := by
    refine ⟨_, [name, name], hunfit, ?_, ?_⟩
    · exact .child (List.mem_cons_of_mem _ List.mem_cons_self) List.mem_cons_self (.self _)
    · exact @Unfit.repeated _ "tag" (by decide) (by decide)
  obtain ⟨-, hvariants⟩ := (read_variant sampleShort).1 n hread
  obtain ⟨hunread, -⟩ := (read_variant sampleUnfit).2 hholds
  exact ⟨hread, hvaries, hholds, (hvariants _ hvaries).1, hunread⟩

end Node

end ModuleCatalog
