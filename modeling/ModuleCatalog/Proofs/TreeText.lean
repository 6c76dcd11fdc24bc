import ModuleCatalog.Proofs.Gap
import ModuleCatalog.Proofs.Members
import ModuleCatalog.Proofs.Reading
import ModuleCatalog.Source

/-! # Trees written and read again

    How deep the objects and arrays of a written tree nest is told from the
    tree itself (`Node.nesting`).  What is written for a tree is read as that
    tree if it nests no deeper than the reader allows, and as no tree at all
    otherwise (`Node.ofValue?_toValue`).  A tree that was read never nests
    deeper than its text, whatever form the text has
    (`Node.nesting_le_of_ofValue?`), so it can be written and read again. -/

namespace ModuleCatalog

open Json (Value LiteralText)

/-! ## Attributes as pairs -/

/-- Attributes are told from their pairs, in whatever order these come. -/
theorem ofList_eq_of_perm {attrs : Attributes} {pairs : List (String × String)}
    (h : pairs.Perm attrs.toList) : .ofList pairs = attrs := by
  have hdistinct : pairs.Pairwise fun a b => ¬ compare a.1 b.1 = .eq :=
    h.symm.pairwise Std.ExtTreeMap.distinct_keys_toList fun hne e => hne (Std.OrientedCmp.eq_symm e)
  refine Std.ExtTreeMap.ext_getElem? fun key => ?_
  cases hvalue : attrs[key]? with
  | some value =>
    have hpair : (key, value) ∈ pairs :=
      h.mem_iff.mpr (Std.ExtTreeMap.mem_toList_iff_getElem?_eq_some.mpr hvalue)
    exact Std.ExtTreeMap.getElem?_ofList_of_mem Std.ReflOrd.compare_self hdistinct hpair
  | none =>
    refine Std.ExtTreeMap.getElem?_ofList_of_contains_eq_false ?_
    rw [← Bool.not_eq_true, List.contains_iff_mem]
    intro hkey
    obtain ⟨⟨key', value⟩, hpair, rfl⟩ := List.mem_map.mp hkey
    have hvalue' := Std.ExtTreeMap.mem_toList_iff_getElem?_eq_some.mp (h.mem_iff.mp hpair)
    rw [hvalue] at hvalue'
    cases hvalue'

namespace Node

/-! ## Nesting -/

mutual

/-- How deep the objects and arrays nest that a tree is written with: its own
    object, and in it the object of its attributes and the array of its
    children, where it has any. -/
def nesting : Node → Nat
  | ⟨_, attrs, children⟩ =>
    1 + max (if attrs.isEmpty then 0 else 1)
      (if children.isEmpty then 0 else 1 + nestingOfAll children)

/-- The largest nesting of some trees. -/
def nestingOfAll : List Node → Nat
  | [] => 0
  | n :: ns => max n.nesting (nestingOfAll ns)

end

theorem nestingOfAll_cons_le_iff {n : Node} {ns : List Node} {depth : Nat} :
    nestingOfAll (n :: ns) ≤ depth ↔ n.nesting ≤ depth ∧ nestingOfAll ns ≤ depth := by
  rw [nestingOfAll, Nat.max_le]

theorem nestingOfAll_le_iff {ns : List Node} {depth : Nat} :
    nestingOfAll ns ≤ depth ↔ ∀ n ∈ ns, n.nesting ≤ depth := by
  induction ns with
  | nil => simp [nestingOfAll]
  | cons n ns ih => rw [nestingOfAll_cons_le_iff, ih, List.forall_mem_cons]

theorem nesting_pos (n : Node) : 0 < n.nesting := by
  obtain ⟨tag, attrs, children⟩ := n
  rw [nesting]
  omega

/-- Only a tree of a single node without attributes is written as one object. -/
theorem nesting_le_one_iff {n : Node} :
    n.nesting ≤ 1 ↔ n.attrs.isEmpty = true ∧ n.children.isEmpty = true := by
  obtain ⟨tag, attrs, children⟩ := n
  rw [nesting]
  by_cases hattrs : attrs.isEmpty = true
  · by_cases hchildren : children.isEmpty = true
    · simp [hattrs, hchildren]
    · rw [if_pos hattrs, if_neg hchildren]
      refine ⟨fun h => ?_, fun h => absurd h.2 hchildren⟩
      exfalso
      omega
  · rw [if_neg hattrs]
    refine ⟨fun h => ?_, fun h => absurd h.1 hattrs⟩
    exfalso
    omega

/-- Attributes alone nest two deep, and children two deeper than each of them. -/
theorem nesting_le_add_two_iff {n : Node} {depth : Nat} :
    n.nesting ≤ depth + 2 ↔ nestingOfAll n.children ≤ depth := by
  obtain ⟨tag, attrs, children⟩ := n
  have hattrs : (if attrs.isEmpty = true then 0 else 1) ≤ 1 := by
    split
    · omega
    · omega
  rw [nesting]
  cases children with
  | nil =>
    simp only [List.isEmpty_nil, if_true, nestingOfAll]
    omega
  | cons child children =>
    simp only [List.isEmpty_cons, Bool.false_eq_true, if_false]
    omega

/-! ## Reading what was written -/

theorem toValues_eq_map (ns : List Node) : toValues ns = ns.map toValue := by
  induction ns with
  | nil => rfl
  | cons n ns ih => rw [toValues, ih, List.map_cons]

namespace Parts

variable {readers : Readers} {parts : Parts}

theorem add_tag (h : parts.tag = none) (tag : String) :
    add readers parts (some "tag", .string (some tag)) = some { parts with tag := some tag } := by
  simp [add, h, textOf?]

theorem add_attrs (h : parts.attrs = none) (value : Value LiteralText) :
    add readers parts (some "attrs", value) =
      (readers.attrs value).map fun attrs => { parts with attrs := some attrs } := by
  cases hvalue : readers.attrs value with
  | none => simp [add, h, hvalue]
  | some attrs => simp [add, h, hvalue]

theorem add_children (h : parts.children = none) (value : Value LiteralText) :
    add readers parts (some "children", value) =
      (readers.children value).map fun children => { parts with children := some children } := by
  cases hvalue : readers.children value with
  | none => simp [add, h, hvalue]
  | some children => simp [add, h, hvalue]

end Parts

/-- The members of the object of a tree, as they are read. -/
theorem map_toValue (tag : String) (attrs : Attributes) (children : List Node) :
    (toValue ⟨tag, attrs, children⟩).map some =
      .object ((some "tag", .string (some tag)) ::
        ((if attrs.isEmpty then [] else [(some "attrs", (attrsValue attrs).map some)]) ++
          if children.isEmpty then []
          else [(some "children", .array (children.map fun child => child.toValue.map some))])) := by
  have hitems : (Value.array (toValues children)).map some =
      .array (children.map fun child => child.toValue.map some) := by
    rw [Value.map, Json.mapItems_eq_map, toValues_eq_map, List.map_map]
    rfl
  rw [toValue, Value.map, Json.mapMembers_eq_map, List.map_cons, List.map_append, ← hitems]
  by_cases hattrs : attrs.isEmpty = true
  · by_cases hchildren : children.isEmpty = true
    · simp [hattrs, hchildren, Value.map]
    · simp [hattrs, hchildren, Value.map]
  · by_cases hchildren : children.isEmpty = true
    · simp [hattrs, hchildren, Value.map]
    · simp [hattrs, hchildren, Value.map]

/-- The members that are written are read, and what is left out is blank. -/
theorem ofValueWith?_toValue (readers : Readers) (n : Node) :
    ofValueWith? readers (n.toValue.map some) =
      (if n.attrs.isEmpty then some ∅ else readers.attrs ((attrsValue n.attrs).map some)).bind
        fun attrs =>
          (if n.children.isEmpty then some []
            else readers.children (.array (n.children.map fun child => child.toValue.map some))).map
              fun children => ⟨n.tag, attrs, children⟩ := by
  obtain ⟨tag, attrs, children⟩ := n
  have htag : Parts.add readers {} (some "tag", .string (some tag)) = some { tag := some tag } :=
    Parts.add_tag rfl tag
  rw [map_toValue]
  show (List.foldlM (Parts.add readers) {} (_ :: (_ ++ _))).bind Parts.node? = _
  rw [List.foldlM_cons, htag]
  show (List.foldlM (Parts.add readers) { tag := some tag } (_ ++ _)).bind Parts.node? = _
  generalize (attrsValue attrs).map some = attrsRead
  generalize Value.array (children.map fun child => child.toValue.map some) = childrenRead
  by_cases hattrs : attrs.isEmpty = true
  · by_cases hchildren : children.isEmpty = true
    · simp [hattrs, hchildren, Parts.node?]
    · cases hread : readers.children childrenRead
      all_goals simp [hattrs, hchildren, Parts.add_children, Parts.node?, hread]
  · by_cases hchildren : children.isEmpty = true
    · cases hread : readers.attrs attrsRead
      all_goals simp [hattrs, hchildren, Parts.add_attrs, Parts.node?, hread]
    · cases hread : readers.attrs attrsRead
      all_goals cases hread' : readers.children childrenRead
      all_goals simp [hattrs, hchildren, Parts.add_attrs, Parts.add_children, Parts.node?, hread, hread']

/-- The object of some attributes is read as these attributes. -/
theorem attrsOf?_attrs (attrs : Attributes) :
    attrsOf? (attrs.toList.map fun pair => (some pair.1, .string (some pair.2))) = some attrs := by
  have hread : ∀ (pairs : List (String × String)) (read : Attributes),
      (pairs.map fun pair => (some pair.1, Value.string (some pair.2))).foldlM
        (fun attrs (key?, value) => do
          let key ← key?
          return attrs.insert key (← textOf? value)) read = some (read.insertMany pairs) := by
    intro pairs
    induction pairs with
    | nil =>
      intro read
      rfl
    | cons pair pairs ih =>
      intro read
      rw [List.map_cons, List.foldlM_cons, Std.ExtTreeMap.insertMany_cons]
      exact ih (read.insert pair.1 pair.2)
  rw [attrsOf?, hread, ← Std.ExtTreeMap.ofList_eq_insertMany_empty,
    ofList_eq_of_perm (List.Perm.refl _)]

/-- Trees are read again if they all nest at most so deep. -/
theorem mapM_ofValue?_toValue {depth : Nat}
    (h : ∀ n : Node, ofValue? depth (n.toValue.map some) =
      if n.nesting ≤ depth then some n else none) (ns : List Node) :
    (ns.map fun n => n.toValue.map some).mapM (ofValue? depth) =
      if nestingOfAll ns ≤ depth then some ns else none := by
  induction ns with
  | nil => rfl
  | cons n ns ih =>
    rw [List.map_cons, List.mapM_cons, h, ih]
    simp only [nestingOfAll_cons_le_iff]
    by_cases hn : n.nesting ≤ depth
    · by_cases hns : nestingOfAll ns ≤ depth
      · simp [hn, hns]
      · simp [hn, hns]
    · simp [hn]

/-- What is written for a tree is read as that tree, if it does not nest too
    deep for the reader, and as no tree otherwise. -/
theorem ofValue?_toValue : ∀ (depth : Nat) (n : Node),
    ofValue? depth (n.toValue.map some) = if n.nesting ≤ depth then some n else none
  | 0, n => by
    have hpos := n.nesting_pos
    rw [if_neg (by omega)]
    rfl
  | 1, ⟨tag, attrs, children⟩ => by
    rw [ofValue?, ofValueWith?_toValue]
    simp only [nesting_le_one_iff]
    by_cases hattrs : attrs.isEmpty = true
    · by_cases hchildren : children.isEmpty = true
      · simp [Std.ExtTreeMap.isEmpty_iff.mp hattrs, List.isEmpty_iff.mp hchildren]
      · simp [hattrs, hchildren]
    · simp [hattrs]
  | depth + 2, ⟨tag, attrs, children⟩ => by
    -- a node takes two levels: its own object and the array of its children
    have hchildren := mapM_ofValue?_toValue (ofValue?_toValue depth) children
    have hvalue : (attrsValue attrs).map some =
        .object (attrs.toList.map fun pair => (some pair.1, .string (some pair.2))) := by
      rw [attrsValue, Value.map, Json.mapMembers_eq_map, List.map_map]
      rfl
    -- attributes that are left out are blank in the tree too
    have hattrs : (if attrs.isEmpty = true then some ∅ else some attrs) = some attrs := by
      split
      case isTrue h => rw [Std.ExtTreeMap.isEmpty_iff.mp h]
      case isFalse => rfl
    rw [ofValue?, ofValueWith?_toValue]
    simp only [nesting_le_add_two_iff, hvalue, attrsOf?_attrs, hchildren, hattrs]
    by_cases hnil : children = []
    · simp [hnil, nestingOfAll]
    · by_cases hdepth : nestingOfAll children ≤ depth
      · simp [hnil, hdepth]
      · simp [hnil, hdepth]

/-- A tree holds no numbers. -/
theorem numberless_toValue (n : Node) : n.toValue.Numberless := by
  induction n using Node.induction with
  | h n ih =>
    obtain ⟨tag, attrs, children⟩ := n
    rw [toValue]
    refine Value.numberless_object ?_
    intro member hmember
    rw [List.mem_cons, List.mem_append] at hmember
    rcases hmember with rfl | hmember | hmember
    · exact Value.numberless_string tag
    · split at hmember
      · cases hmember
      · obtain rfl := List.mem_singleton.mp hmember
        refine Value.numberless_object ?_
        intro pair hpair
        obtain ⟨⟨key, value⟩, -, rfl⟩ := List.mem_map.mp hpair
        exact Value.numberless_string value
    · split at hmember
      · cases hmember
      · obtain rfl := List.mem_singleton.mp hmember
        refine Value.numberless_array ?_
        intro item hitem
        rw [toValues_eq_map] at hitem
        obtain ⟨child, hchild, rfl⟩ := List.mem_map.mp hitem
        exact ih child hchild

/-- The text of a tree is read as the tree, if it does not nest too deep. -/
theorem read_write (n : Node) :
    read n.write = if n.nesting ≤ nestingLimit then .ok n else .error .notATree := by
  have hread : Json.read n.write = .ok (n.toValue.map some) :=
    Json.read_write n.numberless_toValue false
  rw [read, hread]
  simp only [bind, Except.bind, ofValue?_toValue]
  by_cases hnesting : n.nesting ≤ nestingLimit
  · rw [if_pos hnesting, if_pos hnesting]
  · rw [if_neg hnesting, if_neg hnesting]

/-! ## Nesting of what is read -/

/-- The attributes and the children of a node are what was read for some value,
    or there are none. -/
theorem parts_of_ofValueWith? {readers : Readers} {value : Value LiteralText} {n : Node}
    (h : ofValueWith? readers value = some n) :
    (n.attrs = ∅ ∨ ∃ value, readers.attrs value = some n.attrs) ∧
      (n.children = [] ∨ ∃ value, readers.children value = some n.children) := by
  unfold ofValueWith? at h
  split at h
  · exact (ofValueWith?_object_eq_some_iff.mp h).exists_read
  · obtain ⟨tag, -, h⟩ := Option.bind_eq_some_iff.mp h
    cases h
    exact ⟨.inl rfl, .inl rfl⟩
  · obtain ⟨tag, -, h⟩ := Option.bind_eq_some_iff.mp h
    obtain ⟨attrs, hattrs, h⟩ := Option.bind_eq_some_iff.mp h
    cases h
    exact ⟨.inr ⟨_, hattrs⟩, .inl rfl⟩
  · obtain ⟨tag, -, h⟩ := Option.bind_eq_some_iff.mp h
    obtain ⟨attrs, hattrs, h⟩ := Option.bind_eq_some_iff.mp h
    obtain ⟨children, hchildren, h⟩ := Option.bind_eq_some_iff.mp h
    cases h
    exact ⟨.inr ⟨_, hattrs⟩, .inr ⟨_, hchildren⟩⟩
  · cases h

/-- Each tree of an array was read from one of its items. -/
theorem exists_of_mem_mapM {depth : Nat} {items : List (Value LiteralText)} {ns : List Node}
    (h : items.mapM (ofValue? depth) = some ns) {n : Node} (hn : n ∈ ns) :
    ∃ item ∈ items, ofValue? depth item = some n := by
  induction items generalizing ns with
  | nil =>
    cases h
    cases hn
  | cons item items ih =>
    rw [List.mapM_cons] at h
    obtain ⟨first, hfirst, h⟩ := Option.bind_eq_some_iff.mp h
    obtain ⟨rest, hrest, h⟩ := Option.bind_eq_some_iff.mp h
    cases h
    rcases List.mem_cons.mp hn with rfl | hn
    · exact ⟨item, List.mem_cons_self, hfirst⟩
    · obtain ⟨item', hmem, hitem'⟩ := ih hrest hn
      exact ⟨item', List.mem_cons_of_mem _ hmem, hitem'⟩

/-- A tree that is read nests no deeper than was allowed. -/
theorem nesting_le_of_ofValue? : ∀ {depth : Nat} {value : Value LiteralText} {n : Node},
    ofValue? depth value = some n → n.nesting ≤ depth
  | 0, value, n, h => by cases h
  | 1, value, n, h => by
    obtain ⟨hattrs, hchildren⟩ := parts_of_ofValueWith? h
    rw [nesting_le_one_iff]
    constructor
    · rcases hattrs with hattrs | ⟨_, hattrs⟩
      · rw [hattrs]
        rfl
      · cases hattrs
    · rcases hchildren with hchildren | ⟨_, hchildren⟩
      · rw [hchildren]
        rfl
      · cases hchildren
  | depth + 2, value, n, h => by
    obtain ⟨-, hchildren⟩ := parts_of_ofValueWith? h
    rw [nesting_le_add_two_iff, nestingOfAll_le_iff]
    rcases hchildren with hchildren | ⟨value, hchildren⟩
    · rw [hchildren]
      simp
    · intro child hchild
      simp only at hchildren
      split at hchildren
      · obtain ⟨item, -, hitem⟩ := exists_of_mem_mapM hchildren hchild
        exact nesting_le_of_ofValue? hitem
      · cases hchildren

/-- A tree that was read from a text can be written and read again. -/
theorem nesting_le_of_read {text : String} {n : Node} (h : read text = .ok n) :
    n.nesting ≤ nestingLimit := by
  obtain ⟨value, -, h⟩ := bind_eq_ok.mp h
  split at h
  · rename_i hvalue
    cases h
    exact nesting_le_of_ofValue? hvalue
  · cases h

/-- What is written for a tree is read as exactly that tree when it nests at
    most 127 deep, and as no tree at all when it nests deeper.  A tree that was
    read from any text nests at most 127 deep, so it is read again from what is
    written for it, and that text has the same catalog or the same fault as the
    first one. -/
theorem read_write_iff_nesting (n : Node) :
    (n.nesting ≤ 127 → read n.write = .ok n) ∧
    (128 ≤ n.nesting → read n.write = .error .notATree) ∧
    ∀ text, read text = .ok n →
      n.nesting ≤ 127 ∧ read n.write = .ok n ∧
        ∀ projectRoot, Catalog.ofText .json n.write projectRoot =
          Catalog.ofText .json text projectRoot := by
  have hwrite := n.read_write
  have hshallow : n.nesting ≤ 127 → read n.write = .ok n := by
    intro hnesting
    rw [hwrite]
    exact if_pos hnesting
  refine ⟨hshallow, ?_, ?_⟩
  · intro hnesting
    have hdeep : ¬ n.nesting ≤ nestingLimit := by
      show ¬ n.nesting ≤ 127
      omega
    rw [hwrite, if_neg hdeep]
  · intro text hread
    have hnesting : n.nesting ≤ 127 := nesting_le_of_read hread
    refine ⟨hnesting, hshallow hnesting, ?_⟩
    intro projectRoot
    rw [Catalog.ofText, Catalog.ofText, Encoding.readTree, Encoding.readTree]
    simp only [hread, hshallow hnesting]

/-- A tree in the form of arrays, with a repeated attribute, a surrogate pair and
    a member that is skipped. -/
def sampleText : String :=
  "[\"modu\\u006ce\", \x7b\"name\": \"x\", \"name\": \"\\ud83d\\ude00\\n\"\x7d," ++
    " [ \x7b\"skipped\": [[-1e5]], \"tag\": \"name\"\x7d ] ]"

/-- A tree in as many wrappers as `depth` says. -/
def sampleNest (leaf : Node) (depth : Nat) : Node :=
  depth.repeat (fun n => ⟨"wrapper", ∅, [n]⟩) leaf

/-- A tree that nests 127 deep is read again, and with one attribute more in its
    innermost node it is not. -/
theorem read_write_iff_nesting_sampleNest :
    (∃ n, read sampleText = .ok n ∧ n.nesting ≤ 127 ∧ read n.write = .ok n) ∧
      read (sampleNest ⟨"leaf", ∅, []⟩ 63).write = .ok (sampleNest ⟨"leaf", ∅, []⟩ 63) ∧
      read (sampleNest ⟨"leaf", .ofList [("key", "value")], []⟩ 63).write =
        .error .notATree := by
  refine ⟨?_, ?_, ?_⟩
  · obtain ⟨n, hn⟩ := exists_eq_ok_of_isOk (x := read sampleText) (by decide +kernel)
    obtain ⟨-, -, hread⟩ := read_write_iff_nesting n
    obtain ⟨hnesting, hwrite, -⟩ := hread sampleText hn
    exact ⟨n, hn, hnesting, hwrite⟩
  · exact (read_write_iff_nesting _).1 (by decide +kernel)
  · exact (read_write_iff_nesting _).2.1 (by decide +kernel)

end Node

end ModuleCatalog
