import ModuleCatalog.Proofs.Markup
import ModuleCatalog.Proofs.TreeText
import ModuleCatalog.Xml.Document

/-! # Elements that write a tree

    A text writes a node as an element: the attributes of the node in any
    order, its children in theirs, with character data and remarks wherever they
    may stand.  Content that is read over such a text gains exactly the node
    (`Xml.content_of_writesNode`). -/

namespace ModuleCatalog

/-- A node that tags can be written for: its tag and the keys of its attributes
    are names without a colon, no key is `xmlns`, and the attributes hold only
    characters of XML. -/
structure Node.Encodable (n : Node) : Prop where
  tag : Xml.IsPlainName n.tag.toList
  attrs : ∀ key value, n.attr? key = some value →
    Xml.IsPlainName key.toList ∧ key ≠ "xmlns" ∧ ∀ c ∈ value.toList, Xml.isXmlChar c = true

namespace Xml

/-! ## Attributes -/

/-- The attributes of a tag, each behind some blanks. -/
inductive WritesAttributes : List (String × String) → Input → Prop where
  | nil : WritesAttributes [] []
  | cons {key value : String} {pairs : List (String × String)} {blanks literal text : Input}
      (hsome : blanks ≠ []) (hblanks : IsBlanks blanks)
      (hvalue : Written valueEscapes value.toList literal) (h : WritesAttributes pairs text) :
      WritesAttributes ((key, value) :: pairs)
        (blanks ++ (key.toList ++ '=' :: '"' :: (literal ++ '"' :: text)))

/-- A pair that can be written as an attribute. -/
def IsWritable (pair : String × String) : Prop :=
  IsPlainName pair.1.toList ∧ pair.1 ≠ "xmlns" ∧ ∀ c ∈ pair.2.toList, isXmlChar c = true

/-- A pair as it is read from a tag. -/
def ReadFrom (a : WrittenAttribute) (pair : String × String) : Prop :=
  a.1 = ⟨"", pair.1⟩ ∧ Written valueEscapes pair.2.toList a.2

variable {pairs : List (String × String)} {text rest : Input}

theorem stops_of_beginsName {p : Char → Bool} (hp : ∀ c, isNameStart c = true → p c = false)
    (h : beginsName text = true) : Stops p (text ++ rest) := by
  cases text with
  | nil => cases h
  | cons c text => exact stops_cons (hp c h) _

theorem beginsName_append (h : beginsName text = true) (rest : Input) :
    beginsName (text ++ rest) = true := by
  cases text with
  | nil => cases h
  | cons c text => exact h

theorem isSpace_eq_false_of_isNameStart (c : Char) (h : isNameStart c = true) :
    isSpace c = false := by
  rw [← Bool.not_eq_true]
  intro hspace
  have hname := isNameChar_eq_false_of_isSpace hspace
  rw [isNameChar, h] at hname
  cases hname

theorem writtenAttribute_append {key value : String} {literal : Input}
    (hkey : IsPlainName key.toList) (hchars : ∀ c ∈ value.toList, isXmlChar c = true)
    (hvalue : Written valueEscapes value.toList literal) (rest : Input) :
    writtenAttribute (key.toList ++ '=' :: '"' :: (literal ++ '"' :: rest)) =
      .ok ((⟨"", key⟩, literal), rest) := by
  have hname := qualifiedName_append hkey
    (stops_cons (p := isNameChar) (c := '=') (by decide) ('"' :: (literal ++ '"' :: rest)))
  have hliteral := attributeLiteral_append hvalue hchars rest
  rw [String.ofList_toList] at hname
  rw [writtenAttribute, hname]
  simp only [bind, Except.bind]
  rw [spaces_of_stops (stops_cons (by decide) _)]
  simp only [expect, List.isPrefixOf, beq_self_eq_true, Bool.and_self, if_true, List.length_cons,
    List.length_nil, List.drop_succ_cons, List.drop_zero]
  rw [spaces_of_stops (stops_cons (by decide) _), hliteral]
  rfl

/-! ### The end of a tag -/

theorem attributesFrom_of_closing? (before : List WrittenAttribute) {closed : Input}
    {ending : TagEnd} (h : closing? closed = some (ending, rest)) :
    attributesFrom before closed = .ok ((before.reverse, ending), rest) := by
  cases closed with
  | nil => cases h
  | cons c closed => rw [attributesFrom, h]

theorem stops_of_closing? {p : Char → Bool} (hopened : p '>' = false) (hemptied : p '/' = false)
    {closed : Input} {ending : TagEnd} (h : closing? closed = some (ending, rest)) :
    Stops p closed := by
  unfold closing? at h
  split at h
  · exact stops_cons hopened _
  · exact stops_cons hemptied _
  · cases h

theorem closing?_eq_none {c : Char} (h : c ≠ '>' ∧ c ≠ '/') (rest : Input) :
    closing? (c :: rest) = none := by
  simp [closing?, h.1, h.2]

theorem closing?_of_isSpace {c : Char} (h : isSpace c = true) (rest : Input) :
    closing? (c :: rest) = none := by
  refine closing?_eq_none ⟨?_, ?_⟩ rest
  · rintro rfl
    exact absurd h (by decide)
  · rintro rfl
    exact absurd h (by decide)

theorem attributesFrom_blanks (before : List WrittenAttribute) {blanks closed : Input}
    (hblanks : IsBlanks blanks) {ending : TagEnd} (h : closing? closed = some (ending, rest)) :
    attributesFrom before (blanks ++ closed) = .ok ((before.reverse, ending), rest) := by
  cases blanks with
  | nil => exact attributesFrom_of_closing? before h
  | cons c blanks =>
    obtain ⟨hc, hinner⟩ := isBlanks_cons.mp hblanks
    have hspaces : spaces (blanks ++ closed) = closed := by
      rw [spaces_append hinner, spaces_of_stops (stops_of_closing? (by decide) (by decide) h)]
    rw [List.cons_append, attributesFrom, closing?_of_isSpace hc]
    simp only [hc, if_true, hspaces, h]

/-- One attribute behind some blanks. -/
theorem attributesFrom_cons (before : List WrittenAttribute) {blanks input behind : Input}
    (hsome : blanks ≠ []) (hblanks : IsBlanks blanks) (hbegins : beginsName input = true)
    {a : WrittenAttribute} (ha : writtenAttribute input = .ok (a, behind)) :
    attributesFrom before (blanks ++ input) = attributesFrom (a :: before) behind := by
  obtain ⟨c, blanks, rfl⟩ := List.exists_cons_of_ne_nil hsome
  obtain ⟨d, input, rfl⟩ : ∃ d rest, input = d :: rest := by
    cases input with
    | nil => cases hbegins
    | cons d rest => exact ⟨d, rest, rfl⟩
  obtain ⟨hc, hinner⟩ := isBlanks_cons.mp hblanks
  have hspaces : spaces (blanks ++ d :: input) = d :: input := by
    have hd := isSpace_eq_false_of_isNameStart d hbegins
    rw [spaces_append hinner, spaces_of_stops (stops_cons hd _)]
  have hclosing : closing? (d :: input) = none := by
    refine closing?_eq_none ⟨?_, ?_⟩ input
    · rintro rfl
      cases hbegins
    · rintro rfl
      cases hbegins
  rw [List.cons_append, attributesFrom, closing?_of_isSpace hc]
  simp only [hc, if_true, hspaces, hclosing]
  split
  · rename_i fault hfault
    rw [hspaces, ha] at hfault
    cases hfault
  · rename_i a' behind' hread
    rw [hspaces, ha] at hread
    cases hread
    rfl

theorem WritesAttributes.exists_read (h : WritesAttributes pairs text)
    (hpairs : ∀ pair ∈ pairs, IsWritable pair) :
    ∃ read, List.Forall₂ ReadFrom read pairs ∧ ∀ before {blanks closed rest ending},
      IsBlanks blanks → closing? closed = some (ending, rest) →
      attributesFrom before (text ++ (blanks ++ closed)) =
        .ok ((before.reverse ++ read, ending), rest) := by
  induction h with
  | nil =>
    refine ⟨[], .nil, fun before blanks closed rest ending hblanks hclosed => ?_⟩
    rw [List.append_nil]
    exact attributesFrom_blanks before hblanks hclosed
  | @cons key value pairs blanks literal text hsome hblanks hvalue h ih =>
    obtain ⟨hkey, -, hchars⟩ := hpairs _ (List.mem_cons_self ..)
    obtain ⟨read, hread, hrest⟩ := ih fun pair hpair => hpairs pair (List.mem_cons_of_mem _ hpair)
    refine ⟨(⟨"", key⟩, literal) :: read, .cons ⟨rfl, hvalue⟩ hread,
      fun before end_ closed rest ending hend hclosed => ?_⟩
    have ha := writtenAttribute_append hkey hchars hvalue (text ++ (end_ ++ closed))
    have hsplit := attributesFrom_cons before hsome hblanks (beginsName_append hkey.1 _) ha
    simp only [List.append_assoc, List.cons_append] at hsplit ⊢
    rw [hsplit, hrest _ hend hclosed]
    simp

/-! ### Start tags -/

/-- A start tag behind its `<` and up to its end mark. -/
inductive WritesTag (n : Node) : Input → Prop where
  | intro {pairs : List (String × String)} {attributes blanks : Input}
      (hpairs : pairs.Perm n.attrs.toList) (hattributes : WritesAttributes pairs attributes)
      (hblanks : IsBlanks blanks) : WritesTag n (n.tag.toList ++ (attributes ++ blanks))

theorem isWritable_of_perm {n : Node} (hn : n.Encodable) (hpairs : pairs.Perm n.attrs.toList) :
    ∀ pair ∈ pairs, IsWritable pair := by
  rintro ⟨key, value⟩ hpair
  have hattr := Std.ExtTreeMap.mem_toList_iff_getElem?_eq_some.mp (hpairs.mem_iff.mp hpair)
  exact hn.attrs key value hattr

theorem WritesAttributes.stops (h : WritesAttributes pairs text) {closed : Input}
    (hclosed : Stops isNameChar closed) : Stops isNameChar (text ++ closed) := by
  cases h with
  | nil => exact hclosed
  | cons hsome hblanks hvalue h =>
    obtain ⟨c, blanks, rfl⟩ := List.exists_cons_of_ne_nil hsome
    exact stops_cons (isNameChar_eq_false_of_isSpace (isBlanks_cons.mp hblanks).1) _

theorem stops_of_isBlanks {blanks closed : Input} (hblanks : IsBlanks blanks)
    (hclosed : Stops isNameChar closed) : Stops isNameChar (blanks ++ closed) := by
  cases blanks with
  | nil => exact hclosed
  | cons c blanks =>
    exact stops_cons (isNameChar_eq_false_of_isSpace (isBlanks_cons.mp hblanks).1) _

/-- A start tag is read as the name and the attributes of its node. -/
theorem WritesTag.exists_read {n : Node} (h : WritesTag n text) (hn : n.Encodable) :
    ∃ read pairs, pairs.Perm n.attrs.toList ∧ List.Forall₂ ReadFrom read pairs ∧
      ∀ {closed rest ending}, closing? closed = some (ending, rest) →
        startTag (text ++ closed) = .ok (⟨⟨"", n.tag⟩, read, ending⟩, rest) := by
  obtain ⟨hpairs, hattributes, hblanks⟩ := h
  obtain ⟨read, hread, hattributesFrom⟩ :=
    hattributes.exists_read (isWritable_of_perm hn hpairs)
  refine ⟨read, _, hpairs, hread, fun {closed rest ending} hclosed => ?_⟩
  have hstops := hattributes.stops (stops_of_isBlanks hblanks
    (stops_of_closing? (by decide) (by decide) hclosed))
  rw [startTag, List.append_assoc, List.append_assoc, qualifiedName_append hn.tag hstops,
    String.ofList_toList]
  show (attributesFrom [] _ >>= _) = _
  rw [hattributesFrom [] hblanks hclosed]
  rfl

theorem WritesTag.beginsName_append {n : Node} (h : WritesTag n text) (hn : n.Encodable)
    (rest : Input) : beginsName (text ++ rest) = true := by
  obtain ⟨-, -, -⟩ := h
  rw [List.append_assoc]
  exact Xml.beginsName_append hn.tag.1 _

/-! ## Elements under construction -/

/-- The pairs as the plain attributes of a tag, last one first. -/
def plainAttributes (pairs : List (String × String)) : List (QName × String) :=
  (pairs.map fun pair => (⟨"", pair.1⟩, pair.2)).reverse

theorem expandedAttributes_plainAttributes (bindings : Bindings)
    (pairs : List (String × String)) :
    expandedAttributes bindings ⟨[], plainAttributes pairs⟩ =
      .ok (pairs.map fun pair => ((none, pair.1), pair.2)) := by
  rw [expandedAttributes]
  simp only [plainAttributes, List.reverse_reverse]
  induction pairs with
  | nil => rfl
  | cons pair pairs ih =>
    rw [List.map_cons, List.mapM_cons, ih]
    rfl

/-- Keys that are distinct are no duplicates. -/
theorem duplicateName?_eq_none (h : pairs.Pairwise fun a b => a.1 ≠ b.1) :
    duplicateName? (pairs.map fun pair => ((none, pair.1), pair.2)) = none := by
  induction h with
  | nil => rfl
  | @cons pair pairs hne h ih =>
    have hlookup : (pairs.map fun pair => (((none : Option String), pair.1), pair.2)).lookup
        (none, pair.1) = none := by
      rw [List.lookup_eq_none_iff]
      intro other hother
      obtain ⟨other, hmem, rfl⟩ := List.mem_map.mp hother
      simpa using hne other hmem
    rw [List.map_cons, duplicateName?, hlookup]
    exact ih

/-- Attributes without a prefix are the attributes of the node. -/
theorem nodeAttributes_plainAttributes {attrs : Attributes} (h : pairs.Perm attrs.toList)
    (bindings : Bindings) : nodeAttributes bindings ⟨[], plainAttributes pairs⟩ = .ok attrs := by
  have hdistinct : pairs.Pairwise fun a b => a.1 ≠ b.1 := by
    refine h.symm.pairwise (Std.ExtTreeMap.distinct_keys_toList.imp ?_) fun hne => hne.symm
    intro a b hne e
    exact hne (e ▸ Std.ReflOrd.compare_self)
  -- none of the names has a namespace, so every attribute is kept
  have hkeep : ∀ keep? : (Option String × String) × String → Option (String × String),
      (∀ pair : String × String, keep? ((none, pair.1), pair.2) = some pair) →
      (pairs.map fun pair => ((none, pair.1), pair.2)).filterMap keep? = pairs := by
    intro keep? hkept
    rw [List.filterMap_map]
    exact (List.filterMap_congr fun pair _ => hkept pair).trans List.filterMap_some
  rw [nodeAttributes, expandedAttributes_plainAttributes]
  simp only [bind, Except.bind, duplicateName?_eq_none hdistinct]
  rw [hkeep _ fun _ => rfl, ofList_eq_of_perm h]
  rfl

theorem addAttribute_of_readFrom {pair : String × String} {a : WrittenAttribute}
    (h : ReadFrom a pair) (hpair : IsWritable pair) (entities : Entities) (b : Builder) :
    Builder.addAttribute entities entityDepth b a =
      .ok { b with
        pending := { b.pending with plain := (⟨"", pair.1⟩, pair.2) :: b.pending.plain } } := by
  obtain ⟨name, literal⟩ := a
  obtain ⟨rfl, hliteral⟩ := h
  obtain ⟨-, hkey, hchars⟩ := hpair
  have hvalue := attributeValue_of_written hliteral hchars entities b.references
  rw [String.ofList_toList] at hvalue
  have hadd : b.pending.add ⟨"", pair.1⟩ pair.2 =
      .ok { b.pending with plain := (⟨"", pair.1⟩, pair.2) :: b.pending.plain } := by
    have hplain : ¬ "" = "xmlns" := by decide
    rw [TagAttributes.add, if_neg hplain, if_neg hkey]
  rw [Builder.addAttribute, hvalue]
  show (b.pending.add _ _ >>= _) = _
  rw [hadd]
  rfl

/-- The attributes of a tag are added one by one. -/
theorem foldlM_addAttribute {read : List WrittenAttribute}
    (h : List.Forall₂ ReadFrom read pairs) (hpairs : ∀ pair ∈ pairs, IsWritable pair)
    (entities : Entities) (b : Builder) :
    read.foldlM (Builder.addAttribute entities entityDepth) b = .ok { b with
      pending := { b.pending with plain := plainAttributes pairs ++ b.pending.plain } } := by
  induction h generalizing b with
  | nil => rfl
  | @cons a pair read pairs ha h ih =>
    have hread := addAttribute_of_readFrom ha (hpairs pair (List.mem_cons_self ..)) entities b
    rw [List.foldlM_cons, hread]
    show read.foldlM _ _ = _
    rw [ih fun other hother => hpairs other (List.mem_cons_of_mem _ hother)]
    simp [plainAttributes]

/-- The element of a node is open, and nothing has been read of what stands
    in it. -/
def Builder.open (b : Builder) (n : Node) : Builder :=
  { b with elements := ⟨⟨"", n.tag⟩, n.attrs, [], b.bindings⟩ :: b.elements }

/-- A start tag opens the element of its node, or adds the node if it has no
    content. -/
theorem WritesTag.exists_startTag {n : Node} (h : WritesTag n text) (hn : n.Encodable)
    (entities : Entities) {b : Builder} (hb : b.pending = {}) {closed : Input} {ending : TagEnd}
    (hclosed : closing? closed = some (ending, rest)) :
    ∃ tag, startTag (text ++ closed) = .ok (tag, rest) ∧ tag.ending = ending ∧
      b.startTag entities entityDepth tag =
        .ok (if ending = .opened then b.open n else b.addNode ⟨n.tag, n.attrs, []⟩) := by
  obtain ⟨read, pairs, hpairs, hread, hstart⟩ := h.exists_read hn
  refine ⟨_, hstart hclosed, rfl, ?_⟩
  have hplain : ¬ "" = "xmlns" := by decide
  have hcut : ¬ ending = .cut := by
    rintro rfl
    unfold closing? at hclosed
    split at hclosed
    all_goals cases hclosed
  have hname : ∀ bindings, checkElementName bindings ⟨"", n.tag⟩ = .ok () :=
    fun bindings => if_pos (.inl rfl)
  rw [Builder.startTag, if_neg hplain, foldlM_addAttribute hread (isWritable_of_perm hn hpairs)]
  obtain ⟨elements, roots, pending, references⟩ := b
  cases hb
  simp only [bind, Except.bind, List.append_nil, if_neg hcut,
    nodeAttributes_plainAttributes hpairs, hname]
  rfl

@[simp] theorem addNode_pending (b : Builder) (n : Node) : (b.addNode n).pending = b.pending := by
  unfold Builder.addNode
  split <;> rfl

/-- Nodes that are added within an element are its children. -/
theorem foldl_addNode_of_cons (b : Builder) (e : OpenElement) (es : List OpenElement)
    (hb : b.elements = e :: es) (ns : List Node) :
    ns.foldl Builder.addNode b =
      { b with elements := { e with children := ns.reverse ++ e.children } :: es } := by
  induction ns generalizing b e with
  | nil =>
    obtain ⟨elements, roots, pending, references⟩ := b
    cases hb
    rfl
  | cons n ns ih =>
    have hadded : b.addNode n =
        { b with elements := { e with children := n :: e.children } :: es } := by
      rw [Builder.addNode, hb]
    rw [List.foldl_cons, hadded, ih _ { e with children := n :: e.children } rfl]
    simp

/-- The end tag of an element adds its node with the children that were read. -/
theorem builder_endTag (n : Node) {b : Builder} (hb : b.pending = {}) :
    (n.children.foldl Builder.addNode (b.open n)).endTag ⟨"", n.tag⟩ = .ok (b.addNode n) := by
  -- An end tag checks attributes too, those that a tag before it left behind: none here.
  have hnone : List.Perm [] (Std.ExtTreeMap.toList (∅ : Attributes)) := by simp
  have hattrs : ∀ bindings, nodeAttributes bindings {} = .ok ∅ :=
    nodeAttributes_plainAttributes hnone
  obtain ⟨tag, attrs, children⟩ := n
  obtain ⟨elements, roots, pending, references⟩ := b
  cases hb
  rw [foldl_addNode_of_cons _ _ _ rfl, Builder.endTag]
  simp only [Builder.open, hattrs, bind, Except.bind, if_true, OpenElement.node,
    List.append_nil, List.reverse_reverse]
  rfl

/-! ## Content -/

variable {entities : Entities} {levels : Nat} {expand : String → Builder → Except Fault Builder}
  {level : Level} {b b' : Builder} {input behind : Input}

theorem content_ignored (h : item input = .ok (.ignored, behind)) :
    content entities levels expand level b input =
      content entities levels expand level b behind := by
  cases input with
  | nil => cases h
  | cons c input =>
    rw [content]
    split <;> simp_all

theorem content_text (h : item input = .ok (.text [], behind)) :
    content entities levels expand level b input =
      content entities levels expand level b behind := by
  cases input with
  | nil => cases h
  | cons c input =>
    rw [content]
    split <;> simp_all [pure, Except.pure]

theorem content_startTag {tag : StartTag} (h : item input = .ok (.startTag tag, behind))
    (hb : b.startTag entities levels tag = .ok b') :
    content entities levels expand level b input =
      content entities levels expand
        ⟨if tag.ending = .opened then level.depth + 1 else level.depth, true⟩ b' behind := by
  cases input with
  | nil => cases h
  | cons c input =>
    rw [content]
    split <;> simp_all

theorem content_endTag {name : QName} (h : item input = .ok (.endTag name, behind))
    (hlevel : level.begun = true) (hb : b.endTag name = .ok b') :
    content entities levels expand level b input =
      if level.depth ≤ 1 then .ok (b', behind)
      else content entities levels expand { level with depth := level.depth - 1 } b' behind := by
  cases input with
  | nil => cases h
  | cons c input =>
    rw [content]
    split <;> simp_all

/-! ### Items -/

theorem item_startTag (h : beginsName input = true) {tag : StartTag}
    (htag : startTag input = .ok (tag, behind)) :
    item ('<' :: input) = .ok (.startTag tag, behind) := by
  cases input with
  | nil => cases h
  | cons c input =>
    have hc : c ≠ '!' ∧ c ≠ '?' ∧ c ≠ '/' := by
      refine ⟨?_, ?_, ?_⟩
      all_goals
        rintro rfl
        cases h
    simp [item, hc, htag, bind, Except.bind, pure, Except.pure]

theorem item_endTag {n : Node} (hn : n.Encodable) {blanks : Input} (hblanks : IsBlanks blanks)
    (rest : Input) :
    item ('<' :: '/' :: (n.tag.toList ++ (blanks ++ '>' :: rest))) =
      .ok (.endTag ⟨"", n.tag⟩, rest) := by
  have hname := qualifiedName_append hn.tag
    (stops_of_isBlanks hblanks (stops_cons (p := isNameChar) (c := '>') (by decide) rest))
  have hspaces : spaces (blanks ++ '>' :: rest) = '>' :: rest := by
    rw [spaces_append hblanks, spaces_of_stops (stops_cons (by decide) rest)]
  rw [String.ofList_toList] at hname
  rw [item, endTag, hname]
  simp only [bind, Except.bind, hspaces]
  rfl

/-- Character data leaves no trace where markup follows. -/
theorem content_characterData (htext : IsCharacterData text)
    (hrest : ∃ behind, rest = '<' :: behind) :
    content entities levels expand level b (text ++ rest) =
      content entities levels expand level b rest := by
  cases text with
  | nil => rfl
  | cons c text =>
    obtain ⟨behind, rfl⟩ := hrest
    have hmark : ∀ d ∈ c :: text, decide (d ≠ '<') = true := by
      obtain ⟨chars, -, hwritten, -⟩ := htext
      have hnot := hwritten.not_mem (d := '<') (by decide) (by decide) (by decide)
      intro d hd
      simpa using fun e : d = '<' => hnot (e ▸ hd)
    have hinner : ∀ d ∈ text, decide (d ≠ '<') = true := fun d hd =>
      hmark d (List.mem_cons_of_mem _ hd)
    have hstops : Stops (fun d => decide (d ≠ '<')) ('<' :: behind) :=
      stops_cons (by decide) behind
    have hc : c ≠ '<' := by simpa using hmark c (List.mem_cons_self ..)
    refine content_text ?_
    rw [List.cons_append, item]
    · rw [takeWhile_append_of_stops hinner hstops, dropWhile_append_of_stops hinner hstops,
        entitiesOfText_of_isCharacterData htext]
      rfl
    all_goals simp [hc]

/-! ## Elements -/

mutual

/-- A text that writes a node as an element. -/
inductive WritesNode : Node → Input → Prop where
  /-- An element without content. -/
  | emptied {n : Node} {tag : Input} (htag : WritesTag n tag) (hchildren : n.children = []) :
      WritesNode n ('<' :: (tag ++ ['/', '>']))
  /-- An element with content and an end tag. -/
  | opened {n : Node} {tag inner blanks : Input} (htag : WritesTag n tag)
      (hinner : WritesContent n.children inner) (hblanks : IsBlanks blanks) :
      WritesNode n ('<' :: (tag ++ '>' :: (inner ++ '<' :: '/' ::
        (n.tag.toList ++ (blanks ++ ['>'])))))

/-- A text that writes nodes in their order as the content of an element. -/
inductive WritesContent : List Node → Input → Prop where
  | data {text : Input} (htext : IsCharacterData text) : WritesContent [] text
  | remark {ns : List Node} {text remark inner : Input} (htext : IsCharacterData text)
      (hremark : IsRemark remark) (hinner : WritesContent ns inner) :
      WritesContent ns (text ++ (remark ++ inner))
  | child {n : Node} {ns : List Node} {text element inner : Input}
      (htext : IsCharacterData text) (helement : WritesNode n element)
      (hinner : WritesContent ns inner) :
      WritesContent (n :: ns) (text ++ (element ++ inner))

end

theorem exists_cons_of_isRemark (h : IsRemark text) (rest : Input) :
    ∃ behind, text ++ rest = '<' :: behind := by
  rcases h with h | h | h
  all_goals
    cases h
    exact ⟨_, rfl⟩

theorem exists_cons_of_writesNode {n : Node} (h : WritesNode n text) (rest : Input) :
    ∃ behind, text ++ rest = '<' :: behind := by
  cases h
  all_goals exact ⟨_, rfl⟩

theorem encodable_children {n : Node} (hn : ∀ m ∈ descendants n, m.Encodable) :
    n.Encodable ∧ ∀ c ∈ n.children, ∀ m ∈ descendants c, m.Encodable := by
  rw [Node.descendants_eq] at hn
  refine ⟨hn n (List.mem_cons_self ..), fun c hc m hm => hn m ?_⟩
  exact List.mem_cons_of_mem _ (List.mem_flatMap_of_mem hc hm)

theorem node_eq_of_children_eq_nil {n : Node} (h : n.children = []) :
    (⟨n.tag, n.attrs, []⟩ : Node) = n := by
  obtain ⟨tag, attrs, children⟩ := n
  cases h
  rfl

variable (entities) (expand)

mutual

/-- An element is read as its node, which joins the element around it. -/
theorem content_of_writesNode {n : Node} {text : Input} {b : Builder} (h : WritesNode n text)
    (hn : ∀ m ∈ descendants n, m.Encodable) (hb : b.pending = {}) (depth : Nat) (rest : Input) :
    content entities entityDepth expand ⟨depth + 1, true⟩ b (text ++ rest) =
      content entities entityDepth expand ⟨depth + 1, true⟩ (b.addNode n) rest := by
  obtain ⟨hnode, hchildren⟩ := encodable_children hn
  -- The proof follows the derivation.  The content of an open element is read one level
  -- deeper, and its end tag leads back to the level of the element.
  match h with
  | @WritesNode.emptied _ tag htag hempty =>
    have hclosing : closing? ('/' :: '>' :: rest) = some (.emptied, rest) := rfl
    obtain ⟨read, hstart, hending, hb'⟩ := htag.exists_startTag hnode entities hb hclosing
    have hitem := item_startTag (htag.beginsName_append hnode _) hstart
    have hopened : ¬ TagEnd.emptied = .opened := by decide
    rw [if_neg hopened, node_eq_of_children_eq_nil hempty] at hb'
    simp only [List.cons_append, List.append_assoc, List.nil_append]
    rw [content_startTag hitem hb', hending, if_neg hopened]
  | @WritesNode.opened _ tag inner blanks htag hinner hblanks =>
    have hclosing : closing? ('>' :: (inner ++ '<' :: '/' ::
        (n.tag.toList ++ (blanks ++ '>' :: rest)))) = some (.opened, _) := rfl
    obtain ⟨read, hstart, hending, hb'⟩ := htag.exists_startTag hnode entities hb hclosing
    have hitem := item_startTag (htag.beginsName_append hnode _) hstart
    have hcontent := content_of_writesContent hinner hchildren (b := b.open n) hb (depth + 1)
      ('/' :: (n.tag.toList ++ (blanks ++ '>' :: rest)))
    have hend := item_endTag hnode hblanks rest
    have hdepth : ¬ depth + 1 + 1 ≤ 1 := by omega
    simp only [List.cons_append, List.append_assoc, List.nil_append]
    rw [content_startTag hitem hb', hending, if_pos rfl, if_pos rfl, hcontent,
      content_endTag hend rfl (builder_endTag n hb), if_neg hdepth]
    rfl

/-- Content is read as the nodes that it writes. -/
theorem content_of_writesContent {ns : List Node} {text : Input} {b : Builder}
    (h : WritesContent ns text)
    (hns : ∀ n ∈ ns, ∀ m ∈ descendants n, m.Encodable) (hb : b.pending = {}) (depth : Nat)
    (rest : Input) :
    content entities entityDepth expand ⟨depth + 1, true⟩ b (text ++ '<' :: rest) =
      content entities entityDepth expand ⟨depth + 1, true⟩ (ns.foldl Builder.addNode b)
        ('<' :: rest) := by
  match h with
  | .data htext => exact content_characterData htext ⟨rest, rfl⟩
  | @WritesContent.remark _ text remark inner htext hremark hinner =>
    have hitem := item_append_of_isRemark hremark (inner ++ '<' :: rest)
    rw [List.append_assoc, List.append_assoc,
      content_characterData htext (exists_cons_of_isRemark hremark _), content_ignored hitem]
    exact content_of_writesContent hinner hns hb depth rest
  | @WritesContent.child n ns text element inner htext helement hinner =>
    have hn := hns n (List.mem_cons_self ..)
    have hrest : ∀ m ∈ ns, ∀ k ∈ descendants m, k.Encodable := fun m hm =>
      hns m (List.mem_cons_of_mem _ hm)
    have hadded : (b.addNode n).pending = {} := by rw [addNode_pending, hb]
    rw [List.append_assoc, List.append_assoc,
      content_characterData htext (exists_cons_of_writesNode helement _),
      content_of_writesNode helement hn hb depth (inner ++ '<' :: rest),
      content_of_writesContent hinner hrest hadded depth rest]
    rfl

end

/-- The root element is read behind its first character, up to its end. -/
theorem rootElement_of_writesNode {root : Node} (h : WritesNode root ('<' :: text))
    (hroot : ∀ n ∈ descendants root, n.Encodable) (rest : Input) :
    rootElement entities (text ++ rest) = .ok (({} : Builder).addNode root, rest) := by
  obtain ⟨hnode, hchildren⟩ := encodable_children hroot
  cases h with
  | @emptied _ tag htag hempty =>
    have hclosing : closing? ('/' :: '>' :: rest) = some (.emptied, rest) := rfl
    obtain ⟨read, hstart, hending, hb⟩ :=
      htag.exists_startTag hnode entities (b := {}) rfl hclosing
    have hopened : ¬ TagEnd.emptied = .opened := by decide
    rw [if_neg hopened, node_eq_of_children_eq_nil hempty] at hb
    simp only [List.cons_append, List.append_assoc, List.nil_append]
    rw [rootElement, hstart]
    simp only [bind, Except.bind, hb, hending, if_neg hopened]
    rfl
  | @opened _ tag inner blanks htag hinner hblanks =>
    have hclosing : closing? ('>' :: (inner ++ '<' :: '/' ::
        (root.tag.toList ++ (blanks ++ '>' :: rest)))) = some (.opened, _) := rfl
    obtain ⟨read, hstart, hending, hb⟩ :=
      htag.exists_startTag hnode entities (b := {}) rfl hclosing
    rw [if_pos rfl] at hb
    have hcontent := content_of_writesContent entities (expandInContent entities entityDepth)
      hinner hchildren (b := Builder.open {} root) rfl 0
      ('/' :: (root.tag.toList ++ (blanks ++ '>' :: rest)))
    have hend := item_endTag hnode hblanks rest
    simp only [List.cons_append, List.append_assoc, List.nil_append]
    rw [rootElement, hstart]
    simp only [bind, Except.bind, hb, hending, if_true]
    rw [hcontent, content_endTag hend rfl (builder_endTag root rfl)]
    rfl

end Xml

end ModuleCatalog
