import Mathlib.Data.List.DropRight
import ModuleCatalog.Proofs.ElementText

/-! # Documents that write a tree

    Around its root element a document may have a byte order mark, an XML
    declaration, a document type, comments and instructions.  Every document
    that writes a tree is read as that tree (`Xml.read_of_writes`), so its
    catalog is the one of the tree itself, and the one of the tree's text in
    JSON.  Every tree that tags can be written for has a document. -/

namespace ModuleCatalog

namespace Xml

variable {pairs : List (String × String)} {text rest input behind : Input}

/-! ## Around the root element -/

/-- What may stand around the root element: comments, instructions and
    blanks. -/
inductive IsMiscellany : Input → Prop where
  | blanks {text : Input} (hblanks : IsBlanks text) : IsMiscellany text
  | comment {blanks comment text : Input} (hblanks : IsBlanks blanks)
      (hcomment : IsComment comment) (h : IsMiscellany text) :
      IsMiscellany (blanks ++ (comment ++ text))
  | instruction {blanks instruction text : Input} (hblanks : IsBlanks blanks)
      (hinstruction : IsInstruction instruction) (h : IsMiscellany text) :
      IsMiscellany (blanks ++ (instruction ++ text))

/-- Nothing begins here that may stand around the root element. -/
structure EndsMiscellany (rest : Input) : Prop where
  blank : spaces rest = rest
  comment : ∀ behind, rest ≠ '<' :: '!' :: '-' :: '-' :: behind
  instruction : ∀ behind, rest ≠ '<' :: '?' :: behind

theorem miscellany_comment (h : spaces input = '<' :: '!' :: '-' :: '-' :: rest)
    (hread : comment rest = .ok behind) : miscellany input = miscellany behind := by
  rw [miscellany]
  split
  · rename_i rest' hs
    obtain rfl : rest = rest' := by simpa using h.symm.trans hs
    split
    · simp_all
    · simp_all
  · rename_i hs
    cases h.symm.trans hs
  · rename_i hcomment hinstruction
    exact absurd h (hcomment rest)

theorem miscellany_instruction (h : spaces input = '<' :: '?' :: rest)
    (hread : instruction rest = .ok behind) : miscellany input = miscellany behind := by
  rw [miscellany]
  split
  · rename_i hs
    cases h.symm.trans hs
  · rename_i rest' hs
    obtain rfl : rest = rest' := by simpa using h.symm.trans hs
    split
    · simp_all
    · simp_all
  · rename_i hcomment hinstruction
    exact absurd h (hinstruction rest)

theorem miscellany_end (h : spaces input = rest) (hrest : EndsMiscellany rest) :
    miscellany input = .ok rest := by
  rw [miscellany]
  split
  · rename_i behind hs
    exact absurd (h.symm.trans hs) (hrest.comment behind)
  · rename_i behind hs
    exact absurd (h.symm.trans hs) (hrest.instruction behind)
  · rw [h]

theorem miscellany_append (h : IsMiscellany text) (hrest : EndsMiscellany rest) :
    miscellany (text ++ rest) = .ok rest := by
  induction h with
  | blanks hblanks => exact miscellany_end (by rw [spaces_append hblanks, hrest.blank]) hrest
  | @comment blanks comment text hblanks hcomment h ih =>
    obtain ⟨hbody, hhyphens⟩ := hcomment
    have hread := comment_append hbody hhyphens (text ++ rest)
    rw [← ih]
    refine miscellany_comment ?_ hread
    rw [List.append_assoc, spaces_append hblanks]
    simp [spaces_of_stops (stops_cons (p := isSpace) (c := '<') (by decide) _)]
  | @instruction blanks instruction text hblanks hinstruction h ih =>
    obtain ⟨htarget, hchars, hdeclaration, hparted, hbody, hend⟩ := hinstruction
    have hread := instruction_append htarget hchars hdeclaration hparted hbody hend (text ++ rest)
    rw [← ih]
    refine miscellany_instruction ?_ hread
    rw [List.append_assoc, spaces_append hblanks]
    simp [spaces_of_stops (stops_cons (p := isSpace) (c := '<') (by decide) _)]

/-- An XML declaration: a version, then perhaps an encoding and whether the
    document stands alone. -/
inductive IsDeclaration : Input → Prop where
  | intro {version : String} {encoding standalone : Option String} {attributes blanks : Input}
      (hattributes : WritesAttributes (("version", version) ::
        (encoding.toList.map ("encoding", ·) ++ standalone.toList.map ("standalone", ·)))
        attributes)
      (hvalues : ∀ value ∈ version :: (encoding.toList ++ standalone.toList),
        ∀ c ∈ value.toList, isXmlChar c = true)
      (hspace : attributes.head? = some ' ') (hblanks : IsBlanks blanks) :
      IsDeclaration (['<', '?', 'x', 'm', 'l'] ++ (attributes ++ (blanks ++ ['?', '>'])))

/-- What is left of a declaration when some of its attributes have been read. -/
inductive LeavesDeclaration (rest : Input) : List (String × String) → Input → Prop where
  | intro {pairs : List (String × String)} {attributes blanks : Input}
      (hattributes : WritesAttributes pairs attributes) (hblanks : IsBlanks blanks) :
      LeavesDeclaration rest pairs (attributes ++ (blanks ++ '?' :: '>' :: rest))

theorem spaces_of_leavesDeclaration_nil (h : LeavesDeclaration rest [] input) :
    spaces input = '?' :: '>' :: rest := by
  obtain ⟨hattributes, hblanks⟩ := h
  cases hattributes
  rw [List.nil_append, spaces_append hblanks, spaces_of_stops (stops_cons (by decide) _)]

theorem spaces_of_leavesDeclaration_cons {key value : String}
    (h : LeavesDeclaration rest ((key, value) :: pairs) input) (hkey : IsPlainName key.toList) :
    ∃ literal behind, Written valueEscapes value.toList literal ∧
      LeavesDeclaration rest pairs behind ∧
        spaces input = key.toList ++ '=' :: '"' :: (literal ++ '"' :: behind) := by
  obtain ⟨hattributes, hblanks⟩ := h
  cases hattributes with
  | cons hsome hbefore hvalue hattributes =>
    refine ⟨_, _, hvalue, ⟨hattributes, hblanks⟩, ?_⟩
    simp only [List.append_assoc, List.cons_append]
    rw [spaces_append hbefore,
      spaces_of_stops (stops_of_beginsName isSpace_eq_false_of_isNameStart hkey.1)]

/-- Blanks part the attributes of a declaration, but need not stand at its end. -/
theorem declarationSpaces_of_leavesDeclaration (h : LeavesDeclaration rest pairs input) :
    declarationSpaces input = .ok (spaces input) := by
  have hblank : ∀ {blanks : Input} (behind : Input), IsBlanks blanks → blanks ≠ [] →
      declarationSpaces (blanks ++ behind) = .ok (spaces (blanks ++ behind)) := by
    intro blanks behind hblanks hsome
    obtain ⟨c, blanks, rfl⟩ := List.exists_cons_of_ne_nil hsome
    have hc := (isBlanks_cons.mp hblanks).1
    simp [declarationSpaces, spaces, hc]
  cases h with
  | @intro _ blanks hattributes hblanks =>
    cases hattributes with
    | nil =>
      rw [List.nil_append]
      by_cases hsome : blanks = []
      · subst hsome
        rfl
      · exact hblank _ hblanks hsome
    | cons hsome hbefore hvalue hattributes =>
      rw [List.append_assoc]
      exact hblank _ hbefore hsome

/-- An attribute is skipped where its name is asked for. -/
theorem skipAttribute_of_leavesDeclaration {key value : String}
    (h : LeavesDeclaration rest ((key, value) :: pairs) input) (hkey : IsPlainName key.toList)
    (hchars : ∀ c ∈ value.toList, isXmlChar c = true) :
    ∃ behind, LeavesDeclaration rest pairs behind ∧
      skipAttribute key.toList (spaces input) = .ok behind ∧
      skipPartedAttribute key.toList (spaces input) = .ok (spaces behind) := by
  obtain ⟨literal, behind, hvalue, hrest, hspaces⟩ := spaces_of_leavesDeclaration_cons h hkey
  have hbegins : key.toList.isPrefixOf (spaces input) = true := by
    rw [List.isPrefixOf_iff_prefix, hspaces]
    exact List.prefix_append ..
  have hskip : skipAttribute key.toList (spaces input) = .ok behind := by
    rw [skipAttribute, if_pos hbegins, hspaces, writtenAttribute_append hkey hchars hvalue]
    rfl
  refine ⟨behind, hrest, hskip, ?_⟩
  rw [skipPartedAttribute, if_pos hbegins, hskip]
  exact declarationSpaces_of_leavesDeclaration hrest

/-- An attribute that may be left out is skipped where it is there. -/
theorem skipAttribute_of_option {key : String} {value? : Option String}
    (h : LeavesDeclaration rest (value?.toList.map (key, ·) ++ pairs) input)
    (hkey : IsPlainName key.toList)
    (hchars : ∀ value ∈ value?.toList, ∀ c ∈ value.toList, isXmlChar c = true)
    (hnext : ∀ behind, LeavesDeclaration rest pairs behind → ¬ key.toList <+: spaces behind) :
    ∃ behind, LeavesDeclaration rest pairs behind ∧
      skipPartedAttribute key.toList (spaces input) = .ok (spaces behind) ∧
      ∃ after, skipAttribute key.toList (spaces input) = .ok after ∧
        spaces after = spaces behind := by
  cases value? with
  | some value =>
    obtain ⟨behind, hbehind, hskip, hparted⟩ :=
      skipAttribute_of_leavesDeclaration h hkey (hchars value (List.mem_singleton_self value))
    exact ⟨behind, hbehind, hparted, behind, hskip, rfl⟩
  | none =>
    have hnot : ¬ key.toList.isPrefixOf (spaces input) = true := by
      rw [List.isPrefixOf_iff_prefix]
      exact hnext input h
    exact ⟨input, h, if_neg hnot, spaces input, if_neg hnot, List.dropWhile_idempotent ..⟩

theorem isPlainName_declarationKeys :
    ∀ key ∈ ["version", "encoding", "standalone"], IsPlainName key.toList := by
  decide +kernel

/-- No attribute begins at the end of a declaration. -/
theorem not_key_of_leavesDeclaration_nil {key : String} (hkey : IsPlainName key.toList)
    (h : LeavesDeclaration rest [] input) : ¬ key.toList <+: spaces input := by
  rw [spaces_of_leavesDeclaration_nil h]
  rintro ⟨behind, hcons⟩
  have hbegins := beginsName_append hkey.1 behind
  rw [hcons] at hbegins
  cases hbegins

/-- The encoding stands before what tells whether the document stands alone. -/
theorem not_encoding_of_leavesDeclaration {standalone : Option String}
    (h : LeavesDeclaration rest (standalone.toList.map ("standalone", ·)) input) :
    ¬ "encoding".toList <+: spaces input := by
  cases standalone with
  | none => exact not_key_of_leavesDeclaration_nil (isPlainName_declarationKeys _ (by decide)) h
  | some value =>
    obtain ⟨literal, after, -, -, hspaces⟩ :=
      spaces_of_leavesDeclaration_cons h (isPlainName_declarationKeys _ (by decide))
    rw [hspaces]
    simp

/-- A declaration is read up to its end. -/
theorem xmlDeclaration_append {version : String} {encoding standalone : Option String}
    (h : LeavesDeclaration rest (("version", version) ::
      (encoding.toList.map ("encoding", ·) ++ standalone.toList.map ("standalone", ·))) input)
    (hvalues : ∀ value ∈ version :: (encoding.toList ++ standalone.toList),
      ∀ c ∈ value.toList, isXmlChar c = true) :
    xmlDeclaration input = .ok rest := by
  have hkeys := isPlainName_declarationKeys
  obtain ⟨literal, after, -, -, hspaces⟩ :=
    spaces_of_leavesDeclaration_cons h (hkeys _ (by decide))
  obtain ⟨rest₁, h₁, -, hversion⟩ := skipAttribute_of_leavesDeclaration h (hkeys _ (by decide))
    (hvalues version (List.mem_cons_self ..))
  obtain ⟨rest₂, h₂, hencoding, -⟩ := skipAttribute_of_option h₁ (hkeys _ (by decide))
    (fun value hvalue => hvalues value (List.mem_cons_of_mem _ (List.mem_append_left _ hvalue)))
    (fun behind => not_encoding_of_leavesDeclaration)
  rw [← List.append_nil (standalone.toList.map _)] at h₂
  obtain ⟨rest₃, h₃, -, after, hstandalone, hafter⟩ := skipAttribute_of_option h₂
    (hkeys _ (by decide))
    (fun value hvalue => hvalues value (List.mem_cons_of_mem _ (List.mem_append_right _ hvalue)))
    (fun behind => not_key_of_leavesDeclaration_nil (hkeys _ (by decide)))
  have hmark : expect ['?', '>'] (spaces after) = .ok rest := by
    rw [hafter, spaces_of_leavesDeclaration_nil h₃]
    rfl
  have hbegins : ['v', 'e', 'r', 's', 'i', 'o', 'n'].isPrefixOf (spaces input) = true := by
    rw [List.isPrefixOf_iff_prefix, hspaces]
    exact List.prefix_append ..
  change skipPartedAttribute ['v', 'e', 'r', 's', 'i', 'o', 'n'] _ = _ at hversion
  change skipPartedAttribute ['e', 'n', 'c', 'o', 'd', 'i', 'n', 'g'] _ = _ at hencoding
  change skipAttribute ['s', 't', 'a', 'n', 'd', 'a', 'l', 'o', 'n', 'e'] _ = _ at hstandalone
  rw [xmlDeclaration]
  simp only [hbegins, hversion, hencoding, hstandalone, bind, Except.bind]
  exact hmark

/-- A document type declaration that declares nothing. -/
inductive IsDoctype : Input → Prop where
  | intro {before name after : Input} (hsome : before ≠ []) (hbefore : IsBlanks before)
      (hbegins : beginsName name = true) (hchars : ∀ c ∈ name, isNameChar c = true)
      (hafter : IsBlanks after) :
      IsDoctype (['<', '!', 'D', 'O', 'C', 'T', 'Y', 'P', 'E'] ++
        (before ++ (name ++ (after ++ ['>']))))

theorem doctype_append {before text after : Input} (hsome : before ≠ [])
    (hbefore : IsBlanks before)
    (hbegins : beginsName text = true) (hchars : ∀ c ∈ text, isNameChar c = true)
    (hafter : IsBlanks after) (rest : Input) :
    doctype (before ++ (text ++ (after ++ '>' :: rest))) = .ok ([], rest) := by
  have hstart : someSpaces (before ++ (text ++ (after ++ '>' :: rest))) =
      .ok (text ++ (after ++ '>' :: rest)) := by
    obtain ⟨c, before, rfl⟩ := List.exists_cons_of_ne_nil hsome
    obtain ⟨hc, hinner⟩ := isBlanks_cons.mp hbefore
    rw [List.cons_append, someSpaces, if_pos hc, spaces_append hinner,
      spaces_of_stops (stops_of_beginsName isSpace_eq_false_of_isNameStart hbegins)]
  have hname := name_append hbegins hchars
    (stops_of_isBlanks hafter (stops_cons (p := isNameChar) (c := '>') (by decide) rest))
  have hend : spaces (after ++ '>' :: rest) = '>' :: rest := by
    rw [spaces_append hafter, spaces_of_stops (stops_cons (by decide) rest)]
  have hmark : spaces ('>' :: rest) = '>' :: rest := spaces_of_stops (stops_cons (by decide) rest)
  have hexternal : externalId ('>' :: rest) = .ok (false, '>' :: rest) := rfl
  rw [doctype, hstart]
  simp only [bind, Except.bind, hname, hend, hexternal, hmark]
  rfl

/-- What stands before the root element: perhaps a byte order mark, an XML
    declaration and a document type, and what may stand around them. -/
inductive IsProlog : Input → Prop where
  | intro {mark declaration before type : Input} (hmark : mark = [] ∨ mark = ['\ufeff'])
      (hdeclaration : declaration = [] ∨ IsDeclaration declaration)
      (hbefore : IsMiscellany before)
      (htype : type = [] ∨ ∃ doctype after, IsDoctype doctype ∧ IsMiscellany after ∧
        type = doctype ++ after) :
      IsProlog (mark ++ (declaration ++ (before ++ type)))

/-- A document that writes a tree as its root element. -/
inductive Writes (root : Node) : String → Prop where
  | intro {before element after : Input} (hbefore : IsProlog before)
      (helement : WritesNode root element) (hafter : IsMiscellany after) :
      Writes root (String.ofList (before ++ (element ++ after)))

theorem IsMiscellany.stops (h : IsMiscellany text) {p : Char → Bool}
    (hspace : ∀ c, isSpace c = true → p c = false) (hmark : p '<' = false) (hrest : Stops p rest) :
    Stops p (text ++ rest) := by
  have hblanks : ∀ {blanks behind : Input}, IsBlanks blanks → Stops p behind →
      Stops p (blanks ++ behind) := by
    intro blanks behind hblanks hbehind
    cases blanks with
    | nil => exact hbehind
    | cons c blanks => exact stops_cons (hspace c (isBlanks_cons.mp hblanks).1) _
  cases h with
  | blanks h => exact hblanks h hrest
  | comment h hcomment =>
    obtain ⟨⟩ := hcomment
    rw [List.append_assoc]
    exact hblanks h (stops_cons hmark _)
  | instruction h hinstruction =>
    obtain ⟨⟩ := hinstruction
    rw [List.append_assoc]
    exact hblanks h (stops_cons hmark _)

theorem skipByteOrderMark_append {mark : Input} (hmark : mark = [] ∨ mark = ['\ufeff'])
    (hrest : Stops (· = '\ufeff') rest) : skipByteOrderMark (mark ++ rest) = rest := by
  rcases hmark with rfl | rfl
  · cases rest with
    | nil => rfl
    | cons c rest =>
      have hc : c ≠ '\ufeff' := by simpa using hrest c rest rfl
      simp [skipByteOrderMark, hc]
  · rfl

/-- No XML declaration begins where something else may stand before the root. -/
theorem not_declaration_of_isMiscellany (h : IsMiscellany text) (hrest : EndsMiscellany rest) :
    ¬ ['<', '?', 'x', 'm', 'l', ' '] <+: text ++ rest := by
  have hblanks : ∀ {blanks behind : Input}, IsBlanks blanks →
      ¬ ['<', '?', 'x', 'm', 'l', ' '] <+: behind →
      ¬ ['<', '?', 'x', 'm', 'l', ' '] <+: blanks ++ behind := by
    intro blanks behind hblanks hbehind
    cases blanks with
    | nil => exact hbehind
    | cons c blanks =>
      rintro ⟨after, h⟩
      obtain rfl : '<' = c := (List.cons.inj h).1
      exact absurd (isBlanks_cons.mp hblanks).1 (by decide)
  -- Blanks, comments and instructions begin in other ways, each with its own reason.
  cases h with
  | blanks h =>
    refine hblanks h ?_
    rintro ⟨after, h⟩
    exact hrest.instruction _ h.symm
  | comment h hcomment =>
    obtain ⟨⟩ := hcomment
    rw [List.append_assoc]
    refine hblanks h ?_
    rintro ⟨after, h⟩
    cases h
  | instruction h hinstruction =>
    obtain ⟨htarget, hchars, hdeclaration, hparted, -, -⟩ := hinstruction
    rw [List.append_assoc]
    refine hblanks h ?_
    simp only [List.append_assoc, List.cons_append, List.nil_append, List.cons_prefix_cons,
      true_and]
    exact not_declaration_prefix hchars hdeclaration hparted _

theorem skipXmlDeclaration_append {declaration : Input}
    (h : declaration = [] ∨ IsDeclaration declaration)
    (hrest : ¬ ['<', '?', 'x', 'm', 'l', ' '] <+: rest) :
    skipXmlDeclaration (declaration ++ rest) = .ok rest := by
  rcases h with rfl | h
  · exact if_neg (by rwa [List.isPrefixOf_iff_prefix])
  · cases h with
    | @intro version encoding standalone attributes blanks hattributes hvalues hspace hblanks =>
    have hread : xmlDeclaration (attributes ++ (blanks ++ '?' :: '>' :: rest)) = .ok rest :=
      xmlDeclaration_append ⟨hattributes, hblanks⟩ hvalues
    obtain ⟨attributes, rfl⟩ := List.head?_eq_some_iff.mp hspace
    have hmark : ['<', '?', 'x', 'm', 'l', ' '].isPrefixOf (['<', '?', 'x', 'm', 'l'] ++
        (' ' :: attributes ++ (blanks ++ ['?', '>'])) ++ rest) = true := by
      simp [List.isPrefixOf]
    rw [skipXmlDeclaration, if_pos hmark, ← hread]
    simp

theorem endsMiscellany_of_beginsName (h : beginsName input = true) :
    EndsMiscellany ('<' :: input) where
  blank := spaces_of_stops (stops_cons (by decide) input)
  comment := by
    rintro behind hcons
    cases hcons
    cases h
  instruction := by
    rintro behind hcons
    cases hcons
    cases h

theorem IsDoctype.endsMiscellany (h : IsDoctype text) (rest : Input) :
    EndsMiscellany (text ++ rest) := by
  obtain ⟨⟩ := h
  exact ⟨spaces_of_stops (stops_cons (by decide) _), by simp, by simp⟩

/-- The byte order mark and the XML declaration are skipped. -/
theorem skip_append {mark declaration before : Input} (hmark : mark = [] ∨ mark = ['\ufeff'])
    (hdeclaration : declaration = [] ∨ IsDeclaration declaration) (hbefore : IsMiscellany before)
    (hrest : EndsMiscellany rest) (hstart : ∃ behind, rest = '<' :: behind) :
    skipXmlDeclaration (skipByteOrderMark (mark ++ (declaration ++ (before ++ rest)))) =
      .ok (before ++ rest) := by
  -- A byte order mark is skipped only once, so none may stand behind it: what follows
  -- begins with a blank or with markup.
  have hmarkup : Stops (· = '\ufeff') (declaration ++ (before ++ rest)) := by
    rcases hdeclaration with rfl | hdeclaration
    · obtain ⟨behind, rfl⟩ := hstart
      refine hbefore.stops ?_ rfl (stops_cons rfl behind)
      intro c hc
      rw [decide_eq_false_iff_not]
      rintro rfl
      exact absurd hc (by decide)
    · cases hdeclaration
      exact stops_cons rfl _
  rw [skipByteOrderMark_append hmark hmarkup,
    skipXmlDeclaration_append hdeclaration (not_declaration_of_isMiscellany hbefore hrest)]

/-- What stands before the root element declares no entities. -/
theorem prolog_append (h : IsProlog text) (hinput : beginsName input = true) :
    prolog (text ++ '<' :: input) = .ok ([], '<' :: input) := by
  have hroot := endsMiscellany_of_beginsName hinput
  obtain ⟨hmark, hdeclaration, hbefore, htype⟩ := h
  rcases htype with rfl | ⟨doctype, after, htype, hafter, rfl⟩
  · have hskip := skip_append hmark hdeclaration hbefore hroot ⟨input, rfl⟩
    have hread := miscellany_append hbefore hroot
    rw [List.append_nil, List.append_assoc, List.append_assoc, prolog, hskip]
    simp only [bind, Except.bind, hread]
    split
    · rename_i behind hcons
      cases hcons
      cases hinput
    · rfl
  · have hends := htype.endsMiscellany (after ++ '<' :: input)
    have hread := miscellany_append hbefore hends
    have hbehind := miscellany_append hafter hroot
    obtain ⟨hsome, hblanks, hbegins, hchars, hend⟩ := htype
    have htype := doctype_append hsome hblanks hbegins hchars hend (after ++ '<' :: input)
    have hskip := skip_append hmark hdeclaration hbefore hends ⟨_, rfl⟩
    simp only [List.append_assoc, List.cons_append, List.nil_append] at hskip hread ⊢
    rw [prolog, hskip]
    simp only [bind, Except.bind, hread, htype, hbehind]
    rfl

/-- A document that writes a tree is read as that tree. -/
theorem read_of_writes {root : Node} {text : String} (h : Writes root text)
    (hroot : ∀ n ∈ descendants root, n.Encodable) : read text = .ok root := by
  cases h with
  | @intro before element after hbefore helement hafter =>
  have hbegins : ∃ input, element = '<' :: input ∧ beginsName input = true := by
    obtain ⟨hnode, -⟩ := encodable_children hroot
    cases helement with
    | emptied htag => exact ⟨_, rfl, htag.beginsName_append hnode _⟩
    | opened htag => exact ⟨_, rfl, htag.beginsName_append hnode _⟩
  obtain ⟨input, rfl, hinput⟩ := hbegins
  have hprolog := prolog_append hbefore (beginsName_append hinput after)
  have hroot := rootElement_of_writesNode [] helement hroot after
  have hend : miscellany after = .ok [] := by
    have hnil : EndsMiscellany [] := ⟨rfl, by simp, by simp⟩
    have happend := miscellany_append hafter hnil
    rwa [List.append_nil] at happend
  rw [read, String.toList_ofList, List.cons_append, hprolog]
  show (rootElement [] (input ++ after) >>= _) = _
  rw [hroot]
  show (miscellany after >>= _) = _
  rw [hend]
  rfl

/-! ## Every tree has a document -/

/-- Every value can be written with references to what has to be escaped. -/
theorem exists_written (chars : Input) : ∃ text, Written valueEscapes chars text := by
  induction chars with
  | nil => exact ⟨[], .nil⟩
  | cons c chars ih =>
    obtain ⟨text, htext⟩ := ih
    by_cases hc : c ∈ valueEscapes
    · have hbody : ∃ body, RefersTo c body := by
        simp only [valueEscapes, List.mem_cons, List.not_mem_nil, or_false] at hc
        rcases hc with rfl | rfl | rfl | rfl | rfl | rfl
        · exact ⟨_, .ampersand⟩
        · exact ⟨_, .less⟩
        · exact ⟨_, .quote⟩
        · exact ⟨['#', '9'], .decimal (by simp) rfl⟩
        · exact ⟨['#', '1', '0'], .decimal (by simp) rfl⟩
        · exact ⟨['#', '1', '3'], .decimal (by simp) rfl⟩
      obtain ⟨body, hbody⟩ := hbody
      exact ⟨_, .reference hbody htext⟩
    · exact ⟨_, .plain hc htext⟩

theorem exists_writesAttributes (pairs : List (String × String)) :
    ∃ text, WritesAttributes pairs text := by
  induction pairs with
  | nil => exact ⟨[], .nil⟩
  | cons pair pairs ih =>
    obtain ⟨text, htext⟩ := ih
    obtain ⟨literal, hliteral⟩ := exists_written pair.2.toList
    have hspace : IsBlanks [' '] := isBlanks_cons.mpr ⟨rfl, isBlanks_nil⟩
    exact ⟨_, .cons (by simp) hspace hliteral htext⟩

theorem isCharacterData_nil : IsCharacterData [] := ⟨[], by simp, .nil, by simp⟩

theorem exists_writesNode (n : Node) : ∃ text, WritesNode n text := by
  induction n using Node.induction with
  | h n ih =>
    have hcontent : ∀ ns : List Node, (∀ c ∈ ns, ∃ text, WritesNode c text) →
        ∃ text, WritesContent ns text := by
      intro ns hns
      induction ns with
      | nil => exact ⟨[], .data isCharacterData_nil⟩
      | cons c ns ihns =>
        obtain ⟨element, helement⟩ := hns c (List.mem_cons_self ..)
        obtain ⟨inner, hinner⟩ := ihns fun d hd => hns d (List.mem_cons_of_mem _ hd)
        exact ⟨_, .child isCharacterData_nil helement hinner⟩
    obtain ⟨inner, hinner⟩ := hcontent n.children ih
    obtain ⟨attributes, hattributes⟩ := exists_writesAttributes n.attrs.toList
    exact ⟨_, .opened (.intro (.refl _) hattributes isBlanks_nil) hinner isBlanks_nil⟩

/-- Every tree can be written as a document. -/
theorem exists_writes (root : Node) : ∃ text, Writes root text := by
  obtain ⟨element, helement⟩ := exists_writesNode root
  have hblank : IsMiscellany [] := .blanks isBlanks_nil
  exact ⟨_, .intro (.intro (.inl rfl) (.inl rfl) hblank (.inl rfl)) helement hblank⟩

end Xml

/-! ## Catalogs of documents -/

/-- The catalog of a document is the one of the tree that it writes, or there is
    none for the same fault; and so it is for the tree's text in JSON, if the
    tree does not nest too deep to be read from it. -/
theorem Catalog.ofText_of_writes {root : Node} (hroot : ∀ n ∈ descendants root, n.Encodable)
    {text : String} (htext : Xml.Writes root text) (projectRoot : String) :
    Catalog.ofText .xml text projectRoot =
        (Catalog.ofTree root projectRoot).mapError .tree ∧
      (root.nesting ≤ 127 →
        Catalog.ofText .json root.write projectRoot = Catalog.ofText .xml text projectRoot) := by
  have hxml : Encoding.xml.readTree text = .ok root := by
    rw [Encoding.readTree, Xml.read_of_writes htext hroot]
    rfl
  have hofTree : Catalog.ofText .xml text projectRoot =
      (Catalog.ofTree root projectRoot).mapError .tree :=
    Catalog.ofText_of_readTree_eq_ok hxml
  refine ⟨hofTree, fun hnesting => ?_⟩
  have hread : Node.read root.write = .ok root := by
    rw [Node.read_write]
    exact if_pos hnesting
  have hjson : Encoding.json.readTree root.write = .ok root := by
    rw [Encoding.readTree, hread]
    rfl
  rw [hofTree, Catalog.ofText_of_readTree_eq_ok hjson]

/-- A module with one use clause. -/
def sampleModule : Node := ⟨"module", .ofList [("name", "A&B")], [⟨"use", ∅, []⟩]⟩

/-- A document with all that may stand around and between its tags. -/
def sampleDocument : String :=
  "\ufeff<?xml version=\"1.0\"?>\n<!-- x --><!DOCTYPE module>\n" ++
    "<module name=\"A&#38;B\" >a&lt;<![CDATA[<>]]><?go on?><use/></module >\n"

theorem perm_sampleModule : [("name", "A&B")].Perm sampleModule.attrs.toList := by
  decide +kernel

theorem encodable_sampleModule : ∀ n ∈ descendants sampleModule, n.Encodable := by
  have hname : ∀ name ∈ ["module", "name", "use"], Xml.IsPlainName name.toList := by
    decide +kernel
  have hempty : ∀ key value : String, (∅ : Attributes)[key]? ≠ some value := by simp
  simp only [sampleModule, Node.descendants_eq, List.flatMap_cons, List.flatMap_nil,
    List.append_nil, List.forall_mem_cons]
  refine ⟨⟨hname _ (by decide), ?_⟩, ⟨hname _ (by decide), ?_⟩, by simp⟩
  · intro key value hvalue
    have hpair : (key, value) ∈ [("name", "A&B")] :=
      perm_sampleModule.mem_iff.mpr (Std.ExtTreeMap.mem_toList_iff_getElem?_eq_some.mpr hvalue)
    obtain ⟨rfl, rfl⟩ := Prod.mk.inj (List.mem_singleton.mp hpair)
    exact ⟨hname _ (by decide), by decide, List.all_eq_true.mp (by decide +kernel)⟩
  · intro key value hvalue
    exact absurd hvalue (hempty key value)

theorem writes_sampleDocument : Xml.Writes sampleModule sampleDocument := by
  have hspace : Xml.IsBlanks [' '] := Xml.isBlanks_cons.mpr ⟨rfl, Xml.isBlanks_nil⟩
  have hline : Xml.IsBlanks ['\n'] := Xml.isBlanks_cons.mpr ⟨rfl, Xml.isBlanks_nil⟩
  -- The prolog: a declaration, a comment and a document type behind a byte order mark.
  have hversion : Xml.Written Xml.valueEscapes "1.0".toList "1.0".toList :=
    .plain (by decide) (.plain (by decide) (.plain (by decide) .nil))
  have hattributes : Xml.WritesAttributes [("version", "1.0")] _ :=
    .cons (by simp) hspace hversion .nil
  have hchars : ∀ value ∈ ["1.0"], ∀ c ∈ value.toList, Xml.isXmlChar c = true := by
    simpa using List.all_eq_true.mp (show "1.0".toList.all Xml.isXmlChar = true by decide)
  have hdeclaration : Xml.IsDeclaration _ :=
    @Xml.IsDeclaration.intro "1.0" none none _ _ hattributes hchars rfl Xml.isBlanks_nil
  have hcomment : Xml.IsComment _ :=
    @Xml.IsComment.intro [' ', 'x', ' '] (List.all_eq_true.mp rfl) (by decide)
  have hbefore := Xml.IsMiscellany.comment hline hcomment (.blanks Xml.isBlanks_nil)
  have hdoctype : Xml.IsDoctype _ :=
    @Xml.IsDoctype.intro _ "module".toList _ (by simp) hspace rfl (List.all_eq_true.mp rfl)
      Xml.isBlanks_nil
  have hprolog := Xml.IsProlog.intro (.inr rfl) (.inr hdeclaration) hbefore
    (.inr ⟨_, _, hdoctype, .blanks hline, rfl⟩)
  -- The content of the module: character data, remarks and an item.
  have hnone : List.Perm [] (Node.attrs ⟨"use", ∅, []⟩).toList := by decide +kernel
  have huse : Xml.WritesNode ⟨"use", ∅, []⟩ _ :=
    .emptied (.intro hnone .nil Xml.isBlanks_nil) rfl
  have hdata : Xml.IsCharacterData _ :=
    ⟨['a', '<'], List.all_eq_true.mp rfl, .plain (by decide) (.reference .less .nil),
      by decide +kernel⟩
  have hsection : Xml.IsSection _ := @Xml.IsSection.intro ['<', '>'] (List.all_eq_true.mp rfl) (by decide)
  have hinstruction : Xml.IsInstruction _ :=
    @Xml.IsInstruction.intro ['g', 'o'] [' ', 'o', 'n'] rfl (List.all_eq_true.mp rfl) (by decide)
      (Xml.stops_cons rfl _) (List.all_eq_true.mp rfl) (by decide)
  have hcontent := Xml.WritesContent.remark hdata (.inr (.inl hsection))
    (.remark Xml.isCharacterData_nil (.inr (.inr hinstruction))
      (.child Xml.isCharacterData_nil huse (.data Xml.isCharacterData_nil)))
  -- Its tags.
  have hampersand : Xml.RefersTo '&' ['#', '3', '8'] := .decimal (by simp) rfl
  have hvalue : Xml.Written Xml.valueEscapes "A&B".toList _ :=
    .plain (by decide) (.reference hampersand (.plain (by decide) .nil))
  have hname : Xml.WritesAttributes [("name", "A&B")] _ := .cons (by simp) hspace hvalue .nil
  have htag : Xml.WritesTag sampleModule _ := .intro perm_sampleModule hname hspace
  have hwrites := Xml.Writes.intro hprolog (.opened htag hcontent hspace) (.blanks hline)
  refine cast (congrArg (Xml.Writes sampleModule) ?_) hwrites
  decide +kernel

/-- The sample document has the catalog of its module. -/
theorem Catalog.ofText_of_writes_sampleDocument :
    (∀ n ∈ descendants sampleModule, n.Encodable) ∧
      Xml.Writes sampleModule sampleDocument ∧ sampleModule.nesting ≤ 127 ∧
      Catalog.ofText .xml sampleDocument "" = (Catalog.ofTree sampleModule "").mapError .tree ∧
      Catalog.ofText .json sampleModule.write "" = Catalog.ofText .xml sampleDocument "" := by
  have hnesting : sampleModule.nesting ≤ 127 := by decide +kernel
  obtain ⟨hxml, hjson⟩ :=
    Catalog.ofText_of_writes encodable_sampleModule writes_sampleDocument ""
  exact ⟨encodable_sampleModule, writes_sampleDocument, hnesting, hxml, hjson hnesting⟩

end ModuleCatalog
