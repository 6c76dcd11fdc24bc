import ModuleCatalog.Proofs.Attribute
import ModuleCatalog.Proofs.Place

/-! # What a declaration hides

    A declaration is read node by node with a flag that a private marker sets
    for good.  Here the same is said without the flag: hidden are the names
    that stand somewhere behind a private marker of the declaration.  The main
    statements are `hiddenNames_eq_ok_iff` and `hiddenNames_eq_error_iff`. -/

namespace ModuleCatalog

namespace Node

/-- Whether a node is an access specification with the keyword `private`. -/
def isPrivateMarker (n : Node) : Bool :=
  n.kind? == some .accessSpec && (n.attr? "keyword").any (Text.lower · == "private")

theorem isPrivateMarker_iff {n : Node} :
    n.isPrivateMarker = true ↔
      n.kind? = some .accessSpec ∧
        ∃ keyword, n.attr? "keyword" = some keyword ∧ Text.lower keyword = "private" := by
  simp [isPrivateMarker, Option.any_eq_true]

end Node

/-- A private marker is among the nodes that were passed. -/
def PastMarker (passed : List Node) : Prop :=
  ∃ a ∈ passed, a.isPrivateMarker = true

instance (passed : List Node) : Decidable (PastMarker passed) :=
  inferInstanceAs (Decidable (∃ a ∈ passed, a.isPrivateMarker = true))

/-- A name behind a private marker. -/
def Place.IsHidden {nodes : List Node} (p : Place nodes) : Prop :=
  p.node.kind? = some .name ∧ PastMarker p.before

/-- The symbols of the names behind a private marker. -/
def hiddenSymbols (nodes : List Node) : SymbolSet :=
  .ofList ((nodes.dropWhile (!·.isPrivateMarker)).filterMap Node.nameSymbol?)

/-- What is wrong with one node of a declaration, when those of `passed` have
    been read and the declaration has a unit or not. -/
inductive ScanFaultAt (housed : Prop) (passed : List Node) (n : Node) : TreeFault → Prop where
  /-- An access specification lacks its keyword. -/
  | keyword (hkind : n.kind? = some .accessSpec) (hnone : n.attr? "keyword" = none) :
      ScanFaultAt housed passed n (.missingAttribute .accessSpec "keyword")
  /-- A hidden name lacks its text. -/
  | id (hkind : n.kind? = some .name) (hpast : PastMarker passed) (hnone : n.attr? "id" = none) :
      ScanFaultAt housed passed n (.missingAttribute .name "id")
  /-- A hidden name belongs to no unit. -/
  | unscoped (hkind : n.kind? = some .name) (hpast : PastMarker passed)
      (hid : n.attr? "id" ≠ none) (hhome : ¬ housed) :
      ScanFaultAt housed passed n (.unscoped .declaration)

/-- A declaration is faultless when its access specifications have keywords and
    its hidden names have texts and a unit to belong to. -/
theorem faultless_scan_iff {housed : Prop} {nodes : List Node} :
    Faultless (ScanFaultAt housed) nodes ↔
      (∀ a ∈ nodes, a.kind? = some .accessSpec → a.attr? "keyword" ≠ none) ∧
      (∀ p : Place nodes, p.IsHidden → p.node.attr? "id" ≠ none) ∧
      ((∃ p : Place nodes, p.IsHidden) → housed) := by
  constructor
  · intro h
    have hid : ∀ p : Place nodes, p.IsHidden → p.node.attr? "id" ≠ none :=
      fun p hp hnone => h p _ (.id hp.1 hp.2 hnone)
    refine ⟨?_, hid, ?_⟩
    · intro a ha hkind hnone
      obtain ⟨p, rfl⟩ := Place.exists_of_mem ha
      exact h p _ (.keyword hkind hnone)
    · intro hhidden
      obtain ⟨p, hp⟩ := hhidden
      by_contra hhome
      exact h p _ (.unscoped hp.1 hp.2 (hid p hp) hhome)
  · intro h p fault hfault
    obtain ⟨hkeyword, hid, hhome⟩ := h
    cases hfault with
    | keyword hkind hnone => exact hkeyword p.node p.mem hkind hnone
    | id hkind hpast hnone => exact hid p ⟨hkind, hpast⟩ hnone
    | unscoped hkind hpast _ hhomeless => exact hhomeless (hhome ⟨p, hkind, hpast⟩)

/-! ## Hidden symbols -/

theorem pastMarker_iff_any {passed : List Node} :
    PastMarker passed ↔ passed.any Node.isPrivateMarker = true := by
  simp [PastMarker]

theorem pastMarker_cons_iff {n : Node} {passed : List Node} :
    PastMarker (n :: passed) ↔ n.isPrivateMarker = true ∨ PastMarker passed := by
  simp [PastMarker]

/-- A marker is no name. -/
theorem nameSymbol?_of_isPrivateMarker {n : Node} (h : n.isPrivateMarker = true) :
    n.nameSymbol? = none := by
  have hkind := (Node.isPrivateMarker_iff.mp h).1
  simp [Node.nameSymbol?, hkind]

theorem mem_dropWhile_iff {nodes : List Node} {symbol : String} :
    symbol ∈ (nodes.dropWhile (!·.isPrivateMarker)).filterMap Node.nameSymbol? ↔
      ∃ p : Place nodes, PastMarker p.before ∧ p.node.nameSymbol? = some symbol := by
  induction nodes with
  | nil => simpa using fun p : Place [] => p.elim_nil.elim
  | cons n nodes ih =>
    rw [Place.exists_cons_iff (P := fun before m => PastMarker before ∧
      m.nameSymbol? = some symbol)]
    -- the head has nothing ahead of it, so it is never hidden itself
    have hnil : ¬ PastMarker [] := by simp [PastMarker]
    simp only [hnil, false_and, false_or, pastMarker_cons_iff]
    cases hmarker : n.isPrivateMarker with
    | false => simpa [hmarker] using ih
    | true =>
      -- behind the first marker every name counts
      simp only [List.dropWhile_cons, hmarker, Bool.not_true, Bool.false_eq_true, if_false,
        List.filterMap_cons, nameSymbol?_of_isPrivateMarker hmarker, List.mem_filterMap,
        true_or, true_and]
      constructor
      · intro h
        obtain ⟨m, hm, hsymbol⟩ := h
        obtain ⟨p, rfl⟩ := Place.exists_of_mem hm
        exact ⟨p, hsymbol⟩
      · intro h
        obtain ⟨p, hsymbol⟩ := h
        exact ⟨p.node, p.mem, hsymbol⟩

/-- A symbol is hidden when it is that of a hidden name. -/
theorem mem_hiddenSymbols_iff {nodes : List Node} {symbol : String} :
    symbol ∈ hiddenSymbols nodes ↔
      ∃ p : Place nodes, p.IsHidden ∧
        ∃ id, p.node.attr? "id" = some id ∧ Text.lower id = symbol := by
  rw [hiddenSymbols, Std.ExtTreeSet.mem_ofList, List.contains_iff_mem, mem_dropWhile_iff]
  simp only [Node.nameSymbol?_eq_some_iff, Place.IsHidden]
  exact exists_congr fun p => by rw [← and_assoc, and_comm (a := PastMarker _)]

/-- One more node hides its symbol if it stands behind a marker and is a name. -/
theorem mem_hiddenSymbols_append_singleton_iff {nodes : List Node} {n : Node} {symbol : String} :
    symbol ∈ hiddenSymbols (nodes ++ [n]) ↔
      symbol ∈ hiddenSymbols nodes ∨ PastMarker nodes ∧ n.nameSymbol? = some symbol := by
  simp only [hiddenSymbols, Std.ExtTreeSet.mem_ofList, List.contains_iff_mem, mem_dropWhile_iff]
  exact Place.exists_append_singleton_iff
    (P := fun before m => PastMarker before ∧ m.nameSymbol? = some symbol)

/-- What hides nothing leaves the hidden symbols as they are. -/
theorem hiddenSymbols_append_singleton_of_not {nodes : List Node} {n : Node}
    (h : ¬ (PastMarker nodes ∧ n.kind? = some .name)) :
    hiddenSymbols (nodes ++ [n]) = hiddenSymbols nodes := by
  refine Std.ExtTreeSet.ext_mem fun symbol => ?_
  rw [mem_hiddenSymbols_append_singleton_iff, or_iff_left_iff_imp]
  intro hadded
  obtain ⟨hpast, hsymbol⟩ := hadded
  exact absurd ⟨hpast, (Node.nameSymbol?_eq_some_iff.mp hsymbol).1⟩ h

theorem hiddenSymbols_append_singleton_of_name {nodes : List Node} {n : Node} {id : String}
    (hpast : PastMarker nodes) (hkind : n.kind? = some .name) (hid : n.attr? "id" = some id) :
    hiddenSymbols (nodes ++ [n]) = (hiddenSymbols nodes).insert (Text.lower id) := by
  refine Std.ExtTreeSet.ext_mem fun symbol => ?_
  rw [mem_hiddenSymbols_append_singleton_iff, Std.ExtTreeSet.mem_insert,
    Std.LawfulEqOrd.compare_eq_iff_eq, Node.nameSymbol?_eq_some_iff]
  simp [hpast, hkind, hid, or_comm]

/-! ## Reading a declaration -/

/-- How far a declaration has been read behind some of its nodes. -/
def DeclarationScan.behind (passed : List Node) : DeclarationScan where
  marking := passed.any Node.isPrivateMarker
  hidden := hiddenSymbols passed

theorem DeclarationScan.behind_nil : behind [] = {} := rfl

namespace DeclarationScan

variable {home : Except TreeFault ModuleName} {housed : Prop} {passed : List Node} {n : Node}

/-- Reading a node fails with what is wrong at its place. -/
theorem read_eq_error_iff
    (hhome : ∀ fault, home = .error fault ↔ ¬ housed ∧ fault = .unscoped .declaration)
    {fault : TreeFault} :
    (behind passed).read home n = .error fault ↔ ScanFaultAt housed passed n fault := by
  constructor
  · intro h
    -- one case for each kind of node that a declaration is read for
    unfold read at h
    split at h
    case h_1 hkind =>
      simp only [bind_eq_error, Node.symbol_eq_error_iff, pure_ne_error, and_false, exists_false,
        or_false] at h
      obtain ⟨hnone, rfl⟩ := h
      exact .keyword hkind hnone
    case h_2 hkind =>
      by_cases hpast : PastMarker passed
      · simp only [behind, pastMarker_iff_any.mp hpast, if_true, bind_eq_error,
          Node.symbol_eq_error_iff, Node.symbol_eq_ok_iff, pure_ne_error, and_false, exists_false,
          or_false, hhome] at h
        rcases h with ⟨hnone, rfl⟩ | ⟨_, ⟨id, hid, rfl⟩, hhomeless, rfl⟩
        · exact .id hkind hpast hnone
        · exact .unscoped hkind hpast (by simp [hid]) hhomeless
      · -- a name ahead of the marker is not even read
        rw [pastMarker_iff_any] at hpast
        rw [behind, if_neg hpast] at h
        cases h
    case h_3 => cases h
  · intro h
    cases h with
    | keyword hkind hnone =>
      have hfault : n.symbol .accessSpec "keyword" = .error _ :=
        Node.symbol_eq_error_iff.mpr ⟨hnone, rfl⟩
      simp only [read, hkind]
      exact bind_eq_error.mpr (.inl hfault)
    | id hkind hpast hnone =>
      have hfault : n.symbol .name "id" = .error _ :=
        Node.symbol_eq_error_iff.mpr ⟨hnone, rfl⟩
      simp only [read, hkind, behind, pastMarker_iff_any.mp hpast, if_true]
      exact bind_eq_error.mpr (.inl hfault)
    | unscoped hkind hpast hid hhomeless =>
      obtain ⟨id, hid⟩ := Option.ne_none_iff_exists'.mp hid
      have hsymbol : n.symbol .name "id" = .ok _ :=
        Node.symbol_eq_ok_iff.mpr ⟨id, hid, rfl⟩
      have hfault := (hhome (.unscoped .declaration)).mpr ⟨hhomeless, rfl⟩
      simp only [read, hkind, behind, pastMarker_iff_any.mp hpast, if_true]
      exact bind_eq_error.mpr (.inr ⟨_, hsymbol, bind_eq_error.mpr (.inl hfault)⟩)

/-- Reading a node without a fault takes the marker and the hidden name that it
    may be into account. -/
theorem eq_behind_of_read {scan : DeclarationScan}
    (h : (behind passed).read home n = .ok scan) : scan = behind (passed ++ [n]) := by
  unfold read at h
  split at h
  case h_1 hkind =>
    simp only [bind_eq_ok, Node.symbol_eq_ok_iff, pure_eq_ok] at h
    obtain ⟨_, ⟨keyword, hkeyword, rfl⟩, rfl⟩ := h
    have hhidden : hiddenSymbols (passed ++ [n]) = hiddenSymbols passed :=
      hiddenSymbols_append_singleton_of_not (by simp [hkind])
    have hmarker : n.isPrivateMarker = (Text.lower keyword == "private") := by
      simp [Node.isPrivateMarker, hkind, hkeyword]
    -- any other keyword leaves the marking as it is
    by_cases hprivate : Text.lower keyword = "private"
    · simp [behind, hhidden, hmarker, hprivate]
    · simp [behind, hhidden, hmarker, hprivate]
  case h_2 hkind =>
    have hmarker : n.isPrivateMarker = false := by simp [Node.isPrivateMarker, hkind]
    by_cases hpast : PastMarker passed
    · simp only [behind, pastMarker_iff_any.mp hpast, if_true, bind_eq_ok, Node.symbol_eq_ok_iff,
        pure_eq_ok] at h
      obtain ⟨_, ⟨id, hid, rfl⟩, _, _, rfl⟩ := h
      rw [behind, hiddenSymbols_append_singleton_of_name hpast hkind hid]
      simp [pastMarker_iff_any.mp hpast]
    · have hhidden : hiddenSymbols (passed ++ [n]) = hiddenSymbols passed :=
        hiddenSymbols_append_singleton_of_not fun hname => hpast hname.1
      rw [pastMarker_iff_any] at hpast
      rw [behind, if_neg hpast] at h
      cases h
      rw [behind, hhidden]
      simp [hmarker]
  case h_3 hspec hname =>
    -- neither a specification nor a name: no marker, and nothing to hide
    cases h
    have hmarker : n.isPrivateMarker = false :=
      Bool.eq_false_iff.mpr fun hmarker => hspec (Node.isPrivateMarker_iff.mp hmarker).1
    rw [behind, behind, hiddenSymbols_append_singleton_of_not fun hpast => hname hpast.2]
    simp [hmarker]

theorem reading
    (hhome : ∀ fault, home = .error fault ↔ ¬ housed ∧ fault = .unscoped .declaration) :
    Reading (read home) behind (ScanFaultAt housed) where
  error_iff _ := read_eq_error_iff hhome
  eq_of_ok _ := eq_behind_of_read

end DeclarationScan

namespace Node

variable {n : Node} {home : Except TreeFault ModuleName} {housed : Prop}
  (hhome : ∀ fault, home = .error fault ↔ ¬ housed ∧ fault = .unscoped .declaration)

include hhome

/-- A declaration without a fault hides the names behind its private marker. -/
theorem hiddenNames_eq_ok_iff {hidden : SymbolSet} :
    n.hiddenNames home = .ok hidden ↔
      Faultless (ScanFaultAt housed) (descendants n) ∧ hidden = hiddenSymbols (descendants n) := by
  rw [hiddenNames, map_eq_ok, ← DeclarationScan.behind_nil]
  simp only [(DeclarationScan.reading hhome).foldlM_eq_ok_iff]
  constructor
  · intro h
    obtain ⟨_, ⟨hnone, rfl⟩, rfl⟩ := h
    exact ⟨hnone, rfl⟩
  · intro h
    obtain ⟨hnone, rfl⟩ := h
    exact ⟨_, ⟨hnone, rfl⟩, rfl⟩

/-- Reading a declaration fails with its first fault. -/
theorem hiddenNames_eq_error_iff {fault : TreeFault} :
    n.hiddenNames home = .error fault ↔
      FirstFault (ScanFaultAt housed) (descendants n) fault := by
  rw [hiddenNames, map_eq_error, ← DeclarationScan.behind_nil]
  exact (DeclarationScan.reading hhome).foldlM_eq_error_iff

end Node

end ModuleCatalog
