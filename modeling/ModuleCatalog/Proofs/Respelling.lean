import ModuleCatalog.Proofs.Gap
import ModuleCatalog.Proofs.LetterCase

/-! # Respelled trees

    Two trees of one shape may spell their tags and names differently.  As
    long as the tags agree up to the case of ASCII letters and the names up to
    lower case, both have the same catalog or the same fault.  In particular
    the case of ASCII letters never matters, neither in a tag nor in the name
    of a unit, the target of a use clause, a symbol or a keyword
    (`Catalog.ofTree_respelled`). -/

namespace ModuleCatalog

namespace Node

/-- Two trees of one shape that spell their tags and names differently: nodes
    at the same place have the same tag but for the case of ASCII letters, the
    same path, and names, texts and keywords that are the `same`. -/
inductive Respells (same : String → String → Prop) : Node → Node → Prop where
  | node {n m : Node} (htag : Text.Respelled n.tag m.tag)
      (hsame : ∀ key ∈ ["name", "id", "keyword"], Option.Rel same (n.attr? key) (m.attr? key))
      (hpath : n.attr? "path" = m.attr? "path")
      (hchildren : List.Forall₂ (Respells same) n.children m.children) : Respells same n m

namespace Respells

variable {same : String → String → Prop} {n m : Node}

theorem children (h : Respells same n m) :
    List.Forall₂ (Respells same) n.children m.children := by
  cases h with
  | node _ _ _ hchildren => exact hchildren

/-- The nodes of both trees correspond to each other in document order. -/
theorem forall₂_descendants (h : Respells same n m) :
    List.Forall₂ (Respells same) (descendants n) (descendants m) :=
  forall₂_descendants_of_children (fun _ _ => children) h

variable (hsame : ∀ s t, same s t → Text.lower s = Text.lower t)

include hsame

theorem alike (h : Respells same n m) : n.Alike m := by
  cases h with
  | node htag hkeys hpath _ =>
    have hkind : n.kind? = m.kind? := by
      rw [kind?, kind?, NodeKind.ofTag?, NodeKind.ofTag?, Text.respelled_iff.mp htag]
    have hlower : ∀ {s? t? : Option String}, Option.Rel same s? t? →
        s?.map Text.lower = t?.map Text.lower := by
      intro s? t? hst
      cases hst with
      | none => rfl
      | some hst => rw [Option.map_some, Option.map_some, hsame _ _ hst]
    exact ⟨hkind, fun key hkey => hlower (hkeys key hkey), hpath⟩

theorem forall₂_filter {ns ms : List Node} (h : List.Forall₂ (Respells same) ns ms)
    (keep : Option NodeKind → Bool) :
    List.Forall₂ (Respells same) (ns.filter fun n => keep n.kind?)
      (ms.filter fun m => keep m.kind?) :=
  forall₂_filter_kind (fun _ _ hnm => (hnm.alike hsame).kind?_eq) keep h

/-- Nodes at the same place are read alike. -/
theorem readsAlike (h : Respells same n m) : n.ReadsAlike m := by
  have himp : ∀ {ns ms : List Node}, List.Forall₂ (Respells same) ns ms →
      List.Forall₂ Alike ns ms := fun hnms => hnms.imp fun _ _ hnm => hnm.alike hsame
  constructor
  case alike => exact h.alike hsame
  case scan =>
    intro _
    exact himp (forall₂_filter hsame h.forall₂_descendants (·.isSome))
  case items =>
    intro _
    have hlists := forall₂_filter hsame h.children (· == some .only)
    refine himp (List.rel_flatMap hlists fun list list' hlist => ?_)
    exact forall₂_filter hsame hlist.children (· == some .name)

/-- The known nodes of both trees are read alike, one by one. -/
theorem forall₂_readsAlike (h : Respells same n m) :
    List.Forall₂ ReadsAlike n.knownNodes m.knownNodes :=
  (forall₂_filter hsame h.forall₂_descendants (·.isSome)).imp
    fun _ _ hnm => hnm.readsAlike hsame

end Respells

end Node

namespace Catalog

/-- Trees of one shape whose tags agree up to the case of ASCII letters, whose
    names, texts and keywords agree up to lower case, and whose paths agree,
    have the same catalog or the same fault.  The case of ASCII letters, also
    of those beside other letters or a capital sigma, changes no name, so trees
    that differ only there have the same catalog or the same fault too. -/
theorem ofTree_respelled :
    (∀ (root root' : Node) (projectRoot : String),
      root.Respells (fun s t => Text.lower s = Text.lower t) root' →
      ofTree root projectRoot = ofTree root' projectRoot) ∧
    (∀ s t : String, Text.Respelled s t → ModuleName.ofSpelling s = ModuleName.ofSpelling t) ∧
    ∀ (root root' : Node) (projectRoot : String), root.Respells Text.Respelled root' →
      ofTree root projectRoot = ofTree root' projectRoot := by
  refine ⟨?_, ?_, ?_⟩
  · intro root root' projectRoot h
    exact ofTree_eq_of_readsAlike projectRoot (h.forall₂_readsAlike fun _ _ hst => hst)
  · intro s t h
    exact (ModuleName.ofSpelling_eq_iff s t).mpr (Text.lower_eq_of_respelled h)
  · intro root root' projectRoot h
    exact ofTree_eq_of_readsAlike projectRoot
      (h.forall₂_readsAlike fun _ _ => Text.lower_eq_of_respelled)

/-- A unit with a declaration that hides a name, spelled as given. -/
def sampleStreet (tag unit marker symbol : String) : Node where
  tag := tag
  attrs := .ofList [("name", unit)]
  children :=
    [⟨"declaration", ∅,
      [⟨"access-spec", .ofList [("keyword", marker)], []⟩, ⟨"name", .ofList [("id", symbol)], []⟩]⟩]

theorem respells_sampleStreet {same : String → String → Prop}
    {tag tag' unit unit' marker marker' symbol symbol' : String} (htag : Text.Respelled tag tag')
    (hunit : same unit unit') (hmarker : same marker marker') (hsymbol : same symbol symbol') :
    (sampleStreet tag unit marker symbol).Respells same
      (sampleStreet tag' unit' marker' symbol') := by
  have hrefl : ∀ tag : String, Text.Respelled tag tag := fun _ => Text.respelled_iff.mpr rfl
  -- a node whose only attribute is not the path has nothing else to agree in
  have hnode : ∀ {tag tag' key value value' : String} {children children' : List Node},
      Text.Respelled tag tag' → key ≠ "path" → same value value' →
      List.Forall₂ (Node.Respells same) children children' →
      Node.Respells same ⟨tag, .ofList [(key, value)], children⟩
        ⟨tag', .ofList [(key, value')], children'⟩ := by
    intro tag tag' key value value' children children' htag hkey hvalue hchildren
    refine .node htag (fun k _ => ?_) ?_ hchildren
    · simp only [Node.attr?, Std.ExtTreeMap.ofList_singleton, Std.ExtTreeMap.getElem?_insert]
      split
      · exact .some hvalue
      · exact .none
    · simp [Node.attr?, Std.ExtTreeMap.ofList_singleton, hkey]
  refine hnode htag (by decide) hunit (.cons (.node (hrefl _) ?_ rfl ?_) .nil)
  · exact fun _ _ => .none
  · exact .cons (hnode (hrefl _) (by decide) hmarker .nil)
      (.cons (hnode (hrefl _) (by decide) hsymbol .nil) .nil)

/-- A name with a capital sigma at its end, and one with a capital sigma between
    ASCII letters, in upper and in lower case. -/
theorem ofTree_respelled_sampleStreet :
    (∃ c, ofTree (sampleStreet "module" "ΌΣ" "PRIVATE" "É") "src" = .ok c ∧
      ofTree (sampleStreet "MODULE" "ός" "private" "é") "src" = .ok c) ∧
    ModuleName.ofSpelling "AΣ" = ModuleName.ofSpelling "aΣ" ∧
    ∃ c, ofTree (sampleStreet "Module" "AΣB" "Private" "Σx") "src" = .ok c ∧
      ofTree (sampleStreet "mODULE" "aΣb" "pRIVATE" "ΣX") "src" = .ok c := by
  obtain ⟨hlower, hname, hcase⟩ := ofTree_respelled
  refine ⟨?_, hname _ _ (by decide +kernel), ?_⟩
  · have htag : Text.Respelled "module" "MODULE" := by decide +kernel
    have hunit : Text.lower "ΌΣ" = Text.lower "ός" := by decide +kernel
    have hmarker : Text.lower "PRIVATE" = Text.lower "private" := by decide +kernel
    have hsymbol : Text.lower "É" = Text.lower "é" := by decide +kernel
    have hsame := hlower _ _ "src" (respells_sampleStreet htag hunit hmarker hsymbol)
    obtain ⟨c, h⟩ := exists_eq_ok_of_isOk
      (x := ofTree (sampleStreet "module" "ΌΣ" "PRIVATE" "É") "src") (by decide +kernel)
    exact ⟨c, h, hsame.symm.trans h⟩
  · have htag : Text.Respelled "Module" "mODULE" := by decide +kernel
    have hunit : Text.Respelled "AΣB" "aΣb" := by decide +kernel
    have hmarker : Text.Respelled "Private" "pRIVATE" := by decide +kernel
    have hsymbol : Text.Respelled "Σx" "ΣX" := by decide +kernel
    have hsame := hcase _ _ "src" (respells_sampleStreet htag hunit hmarker hsymbol)
    obtain ⟨c, h⟩ := exists_eq_ok_of_isOk
      (x := ofTree (sampleStreet "Module" "AΣB" "Private" "Σx") "src") (by decide +kernel)
    exact ⟨c, h, hsame.symm.trans h⟩

end Catalog

end ModuleCatalog
