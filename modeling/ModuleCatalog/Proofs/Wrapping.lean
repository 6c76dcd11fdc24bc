import ModuleCatalog.Proofs.Gap
import ModuleCatalog.Proofs.Outcome

/-! # Wrapped nodes

    A node whose tag is no kind is a wrapper: what it holds might as well stand
    in its place.  This goes for wrappers at any depth, also inside a
    declaration and ahead of all units, and for the fault of a tree as well as
    for its catalog (`Catalog.ofTree_unwrapped`).  Only right under a use clause
    or a list of names a wrapper matters, for these look at their own children
    only. -/

namespace ModuleCatalog

/-- A wrapper is none of the known nodes, so only what it holds counts. -/
theorem knownNodesOf_wrapper {u : Node} (h : u.kind? = none) :
    knownNodesOf [u] = knownNodesOf u.children := by
  have hu : u.kind?.isSome = false := by rw [h]; rfl
  rw [knownNodesOf, List.flatMap_singleton, Node.descendants_eq,
    List.filter_cons_of_neg (by simp [hu])]
  rfl

namespace Gap

/-- A wrapper can be exchanged for what it holds, unless its parent looks at
    its own children. -/
theorem exchanges_wrapper {g : Gap} {u : Node} (h : u.kind? = none)
    (huse : g.parent.kind? ≠ some .use) (honly : g.parent.kind? ≠ some .only) :
    g.Exchanges [u] u.children where
  scan _ := knownNodesOf_wrapper h
  items hkind := absurd hkind huse
  names hkind := absurd hkind honly

end Gap

namespace Catalog

/-- Where a wrapper stands in a tree, be it not the root and not right under a
    use clause or a list of names, its children can stand in its place, in
    order: the tree has the same catalog or the same fault.  The gaps meant
    here are all the places of a tree but that of its root. -/
theorem ofTree_unwrapped (projectRoot : String) :
    (∀ (root : Node) (p : Place (descendants root)), p.before ≠ [] →
      ∃ g : Gap, g.fill [p.node] = root ∧ g.ahead [p.node] = p.before) ∧
    ∀ (g : Gap) (u : Node), u.kind? = none → g.parent.kind? ≠ some .use →
      g.parent.kind? ≠ some .only →
      ofTree (g.fill u.children) projectRoot = ofTree (g.fill [u]) projectRoot := by
  refine ⟨fun root p hp => p.exists_gap hp, ?_⟩
  intro g u hkind huse honly
  have hsame := Gap.forall₂_readsAlike_knownNodes (Gap.exchanges_wrapper hkind huse honly)
    (knownNodesOf_wrapper hkind)
  exact (ofTree_eq_of_readsAlike projectRoot hsame).symm

/-- Behind the private marker of a declaration, with one more name to come. -/
def sampleGap : Gap :=
  let node := fun (kind : NodeKind) attrs => Node.mk kind.tag (.ofList attrs) []
  .inside { tag := NodeKind.tag .module, attrs := .ofList [("name", "Util")] } <|
    .child
      { tag := NodeKind.tag .declaration
        left := [node .accessSpec [("keyword", "PRIVATE")]]
        right := [node .name [("id", "Last")]] }

/-- A wrapper with a name in it. -/
def sampleWrapper : Node where
  tag := "literal"
  children := [⟨NodeKind.tag .name, .ofList [("id", "Secret")], []⟩]

/-- The name in the wrapper is hidden as if it stood there itself. -/
theorem ofTree_unwrapped_sampleWrapper :
    (∃ g : Gap, g.fill [sampleWrapper] = sampleGap.fill [sampleWrapper] ∧
      (g.ahead [sampleWrapper]).length = 3) ∧
    ∃ c, ofTree (sampleGap.fill [sampleWrapper]) "src" = .ok c ∧
      ofTree (sampleGap.fill sampleWrapper.children) "src" = .ok c ∧
      "secret" ∈ c.hidden[ModuleName.ofSpelling "Util"]?.getD ∅ := by
  obtain ⟨hplaces, hunwrapped⟩ := ofTree_unwrapped "src"
  constructor
  · obtain ⟨g, hfill, hahead⟩ := hplaces _ (sampleGap.place sampleWrapper) (List.cons_ne_nil _ _)
    refine ⟨g, hfill, ?_⟩
    have hlength : (sampleGap.ahead [sampleWrapper]).length = 3 := by decide +kernel
    exact (congrArg List.length hahead).trans hlength
  · have hsame := hunwrapped sampleGap sampleWrapper (by decide +kernel) (by decide +kernel)
      (by decide +kernel)
    obtain ⟨c, h⟩ := exists_eq_ok_of_isOk (x := ofTree (sampleGap.fill [sampleWrapper]) "src")
      (by decide +kernel)
    refine ⟨c, h, hsame.trans h, ?_⟩
    obtain ⟨-, rfl⟩ := ofTree_eq_ok_iff.mp h
    decide +kernel

end Catalog

end ModuleCatalog
