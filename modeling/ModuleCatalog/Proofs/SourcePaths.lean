import ModuleCatalog.Proofs.Earlier
import ModuleCatalog.Proofs.Gap
import ModuleCatalog.Proofs.Outcome

/-! # What the paths of a tree tell

    The name and the directory of the source file are told from the paths of
    the file nodes, each from the last path that tells it
    (`Pass.lastTold_fileBehind`).  Nothing else in a catalog depends on these
    paths or on the name of the project directory: a pass through a tree with
    other paths goes the same way, but for the file (`Pass.run_withFile`). -/

namespace ModuleCatalog

/-! ## The last path that tells something -/

/-- What `derive` tells of the paths of some nodes: what it tells of the last
    path of which it tells anything. -/
inductive LastTold (derive : String → Option String) (nodes : List Node) :
    Option String → Prop where
  | told {part path : String} (p : Place nodes) (hpath : p.node.filePath? = some path)
      (htold : derive path = some part)
      (hlater : ∀ n ∈ p.behind, ∀ path, n.filePath? = some path → derive path = none) :
      LastTold derive nodes (some part)
  | untold (hnone : ∀ n ∈ nodes, ∀ path, n.filePath? = some path → derive path = none) :
      LastTold derive nodes none

section lastTold

variable {derive : String → Option String} {nodes : List Node} {n : Node} {part? : Option String}

/-- A node that has no path, or none of which anything is told, changes
    nothing. -/
theorem LastTold.append_untold (h : LastTold derive nodes part?)
    (hn : ∀ path, n.filePath? = some path → derive path = none) :
    LastTold derive (nodes ++ [n]) part? := by
  cases h with
  | told p hpath htold hlater =>
    obtain ⟨before, m, behind, rfl⟩ := p
    refine .told ⟨before, m, behind ++ [n], by simp⟩ hpath htold ?_
    intro k hk
    rcases List.mem_append.mp hk with hk | hk
    · exact hlater k hk
    · obtain rfl := List.mem_singleton.mp hk
      exact hn
  | untold hnone =>
    refine .untold fun k hk => ?_
    rcases List.mem_append.mp hk with hk | hk
    · exact hnone k hk
    · obtain rfl := List.mem_singleton.mp hk
      exact hn

/-- A node with a path takes the place of earlier ones if something is told of
    its path. -/
theorem LastTold.append (h : LastTold derive nodes part?) {path : String}
    (hpath : n.filePath? = some path) :
    LastTold derive (nodes ++ [n]) ((derive path).or part?) := by
  cases htold : derive path with
  | some part => exact .told ⟨nodes, n, [], rfl⟩ hpath htold (by simp)
  | none =>
    refine h.append_untold fun path' hpath' => ?_
    rw [hpath] at hpath'
    cases hpath'
    exact htold

/-- Nothing is told exactly when there is no path of which anything is told. -/
theorem LastTold.eq_none_iff (h : LastTold derive nodes part?) :
    part? = none ↔ ∀ n ∈ nodes, ∀ path, n.filePath? = some path → derive path = none := by
  cases h with
  | told p hpath htold _ =>
    refine iff_of_false nofun fun hnone => ?_
    rw [hnone p.node p.mem _ hpath] at htold
    cases htold
  | untold hnone => exact iff_of_true rfl hnone

end lastTold

/-- Each part of the file is told by the last path that tells it. -/
theorem lastTold_fileBehind (projectRoot : String) (nodes : List Node) :
    LastTold SourceFile.name? nodes (fileBehind projectRoot nodes).name ∧
      LastTold (SourceFile.directory? · projectRoot) nodes
        (fileBehind projectRoot nodes).directory := by
  induction nodes using List.reverseRecOn with
  | nil => exact ⟨.untold (by simp), .untold (by simp)⟩
  | append_singleton nodes n ih =>
    obtain ⟨hname, hdirectory⟩ := ih
    have hbehind : fileBehind projectRoot (nodes ++ [n]) =
        n.filePath?.elim (fileBehind projectRoot nodes)
          ((fileBehind projectRoot nodes).learn projectRoot ·) := by
      unfold fileBehind
      cases hpath : n.filePath? <;> simp [hpath]
    rw [hbehind]
    cases hpath : n.filePath? with
    | none =>
      have hn : ∀ {derive : String → Option String} path,
          n.filePath? = some path → derive path = none := by
        intro derive path h
        rw [hpath] at h
        cases h
      exact ⟨hname.append_untold hn, hdirectory.append_untold hn⟩
    | some path => exact ⟨hname.append hpath, hdirectory.append hpath⟩

/-! ## Trees with other paths -/

namespace Node

/-- Two trees that are the same but for the paths of their file nodes. -/
inductive Relocates : Node → Node → Prop where
  | node {n m : Node} (htag : n.tag = m.tag)
      (hattrs : ∀ key, ¬ (n.kind? = some .file ∧ key = "path") → n.attr? key = m.attr? key)
      (hpath : (n.attr? "path").isSome = (m.attr? "path").isSome)
      (hchildren : List.Forall₂ Relocates n.children m.children) : Relocates n m

variable {n m : Node}

namespace Relocates

theorem children (h : n.Relocates m) : List.Forall₂ Relocates n.children m.children := by
  cases h with
  | node _ _ _ hchildren => exact hchildren

theorem kind?_eq (h : n.Relocates m) : n.kind? = m.kind? := by
  cases h with
  | node htag => rw [kind?, kind?, htag]

theorem isSome_path (h : n.Relocates m) : (n.attr? "path").isSome = (m.attr? "path").isSome := by
  cases h with
  | node _ _ hpath _ => exact hpath

theorem refl (n : Node) : n.Relocates n := by
  induction n using Node.induction with
  | h n ih => exact .node rfl (fun _ _ => rfl) rfl (List.forall₂_same.mpr ih)

/-- A file node may be given another path. -/
theorem withAttr_path (hkind : n.kind? = some .file) (path path' : String) :
    (n.withAttr "path" path).Relocates (n.withAttr "path" path') := by
  refine .node rfl (fun key hkey => ?_) ?_ (List.forall₂_same.mpr fun child _ => refl child)
  · have hother : "path" ≠ key := fun h => hkey ⟨hkind, h.symm⟩
    simp [attr?, withAttr, Std.ExtTreeMap.getElem?_insert, hother]
  · simp [attr?, withAttr]

/-- Apart from file nodes, nodes at the same place are alike. -/
theorem alike (h : n.Relocates m) (hkind : n.kind? ≠ some .file) : n.Alike m := by
  have hkinds := h.kind?_eq
  cases h with
  | node _ hattrs _ _ =>
    have hattr : ∀ key, n.attr? key = m.attr? key := fun key => hattrs key fun h => hkind h.1
    exact ⟨hkinds, fun key _ => by rw [hattr key], hattr "path"⟩

theorem forall₂_descendants (h : n.Relocates m) :
    List.Forall₂ Relocates (descendants n) (descendants m) :=
  forall₂_descendants_of_children (fun _ _ => children) h

/-- Nodes of one kind that is not that of files are alike. -/
theorem forall₂_alike_filter {ns ms : List Node} (h : List.Forall₂ Relocates ns ms)
    {kind : NodeKind} (hkind : kind ≠ .file) :
    List.Forall₂ Alike (ns.filter (·.kind? == some kind)) (ms.filter (·.kind? == some kind)) := by
  induction h with
  | nil => exact .nil
  | @cons n m ns ms hnm _ ih =>
    by_cases hn : n.kind? = some kind
    · have hm : m.kind? = some kind := hnm.kind?_eq.symm.trans hn
      have hfile : n.kind? ≠ some .file := by
        rw [hn]
        simpa using hkind
      simpa [hn, hm] using List.Forall₂.cons (hnm.alike hfile) ih
    · have hm : m.kind? ≠ some kind := by rwa [← hnm.kind?_eq]
      simpa [hn, hm] using ih

/-- The names of a use clause are told from nodes that are alike. -/
theorem onlyNames_eq (h : n.Relocates m) : n.onlyNames = m.onlyNames := by
  have hlists : List.Forall₂ Relocates (n.childrenOfKind .only) (m.childrenOfKind .only) :=
    forall₂_filter_kind (fun _ _ hkl => hkl.kind?_eq) (· == some .only) h.children
  have hitems : List.Forall₂ Alike n.onlyItems m.onlyItems :=
    List.rel_flatMap hlists fun _ _ hlist => forall₂_alike_filter hlist.children (by decide)
  exact Node.onlyNames_eq hitems

/-- A declaration passes over the file nodes in it. -/
theorem hiddenNames_eq (h : n.Relocates m) (home : Except TreeFault ModuleName) :
    n.hiddenNames home = m.hiddenNames home := by
  have hread : ∀ (scan : DeclarationScan) (k l : Node), k.Relocates l →
      scan.read home k = scan.read home l := by
    intro scan k l hkl
    by_cases hkind : k.kind? = some .file
    · have hkind' : l.kind? = some .file := hkl.kind?_eq.symm.trans hkind
      simp only [DeclarationScan.read, hkind, hkind']
    · exact read_eq_of_alike (hkl.alike hkind) scan
  rw [hiddenNames, hiddenNames, foldlM_eq_of_forall₂ h.forall₂_descendants hread]

end Relocates

end Node

/-! ## Passes through trees with other paths -/

namespace Pass

variable {n m : Node} {ns ms : List Node}

/-- A visit of a node with another path does the same, but for the file. -/
theorem visit_relocated (root root' : String) (entry : Option ModuleName) (p : Pass)
    (file : SourceFile) (h : n.Relocates m) :
    ∃ file', (p.withFile file).visit ⟨root', entry⟩ m =
      (·.withFile file') <$> p.visit ⟨root, entry⟩ n := by
  by_cases hkind : n.kind? = some .file
  · -- both paths are there or neither, and whatever they tell goes to the file
    have hkind' : m.kind? = some .file := h.kind?_eq.symm.trans hkind
    have hsome := h.isSome_path
    simp only [visit, hkind, hkind', addFile, Node.require]
    cases hn : n.attr? "path" with
    | none =>
      cases hm : m.attr? "path" with
      | none => exact ⟨file, rfl⟩
      | some _ => simp [hn, hm] at hsome
    | some path =>
      cases hm : m.attr? "path" with
      | none => simp [hn, hm] at hsome
      | some path' => exact ⟨file.learn root' path', rfl⟩
  · refine ⟨file, ?_⟩
    rw [← visit_withFile root root' entry p file hkind]
    exact (visit_eq_of_alike (h.alike hkind) (fun _ => h.hiddenNames_eq)
      (fun _ => h.onlyNames_eq) (p.withFile file)).symm

/-- A run over nodes with other paths goes the same way, but for the file. -/
theorem run_relocated (root root' : String) (entry : Option ModuleName) (p : Pass)
    (file : SourceFile) (h : List.Forall₂ Node.Relocates ns ms) :
    ∃ file', ms.foldlM (visit ⟨root', entry⟩) (p.withFile file) =
      (·.withFile file') <$> ns.foldlM (visit ⟨root, entry⟩) p := by
  induction h generalizing p file with
  | nil => exact ⟨file, rfl⟩
  | @cons n m ns ms hnm _ ih =>
    obtain ⟨file₁, hvisit⟩ := visit_relocated root root' entry p file hnm
    rw [List.foldlM_cons, List.foldlM_cons, hvisit]
    cases p.visit ⟨root, entry⟩ n with
    | error fault => exact ⟨file, rfl⟩
    | ok q => exact ih q file₁

end Pass

namespace Node

/-- Trees that differ in the paths of file nodes have the same entry point. -/
theorem Relocates.entryPoint_eq {root root' : Node} (h : root.Relocates root') :
    entryPoint root = entryPoint root' :=
  entryPoint_eq_of_alike (forall₂_alike_filter h.forall₂_descendants (by decide))

end Node

namespace Catalog

variable {root root' : Node}

/-- Trees that differ in the paths of file nodes have the same catalog but for
    the file, or the same fault. -/
theorem ofTree_relocated (h : root.Relocates root') (projectRoot projectRoot' : String) :
    ∃ file, ofTree root' projectRoot' = (fun c => { c with file }) <$> ofTree root projectRoot := by
  cases hentry : entryPoint root with
  | error fault =>
    refine ⟨{}, ?_⟩
    rw [ofTree, ofTree, Survey.ofTree, Survey.ofTree, ← h.entryPoint_eq, hentry]
    rfl
  | ok entry =>
    obtain ⟨file, hrun⟩ :=
      Pass.run_relocated projectRoot projectRoot' entry {} {} h.forall₂_descendants
    refine ⟨file, ?_⟩
    have hentry' : entryPoint root' = .ok entry := by rw [← h.entryPoint_eq, hentry]
    have hblank : ({} : Pass).withFile {} = {} := rfl
    rw [hblank] at hrun
    rw [ofTree_of_entryPoint hentry, ofTree_of_entryPoint hentry', hrun, Functor.map_map,
      Functor.map_map]
    rfl

/-- The name and the directory of the source file are told from the paths of the
    file nodes, wherever these stand, and do not wait for each other: each is
    told from the last path that tells it, and is missing exactly if no path
    does.  Nothing else is told from the paths and from the name of the project
    directory.  Trees that are the same but for the paths of their file nodes
    have the same fault, or catalogs that are the same but for the file, under
    any two names of the project directory. -/
theorem file_told_from_last_paths (root : Node) (projectRoot : String) :
    (∀ c, ofTree root projectRoot = .ok c →
      LastTold SourceFile.name? (descendants root) c.file.name ∧
      LastTold (SourceFile.directory? · projectRoot) (descendants root) c.file.directory ∧
      (c.file.name = none ↔ ∀ n ∈ descendants root, ∀ path, n.filePath? = some path →
        SourceFile.name? path = none) ∧
      (c.file.directory = none ↔ ∀ n ∈ descendants root, ∀ path, n.filePath? = some path →
        SourceFile.directory? path projectRoot = none)) ∧
    ∀ root' projectRoot', root.Relocates root' →
      (∀ fault, ofTree root' projectRoot' = .error fault ↔
        ofTree root projectRoot = .error fault) ∧
      ∀ c, ofTree root projectRoot = .ok c →
        ∃ file, ofTree root' projectRoot' = .ok { c with file } := by
  constructor
  · intro c h
    obtain ⟨-, rfl⟩ := ofTree_eq_ok_iff.mp h
    obtain ⟨hname, hdirectory⟩ := lastTold_fileBehind projectRoot (descendants root)
    exact ⟨hname, hdirectory, hname.eq_none_iff, hdirectory.eq_none_iff⟩
  · intro root' projectRoot' h
    obtain ⟨file, hsame⟩ := ofTree_relocated h projectRoot projectRoot'
    rw [hsame]
    constructor
    · intro fault
      exact map_eq_error
    · intro c hc
      refine ⟨file, ?_⟩
      rw [hc]
      rfl

/-- A file in which two file nodes tell one part each. -/
def sampleFileTree (path path' : String) : Node :=
  let node := fun (kind : NodeKind) attrs children => Node.mk kind.tag attrs children
  node .module (.ofList [("name", "Util")])
    [(node .file ∅ []).withAttr "path" path,
      node .variable (.ofList [("name", "X")]) [(node .file ∅ []).withAttr "path" path']]

theorem relocates_sampleFileTree (a a' b b' : String) :
    (sampleFileTree a b).Relocates (sampleFileTree a' b') := by
  have hkind : (Node.mk NodeKind.file.tag ∅ []).kind? = some .file := by decide +kernel
  have hfile := @Node.Relocates.withAttr_path _ hkind
  exact .node rfl (fun _ _ => rfl) rfl
    (.cons (hfile a a') (.cons (.node rfl (fun _ _ => rfl) rfl (.cons (hfile b b') .nil)) .nil))

/-- The second path tells no directory, so that of the first stays; with other
    paths everything but the file is the same. -/
theorem file_told_from_last_paths_sampleFileTree :
    ∃ c, ofTree (sampleFileTree "w/src/main/a.f90" "b_processed.f90") "src" = .ok c ∧
      c.file = ⟨some "b.f90", some "src/main"⟩ ∧
      LastTold (SourceFile.directory? · "src")
        (descendants (sampleFileTree "w/src/main/a.f90" "b_processed.f90")) (some "src/main") ∧
      ∃ file, ofTree (sampleFileTree "" "w/lib/main/c_processed.f90") "lib" =
        .ok { c with file } := by
  obtain ⟨c, h⟩ := exists_eq_ok_of_isOk
    (x := ofTree (sampleFileTree "w/src/main/a.f90" "b_processed.f90") "src") (by decide +kernel)
  have hfile : c.file = ⟨some "b.f90", some "src/main"⟩ := by
    obtain ⟨-, rfl⟩ := ofTree_eq_ok_iff.mp h
    decide +kernel
  obtain ⟨htold, hsame⟩ :=
    file_told_from_last_paths (sampleFileTree "w/src/main/a.f90" "b_processed.f90") "src"
  obtain ⟨-, hdirectory, -, -⟩ := htold c h
  rw [hfile] at hdirectory
  exact ⟨c, h, hfile, hdirectory, (hsame _ "lib" (relocates_sampleFileTree ..)).2 c h⟩

end Catalog

end ModuleCatalog
