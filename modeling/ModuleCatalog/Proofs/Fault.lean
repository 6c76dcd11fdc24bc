import ModuleCatalog.Proofs.Contribution

/-! # What can be wrong with a node

    One rule for each way in which the visit of a node may fail, told from the
    node and the nodes ahead of it alone.  The visits keep to these rules and
    otherwise to the description `Pass.behind` (`Pass.reading`), so a pass
    fails with the first fault of the tree or comes to its end. -/

namespace ModuleCatalog

/-- What is wrong with a node of the tree at `root` that stands behind the
    nodes of `before`. -/
inductive FaultAt (root : Node) (before : List Node) (n : Node) : TreeFault → Prop where
  /-- A unit lacks its name. -/
  | unitName {kind : NodeKind} (hkind : n.kind? = some kind) (hunit : n.opensUnit = true)
      (hnone : n.attr? "name" = none) : FaultAt root before n (.missingAttribute kind "name")
  /-- A variable or subprogram with a name belongs to no unit. -/
  | unscoped {kind : NodeKind} (hkind : n.kind? = some kind)
      (hnamed : kind = .variable ∨ kind = .subroutine ∨ kind = .function)
      (hname : n.attr? "name" ≠ none) (hhome : ¬ Housed root before) :
      FaultAt root before n (.unscoped kind)
  /-- A declaration has a fault of its own, the first one within it. -/
  | declaration {fault : TreeFault} (hkind : n.kind? = some .declaration)
      (hfirst : FirstFault (ScanFaultAt (Housed root before)) (descendants n) fault) :
      FaultAt root before n fault
  /-- A use clause lacks its target. -/
  | useTarget (hkind : n.kind? = some .use) (hnone : n.attr? "name" = none) :
      FaultAt root before n (.missingAttribute .use "name")
  /-- A name that a use clause is limited to lacks its text. -/
  | useItem (hkind : n.kind? = some .use) (hname : n.attr? "name" ≠ none)
      (hnone : ∃ item ∈ n.onlyItems, item.attr? "id" = none) :
      FaultAt root before n (.missingAttribute .name "id")
  /-- A use clause belongs to no unit. -/
  | useUnscoped (hkind : n.kind? = some .use) (hname : n.attr? "name" ≠ none)
      (hids : ∀ item ∈ n.onlyItems, item.attr? "id" ≠ none) (hhome : ¬ Housed root before) :
      FaultAt root before n (.unscoped .use)
  /-- A file node lacks its path. -/
  | filePath (hkind : n.kind? = some .file) (hnone : n.attr? "path" = none) :
      FaultAt root before n (.missingAttribute .file "path")

/-- Behind faultless nodes every unit has a name. -/
theorem unitsNamed_of_faultless {root : Node} {before : List Node}
    (h : Faultless (FaultAt root) before) : UnitsNamed before := by
  intro u hu hunit hnone
  obtain ⟨p, rfl⟩ := Place.exists_of_mem hu
  rcases Node.opensUnit_iff.mp hunit with hkind | hkind
  · exact h p _ (.unitName hkind hunit hnone)
  · exact h p _ (.unitName hkind hunit hnone)

/-! ## The description of a pass -/

/-- The setting for passes through the tree at `root`. -/
def Setting.ofTree (root : Node) (projectRoot : String) : Setting where
  projectRoot := projectRoot
  entryPoint := root.firstProgram?.bind Node.unitName?

/-- What is known of the file behind some nodes. -/
def fileBehind (projectRoot : String) (before : List Node) : SourceFile :=
  (before.filterMap Node.filePath?).foldl (·.learn projectRoot ·) {}

namespace Pass

/-- A pass that has visited the nodes of `before` without a fault. -/
def behind (setting : Setting) (before : List Node) : Pass where
  modules := (before.filterMap Node.unitName?).eraseDups
  contributions := (contributionsFrom setting.entryPoint before).reverse
  file := fileBehind setting.projectRoot before
  opened := homeBehind none before

variable {setting : Setting} {root : Node} {before : List Node} {n : Node} {projectRoot : String}

theorem behind_nil : behind setting [] = {} := rfl

/-- A new name is listed at the end, a known one not again. -/
theorem eraseDups_append_singleton {α : Type u} [DecidableEq α] (xs : List α) (x : α) :
    (xs ++ [x]).eraseDups = if x ∈ xs.eraseDups then xs.eraseDups else xs.eraseDups ++ [x] := by
  rw [List.eraseDups_append, List.cons_removeAll]
  by_cases h : x ∈ xs <;> simp [h, List.eraseDups_cons]

/-- What one more node changes: it may open a unit, contribute something, or
    tell a path. -/
theorem behind_append_singleton :
    behind setting (before ++ [n]) =
      let p := behind setting before
      { modules := n.unitName?.elim p.modules fun unit =>
          if unit ∈ p.modules then p.modules else p.modules ++ [unit]
        contributions := ((homeBehind setting.entryPoint before).bind fun home =>
          n.contribution?.map (home, ·)).toList ++ p.contributions
        file := n.filePath?.elim p.file (p.file.learn setting.projectRoot ·)
        opened := if n.opensUnit then n.unitName? else p.opened } := by
  have hmodules : (behind setting (before ++ [n])).modules =
      n.unitName?.elim (behind setting before).modules fun unit =>
        if unit ∈ (behind setting before).modules then (behind setting before).modules
        else (behind setting before).modules ++ [unit] := by
    simp only [behind, List.filterMap_append]
    cases hunit : n.unitName? with
    | none => simp [hunit]
    | some unit => simp [hunit, eraseDups_append_singleton]
  have hcontributions : (behind setting (before ++ [n])).contributions =
      ((homeBehind setting.entryPoint before).bind fun home =>
        n.contribution?.map (home, ·)).toList ++ (behind setting before).contributions := by
    simp only [behind, contributionsFrom_append, contributionsFrom_singleton, List.reverse_append]
    cases homeBehind setting.entryPoint before <;> cases n.contribution? <;> rfl
  have hfile : (behind setting (before ++ [n])).file =
      n.filePath?.elim (behind setting before).file
        ((behind setting before).file.learn setting.projectRoot ·) := by
    simp only [behind, fileBehind, List.filterMap_append, List.foldl_append]
    cases hpath : n.filePath? <;> simp [hpath]
  have hopened : (behind setting (before ++ [n])).opened =
      if n.opensUnit then n.unitName? else (behind setting before).opened := by
    simp only [behind, homeBehind_append, homeBehind_singleton]
  dsimp only
  rw [← hmodules, ← hcontributions, ← hfile, ← hopened]

theorem behind_append_of_unit {name : String} (hunit : n.opensUnit = true)
    (hname : n.attr? "name" = some name) :
    behind setting (before ++ [n]) =
      let unit := ModuleName.ofSpelling name
      let modules := (behind setting before).modules
      { behind setting before with
        modules := if unit ∈ modules then modules else modules ++ [unit]
        opened := some unit } := by
  have hunitName : n.unitName? = some (.ofSpelling name) := by
    rw [Node.unitName?_of_opensUnit hunit, hname, Option.map_some]
  have hpath : n.filePath? = none := by
    rcases Node.opensUnit_iff.mp hunit with hkind | hkind <;>
      exact Node.filePath?_of_kind? hkind (by decide)
  rw [behind_append_singleton]
  simp [hunitName, Node.contribution?_of_opensUnit hunit, hpath, hunit]

theorem behind_append_of_contribution {home : ModuleName} {contribution : Contribution}
    (hcontribution : n.contribution? = some contribution) (hpath : n.filePath? = none)
    (hhome : homeBehind setting.entryPoint before = some home) :
    behind setting (before ++ [n]) = (behind setting before).contribute home contribution := by
  have hunit : n.opensUnit = false := Bool.eq_false_iff.mpr fun hunit => by
    rw [Node.contribution?_of_opensUnit hunit] at hcontribution
    cases hcontribution
  rw [behind_append_singleton]
  simp [contribute, Node.unitName?_of_not_opensUnit hunit, hcontribution, hhome, hpath, hunit]

theorem behind_append_of_file {path : String} (hkind : n.kind? = some .file)
    (hpath : n.attr? "path" = some path) :
    behind setting (before ++ [n]) =
      { behind setting before with
        file := (behind setting before).file.learn setting.projectRoot path } := by
  have hunit : n.opensUnit = false := by simp [Node.opensUnit, hkind]
  have hcontribution : n.contribution? = none := by simp [Node.contribution?, hkind]
  have hpath : n.filePath? = some path := by simp [Node.filePath?, hkind, hpath]
  rw [behind_append_singleton]
  simp [Node.unitName?_of_not_opensUnit hunit, hcontribution, hpath, hunit]

theorem behind_append_of_idle (hunit : n.opensUnit = false) (hcontribution : n.contribution? = none)
    (hpath : n.filePath? = none) : behind setting (before ++ [n]) = behind setting before := by
  rw [behind_append_singleton]
  simp [Node.unitName?_of_not_opensUnit hunit, hcontribution, hpath, hunit]

/-! ## One visit -/

section handlers

variable {p : Pass} {kind : NodeKind} {fault : TreeFault}

theorem enterUnit_eq_error_iff :
    p.enterUnit kind n = .error fault ↔
      n.attr? "name" = none ∧ fault = .missingAttribute kind "name" := by
  simp only [enterUnit, bind_eq_error, Node.unitNamed_eq_error_iff, pure_ne_error, and_false,
    exists_false, or_false]

theorem addNamed_eq_error_iff {contribution : String → Contribution} :
    p.addNamed setting kind n contribution = .error fault ↔
      n.attr? "name" ≠ none ∧ p.home setting kind = .error fault := by
  unfold addNamed
  cases n.attr? "name" with
  | none => simp
  | some name =>
    simp only [bind_eq_error, pure_ne_error, and_false, exists_false, or_false]
    simp

theorem addUse_eq_error_iff :
    p.addUse setting n = .error fault ↔
      n.attr? "name" = none ∧ fault = .missingAttribute .use "name" ∨
      n.attr? "name" ≠ none ∧
        ((∃ item ∈ n.onlyItems, item.attr? "id" = none) ∧ fault = .missingAttribute .name "id" ∨
        (∀ item ∈ n.onlyItems, item.attr? "id" ≠ none) ∧ p.home setting .use = .error fault) := by
  simp only [addUse, bind_eq_error, Node.unitNamed_eq_error_iff, Node.unitNamed_eq_ok_iff,
    Node.onlyNames_eq_error_iff, Node.onlyNames_eq_ok_iff, pure_ne_error, and_false, exists_false,
    or_false]
  cases n.attr? "name" <;> simp

theorem addFile_eq_error_iff :
    p.addFile setting n = .error fault ↔
      n.attr? "path" = none ∧ fault = .missingAttribute .file "path" := by
  simp only [addFile, bind_eq_error, Node.require_eq_error_iff, pure_ne_error, and_false,
    exists_false, or_false]

theorem eq_behind_of_enterUnit {p : Pass} (hunit : n.opensUnit = true)
    (h : (behind setting before).enterUnit kind n = .ok p) :
    p = behind setting (before ++ [n]) := by
  simp only [enterUnit, bind_eq_ok, Node.unitNamed_eq_ok_iff, pure_eq_ok] at h
  obtain ⟨_, ⟨name, hname, rfl⟩, rfl⟩ := h
  rw [behind_append_of_unit hunit hname]

end handlers

section visit

variable (hnamed : UnitsNamed before) {kind : NodeKind} {fault : TreeFault}

include hnamed

/-- A node belongs to the unit that governs its place. -/
theorem home_behind_eq_ok_iff {name : ModuleName} :
    (behind (.ofTree root projectRoot) before).home (.ofTree root projectRoot) kind = .ok name ↔
      governor? root before = some name := by
  have hhome := homeBehind_none_or hnamed (root.firstProgram?.bind Node.unitName?)
  rw [← governor?_eq_homeBehind] at hhome
  simp only [home, behind, Setting.ofTree, hhome]
  cases governor? root before <;> simp

variable (hentry : ¬ root.EntryUnnamed)

include hentry

theorem home_behind_eq_error_iff (projectRoot : String) (kind : NodeKind) (fault : TreeFault) :
    (behind (.ofTree root projectRoot) before).home (.ofTree root projectRoot) kind =
        .error fault ↔ ¬ Housed root before ∧ fault = .unscoped kind := by
  have hhome := homeBehind_none_or hnamed (root.firstProgram?.bind Node.unitName?)
  rw [← governor?_eq_homeBehind] at hhome
  simp only [home, behind, Setting.ofTree, hhome]
  rw [← governor?_eq_none_iff hnamed hentry]
  cases governor? root before <;> simp [eq_comm]

/-- A declaration that hides something is read with a fault unless it has a
    unit, so its unit is never missed afterwards. -/
theorem addDeclaration_eq_error_iff :
    (behind (.ofTree root projectRoot) before).addDeclaration (.ofTree root projectRoot) n =
        .error fault ↔ FirstFault (ScanFaultAt (Housed root before)) (descendants n) fault := by
  have hhome := home_behind_eq_error_iff hnamed hentry projectRoot .declaration
  rw [addDeclaration, bind_eq_error, Node.hiddenNames_eq_error_iff hhome, or_iff_left]
  intro h
  obtain ⟨hidden, hread, h⟩ := h
  obtain ⟨hnone, rfl⟩ := (Node.hiddenNames_eq_ok_iff hhome).mp hread
  -- something hidden would have met the missing unit while it was read
  split at h
  · cases h
  · rename_i hsome
    simp only [bind_eq_error, pure_ne_error, and_false, exists_false, or_false, hhome] at h
    rw [Std.ExtTreeSet.isEmpty_iff, Std.ExtTreeSet.eq_empty_iff_forall_not_mem,
      not_forall_not] at hsome
    obtain ⟨symbol, hsymbol⟩ := hsome
    obtain ⟨p, ⟨hkind, hpast⟩, id, hid, -⟩ := mem_hiddenSymbols_iff.mp hsymbol
    exact hnone p _ (.unscoped hkind hpast (by simp [hid]) h.1)

/-- A visit fails with what is wrong at its place. -/
theorem visit_behind_eq_error_iff :
    (behind (.ofTree root projectRoot) before).visit (.ofTree root projectRoot) n =
        .error fault ↔ FaultAt root before n fault := by
  have hhome := home_behind_eq_error_iff hnamed hentry projectRoot
  constructor
  · intro h
    unfold visit at h
    split at h
    case h_1 hkind =>
      obtain ⟨hnone, rfl⟩ := enterUnit_eq_error_iff.mp h
      exact .unitName hkind (Node.opensUnit_iff.mpr (.inl hkind)) hnone
    case h_2 hkind =>
      obtain ⟨hnone, rfl⟩ := enterUnit_eq_error_iff.mp h
      exact .unitName hkind (Node.opensUnit_iff.mpr (.inr hkind)) hnone
    case h_3 hkind | h_4 hkind | h_5 hkind =>
      -- variables, subroutines and functions are read alike
      rw [addNamed_eq_error_iff, hhome] at h
      obtain ⟨hname, hhomeless, rfl⟩ := h
      exact .unscoped hkind (by decide) hname hhomeless
    case h_6 hkind =>
      exact .declaration hkind ((addDeclaration_eq_error_iff hnamed hentry).mp h)
    case h_7 hkind =>
      rw [addUse_eq_error_iff, hhome] at h
      rcases h with ⟨hnone, rfl⟩ | ⟨hname, ⟨hnone, rfl⟩ | ⟨hids, hhomeless, rfl⟩⟩
      · exact .useTarget hkind hnone
      · exact .useItem hkind hname hnone
      · exact .useUnscoped hkind hname hids hhomeless
    case h_8 hkind =>
      obtain ⟨hnone, rfl⟩ := addFile_eq_error_iff.mp h
      exact .filePath hkind hnone
    -- the other kinds are passed over
    all_goals cases h
  · intro h
    cases h with
    | unitName hkind hunit hnone =>
      rcases Node.opensUnit_iff.mp hunit with hkind' | hkind' <;>
        · obtain rfl := Option.some.inj (hkind.symm.trans hkind')
          simp only [visit, hkind]
          exact enterUnit_eq_error_iff.mpr ⟨hnone, rfl⟩
    | unscoped hkind hnamed hname hhomeless =>
      rcases hnamed with rfl | rfl | rfl <;>
        · simp only [visit, hkind]
          exact addNamed_eq_error_iff.mpr ⟨hname, (hhome _ _).mpr ⟨hhomeless, rfl⟩⟩
    | declaration hkind hfirst =>
      simp only [visit, hkind]
      exact (addDeclaration_eq_error_iff hnamed hentry).mpr hfirst
    | useTarget hkind hnone =>
      simp only [visit, hkind]
      exact addUse_eq_error_iff.mpr (.inl ⟨hnone, rfl⟩)
    | useItem hkind hname hnone =>
      simp only [visit, hkind]
      exact addUse_eq_error_iff.mpr (.inr ⟨hname, .inl ⟨hnone, rfl⟩⟩)
    | useUnscoped hkind hname hids hhomeless =>
      simp only [visit, hkind]
      have hfault := (hhome .use _).mpr ⟨hhomeless, rfl⟩
      exact addUse_eq_error_iff.mpr (.inr ⟨hname, .inr ⟨hids, hfault⟩⟩)
    | filePath hkind hnone =>
      simp only [visit, hkind]
      exact addFile_eq_error_iff.mpr ⟨hnone, rfl⟩

theorem eq_behind_of_addDeclaration {p : Pass} (hkind : n.kind? = some .declaration)
    (h : (behind (.ofTree root projectRoot) before).addDeclaration (.ofTree root projectRoot) n =
      .ok p) : p = behind (.ofTree root projectRoot) (before ++ [n]) := by
  have hhome := home_behind_eq_error_iff hnamed hentry projectRoot .declaration
  have hunit : n.opensUnit = false := by simp [Node.opensUnit, hkind]
  have hpath := Node.filePath?_of_kind? hkind (by decide)
  simp only [addDeclaration, bind_eq_ok, Node.hiddenNames_eq_ok_iff hhome] at h
  obtain ⟨_, ⟨-, rfl⟩, h⟩ := h
  split at h
  · rename_i hempty
    cases h
    have hcontribution : n.contribution? = none := by simp [Node.contribution?, hkind, hempty]
    rw [behind_append_of_idle hunit hcontribution hpath]
  · rename_i hsome
    simp only [bind_eq_ok, home_behind_eq_ok_iff hnamed, pure_eq_ok] at h
    obtain ⟨home, hgoverned, rfl⟩ := h
    have hcontribution : n.contribution? = some (.hidden (hiddenSymbols (descendants n))) := by
      simp [Node.contribution?, hkind, hsome]
    rw [governor?_eq_homeBehind] at hgoverned
    exact (behind_append_of_contribution hcontribution hpath hgoverned).symm

omit hentry

theorem eq_behind_of_addNamed {p : Pass} {contribution : String → Contribution}
    (hunit : n.opensUnit = false) (hpath : n.filePath? = none)
    (hcontribution : n.contribution? =
      (n.attr? "name").map fun name => contribution (Text.lower name))
    (h : (behind (.ofTree root projectRoot) before).addNamed (.ofTree root projectRoot) kind n
      contribution = .ok p) : p = behind (.ofTree root projectRoot) (before ++ [n]) := by
  unfold addNamed at h
  cases hname : n.attr? "name" with
  | none =>
    rw [hname] at h hcontribution
    cases h
    rw [behind_append_of_idle hunit hcontribution hpath]
  | some name =>
    rw [hname] at h hcontribution
    simp only [bind_eq_ok, home_behind_eq_ok_iff hnamed, pure_eq_ok] at h
    obtain ⟨home, hgoverned, rfl⟩ := h
    rw [governor?_eq_homeBehind] at hgoverned
    exact (behind_append_of_contribution hcontribution hpath hgoverned).symm

theorem eq_behind_of_addUse {p : Pass} (hkind : n.kind? = some .use)
    (h : (behind (.ofTree root projectRoot) before).addUse (.ofTree root projectRoot) n = .ok p) :
    p = behind (.ofTree root projectRoot) (before ++ [n]) := by
  simp only [addUse, bind_eq_ok, Node.unitNamed_eq_ok_iff, Node.onlyNames_eq_ok_iff,
    home_behind_eq_ok_iff hnamed, pure_eq_ok] at h
  -- the names were read ahead of the unit, but they do not depend on it
  obtain ⟨_, ⟨target, htarget, rfl⟩, _, ⟨-, rfl⟩, home, hgoverned, rfl⟩ := h
  have hcontribution :
      n.contribution? = some (.use ⟨.ofSpelling target, .ofNames n.onlySymbols⟩) := by
    simp [Node.contribution?, hkind, htarget]
  rw [governor?_eq_homeBehind] at hgoverned
  exact (behind_append_of_contribution hcontribution
    (Node.filePath?_of_kind? hkind (by decide)) hgoverned).symm

include hentry

/-- A visit without a fault goes on as described. -/
theorem eq_behind_of_visit {p : Pass}
    (h : (behind (.ofTree root projectRoot) before).visit (.ofTree root projectRoot) n = .ok p) :
    p = behind (.ofTree root projectRoot) (before ++ [n]) := by
  unfold visit at h
  split at h
  case h_1 hkind => exact eq_behind_of_enterUnit (Node.opensUnit_iff.mpr (.inl hkind)) h
  case h_2 hkind => exact eq_behind_of_enterUnit (Node.opensUnit_iff.mpr (.inr hkind)) h
  case h_6 hkind => exact eq_behind_of_addDeclaration hnamed hentry hkind h
  case h_7 hkind => exact eq_behind_of_addUse hnamed hkind h
  case h_8 hkind =>
    simp only [addFile, bind_eq_ok, Node.require_eq_ok_iff, pure_eq_ok] at h
    obtain ⟨path, hpath, rfl⟩ := h
    rw [behind_append_of_file hkind hpath]
  case h_3 hkind | h_4 hkind | h_5 hkind =>
    exact eq_behind_of_addNamed hnamed (by simp [Node.opensUnit, hkind])
      (Node.filePath?_of_kind? hkind (by decide)) (by simp [Node.contribution?, hkind]) h
  case h_9 hkind | h_10 hkind | h_11 hkind | h_12 hkind =>
    -- passed over here, as the nodes above them have read them
    cases h
    rw [behind_append_of_idle (by simp [Node.opensUnit, hkind])
      (by simp [Node.contribution?, hkind]) (by simp [Node.filePath?, hkind])]

end visit

/-- The visits of a pass keep to the rules and to the description. -/
theorem reading (projectRoot : String) (hentry : ¬ root.EntryUnnamed) :
    Reading (visit (.ofTree root projectRoot)) (behind (.ofTree root projectRoot))
      (FaultAt root) where
  error_iff hnone := visit_behind_eq_error_iff (unitsNamed_of_faultless hnone) hentry
  eq_of_ok hnone := eq_behind_of_visit (unitsNamed_of_faultless hnone) hentry

end Pass

end ModuleCatalog
