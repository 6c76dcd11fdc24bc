import ModuleCatalog.Proofs.Imports
import ModuleCatalog.Proofs.Rendering

/-! # What a rendered catalog tells

    Two catalogs are rendered as the same text exactly when they agree in all
    but their use clauses, and these are shown alike one by one
    (`Catalog.render_eq_iff`).  A clause without a list is shown with a lone
    star, and so is a clause whose list is a lone star.  The imports of the
    catalog of a tree still tell how many of either kind there are on each
    target, but not where they stand. -/

namespace ModuleCatalog

open Json (Value)

/-! ## Values with the same text -/

namespace Json

theorem Token.map_some_injective {τ : Type u} {s t : Token τ} (h : s.map some = t.map some) :
    s = t := by
  cases s <;> cases t <;> simp_all [Token.map]

/-- A value is told from the value whose literals name its texts. -/
theorem Value.map_some_injective {τ : Type u} {v w : Value τ} (h : v.map some = w.map some) :
    v = w := by
  have htokens : v.tokens.map (Token.map some) = w.tokens.map (Token.map some) := by
    rw [← Value.tokens_map, ← Value.tokens_map, h]
  have hsame : v.tokens = w.tokens :=
    (List.map_inj_right fun _ _ => Token.map_some_injective).mp htokens
  have hread := Value.ofTokens?_tokens v
  rw [hsame, Value.ofTokens?_tokens] at hread
  exact (Option.some.inj hread).symm

end Json

theorem textValue?_inj {s? t? : Option String} : textValue? s? = textValue? t? ↔ s? = t? := by
  cases s? <;> cases t? <;> simp [textValue?]

theorem textsValue_inj {texts texts' : List String} :
    textsValue texts = textsValue texts' ↔ texts = texts' := by
  rw [textsValue, textsValue, Value.array.injEq]
  exact List.map_inj_right fun _ _ => Value.string.inj

theorem symbolsValue_inj {symbols symbols' : SymbolSet} :
    symbolsValue symbols = symbolsValue symbols' ↔ symbols = symbols' := by
  rw [symbolsValue, symbolsValue, textsValue_inj, Std.ExtTreeSet.toList_inj]

/-- The value of a table tells the value of each row. -/
theorem tableValue_eq_iff {β : Type} {toValue : β → Value String}
    {table table' : Std.ExtTreeMap ModuleName β} :
    tableValue toValue table = tableValue toValue table' ↔
      ∀ name : ModuleName, table[name]?.map toValue = table'[name]?.map toValue := by
  have hrow : ∀ table : Std.ExtTreeMap ModuleName β, tableValue toValue table =
      .object ((table.map fun _ => toValue).toList.map fun (name, value) => (name.text, value)) := by
    intro table
    rw [tableValue, Std.ExtTreeMap.toList_map, List.map_map]
    rfl
  have hname : ∀ row row' : ModuleName × Value String,
      (row.1.text, row.2) = (row'.1.text, row'.2) → row = row' := by
    intro row row' h
    obtain ⟨htext, hvalue⟩ := Prod.mk.inj h
    exact Prod.ext (ModuleName.ext htext) hvalue
  rw [hrow, hrow, Value.object.injEq, List.map_inj_right hname, Std.ExtTreeMap.toList_inj]
  constructor
  · intro h name
    rw [← Std.ExtTreeMap.getElem?_map (f := fun _ => toValue), h, Std.ExtTreeMap.getElem?_map]
  · intro h
    refine Std.ExtTreeMap.ext_getElem? fun name => ?_
    rw [Std.ExtTreeMap.getElem?_map, Std.ExtTreeMap.getElem?_map, h]

/-- A table is told from its value if the rows are. -/
theorem tableValue_inj {β : Type} {toValue : β → Value String}
    (hinj : ∀ {row row'}, toValue row = toValue row' → row = row')
    {table table' : Std.ExtTreeMap ModuleName β} :
    tableValue toValue table = tableValue toValue table' ↔ table = table' := by
  rw [tableValue_eq_iff]
  constructor
  · intro h
    refine Std.ExtTreeMap.ext_getElem? fun name => ?_
    exact Option.map_injective (fun _ _ => hinj) (h name)
  · rintro rfl name
    rfl

theorem Import.toValue_inj {i j : Import} (h : i.toValue = j.toValue) : i = j := by
  obtain ⟨target, symbols⟩ := i
  obtain ⟨target', symbols'⟩ := j
  simp only [Import.toValue, Value.object.injEq, List.cons.injEq, Prod.mk.injEq, and_true,
    symbolsValue_inj] at h
  obtain ⟨htarget, rfl⟩ := h
  rw [ModuleName.ext htarget]

theorem SourceFile.toValue_inj {file file' : SourceFile} :
    file.toValue = file'.toValue ↔ file = file' := by
  obtain ⟨name, directory⟩ := file
  obtain ⟨name', directory'⟩ := file'
  simp [SourceFile.toValue, textValue?_inj]

/-! ## Use clauses that are shown alike -/

namespace UseClause

/-- The clause that asks for everything of a target. -/
def whole (target : ModuleName) : UseClause := ⟨target, .everything⟩

/-- The clause that asks for a lone star of a target. -/
def star (target : ModuleName) : UseClause := ⟨target, .only ["*"]⟩

/-- Two clauses are the same, or one of them asks for everything of a target
    and the other one for a lone star. -/
def ShownAlike (u v : UseClause) : Prop :=
  u = v ∨ ∃ target, u = whole target ∧ v = star target ∨ u = star target ∧ v = whole target

theorem ShownAlike.refl (u : UseClause) : u.ShownAlike u := .inl rfl

/-- Clauses with the same value are shown alike, and the other way round. -/
theorem toValue_eq_iff {u v : UseClause} : u.toValue = v.toValue ↔ u.ShownAlike v := by
  obtain ⟨target, selection⟩ := u
  obtain ⟨target', selection'⟩ := v
  constructor
  · intro h
    simp only [toValue, Value.object.injEq, List.cons.injEq, Prod.mk.injEq, and_true,
      textsValue_inj] at h
    obtain ⟨htarget, htexts⟩ := h
    obtain rfl := ModuleName.ext htarget
    cases selection with
    | everything =>
      cases selection' with
      | everything => exact .refl _
      | only names =>
        obtain rfl : ["*"] = names := htexts
        exact .inr ⟨target, .inl ⟨rfl, rfl⟩⟩
    | only names =>
      cases selection' with
      | everything =>
        obtain rfl : names = ["*"] := htexts
        exact .inr ⟨target, .inr ⟨rfl, rfl⟩⟩
      | only names' =>
        obtain rfl : names = names' := htexts
        exact .refl _
  · rintro (h | ⟨target, ⟨hu, hv⟩ | ⟨hu, hv⟩⟩)
    · rw [h]
    · rw [hu, hv]
      rfl
    · rw [hu, hv]
      rfl

/-! ### Lists of clauses that are shown alike -/

variable {us vs : List UseClause} {exports : SymbolTable} {target : ModuleName}

theorem map_toValue_eq_iff : us.map toValue = vs.map toValue ↔ List.Forall₂ ShownAlike us vs := by
  rw [← List.forall₂_eq_eq_eq, List.forall₂_map_left_iff, List.forall₂_map_right_iff]
  simp only [toValue_eq_iff]

/-- Of the clauses with a star on a target there are as many in both lists. -/
theorem count_starred (h : List.Forall₂ ShownAlike us vs) (target : ModuleName) :
    us.count (whole target) + us.count (star target) =
      vs.count (whole target) + vs.count (star target) := by
  induction h with
  | nil => rfl
  | @cons u v us vs halike _ ih =>
    simp only [List.count_cons]
    rcases halike with rfl | ⟨target', ⟨rfl, rfl⟩ | ⟨rfl, rfl⟩⟩
    · omega
    · by_cases htarget : target' = target
      · simp [whole, star, htarget] at ih ⊢
        omega
      · simp [whole, star, htarget] at ih ⊢
        omega
    · by_cases htarget : target' = target
      · simp [whole, star, htarget] at ih ⊢
        omega
      · simp [whole, star, htarget] at ih ⊢
        omega

/-- What clauses bring in tells how many of them ask for everything of a
    target: a lone star brings in nothing. -/
theorem count_whole_add (exports : SymbolTable) (h : List.Forall₂ ShownAlike us vs)
    (target : ModuleName) :
    (us.filterMap (Survey.resolveUse exports)).countP (·.target = target) +
        vs.count (whole target) =
      (vs.filterMap (Survey.resolveUse exports)).countP (·.target = target) +
        us.count (whole target) := by
  have hwhole : ∀ target', Survey.resolveUse exports (whole target') =
      some ⟨target', exports[target']?.getD ∅⟩ := fun target' => rfl
  have hstar : ∀ target', Survey.resolveUse exports (star target') = none := fun target' => rfl
  induction h with
  | nil => rfl
  | @cons u v us vs halike _ ih =>
    rw [List.count_cons, List.count_cons]
    rcases halike with rfl | ⟨target', ⟨rfl, rfl⟩ | ⟨rfl, rfl⟩⟩
    · cases hresolved : Survey.resolveUse exports u with
      | none =>
        rw [List.filterMap_cons_none hresolved, List.filterMap_cons_none hresolved]
        omega
      | some i =>
        rw [List.filterMap_cons_some hresolved, List.filterMap_cons_some hresolved,
          List.countP_cons, List.countP_cons]
        omega
    · rw [List.filterMap_cons_some (hwhole target'), List.filterMap_cons_none (hstar target'),
        List.countP_cons]
      by_cases htarget : target' = target
      · simp [whole, star, htarget] at ih ⊢
        omega
      · simp [whole, star, htarget] at ih ⊢
        omega
    · rw [List.filterMap_cons_some (hwhole target'), List.filterMap_cons_none (hstar target'),
        List.countP_cons]
      by_cases htarget : target' = target
      · simp [whole, star, htarget] at ih ⊢
        omega
      · simp [whole, star, htarget] at ih ⊢
        omega

/-- Clauses that are shown alike one by one are the same if those among them
    are that occur in both lists. -/
theorem eq_of_forall₂ (h : List.Forall₂ ShownAlike us vs)
    (hsame : ∀ u ∈ us, ∀ v ∈ vs, u.ShownAlike v → u = v) : us = vs := by
  induction h with
  | nil => rfl
  | cons halike _ ih =>
    have hhead := hsame _ List.mem_cons_self _ List.mem_cons_self halike
    have htail := ih fun u hu v hv =>
      hsame u (List.mem_cons_of_mem _ hu) v (List.mem_cons_of_mem _ hv)
    rw [hhead, htail]

/-- Where no target is used in both ways, the number of clauses that ask for
    everything tells which ones do. -/
theorem eq_of_count_eq (h : List.Forall₂ ShownAlike us vs)
    (hcount : ∀ target, us.count (whole target) = vs.count (whole target))
    (hapart : ∀ target, whole target ∈ us → star target ∉ us) : us = vs := by
  refine eq_of_forall₂ h ?_
  intro u hu v hv halike
  rcases halike with huv | ⟨target, ⟨hu', hv'⟩ | ⟨hu', hv'⟩⟩
  · exact huv
  all_goals
    have hwhole := hcount target
    have hstarred := count_starred h target
    subst hu' hv'
  · -- a lone star of the second list has to be matched by one of the first list
    have hstar : 0 < vs.count (star target) := List.count_pos_iff.mpr hv
    have hstar' : star target ∈ us := List.count_pos_iff.mp (by omega)
    exact absurd hstar' (hapart target hu)
  · have hwhole' : 0 < vs.count (whole target) := List.count_pos_iff.mpr hv
    have hwhole'' : whole target ∈ us := List.count_pos_iff.mp (by omega)
    exact absurd hu (hapart target hwhole'')

end UseClause

/-! ## Catalogs with the same text -/

namespace Catalog

/-- Two catalogs agree in all but their use clauses, and these are shown alike
    one by one. -/
structure ShownAlike (a b : Catalog) : Prop where
  file_eq : a.file = b.file
  modules_eq : a.modules = b.modules
  exports_eq : a.exports = b.exports
  imports_eq : a.imports = b.imports
  hidden_eq : a.hidden = b.hidden
  variableNames_eq : a.variableNames = b.variableNames
  subprograms_eq : a.subprograms = b.subprograms
  symbols_eq : a.symbols = b.symbols
  mem_uses_iff : ∀ name, name ∈ a.uses ↔ name ∈ b.uses
  uses : ∀ name : ModuleName,
    List.Forall₂ UseClause.ShownAlike (a.uses[name]?.getD []) (b.uses[name]?.getD [])

variable {a b c : Catalog} {root root' : Node} {projectRoot projectRoot' : String}

/-- Tables of use clauses have the same value exactly when their clauses are
    shown alike. -/
theorem uses_value_eq_iff {uses uses' : Std.ExtTreeMap ModuleName (List UseClause)} :
    tableValue (fun clauses : List UseClause => .array (clauses.map UseClause.toValue)) uses =
        tableValue (fun clauses : List UseClause => .array (clauses.map UseClause.toValue)) uses' ↔
      (∀ name, name ∈ uses ↔ name ∈ uses') ∧
        ∀ name : ModuleName,
          List.Forall₂ UseClause.ShownAlike (uses[name]?.getD []) (uses'[name]?.getD []) := by
  rw [tableValue_eq_iff, ← forall_and]
  refine forall_congr' fun name => ?_
  rw [Std.ExtTreeMap.mem_iff_isSome_getElem?, Std.ExtTreeMap.mem_iff_isSome_getElem?]
  cases uses[name]? with
  | none =>
    cases uses'[name]? with
    | none => simp
    | some clauses' => simp
  | some clauses =>
    cases uses'[name]? with
    | none => simp
    | some clauses' => simp [UseClause.map_toValue_eq_iff]

theorem toValue_eq_iff : a.toValue = b.toValue ↔ a.ShownAlike b := by
  have hsymbols : ∀ {symbols symbols' : SymbolSet},
      symbolsValue symbols = symbolsValue symbols' → symbols = symbols' := symbolsValue_inj.mp
  have himports : ∀ {row row' : List Import},
      Value.array (row.map Import.toValue) = Value.array (row'.map Import.toValue) → row = row' :=
    fun h => (List.map_inj_right fun _ _ => Import.toValue_inj).mp (Value.array.inj h)
  have hmodules : ∀ {names names' : List ModuleName},
      names.map ModuleName.text = names'.map ModuleName.text ↔ names = names' :=
    List.map_inj_right fun _ _ => ModuleName.ext
  simp only [toValue, Value.object.injEq, List.cons.injEq, Prod.mk.injEq, true_and, and_true,
    SourceFile.toValue_inj, textsValue_inj, hmodules, tableValue_inj hsymbols,
    tableValue_inj himports, uses_value_eq_iff]
  constructor
  · rintro ⟨hfile, hmodules, hexports, ⟨hmem, huses⟩, himports, hhidden, hvariables, hsubprograms,
      hsymbols⟩
    exact ⟨hfile, hmodules, hexports, himports, hhidden, hvariables, hsubprograms, hsymbols, hmem,
      huses⟩
  · rintro ⟨hfile, hmodules, hexports, himports, hhidden, hvariables, hsubprograms, hsymbols, hmem,
      huses⟩
    exact ⟨hfile, hmodules, hexports, ⟨hmem, huses⟩, himports, hhidden, hvariables, hsubprograms,
      hsymbols⟩

/-- A single catalog is rendered as the same text as another one exactly when
    the two are shown alike. -/
theorem render_eq_iff {pretty : Bool} : render [a] pretty = render [b] pretty ↔ a.ShownAlike b := by
  rw [← toValue_eq_iff]
  constructor
  · intro h
    have hread := read_render [a] pretty
    rw [h, read_render [b] pretty] at hread
    exact (Json.Value.map_some_injective (Except.ok.inj hread)).symm
  · intro h
    show Value.write a.toValue pretty = Value.write b.toValue pretty
    rw [h]

/-- The imports of the catalog of a tree are what its use clauses come to. -/
theorem getD_imports_of_ofTree (h : ofTree root projectRoot = .ok c) (name : ModuleName) :
    c.imports[name]?.getD [] =
      (c.uses[name]?.getD []).filterMap (Survey.resolveUse c.exports) := by
  obtain ⟨-, rfl⟩ := ofTree_eq_ok_iff.mp h
  rw [getElem?_imports_ofSurvey, getElem?_uses_ofSurvey, Survey.getD_nonempty?,
    Survey.getD_nonempty?]

namespace ShownAlike

/-- Catalogs of trees that are shown alike ask for everything of each target
    the same number of times. -/
theorem count_whole (h : a.ShownAlike b) (ha : ofTree root projectRoot = .ok a)
    (hb : ofTree root' projectRoot' = .ok b) (name target : ModuleName) :
    (a.uses[name]?.getD []).count (.whole target) =
      (b.uses[name]?.getD []).count (.whole target) := by
  have himports := congrArg (fun imports : ImportTable => imports[name]?.getD []) h.imports_eq
  simp only [getD_imports_of_ofTree ha, getD_imports_of_ofTree hb, h.exports_eq] at himports
  have hcount := UseClause.count_whole_add b.exports (h.uses name) target
  rw [himports] at hcount
  omega

/-- Catalogs of trees that are shown alike are the same, if no unit of one of
    them uses a target in both ways. -/
theorem eq_of_apart (h : a.ShownAlike b) (ha : ofTree root projectRoot = .ok a)
    (hb : ofTree root' projectRoot' = .ok b)
    (hapart : ∀ name target : ModuleName, UseClause.whole target ∈ a.uses[name]?.getD [] →
      UseClause.star target ∉ a.uses[name]?.getD []) : a = b := by
  have huses : a.uses = b.uses := by
    refine Std.ExtTreeMap.ext_getElem? fun name => ?_
    have hclauses := UseClause.eq_of_count_eq (h.uses name) (h.count_whole ha hb name)
      (hapart name)
    have hmem := h.mem_uses_iff name
    rw [Std.ExtTreeMap.mem_iff_isSome_getElem?, Std.ExtTreeMap.mem_iff_isSome_getElem?] at hmem
    cases huses : a.uses[name]? with
    | none => cases huses' : b.uses[name]? <;> simp_all
    | some clauses => cases huses' : b.uses[name]? <;> simp_all
  obtain ⟨file, modules, exports, uses, imports, hidden, variableNames, subprograms, symbols⟩ := a
  obtain ⟨file', modules', exports', uses', imports', hidden', variableNames', subprograms',
    symbols'⟩ := b
  obtain ⟨rfl, rfl, rfl, rfl, rfl, rfl, rfl, rfl, -, -⟩ := h
  obtain rfl : uses = uses' := huses
  rfl

end ShownAlike

/-- When the catalogs of two trees are rendered as the same text, they agree in
    all but their use clauses.  These stand under the same names, as many under
    each, and one by one they are the same, but for one of them asking for
    everything of a target where the other one asks for a lone star.  Of each
    target as many clauses of a unit ask for everything in both catalogs, and
    the catalogs are the same if one of them has no unit that uses a target in
    both ways. -/
theorem shownAlike_of_render_eq (ha : ofTree root projectRoot = .ok a)
    (hb : ofTree root' projectRoot' = .ok b) {pretty : Bool}
    (h : render [a] pretty = render [b] pretty) :
    a.ShownAlike b ∧
    (∀ name target : ModuleName, (a.uses[name]?.getD []).count (.whole target) =
      (b.uses[name]?.getD []).count (.whole target)) ∧
    (∀ c, c = a ∨ c = b →
      (∀ name target : ModuleName, UseClause.whole target ∈ c.uses[name]?.getD [] →
        UseClause.star target ∉ c.uses[name]?.getD []) → a = b) := by
  have halike := render_eq_iff.mp h
  refine ⟨halike, halike.count_whole ha hb, ?_⟩
  rintro c (rfl | rfl) hapart
  · exact halike.eq_of_apart ha hb hapart
  · exact ((render_eq_iff.mp h.symm).eq_of_apart hb ha hapart).symm

/-- A module that uses another one first as a whole and then with a lone star,
    or the other way round. -/
def sampleUser (wholeFirst : Bool) : Node :=
  let use := fun items => Node.mk (NodeKind.tag .use) (.ofList [("name", "lib")]) items
  let whole := use []
  let star := use [⟨NodeKind.tag .only, ∅, [⟨NodeKind.tag .name, .ofList [("id", "*")], []⟩]⟩]
  { tag := NodeKind.tag .module
    attrs := .ofList [("name", "main")]
    children := if wholeFirst then [whole, star] else [star, whole] }

/-- Either module uses the other one once as a whole, as their common text tells. -/
theorem shownAlike_of_render_eq_sampleUser :
    ∃ a b, ofTree (sampleUser true) = .ok a ∧ ofTree (sampleUser false) = .ok b ∧
      render [a] true = render [b] true ∧ a.ShownAlike b ∧
      (b.uses[ModuleName.ofSpelling "main"]?.getD []).count (.whole (.ofSpelling "lib")) = 1 := by
  obtain ⟨a, ha⟩ := exists_eq_ok_of_isOk (x := ofTree (sampleUser true)) (by decide +kernel)
  obtain ⟨b, hb⟩ := exists_eq_ok_of_isOk (x := ofTree (sampleUser false)) (by decide +kernel)
  have hrender : render [a] true = render [b] true := by
    rw [(ofTree_eq_ok_iff.mp ha).2, (ofTree_eq_ok_iff.mp hb).2]
    decide +kernel
  obtain ⟨halike, hcount, -⟩ := shownAlike_of_render_eq ha hb hrender
  refine ⟨a, b, ha, hb, hrender, halike, ?_⟩
  rw [← hcount, (ofTree_eq_ok_iff.mp ha).2]
  decide +kernel

/-- The text does not tell which of two clauses on a target asks for everything
    and which for a lone star: two trees with different catalogs are rendered
    as the same text. -/
theorem exists_render_eq_ne :
    ∃ a b, ofTree (sampleUser true) = .ok a ∧ ofTree (sampleUser false) = .ok b ∧
      (∀ pretty, render [a] pretty = render [b] pretty) ∧
      a.uses[ModuleName.ofSpelling "main"]? =
        some [.whole (.ofSpelling "lib"), .star (.ofSpelling "lib")] ∧
      b.uses[ModuleName.ofSpelling "main"]? =
        some [.star (.ofSpelling "lib"), .whole (.ofSpelling "lib")] ∧
      a ≠ b := by
  obtain ⟨a, ha⟩ := exists_eq_ok_of_isOk (x := ofTree (sampleUser true)) (by decide +kernel)
  obtain ⟨b, hb⟩ := exists_eq_ok_of_isOk (x := ofTree (sampleUser false)) (by decide +kernel)
  have ha' := (ofTree_eq_ok_iff.mp ha).2
  have hb' := (ofTree_eq_ok_iff.mp hb).2
  have hcompact : render [a] false = render [b] false := by
    rw [ha', hb']
    decide +kernel
  have huses : a.uses[ModuleName.ofSpelling "main"]? =
      some [.whole (.ofSpelling "lib"), .star (.ofSpelling "lib")] := by
    rw [ha']
    decide +kernel
  have huses' : b.uses[ModuleName.ofSpelling "main"]? =
      some [.star (.ofSpelling "lib"), .whole (.ofSpelling "lib")] := by
    rw [hb']
    decide +kernel
  refine ⟨a, b, ha, hb, ?_, huses, huses', ?_⟩
  · intro pretty
    exact render_eq_iff.mpr (render_eq_iff.mp hcompact)
  · rintro rfl
    rw [huses] at huses'
    simp [UseClause.whole, UseClause.star] at huses'

end Catalog

end ModuleCatalog
