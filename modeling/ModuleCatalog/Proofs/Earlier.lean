import ModuleCatalog.Survey.Visit

/-! # What a pass does not look at

    A visit asks a pass for the unit that a node belongs to, opens units, adds
    contributions, and looks at nothing else that the pass has found out.  So
    a change of a pass that these three do not notice is not noticed by a visit
    (`Pass.Unnoticed.visit_eq`).  In particular a visit does the same behind
    other contributions (`Pass.visit_onto`), and so does a run
    (`Pass.run_onto`); and nodes that are no files do not look at the file
    (`Pass.visit_withFile`). -/

namespace ModuleCatalog

namespace Pass

/-! ## Changes that are not noticed -/

/-- A change of passes, and with it of the setting, that is not noticed where a
    node is given its unit, where a unit is opened and where something is
    contributed. -/
structure Unnoticed (setting setting' : Setting) (change : Pass → Pass) : Prop where
  home_eq : ∀ p kind, (change p).home setting' kind = p.home setting kind
  enterUnit_eq : ∀ p kind n, (change p).enterUnit kind n = change <$> p.enterUnit kind n
  contribute_eq : ∀ p home contribution,
    (change p).contribute home contribution = change (p.contribute home contribution)

namespace Unnoticed

variable {setting setting' : Setting} {change : Pass → Pass}

section handlers

variable (h : Unnoticed setting setting' change) (p : Pass) (kind : NodeKind) (n : Node)

include h

/-- Something is contributed to the same unit. -/
theorem contribute_home_eq (contribution : Contribution) :
    (do return (change p).contribute (← (change p).home setting' kind) contribution) =
      change <$>
        (do return p.contribute (← p.home setting kind) contribution : Except TreeFault Pass) := by
  rw [h.home_eq]
  cases p.home setting kind with
  | error fault => rfl
  | ok home => exact congrArg Except.ok (h.contribute_eq p home contribution)

theorem addNamed_eq (contribution : String → Contribution) :
    (change p).addNamed setting' kind n contribution =
      change <$> p.addNamed setting kind n contribution := by
  unfold addNamed
  cases n.attr? "name" with
  | none => rfl
  | some name => exact h.contribute_home_eq p kind (contribution (Text.lower name))

theorem addDeclaration_eq :
    (change p).addDeclaration setting' n = change <$> p.addDeclaration setting n := by
  -- the declaration is read the same, as it is in the same unit
  have hhidden : n.hiddenNames ((change p).home setting' .declaration) =
      n.hiddenNames (p.home setting .declaration) := by rw [h.home_eq]
  unfold addDeclaration
  rw [hhidden]
  cases n.hiddenNames (p.home setting .declaration) with
  | error fault => rfl
  | ok hidden =>
    simp only [bind, Except.bind]
    split
    · rfl
    · exact h.contribute_home_eq p .declaration (.hidden hidden)

theorem addUse_eq : (change p).addUse setting' n = change <$> p.addUse setting n := by
  unfold addUse
  cases n.unitNamed .use with
  | error fault => rfl
  | ok target =>
    cases n.onlyNames with
    | error fault => rfl
    | ok names => exact h.contribute_home_eq p .use (.use ⟨target, .ofNames names⟩)

/-- A visit does not notice the change either, if the path of a file node is
    taken the same. -/
theorem visit_eq
    (hfile : n.kind? = some .file →
      (change p).addFile setting' n = change <$> p.addFile setting n) :
    (change p).visit setting' n = change <$> p.visit setting n := by
  unfold visit
  split
  case h_1 | h_2 => exact h.enterUnit_eq ..
  case h_3 | h_4 | h_5 => exact h.addNamed_eq ..
  case h_6 => exact h.addDeclaration_eq ..
  case h_7 => exact h.addUse_eq ..
  case h_8 hkind => exact hfile hkind
  -- the other kinds are passed over
  all_goals rfl

end handlers

end Unnoticed

/-! ## Behind other contributions -/

variable {setting : Setting}

/-- The pass with some contributions ahead of its own. -/
def onto (p : Pass) (earlier : List (ModuleName × Contribution)) : Pass :=
  { p with contributions := p.contributions ++ earlier }

theorem unnoticed_onto (setting : Setting) (earlier : List (ModuleName × Contribution)) :
    Unnoticed setting setting (·.onto earlier) where
  home_eq _ _ := rfl
  enterUnit_eq p kind n := by
    unfold enterUnit
    cases n.unitNamed kind <;> rfl
  contribute_eq _ _ _ := rfl

/-- A visit does the same behind other contributions. -/
theorem visit_onto (p : Pass) (earlier : List (ModuleName × Contribution)) (n : Node) :
    (p.onto earlier).visit setting n = (·.onto earlier) <$> p.visit setting n := by
  refine (unnoticed_onto setting earlier).visit_eq p n fun _ => ?_
  unfold addFile
  cases n.require .file "path" <;> rfl

/-- A run does the same behind other contributions. -/
theorem run_onto (nodes : List Node) (p : Pass) (earlier : List (ModuleName × Contribution)) :
    nodes.foldlM (visit setting) (p.onto earlier) =
      (·.onto earlier) <$> nodes.foldlM (visit setting) p := by
  induction nodes generalizing p with
  | nil => rfl
  | cons n nodes ih =>
    rw [List.foldlM_cons, List.foldlM_cons, visit_onto]
    cases p.visit setting n with
    | error fault => rfl
    | ok q => exact ih q

/-! ## With another file -/

/-- The pass with another file. -/
def withFile (p : Pass) (file : SourceFile) : Pass := { p with file := file }

theorem unnoticed_withFile (root root' : String) (entry : Option ModuleName) (file : SourceFile) :
    Unnoticed ⟨root, entry⟩ ⟨root', entry⟩ (·.withFile file) where
  home_eq _ _ := rfl
  enterUnit_eq p kind n := by
    unfold enterUnit
    cases n.unitNamed kind <;> rfl
  contribute_eq _ _ _ := rfl

/-- Nodes that are no files look neither at the file nor at the name of the
    project directory. -/
theorem visit_withFile (root root' : String) (entry : Option ModuleName) (p : Pass)
    (file : SourceFile) {n : Node} (hkind : n.kind? ≠ some .file) :
    (p.withFile file).visit ⟨root', entry⟩ n = (·.withFile file) <$> p.visit ⟨root, entry⟩ n :=
  (unnoticed_withFile root root' entry file).visit_eq p n fun hfile => absurd hfile hkind

end Pass

end ModuleCatalog
