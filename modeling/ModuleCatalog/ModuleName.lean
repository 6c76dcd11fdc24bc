import Std.Data.ExtTreeMap
import ModuleCatalog.Text.LetterCase
import ModuleCatalog.Text.Quoted

/-! # Names of program units

    Modules and programs are named without regard to letter case.  A
    `ModuleName` is the lower-case form of a spelling, so two spellings of one
    name never make two keys: equality and order are those of the text. -/

namespace ModuleCatalog

/-- The name of a module or program: a text that is its own lower case. -/
structure ModuleName where
  text : String
  lower_text : Text.lower text = text
deriving DecidableEq

namespace ModuleName

/-- The name that a spelling stands for. -/
def ofSpelling (spelling : String) : ModuleName where
  text := Text.lower spelling
  lower_text := Text.lower_lower spelling

/-- The name that reads exactly `text`, if there is one. -/
def ofText? (text : String) : Option ModuleName :=
  if h : Text.lower text = text then some ⟨text, h⟩ else none

/-- A name as diagnostics show it. -/
def inspect (name : ModuleName) : String :=
  "ModuleName(" ++ Text.quoted name.text ++ ")"

/-- Names with equal texts are equal. -/
@[ext] theorem ext {m n : ModuleName} (h : m.text = n.text) : m = n := by
  cases m; cases n; cases h; rfl

@[simp] theorem text_ofSpelling (spelling : String) :
    (ofSpelling spelling).text = Text.lower spelling := rfl

/-- Spelling a name out and reading the spelling gives the name back. -/
@[simp] theorem ofSpelling_text (name : ModuleName) : ofSpelling name.text = name :=
  ext name.lower_text

/-- A spelling stands for the same name as its lower case. -/
@[simp] theorem ofSpelling_lower (spelling : String) :
    ofSpelling (Text.lower spelling) = ofSpelling spelling :=
  ext (Text.lower_lower spelling)

/-- Two spellings stand for one name when their lower-case forms agree. -/
theorem ofSpelling_eq_iff (s t : String) :
    ofSpelling s = ofSpelling t ↔ Text.lower s = Text.lower t :=
  ⟨fun h => congrArg text h, fun h => ext h⟩

theorem ofText?_eq_some_iff {text : String} {name : ModuleName} :
    ofText? text = some name ↔ name.text = text := by
  unfold ofText?
  constructor
  · intro h
    split at h
    · rw [← Option.some.inj h]
    · cases h
  · rintro rfl
    rw [dif_pos name.lower_text]

/-! ## Order -/

instance : Ord ModuleName where
  compare m n := compare m.text n.text

instance : Std.TransOrd ModuleName where
  eq_swap {a b} := @Std.OrientedOrd.eq_swap String _ _ a.text b.text
  isLE_trans {a b c} := @Std.TransOrd.isLE_trans String _ _ a.text b.text c.text

instance : Std.LawfulEqOrd ModuleName where
  eq_of_compare h := ext (Std.LawfulEqOrd.eq_of_compare h)
  compare_self {a} := @Std.ReflOrd.compare_self String _ _ a.text

end ModuleName

end ModuleCatalog
