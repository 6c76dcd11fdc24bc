import ModuleCatalog.SourceFile
import ModuleCatalog.Survey.Record

/-! # Surveys

    A survey is what one pass over a program tree finds out: which units the
    tree opens, what each of them holds, and which file the tree comes from. -/

namespace ModuleCatalog

/-- The result of one pass over a program tree. -/
structure Survey where
  /-- The modules and programs, in the order in which they first appear. -/
  modules : List ModuleName := []
  /-- A record for every unit that holds a symbol or a use clause. -/
  records : RecordBook := {}
  /-- What is known of the source file. -/
  file : SourceFile := {}

namespace Survey

/-- The record of a unit, if it holds anything. -/
def record? (s : Survey) (name : ModuleName) : Option UnitRecord :=
  s.records.find? name

end Survey

end ModuleCatalog
