import ModuleCatalog.Text.Search

/-! # Encodings of tree files

    A tree file holds XML or JSON; the extension of its name tells which. -/

namespace ModuleCatalog

/-- How a tree is written in a file. -/
inductive Encoding where
  | xml
  | json
deriving DecidableEq, Repr

namespace Encoding

/-- A path read from its end, without the separators and the separators with
    a lone dot that stand behind the last name. -/
def dropTrailing : List Char → List Char
  | '/' :: rest => dropTrailing rest
  | '.' :: '/' :: rest => dropTrailing ('/' :: rest)
  | path => path
termination_by path => path.length

/-- The extension of the last name of a path: what stands behind its last dot,
    if something stands before that dot.  The parent directory has none. -/
def extension? (path : String) : Option (List Char) :=
  let name := (dropTrailing path.toList.reverse).takeWhile (· ≠ '/')
  if name = ['.', '.'] then none
  else
    match name.span (· ≠ '.') with
    | (_, []) | (_, ['.']) => none
    | (extension, _) => some extension.reverse

/-- Files whose extension is `json`, in any letter case, hold JSON; all others
    hold XML. -/
def ofPath (path : String) : Encoding :=
  match extension? path with
  | some extension =>
    if extension.map Char.toLower = "json".toList then json else xml
  | none => xml

end Encoding

end ModuleCatalog
