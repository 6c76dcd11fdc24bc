import ModuleCatalog.Text.Search
import ModuleCatalog.Text.WordCharacter

/-! # The file behind a tree

    A front end writes the tree of `model.f90` as `model_processed.f90` or the
    like, beside the source, and records that path in the tree.  From the path
    come the name of the source file and the directory of the file from the
    root of the project on.  Either may be missing. -/

namespace ModuleCatalog

/-- What is known of the file that a tree was made from. -/
structure SourceFile where
  /-- Its name, without directories. -/
  name : Option String := none
  /-- Its directory, from the root of the project on. -/
  directory : Option String := none
deriving DecidableEq

namespace SourceFile

/-- The name of the project directory, unless another one is asked for. -/
def defaultRoot : String := "delphi"

/-- What a front end puts between the stem of a file name and its extension. -/
def processedMark : List Char := "_processed.".toList

/-- The name of the source file behind a tree file: the last segment of the
    path without its last mark.  A segment without a mark is no tree file. -/
def name? (path : String) : Option String :=
  (Text.splitLast processedMark (Text.lastSegment path.toList)).map fun (stem, extension) =>
    String.ofList (stem ++ '.' :: extension)

/-- Whether a text begins with a word character. -/
def beginsWord : List Char → Bool
  | [] => false
  | c :: _ => Text.isWordCharacter c

/-- The part of a text before its last `/` that a word character follows.
    `passed` was read already, in reverse; `best` is the part found so far, in
    reverse. -/
def beforeLastWordFrom (passed : List Char) (best : Option (List Char)) :
    List Char → Option (List Char)
  | [] => best.map List.reverse
  | c :: rest =>
    beforeLastWordFrom (c :: passed)
      (if c = '/' && beginsWord rest then some passed else best) rest

/-- The part of a text before its last `/` that a word character follows. -/
def beforeLastWord? (text : List Char) : Option (List Char) :=
  beforeLastWordFrom [] none text

/-- The directory that begins with `root` and a `/` and goes on with `after`.
    The first character after the root must not occur in the root, and the
    directory ends before the last `/` that a word character follows. -/
def directoryAfter? (root : List Char) : List Char → Option (List Char)
  | [] => none
  | c :: rest =>
    if c ∈ root then none
    else (beforeLastWord? rest).map fun middle => root ++ '/' :: c :: middle

/-- The directory of a file within the project: it begins at the last place
    where the root of the project occurs and such a directory exists.  Without
    a root there is none. -/
def directory? (path root : String) : Option String :=
  if root.isEmpty then none
  else
    (Text.followers (root.toList ++ ['/']) path.toList).findSome? (directoryAfter? root.toList)
      |>.map String.ofList

/-- The file as known after one more path has been seen: a part that can be
    told from the new path replaces the old one, the other stays. -/
def learn (file : SourceFile) (root path : String) : SourceFile where
  name := (name? path).or file.name
  directory := (directory? path root).or file.directory

end SourceFile

end ModuleCatalog
