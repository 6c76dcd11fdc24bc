/-! # Searching in texts

    Where a mark occurs in a text, seen from the left and from the right. -/

namespace ModuleCatalog.Text

/-- The parts of a text before and after the first occurrence of `mark`, which
    is not empty.  `before` holds what was passed already, in reverse. -/
def splitFirstAfter (mark before : List Char) : List Char → Option (List Char × List Char)
  | [] => none
  | c :: rest =>
    if mark.isPrefixOf (c :: rest) then some (before.reverse, (c :: rest).drop mark.length)
    else splitFirstAfter mark (c :: before) rest

/-- The parts of a text before and after the first occurrence of `mark`. -/
def splitFirst (mark text : List Char) : Option (List Char × List Char) :=
  splitFirstAfter mark [] text

/-- The parts of a text before and after the last occurrence of `mark`: seen
    from the end of the text it is the first one. -/
def splitLast (mark text : List Char) : Option (List Char × List Char) :=
  (splitFirst mark.reverse text.reverse).map fun (after, before) =>
    (before.reverse, after.reverse)

/-- The part of a path behind its last `/`. -/
def lastSegment (path : List Char) : List Char :=
  (path.reverse.takeWhile (· ≠ '/')).reverse

/-- What follows each occurrence of `mark` in a text, later occurrences first
    and before those of `found`.  The text is read from the left, and an
    occurrence that begins within the one before it does not count: `skip`
    characters are still part of the last occurrence. -/
def followersAfter (mark : List Char) (found : List (List Char)) (skip : Nat) :
    List Char → List (List Char)
  | [] => found
  | c :: rest =>
    if 0 < skip then followersAfter mark found (skip - 1) rest
    else if mark.isPrefixOf (c :: rest) then
      followersAfter mark ((c :: rest).drop mark.length :: found) (mark.length - 1) rest
    else followersAfter mark found 0 rest

/-- What follows each occurrence of `mark` in a text, the last occurrence first.
    Occurrences are counted from the left and do not overlap. -/
def followers (mark text : List Char) : List (List Char) :=
  followersAfter mark [] 0 text

end ModuleCatalog.Text
