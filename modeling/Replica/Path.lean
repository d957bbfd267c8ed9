import Replica.Text.Blank
/-!
# Paths

A path is an anchor and a list of names.  Reading a text as a path drops empty and `.` names
and keeps `..`; joining appends the names of the right side, unless that is absolute, which
then replaces the left.  Nothing here looks at a file system.
-/

namespace Replica

/-- Where a path starts.  Exactly two slashes in front make an anchor of their own. -/
inductive Anchor where
  /-- At the working directory. -/
  | relative
  /-- At the top. -/
  | top
  /-- At the top, written with two slashes. -/
  | doubleTop
deriving DecidableEq, Repr

/-- A path: where it starts, and the names to follow from there. -/
structure Path where
  /-- The start. -/
  anchor : Anchor
  /-- The names, from the start on. -/
  names : List String
deriving DecidableEq, Repr

/-- The character that stands between the names of a path. -/
def separator : Char := '/'

namespace Path

/-- The names in the text of a path: the pieces between separators, less the empty ones and the
dots. -/
def namesOf (cs : List Char) : List String :=
  ((Text.splitAt separator cs).filter fun piece => piece ≠ [] ∧ piece ≠ ['.']).map String.ofList

/-- The anchor that the front of a text names. -/
def anchorOf : List Char → Anchor
  | '/' :: '/' :: '/' :: _ => .top
  | '/' :: '/' :: _ => .doubleTop
  | '/' :: _ => .top
  | _ => .relative

/-- The path that a text names. -/
def ofString (s : String) : Path :=
  ⟨anchorOf s.toList, namesOf s.toList⟩

/-- The path `s` as seen from `p`. -/
def join (p : Path) (s : String) : Path :=
  let q := ofString s
  if q.anchor = .relative then ⟨p.anchor, p.names ++ q.names⟩ else q

/-- The text of the anchor. -/
def anchorText : Anchor → String
  | .relative => ""
  | .top => "/"
  | .doubleTop => "//"

/-- The text of a path; the working directory itself is a dot. -/
def text (p : Path) : String :=
  if p.anchor = .relative ∧ p.names = [] then "."
  else anchorText p.anchor ++ "/".intercalate p.names

/-- The path without its last name. -/
def parent (p : Path) : Path := { p with names := p.names.dropLast }

/-- Whether a name of the path holds the null character. -/
def hasNull (p : Path) : Bool := p.names.any fun s => s.toList.contains '\x00'

end Path

end Replica
