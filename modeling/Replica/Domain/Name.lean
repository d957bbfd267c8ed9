import Replica.Domain.Label
import Replica.Text.Blank
/-!
# Domain names

A domain name is a list of labels with dots between them; a dot may stand at the end.  Beyond
ASCII there are other characters that count as dots.

* `Name.toAscii`: a name in ASCII.
* `Name.check`: whether the labels of a name in ASCII stand for labels.
-/

namespace Replica.Domain.Name

/-- Whether the character counts as a dot. -/
def isDot (c : Char) : Bool := c == '.' || c == '\u3002' || c == '\uFF0E' || c == '\uFF61'

/-- The most characters of a name without a dot at its end. -/
def maxLength : Nat := 253

/-- The labels of a name, and whether a dot stands at its end. -/
def labelsOf (name : List Char) : List (List Char) × Bool :=
  let pieces := Text.splitAt '.' (name.map fun c => if isDot c then '.' else c)
  if pieces.getLast? = some [] then (pieces.dropLast, true) else (pieces, false)

/-- A name in ASCII. -/
def toAscii (name : List Char) : Except LabelFault (List Char) := do
  if maxLength + 1 < name.length then .error .nameTooLong
  let (labels, dotted) := labelsOf name
  let labels ← labels.mapM Label.toAscii
  let ascii := ['.'].intercalate labels ++ (if dotted then ['.'] else [])
  if maxLength + (if dotted then 1 else 0) < ascii.length then .error .nameTooLong
  return ascii

/-- Checks that the labels of a name in ASCII stand for labels. -/
def check (name : List Char) : Except LabelFault PUnit := do
  if maxLength + 1 < name.length then .error .nameTooLong
  let _ ← (labelsOf name).1.mapM Label.ofAscii

end Replica.Domain.Name
