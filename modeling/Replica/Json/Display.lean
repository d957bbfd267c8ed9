import Replica.Json.Basic
/-!
# JSON values in messages

A value inside a message is written on one line: a text stands for itself, and inside a list or
an object it is quoted.  The constants are written `None`, `True` and `False`.
-/

namespace Replica.Json

mutual

/-- The value as it stands inside a list or an object. -/
def quotedText : Json → String
  | .null => "None"
  | .bool b => if b then "True" else "False"
  | .number n => n.text
  | .string s => Text.quoted s
  | .unwritable t => String.ofList (Text.quotedCodePoints t.points)
  | .array items => quotedItems "[" items ++ "]"
  | .object fields => quotedFields "\x7b" fields ++ "\x7d"

/-- The items after what is written so far, with commas between them. -/
def quotedItems (written : String) : List Json → String
  | [] => written
  | [v] => written ++ quotedText v
  | v :: w :: rest => quotedItems (written ++ quotedText v ++ ", ") (w :: rest)

/-- The fields after what is written so far, with commas between them. -/
def quotedFields (written : String) : List (String × Json) → String
  | [] => written
  | [(k, v)] => written ++ Text.quoted k ++ ": " ++ quotedText v
  | (k, v) :: f :: rest =>
    quotedFields (written ++ Text.quoted k ++ ": " ++ quotedText v ++ ", ") (f :: rest)

end

/-- The value as it stands in a message: a text as it is, anything else as inside a list.  The
surrogates of a text are shown by their numbers, as the error output does. -/
def display : Json → String
  | .string s => s
  | .unwritable t => t.shown
  | v => quotedText v

/-- The code points of the value as it stands in a message. -/
def points : Json → List Text.CodePoint
  | .unwritable t => t.points
  | v => Text.CodePoint.ofChars v.display.toList

/-- The value as a text with surrogates. -/
def unwritable? : Json → Option Text.Unwritable
  | .unwritable t => some t
  | _ => none

/-- The text that is made of some values one after the other, each as it stands in a message. -/
def joined (parts : List Json) : Json := ofPoints (parts.flatMap points)

end Replica.Json
