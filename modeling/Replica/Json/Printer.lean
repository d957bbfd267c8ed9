import Replica.Json.Basic
/-!
# JSON documents

`Json.pretty` writes a value over several lines, indented by two spaces a level; `Json.compact`
writes it on one line.  Both are ASCII only: other characters are escaped by
their 16-bit units.
-/

namespace Replica.Json

/-- The escape of one 16-bit unit. -/
def unitEscape (n : Nat) : List Char := '\\' :: 'u' :: Text.hexDigits 4 n

/-- One character inside a JSON text. -/
def escapeChar (c : Char) : List Char :=
  if c = '"' then ['\\', '"']
  else if c = '\\' then ['\\', '\\']
  else if c = '\n' then ['\\', 'n']
  else if c = '\r' then ['\\', 'r']
  else if c = '\t' then ['\\', 't']
  else if c = '\x08' then ['\\', 'b']
  else if c = '\x0c' then ['\\', 'f']
  else
    let n := c.toNat
    if 0x20 ≤ n ∧ n < 0x7F then [c]
    else if n < 0x10000 then unitEscape n
    else
      unitEscape (0xD800 + (n - 0x10000) / 0x400) ++ unitEscape (0xDC00 + (n - 0x10000) % 0x400)

/-- One code point inside a JSON text; a surrogate is a unit by itself. -/
def escapePoint (n : Text.CodePoint) : List Char :=
  match n.char? with
  | some c => escapeChar c
  | none => unitEscape n

/-- Code points as a JSON text. -/
def pointsText (ns : List Text.CodePoint) : String :=
  String.ofList ('"' :: ns.flatMap escapePoint ++ ['"'])

/-- A text as a JSON text. -/
def stringText (s : String) : String := pointsText (Text.CodePoint.ofChars s.toList)

/-- A number as a JSON number; the values beyond the finite ones have names. -/
def numberText : Number → String
  | .int n => toString n
  | .float x =>
    match Binary64.ofFloat x with
    | .notANumber => "NaN"
    | .infinite negative => if negative then "-Infinity" else "Infinity"
    | .finite .. => floatText x

/-- How the parts of a document are set apart. -/
structure Layout where
  /-- The text between two items. -/
  comma : String
  /-- The text between a name and its value. -/
  colon : String
  /-- Whether every item stands on a line of its own. -/
  lines : Bool

/-- The start of a new line at a depth, if items stand on lines of their own. -/
def Layout.newline (l : Layout) (depth : Nat) : String :=
  if l.lines then "\n" ++ String.ofList (List.replicate (2 * depth) ' ') else ""

mutual

/-- The document of a value inside `depth` surrounding lists and objects. -/
def render (l : Layout) (depth : Nat) : Json → String
  | .null => "null"
  | .bool b => if b then "true" else "false"
  | .number n => numberText n
  | .string s => stringText s
  | .unwritable t => pointsText t.points
  | .array items =>
    if items.isEmpty then "[]"
    else
      renderItems l (depth + 1) ("[" ++ l.newline (depth + 1)) items ++ l.newline depth ++ "]"
  | .object fields =>
    if fields.isEmpty then "\x7b\x7d"
    else
      renderFields l (depth + 1) ("\x7b" ++ l.newline (depth + 1)) fields ++ l.newline depth
        ++ "\x7d"

/-- The items of a list after what is written so far, with commas between them. -/
def renderItems (l : Layout) (depth : Nat) (written : String) : List Json → String
  | [] => written
  | [v] => written ++ render l depth v
  | v :: w :: rest =>
    renderItems l depth (written ++ render l depth v ++ l.comma ++ l.newline depth) (w :: rest)

/-- The fields of an object after what is written so far, with commas between them. -/
def renderFields (l : Layout) (depth : Nat) (written : String) :
    List (String × Json) → String
  | [] => written
  | [(k, v)] => written ++ stringText k ++ l.colon ++ render l depth v
  | (k, v) :: g :: rest =>
    renderFields l depth
      (written ++ stringText k ++ l.colon ++ render l depth v ++ l.comma ++ l.newline depth)
      (g :: rest)

end

/-- The document over several lines. -/
def pretty (v : Json) : String := render ⟨",", ": ", true⟩ 0 v

/-- The document on one line. -/
def compact (v : Json) : String := render ⟨", ", ": ", false⟩ 0 v

end Replica.Json
