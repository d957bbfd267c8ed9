import Replica.Text.Quoted
/-!
# Texts that an encoding does not write

An encoding writes the code points that it knows.  ASCII knows those below 128, and the encodings
of Unicode know all but the surrogates.  What is wrong with a text is the first stretch of it that
is not known.

* `Stretch`: a stretch of a text.
* `Unwritable`: a text with surrogates, which no encoding of Unicode writes.
-/

namespace Replica.Text

/-- Whether the code point belongs to ASCII. -/
def CodePoint.isAscii (n : CodePoint) : Bool := n < 0x80

/-- Whether the code point belongs to a character. -/
def CodePoint.isCharacter (n : CodePoint) : Bool := n.char?.isSome

/-! ## Stretches -/

/-- A stretch of a text. -/
structure Stretch where
  /-- How many code points stand before it. -/
  start : Nat
  /-- The code points. -/
  points : List CodePoint
deriving DecidableEq, Repr

/-- The first stretch of code points that are not known, which is empty if all are. -/
def firstStretch (isKnown : CodePoint → Bool) (ns : List CodePoint) : Stretch :=
  let before := ns.takeWhile isKnown
  ⟨before.length, (ns.drop before.length).takeWhile fun n => !isKnown n⟩

/-- The first stretch of a text that does not belong to ASCII, if there is one. -/
def beyondAscii? (s : String) : Option Stretch :=
  let stretch := firstStretch CodePoint.isAscii (CodePoint.ofChars s.toList)
  if stretch.points.isEmpty then none else some stretch

/-- The code points of a stretch by their place in the text; a single one is shown. -/
def Stretch.text (s : Stretch) : String :=
  match s.points with
  | [n] => "character '" ++ String.ofList (numberEscape n) ++ "' in position " ++ toString s.start
  | ns =>
    "characters in position " ++ toString s.start ++ "-" ++ toString (s.start + ns.length - 1)

/-! ## Surrogates -/

/-- A text with surrogates. -/
structure Unwritable where
  /-- The code points. -/
  points : List CodePoint
  /-- There are no greater ones. -/
  inRange : ∀ n ∈ points, n ≤ CodePoint.max
  /-- Not all of them belong to characters. -/
  broken : points.all CodePoint.isCharacter = false
deriving DecidableEq, Repr

namespace Unwritable

/-- What is wrong with the text. -/
def stretch (t : Unwritable) : Stretch := firstStretch CodePoint.isCharacter t.points

/-- The text behind some characters. -/
def behind (t : Unwritable) (cs : List Char) : Unwritable where
  points := CodePoint.ofChars cs ++ t.points
  inRange := List.forall_mem_append.mpr ⟨fun _ => CodePoint.le_max_of_mem_ofChars, t.inRange⟩
  broken := by rw [List.all_append, t.broken, Bool.and_false]

/-- The text with each surrogate by its number, as the error output shows it. -/
def shown (t : Unwritable) : String :=
  String.ofList (t.points.flatMap fun n =>
    match n.char? with
    | some c => [c]
    | none => numberEscape n)

end Unwritable

end Replica.Text
