import Replica.Text.Case.Context
import Replica.Text.Case.Lower
import Replica.Text.Case.Upper
import Replica.Text.Printable
/-!
# Upper and lower case

The case of letters of all scripts.  A letter may become several, and the Greek sigma has a
lower case of its own at the end of a word.

* `upper`: a text in upper case.
* `lower`: a text in lower case.
-/

namespace Replica.Text

/-- What a character becomes under runs of characters and their targets; a character of no run
stays as it is. -/
def alongRuns (runs : List (Nat × Nat × Nat × Nat)) (c : Char) : Char :=
  let n := c.toNat
  let holds : Nat × Nat × Nat × Nat → Bool := fun (first, last, step, _) =>
    first ≤ n && n ≤ last && (n - first) % step = 0
  match runs.find? holds with
  | some (first, _, _, target) => Char.ofNat (target + (n - first))
  | none => c

/-- A character in upper case. -/
def upperChar (c : Char) : List Char :=
  match upperExpansions.lookup c.toNat with
  | some several => several.map Char.ofNat
  | none => [alongRuns upperRuns c]

/-- Characters in upper case. -/
def upper (cs : List Char) : List Char := cs.flatMap upperChar

/-! ## Lower case -/

/-- The capital sigma. -/
def capitalSigma : Char := 'Σ'

/-- The small sigma inside a word. -/
def innerSigma : Char := 'σ'

/-- The small sigma at the end of a word. -/
def finalSigma : Char := 'ς'

/-- Whether characters go on with a cased one, apart from characters that are ignored. -/
def continuesCased (cs : List Char) : Bool :=
  match cs.dropWhile fun c => inRanges caseIgnorableRanges c.toNat with
  | c :: _ => inRanges casedRanges c.toNat
  | [] => false

/-- The small form of a sigma between the characters before it, the nearest first, and those
after it. -/
def smallSigma (before after : List Char) : Char :=
  if continuesCased before && !continuesCased after then finalSigma else innerSigma

/-- A character in lower case, but for the capital sigma. -/
def lowerChar (c : Char) : List Char :=
  if c = 'İ' then ['i', '\u0307'] else [alongRuns lowerRuns c]

/-- Characters in lower case; those before them come in reverse. -/
def lowerAfter (before : List Char) : List Char → List Char
  | [] => []
  | c :: rest =>
    let small := if c = capitalSigma then [smallSigma before rest] else lowerChar c
    small ++ lowerAfter (c :: before) rest

/-- Characters in lower case. -/
def lower (cs : List Char) : List Char := lowerAfter [] cs

end Replica.Text
