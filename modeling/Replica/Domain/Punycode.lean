import Replica.Text.CodePoint
/-!
# Labels in ASCII

A label with characters beyond ASCII is written in ASCII: first its ASCII characters, then, after
a hyphen, where the others stand and which they are.  These are taken in the order of their code
points, each as its distance from the one before, in a numeral of variable length to the base 36
whose digits say themselves whether they are the last.

What the numerals stand for may be no text, since a surrogate has a code point too.

* `Punycode.encode`: a label in ASCII.
* `Punycode.decode`: the label that it stands for.
-/

namespace Replica.Domain.Punycode

open Text (CodePoint)

/-- The base of the numerals. -/
def base : Nat := 36

/-- The digit of a value: a letter, and from 26 on a decimal digit. -/
def digit (d : Nat) : Char := if d < 26 then Char.ofNat (0x61 + d) else Char.ofNat (0x16 + d)

/-- The value of a digit in lower case. -/
def digitValue? (c : Char) : Option Nat :=
  if 'a' ≤ c ∧ c ≤ 'z' then some (c.toNat - 0x61)
  else if '0' ≤ c ∧ c ≤ '9' then some (c.toNat - 0x16)
  else none

/-- A digit below the threshold of its place is the last of its numeral.  Places are counted in
steps of the base. -/
def threshold (place bias : Nat) : Nat := max 1 (min 26 (place - bias))

theorem one_le_threshold (place bias : Nat) : 1 ≤ threshold place bias := by
  unfold threshold; omega

/-- Divides a distance until it is small, counting the places. -/
def reduceDistance (distance places : Nat) : Nat :=
  if 455 < distance then reduceDistance (distance / 35) (places + base)
  else places + 36 * distance / (distance + 38)
termination_by distance
decreasing_by exact Nat.div_lt_self (by omega) (by omega)

/-- The bias after a distance, the first one or a later one, at a number of characters. -/
def adapt (distance characters : Nat) (first : Bool) : Nat :=
  let scaled := if first then distance / 700 else distance / 2
  reduceDistance (scaled + scaled / characters) 0

/-- The first code point beyond ASCII. -/
def firstCode : CodePoint := 0x80

/-- The bias at the start. -/
def firstBias : Nat := 72

/-! ## Writing -/

/-- A distance as a numeral. -/
def numeral (bias place distance : Nat) : List Char :=
  let t := threshold place bias
  if distance < t then [digit distance]
  else
    digit (t + (distance - t) % (base - t))
      :: numeral bias (place + base) ((distance - t) / (base - t))
termination_by distance
decreasing_by
  have h₁ := one_le_threshold place bias
  have h₂ := Nat.div_le_self (distance - threshold place bias) (base - threshold place bias)
  omega

/-- What was written so far. -/
structure Written where
  /-- The numerals, in order. -/
  text : List Char
  /-- The distance from the last character written. -/
  distance : Nat
  /-- The bias. -/
  bias : Nat
  /-- How many characters of the label are written. -/
  count : Nat

/-- Goes past one character of the label while those of a code point are written. -/
def Written.pass (asciiCount : Nat) (code : CodePoint) (w : Written) (c : CodePoint) : Written :=
  if c < code then { w with distance := w.distance + 1 }
  else if c = code then
    { text := w.text ++ numeral w.bias base w.distance
      distance := 0
      bias := adapt w.distance (w.count + 1) (w.count = asciiCount)
      count := w.count + 1 }
  else w

/-- Writes the characters of code points in ascending order; `next` is the first one that is not
written. -/
def writeCodes (label : List CodePoint) (asciiCount : Nat) : (next : CodePoint) →
    List CodePoint → Written → Written
  | _, [], w => w
  | next, code :: rest, w =>
    let start := { w with distance := w.distance + (code - next) * (w.count + 1) }
    let passed := label.foldl (Written.pass asciiCount code) start
    writeCodes label asciiCount (code + 1) rest { passed with distance := passed.distance + 1 }

/-- A label in ASCII. -/
def encode (label : List CodePoint) : List Char :=
  let ascii := (label.filter (· < firstCode)).map Char.ofNat
  let codes := (label.filter (firstCode ≤ ·)).mergeSort.eraseDups
  let written := writeCodes label ascii.length firstCode codes ⟨[], 0, firstBias, ascii.length⟩
  ascii ++ (if ascii.isEmpty then [] else ['-']) ++ written.text

/-! ## Reading -/

/-- The numeral at the front, and what follows it; `weight` is that of its next digit. -/
def readNumeral (bias : Nat) : (place weight value : Nat) → List Char → Option (Nat × List Char)
  | _, _, _, [] => none
  | place, weight, value, c :: rest =>
    match digitValue? c with
    | none => none
    | some d =>
      let t := threshold place bias
      if d < t then some (value + d * weight, rest)
      else readNumeral bias (place + base) (weight * (base - t)) (value + d * weight) rest

/-- Puts the characters of numerals into a label.  Every numeral takes at least one character of
the text, so there are at most `numerals` of them. -/
def readCodes : (numerals bias : Nat) → (code : CodePoint) → (position : Nat) → (first : Bool) →
    List CodePoint → List Char → Option (List CodePoint)
  | _, _, _, _, _, label, [] => some label
  | 0, _, _, _, _, _, _ => none
  | numerals + 1, bias, code, position, first, label, text =>
    match readNumeral bias base 1 0 text with
    | none => none
    | some (distance, rest) =>
      let places := label.length + 1
      let reached := position + distance
      let code := code + reached / places
      let position := reached % places
      if code ≤ CodePoint.max then
        readCodes numerals (adapt distance places first) code (position + 1) false
          (label.take position ++ code :: label.drop position) rest
      else none

/-- The label that a text in ASCII and lower case stands for. -/
def decode (text : List Char) : Option (List CodePoint) :=
  let coded := (text.reverse.takeWhile (· ≠ '-')).reverse
  let ascii := (text.take (text.length - coded.length)).dropLast
  readCodes coded.length firstBias firstCode 0 true (CodePoint.ofChars ascii) coded

end Replica.Domain.Punycode
