import Replica.Text.Composite
import Replica.Text.Mark
/-!
# Composed texts

One text can be written in several ways: a letter with its marks behind it, or as one composite
character.  The composed form uses composite characters wherever there are some, and keeps marks
that do not touch in the order of their classes.  Texts are lists of code points, and surrogates
stay as they are.

* `decompose`: every character with its marks behind it.
* `compose`: marks taken into their characters again.
* `isComposed`: whether a text is in its composed form.
-/

namespace Replica.Text

/-! ## Syllables of Hangul -/

/-- The first syllable of Hangul. -/
def firstSyllable : Nat := 0xAC00

/-- The first leading consonant of Hangul, and how many there are. -/
def leadingConsonants : Nat × Nat := (0x1100, 19)

/-- The first vowel of Hangul, and how many there are. -/
def vowels : Nat × Nat := (0x1161, 21)

/-- The character before the first trailing consonant of Hangul, and how many there are with
it. -/
def trailingConsonants : Nat × Nat := (0x11A7, 28)

/-- How many syllables begin with the same consonant. -/
def syllablesPerConsonant : Nat := vowels.2 * trailingConsonants.2

/-- The place of a character in a run of characters, if it belongs to it. -/
def placeIn (run : Nat × Nat) (c : CodePoint) : Option Nat :=
  if run.1 ≤ c ∧ c < run.1 + run.2 then some (c - run.1) else none

/-- The place of a syllable among all syllables, if the character is one. -/
def syllable? (c : CodePoint) : Option Nat :=
  placeIn (firstSyllable, leadingConsonants.2 * syllablesPerConsonant) c

/-- The consonants and the vowel of a syllable. -/
def lettersOf (syllable : Nat) : List CodePoint :=
  let trailing := syllable % trailingConsonants.2
  (leadingConsonants.1 + syllable / syllablesPerConsonant)
    :: (vowels.1 + syllable % syllablesPerConsonant / trailingConsonants.2)
    :: (if trailing = 0 then [] else [trailingConsonants.1 + trailing])

/-- The syllable that a letter or a syllable makes up with the letter behind it. -/
def syllableOf? (a b : CodePoint) : Option CodePoint :=
  match placeIn leadingConsonants a, placeIn vowels b with
  | some leading, some vowel =>
    some (firstSyllable + (leading * vowels.2 + vowel) * trailingConsonants.2)
  | _, _ =>
    match syllable? a, placeIn trailingConsonants b with
    | some syllable, some trailing =>
      if syllable % trailingConsonants.2 = 0 ∧ trailing ≠ 0 then some (a + trailing) else none
    | _, _ => none

/-! ## Decomposing -/

/-- A composite character taken apart up to `steps` times. -/
def decomposeChar : (steps : Nat) → CodePoint → List CodePoint
  | 0, c => [c]
  | steps + 1, c =>
    match syllable? c with
    | some syllable => lettersOf syllable
    | none =>
      match composites.find? fun composite => composite.1 = c with
      | some (_, inner, mark) => decomposeChar steps inner ++ [mark]
      | none => [c]

/-- How often a character can be taken apart. -/
def maxComposition : Nat := 4

/-- Puts a mark in front of marks, behind those of a lower class. -/
def insertMark (c : CodePoint) : List CodePoint → List CodePoint
  | [] => [c]
  | d :: rest =>
    if combiningClass d ≠ 0 ∧ combiningClass d < combiningClass c then d :: insertMark c rest
    else c :: d :: rest

/-- The characters with marks in the order of their classes. -/
def orderMarks : List CodePoint → List CodePoint
  | [] => []
  | c :: rest =>
    if combiningClass c = 0 then c :: orderMarks rest else insertMark c (orderMarks rest)

/-- Every character with its marks behind it. -/
def decompose (cs : List CodePoint) : List CodePoint :=
  orderMarks (cs.flatMap (decomposeChar maxComposition))

/-! ## Composing -/

/-- The composite character for two characters. -/
def composite? (a b : CodePoint) : Option CodePoint :=
  match syllableOf? a b with
  | some c => some c
  | none =>
    (composites.find? fun (_, inner, mark) => inner = a ∧ mark = b).map (·.1)

/-- Takes marks into a character; those that it cannot take come in reverse, and a mark behind
one of its own class or a higher one is not reached. -/
def composeAfter (c : CodePoint) (kept : List CodePoint) : List CodePoint → List CodePoint
  | [] => c :: kept.reverse
  | d :: rest =>
    let reached :=
      match kept with
      | [] => true
      | last :: _ => combiningClass last < combiningClass d
    match if reached then composite? c d else none with
    | some composite => composeAfter composite kept rest
    | none =>
      if combiningClass d = 0 then c :: kept.reverse ++ composeAfter d [] rest
      else composeAfter c (d :: kept) rest

/-- The characters with marks taken into the characters before them. -/
def compose (cs : List CodePoint) : List CodePoint :=
  match cs.dropWhile fun c => combiningClass c ≠ 0 with
  | [] => cs
  | c :: rest => cs.takeWhile (fun c => combiningClass c ≠ 0) ++ composeAfter c [] rest

/-- Whether a text is in its composed form. -/
def isComposed (cs : List CodePoint) : Bool :=
  !cs.any (inRanges replacedRanges) && compose (decompose cs) == cs

end Replica.Text
