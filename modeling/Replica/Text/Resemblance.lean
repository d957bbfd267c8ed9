/-!
# Texts that resemble each other

Two texts resemble each other by the characters that they share in order: the longest run that
stands in both counts, and then what stands before it and what stands after it in each of the two
is compared in the same way.  The resemblance is twice the number of shared characters, taken as
a part of the lengths of both texts.

* `Resemblance.shared`: the number of shared characters.
* `Resemblance.closest`: the texts that resemble a given one most.
-/

namespace Replica.Text

/-- Where a run of characters stands in two texts. -/
structure SharedRun where
  /-- How many characters stand before it in the first text. -/
  first : Nat
  /-- How many characters stand before it in the second text. -/
  second : Nat
  /-- How many characters it has. -/
  length : Nat
deriving DecidableEq, Repr

namespace Resemblance

/-- How many characters two texts share at their fronts. -/
def sharedFront : List Char → List Char → Nat
  | a :: as, b :: bs => if a = b then sharedFront as bs + 1 else 0
  | _, _ => 0

/-- The places in two texts, by the place in the first and then by that in the second. -/
def places (a b : List Char) : List (Nat × Nat) :=
  (List.range a.length).flatMap fun i => (List.range b.length).map fun j => (i, j)

/-- The longest run that stands in both texts; of several the one at the first place. -/
def longestRun (a b : List Char) : SharedRun :=
  (places a b).foldl
    (fun best (i, j) =>
      let length := sharedFront (a.drop i) (b.drop j)
      if best.length < length then ⟨i, j, length⟩ else best)
    ⟨0, 0, 0⟩

/-- How many characters two texts share in order; every run takes at least one character off the
first text, which bounds the number of steps. -/
def sharedWithin : (steps : Nat) → List Char → List Char → Nat
  | 0, _, _ => 0
  | steps + 1, a, b =>
    let run := longestRun a b
    if run.length = 0 then 0
    else
      sharedWithin steps (a.take run.first) (b.take run.second) + run.length
        + sharedWithin steps (a.drop (run.first + run.length))
            (b.drop (run.second + run.length))

/-- How many characters two texts share in order. -/
def shared (a b : List Char) : Nat := sharedWithin a.length a b

/-- How much a text resembles a word: the fraction of shared characters. -/
structure Score where
  /-- The text. -/
  text : String
  /-- The number of shared characters. -/
  shared : Nat
  /-- The number of characters of both. -/
  total : Nat
deriving DecidableEq, Repr

/-- The resemblance of a text to a word. -/
def score (word text : String) : Score :=
  ⟨text, shared text.toList word.toList, text.length + word.length⟩

/-- Whether a text is long and short enough to share six tenths with a word: they share no more
characters than the shorter of them has. -/
def mayBeClose (word text : String) : Bool :=
  3 * (text.length + word.length) ≤ 10 * min text.length word.length

/-- Whether the resemblance is at least six tenths. -/
def Score.isClose (s : Score) : Bool := 3 * s.total ≤ 10 * s.shared

/-- Whether one text resembles the word at least as much as another; of two that do so equally
the later one in order comes first. -/
def Score.atLeast (s t : Score) : Bool :=
  let left := s.shared * t.total
  let right := t.shared * s.total
  right < left || (left == right && t.text ≤ s.text)

/-- How many texts are proposed at most. -/
def maxProposals : Nat := 3

/-- The texts that resemble a word most, in order. -/
def closest (word : String) (texts : List String) : List String :=
  let close := ((texts.filter (mayBeClose word)).map (score word)).filter Score.isClose
  let best := (close.mergeSort Score.atLeast).take maxProposals
  (best.map (·.text)).mergeSort

end Resemblance

end Replica.Text
