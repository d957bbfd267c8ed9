import Replica.Compression.Expansion
/-!
# Prefix codes

A code gives each of its symbols a row of bits, none of which starts another.  It is told by the
lengths of these rows alone: of two rows the shorter comes first in the order of bits, and of two
with one length that of the smaller symbol.

* `Code.ofLengths`: the code with these lengths.
* `Code.isUsable`: whether there is one.
* `Code.read`: the symbol for the next bits.
-/

namespace Replica.Compression

/-- A code, as a tree that the bits lead through. -/
inductive Code where
  /-- No row of bits leads here. -/
  | missing
  /-- The row of a symbol ends here. -/
  | symbol (n : Nat)
  /-- The next bit decides. -/
  | branch (zeroBit oneBit : Code)
deriving Repr

namespace Code

/-- The most bits of a row. -/
def maxLength : Nat := 15

/-! ## Codes from lengths -/

/-- The rows of full length to which nothing is assigned; it is negative if too many are
assigned. -/
def spare (lengths : List Nat) : Int :=
  (lengths.filter (· ≠ 0)).foldl (fun left length => left - Nat.pow 2 (maxLength - length))
    (Nat.pow 2 maxLength : Nat)

/-- Whether all lengths are zero, so that no symbol has a row. -/
def isEmpty (lengths : List Nat) : Bool := lengths.all (· == 0)

/-- Whether there is a code with these lengths that leaves no row over; none at all is fine, and
`allowsSingle` tells whether a single row of one bit is. -/
def isUsable (allowsSingle : Bool) (lengths : List Nat) : Bool :=
  isEmpty lengths || spare lengths == 0
    || (allowsSingle && 0 < spare lengths && lengths.all (· ≤ 1))

/-- The branches above neighbouring nodes. -/
def pairUp : List Code → List Code
  | a :: b :: rest => branch a b :: pairUp rest
  | [a] => [branch a missing]
  | [] => []

/-- The nodes at a depth, above those one deeper. -/
def level (lengths : List Nat) (depth : Nat) (below : List Code) : List Code :=
  (lengths.zipIdx.filter (·.1 = depth)).map (fun entry => symbol entry.2) ++ pairUp below

/-- The nodes at the depths from one to `depth`, above those one deeper. -/
def levels (lengths : List Nat) : (depth : Nat) → List Code → List Code
  | 0, below => below
  | depth + 1, below => levels lengths depth (level lengths (depth + 1) below)

/-- The code with these lengths, zero for a symbol that has no row. -/
def ofLengths (lengths : List Nat) : Code :=
  (pairUp (levels lengths maxLength [])).headD (branch missing missing)

/-! ## Reading -/

/-- The symbol for the next bits, if they are the row of one. -/
def read : Code → Expansion (Option Nat)
  | missing => return none
  | symbol n => return some n
  | branch zeroBit oneBit => do
    if (← Expansion.bit) = 0 then zeroBit.read else oneBit.read

end Code

end Replica.Compression
