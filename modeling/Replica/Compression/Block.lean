import Replica.Compression.Code
/-!
# Blocks of compressed data

Compressed data is made of blocks.  A block is stored as it is, or it is a row of symbols: a
literal byte, the end of the block, or a length, which a distance follows; as many bytes are
written again as stand so far back.  The codes of the symbols are fixed, or the block starts with
the lengths of their rows, which are themselves in a code.

* `Block.expandAll`: the blocks up to the last one.
-/

namespace Replica.Compression

open Expansion

/-- The codes of a block. -/
structure Block.Codes where
  /-- For literals, the end of the block and lengths. -/
  literals : Code
  /-- For distances. -/
  distances : Code

namespace Block

/-! ## Symbols -/

/-- The symbol that ends a block. -/
def endSymbol : Nat := 256

/-- The shortest length for a symbol beyond the end symbol, and how many bits tell how much longer
it is. -/
def lengthRange? (n : Nat) : Option (Nat × Nat) :=
  if n < 8 then some (n + 3, 0)
  else if n < 28 then some ((4 + n % 4) * Nat.pow 2 (n / 4 - 1) + 3, n / 4 - 1)
  else if n = 28 then some (258, 0)
  else none

/-- The shortest distance for a symbol, and how many bits tell how much longer it is. -/
def distanceRange? (n : Nat) : Option (Nat × Nat) :=
  if n < 2 then some (n + 1, 0)
  else if n < 30 then some ((2 + n % 2) * Nat.pow 2 (n / 2 - 1) + 1, n / 2 - 1)
  else none

/-- The next number of a range, if there is one. -/
def inRange (range? : Option (Nat × Nat)) (fault : Corruption) : Expansion Nat :=
  match range? with
  | none => corrupt fault
  | some (least, extra) => return least + (← bits extra)

/-- Expands symbols up to the end of the block.  Each takes a bit at least, so `fuel` need not
exceed the number of bits. -/
def symbols (codes : Codes) : (fuel : Nat) → Expansion Unit
  | 0 => throw .exhausted
  | fuel + 1 => do
    match ← codes.literals.read with
    | none => corrupt .literal
    | some n =>
      if n < endSymbol then
        write (UInt8.ofNat n)
        symbols codes fuel
      else if n = endSymbol then return ()
      else
        let length ← inRange (lengthRange? (n - endSymbol - 1)) .literal
        let distance ← inRange ((← codes.distances.read).bind distanceRange?) .distance
        repeatBack distance length
        symbols codes fuel

/-! ## Codes -/

/-- The lengths of the fixed rows for literals and lengths. -/
def fixedLengths : List Nat :=
  List.replicate 144 8 ++ List.replicate 112 9 ++ List.replicate 24 7 ++ List.replicate 8 8

/-- The fixed codes. -/
def fixedCodes : Codes := ⟨.ofLengths fixedLengths, .ofLengths (List.replicate 32 5)⟩

/-- The order in which the lengths of the rows for lengths are given. -/
def lengthsOrder : List Nat :=
  [16, 17, 18, 0, 8, 7, 9, 6, 10, 5, 11, 4, 12, 3, 13, 2, 14, 1, 15]

/-- Several numbers of the same number of bits. -/
def several (width : Nat) : (count : Nat) → Expansion (List Nat)
  | 0 => return []
  | count + 1 => do
    let first ← bits width
    return first :: (← several width count)

/-- The code for the lengths of rows, from the lengths of its own rows in their order. -/
def lengthsCode (given : List Nat) : Expansion Code := do
  let lengths := (List.range lengthsOrder.length).map fun n => given.getD (lengthsOrder.idxOf n) 0
  require (Code.isUsable false lengths) .lengthsCode
  return if Code.isEmpty lengths then .branch (.symbol 0) (.symbol 0) else .ofLengths lengths

/-- The lengths that a symbol stands for, after those in `done`, the last of which comes first. -/
def lengthsFor (n : Nat) (done : List Nat) : Expansion (List Nat) := do
  if n < 16 then return [n]
  else if n = 16 then
    let count := 3 + (← bits 2)
    match done with
    | [] => corrupt .repetition
    | last :: _ => return List.replicate count last
  else if n = 17 then return List.replicate (3 + (← bits 3)) 0
  else return List.replicate (11 + (← bits 7)) 0

/-- Reads lengths until there are `total` of them; those so far come in reverse.  Each symbol
gives one at least, so `fuel` need not exceed `total`. -/
def readLengths (code : Code) (total : Nat) : (fuel : Nat) → List Nat → Expansion (List Nat)
  | 0, done => return done.reverse
  | fuel + 1, done => do
    if total ≤ done.length then return done.reverse
    else
      let more ← lengthsFor ((← code.read).getD 0) done
      require (done.length + more.length ≤ total) .repetition
      readLengths code total fuel (more ++ done)

/-- The codes that a block starts with. -/
def readCodes : Expansion Codes := do
  let literalCount := 257 + (← bits 5)
  let distanceCount := 1 + (← bits 5)
  let lengthCount := 4 + (← bits 4)
  require (literalCount ≤ 286 ∧ distanceCount ≤ 30) .tooManySymbols
  let code ← lengthsCode (← several 3 lengthCount)
  let total := literalCount + distanceCount
  let lengths ← readLengths code total total []
  let literals := lengths.take literalCount
  let distances := lengths.drop literalCount
  require (literals.getD endSymbol 0 ≠ 0) .endless
  require (Code.isUsable true literals) .literalsCode
  require (Code.isUsable true distances) .distancesCode
  return ⟨.ofLengths literals, .ofLengths distances⟩

/-! ## Blocks -/

/-- Expands a block that is stored as it is. -/
def stored : Expansion Unit := do
  align
  let lengths ← bytes 4
  let length := number (lengths.take 2)
  require (length + number (lengths.drop 2) = 0xFFFF) .storedLengths
  copy length

/-- Expands a block and tells whether it is the last one. -/
def expand (fuel : Nat) : Expansion Bool := do
  let last ← bits 1
  match ← bits 2 with
  | 0 => stored
  | 1 => symbols fixedCodes fuel
  | 2 => symbols (← readCodes) fuel
  | _ => corrupt .blockKind
  return last = 1

/-- Expands blocks up to the last one.  Each takes a bit at least. -/
def expandUpTo (symbolFuel : Nat) : (fuel : Nat) → Expansion Unit
  | 0 => throw .exhausted
  | fuel + 1 => do
    if ← expand symbolFuel then align else expandUpTo symbolFuel fuel

/-- Expands the blocks up to the last one. -/
def expandAll : Expansion Unit := do
  let bitCount := 8 * (← get).bytes.length
  expandUpTo (bitCount + 1) (bitCount + 1)

end Block

end Replica.Compression
