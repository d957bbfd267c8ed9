/-!
# Checksums

* `Checksum.cyclic`: the remainder of the data, taken as a polynomial over bits, by a polynomial of
  degree thirty-two; the bits of each byte come in from the low end.
* `Checksum.sums`: the sum of the bytes, and the sum of those sums.
-/

namespace Replica.Compression.Checksum

/-- The polynomial without its highest term, the low terms at the high end. -/
def polynomial : UInt32 := 0xEDB88320

/-- Moves a remainder on by one bit. -/
def shift (c : UInt32) : UInt32 := if c &&& 1 = 1 then (c >>> 1) ^^^ polynomial else c >>> 1

/-- Moves a remainder on by several bits. -/
def shifts : Nat → UInt32 → UInt32
  | 0, c => c
  | n + 1, c => shifts n (shift c)

/-- The remainder of the data; all its bits are turned over before and after. -/
def cyclic (data : List UInt8) : Nat :=
  (data.foldl (fun c b => shifts 8 (c ^^^ b.toUInt32)) 0xFFFFFFFF ^^^ 0xFFFFFFFF).toNat

/-- What sums are reduced by. -/
def modulus : Nat := 65521

/-- Adds a byte to the sum of the bytes, and that to the sum of the sums. -/
def add (s : Nat × Nat) (b : UInt8) : Nat × Nat :=
  let sum := (s.1 + b.toNat) % modulus
  (sum, (s.2 + sum) % modulus)

/-- The sum of the bytes and one, and the sum of those sums before it. -/
def sums (data : List UInt8) : Nat :=
  let (sum, total) := data.foldl add (1, 0)
  0x10000 * total + sum

end Replica.Compression.Checksum
