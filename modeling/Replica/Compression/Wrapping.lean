import Replica.Compression.Block
import Replica.Compression.Checksum
/-!
# Wrappings of compressed data

The blocks of compressed data stand alone, or between a header and a checksum, or they make up a
compressed file, whose header may hold more and which ends with a checksum and a length.

* `Wrapping.expand`: what data expands to.
-/

namespace Replica.Compression

open Expansion

/-- What stands around the blocks. -/
inductive Wrapping where
  /-- Nothing. -/
  | bare
  /-- A header of two bytes and a checksum. -/
  | checked
  /-- The header and the end of a compressed file. -/
  | file
deriving DecidableEq, Repr

namespace Wrapping

/-- The number of the method by which the blocks are compressed. -/
def method : Nat := 8

/-- How far blocks may look back at most, as a power of two with this exponent. -/
def maxReach : Nat := 15

/-- Reads a header of two bytes. -/
def checkedHeader : Expansion Unit := do
  let start ← bytes 2
  let first := (start.headD 0).toNat
  let second := number (start.drop 1)
  require ((256 * first + second) % 31 = 0) .header
  require (first % 16 = method) .method
  require (first / 16 + 8 ≤ maxReach) .reach
  if 32 ≤ second % 64 then
    let _ ← bytes 4
    corrupt .dictionary

/-- Reads a part of a header if its flag is set. -/
def optionalPart (flags : Nat) (flag : Nat) (part : Expansion (List UInt8)) :
    Expansion (List UInt8) :=
  if flags / flag % 2 = 1 then part else pure []

/-- Reads a part of a header that starts with its length. -/
def measuredPart : Expansion (List UInt8) := do
  let length ← bytes 2
  return length ++ (← bytes (number length))

/-- Reads the header of a compressed file. -/
def fileHeader : Expansion Unit := do
  let mark ← bytes 2
  require (mark = [0x1F, 0x8B]) .header
  let kind ← bytes 2
  let flags := number (kind.drop 1)
  require ((kind.headD 0).toNat = method) .method
  require (flags < 32) .flags
  let times ← bytes 6
  let extra ← optionalPart flags 4 measuredPart
  let name ← optionalPart flags 8 bytesToZero
  let comment ← optionalPart flags 16 bytesToZero
  let check ← optionalPart flags 2 (bytes 2)
  let sum := Checksum.cyclic (mark ++ kind ++ times ++ extra ++ name ++ comment)
  require (check = [] ∨ number check = sum % 0x10000) .headerChecksum

/-- The data expanded so far. -/
def output : Expansion (List UInt8) := return (← get).output.toList

/-- Expands data in its wrapping. -/
def expansion : Wrapping → Expansion Unit
  | bare => Block.expandAll
  | checked => do
    checkedHeader
    Block.expandAll
    let check ← bytes 4
    require (number check.reverse = Checksum.sums (← output)) .checksum
  | file => do
    fileHeader
    Block.expandAll
    let check ← bytes 4
    let data ← output
    require (number check = Checksum.cyclic data) .checksum
    let length ← bytes 4
    require (number length = data.length % 0x100000000) .length

/-- What data expands to, as far as it goes; what follows its end does not count. -/
def expand (w : Wrapping) (data : List UInt8) : Except Corruption (List UInt8) :=
  match w.expansion.run.run ⟨data, 0, #[]⟩ with
  | (.error (.corrupt fault), _) => .error fault
  | (_, progress) => .ok progress.output.toList

end Wrapping

end Replica.Compression
