/-!
# Expanding compressed data

Compressed data is read bit by bit, from the low end of each byte, while the expanded data grows.
The work halts where the data that is there ends; what was expanded up to there stays.

* `Corruption`: why compressed data cannot be expanded.
* `Expansion`: a part of the work, with what it reads and writes.
-/

namespace Replica.Compression

/-- Why compressed data cannot be expanded. -/
inductive Corruption where
  /-- The data does not start with a header. -/
  | header
  /-- The data is compressed by an unknown method. -/
  | method
  /-- The data looks back further than is provided for. -/
  | reach
  /-- The header has unknown flags. -/
  | flags
  /-- The header does not agree with its checksum. -/
  | headerChecksum
  /-- The data goes on from data that is not given. -/
  | dictionary
  /-- A block is of an unknown kind. -/
  | blockKind
  /-- The two lengths of a stored block disagree. -/
  | storedLengths
  /-- A block has codes for too many symbols. -/
  | tooManySymbols
  /-- The code for the lengths of codes is none. -/
  | lengthsCode
  /-- A length is repeated before there is one, or too often. -/
  | repetition
  /-- No code ends the block. -/
  | endless
  /-- The code for literals and lengths is none. -/
  | literalsCode
  /-- The code for distances is none. -/
  | distancesCode
  /-- Bits stand for no literal and no length. -/
  | literal
  /-- Bits stand for no distance. -/
  | distance
  /-- The data looks back behind its start. -/
  | farBack
  /-- The data does not agree with its checksum. -/
  | checksum
  /-- The data does not agree with its length. -/
  | length
deriving DecidableEq, Repr

namespace Corruption

/-- What is wrong, in words; a missing dictionary has none. -/
def words : Corruption → String
  | header => "incorrect header check"
  | method => "unknown compression method"
  | reach => "invalid window size"
  | flags => "unknown header flags set"
  | headerChecksum => "header crc mismatch"
  | dictionary => ""
  | blockKind => "invalid block type"
  | storedLengths => "invalid stored block lengths"
  | tooManySymbols => "too many length or distance symbols"
  | lengthsCode => "invalid code lengths set"
  | repetition => "invalid bit length repeat"
  | endless => "invalid code -- missing end-of-block"
  | literalsCode => "invalid literal/lengths set"
  | distancesCode => "invalid distances set"
  | literal => "invalid literal/length code"
  | distance => "invalid distance code"
  | farBack => "invalid distance too far back"
  | checksum => "incorrect data check"
  | length => "incorrect length check"

/-- The corruption in words. -/
def message (c : Corruption) : String :=
  if c = dictionary then "Error 2 while decompressing data"
  else "Error -3 while decompressing data: " ++ c.words

end Corruption

/-- Why the work halts before its end. -/
inductive Halt where
  /-- The data that is there ends. -/
  | exhausted
  /-- The data is corrupt. -/
  | corrupt (fault : Corruption)
deriving DecidableEq, Repr

/-- How far the work has come. -/
structure Progress where
  /-- The bytes that are not used up. -/
  bytes : List UInt8
  /-- How many bits of the first of them are used, less than eight. -/
  used : Nat
  /-- The expanded data. -/
  output : Array UInt8

/-- A part of the work. -/
abbrev Expansion := ExceptT Halt (StateM Progress)

namespace Expansion

/-- Gives up on corrupt data. -/
def corrupt {α : Type} (fault : Corruption) : Expansion α := throw (.corrupt fault)

/-- Gives up on corrupt data unless a condition holds. -/
def require (condition : Bool) (fault : Corruption) : Expansion Unit :=
  if condition then pure () else corrupt fault

/-! ## Reading -/

/-- The next bit. -/
def bit : Expansion Nat := do
  let p ← get
  match p.bytes with
  | [] => throw .exhausted
  | b :: rest =>
    set (if p.used = 7 then { p with bytes := rest, used := 0 } else { p with used := p.used + 1 })
    return b.toNat / Nat.pow 2 p.used % 2

/-- The number that the next bits make up, the low ones first. -/
def bits : (count : Nat) → Expansion Nat
  | 0 => return 0
  | count + 1 => do
    let low ← bit
    return low + 2 * (← bits count)

/-- Goes on to the start of a byte. -/
def align : Expansion Unit :=
  modify fun p => if p.used = 0 then p else { p with bytes := p.bytes.drop 1, used := 0 }

/-- The next bytes; the work stands at the start of one. -/
def bytes (count : Nat) : Expansion (List UInt8) := do
  let p ← get
  let taken := p.bytes.take count
  if taken.length < count then throw .exhausted
  else
    set { p with bytes := p.bytes.drop count }
    return taken

/-- The next bytes up to a zero byte, with that. -/
def bytesToZero : Expansion (List UInt8) := do
  let p ← get
  let text := p.bytes.takeWhile (· ≠ 0)
  bytes (text.length + 1)

/-- The number that bytes make up, the low ones first. -/
def number (bytes : List UInt8) : Nat := bytes.foldr (fun b n => b.toNat + 256 * n) 0

/-! ## Writing -/

/-- Writes one byte. -/
def write (b : UInt8) : Expansion Unit :=
  modify fun p => { p with output := p.output.push b }

/-- Writes the next bytes as they are, as many of them as there are. -/
def copy (count : Nat) : Expansion Unit := do
  let p ← get
  let taken := p.bytes.take count
  set { p with bytes := p.bytes.drop count, output := p.output ++ taken }
  if taken.length < count then throw .exhausted

/-- Writes the byte that stands so far back, several times in turn. -/
def extend (distance : Nat) : (count : Nat) → Array UInt8 → Array UInt8
  | 0, output => output
  | count + 1, output =>
    extend distance count (output.push (output.getD (output.size - distance) 0))

/-- Writes again what stands so far back. -/
def repeatBack (distance count : Nat) : Expansion Unit := do
  require (distance ≤ (← get).output.size) .farBack
  modify fun p => { p with output := extend distance count p.output }

end Expansion

end Replica.Compression
