import Replica.Text.CodePoint
/-!
# Encodings of documents

A document comes as bytes in UTF-8, UTF-16 or UTF-32.  Which of them it is, and the order of the
bytes in a unit, is told by a byte order mark or by where the zero bytes stand: a document starts
with two ASCII characters, or it has one character only.

* `Encoding.detect`: the encoding of a document, and the bytes after the mark.
* `Encoding.decode`: the code points that bytes stand for.
* `Encoding.decodeLeniently`: the characters in UTF-8, with a replacement for what is not well
  formed.

A surrogate that stands alone is decoded like any other code point, although it is no character.
-/

namespace Replica.Text

/-- The order of the bytes in a unit. -/
inductive ByteOrder where
  /-- The high byte comes first. -/
  | bigEndian
  /-- The low byte comes first. -/
  | littleEndian
deriving DecidableEq, Repr

/-- An encoding of characters. -/
inductive Encoding where
  /-- One to four bytes for each character. -/
  | utf8
  /-- One or two units of two bytes for each character. -/
  | utf16 (order : ByteOrder)
  /-- Four bytes for each character. -/
  | utf32 (order : ByteOrder)
deriving DecidableEq, Repr

namespace Encoding

/-- The character that stands for what is none. -/
def replacement : Char := '\uFFFD'

/-- The number that bytes make up in an order. -/
def number (order : ByteOrder) (bytes : List UInt8) : Nat :=
  let highFirst := if order = .bigEndian then bytes else bytes.reverse
  highFirst.foldl (fun n b => 256 * n + b.toNat) 0

/-! ## Which encoding it is -/

/-- The encoding of a document without a mark, by its first bytes.  Of a shorter document than
four bytes, only one of two bytes can be in another encoding than UTF-8. -/
def ofZeros : List UInt8 → Encoding
  | a :: b :: c :: d :: _ =>
    if a = 0 then (if b = 0 then .utf32 .bigEndian else .utf16 .bigEndian)
    else if b = 0 then
      (if c = 0 ∧ d = 0 then .utf32 .littleEndian else .utf16 .littleEndian)
    else .utf8
  | [a, b] =>
    if a = 0 then .utf16 .bigEndian else if b = 0 then .utf16 .littleEndian else .utf8
  | _ => .utf8

/-- The encoding of a document, and its bytes without a byte order mark. -/
def detect (bytes : List UInt8) : Encoding × List UInt8 :=
  match bytes with
  | 0x00 :: 0x00 :: 0xFE :: 0xFF :: rest => (.utf32 .bigEndian, rest)
  | 0xFF :: 0xFE :: 0x00 :: 0x00 :: rest => (.utf32 .littleEndian, rest)
  | 0xFE :: 0xFF :: rest => (.utf16 .bigEndian, rest)
  | 0xFF :: 0xFE :: rest => (.utf16 .littleEndian, rest)
  | 0xEF :: 0xBB :: 0xBF :: rest => (.utf8, rest)
  | _ => (ofZeros bytes, bytes)

/-! ## Decoding

The code points so far come in reverse.
-/

/-- The six bits that a byte adds to a character, if it is one that continues one. -/
def continuation? (b : UInt8) : Option Nat :=
  if 0x80 ≤ b ∧ b < 0xC0 then some (b.toNat - 0x80) else none

/-- Decodes UTF-8, in the fewest bytes for each character. -/
def decodeUtf8 (done : List CodePoint) : List UInt8 → Option (List CodePoint)
  | [] => some done.reverse
  | a :: rest =>
    if a < 0x80 then decodeUtf8 (a.toNat :: done) rest
    else
      match rest with
      | [] => none
      | b :: rest =>
        match continuation? b with
        | none => none
        | some y =>
          if a < 0xE0 then
            let n := (a.toNat - 0xC0) * 0x40 + y
            if a < 0xC2 then none else decodeUtf8 (n :: done) rest
          else
            match rest with
            | [] => none
            | c :: rest =>
              match continuation? c with
              | none => none
              | some z =>
                if a < 0xF0 then
                  let n := ((a.toNat - 0xE0) * 0x40 + y) * 0x40 + z
                  if n < 0x800 then none else decodeUtf8 (n :: done) rest
                else
                  match rest with
                  | [] => none
                  | d :: rest =>
                    match continuation? d with
                    | none => none
                    | some w =>
                      let n := (((a.toNat - 0xF0) * 0x40 + y) * 0x40 + z) * 0x40 + w
                      if n < 0x10000 ∨ 0x10FFFF < n then none
                      else decodeUtf8 (n :: done) rest

/-- Decodes units of UTF-16. -/
def decodeUtf16 (order : ByteOrder) (done : List CodePoint) :
    List UInt8 → Option (List CodePoint)
  | [] => some done.reverse
  | a :: b :: rest =>
    let high := number order [a, b]
    if 0xD800 ≤ high ∧ high < 0xDC00 then
      match rest with
      | c :: d :: more =>
        let low := number order [c, d]
        if 0xDC00 ≤ low ∧ low < 0xE000 then
          let n := 0x10000 + (high - 0xD800) * 0x400 + (low - 0xDC00)
          decodeUtf16 order (n :: done) more
        else decodeUtf16 order (high :: done) (c :: d :: more)
      | rest => decodeUtf16 order (high :: done) rest
    else decodeUtf16 order (high :: done) rest
  | [_] => none

/-- Decodes UTF-32. -/
def decodeUtf32 (order : ByteOrder) (done : List CodePoint) :
    List UInt8 → Option (List CodePoint)
  | [] => some done.reverse
  | a :: b :: c :: d :: rest =>
    let n := number order [a, b, c, d]
    if 0x10FFFF < n then none else decodeUtf32 order (n :: done) rest
  | _ => none

/-- The code points that bytes stand for in an encoding, if they are well formed. -/
def decode : Encoding → List UInt8 → Option (List CodePoint)
  | utf8, bytes => decodeUtf8 [] bytes
  | utf16 order, bytes => decodeUtf16 order [] bytes
  | utf32 order, bytes => decodeUtf32 order [] bytes

/-! ## Decoding without failure -/

/-- How many bytes continue a character after its first byte, and in which bounds the first of
these lies; none if no character starts with the byte. -/
def continuations (a : UInt8) : Option (Nat × UInt8 × UInt8) :=
  if a < 0xC2 then none
  else if a < 0xE0 then some (1, 0x80, 0xBF)
  else if a < 0xF0 then
    some (2, if a = 0xE0 then 0xA0 else 0x80, if a = 0xED then 0x9F else 0xBF)
  else if a < 0xF5 then
    some (3, if a = 0xF0 then 0x90 else 0x80, if a = 0xF4 then 0x8F else 0xBF)
  else none

/-- How many bytes at the front continue a character, of the `count` that should, with bounds for
the first of them. -/
def continued : (count : Nat) → UInt8 → UInt8 → List UInt8 → Nat
  | count + 1, low, high, b :: rest =>
    if low ≤ b ∧ b ≤ high then continued count 0x80 0xBF rest + 1 else 0
  | _, _, _, _ => 0

/-- The character at the front and the number of its bytes after the first one; what starts a
character and does not go on as one is replaced as a whole. -/
def nextLeniently (a : UInt8) (rest : List UInt8) : Char × Nat :=
  if a < 0x80 then (Char.ofNat a.toNat, 0)
  else
    match continuations a with
    | none => (replacement, 0)
    | some (count, low, high) =>
      let present := continued count low high rest
      if present < count then (replacement, present)
      else
        let point := (decodeUtf8 [] (a :: rest.take count)).bind List.head?
        ((point.bind CodePoint.char?).getD replacement, count)

/-- Decodes UTF-8 with a replacement for what is not well formed.  The first argument is a count
of bytes still to be skipped. -/
def decodeSkipping : Nat → List UInt8 → List Char
  | _, [] => []
  | skip + 1, _ :: rest => decodeSkipping skip rest
  | 0, a :: rest =>
    let (c, length) := nextLeniently a rest
    c :: decodeSkipping length rest

/-- The characters that bytes stand for in UTF-8, with a replacement for what is not well
formed. -/
def decodeLeniently (bytes : List UInt8) : List Char := decodeSkipping 0 bytes

end Encoding

end Replica.Text
