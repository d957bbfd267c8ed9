import Replica.Json.Display
import Replica.Number.Numeral
import Replica.Text.Encoding
/-!
# Reading JSON documents

A document is one value with blanks around it.  Beyond the standard grammar the three names
`NaN`, `Infinity` and `-Infinity` are numbers.  A name that comes twice in an object keeps its
first place and its last value; the surrogates in a name are written by their numbers.  Integers
have at most `Numeral.maxDecimalDigits` digits, and lists and objects are nested up to a depth.

* `Json.parse`: the value of a text, if it is a document.
* `Json.decode`: the value of a sequence of bytes.
-/

namespace Replica.Json

open Text (CodePoint)

/-- Why a text has no value. -/
inductive Flaw where
  /-- It is no document. -/
  | malformed
  /-- Lists and objects are nested more deeply than is read. -/
  | tooDeep
deriving DecidableEq, Repr

/-- The code points after these characters, if they start so. -/
def after? (front : String) (ns : List CodePoint) : Option (List CodePoint) :=
  let start := CodePoint.ofChars front.toList
  if start.isPrefixOf ns then some (ns.drop start.length) else none

/-- The code points after blanks. -/
def skipBlanks (ns : List CodePoint) : List CodePoint :=
  ns.dropWhile (CodePoint.ofChars [' ', '\t', '\n', '\r']).contains

/-- The value of a hexadecimal digit. -/
def hexValue? (n : CodePoint) : Option Nat := n.char?.bind (Numeral.digit? 16)

/-- The unit that four hexadecimal digits name. -/
def readUnit : List CodePoint → Option (Nat × List CodePoint)
  | a :: b :: c :: d :: rest => do
    let a ← hexValue? a
    let b ← hexValue? b
    let c ← hexValue? c
    let d ← hexValue? d
    pure (((a * 16 + b) * 16 + c) * 16 + d, rest)
  | _ => none

/-- The code point that follows `\u`: two units of a surrogate pair make one, and a surrogate
without its pair stands for itself. -/
def readEscapedUnit (ns : List CodePoint) : Option (CodePoint × List CodePoint) := do
  let (high, rest) ← readUnit ns
  if 0xD800 ≤ high ∧ high < 0xDC00 then
    match after? "\\u" rest with
    | some more =>
      match readUnit more with
      | some (low, rest') =>
        if 0xDC00 ≤ low ∧ low < 0xE000 then
          pure (0x10000 + (high - 0xD800) * 0x400 + (low - 0xDC00), rest')
        else pure (high, rest)
      | none => none
    | none => pure (high, rest)
  else pure (high, rest)

/-- The character that a letter after a backslash stands for. -/
def escapeLetter? : Char → Option Char
  | '"' => some '"'
  | '\\' => some '\\'
  | '/' => some '/'
  | 'b' => some '\x08'
  | 'f' => some '\x0c'
  | 'n' => some '\n'
  | 'r' => some '\r'
  | 't' => some '\t'
  | _ => none

/-- Reads the rest of a text, up to its closing quote; the code points so far come in reverse. -/
def readString : Nat → List CodePoint → List CodePoint → Except Flaw (Json × List CodePoint)
  | 0, _, _ => .error .malformed
  | _ + 1, _, [] => .error .malformed
  | fuel + 1, done, n :: rest =>
    if n = '"'.toNat then .ok (ofPoints done.reverse, rest)
    else if n = '\\'.toNat then
      match rest with
      | [] => .error .malformed
      | l :: more =>
        if l = 'u'.toNat then
          match readEscapedUnit more with
          | some (u, rest') => readString fuel (u :: done) rest'
          | none => .error .malformed
        else
          match l.char?.bind escapeLetter? with
          | some e => readString fuel (e.toNat :: done) more
          | none => .error .malformed
    else if n < 0x20 then .error .malformed
    else readString fuel (n :: done) rest

/-- Whether the code point is an ASCII digit. -/
def isAsciiDigit (n : CodePoint) : Bool := 48 ≤ n && n ≤ 57

/-- The value of ASCII digits.  Many digits are halved some times, as the values of the halves
make it with one product. -/
def digitsValueWithin : (halvings : Nat) → List CodePoint → Nat
  | 0, ns => ns.foldl (fun value n => 10 * value + (n - 48)) 0
  | halvings + 1, ns =>
    if ns.length < 64 then digitsValueWithin 0 ns
    else
      let low := ns.drop (ns.length / 2)
      digitsValueWithin halvings (ns.take (ns.length / 2)) * Nat.pow 10 low.length
        + digitsValueWithin halvings low

/-- The value of ASCII digits. -/
def digitsValue (ns : List CodePoint) : Nat := digitsValueWithin 20 ns

/-- The digits of the part after the point, if there is one. -/
def readFraction (ns : List CodePoint) : List CodePoint × List CodePoint :=
  match after? "." ns with
  | some rest =>
    let digits := rest.takeWhile isAsciiDigit
    if digits.isEmpty then ([], ns) else (digits, rest.dropWhile isAsciiDigit)
  | none => ([], ns)

/-- Whether there is a minus sign, and the code points after a sign. -/
def splitSign (ns : List CodePoint) : Bool × List CodePoint :=
  match after? "-" ns with
  | some rest => (true, rest)
  | none => (false, (after? "+" ns).getD ns)

/-- The exponent of a number, if there is one. -/
def readExponent (ns : List CodePoint) : Option Int × List CodePoint :=
  match (after? "e" ns).orElse fun _ => after? "E" ns with
  | some rest =>
    let (negative, rest') := splitSign rest
    let digits := rest'.takeWhile isAsciiDigit
    if digits.isEmpty then (none, ns)
    else
      let n : Int := digitsValue digits
      (some (if negative then -n else n), rest'.dropWhile isAsciiDigit)
  | none => (none, ns)

/-- Reads a number whose sign is already read. -/
def readNumber (negative : Bool) (ns : List CodePoint) : Except Flaw (Json × List CodePoint) :=
  let whole := if ns.head? = some '0'.toNat then ['0'.toNat] else ns.takeWhile isAsciiDigit
  if whole.isEmpty then .error .malformed
  else
    let rest := ns.drop whole.length
    let (fraction, rest) := readFraction rest
    let (exponent, rest) := readExponent rest
    if fraction.isEmpty ∧ exponent.isNone then
      if Numeral.maxDecimalDigits < whole.length then .error .malformed
      else
        let n : Int := digitsValue whole
        .ok (.int (if negative then -n else n), rest)
    else
      let digits := digitsValue (whole ++ fraction)
      let scale := exponent.getD 0 - (fraction.length : Int)
      .ok (.number (.float (Binary64.ofDecimal negative digits scale)), rest)

/-- Reads a fixed word. -/
def readWord (word : String) (value : Json) (ns : List CodePoint) :
    Except Flaw (Json × List CodePoint) :=
  match after? word ns with
  | some rest => .ok (value, rest)
  | none => .error .malformed

mutual

/-- Reads one value that starts at the first code point, with at most `depth` lists and objects
around one another. -/
def readValue : (fuel depth : Nat) → List CodePoint → Except Flaw (Json × List CodePoint)
  | 0, _, _ => .error .malformed
  | _ + 1, _, [] => .error .malformed
  | fuel + 1, depth, n :: rest =>
    if n = '"'.toNat then readString fuel [] rest
    else if n = '['.toNat then
      match depth with
      | 0 => .error .tooDeep
      | depth + 1 =>
        let inner := skipBlanks rest
        match after? "]" inner with
        | some after => .ok (.array [], after)
        | none => readItems fuel depth [] inner
    else if n = '\x7b'.toNat then
      match depth with
      | 0 => .error .tooDeep
      | depth + 1 =>
        let inner := skipBlanks rest
        match after? "\x7d" inner with
        | some after => .ok (.object [], after)
        | none => readFields fuel depth [] inner
    else if n = '-'.toNat then
      if rest.head? = some 'I'.toNat then
        readWord "Infinity" (.number (.float (-Binary64.infinity))) rest
      else readNumber true rest
    else if n = 'n'.toNat then readWord "null" .null (n :: rest)
    else if n = 't'.toNat then readWord "true" (.bool true) (n :: rest)
    else if n = 'f'.toNat then readWord "false" (.bool false) (n :: rest)
    else if n = 'N'.toNat then readWord "NaN" (.number (.float Binary64.nan)) (n :: rest)
    else if n = 'I'.toNat then
      readWord "Infinity" (.number (.float Binary64.infinity)) (n :: rest)
    else readNumber false (n :: rest)

/-- Reads the items of a list from the first code point of an item; those so far come in
reverse. -/
def readItems : (fuel depth : Nat) → List Json → List CodePoint →
    Except Flaw (Json × List CodePoint)
  | 0, _, _, _ => .error .malformed
  | fuel + 1, depth, done, ns =>
    match readValue fuel depth ns with
    | .error flaw => .error flaw
    | .ok (v, rest) =>
      let rest := skipBlanks rest
      match after? "," rest, after? "]" rest with
      | some more, _ => readItems fuel depth (v :: done) (skipBlanks more)
      | none, some after => .ok (.array (v :: done).reverse, after)
      | none, none => .error .malformed

/-- Reads the fields of an object from the first code point of a name. -/
def readFields : (fuel depth : Nat) → List (String × Json) → List CodePoint →
    Except Flaw (Json × List CodePoint)
  | 0, _, _, _ => .error .malformed
  | fuel + 1, depth, done, ns =>
    match after? "\"" ns with
    | none => .error .malformed
    | some nameAndRest =>
      match readString fuel [] nameAndRest with
      | .error flaw => .error flaw
      | .ok (name, rest) =>
        match after? ":" (skipBlanks rest) with
        | none => .error .malformed
        | some more =>
          match readValue fuel depth (skipBlanks more) with
          | .error flaw => .error flaw
          | .ok (v, rest') =>
            let fields := setField name.display v done
            let rest' := skipBlanks rest'
            match after? "," rest', after? "\x7d" rest' with
            | some next, _ => readFields fuel depth fields (skipBlanks next)
            | none, some after => .ok (.object fields, after)
            | none, none => .error .malformed

end

/-- The value that code points hold, if they are a document nested up to a depth.  Every step
reads a code point or follows one that did, which the fuel allows for. -/
def parseWithin (depth : Nat) (ns : List CodePoint) : Except Flaw Json :=
  let ns := skipBlanks ns
  match readValue (2 * ns.length + 2) depth ns with
  | .ok (v, rest) => if (skipBlanks rest).isEmpty then .ok v else .error .malformed
  | .error flaw => .error flaw

/-- How deeply lists and objects are nested at most. -/
def maxDepth : Nat := 985

/-- The value that a text holds, if it is a document. -/
def parse (s : String) : Except Flaw Json := parseWithin maxDepth (CodePoint.ofChars s.toList)

/-- The value that bytes hold, if they are a document in an encoding of Unicode.  A byte order
mark in front is skipped. -/
def decode (bytes : List UInt8) : Except Flaw Json :=
  let (encoding, content) := Text.Encoding.detect bytes
  match encoding.decode content with
  | some ns => parseWithin maxDepth ns
  | none => .error .malformed

end Replica.Json
