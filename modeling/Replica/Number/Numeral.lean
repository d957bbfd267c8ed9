import Replica.Text.Blank
import Replica.Text.Digit
/-!
# Integer numerals

Integers are read from text that people and devices write: blank characters around them, a
sign, single underscores between digits, and decimal digits of any script are accepted.  A
literal may name its base by a `0x`, `0o` or `0b` in front and has no leading zeros otherwise.
Numerals in base ten have at most `maxDecimalDigits` digits.

* `Numeral.readDecimal`: an integer in base ten.
* `Numeral.readLiteral`: an integer in the base that its first characters name.
* `Numeral.hexPadded`: an integer in upper-case hexadecimal, padded with zeros.
-/

namespace Replica

/-- Why a text is no integer numeral. -/
inductive NumeralError where
  /-- The text is not of the form of a numeral. -/
  | malformed
  /-- The numeral is well formed and has more digits than are converted. -/
  | tooManyDigits (count : Nat)
deriving DecidableEq, Repr

namespace Numeral

/-- The most digits of a decimal numeral that are converted, to or from text. -/
def maxDecimalDigits : Nat := 4300

/-- How a character counts inside a numeral: beyond ASCII a decimal digit counts as the ASCII
digit of its value, a blank as a space, and anything else as a character of no numeral. -/
def plainChar (c : Char) : Char :=
  if c.toNat < 0x80 then c
  else if Text.isWideBlank c then ' '
  else
    match Text.decimalDigit? c with
    | some d => Char.ofNat (48 + d)
    | none => '?'

/-- The value of an ASCII digit or letter as a digit, if it is below the base. -/
def digit? (base : Nat) (c : Char) : Option Nat :=
  let n := c.toNat
  let value :=
    if 48 ≤ n ∧ n ≤ 57 then some (n - 48)
    else if 97 ≤ n ∧ n ≤ 122 then some (n - 87)
    else if 65 ≤ n ∧ n ≤ 90 then some (n - 55)
    else none
  value.filter (· < base)

/-- The value and the number of the digits read so far. -/
structure Digits where
  /-- The value of the digits. -/
  value : Nat
  /-- How many there are. -/
  count : Nat
deriving DecidableEq, Repr

/-- Adds one digit at the end. -/
def Digits.push (ds : Digits) (base d : Nat) : Digits :=
  ⟨ds.value * base + d, ds.count + 1⟩

/-- Reads digits up to the first character that is neither a digit nor an underscore, and gives
what is left.  An underscore has to stand between two digits. -/
def scanDigits (base : Nat) : (afterUnderscore : Bool) → Digits → List Char →
    Option (Digits × List Char)
  | afterUnderscore, ds, [] => if afterUnderscore || ds.count == 0 then none else some (ds, [])
  | afterUnderscore, ds, c :: rest =>
    if c = '_' then
      if afterUnderscore || ds.count == 0 then none else scanDigits base true ds rest
    else
      match digit? base c with
      | some d => scanDigits base false (ds.push base d) rest
      | none => if afterUnderscore || ds.count == 0 then none else some (ds, c :: rest)

/-- The digits that make up a whole text but for blanks at its end. -/
def wholeDigits? (base : Nat) (cs : List Char) : Option Digits :=
  match scanDigits base false ⟨0, 0⟩ cs with
  | some (ds, rest) => if rest.all Text.isPlainBlank then some ds else none
  | none => none

/-- Splits a sign off. -/
def splitSign : List Char → Bool × List Char
  | '+' :: rest => (false, rest)
  | '-' :: rest => (true, rest)
  | cs => (false, cs)

/-- An integer from its sign and its digits in base ten, within the limit on their number. -/
def ofDecimalDigits (negative : Bool) (ds : Digits) : Except NumeralError Int :=
  if maxDecimalDigits < ds.count then .error (.tooManyDigits ds.count)
  else .ok (if negative then -(ds.value : Int) else ds.value)

/-- The characters of a numeral without the blanks in front, and its sign. -/
def prepare (s : String) : Bool × List Char :=
  splitSign ((s.toList.map plainChar).dropWhile Text.isPlainBlank)

/-- Reads an integer in base ten.  The digits are counted before it is asked what follows
them. -/
def readDecimal (s : String) : Except NumeralError Int :=
  let (negative, cs) := prepare s
  match scanDigits 10 false ⟨0, 0⟩ cs with
  | some (ds, rest) =>
    match ofDecimalDigits negative ds with
    | .ok n => if rest.all Text.isPlainBlank then .ok n else .error .malformed
    | .error fault => .error fault
  | none => .error .malformed

/-- The base that the first characters of a literal name, and what follows them.  One
underscore may stand between the two. -/
def splitBase : List Char → Option (Nat × List Char)
  | '0' :: c :: rest =>
    let base? :=
      if c = 'x' ∨ c = 'X' then some 16
      else if c = 'o' ∨ c = 'O' then some 8
      else if c = 'b' ∨ c = 'B' then some 2
      else none
    base?.map fun base =>
      match rest with
      | '_' :: digits => (base, digits)
      | _ => (base, rest)
  | _ => none

/-- Reads an integer in the base that its first characters name, or in base ten; a numeral in
base ten starts with a zero only if all its digits are zeros. -/
def readLiteral (s : String) : Except NumeralError Int :=
  let (negative, cs) := prepare s
  match splitBase cs with
  | some (base, digits) =>
    match wholeDigits? base digits with
    | some ds => .ok (if negative then -(ds.value : Int) else ds.value)
    | none => .error .malformed
  | none =>
    match wholeDigits? 10 cs with
    | some ds =>
      if cs.head? = some '0' ∧ ds.value ≠ 0 then .error .malformed
      else ofDecimalDigits negative ds
    | none => .error .malformed

/-- The value of a text that holds decimal digits only. -/
def readPlainDigits? (s : String) : Option Nat :=
  s.toList.foldlM (fun n c => (Text.decimalDigit? c).map (10 * n + ·)) 0

/-- The upper-case digit of value `d < 16`. -/
def hexUpperDigit (d : Nat) : Char :=
  if d < 10 then Char.ofNat (48 + d) else Char.ofNat (55 + d)

/-- The upper-case hexadecimal digits of a natural number. -/
def hexUpper (n : Nat) : List Char :=
  if n < 16 then [hexUpperDigit n] else hexUpper (n / 16) ++ [hexUpperDigit (n % 16)]

/-- The integer in upper-case hexadecimal, with zeros after the sign so that at least `width`
characters are written. -/
def hexPadded (width : Nat) (n : Int) : String :=
  let digits := hexUpper n.natAbs
  if n < 0 then
    String.ofList ('-' :: (List.replicate (width - 1 - digits.length) '0' ++ digits))
  else String.ofList (List.replicate (width - digits.length) '0' ++ digits)

end Numeral

end Replica
