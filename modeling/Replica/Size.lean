import Replica.Failure
/-!
# Sizes in words

A size is written in bytes below 1024, and otherwise in KB, MB or GB with one decimal place.
The quotient goes through the nearest value with 53 binary digits before it is rounded to its
place, ties going to the even digit; a size whose quotient leaves the binary64 range has no
text.

* `Size.ofInt`: an integer size.
* `Size.ofJson`: a size of unknown kind.
-/

namespace Replica.Size

/-- A unit above the byte. -/
inductive Unit where
  /-- 1024 bytes. -/
  | kilo
  /-- 1024 kilobytes. -/
  | mega
  /-- 1024 megabytes. -/
  | giga
deriving DecidableEq, Repr

/-- How often 1024 bytes are taken to make the unit. -/
def Unit.power : Unit → Nat
  | kilo => 1
  | mega => 2
  | giga => 3

/-- The sign of the unit. -/
def Unit.sign : Unit → String
  | kilo => "KB"
  | mega => "MB"
  | giga => "GB"

/-- The unit for a size of at least 1024 bytes. -/
def unitFor (n : Number) : Unit :=
  if n.less (.int (1024 * 1024)) then .kilo
  else if n.less (.int (1024 * 1024 * 1024)) then .mega
  else .giga

/-- The number of units in `n` bytes, in tenths, if the quotient is in range. -/
def tenthsOf? (n : Nat) (u : Unit) : Option Nat :=
  let quotient := BinaryFraction.nearest n 1024
  if quotient.inRange then
    some (roundDiv (10 * quotient.numerator) (quotient.denominator * Nat.pow 1024 (u.power - 1)))
  else none

/-- A number of tenths with its unit. -/
def withUnit (t : Nat) (u : Unit) : String :=
  toString (t / 10) ++ "." ++ toString (t % 10) ++ " " ++ u.sign

/-- The text of an integer size. -/
def ofInt (n : Int) : Except ValueFault String :=
  if n < 1024 then .ok (toString n ++ " B")
  else
    let u := unitFor (.int n)
    match tenthsOf? n.toNat u with
    | some t => .ok (withUnit t u)
    | none => .error .quotientOutOfRange

/-- The text of a size that is a float.  Division by a power of two is exact, so the text is
that of the exact quotient. -/
def ofFloat (x : Float) : String :=
  if Number.less (.float x) (.int 1024) then floatText x ++ " B"
  else
    let u := unitFor (.float x)
    match Binary64.ofFloat x with
    | .finite _ magnitude =>
      let scale := magnitude.denominator * Nat.pow 1024 u.power
      withUnit (roundDiv (10 * magnitude.numerator) scale) u
    | _ => floatText x ++ " " ++ u.sign

/-- The text of a number of bytes. -/
def ofNumber : Number → Except ValueFault String
  | .int n => ofInt n
  | .float x => .ok (ofFloat x)

/-- The text of a size of unknown kind.  A truth value counts as one or zero and is written as
itself. -/
def ofJson : Json → Except ValueFault String
  | .number n => ofNumber n
  | .bool b => .ok ((Json.bool b).display ++ " B")
  | other => .error (.unordered ⟨other.kindName, "int"⟩)

end Replica.Size
