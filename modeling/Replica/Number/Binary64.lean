import Replica.Number.Rounding
/-!
# Binary64 values as exact numbers

A `Float` is taken apart into sign, digits and exponent, and put together again from a binary
fraction, so that comparisons, truncation and conversions are done on exact integers.

* `Binary64.ofFloat`: what a float stands for.
* `Binary64.ofQuotient?`: the float nearest to a quotient, if it is in range.
-/

namespace Replica

/-- What a binary64 float stands for. -/
inductive Binary64 where
  /-- No number at all. -/
  | notANumber
  /-- An infinity. -/
  | infinite (negative : Bool)
  /-- A finite value, with its sign. -/
  | finite (negative : Bool) (magnitude : BinaryFraction)
deriving DecidableEq, Repr

namespace Binary64

/-- The meaning of a float, read off its bits. -/
def ofFloat (x : Float) : Binary64 :=
  let bits := x.toBits
  let negative := bits >>> 63 == 1
  let exponent := ((bits >>> 52) &&& 0x7FF).toNat
  let digits := (bits &&& 0xFFFFFFFFFFFFF).toNat
  if exponent = 0x7FF then
    if digits = 0 then .infinite negative else .notANumber
  else if exponent = 0 then .finite negative ⟨digits, BinaryFraction.leastExponent⟩
  else .finite negative ⟨Nat.pow 2 52 + digits, (exponent : Int) - 1075⟩

/-- The float with the given sign and a magnitude of at most 53 digits that is in range. -/
def toFloat (negative : Bool) (x : BinaryFraction) : Float :=
  let sign : UInt64 := if negative then 0x8000000000000000 else 0
  if x.mantissa < Nat.pow 2 52 then Float.ofBits (sign ||| x.mantissa.toUInt64)
  else if x.mantissa = Nat.pow 2 53 then
    Float.ofBits (sign ||| ((x.exponent + 1076).toNat.toUInt64 <<< 52))
  else
    let digits := (x.mantissa - Nat.pow 2 52).toUInt64
    Float.ofBits (sign ||| ((x.exponent + 1075).toNat.toUInt64 <<< 52) ||| digits)

/-- Positive infinity. -/
def infinity : Float := Float.ofBits 0x7FF0000000000000

/-- The value that is no number. -/
def nan : Float := Float.ofBits 0x7FF8000000000000

/-- The float nearest to `num / den` with the given sign, unless that lies beyond the range. -/
def ofQuotient? (negative : Bool) (num den : Nat) : Option Float :=
  let x := BinaryFraction.nearest num den
  if num = 0 then some (toFloat negative ⟨0, 0⟩)
  else if x.inRange then some (toFloat negative x)
  else none

/-- The float nearest to `digits * 10 ^ exponent`; beyond the range it is infinite.  Exponents
far outside the range are answered without computing the power. -/
def ofDecimal (negative : Bool) (digits : Nat) (exponent : Int) : Float :=
  let infinite := if negative then -infinity else infinity
  let zero := toFloat negative ⟨0, 0⟩
  let size : Int := (digits.log2 : Int) / 3 + 1
  if digits = 0 then zero
  else if exponent > 400 then infinite
  else if exponent + size < -400 then zero
  else
    let num := digits * Nat.pow 10 exponent.toNat
    let den := Nat.pow 10 (-exponent).toNat
    (ofQuotient? negative num den).getD infinite

/-- The float nearest to an integer, unless that lies beyond the range. -/
def ofInt? (n : Int) : Option Float :=
  ofQuotient? (decide (n < 0)) n.natAbs 1

end Binary64

end Replica
