/-!
# Rounding quotients

A quotient of naturals is rounded to an integer, or to a number with 53 significant binary
digits.  Both go to the nearest candidate, and an exact tie goes to the even one.

* `roundDiv`: the integer nearest to a quotient.
* `BinaryFraction.nearest`: the 53-digit binary fraction nearest to a quotient.
-/

namespace Replica

/-- The integer nearest to `num / den`; a quotient half way between two integers goes to the
even one. -/
def roundDiv (num den : Nat) : Nat :=
  let q := num / den
  let r := num % den
  if 2 * r < den then q
  else if den < 2 * r then q + 1
  else if q % 2 = 0 then q
  else q + 1

/-- A natural number scaled by a power of two, `mantissa * 2 ^ exponent`. -/
structure BinaryFraction where
  /-- The digits. -/
  mantissa : Nat
  /-- The power of two that scales them. -/
  exponent : Int
deriving DecidableEq, Repr

namespace BinaryFraction

/-- The numerator of the value written over `denominator`. -/
def numerator (x : BinaryFraction) : Nat :=
  x.mantissa * Nat.pow 2 x.exponent.toNat

/-- The power of two under the value when its exponent is negative. -/
def denominator (x : BinaryFraction) : Nat :=
  Nat.pow 2 (-x.exponent).toNat

/-- The exponent `e` with `2 ^ e ≤ num / den < 2 ^ (e + 1)`, for a positive quotient. -/
def leadingExponent (num den : Nat) : Int :=
  let guess : Int := (num.log2 : Int) - (den.log2 : Int)
  if num * Nat.pow 2 (-guess).toNat < den * Nat.pow 2 guess.toNat then guess - 1 else guess

/-- The least exponent that a binary64 value can carry. -/
def leastExponent : Int := -1074

/-- The value with at most 53 binary digits nearest to `num / den`; below the normal range the
digits end at `2 ^ leastExponent`, as those of binary64 do. -/
def nearest (num den : Nat) : BinaryFraction :=
  let exponent := max (leadingExponent num den - 52) leastExponent
  ⟨roundDiv (num * Nat.pow 2 (-exponent).toNat) (den * Nat.pow 2 exponent.toNat), exponent⟩

/-- Whether the value lies below `2 ^ 1024`, the end of the binary64 range. -/
def inRange (x : BinaryFraction) : Bool :=
  x.numerator < Nat.pow 2 1024 * x.denominator

end BinaryFraction

end Replica
