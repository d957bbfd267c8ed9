import Replica.Number.Binary64
/-!
# Decimal text of binary64 values

A float is written with the fewest decimal digits that read back to it; of several such
decimals the nearest is taken.  The digits are selected by exact arithmetic on the float's
digits and exponent, and laid out positionally or with an exponent.

* `Decimal.shortest`: the selected digits of a positive value.
* `floatText`: the written form.
-/

namespace Replica

/-- The decimal number `digits * 10 ^ exponent`. -/
structure Decimal where
  /-- The digits. -/
  digits : Nat
  /-- The power of ten that scales them. -/
  exponent : Int
deriving DecidableEq, Repr

namespace Decimal

/-- Compares `d` with `n * 2 ^ j`, exactly. -/
def compareScaled (d : Decimal) (n : Nat) (j : Int) : Ordering :=
  compare (d.digits * Nat.pow 10 d.exponent.toNat * Nat.pow 2 (-j).toNat)
    (n * Nat.pow 2 j.toNat * Nat.pow 10 (-d.exponent).toNat)

/-- Whether `d` lies among the reals that round to `x`.  Their interval ends half way to each
neighbour of `x`; below a power of two the neighbour is half as far away.  The ends belong to
the interval exactly when the digits of `x` are even. -/
def readsBack (x : BinaryFraction) (d : Decimal) : Bool :=
  let narrow := x.mantissa == Nat.pow 2 52 && x.exponent > BinaryFraction.leastExponent
  let low := if narrow then 4 * x.mantissa - 1 else 4 * x.mantissa - 2
  let high := 4 * x.mantissa + 2
  let closed := x.mantissa % 2 == 0
  let toLow := compareScaled d low (x.exponent - 2)
  let toHigh := compareScaled d high (x.exponent - 2)
  (toLow == .gt || (closed && toLow == .eq)) && (toHigh == .lt || (closed && toHigh == .eq))

/-- The least `k` with `x < 10 ^ k`, searched upwards from a lower bound. -/
def scaleFrom (x : BinaryFraction) : Nat → Int → Int
  | 0, k => k
  | fuel + 1, k =>
    if compareScaled ⟨1, k⟩ x.mantissa x.exponent == .gt then k else scaleFrom x fuel (k + 1)

/-- The least `k` with `x < 10 ^ k`. -/
def scale (x : BinaryFraction) : Int :=
  let binary : Int := (x.mantissa.log2 : Int) + x.exponent
  scaleFrom x 4 (binary * 30103 / 100000 - 1)

/-- The decimal with last digit at `10 ^ place` that reads back to `x` and is nearest to it, if
one reads back.  Half way between two that do, the even one is taken. -/
def onGrid? (x : BinaryFraction) (place : Int) : Option Decimal :=
  let num := x.numerator * Nat.pow 10 (-place).toNat
  let den := x.denominator * Nat.pow 10 place.toNat
  let below : Decimal := ⟨num / den, place⟩
  let above : Decimal := ⟨num / den + 1, place⟩
  match readsBack x below, readsBack x above with
  | true, true => some ⟨roundDiv num den, place⟩
  | true, false => some below
  | false, true => some above
  | false, false => none

/-- Moves trailing zeros of the digits into the exponent. -/
def stripZeros : Nat → Decimal → Decimal
  | 0, d => d
  | fuel + 1, d =>
    if d.digits ≠ 0 ∧ d.digits % 10 = 0 then stripZeros fuel ⟨d.digits / 10, d.exponent + 1⟩
    else d

/-- The exact decimal value of `x`. -/
def exact (x : BinaryFraction) : Decimal :=
  if 0 ≤ x.exponent then ⟨x.numerator, 0⟩
  else ⟨x.mantissa * Nat.pow 5 (-x.exponent).toNat, x.exponent⟩

/-- The decimal with the fewest digits that reads back to the positive value `x`. -/
def shortest (x : BinaryFraction) : Decimal :=
  let k := scale x
  let found := (List.range 17).findSome? fun n => onGrid? x (k - (n + 1 : Nat))
  stripZeros 400 (found.getD (exact x))

end Decimal

/-- The decimal digits of a natural number. -/
def natDigits (n : Nat) : List Char := Nat.toDigits 10 n

/-- Zeros, then the digits of `n`, at least `width` of them together. -/
def padZeros (width : Nat) (digits : List Char) : List Char :=
  List.replicate (width - digits.length) '0' ++ digits

/-- Lays out a decimal: positionally if its leading digit stands between `10 ^ -4` and
`10 ^ 15`, with at least one digit on each side of the point, and otherwise with an exponent of
at least two digits and its sign. -/
def Decimal.layout (d : Decimal) : String :=
  let ds := natDigits d.digits
  let point : Int := (ds.length : Int) + d.exponent
  let leading := point - 1
  if -4 ≤ leading ∧ leading < 16 then
    if point ≤ 0 then
      "0." ++ String.ofList (List.replicate (-point).toNat '0' ++ ds)
    else if ds.length ≤ point then
      String.ofList (ds ++ List.replicate (point.toNat - ds.length) '0') ++ ".0"
    else
      String.ofList (ds.take point.toNat) ++ "." ++ String.ofList (ds.drop point.toNat)
  else
    let mark := String.ofList (padZeros 2 (natDigits leading.natAbs))
    let tail := if ds.length ≤ 1 then "" else "." ++ String.ofList (ds.drop 1)
    String.ofList (ds.take 1) ++ tail ++ "e" ++ (if leading < 0 then "-" else "+") ++ mark

/-- The written form of a float: the fewest digits that read back, `nan`, or `inf` with its
sign. -/
def floatText (x : Float) : String :=
  match Binary64.ofFloat x with
  | .notANumber => "nan"
  | .infinite negative => if negative then "-inf" else "inf"
  | .finite negative magnitude =>
    (if negative then "-" else "") ++
      if magnitude.mantissa = 0 then "0.0" else (Decimal.shortest magnitude).layout

end Replica
