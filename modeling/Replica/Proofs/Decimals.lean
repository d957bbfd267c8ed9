import Mathlib.Tactic.Convert
import Replica.Proofs.Numerals
import Replica.Proofs.Roundings
/-!
# Floats that are read back

A float is written with a few decimal digits.  They stand for another number than the float, but for
one that is rounded to it when it is read.

* **Rounding.**  `BinaryFraction.IsNearest` says that a number is rounded to a binary fraction, and
  `BinaryFraction.Covers` that it lies between the ends of the interval of these numbers.
* **Layout.**  `Numeral.WritesFloat` says which number the characters of a float stand for:
  positionally or with a power of ten (`Decimal.writesFloat_layout`).
* **Digits.**  What the search for digits accepts is covered (`Decimal.covers_shortest`), and so
  what is written for a finite float is read back (`exists_floatText`).
-/

namespace Replica

/-! ## Rounding -/

namespace BinaryFraction

variable {x : BinaryFraction} {q : ℚ} {num den : ℕ}

/-- It has at most 53 digits, and all of them unless they stand at the least place. -/
structure IsNormal (x : BinaryFraction) : Prop where
  digits : x.mantissa < 2 ^ 53
  least : -1074 ≤ x.exponent
  full : x.exponent = -1074 ∨ 2 ^ 52 ≤ x.mantissa

/-- Whatever quotient has this value, it is rounded to the binary fraction. -/
def IsNearest (x : BinaryFraction) (q : ℚ) : Prop :=
  ∀ num den : ℕ, 0 < den → (num : ℚ) / den = q → (nearest num den).value = x.value

/-- How far below `x` the numbers end that are rounded to it, in units of its last digit: below a
power of two the digits stand closer together. -/
def reach (x : BinaryFraction) : ℚ :=
  if x.mantissa = 2 ^ 52 ∧ -1074 < x.exponent then 1 / 4 else 1 / 2

/-- The number is among those that are rounded to `x`: the ends of their interval are if the last
digit of `x` is even. -/
structure Covers (x : BinaryFraction) (q : ℚ) : Prop where
  low : (x.mantissa - x.reach) * 2 ^ x.exponent ≤ q
  high : q ≤ (x.mantissa + 1 / 2) * 2 ^ x.exponent
  even : q = (x.mantissa - x.reach) * 2 ^ x.exponent ∨
    q = (x.mantissa + 1 / 2) * 2 ^ x.exponent → x.mantissa % 2 = 0

lemma reach_pos (x : BinaryFraction) : 0 < x.reach := by
  rw [reach]
  split_ifs <;> norm_num

lemma reach_le (x : BinaryFraction) : x.reach ≤ 1 / 2 := by
  rw [reach]
  split_ifs <;> norm_num

/-- On the scale of `x` the numbers that it covers are rounded to its digits. -/
lemma Covers.roundsTo (h : x.Covers q) : RoundsTo (q / 2 ^ x.exponent) x.mantissa := by
  have hpos : (0 : ℚ) < 2 ^ x.exponent := by positivity
  have hlow := (le_div_iff₀ hpos).mpr h.low
  have hhigh := (div_le_iff₀ hpos).mpr h.high
  have hreach := x.reach_le
  refine ⟨abs_le.mpr ⟨by linarith, by linarith⟩, fun htie => h.even ?_⟩
  rcases eq_or_eq_neg_of_abs_eq htie with heq | heq
  · exact .inr ((div_eq_iff hpos.ne').mp (by linarith))
  · exact .inl ((div_eq_iff hpos.ne').mp (by linarith))

/-- A covered quotient whose leading digit stands lower than that of `x` is just below the power of
two that `x` is, and is rounded up to it. -/
lemma Covers.value_nearest_of_lower (hx : x.IsNormal) (hnum : 0 < num) (hden : 0 < den)
    (h : x.Covers (num / den)) (hlower : (nearest num den).exponent < x.exponent) :
    (nearest num den).value = x.value := by
  have hunit : (0 : ℚ) < 2 ^ x.exponent := by positivity
  have hexponent := exponent_nearest num den
  have hfull : 2 ^ 52 ≤ x.mantissa := hx.full.resolve_left (by omega)
  have hbelow : (num : ℚ) / den < 2 ^ 52 * 2 ^ x.exponent := by
    calc (num : ℚ) / den
        < 2 ^ (leadingExponent num den + 1) := (leadingExponent_spec hnum hden).2
      _ ≤ 2 ^ (52 + x.exponent) := zpow_le_zpow_right₀ (by norm_num) (by omega)
      _ = 2 ^ 52 * 2 ^ x.exponent := by
          rw [zpow_add₀ (by norm_num)]
          norm_num
  have hmantissa : x.mantissa = 2 ^ 52 := by
    have hlt : (x.mantissa : ℚ) - x.reach < 2 ^ 52 :=
      lt_of_mul_lt_mul_right (h.low.trans_lt hbelow) hunit.le
    have hreach := x.reach_le
    have hcast : (x.mantissa : ℚ) < 2 ^ 52 + 1 := by linarith
    have : x.mantissa < 2 ^ 52 + 1 := by exact_mod_cast hcast
    omega
  have hlow : (2 ^ 52 - 1 / 4) * 2 ^ x.exponent ≤ (num : ℚ) / den := by
    have hlow := h.low
    rw [reach, if_pos ⟨hmantissa, by omega⟩, hmantissa] at hlow
    exact_mod_cast hlow
  -- it lies above half of the power of two, and so the next scale is the one it is rounded on
  have hscale : (nearest num den).exponent = x.exponent - 1 := by
    have hlt : (2 : ℚ) ^ (51 + x.exponent) < 2 ^ (leadingExponent num den + 1) := by
      calc (2 : ℚ) ^ (51 + x.exponent)
          = 2 ^ 51 * 2 ^ x.exponent := by
            rw [zpow_add₀ (by norm_num)]
            norm_num
        _ ≤ (2 ^ 52 - 1 / 4) * 2 ^ x.exponent := by
            gcongr
            norm_num
        _ ≤ num / den := hlow
        _ < 2 ^ (leadingExponent num den + 1) := (leadingExponent_spec hnum hden).2
    have := (zpow_lt_zpow_iff_right₀ (by norm_num : (1 : ℚ) < 2)).mp hlt
    omega
  have hunits : (2 : ℚ) ^ x.exponent = 2 * 2 ^ (x.exponent - 1) := by
    rw [zpow_sub_one₀ (by norm_num)]
    ring
  have hunit' : (0 : ℚ) < 2 ^ (x.exponent - 1) := by positivity
  have hup : RoundsTo (num / den / 2 ^ (x.exponent - 1)) (2 ^ 53) := by
    have habove : (2 : ℚ) ^ 53 - 1 / 2 ≤ num / den / 2 ^ (x.exponent - 1) := by
      rw [le_div_iff₀ hunit']
      rw [hunits] at hlow
      linarith
    have hbehind : (num : ℚ) / den / 2 ^ (x.exponent - 1) ≤ 2 ^ 53 := by
      rw [div_le_iff₀ hunit']
      rw [hunits] at hbelow
      linarith
    refine ⟨?_, fun _ => rfl⟩
    rw [abs_le]
    push_cast
    constructor <;> linarith
  have hround := roundsTo_nearest num hden
  rw [hscale] at hround
  rw [value, value, hround.unique hup, hscale, hmantissa, hunits]
  push_cast
  ring

/-- **What is covered is rounded to it.** -/
theorem Covers.isNearest (hx : x.IsNormal) (hpos : 0 < x.mantissa) (h : x.Covers q) :
    x.IsNearest q := by
  rintro num den hden rfl
  have hunit : (0 : ℚ) < 2 ^ x.exponent := by positivity
  have hone : (1 : ℚ) ≤ x.mantissa := by exact_mod_cast hpos
  have hdigits : (x.mantissa : ℚ) + 1 ≤ 2 ^ 53 := by exact_mod_cast hx.digits
  have hreach := x.reach_le
  have hquotient : (0 : ℚ) < num / den :=
    lt_of_lt_of_le (mul_pos (by linarith) hunit) h.low
  have hnum : 0 < num := by
    rw [Nat.pos_iff_ne_zero]
    rintro rfl
    simp at hquotient
  rcases Int.lt_or_le (nearest num den).exponent x.exponent with hlower | hsame
  · exact h.value_nearest_of_lower hx hnum hden hlower
  · -- the leading digit of the quotient is no higher than that of the greatest 53 digits
    have htop : leadingExponent num den < 53 + x.exponent := by
      have hlt : (2 : ℚ) ^ leadingExponent num den < 2 ^ (53 + x.exponent) := by
        calc (2 : ℚ) ^ leadingExponent num den
            ≤ num / den := (leadingExponent_spec hnum hden).1
          _ ≤ (x.mantissa + 1 / 2) * 2 ^ x.exponent := h.high
          _ < 2 ^ 53 * 2 ^ x.exponent := by
              gcongr
              linarith
          _ = 2 ^ (53 + x.exponent) := by
              rw [zpow_add₀ (by norm_num)]
              norm_num
      exact (zpow_lt_zpow_iff_right₀ (by norm_num)).mp hlt
    have hleast := hx.least
    have hexponent : (nearest num den).exponent = x.exponent := by
      refine le_antisymm ?_ hsame
      rw [exponent_nearest]
      omega
    have hround := roundsTo_nearest num hden
    rw [hexponent] at hround
    rw [value, value, hexponent, hround.unique h.roundsTo]

/-- Zero is rounded to it if it has no digits. -/
lemma isNearest_zero (hx : x.mantissa = 0) : x.IsNearest 0 := by
  rintro num den hden hzero
  have hround := roundsTo_nearest num hden
  rw [hzero, zero_div] at hround
  have hmantissa : (nearest num den).mantissa = 0 := hround.unique (.natCast 0)
  rw [value, value, hmantissa, hx, Nat.cast_zero, zero_mul, zero_mul]

lemma covers_value (x : BinaryFraction) : x.Covers x.value := by
  have hunit : (0 : ℚ) < 2 ^ x.exponent := by positivity
  have hreach := x.reach_pos
  have hlow : ((x.mantissa : ℚ) - x.reach) * 2 ^ x.exponent < x.value := by
    rw [value]
    gcongr
    linarith
  have hhigh : x.value < (x.mantissa + 1 / 2) * 2 ^ x.exponent := by
    rw [value]
    gcongr
    linarith
  refine ⟨hlow.le, hhigh.le, ?_⟩
  rintro (h | h)
  · exact absurd h hlow.ne'
  · exact absurd h hhigh.ne

end BinaryFraction

/-! ## Layout -/

namespace Numeral

variable {base n m : ℕ} {cs ds : List Char}

/-- Digits behind digits move these by their number. -/
lemma Writes.append (hcs : Writes base cs n) (hds : Writes base ds m) :
    Writes base (cs ++ ds) (n * base ^ ds.length + m) := by
  induction hds with
  | single digit => simpa using hcs.snoc digit
  | @snoc ds m c d _ digit ih =>
    have hsnoc := ih.snoc digit
    rw [List.append_assoc] at hsnoc
    have hvalue : (n * base ^ ds.length + m) * base + d =
        n * base ^ (ds ++ [c]).length + (m * base + d) := by
      rw [List.length_append, List.length_singleton, pow_succ]
      ring
    rwa [hvalue] at hsnoc

/-- Digits write a number. -/
lemma exists_writes (hne : cs ≠ []) (hdigits : ∀ c ∈ cs, ∃ d, digit? base c = some d) :
    ∃ n, Writes base cs n := by
  induction cs using List.reverseRecOn with
  | nil => exact absurd rfl hne
  | append_singleton cs c ih =>
    obtain ⟨d, digit⟩ := hdigits c (by simp)
    rcases eq_or_ne cs [] with rfl | hcs
    · exact ⟨d, .single digit⟩
    · obtain ⟨n, hn⟩ := ih hcs fun c hc => hdigits c (List.mem_append_left _ hc)
      exact ⟨_, hn.snoc digit⟩

lemma Writes.unique (h : Writes base cs n) (h' : Writes base cs m) : n = m := by
  have heq := (wholeDigits?_writes h).symm.trans (wholeDigits?_writes h')
  simpa using heq

/-- Digits are taken apart into two numbers. -/
lemma Writes.split (h : Writes base (cs ++ ds) n) (hcs : cs ≠ []) (hds : ds ≠ []) :
    ∃ a b, Writes base cs a ∧ Writes base ds b ∧ n = a * base ^ ds.length + b := by
  obtain ⟨a, ha⟩ := exists_writes hcs fun c hc => h.exists_digit c (List.mem_append_left _ hc)
  obtain ⟨b, hb⟩ := exists_writes hds fun c hc => h.exists_digit c (List.mem_append_right _ hc)
  exact ⟨a, b, ha, hb, h.unique (ha.append hb)⟩

lemma writes_zeros (zeros : ℕ) : Writes 10 (List.replicate (zeros + 1) '0') 0 := by
  rw [List.replicate_succ']
  exact Writes.pad (.single rfl) rfl zeros

/-- These characters are digits with a point between them. -/
inductive WritesPoint : List Char → ℚ → Prop where
  | intro {cs ds : List Char} {n m : ℕ} (whole : Writes 10 cs n) (part : Writes 10 ds m) :
    WritesPoint (cs ++ '.' :: ds) (n + m / 10 ^ ds.length)

/-- These characters write a float: with a point, or as a digit that perhaps has a point and more
digits behind it, scaled by a power of ten with a sign and at least two digits. -/
inductive WritesFloat : List Char → ℚ → Prop where
  | point {cs : List Char} {v : ℚ} (point : WritesPoint cs v) : WritesFloat cs v
  | scaled {cs ks : List Char} {v : ℚ} {k : ℕ} {negative : Bool}
    (front : WritesPoint cs v ∨ ∃ d : ℕ, Writes 10 cs d ∧ cs.length = 1 ∧ v = d)
    (power : Writes 10 ks k) (two : 2 ≤ ks.length) :
    WritesFloat (cs ++ ['e', if negative then '-' else '+'] ++ ks)
      (v * 10 ^ (if negative then -(k : ℤ) else k))

namespace Writes

lemma point_below (h : Writes 10 ds n) (zeros : ℕ) :
    WritesPoint (['0', '.'] ++ List.replicate zeros '0' ++ ds)
      (n * 10 ^ (-(zeros + ds.length : ℤ))) := by
  have hpoint := WritesPoint.intro (.single (by rfl : digit? 10 '0' = some 0))
    (h.pad (by rfl) zeros)
  rw [Nat.cast_zero, zero_add, div_eq_mul_inv, ← zpow_natCast, ← zpow_neg, List.length_append,
    List.length_replicate] at hpoint
  push_cast at hpoint
  exact hpoint

lemma point_behind (h : Writes 10 ds n) (zeros : ℕ) :
    WritesPoint (ds ++ List.replicate zeros '0' ++ ['.', '0']) (n * 10 ^ (zeros : ℤ)) := by
  have hwhole : Writes 10 (ds ++ List.replicate zeros '0') (n * 10 ^ zeros) := by
    cases zeros with
    | zero => simpa using h
    | succ zeros => simpa using h.append (writes_zeros zeros)
  convert WritesPoint.intro hwhole (.single (by rfl : digit? 10 '0' = some 0)) using 1
  simp

lemma point_between (h : Writes 10 ds n) {k : ℕ} (hk : 0 < k) (hlength : k < ds.length) :
    WritesPoint (ds.take k ++ '.' :: ds.drop k) (n * 10 ^ ((k : ℤ) - ds.length)) := by
  rw [← List.take_append_drop k ds] at h
  obtain ⟨a, b, ha, hb, rfl⟩ := h.split
    (List.ne_nil_of_length_pos (by rw [List.length_take]; omega))
    (List.ne_nil_of_length_pos (by rw [List.length_drop]; omega))
  convert WritesPoint.intro ha hb using 1
  have hscale : (k : ℤ) - ds.length = -((ds.drop k).length : ℤ) := by
    rw [List.length_drop]
    omega
  rw [hscale, zpow_neg, zpow_natCast]
  push_cast
  field_simp

/-- The first digit, with a point and the others behind it if there are any. -/
lemma front (h : Writes 10 ds n) {cs : List Char}
    (hcs : cs = ds.take 1 ++ if ds.length ≤ 1 then [] else '.' :: ds.drop 1) :
    WritesPoint cs (n * 10 ^ (1 - ds.length : ℤ)) ∨
      ∃ d : ℕ, Writes 10 cs d ∧ cs.length = 1 ∧ (n * 10 ^ (1 - ds.length : ℤ) : ℚ) = d := by
  have hpos : 0 < ds.length := List.length_pos_of_ne_nil h.ne_nil
  subst hcs
  split_ifs with hone
  · have hlength : ds.length = 1 := by omega
    refine .inr ⟨n, ?_, ?_, ?_⟩
    · rwa [List.append_nil, List.take_of_length_le hone]
    · rw [List.append_nil, List.length_take, hlength]
      rfl
    · rw [hlength]
      simp
  · exact .inl (by simpa using h.point_between Nat.one_pos (by omega))

end Writes

end Numeral

namespace Decimal

open Numeral

/-- The number that a decimal stands for. -/
def value (d : Decimal) : ℚ := d.digits * 10 ^ d.exponent

lemma le_length_padZeros (width : ℕ) (cs : List Char) : width ≤ (padZeros width cs).length := by
  rw [padZeros, List.length_append, List.length_replicate]
  omega

/-- **The layout of a decimal writes it.** -/
lemma writesFloat_layout (d : Decimal) : WritesFloat d.layout.toList d.value := by
  have hdigits : Writes 10 (natDigits d.digits) d.digits := writes_toDigits d.digits
  have hpos : 0 < (natDigits d.digits).length := List.length_pos_of_ne_nil hdigits.ne_nil
  have hmark : ∀ k : ℕ, Writes 10 (padZeros 2 (natDigits k)) k := fun k =>
    (writes_toDigits k).pad (by rfl) _
  rw [layout]
  generalize natDigits d.digits = ds at hdigits hpos
  dsimp only
  by_cases hplain : -4 ≤ (ds.length : ℤ) + d.exponent - 1 ∧ (ds.length : ℤ) + d.exponent - 1 < 16
  · rw [if_pos hplain]
    refine .point ?_
    split_ifs with hbelow hbehind
    · convert hdigits.point_below (-((ds.length : ℤ) + d.exponent)).toNat using 1
      · simp
      · rw [value]
        congr 2
        omega
    · convert hdigits.point_behind (((ds.length : ℤ) + d.exponent).toNat - ds.length) using 1
      · simp
      · rw [value]
        congr 2
        omega
    · convert hdigits.point_between (k := ((ds.length : ℤ) + d.exponent).toNat) (by omega)
        (by omega) using 1
      · simp
      · rw [value]
        congr 2
        omega
  · rw [if_neg hplain]
    generalize hleading : (ds.length : ℤ) + d.exponent - 1 = leading
    have hscaled := @WritesFloat.scaled _ _ _ _ (decide (leading < 0)) (hdigits.front rfl)
      (hmark leading.natAbs) (le_length_padZeros 2 _)
    convert hscaled using 1
    · by_cases hone : ds.length ≤ 1 <;> by_cases hnegative : leading < 0 <;>
        simp [hone, hnegative]
    · have hpower : (if decide (leading < 0) = true then -(leading.natAbs : ℤ)
          else leading.natAbs) = leading := by
        simp only [decide_eq_true_eq]
        split_ifs <;> omega
      rw [hpower, value, mul_assoc, ← zpow_add₀ (by norm_num)]
      congr 2
      omega

end Decimal

/-! ## Digits -/

namespace Decimal

variable {x : BinaryFraction} {d : Decimal}

lemma ten_zpow_eq (e : ℤ) :
    (10 : ℚ) ^ e = (Nat.pow 10 e.toNat : ℕ) / (Nat.pow 10 (-e).toNat : ℕ) := by
  exact_mod_cast BinaryFraction.natCast_zpow_eq (b := 10) (by norm_num) e

/-- Both sides of an exact comparison are scaled alike. -/
lemma exists_scale (d : Decimal) (n : ℕ) (j : ℤ) : ∃ scale : ℚ, 0 < scale ∧
    ((d.digits * Nat.pow 10 d.exponent.toNat * Nat.pow 2 (-j).toNat : ℕ) : ℚ) = d.value * scale ∧
    ((n * Nat.pow 2 j.toNat * Nat.pow 10 (-d.exponent).toNat : ℕ) : ℚ) = n * 2 ^ j * scale := by
  have hten : (0 : ℚ) < (Nat.pow 10 (-d.exponent).toNat : ℕ) := by
    exact_mod_cast Nat.pow_pos (n := (-d.exponent).toNat) (by decide : 0 < 10)
  have htwo : (0 : ℚ) < (Nat.pow 2 (-j).toNat : ℕ) := by
    exact_mod_cast Nat.pow_pos (n := (-j).toNat) (by decide : 0 < 2)
  refine ⟨_, mul_pos hten htwo, ?_, ?_⟩
  · rw [value, ten_zpow_eq, Nat.cast_mul, Nat.cast_mul]
    field_simp
  · rw [BinaryFraction.two_zpow_eq, Nat.cast_mul, Nat.cast_mul]
    field_simp

lemma compareScaled_eq_lt {n : ℕ} {j : ℤ} : compareScaled d n j = .lt ↔ d.value < n * 2 ^ j := by
  obtain ⟨scale, hscale, hleft, hright⟩ := exists_scale d n j
  rw [compareScaled, Nat.compare_eq_lt, ← Nat.cast_lt (α := ℚ), hleft, hright,
    mul_lt_mul_iff_left₀ hscale]

lemma compareScaled_eq_gt {n : ℕ} {j : ℤ} : compareScaled d n j = .gt ↔ n * 2 ^ j < d.value := by
  obtain ⟨scale, hscale, hleft, hright⟩ := exists_scale d n j
  rw [compareScaled, Nat.compare_eq_gt, ← Nat.cast_lt (α := ℚ), hleft, hright,
    mul_lt_mul_iff_left₀ hscale]

lemma compareScaled_eq_eq {n : ℕ} {j : ℤ} : compareScaled d n j = .eq ↔ d.value = n * 2 ^ j := by
  obtain ⟨scale, hscale, hleft, hright⟩ := exists_scale d n j
  rw [compareScaled, Nat.compare_eq_eq, ← Nat.cast_inj (R := ℚ), hleft, hright,
    mul_left_inj' hscale.ne']

lemma quarters (e : ℤ) : (2 : ℚ) ^ e = 4 * 2 ^ (e - 2) := by
  rw [zpow_sub₀ (by norm_num)]
  norm_num
  ring

/-- In quarters of its last digit the interval of a binary fraction ends at natural numbers. -/
lemma lowEnd_eq (hpos : 0 < x.mantissa) :
    ((if x.mantissa = Nat.pow 2 52 ∧ x.exponent > BinaryFraction.leastExponent
      then 4 * x.mantissa - 1 else 4 * x.mantissa - 2 : ℕ) : ℚ) * 2 ^ (x.exponent - 2) =
      (x.mantissa - x.reach) * 2 ^ x.exponent := by
  have hnarrow : x.mantissa = Nat.pow 2 52 ∧ x.exponent > BinaryFraction.leastExponent ↔
      x.mantissa = 2 ^ 52 ∧ -1074 < x.exponent := by
    simp [BinaryFraction.leastExponent]
  rw [BinaryFraction.reach, if_congr hnarrow rfl rfl, quarters x.exponent]
  split_ifs
  · rw [Nat.cast_sub (by omega)]
    push_cast
    ring
  · rw [Nat.cast_sub (by omega)]
    push_cast
    ring

lemma highEnd_eq (x : BinaryFraction) : ((4 * x.mantissa + 2 : ℕ) : ℚ) * 2 ^ (x.exponent - 2) =
    (x.mantissa + 1 / 2) * 2 ^ x.exponent := by
  rw [quarters x.exponent]
  push_cast
  ring

/-- The comparisons that select the digits are those with the ends of the interval. -/
lemma covers_of_readsBack (hpos : 0 < x.mantissa) (h : readsBack x d = true) :
    x.Covers d.value := by
  rw [readsBack] at h
  simp only [Bool.and_eq_true, Bool.or_eq_true, beq_iff_eq, decide_eq_true_eq, compareScaled_eq_lt,
    compareScaled_eq_gt, compareScaled_eq_eq, lowEnd_eq hpos, highEnd_eq] at h
  obtain ⟨hbelow, habove⟩ := h
  refine ⟨?_, ?_, ?_⟩
  · rcases hbelow with h | ⟨-, h⟩
    · exact h.le
    · exact h.ge
  · rcases habove with h | ⟨-, h⟩
    · exact h.le
    · exact h.le
  · rintro (h | h)
    · rcases hbelow with hlt | ⟨heven, -⟩
      · exact absurd h hlt.ne'
      · exact heven
    · rcases habove with hlt | ⟨heven, -⟩
      · exact absurd h hlt.ne
      · exact heven

lemma roundDiv_eq_or (num den : ℕ) :
    roundDiv num den = num / den ∨ roundDiv num den = num / den + 1 := by
  unfold roundDiv
  dsimp only
  split_ifs <;> simp

lemma readsBack_of_onGrid? {place : ℤ} (h : onGrid? x place = some d) : readsBack x d = true := by
  rw [onGrid?] at h
  split at h
  next hbelow habove =>
    obtain rfl := Option.some.inj h
    rcases roundDiv_eq_or (x.numerator * Nat.pow 10 (-place).toNat)
      (x.denominator * Nat.pow 10 place.toNat) with hround | hround
    · rwa [hround]
    · rwa [hround]
  next hbelow _ => exact Option.some.inj h ▸ hbelow
  next habove => exact Option.some.inj h ▸ habove
  next => cases h

lemma value_exact (x : BinaryFraction) : (exact x).value = x.value := by
  rw [exact, value]
  split_ifs with hwhole
  · rw [BinaryFraction.value_eq, BinaryFraction.denominator, Int.toNat_of_nonpos (by omega)]
    simp
  · obtain ⟨k, hk⟩ : ∃ k : ℕ, x.exponent = -k := ⟨(-x.exponent).toNat, by omega⟩
    rw [BinaryFraction.value, hk]
    have hten : (10 : ℚ) ^ k = 5 ^ k * 2 ^ k := by rw [← mul_pow]; norm_num
    simp only [neg_neg, Int.toNat_natCast, Nat.pow_eq, zpow_neg, zpow_natCast, hten]
    push_cast
    field_simp

lemma value_stripZeros (fuel : ℕ) (d : Decimal) : (stripZeros fuel d).value = d.value := by
  induction fuel generalizing d with
  | zero => rfl
  | succ fuel ih =>
    rw [stripZeros]
    split_ifs with h
    · have hdigits : d.digits = d.digits / 10 * 10 := by omega
      rw [ih, value, value, zpow_add_one₀ (by norm_num)]
      conv_rhs => rw [hdigits]
      push_cast
      ring
    · rfl

/-- **The digits that are selected read back.** -/
lemma covers_shortest (hpos : 0 < x.mantissa) : x.Covers (shortest x).value := by
  rw [shortest]
  rw [value_stripZeros]
  rcases hfound : (List.range 17).findSome? fun n => onGrid? x (scale x - (n + 1 : ℕ)) with _ | d
  · rw [Option.getD_none, value_exact]
    exact x.covers_value
  · obtain ⟨n, -, hn⟩ := List.exists_of_findSome?_eq_some hfound
    exact covers_of_readsBack hpos (readsBack_of_onGrid? hn)

end Decimal

/-- What a finite float stands for has as many digits as there is room for. -/
lemma isNormal_of_ofFloat {x : Float} {negative : Bool} {magnitude : BinaryFraction}
    (h : Binary64.ofFloat x = .finite negative magnitude) : magnitude.IsNormal := by
  have hdigits : (x.toBits &&& 0xFFFFFFFFFFFFF).toNat < 2 ^ 52 := by
    rw [UInt64.toNat_and]
    exact Nat.lt_of_le_of_lt Nat.and_le_right (by decide)
  rw [Binary64.ofFloat] at h
  generalize (x.toBits &&& 0xFFFFFFFFFFFFF).toNat = digits at h hdigits
  split_ifs at h with _ _ hleast
  · obtain ⟨rfl, rfl⟩ := Binary64.finite.inj h
    exact ⟨by dsimp only; omega, le_rfl, .inl rfl⟩
  · obtain ⟨rfl, rfl⟩ := Binary64.finite.inj h
    refine ⟨?_, ?_, .inr ?_⟩
    · dsimp only
      norm_num
      omega
    · dsimp only
      omega
    · dsimp only
      norm_num

/-- **A finite float is written so that it is read back.** -/
theorem exists_floatText {x : Float} {negative : Bool} {magnitude : BinaryFraction}
    (h : Binary64.ofFloat x = .finite negative magnitude) :
    ∃ cs v, Numeral.WritesFloat cs v ∧ magnitude.IsNearest v ∧
      floatText x = (if negative then "-" else "") ++ String.ofList cs := by
  rw [floatText, h]
  dsimp only
  by_cases hzero : magnitude.mantissa = 0
  · rw [if_pos hzero]
    have hzeros : Numeral.WritesPoint (['0'] ++ ['.', '0']) ((0 : ℕ) + (0 : ℕ) / 10 ^ 1) :=
      .intro (.single rfl) (.single rfl)
    refine ⟨_, _, .point hzeros, ?_, rfl⟩
    simpa using BinaryFraction.isNearest_zero hzero
  · have hpos : 0 < magnitude.mantissa := Nat.pos_of_ne_zero hzero
    rw [if_neg hzero]
    exact ⟨_, _, Decimal.writesFloat_layout _,
      (Decimal.covers_shortest hpos).isNearest (isNormal_of_ofFloat h) hpos,
      by rw [String.ofList_toList]⟩

end Replica
