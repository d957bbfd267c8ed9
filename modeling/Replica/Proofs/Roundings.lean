import Mathlib.Algebra.Order.Field.Power
import Mathlib.Algebra.Order.Ring.Rat
import Mathlib.Data.Nat.Cast.Order.Field
import Mathlib.Tactic.FieldSimp
import Mathlib.Tactic.Linarith
import Mathlib.Tactic.NormNum
import Mathlib.Tactic.Positivity
import Mathlib.Tactic.Ring
import Replica.Number.Rounding
/-!
# Rounded quotients

Quotients are rounded to integers and to binary fractions by arithmetic on naturals alone.  Here
both are compared with the rational numbers that they stand for.

* **Integers.**  `RoundsTo` says what the nearest integer is, ties going to the even one.  There is
  only one (`RoundsTo.unique`), it grows with what is rounded (`RoundsTo.mono`), and `roundDiv`
  gives it (`roundsTo_roundDiv`).
* **Binary fractions.**  `BinaryFraction.nearest` rounds to an integer on the scale that the leading
  digit sets.  What 53 digits can express is not changed (`BinaryFraction.value_nearest_of_exact`),
  and a greater quotient is rounded to a value that is no less
  (`BinaryFraction.value_nearest_mono`).
-/

namespace Replica

/-! ## Integers -/

/-- The integer is nearest to `q`, and if there are two of these it is the even one. -/
structure RoundsTo (q : ℚ) (n : ℕ) : Prop where
  near : |q - n| ≤ 1 / 2
  even : |q - n| = 1 / 2 → n % 2 = 0

namespace RoundsTo

variable {q q' : ℚ} {m n n' : ℕ}

lemma natCast (n : ℕ) : RoundsTo n n := by
  constructor <;> norm_num

lemma mono (hq : q ≤ q') (h : RoundsTo q n) (h' : RoundsTo q' n') : n ≤ n' := by
  by_contra hlt
  have hstep : (n' : ℚ) + 1 ≤ n := by exact_mod_cast Nat.lt_of_not_le hlt
  obtain ⟨hlow, hhigh⟩ := abs_le.mp h.near
  obtain ⟨hlow', hhigh'⟩ := abs_le.mp h'.near
  -- both lie half way between the same two integers, and so both integers are even
  have hn : n = n' + 1 := by
    have hle : (n : ℚ) ≤ n' + 1 := by linarith
    have : n ≤ n' + 1 := by exact_mod_cast hle
    omega
  have heven : n % 2 = 0 := h.even (by rw [abs_of_nonpos (by linarith)]; linarith)
  have heven' : n' % 2 = 0 := h'.even (by rw [abs_of_nonneg (by linarith)]; linarith)
  omega

lemma unique (h : RoundsTo q n) (h' : RoundsTo q n') : n = n' :=
  Nat.le_antisymm (mono le_rfl h h') (mono le_rfl h' h)

lemma le_of_le (h : RoundsTo q n) (hq : q ≤ m) : n ≤ m := mono hq h (natCast m)

lemma le_of_ge (h : RoundsTo q n) (hq : m ≤ q) : m ≤ n := mono hq (natCast m) h

end RoundsTo

/-- Rounding a quotient is a matter of naturals. -/
lemma roundsTo_div {num den n : ℕ} (hden : 0 < den) (hlow : 2 * (n * den) ≤ 2 * num + den)
    (hhigh : 2 * num ≤ 2 * (n * den) + den)
    (heven : 2 * (n * den) = 2 * num + den ∨ 2 * num = 2 * (n * den) + den → n % 2 = 0) :
    RoundsTo (num / den) n := by
  have hpos : (0 : ℚ) < den := by exact_mod_cast hden
  have hdistance : |(num : ℚ) / den - n| = |(num : ℚ) - n * den| / den := by
    rw [← abs_of_pos hpos, ← abs_div, abs_of_pos hpos, sub_div, mul_div_cancel_right₀ _ hpos.ne']
  have hlow' : (2 * (n * den) : ℚ) ≤ 2 * num + den := by exact_mod_cast hlow
  have hhigh' : (2 * num : ℚ) ≤ 2 * (n * den) + den := by exact_mod_cast hhigh
  constructor
  · rw [hdistance, div_le_iff₀ hpos, abs_le]
    constructor <;> linarith
  · intro htie
    rw [hdistance, div_eq_iff hpos.ne'] at htie
    refine heven ?_
    rcases eq_or_eq_neg_of_abs_eq htie with h | h
    · refine Or.inr ?_
      have hnum : (2 * num : ℚ) = 2 * (n * den) + den := by linarith
      exact_mod_cast hnum
    · refine Or.inl ?_
      have hnum : (2 * (n * den) : ℚ) = 2 * num + den := by linarith
      exact_mod_cast hnum

lemma roundsTo_roundDiv (num : ℕ) {den : ℕ} (hden : 0 < den) :
    RoundsTo (num / den) (roundDiv num den) := by
  have hsplit : num / den * den + num % den = num := Nat.div_add_mod' num den
  have hrest : num % den < den := Nat.mod_lt num hden
  have hnext : (num / den + 1) * den = num / den * den + den := Nat.succ_mul _ _
  unfold roundDiv
  dsimp only
  split_ifs with hbelow habove heven
  · exact roundsTo_div hden (by omega) (by omega) (by omega)
  · exact roundsTo_div hden (by omega) (by omega) (by omega)
  · exact roundsTo_div hden (by omega) (by omega) (by omega)
  · exact roundsTo_div hden (by omega) (by omega) (by omega)

/-! ## Binary fractions -/

namespace BinaryFraction

variable {num den num' den' m : ℕ} {j : ℤ}

/-- The number that a binary fraction stands for. -/
def value (x : BinaryFraction) : ℚ := x.mantissa * 2 ^ x.exponent

lemma denominator_pos (x : BinaryFraction) : 0 < x.denominator :=
  Nat.pow_pos (by decide)

/-- A power is a quotient of naturals, one of which is one. -/
lemma natCast_zpow_eq {b : ℕ} (hb : (b : ℚ) ≠ 0) (e : ℤ) :
    (b : ℚ) ^ e = (Nat.pow b e.toNat : ℕ) / (Nat.pow b (-e).toNat : ℕ) := by
  simp only [Nat.pow_eq, Nat.cast_pow]
  rw [← zpow_natCast, ← zpow_natCast, ← zpow_sub₀ hb]
  congr 1
  omega

lemma two_zpow_eq (e : ℤ) :
    (2 : ℚ) ^ e = (Nat.pow 2 e.toNat : ℕ) / (Nat.pow 2 (-e).toNat : ℕ) := by
  exact_mod_cast natCast_zpow_eq (b := 2) (by norm_num) e

lemma value_eq (x : BinaryFraction) : x.value = x.numerator / x.denominator := by
  rw [value, two_zpow_eq, numerator, denominator, Nat.cast_mul, mul_div_assoc]

lemma numerator_pos {x : BinaryFraction} (h : 0 < x.value) : 0 < x.numerator := by
  rw [Nat.pos_iff_ne_zero]
  intro hzero
  rw [value_eq, hzero] at h
  simp at h

lemma between_powers (hnum : 0 < num) (hden : 0 < den) :
    (2 : ℚ) ^ ((num.log2 : ℤ) - den.log2 - 1) ≤ num / den ∧
      (num : ℚ) / den < 2 ^ ((num.log2 : ℤ) - den.log2 + 1) := by
  have hpos : (0 : ℚ) < den := by exact_mod_cast hden
  have hnum₁ : (2 : ℚ) ^ num.log2 ≤ num := by exact_mod_cast Nat.log2_self_le hnum.ne'
  have hnum₂ : (num : ℚ) < 2 ^ (num.log2 + 1) := by exact_mod_cast Nat.lt_log2_self
  have hden₁ : (2 : ℚ) ^ den.log2 ≤ den := by exact_mod_cast Nat.log2_self_le hden.ne'
  have hden₂ : (den : ℚ) < 2 ^ (den.log2 + 1) := by exact_mod_cast Nat.lt_log2_self
  constructor
  · calc (2 : ℚ) ^ ((num.log2 : ℤ) - den.log2 - 1)
        = 2 ^ num.log2 / 2 ^ (den.log2 + 1) := by
          rw [← zpow_natCast, ← zpow_natCast, ← zpow_sub₀ (by norm_num)]
          congr 1
          push_cast
          ring
      _ ≤ num / den := div_le_div₀ (by positivity) hnum₁ hpos hden₂.le
  · calc (num : ℚ) / den
        < 2 ^ (num.log2 + 1) / 2 ^ den.log2 :=
          div_lt_div₀ hnum₂ hden₁ (by positivity) (by positivity)
      _ = 2 ^ ((num.log2 : ℤ) - den.log2 + 1) := by
          rw [← zpow_natCast, ← zpow_natCast, ← zpow_sub₀ (by norm_num)]
          congr 1
          push_cast
          ring

/-- The leading exponent is that of the greatest power of two that is not above the quotient. -/
lemma leadingExponent_spec (hnum : 0 < num) (hden : 0 < den) :
    (2 : ℚ) ^ leadingExponent num den ≤ num / den ∧
      (num : ℚ) / den < 2 ^ (leadingExponent num den + 1) := by
  have hpos : (0 : ℚ) < den := by exact_mod_cast hden
  obtain ⟨hlow, hhigh⟩ := between_powers hnum hden
  have hbelow : ∀ e : ℤ, num * Nat.pow 2 (-e).toNat < den * Nat.pow 2 e.toNat ↔
      (num : ℚ) / den < 2 ^ e := by
    intro e
    have hscale : (0 : ℚ) < (Nat.pow 2 (-e).toNat : ℕ) := by
      exact_mod_cast Nat.pow_pos (n := (-e).toNat) (by decide : 0 < 2)
    rw [two_zpow_eq, div_lt_div_iff₀ hpos hscale, mul_comm _ (den : ℚ)]
    exact_mod_cast Iff.rfl
  unfold leadingExponent
  dsimp only
  split_ifs with h
  · rw [hbelow] at h
    exact ⟨hlow, by rwa [sub_add_cancel]⟩
  · rw [hbelow, not_lt] at h
    exact ⟨h, hhigh⟩

lemma leadingExponent_eq (hnum : 0 < num) (hden : 0 < den) (hlow : (2 : ℚ) ^ j ≤ num / den)
    (hhigh : (num : ℚ) / den < 2 ^ (j + 1)) : leadingExponent num den = j := by
  obtain ⟨hlead, hnext⟩ := leadingExponent_spec hnum hden
  have hle := (zpow_lt_zpow_iff_right₀ (by norm_num : (1 : ℚ) < 2)).mp (hlow.trans_lt hnext)
  have hge := (zpow_lt_zpow_iff_right₀ (by norm_num : (1 : ℚ) < 2)).mp (hlead.trans_lt hhigh)
  omega

lemma exponent_nearest (num den : ℕ) :
    (nearest num den).exponent = max (leadingExponent num den - 52) (-1074) := rfl

lemma roundsTo_nearest (num : ℕ) (hden : 0 < den) :
    RoundsTo (num / den / 2 ^ (nearest num den).exponent) (nearest num den).mantissa := by
  have hpos : 0 < den * Nat.pow 2 (nearest num den).exponent.toNat :=
    Nat.mul_pos hden (Nat.pow_pos (by decide))
  have hround := roundsTo_roundDiv (num * Nat.pow 2 (-(nearest num den).exponent).toNat) hpos
  rw [two_zpow_eq, div_div_div_eq]
  push_cast at hround ⊢
  exact hround

/-- At most 53 digits are left, or the next power of two. -/
lemma mantissa_nearest_le (hnum : 0 < num) (hden : 0 < den) :
    (nearest num den).mantissa ≤ 2 ^ 53 := by
  refine (roundsTo_nearest num hden).le_of_le ?_
  rw [div_le_iff₀ (by positivity)]
  calc (num : ℚ) / den
      ≤ 2 ^ (leadingExponent num den + 1) := (leadingExponent_spec hnum hden).2.le
    _ ≤ 2 ^ (53 + (nearest num den).exponent) := by
        refine zpow_le_zpow_right₀ (by norm_num) ?_
        rw [exponent_nearest]
        omega
    _ = ((2 ^ 53 : ℕ) : ℚ) * 2 ^ (nearest num den).exponent := by
        rw [zpow_add₀ (by norm_num)]
        norm_num

lemma value_nearest_of_fits (hnum : 0 < num) (hden : 0 < den) (hm : m < 2 ^ 53) (hj : -1074 ≤ j)
    (hexact : (num : ℚ) / den = m * 2 ^ j) : (nearest num den).value = num / den := by
  have hlead : leadingExponent num den < 53 + j := by
    have hlt : (2 : ℚ) ^ leadingExponent num den < 2 ^ (53 + j) := by
      calc (2 : ℚ) ^ leadingExponent num den
          ≤ m * 2 ^ j := hexact ▸ (leadingExponent_spec hnum hden).1
        _ < 2 ^ 53 * 2 ^ j := by
            have hcast : (m : ℚ) < 2 ^ 53 := by exact_mod_cast hm
            gcongr
        _ = 2 ^ (53 + j) := by rw [zpow_add₀ (by norm_num)]; norm_num
    exact (zpow_lt_zpow_iff_right₀ (by norm_num)).mp hlt
  obtain ⟨k, hk⟩ : ∃ k : ℕ, j = k + (nearest num den).exponent := by
    refine ⟨(j - (nearest num den).exponent).toNat, ?_⟩
    rw [exponent_nearest]
    omega
  -- on the scale of the leading digit the quotient is an integer already
  have hint : (num : ℚ) / den / 2 ^ (nearest num den).exponent = ((m * 2 ^ k : ℕ) : ℚ) := by
    rw [hexact, hk, zpow_add₀ (by norm_num), ← mul_assoc, mul_div_cancel_right₀ _ (by positivity)]
    push_cast
    rw [zpow_natCast]
  have hmantissa : (nearest num den).mantissa = m * 2 ^ k :=
    (hint ▸ roundsTo_nearest num hden).unique (RoundsTo.natCast _)
  rw [value, hmantissa, ← hint, div_mul_cancel₀ _ (by positivity)]

/-- **What 53 digits can express is not changed.** -/
lemma value_nearest_of_exact (hnum : 0 < num) (hden : 0 < den) (hm : m ≤ 2 ^ 53) (hj : -1074 ≤ j)
    (hexact : (num : ℚ) / den = m * 2 ^ j) : (nearest num den).value = num / den := by
  rcases Nat.lt_or_eq_of_le hm with hm | rfl
  · exact value_nearest_of_fits hnum hden hm hj hexact
  · -- the power of two has a single digit
    refine value_nearest_of_fits (m := 1) (j := j + 53) hnum hden (by norm_num) (by omega) ?_
    rw [hexact, zpow_add₀ (by norm_num)]
    norm_num
    ring

/-- Above the least scale all 53 digits are taken. -/
lemma le_mantissa_nearest (hnum : 0 < num) (hden : 0 < den)
    (h : -1074 < (nearest num den).exponent) : 2 ^ 52 ≤ (nearest num den).mantissa := by
  refine (roundsTo_nearest num hden).le_of_ge ?_
  rw [le_div_iff₀ (by positivity)]
  calc ((2 ^ 52 : ℕ) : ℚ) * 2 ^ (nearest num den).exponent
      = 2 ^ leadingExponent num den := by
        have hlead : leadingExponent num den = 52 + (nearest num den).exponent := by
          rw [exponent_nearest] at h ⊢
          omega
        rw [hlead, zpow_add₀ (by norm_num)]
        norm_num
    _ ≤ num / den := (leadingExponent_spec hnum hden).1

lemma leadingExponent_mono (hnum : 0 < num) (hden : 0 < den) (hnum' : 0 < num') (hden' : 0 < den')
    (h : (num : ℚ) / den ≤ num' / den') : leadingExponent num den ≤ leadingExponent num' den' := by
  have hlt : (2 : ℚ) ^ leadingExponent num den < 2 ^ (leadingExponent num' den' + 1) := by
    calc (2 : ℚ) ^ leadingExponent num den
        ≤ num / den := (leadingExponent_spec hnum hden).1
      _ ≤ num' / den' := h
      _ < 2 ^ (leadingExponent num' den' + 1) := (leadingExponent_spec hnum' hden').2
  have := (zpow_lt_zpow_iff_right₀ (by norm_num)).mp hlt
  omega

/-- **A greater quotient is rounded to a value that is no less.** -/
lemma value_nearest_mono (hnum : 0 < num) (hden : 0 < den) (hnum' : 0 < num') (hden' : 0 < den')
    (h : (num : ℚ) / den ≤ num' / den') : (nearest num den).value ≤ (nearest num' den').value := by
  have hle : (nearest num den).exponent ≤ (nearest num' den').exponent := by
    have := leadingExponent_mono hnum hden hnum' hden' h
    rw [exponent_nearest, exponent_nearest]
    omega
  rcases lt_or_eq_of_le hle with hlt | hsame
  · -- the first value is at most the power of two from which the greater scale starts
    have hleast : -1074 ≤ (nearest num den).exponent := by
      rw [exponent_nearest]
      omega
    have hmantissa : ((nearest num den).mantissa : ℚ) ≤ 2 ^ 53 := by
      exact_mod_cast mantissa_nearest_le hnum hden
    have hmantissa' : (2 : ℚ) ^ 52 ≤ (nearest num' den').mantissa := by
      exact_mod_cast le_mantissa_nearest hnum' hden' (by omega)
    calc (nearest num den).value
        ≤ 2 ^ 53 * 2 ^ (nearest num den).exponent := by
          rw [value]
          gcongr
      _ = 2 ^ 52 * 2 ^ ((nearest num den).exponent + 1) := by
          rw [zpow_add₀ (by norm_num)]
          ring
      _ ≤ 2 ^ 52 * 2 ^ (nearest num' den').exponent := by
          gcongr
          · norm_num
          · omega
      _ ≤ (nearest num' den').value := by
          rw [value]
          gcongr
  · have hmantissa : (nearest num den).mantissa ≤ (nearest num' den').mantissa := by
      refine RoundsTo.mono ?_ (roundsTo_nearest num hden) (roundsTo_nearest num' hden')
      rw [hsame]
      gcongr
    rw [value, value, hsame]
    gcongr

end BinaryFraction

end Replica
