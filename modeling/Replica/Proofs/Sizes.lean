import Replica.Proofs.Roundings
import Replica.Walk
/-!
# Sizes that can be written

A size has no text only if its quotient by the unit leaves the binary64 range, and that takes a
size of more than a thousand binary digits.  Sizes of 64 bits are far from there: the quotient of a
power of two is not rounded, and smaller quotients are not rounded above it.
-/

namespace Replica

lemma Number.less_int (a b : ℤ) : Number.less (.int a) (.int b) = decide (a < b) := by
  rw [Number.less, Number.compare?, Bool.eq_iff_iff, beq_iff_eq, decide_eq_true_eq,
    Option.some.injEq]
  exact Std.compare_eq_lt

namespace BinaryFraction

/-- The quotient of a number of 63 binary digits by 1024 is in range. -/
lemma inRange_nearest {n : ℕ} (hpos : 0 < n) (hn : n < 2 ^ 63) :
    (nearest n 1024).inRange = true := by
  have hexact : (nearest (2 ^ 63) 1024).value = (2 ^ 63 : ℕ) / (1024 : ℕ) :=
    value_nearest_of_exact (m := 1) (j := 53) (by decide) (by decide) (by decide) (by decide)
      (by norm_num)
  have hvalue : (nearest n 1024).value ≤ (2 ^ 63 : ℕ) := by
    calc (nearest n 1024).value
        ≤ (nearest (2 ^ 63) 1024).value := by
          refine value_nearest_mono hpos (by decide) (by decide) (by decide) ?_
          gcongr
      _ ≤ (2 ^ 63 : ℕ) := by
          rw [hexact]
          exact div_le_self (by positivity) (by norm_num)
  have hnumerator : (nearest n 1024).numerator ≤ 2 ^ 63 * (nearest n 1024).denominator := by
    have hdenominator : (0 : ℚ) < (nearest n 1024).denominator := by
      exact_mod_cast denominator_pos _
    rw [value_eq, div_le_iff₀ hdenominator] at hvalue
    exact_mod_cast hvalue
  have hrange : ∀ k, 63 < k → (nearest n 1024).numerator <
      Nat.pow 2 k * (nearest n 1024).denominator := by
    intro k hk
    have hpow : 2 ^ 63 < Nat.pow 2 k := Nat.pow_lt_pow_right (by decide) hk
    exact Nat.lt_of_le_of_lt hnumerator (Nat.mul_lt_mul_of_pos_right hpow (denominator_pos _))
  rw [inRange, decide_eq_true_eq]
  exact hrange 1024 (by decide)

end BinaryFraction

/-- A size of 63 binary digits can be written. -/
lemma Size.exists_ofInt {n : ℤ} (h : n < 2 ^ 63) : ∃ text, ofInt n = .ok text := by
  rw [ofInt]
  split_ifs with hsmall
  · exact ⟨_, rfl⟩
  · have hrange : (BinaryFraction.nearest n.toNat 1024).inRange = true :=
      BinaryFraction.inRange_nearest (by omega) (by omega)
    simp only [tenthsOf?, hrange, if_true]
    exact ⟨_, rfl⟩

/-- So can a declared one. -/
lemma Walk.exists_sizeText {size : Option ℤ} (h : ∀ n, size = some n → n < 2 ^ 63) :
    ∃ text, sizeText size = .ok text := by
  cases size with
  | none => exact ⟨_, rfl⟩
  | some n =>
    show ∃ text, Size.ofInt n = .ok text
    exact Size.exists_ofInt (h n rfl)

end Replica
