import Replica.Proofs.Components
import Replica.Proofs.Ensures
import Replica.Proofs.Numerals
import Replica.Proofs.Roundings
import Replica.Proofs.Sizes
/-!
# Sizes that are written

The text of a size shows a number with one decimal place and a unit.  On the way to it the size is
divided by 1024 once for each unit, every quotient goes to the nearest value of 53 binary digits,
and the last one to the nearest tenth.

* **Texts.**  `Size.reading?` reads a text back: the number in front of the blank and the sign of
  the unit behind it.
* **Quotients.**  `Size.scaled` divides step by step.  Only the first step rounds, since dividing by
  a power of two moves the digits without changing them (`Size.value_scaled`); and below `2 ^ 53`
  that one does not round either (`Size.value_scaled_of_lt`).
* **Sizes.**  `Size.ofInt_rounds`: the number shown is the exact quotient to one place for all sizes
  below `2 ^ 53`, and for greater ones it still grows with the size.
-/

namespace Replica

/-! ## Texts -/

namespace Numeral

/-- The number that digits write, perhaps with a point between them. -/
def unsigned? (cs : List Char) : Option ℚ :=
  match Text.splitAt '.' cs with
  | [whole] => (wholeDigits? 10 whole).map fun w => w.value
  | [whole, part] =>
    (wholeDigits? 10 whole).bind fun w =>
      (wholeDigits? 10 part).map fun p => w.value + p.value / 10 ^ p.count
  | _ => none

/-- The number that a numeral writes. -/
def quantity? : List Char → Option ℚ
  | '-' :: cs => (unsigned? cs).map fun x => -x
  | cs => unsigned? cs

lemma unsigned?_natDigits (n : ℕ) : unsigned? (natDigits n) = some (n : ℚ) := by
  rw [unsigned?, Text.splitAt_of_not_mem (not_mem_natDigits (by decide) n)]
  simp [wholeDigits?_natDigits]

lemma unsigned?_tenths (n : ℕ) {d : ℕ} (hd : d < 10) :
    unsigned? (natDigits n ++ '.' :: natDigits d) = some (n + d / 10 : ℚ) := by
  have hone : (natDigits d).length = 1 := by
    rw [natDigits, Nat.toDigits_of_lt_base hd]
    rfl
  rw [unsigned?, Text.splitAt_append, Text.splitAt_of_not_mem (not_mem_natDigits (by decide) n),
    Text.splitAt_of_not_mem (not_mem_natDigits (by decide) d)]
  simp [wholeDigits?_natDigits, hone]

lemma quantity?_of_digit {cs : List Char} (h : '-' ∉ cs) : quantity? cs = unsigned? cs := by
  cases cs with
  | nil => rfl
  | cons c rest =>
    rw [List.mem_cons, not_or] at h
    unfold quantity?
    split
    · simp_all
    · rfl

lemma quantity?_toString (n : ℤ) : quantity? (toString n).toList = some (n : ℚ) := by
  cases n with
  | ofNat m =>
    show quantity? (toString m).toList = _
    rw [toList_toString, quantity?_of_digit (not_mem_natDigits (by decide) m), unsigned?_natDigits]
    rfl
  | negSucc m =>
    have hchars : (toString (Int.negSucc m)).toList = '-' :: natDigits (m + 1) := by
      show ("-" ++ toString (m + 1)).toList = _
      rw [String.toList_append, toList_toString]
      rfl
    rw [hchars, quantity?, unsigned?_natDigits]
    simp [Int.negSucc_eq]

end Numeral

namespace Size

/-- The number that a written size shows, and the sign of its unit. -/
def reading? (text : String) : Option (ℚ × String) :=
  match Text.splitAt ' ' text.toList with
  | [number, sign] => (Numeral.quantity? number).map fun x => (x, String.ofList sign)
  | _ => none

lemma reading?_append {number sign : String} (hnumber : ' ' ∉ number.toList)
    (hsign : ' ' ∉ sign.toList) :
    reading? (number ++ " " ++ sign) =
      (Numeral.quantity? number.toList).map fun x => (x, sign) := by
  have hchars : (number ++ " " ++ sign).toList = number.toList ++ ' ' :: sign.toList := by
    simp
  rw [reading?, hchars, Text.splitAt_append, Text.splitAt_of_not_mem hnumber,
    Text.splitAt_of_not_mem hsign]
  simp

lemma reading?_ofInt_small (n : ℤ) : reading? (toString n ++ " B") = some ((n : ℚ), "B") := by
  have hblank : ' ' ∉ (toString n).toList := by
    cases n with
    | ofNat m =>
      show ' ' ∉ (toString m).toList
      rw [Numeral.toList_toString]
      exact Numeral.not_mem_natDigits (by decide) m
    | negSucc m =>
      show ' ' ∉ ("-" ++ toString (m + 1)).toList
      rw [String.toList_append, Numeral.toList_toString, List.mem_append, not_or]
      exact ⟨by decide, Numeral.not_mem_natDigits (by decide) (m + 1)⟩
  have hread : reading? (toString n ++ " " ++ "B") = some ((n : ℚ), "B") := by
    rw [reading?_append hblank (by decide), Numeral.quantity?_toString]
    rfl
  simpa [String.append_assoc] using hread

lemma reading?_withUnit (t : ℕ) (u : Unit) :
    reading? (withUnit t u) = some ((t : ℚ) / 10, u.sign) := by
  have hsign : ' ' ∉ u.sign.toList := by
    cases u <;> decide
  have hchars : (toString (t / 10) ++ "." ++ toString (t % 10)).toList =
      natDigits (t / 10) ++ '.' :: natDigits (t % 10) := by
    simp [natDigits]
  have hmem : ∀ c : Char, c.isDigit = false → c ≠ '.' →
      c ∉ natDigits (t / 10) ++ '.' :: natDigits (t % 10) := by
    intro c hc hpoint h
    rw [List.mem_append, List.mem_cons] at h
    rcases h with h | h | h
    · exact Numeral.not_mem_natDigits hc _ h
    · exact hpoint h
    · exact Numeral.not_mem_natDigits hc _ h
  have hsplit : ((t / 10 : ℕ) : ℚ) + ((t % 10 : ℕ) : ℚ) / 10 = t / 10 := by
    have hdiv : ((10 * (t / 10) + t % 10 : ℕ) : ℚ) = t := by rw [Nat.div_add_mod]
    push_cast at hdiv
    linarith
  rw [withUnit, reading?_append (by rw [hchars]; exact hmem ' ' (by decide) (by decide)) hsign,
    hchars, Numeral.quantity?_of_digit (hmem '-' (by decide) (by decide)),
    Numeral.unsigned?_tenths _ (Nat.mod_lt t (by decide)), hsplit]
  rfl

/-! ## Quotients -/

open BinaryFraction

variable {n k : ℕ}

/-- The size divided by 1024 several times, with each quotient rounded to 53 binary digits. -/
def scaled (n : ℕ) : ℕ → BinaryFraction
  | 0 => ⟨n, 0⟩
  | k + 1 => nearest (scaled n k).numerator ((scaled n k).denominator * 1024)

lemma scaled_one (n : ℕ) : scaled n 1 = nearest n 1024 := by
  simp [scaled, numerator, denominator]

lemma exponent_scaled_one (hn : 1024 ≤ n) : -52 ≤ (scaled n 1).exponent := by
  have hlead : leadingExponent 1 1 ≤ leadingExponent n 1024 := by
    refine leadingExponent_mono (by decide) (by decide) (by omega) (by decide) ?_
    rw [Nat.cast_one, div_one, le_div_iff₀ (by norm_num), one_mul]
    exact_mod_cast hn
  have hone : leadingExponent 1 1 = 0 := by decide
  rw [scaled_one, exponent_nearest]
  omega

lemma value_scaled_one_pos (hn : 1024 ≤ n) : 0 < (scaled n 1).value := by
  have hexponent := exponent_scaled_one hn
  rw [scaled_one] at hexponent ⊢
  have hmantissa : 2 ^ 52 ≤ (nearest n 1024).mantissa :=
    le_mantissa_nearest (by omega) (by decide) (by omega)
  have hpos : (0 : ℚ) < (nearest n 1024).mantissa := by
    exact_mod_cast Nat.lt_of_lt_of_le (by decide) hmantissa
  rw [value]
  positivity

/-- **Only the first division rounds.** -/
lemma value_scaled (hn : 1024 ≤ n) (hk : k ≤ 100) :
    (scaled n (k + 1)).value = (scaled n 1).value / 1024 ^ k := by
  induction k with
  | zero => simp
  | succ k ih =>
    have hvalue := ih (by omega)
    have hpos : 0 < (scaled n (k + 1)).value := by
      rw [hvalue]
      exact div_pos (value_scaled_one_pos hn) (by positivity)
    have hquotient : ((scaled n (k + 1)).numerator : ℚ) /
        ((scaled n (k + 1)).denominator * 1024 : ℕ) = (scaled n 1).value / 1024 ^ (k + 1) := by
      rw [Nat.cast_mul, ← div_div, ← value_eq, hvalue, div_div, pow_succ]
      norm_num
    have hmantissa : (scaled n 1).mantissa ≤ 2 ^ 53 := by
      rw [scaled_one]
      exact mantissa_nearest_le (by omega) (by decide)
    have hexponent := exponent_scaled_one hn
    rw [scaled, ← hquotient]
    refine value_nearest_of_exact (j := (scaled n 1).exponent - 10 * (k + 1))
      (numerator_pos hpos) (Nat.mul_pos (denominator_pos _) (by decide)) hmantissa (by omega) ?_
    rw [hquotient, value, zpow_sub₀ (by norm_num), mul_div_assoc]
    congr 2
    rw [zpow_mul, ← Nat.cast_succ, zpow_natCast]
    norm_num

/-- Below `2 ^ 53` no division rounds. -/
lemma value_scaled_of_lt (hn : 1024 ≤ n) (hlt : n < 2 ^ 53) (hk : k ≤ 100) :
    (scaled n (k + 1)).value = n / 1024 ^ (k + 1) := by
  have hone : (nearest n 1024).value = n / (1024 : ℕ) := by
    refine value_nearest_of_exact (m := n) (j := -10) (by omega) (by decide) hlt.le (by decide) ?_
    norm_num
    ring
  rw [value_scaled hn hk, scaled_one, hone, pow_succ', ← div_div]
  norm_num

lemma value_scaled_mono {n' : ℕ} (hn : 1024 ≤ n) (h : n ≤ n') (hk : k ≤ 100) :
    (scaled n (k + 1)).value ≤ (scaled n' (k + 1)).value := by
  have hone : (nearest n 1024).value ≤ (nearest n' 1024).value := by
    refine value_nearest_mono (by omega) (by decide) (by omega) (by decide) ?_
    gcongr
  rw [value_scaled hn hk, value_scaled (hn.trans h) hk, scaled_one, scaled_one]
  gcongr

/-! ## Sizes -/

/-- The unit of a size: how often 1024 bytes are taken to make it, and its sign. -/
inductive Scale (n : ℤ) : ℕ → String → Prop where
  | kilo (below : n < 1024 ^ 2) : Scale n 1 "KB"
  | mega (above : 1024 ^ 2 ≤ n) (below : n < 1024 ^ 3) : Scale n 2 "MB"
  | giga (above : 1024 ^ 3 ≤ n) : Scale n 3 "GB"

/-- `x` is `q` rounded to one decimal place, ties going to the even digit. -/
def RoundsToTenth (q x : ℚ) : Prop := ∃ t : ℕ, x = t / 10 ∧ RoundsTo (10 * q) t

lemma scale_unitFor (n : ℤ) : Scale n (unitFor (.int n)).power (unitFor (.int n)).sign := by
  rw [unitFor]
  simp only [Number.less_int, decide_eq_true_eq]
  split_ifs with hkilo hmega
  · exact .kilo (by omega)
  · exact .mega (by omega) (by omega)
  · exact .giga (by omega)

lemma Scale.power_eq {n : ℤ} {sign : String} (h : Scale n k sign) :
    k = if sign = "KB" then 1 else if sign = "MB" then 2 else 3 := by
  cases h <;> rfl

lemma Scale.ne_bytes {n : ℤ} {sign : String} (h : Scale n k sign) : sign ≠ "B" := by
  cases h <;> decide

lemma Scale.exists_succ {n : ℤ} {sign : String} (h : Scale n k sign) : ∃ j ≤ 2, k = j + 1 := by
  cases h
  · exact ⟨0, by decide, rfl⟩
  · exact ⟨1, by decide, rfl⟩
  · exact ⟨2, by decide, rfl⟩

/-- Dividing what the first step left by the other powers of 1024 at once comes to the same. -/
lemma roundsTo_tenthsOf? {u : Unit} {t : ℕ} (hn : 1024 ≤ n) (h : tenthsOf? n u = some t) :
    RoundsTo (10 * (scaled n u.power).value) t := by
  have hpower : u.power = u.power - 1 + 1 := by
    cases u <;> rfl
  rw [tenthsOf?] at h
  split_ifs at h
  cases h
  have hround := roundsTo_roundDiv (10 * (nearest n 1024).numerator)
    (Nat.mul_pos (denominator_pos (nearest n 1024)) (Nat.pow_pos (n := u.power - 1)
      (by decide : 0 < 1024)))
  have hvalue : (scaled n u.power).value = (nearest n 1024).value / 1024 ^ (u.power - 1) := by
    rw [hpower, value_scaled hn (by cases u <;> decide), scaled_one, Nat.add_sub_cancel]
  rw [hvalue, value_eq, div_div, ← mul_div_assoc]
  push_cast at hround
  exact hround

/-- What is shown of a size that is written. -/
inductive Shows (n : ℤ) : ℚ → String → Prop where
  | bytes (small : n < 1024) : Shows n n "B"
  | units {k : ℕ} {sign : String} {t : ℕ} (large : 1024 ≤ n) (scale : Scale n k sign)
    (rounds : RoundsTo (10 * (scaled n.toNat k).value) t) : Shows n (t / 10) sign

lemma shows_ofInt {n : ℤ} {text : String} (h : ofInt n = .ok text) :
    ∃ x sign, reading? text = some (x, sign) ∧ Shows n x sign := by
  rw [ofInt] at h
  split_ifs at h with hsmall
  · cases h
    exact ⟨n, "B", reading?_ofInt_small n, .bytes hsmall⟩
  · dsimp only at h
    rcases htenths : tenthsOf? n.toNat (unitFor (.int n)) with _ | t
    · rw [htenths] at h
      cases h
    · rw [htenths] at h
      cases h
      exact ⟨t / 10, _, reading?_withUnit t _, .units (by omega) (scale_unitFor n)
        (roundsTo_tenthsOf? (by omega) htenths)⟩

/-- In one unit a greater size shows no smaller number. -/
lemma Shows.mono {a b : ℤ} {x y : ℚ} {sign : String} (hab : a ≤ b) (ha : Shows a x sign)
    (hb : Shows b y sign) : x ≤ y := by
  cases ha with
  | bytes small =>
    cases hb with
    | bytes => exact_mod_cast hab
    | units _ scale => exact absurd rfl scale.ne_bytes
  | units large scale rounds =>
    cases hb with
    | bytes => exact absurd rfl scale.ne_bytes
    | units _ scale' rounds' =>
      -- the unit tells how often both were divided
      rw [scale.power_eq, ← scale'.power_eq] at rounds
      obtain ⟨j, hj, rfl⟩ := scale'.exists_succ
      have hvalue : (scaled a.toNat (j + 1)).value ≤ (scaled b.toNat (j + 1)).value :=
        value_scaled_mono (by omega) (by omega) (by omega)
      have htenths := RoundsTo.mono (by linarith) rounds rounds'
      gcongr

/-- **The number that is written of a size is rounded correctly, and never falls as sizes grow.**
For every size of at least 1024 bytes below `2 ^ 53` it is the exact quotient by the unit, rounded
to one decimal place, ties going to the even digit.  For all greater sizes that can be written it is
the rounded result of the single divisions, each of which goes to the nearest value of 53 binary
digits; and of any two sizes that are written in the same unit the greater one shows no smaller
number. -/
theorem ofInt_rounds :
    (∀ n : ℤ, 1024 ≤ n → n < 2 ^ 53 → ∃ text x k sign, ofInt n = .ok text ∧
        reading? text = some (x, sign) ∧ Scale n k sign ∧ RoundsToTenth (n / 1024 ^ k) x) ∧
      (∀ (n : ℤ) (text : String), 1024 ≤ n → ofInt n = .ok text → ∃ x k sign,
        reading? text = some (x, sign) ∧ Scale n k sign ∧
          RoundsToTenth (scaled n.toNat k).value x) ∧
      ∀ (a b : ℤ) (text text' : String), a ≤ b → ofInt a = .ok text → ofInt b = .ok text' →
        ∃ x y sign sign', reading? text = some (x, sign) ∧ reading? text' = some (y, sign') ∧
          (sign = sign' → x ≤ y) := by
  have hlarge : ∀ (n : ℤ) (text : String), 1024 ≤ n → ofInt n = .ok text → ∃ x k sign,
      reading? text = some (x, sign) ∧ Scale n k sign ∧
        RoundsToTenth (scaled n.toNat k).value x := by
    intro n text hn htext
    obtain ⟨x, sign, hread, hshows⟩ := shows_ofInt htext
    cases hshows with
    | bytes small => omega
    | units large scale rounds => exact ⟨_, _, _, hread, scale, _, rfl, rounds⟩
  refine ⟨fun n hlow hhigh => ?_, hlarge, fun a b text text' hab ha hb => ?_⟩
  · obtain ⟨text, htext⟩ := exists_ofInt (n := n) (by omega)
    obtain ⟨x, k, sign, hread, hscale, hround⟩ := hlarge n text hlow htext
    refine ⟨text, x, k, sign, htext, hread, hscale, ?_⟩
    obtain ⟨j, hj, rfl⟩ := hscale.exists_succ
    have hcast : (n.toNat : ℚ) = n := by exact_mod_cast Int.toNat_of_nonneg (by omega)
    rwa [value_scaled_of_lt (by omega) (by omega) (by omega), hcast] at hround
  · obtain ⟨x, sign, hread, hshows⟩ := shows_ofInt ha
    obtain ⟨y, sign', hread', hshows'⟩ := shows_ofInt hb
    refine ⟨x, y, sign, sign', hread, hread', ?_⟩
    rintro rfl
    exact hshows.mono hab hshows'

/-- 1.25 KB are a tie and go to the even digit.  The sizes of two files far beyond `2 ^ 53` are
shown in their order. -/
theorem ofInt_rounds_tie :
    (∃ text x, ofInt 1280 = .ok text ∧ reading? text = some (x, "KB") ∧ x = 6 / 5 ∧
        RoundsToTenth (1280 / 1024 ^ 1) x) ∧
      ∃ text text' x y, ofInt (10 ^ 30) = .ok text ∧ ofInt (10 ^ 30 + 10 ^ 20) = .ok text' ∧
        reading? text = some (x, "GB") ∧ reading? text' = some (y, "GB") ∧ x ≤ y := by
  obtain ⟨hexact, -, hmono⟩ := ofInt_rounds
  constructor
  · have htie : ofInt 1280 = .ok (withUnit 12 .kilo) := eq_ok_of_toOption (by decide +kernel)
    obtain ⟨text, x, k, sign, htext, hread, hscale, hround⟩ :=
      hexact 1280 (by norm_num) (by norm_num)
    rw [htie] at htext
    cases htext
    rw [reading?_withUnit] at hread
    cases hread
    have hk : k = 1 := hscale.power_eq
    subst hk
    exact ⟨_, _, htie, reading?_withUnit 12 .kilo, by norm_num, by simpa using hround⟩
  · have hlow : ofInt (10 ^ 30) = .ok (withUnit 9313225746154785341440 .giga) :=
      eq_ok_of_toOption (by decide +kernel)
    have hhigh : ofInt (10 ^ 30 + 10 ^ 20) = .ok (withUnit 9313225747086108262400 .giga) :=
      eq_ok_of_toOption (by decide +kernel)
    obtain ⟨x, y, sign, sign', hread, hread', hle⟩ := hmono _ _ _ _ (by norm_num) hlow hhigh
    have hunit : sign = "GB" ∧ sign' = "GB" := by
      rw [reading?_withUnit] at hread hread'
      cases hread
      cases hread'
      exact ⟨rfl, rfl⟩
    obtain ⟨rfl, rfl⟩ := hunit
    exact ⟨_, _, x, y, hlow, hhigh, hread, hread', hle rfl⟩

end Size

end Replica
