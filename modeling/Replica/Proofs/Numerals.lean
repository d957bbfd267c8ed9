import Mathlib.Data.List.Basic
import Mathlib.Tactic.Ring
import Replica.Number.Numeral
import Replica.Number.Shortest
/-!
# Numerals that are read back

Numbers of storages are written in two ways, in hexadecimal with zeros in front and in decimal, and
are read in the base that a literal names.  What was written in either way is read back.

* **Digits.**  `Numeral.Writes` says that characters are the digits of a number in a base; reading
  digits off a text gives the number (`Numeral.Writes.scanDigits`).
* **Literals.**  `Numeral.readLiteral_hex` and `Numeral.readLiteral_decimal`: the two ways.  Only
  the decimal one has a limit on the number of digits.
-/

namespace Replica.Numeral

variable {base n : Nat} {cs : List Char} {c : Char}

/-! ## Digits -/

/-- These characters are the digits of a number in a base, zeros in front included. -/
inductive Writes (base : Nat) : List Char → Nat → Prop where
  /-- One digit. -/
  | single {c : Char} {d : Nat} (digit : digit? base c = some d) : Writes base [c] d
  /-- One more digit at the end. -/
  | snoc {cs : List Char} {n : Nat} {c : Char} {d : Nat} (front : Writes base cs n)
    (digit : digit? base c = some d) : Writes base (cs ++ [c]) (n * base + d)

lemma ne_underscore_of_digit? {d : Nat} (h : digit? base c = some d) : c ≠ '_' := by
  rintro rfl
  cases h

lemma Writes.ne_nil (h : Writes base cs n) : cs ≠ [] := by
  cases h <;> simp

/-- Every character is a digit. -/
lemma Writes.exists_digit (h : Writes base cs n) : ∀ c ∈ cs, ∃ d, digit? base c = some d := by
  induction h with
  | single digit => simpa using ⟨_, digit⟩
  | snoc _ digit ih =>
    intro c hc
    rcases List.mem_append.mp hc with hc | hc
    · exact ih c hc
    · rw [List.mem_singleton.mp hc]
      exact ⟨_, digit⟩

/-- Zeros in front do not count. -/
lemma Writes.pad (h : Writes base cs n) (hzero : digit? base '0' = some 0) (zeros : Nat) :
    Writes base (List.replicate zeros '0' ++ cs) n := by
  have hone : ∀ {cs : List Char} {n : Nat}, Writes base cs n → Writes base ('0' :: cs) n := by
    intro cs n h
    induction h with
    | single digit => simpa using (Writes.single hzero).snoc digit
    | snoc _ digit ih => exact ih.snoc digit
  induction zeros with
  | zero => exact h
  | succ zeros ih => exact hone ih

/-- The digits that hexadecimal is written with are those of the base. -/
lemma writes_hexUpper (n : Nat) : Writes 16 (hexUpper n) n := by
  have hdigit : ∀ d < 16, digit? 16 (hexUpperDigit d) = some d := by decide
  induction n using hexUpper.induct with
  | case1 n hn =>
    rw [hexUpper, if_pos hn]
    exact .single (hdigit n hn)
  | case2 n hn ih =>
    rw [hexUpper, if_neg hn]
    have hsnoc := ih.snoc (hdigit (n % 16) (Nat.mod_lt n (by decide)))
    rwa [Nat.div_add_mod'] at hsnoc

lemma writes_toDigits (n : Nat) : Writes 10 (Nat.toDigits 10 n) n := by
  have hdigit : ∀ d < 10, digit? 10 (Nat.digitChar d) = some d := by decide
  induction n using Nat.strongRecOn with
  | ind n ih =>
    rw [Nat.toDigits_eq_if (by decide)]
    split_ifs with hn
    · exact .single (hdigit n hn)
    · have hsnoc := (ih (n / 10) (by omega)).snoc (hdigit (n % 10) (Nat.mod_lt n (by decide)))
      rwa [Nat.div_add_mod'] at hsnoc

lemma toList_toString (n : Nat) : (toString n).toList = natDigits n := by
  rw [Nat.toString_eq_ofList_toDigits, String.toList_ofList, natDigits]

lemma not_mem_natDigits {c : Char} (hc : c.isDigit = false) (n : Nat) : c ∉ natDigits n := by
  intro h
  have hdigit : c.isDigit = true := Nat.isDigit_of_mem_toDigits (by decide) (Nat.le_refl _) h
  rw [hc] at hdigit
  cases hdigit

/-- **Digits are read back**: the number that they write is added to what was read before. -/
lemma scanDigits_writes (h : Writes base cs n) (before : Digits) (rest : List Char) :
    scanDigits base false before (cs ++ rest) =
      scanDigits base false
        ⟨before.value * base ^ cs.length + n, before.count + cs.length⟩ rest := by
  induction h generalizing rest with
  | @single c d digit =>
    simp [scanDigits, ne_underscore_of_digit? digit, digit, Digits.push]
  | @snoc cs n c d front digit ih =>
    rw [List.append_assoc, ih, List.singleton_append, scanDigits,
      if_neg (ne_underscore_of_digit? digit), digit]
    dsimp only
    rw [Digits.push, List.length_append, List.length_singleton, Nat.pow_succ]
    congr 2
    ring

/-- A text of digits is read as the number that they write. -/
lemma wholeDigits?_writes (h : Writes base cs n) :
    wholeDigits? base cs = some ⟨n, cs.length⟩ := by
  have hlength : cs.length ≠ 0 := by simpa using h.ne_nil
  have hscan := scanDigits_writes h ⟨0, 0⟩ []
  rw [List.append_nil] at hscan
  rw [wholeDigits?, hscan, scanDigits]
  simp [hlength]

lemma wholeDigits?_natDigits (n : Nat) :
    wholeDigits? 10 (natDigits n) = some ⟨n, (natDigits n).length⟩ :=
  wholeDigits?_writes (writes_toDigits n)

/-! ## Literals -/

/-- A digit is taken as it stands, and is neither a blank nor a sign. -/
structure IsBare (c : Char) : Prop where
  plain : plainChar c = c
  notBlank : Text.isPlainBlank c = false
  notPlus : c ≠ '+'
  notMinus : c ≠ '-'

lemma isBare_of_digit? {d : Nat} (h : digit? base c = some d) : IsBare c := by
  have hrange : 48 ≤ c.toNat ∧ c.toNat ≤ 57 ∨ 97 ≤ c.toNat ∧ c.toNat ≤ 122 ∨
      65 ≤ c.toNat ∧ c.toNat ≤ 90 := by
    by_contra hnone
    simp only [not_or] at hnone
    rw [digit?, if_neg hnone.1, if_neg hnone.2.1, if_neg hnone.2.2] at h
    cases h
  refine ⟨if_pos (by omega), ?_, ?_, ?_⟩
  · rw [Text.isPlainBlank]
    simp only [Bool.or_eq_false_iff, Bool.and_eq_false_iff, decide_eq_false_iff_not,
      beq_eq_false_iff_ne]
    omega
  · rintro rfl
    exact absurd hrange (by decide)
  · rintro rfl
    exact absurd hrange (by decide)

/-- A text that starts with a digit has neither blanks nor a sign in front. -/
lemma prepare_of_bare {s : String} (hs : s.toList = c :: cs) (hc : IsBare c)
    (hplain : ∀ x ∈ cs, plainChar x = x) : prepare s = (false, c :: cs) := by
  have hmap : cs.map plainChar = cs := (List.map_congr_left hplain).trans (List.map_id cs)
  rw [prepare, hs, List.map_cons, hc.plain, hmap,
    List.dropWhile_cons_of_neg (by simp [hc.notBlank]), splitSign]
  · exact fun _ h => hc.notPlus (List.cons.inj h).1
  · exact fun _ h => hc.notMinus (List.cons.inj h).1

/-- **Hexadecimal numerals are read back**, however many digits they have. -/
lemma readLiteral_hex (width n : Nat) : readLiteral ("0x" ++ hexPadded width n) = .ok n := by
  obtain ⟨zeros, hpadded⟩ : ∃ zeros,
      (hexPadded width n).toList = List.replicate zeros '0' ++ hexUpper n := by
    rw [hexPadded, if_neg (by omega), String.toList_ofList]
    exact ⟨_, rfl⟩
  have hwrites : Writes 16 (hexPadded width n).toList n := by
    rw [hpadded]
    exact (writes_hexUpper n).pad rfl zeros
  have hprepare : prepare ("0x" ++ hexPadded width n) =
      (false, '0' :: 'x' :: (hexPadded width n).toList) := by
    refine prepare_of_bare (by simp) (@isBare_of_digit? 10 '0' 0 rfl) fun x hx => ?_
    rcases List.mem_cons.mp hx with rfl | hx
    · rfl
    · obtain ⟨d, hd⟩ := hwrites.exists_digit x hx
      exact (isBare_of_digit? hd).plain
  have hbase : splitBase ('0' :: 'x' :: (hexPadded width n).toList) =
      some (16, (hexPadded width n).toList) := by
    rcases hchars : (hexPadded width n).toList with _ | ⟨c, rest⟩
    · exact absurd hchars hwrites.ne_nil
    · obtain ⟨d, hd⟩ := hwrites.exists_digit c (by simp [hchars])
      simp [splitBase, ne_underscore_of_digit? hd]
  rw [readLiteral, hprepare]
  dsimp only
  rw [hbase]
  dsimp only
  rw [wholeDigits?_writes hwrites]
  rfl

/-- No digit names a base. -/
lemma splitBase_of_decimal (h : Writes 10 cs n) : splitBase cs = none := by
  rcases cs with _ | ⟨c, _ | ⟨c', rest⟩⟩
  · rfl
  · unfold splitBase
    split
    · rename_i heq
      cases heq
    · rfl
  · obtain ⟨d, hd⟩ := h.exists_digit c' (by simp)
    have hc' : ∀ base ∈ ['x', 'X', 'o', 'O', 'b', 'B'], c' ≠ base := by
      rintro base hbase rfl
      simp only [List.mem_cons, List.not_mem_nil, or_false] at hbase
      rcases hbase with rfl | rfl | rfl | rfl | rfl | rfl <;> cases hd
    simp only [List.forall_mem_cons] at hc'
    obtain ⟨hx, hX, ho, hO, hb, hB, -⟩ := hc'
    unfold splitBase
    split
    · rename_i heq
      cases heq
      simp [hx, hX, ho, hO, hb, hB]
    · rfl

/-- Only zero is written with a zero in front. -/
lemma head?_toDigits (n : Nat) (hn : n ≠ 0) : (Nat.toDigits 10 n).head? ≠ some '0' := by
  have hdigit : ∀ d < 10, d ≠ 0 → Nat.digitChar d ≠ '0' := by decide
  induction n using Nat.strongRecOn with
  | ind n ih =>
    rw [Nat.toDigits_eq_if (by decide)]
    split_ifs with hsmall
    · simpa using hdigit n hsmall hn
    · rw [List.head?_append_of_ne_nil _ Nat.toDigits_ne_nil]
      exact ih (n / 10) (by omega) (by omega)

/-- **Decimal numerals are read back** if they do not have too many digits. -/
lemma readLiteral_decimal {n : Nat} (hshort : (natDigits n).length ≤ maxDecimalDigits) :
    readLiteral (toString n) = .ok n := by
  have hwrites : Writes 10 (natDigits n) n := writes_toDigits n
  have hprepare : prepare (toString n) = (false, natDigits n) := by
    rcases hdigits : natDigits n with _ | ⟨c, rest⟩
    · exact absurd hdigits hwrites.ne_nil
    · have hbare : ∀ x ∈ natDigits n, IsBare x := fun x hx => by
        obtain ⟨d, hd⟩ := hwrites.exists_digit x hx
        exact isBare_of_digit? hd
      rw [hdigits, List.forall_mem_cons] at hbare
      exact prepare_of_bare ((toList_toString n).trans hdigits) hbare.1
        fun x hx => (hbare.2 x hx).plain
  have hzero : ¬((natDigits n).head? = some '0' ∧ n ≠ 0) := fun h => head?_toDigits n h.2 h.1
  rw [readLiteral, hprepare]
  dsimp only
  rw [splitBase_of_decimal hwrites]
  dsimp only
  rw [wholeDigits?_natDigits]
  dsimp only
  rw [if_neg hzero, ofDecimalDigits, if_neg (Nat.not_lt.mpr hshort)]
  rfl

end Replica.Numeral
