import Mathlib.Data.List.Basic
import Mathlib.Tactic.Common
import Replica.Json.Display
/-!
# Texts with surrogates

Most texts are made of characters, and only a few have surrogates among their code points.  Which
of the two a text is that is put together from parts, is told by its parts.

* **Code points.**  A code point belongs to a character (`Text.CodePoint.char?_toNat`) or is a
  surrogate (`Text.CodePoint.surrogate_of_char?_eq_none`).
* **Joined texts.**  Without surrogates in the parts, a joined text is the texts of the parts one
  after the other (`Json.joined_eq`).  What is not written in it comes from one of the parts
  (`Json.exists_of_unwritable?_joined`).
-/

namespace Replica

/-! ## Code points -/

namespace Text.CodePoint

lemma toNat_of_char?_eq_some {n : CodePoint} {c : Char} (h : n.char? = some c) :
    c.toNat = n := by
  rw [char?] at h
  split_ifs at h with hvalid
  rw [← Option.some.inj h, Char.ofNat, dif_pos hvalid]
  rfl

/-- What is no character is a surrogate. -/
lemma surrogate_of_char?_eq_none {n : Nat} (hn : n ≤ max) (h : char? n = none) :
    0xD800 ≤ n ∧ n ≤ 0xDFFF := by
  rw [char?] at h
  split_ifs at h with hvalid
  have hmax : n ≤ 0x10FFFF := hn
  rw [Nat.isValidChar] at hvalid
  omega

@[simp] lemma char?_toNat (c : Char) : char? c.toNat = some c := by
  have hvalid : c.toNat.isValidChar := c.valid
  rw [char?, if_pos hvalid, Char.ofNat_toNat]

lemma isCharacter_of_mem_ofChars {cs : List Char} {n : CodePoint} (h : n ∈ ofChars cs) :
    n.isCharacter = true := by
  obtain ⟨c, -, rfl⟩ := List.mem_map.mp h
  rw [isCharacter, char?_toNat]
  rfl

lemma filterMap_char?_ofChars (cs : List Char) : (ofChars cs).filterMap char? = cs := by
  rw [ofChars, List.filterMap_map]
  exact (List.filterMap_congr fun c _ => char?_toNat c).trans List.filterMap_some

end Text.CodePoint

open Text (CodePoint)

/-! ## Joined texts -/

namespace Json

lemma points_of_unwritable?_eq_none {v : Json} (h : v.unwritable? = none) :
    v.points = CodePoint.ofChars v.display.toList := by
  cases v with
  | unwritable t => cases h
  | _ => rfl

lemma le_max_of_mem_points {v : Json} {n : CodePoint} (h : n ∈ v.points) : n ≤ CodePoint.max := by
  rcases hv : v.unwritable? with _ | t
  · rw [points_of_unwritable?_eq_none hv] at h
    exact CodePoint.le_max_of_mem_ofChars h
  · cases v with
    | unwritable t => exact t.inRange n h
    | _ => cases hv

lemma ofPoints_ofChars (cs : List Char) :
    ofPoints (CodePoint.ofChars cs) = .string (String.ofList cs) := by
  have hall : (CodePoint.ofChars cs).filter (· ≤ CodePoint.max) = CodePoint.ofChars cs :=
    List.filter_eq_self.mpr fun _ hn => decide_eq_true (CodePoint.le_max_of_mem_ofChars hn)
  rw [ofPoints]
  simp only [hall]
  rw [dif_pos (List.all_eq_true.mpr fun _ => CodePoint.isCharacter_of_mem_ofChars),
    CodePoint.filterMap_char?_ofChars]

/-- Parts without surrogates are joined character by character. -/
lemma joined_eq {parts : List Json} (h : ∀ v ∈ parts, v.unwritable? = none) :
    joined parts = .string (String.ofList (parts.flatMap fun v => v.display.toList)) := by
  have hpoints : parts.flatMap points =
      CodePoint.ofChars (parts.flatMap fun v => v.display.toList) := by
    rw [CodePoint.ofChars, List.map_flatMap]
    exact List.flatMap_congr fun v hv => points_of_unwritable?_eq_none (h v hv)
  rw [joined, hpoints, ofPoints_ofChars]

lemma points_of_unwritable?_ofPoints {ns : List CodePoint} (hns : ∀ n ∈ ns, n ≤ CodePoint.max)
    {t : Text.Unwritable} (h : (ofPoints ns).unwritable? = some t) : t.points = ns := by
  have hall : ns.filter (· ≤ CodePoint.max) = ns :=
    List.filter_eq_self.mpr fun n hn => decide_eq_true (hns n hn)
  rw [ofPoints] at h
  split_ifs at h
  · cases h
  · obtain rfl := Option.some.inj h
    exact hall

/-- The surrogates of a joined text come from one of its parts. -/
lemma exists_of_unwritable?_joined {parts : List Json} {t : Text.Unwritable}
    (h : (joined parts).unwritable? = some t) :
    ∃ u, .unwritable u ∈ parts ∧ u.points <:+: t.points := by
  by_cases hall : ∀ v ∈ parts, v.unwritable? = none
  · rw [joined_eq hall] at h
    cases h
  · push Not at hall
    obtain ⟨v, hv, hsome⟩ := hall
    cases v with
    | unwritable u =>
      refine ⟨u, hv, ?_⟩
      rw [points_of_unwritable?_ofPoints (fun n hn => ?_) h]
      · obtain ⟨before, after, rfl⟩ := List.append_of_mem hv
        refine ⟨before.flatMap points, after.flatMap points, ?_⟩
        simp [points]
      · obtain ⟨w, -, hn⟩ := List.mem_flatMap.mp hn
        exact le_max_of_mem_points hn
    | _ => exact absurd rfl hsome

end Json

end Replica
