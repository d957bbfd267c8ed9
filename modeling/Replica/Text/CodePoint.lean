/-!
# Code points

Every character has a number, its code point.  Some numbers up to the greatest code point belong
to no character: the surrogates, which other forms of writing use in pairs.  A text that comes
out of numerals may hold them, so it is a list of code points and not of characters.

* `CodePoint.max`: the greatest code point.
* `CodePoint.char?`: the character that a code point belongs to.
-/

namespace Replica.Text

/-- The number of a character, or of a surrogate. -/
abbrev CodePoint := Nat

namespace CodePoint

/-- The greatest code point. -/
def max : CodePoint := 0x10FFFF

/-- The character that a code point belongs to, if it is no surrogate. -/
def char? (n : CodePoint) : Option Char := if n.isValidChar then some (Char.ofNat n) else none

/-- The code points of characters. -/
def ofChars (cs : List Char) : List CodePoint := cs.map Char.toNat

theorem le_max_of_mem_ofChars {cs : List Char} {n : CodePoint} (h : n ∈ ofChars cs) : n ≤ max := by
  obtain ⟨c, -, rfl⟩ := List.mem_map.mp h
  rcases c.valid with hvalid | hvalid
  · exact Nat.le_of_lt (Nat.lt_trans hvalid (by decide))
  · exact Nat.le_of_lt_succ hvalid.2

end CodePoint

end Replica.Text
