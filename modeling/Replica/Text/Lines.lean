/-!
# Lines

A line ends with a line feed, a carriage return, or a carriage return followed by a line feed.
What follows the last end is a line too, unless it is empty.
-/

namespace Replica.Text

/-- The rest of a text after the end of a line whose first character was `c`. -/
def afterLineEnd (c : Char) (rest : List Char) : List Char :=
  match c, rest with
  | '\r', '\n' :: more => more
  | _, _ => rest

/-- Whether the character ends a line. -/
def isLineEnd (c : Char) : Bool := c == '\n' || c == '\r'

theorem length_afterLineEnd_le (c : Char) (rest : List Char) :
    (afterLineEnd c rest).length ≤ rest.length := by
  unfold afterLineEnd
  split <;> simp

/-- The lines of a text, without their ends. -/
def lines (cs : List Char) : List (List Char) :=
  match _h : cs.dropWhile fun c => !isLineEnd c with
  | [] => if cs.isEmpty then [] else [cs]
  | c :: rest => (cs.takeWhile fun c => !isLineEnd c) :: lines (afterLineEnd c rest)
termination_by cs.length
decreasing_by
  have h₁ := (List.dropWhile_sublist (fun c => !isLineEnd c) (l := cs)).length_le
  have h₂ := length_afterLineEnd_le c rest
  rw [_h, List.length_cons] at h₁
  omega

/-- The text with a line feed for each carriage return that a line feed follows. -/
def unifyLineEnds : List Char → List Char
  | '\r' :: '\n' :: rest => '\n' :: unifyLineEnds rest
  | c :: rest => c :: unifyLineEnds rest
  | [] => []

end Replica.Text
