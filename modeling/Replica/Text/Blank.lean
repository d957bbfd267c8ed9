/-!
# Blank characters

A character is blank if it has the Unicode property White_Space or is one of the four
information separators U+001C to U+001F.  `stripChars` cuts blank characters off both ends of
a text.
-/

namespace Replica.Text

/-- Whether the character is blank beyond ASCII: White_Space from U+0085 on. -/
def isWideBlank (c : Char) : Bool :=
  let n := c.toNat
  n == 0x85 || n == 0xA0 || n == 0x1680 || (0x2000 ≤ n && n ≤ 0x200A) || n == 0x2028 ||
    n == 0x2029 || n == 0x202F || n == 0x205F || n == 0x3000

/-- Whether the character is blank within ASCII and not an information separator. -/
def isPlainBlank (c : Char) : Bool :=
  let n := c.toNat
  (0x09 ≤ n && n ≤ 0x0D) || n == 0x20

/-- Whether the character is blank. -/
def isBlank (c : Char) : Bool :=
  isPlainBlank c || (0x1C ≤ c.toNat && c.toNat ≤ 0x1F) || isWideBlank c

/-- The characters without those at the end that satisfy `p`. -/
def dropRightWhile (p : Char → Bool) (cs : List Char) : List Char :=
  (cs.reverse.dropWhile p).reverse

/-- The characters without blank ones at either end. -/
def stripChars (cs : List Char) : List Char :=
  dropRightWhile isBlank (cs.dropWhile isBlank)

/-- The text without blank characters at its end. -/
def stripRight (s : String) : String :=
  String.ofList (dropRightWhile isBlank s.toList)

/-- The text without trailing occurrences of `c`. -/
def trimRight (c : Char) (s : String) : String :=
  String.ofList (dropRightWhile (· == c) s.toList)

/-- The text without leading occurrences of `c`. -/
def trimLeft (c : Char) (s : String) : String :=
  String.ofList (s.toList.dropWhile (· == c))

/-- Cuts a list of characters at each `separator`, which belongs to no piece. -/
def splitAt (separator : Char) : List Char → List (List Char)
  | [] => [[]]
  | c :: rest =>
    if c = separator then [] :: splitAt separator rest
    else
      match splitAt separator rest with
      | [] => [[c]]
      | piece :: pieces => (c :: piece) :: pieces

/-- Whether `pattern` occurs in a list of characters as a run. -/
def containsRun (pattern : List Char) : List Char → Bool
  | [] => pattern.isEmpty
  | c :: rest => pattern.isPrefixOf (c :: rest) || containsRun pattern rest

end Replica.Text
