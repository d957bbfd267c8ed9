/-!
# ASCII letters

Header names and answers to questions are compared without regard to the case of ASCII letters,
and methods of requests are sent in upper case; no other character has a case here.
-/

namespace Replica.Text

/-- Whether the character is an ASCII letter. -/
def isAsciiLetter (c : Char) : Bool := ('a' ≤ c && c ≤ 'z') || ('A' ≤ c && c ≤ 'Z')

/-- An ASCII letter in lower case; any other character as it is. -/
def lowerAscii (c : Char) : Char :=
  if 'A' ≤ c ∧ c ≤ 'Z' then Char.ofNat (c.toNat + 32) else c

end Replica.Text
