import Replica.Text.CodePoint
import Replica.Text.Printable
/-!
# Quoted text

Texts in messages are quoted so that they stand on one line and show every character.  Single
quotes surround the text, or double quotes if it holds a single quote and no double one.
Backslashes, the chosen quote, newline, return and tab are escaped by a letter, and every other
character that is not printable by its code point in hexadecimal.
-/

namespace Replica.Text

/-- The digit of value `d < 16`, in lower case. -/
def hexDigit (d : Nat) : Char :=
  if d < 10 then Char.ofNat (48 + d) else Char.ofNat (87 + d)

/-- The last `width` hexadecimal digits of `n`. -/
def hexDigits : Nat → Nat → List Char
  | 0, _ => []
  | width + 1, n => hexDigits width (n / 16) ++ [hexDigit (n % 16)]

/-- A character or a surrogate by its code point. -/
def numberEscape (n : CodePoint) : List Char :=
  if n < 0x100 then '\\' :: 'x' :: hexDigits 2 n
  else if n < 0x10000 then '\\' :: 'u' :: hexDigits 4 n
  else '\\' :: 'U' :: hexDigits 8 n

/-- One character as it stands inside quotes of the kind `quote`. -/
def escapeChar (quote c : Char) : List Char :=
  if c = '\\' ∨ c = quote then ['\\', c]
  else if c = '\n' then ['\\', 'n']
  else if c = '\r' then ['\\', 'r']
  else if c = '\t' then ['\\', 't']
  else if isPrintable c then [c]
  else numberEscape c.toNat

/-- The quote that surrounds a text. -/
def quoteFor (cs : List Char) : Char :=
  if cs.contains '\'' && !cs.contains '"' then '"' else '\''

/-- The quoted form of a list of characters. -/
def quotedChars (cs : List Char) : List Char :=
  let quote := quoteFor cs
  quote :: cs.flatMap (escapeChar quote) ++ [quote]

/-- A code point as it stands inside quotes of the kind `quote`; a surrogate is not printable. -/
def escapeCodePoint (quote : Char) (n : CodePoint) : List Char :=
  match n.char? with
  | some c => escapeChar quote c
  | none => numberEscape n

/-- The quoted form of a list of code points. -/
def quotedCodePoints (ns : List CodePoint) : List Char :=
  let quote := quoteFor (ns.filterMap CodePoint.char?)
  quote :: ns.flatMap (escapeCodePoint quote) ++ [quote]

/-- The quoted form of a text. -/
def quoted (s : String) : String :=
  String.ofList (quotedChars s.toList)

end Replica.Text
