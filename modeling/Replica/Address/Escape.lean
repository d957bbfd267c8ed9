import Replica.Number.Numeral
import Replica.Text.Encoding
/-!
# Escapes in addresses

A character that may not stand in a part of an address is written as its bytes in UTF-8, each as
a percent sign and two hexadecimal digits.  A percent sign that is there already stays, so that
escapes are kept.

* `Escape.escape`: a text with escapes.
* `Escape.unescape`: the text that escapes stand for.
-/

namespace Replica.Address.Escape

/-- Whether the character is an ASCII letter or digit. -/
def isAlphanumeric (c : Char) : Bool :=
  ('a' ≤ c && c ≤ 'z') || ('A' ≤ c && c ≤ 'Z') || ('0' ≤ c && c ≤ '9')

/-- Whether the character stands for itself in every part of an address. -/
def isUnreserved (c : Char) : Bool :=
  isAlphanumeric c || c == '-' || c == '.' || c == '_' || c == '~'

/-- One byte as an escape. -/
def escapeByte (b : UInt8) : List Char :=
  ['%', Numeral.hexUpperDigit (b.toNat / 16), Numeral.hexUpperDigit (b.toNat % 16)]

/-- One character, escaped unless it may stand for itself. -/
def escapeChar (safe : Char → Bool) (c : Char) : List Char :=
  if isUnreserved c || safe c then [c]
  else (String.ofList [c]).toUTF8.toList.flatMap escapeByte

/-- Characters, escaped where they may not stand for themselves. -/
def escape (safe : Char → Bool) (cs : List Char) : List Char := cs.flatMap (escapeChar safe)

/-! ## What stands for itself -/

/-- Whether the character is a printable one of ASCII that is not listed. -/
def isPrintableBut (listed : List Char) (c : Char) : Bool :=
  ' ' ≤ c && c ≤ '~' && !listed.contains c

/-- Whether the character stands for itself in a fragment. -/
def safeInFragment : Char → Bool := isPrintableBut [' ', '"', '<', '>', '\x60']

/-- Whether the character stands for itself in a query. -/
def safeInQuery : Char → Bool := isPrintableBut [' ', '"', '#', '<', '>']

/-- The characters that do not stand for themselves in a path. -/
def escapedInPath : List Char := [' ', '"', '#', '<', '>', '?', '\x60', '\x7b', '\x7d']

/-- Whether the character stands for itself in a path. -/
def safeInPath : Char → Bool := isPrintableBut escapedInPath

/-- Whether the character stands for itself in the name and the password of a user. -/
def safeInUser : Char → Bool :=
  isPrintableBut (escapedInPath ++ ['/', ';', '=', '@', '[', '\\', ']', '^', '|'])

/-- Whether the character stands for itself in the name of a host. -/
def safeInHost (c : Char) : Bool :=
  ['!', '$', '&', '\'', '(', ')', '*', '+', ',', ';', '=', '"', '\x60', '\x7b', '\x7d', '%', '|',
    '\\'].contains c

/-! ## Reading -/

/-- The bytes that a text in ASCII stands for. -/
def bytesOf : List Char → List UInt8
  | '%' :: a :: b :: rest =>
    match Numeral.digit? 16 a, Numeral.digit? 16 b with
    | some high, some low => UInt8.ofNat (16 * high + low) :: bytesOf rest
    | _, _ => '%'.toUInt8 :: bytesOf (a :: b :: rest)
  | c :: rest => c.toUInt8 :: bytesOf rest
  | [] => []

/-- The text that a text in ASCII with escapes stands for. -/
def unescape (s : String) : String :=
  String.ofList (Text.Encoding.decodeLeniently (bytesOf s.toList))

end Replica.Address.Escape
