/-!
# Base64

Three bytes are written as four characters of an alphabet of sixty-four; what is missing in the
last three is made up by zero bits, and its characters by equals signs.

* `Base64.encode`: bytes in ASCII.
-/

namespace Replica.Text.Base64

/-- The character of a number below sixty-four. -/
def symbol (n : Nat) : Char :=
  if n < 26 then Char.ofNat (65 + n)
  else if n < 52 then Char.ofNat (71 + n)
  else if n < 62 then Char.ofNat (n - 4)
  else if n = 62 then '+'
  else '/'

/-- The four characters of three bytes. -/
def symbols (a b c : UInt8) : List Char :=
  let n := (a.toNat * 0x100 + b.toNat) * 0x100 + c.toNat
  [symbol (n / 0x40000), symbol (n / 0x1000 % 64), symbol (n / 0x40 % 64), symbol (n % 64)]

/-- The characters that bytes are written as. -/
def encode : List UInt8 → List Char
  | a :: b :: c :: rest => symbols a b c ++ encode rest
  | [a, b] => (symbols a b 0).take 3 ++ ['=']
  | [a] => (symbols a 0 0).take 2 ++ ['=', '=']
  | [] => []

end Replica.Text.Base64
