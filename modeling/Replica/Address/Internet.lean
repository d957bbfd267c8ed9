import Replica.Number.Numeral
import Replica.Text.Blank
/-!
# Internet addresses

A host may be given by its number: four decimal numbers with dots between them, or up to eight
groups of hexadecimal digits with colons between them, of which a run of zeros may be left out.

* `Internet.isVersion4`, `Internet.isVersion6`: whether a text is such a number.
* `Internet.looksLikeVersion4`: whether a text is taken for four decimal numbers.
-/

namespace Replica.Address.Internet

/-- Whether the character is an ASCII digit. -/
def isDigit (c : Char) : Bool := '0' ≤ c && c ≤ '9'

/-- Whether a text is a number of a byte, without zeros in front. -/
def isByte (cs : List Char) : Bool :=
  !cs.isEmpty && cs.all isDigit && cs.length ≤ 3 && (cs == ['0'] || cs.head? != some '0')
    && cs.foldl (fun n c => 10 * n + (c.toNat - 48)) 0 ≤ 255

/-- Whether a text is made of four numbers of bytes. -/
def isVersion4 (cs : List Char) : Bool :=
  let parts := Text.splitAt '.' cs
  parts.length == 4 && parts.all isByte

/-- Whether a text is made of four decimal numbers, whatever their size. -/
def looksLikeVersion4 (cs : List Char) : Bool :=
  let parts := Text.splitAt '.' cs
  parts.length == 4 && parts.all fun part => !part.isEmpty && part.all isDigit

/-! ## Groups of hexadecimal digits -/

/-- How many groups a number has. -/
def groups : Nat := 8

/-- Whether a text is a group. -/
def isGroup (cs : List Char) : Bool :=
  !cs.isEmpty && cs.length ≤ 4 && cs.all fun c => (Numeral.digit? 16 c).isSome

/-- The parts between colons, with four numbers at the end counted as two groups; none if these
are no numbers of bytes. -/
def partsOf (cs : List Char) : Option (List (List Char)) :=
  let parts := Text.splitAt ':' cs
  let last := parts.getLast?.getD []
  if parts.length < 3 then none
  else if last.contains '.' then
    if isVersion4 last then some (parts.dropLast ++ [['0'], ['0']]) else none
  else some parts

/-- Whether parts on one side of an omission are groups: `outer` is the one at the end of the
text, which is empty if the omission reaches it. -/
def isSide (outer : Option (List Char)) (parts : List (List Char)) : Bool :=
  (parts.length == 1 && outer == some []) || parts.all isGroup

/-- How many groups there are on one side of an omission. -/
def sideLength (parts : List (List Char)) : Nat := if parts == [[]] then 0 else parts.length

/-- Whether parts make up a number: all groups, or fewer with one omission inside. -/
def areGroups (parts : List (List Char)) : Bool :=
  let inner := (parts.drop 1).dropLast
  match inner.count [] with
  | 0 => parts.length == groups && parts.all isGroup
  | 1 =>
    let before := parts.take 1 ++ inner.takeWhile (· ≠ [])
    let after := parts.drop (before.length + 1)
    isSide before.head? before && isSide after.getLast? after
      && sideLength before + sideLength after < groups
  | _ => false

/-- Whether a text is made of groups, with the name of a zone behind a percent sign if it has
one. -/
def isVersion6 (cs : List Char) : Bool :=
  let number := cs.takeWhile (· ≠ '%')
  let zoneFits :=
    match cs.drop number.length with
    | [] => true
    | _ :: zone => !zone.isEmpty && !zone.contains '%'
  zoneFits && !cs.contains '/' && (partsOf number).any areGroups

end Replica.Address.Internet
