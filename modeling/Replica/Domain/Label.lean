import Replica.Domain.Direction
import Replica.Domain.Joining
import Replica.Domain.Permitted
import Replica.Domain.Punycode
import Replica.Domain.Script
import Replica.Number.Shortest
import Replica.Text.Composition
import Replica.Text.Quoted
/-!
# Labels of domain names

A label is what stands between the dots of a domain name.  It is in composed form, does not
start with a mark, has hyphens only inside, and holds permitted characters; some others are
permitted beside certain characters alone.  If letters of it are written from right to left, the
directions of its characters have to agree.  Beyond ASCII a label is written in ASCII behind a
front of its own, in one way only.

* `Label.check`: whether a label is one.
* `Label.toAscii`, `Label.ofAscii`: the two forms of a label.
-/

namespace Replica.Domain

open Text (CodePoint)

/-- What is wrong with a label or a name. -/
inductive LabelFault where
  /-- The name is too long. -/
  | nameTooLong
  /-- The label is too long. -/
  | tooLong
  /-- The label is empty. -/
  | empty
  /-- The label is not in composed form. -/
  | notComposed
  /-- The third and the fourth character are hyphens. -/
  | innerHyphens
  /-- A hyphen stands at an end. -/
  | outerHyphen
  /-- The label starts with a mark. -/
  | firstMark
  /-- A character is not permitted; `place` counts from one. -/
  | character (c : CodePoint) (place : Nat) (label : List CodePoint)
  /-- A joiner does not stand between letters that join. -/
  | joiner (c : CodePoint) (place : Nat) (label : List CodePoint)
  /-- A joiner stands behind a character without a name. -/
  | besideNameless (c : CodePoint) (place : Nat) (label : List CodePoint)
  /-- A character lacks what it needs beside it. -/
  | context (c : CodePoint) (place : Nat) (label : List CodePoint)
  /-- The direction of a character is not known. -/
  | unknownDirection (place : Nat) (label : List CodePoint)
  /-- The first character has no direction of its own. -/
  | firstDirection (label : List CodePoint)
  /-- A character is written in the other direction. -/
  | direction (place : Nat) (rightToLeft : Bool)
  /-- Digits of two kinds stand together. -/
  | mixedDigits
  /-- The last character has no direction of its own. -/
  | lastDirection
  /-- Nothing stands behind the front of a label in ASCII. -/
  | noContent
  /-- A label in ASCII ends with a hyphen. -/
  | asciiHyphen
  /-- A label in ASCII stands for none. -/
  | notAsciiForm
  /-- A label in ASCII stands for one that is written in another way. -/
  | notCanonical
deriving DecidableEq, Repr

namespace LabelFault

/-- The families of faults, as descriptions name them. -/
inductive Family where
  /-- The form of the label. -/
  | form
  /-- The directions of its characters. -/
  | direction
  /-- A character. -/
  | character
  /-- What stands beside a character. -/
  | context
deriving DecidableEq, Repr

/-- The family of a fault. -/
def family : LabelFault → Family
  | character .. => .character
  | joiner .. | context .. => .context
  | unknownDirection .. | firstDirection _ | direction .. | mixedDigits | lastDirection =>
    .direction
  | _ => .form

/-- The word that descriptions use for a family. -/
def Family.word : Family → String
  | form => "IDNAError"
  | direction => "IDNABidiError"
  | character => "InvalidCodepoint"
  | context => "InvalidCodepointContext"

/-- A code point in at least four digits. -/
def codePoint (c : CodePoint) : String :=
  let digits := (Nat.toDigits 16 c).map Char.toUpper
  "U+" ++ String.ofList (List.replicate (4 - digits.length) '0' ++ digits)

/-- A label in quotes. -/
def quotedLabel (label : List CodePoint) : String :=
  String.ofList (Text.quotedCodePoints label)

/-- The fault in words. -/
def message : LabelFault → String
  | nameTooLong => "Domain too long"
  | tooLong => "Label too long"
  | empty => "Empty Label"
  | notComposed => "Label must be in Normalization Form C"
  | innerHyphens => "Label has disallowed hyphens in 3rd and 4th position"
  | outerHyphen => "Label must not start or end with a hyphen"
  | firstMark => "Label begins with an illegal combining character"
  | character c place label =>
    "Codepoint " ++ codePoint c ++ " at position " ++ toString place ++ " of "
      ++ quotedLabel label ++ " not allowed"
  | joiner c place label =>
    "Joiner " ++ codePoint c ++ " not allowed at position " ++ toString place ++ " in "
      ++ quotedLabel label
  | besideNameless c place label =>
    "Unknown codepoint adjacent to joiner " ++ codePoint c ++ " at position " ++ toString place
      ++ " in " ++ quotedLabel label
  | context c place label =>
    "Codepoint " ++ codePoint c ++ " not allowed at position " ++ toString place ++ " in "
      ++ quotedLabel label
  | unknownDirection place label =>
    "Unknown directionality in label " ++ quotedLabel label ++ " at position " ++ toString place
  | firstDirection label =>
    "First codepoint in label " ++ quotedLabel label ++ " must be directionality L, R or AL"
  | direction place rightToLeft =>
    "Invalid direction for codepoint at position " ++ toString place ++ " in a "
      ++ (if rightToLeft then "right-to-left" else "left-to-right") ++ " label"
  | mixedDigits => "Can not mix numeral types in a right-to-left label"
  | lastDirection => "Label ends with illegal codepoint directionality"
  | noContent => "Malformed A-label, no Punycode eligible content found"
  | asciiHyphen => "A-label must not end with a hyphen"
  | notAsciiForm => "Invalid A-label"
  | notCanonical => "A-label is not the canonical Punycode encoding of its U-label"

end LabelFault

namespace Label

/-! ## Characters that need others beside them -/

/-- The class of the marks that take the vowel off a consonant. -/
def vowelKiller : Nat := 9

/-- Whether the last of the characters before, which come in reverse, takes off a vowel. -/
def afterVowelKiller : List CodePoint → Bool
  | c :: _ => Text.combiningClass c = vowelKiller
  | [] => false

/-- Whether the first of these characters that does not let letters join across it joins itself. -/
def nearest (joins : CodePoint → Bool) (cs : List CodePoint) : Bool :=
  (cs.dropWhile isTransparent).head?.any joins

/-- Whether one of the two joiners may stand between characters; those before come in reverse. -/
def joinerFits (before : List CodePoint) (c : CodePoint) (after : List CodePoint) : Bool :=
  afterVowelKiller before
    || (c == nonJoiner && nearest joinsNext before && nearest joinsPrevious after)

/-- Whether the first of these characters belongs to a script. -/
def startsWith (s : Script) : List CodePoint → Bool
  | c :: _ => s.has c
  | [] => false

/-- Whether some of these characters is a digit of the run of ten that starts with `first`. -/
def hasDigitOf (first : CodePoint) (cs : List CodePoint) : Bool :=
  cs.any fun c => first ≤ c && c < first + 10

/-- The dot between two letters l. -/
def middleDot : CodePoint := 0xB7

/-- The sign in front of Greek numerals. -/
def numeralSign : CodePoint := 0x375

/-- The two signs behind Hebrew letters. -/
def hebrewSigns : List CodePoint := [0x5F3, 0x5F4]

/-- The dot between Japanese words. -/
def wordDot : CodePoint := 0x30FB

/-- The zero of the Arabic digits. -/
def arabicZero : CodePoint := 0x660

/-- The zero of the Persian digits. -/
def persianZero : CodePoint := 0x6F0

/-- Whether a character that is not permitted everywhere may stand between characters; those
before come in reverse.  None if it is permitted nowhere. -/
def fits? (before : List CodePoint) (c : CodePoint) (after : List CodePoint) : Option Bool :=
  if c = middleDot then some (before.head? = some 'l'.toNat ∧ after.head? = some 'l'.toNat)
  else if c = numeralSign then some (startsWith .greek after)
  else if hebrewSigns.contains c then some (startsWith .hebrew before)
  else if c = wordDot then
    some ((before ++ after).any fun d => Script.hiragana.has d || Script.katakana.has d
      || Script.han.has d)
  else if hasDigitOf arabicZero [c] then some (!hasDigitOf persianZero (before ++ after))
  else if hasDigitOf persianZero [c] then some (!hasDigitOf arabicZero (before ++ after))
  else none

/-- Checks a character between others; those before come in reverse. -/
def checkCharacter (label before : List CodePoint) (c : CodePoint) (after : List CodePoint) :
    Except LabelFault PUnit :=
  let place := before.length + 1
  if isPermitted c then .ok ⟨⟩
  else if c = nonJoiner ∨ c = joiner then
    if before.head?.any isNameless then .error (.besideNameless c place label)
    else if joinerFits before c after then .ok ⟨⟩
    else .error (.joiner c place label)
  else
    match fits? before c after with
    | some true => .ok ⟨⟩
    | some false => .error (.context c place label)
    | none => .error (.character c place label)

/-- Checks the characters of a label; those that are checked come in reverse. -/
def checkCharacters (label before : List CodePoint) : List CodePoint → Except LabelFault PUnit
  | [] => .ok ⟨⟩
  | c :: rest => do
    checkCharacter label before c rest
    checkCharacters label (c :: before) rest

/-! ## Directions -/

/-- Whether a direction is one of letters written from right to left. -/
def isRightToLeft (d : Direction) : Bool := d = .right || d = .arabicDigit

/-- What was seen of the directions of a label. -/
structure Seen where
  /-- Whether the label could end here. -/
  canEnd : Bool := false
  /-- The kind of digits. -/
  digits : Option Direction := none

/-- Checks the directions of the rest of a label that is written from right to left. -/
def checkRight (place : Nat) (seen : Seen) : List Direction → Except LabelFault PUnit
  | [] => if seen.canEnd then .ok ⟨⟩ else .error .lastDirection
  | d :: rest =>
    if d = .left then .error (.direction place true)
    else
      let isDigit := d = .commonDigit || d = .arabicDigit
      if isDigit && seen.digits.any (· ≠ d) then .error .mixedDigits
      else
        checkRight (place + 1)
          { canEnd := if d = .mark then seen.canEnd else d = .right || isDigit
            digits := if isDigit then some d else seen.digits }
          rest

/-- Checks the directions of the rest of a label that is written from left to right. -/
def checkLeft (place : Nat) (canEnd : Bool) : List Direction → Except LabelFault PUnit
  | [] => if canEnd then .ok ⟨⟩ else .error .lastDirection
  | d :: rest =>
    if isRightToLeft d then .error (.direction place false)
    else
      checkLeft (place + 1) (if d = .mark then canEnd else d = .left || d = .commonDigit) rest

/-- The directions of the characters of a label, all of which have to be known. -/
def directionsOf (label : List CodePoint) : Except LabelFault (List Direction) :=
  (label.zipIdx 1).mapM fun (c, place) =>
    match Direction.ofCodePoint? c with
    | some d => .ok d
    | none => .error (.unknownDirection place label)

/-- Checks the directions of a label, if any of it is written from right to left. -/
def checkDirections (label : List CodePoint) : Except LabelFault PUnit := do
  let directions ← directionsOf label
  if directions.any isRightToLeft then
    match directions.head? with
    | some .right => checkRight 1 {} directions
    | some .left => checkLeft 1 false directions
    | _ => .error (.firstDirection label)
  else .ok ⟨⟩

/-! ## Labels -/

/-- The most characters of a label that is looked at. -/
def maxLookedAt : Nat := 254

/-- The most characters of a label in ASCII. -/
def maxLength : Nat := 63

/-- The hyphen. -/
def hyphen : CodePoint := '-'.toNat

/-- Checks a label. -/
def check (label : List CodePoint) : Except LabelFault PUnit := do
  if label.isEmpty then .error .empty
  if maxLookedAt < label.length then .error .tooLong
  if !Text.isComposed label then .error .notComposed
  if (label.drop 2).take 2 = [hyphen, hyphen] then .error .innerHyphens
  if label.head? = some hyphen ∨ label.getLast? = some hyphen then .error .outerHyphen
  if label.head?.any Text.isMark then .error .firstMark
  checkCharacters label [] label
  checkDirections label

/-- What stands in front of a label that is written in ASCII. -/
def asciiFront : List Char := "xn--".toList

/-- A label in the form in which people write it; one in ASCII without the front of others is its
own form. -/
def ofAscii (label : List Char) : Except LabelFault (List CodePoint) := do
  let label := label.map Char.toLower
  if asciiFront.isPrefixOf label then
    let coded := label.drop asciiFront.length
    if coded.isEmpty then .error .noContent
    if coded.getLast? = some '-' then .error .asciiHyphen
    match Punycode.decode coded with
    | none => .error .notAsciiForm
    | some decoded =>
      if Punycode.encode decoded ≠ coded then .error .notCanonical
      check decoded
      return decoded
  else
    check (CodePoint.ofChars label)
    return CodePoint.ofChars label

/-- A label in ASCII. -/
def toAscii (label : List Char) : Except LabelFault (List Char) := do
  let ascii ←
    if label.all fun c => c.toNat < Punycode.firstCode then do
      let _ ← ofAscii label
      pure label
    else do
      let codes := CodePoint.ofChars label
      check codes
      pure (asciiFront ++ Punycode.encode codes)
  if maxLength < ascii.length then .error .tooLong
  return ascii

end Label

end Replica.Domain
