import Replica.Failure
/-!
# JSON values as integers and records

Devices send integers as numbers, as truth values or as texts.  A float is cut toward zero; a
text is read as a decimal numeral; nothing else is an integer.
-/

namespace Replica

/-- The fault of a text that is no decimal numeral. -/
def NumeralError.fault (text : String) : NumeralError → ValueFault
  | .malformed => .notNumeral (Text.CodePoint.ofChars text.toList)
  | .tooManyDigits digits => .numeralTooLong digits

/-- The integer that a text holds. -/
def integerOfText (text : String) : Except ValueFault Int :=
  match Numeral.readDecimal text with
  | .ok n => .ok n
  | .error e => .error (e.fault text)

/-- A float cut toward zero. -/
def integerOfFloat (x : Float) : Except ValueFault Int :=
  match Binary64.ofFloat x with
  | .notANumber => .error .notANumber
  | .infinite _ => .error .infinite
  | .finite negative magnitude =>
    let n : Int := magnitude.numerator / magnitude.denominator
    .ok (if negative then -n else n)

namespace Json

/-- The integer that a value stands for. -/
def toInt : Json → Except ValueFault Int
  | .number (.int n) => .ok n
  | .number (.float x) => integerOfFloat x
  | .bool b => .ok (if b then 1 else 0)
  | .string s => integerOfText s
  | .unwritable t => .error (.notNumeral t.points)
  | other => .error (.notNumeric other.kindName)

/-- The fields of a value that is an object. -/
def fields : Json → Except ValueFault (List (String × Json))
  | .object fs => .ok fs
  | other => .error (.noFields other.kindName)

/-- The field of that name, null if there is none. -/
def field (key : String) (fs : List (String × Json)) : Json :=
  (lookup key fs).getD .null

/-- The field of that name, or a text that is empty if the field does not count as given. -/
def textField (key : String) (fs : List (String × Json)) : Json :=
  (field key fs).orElse (.string "")

/-- The field of that name, which has to be there. -/
def required (key : String) (fs : List (String × Json)) : Except ValueFault Json :=
  match lookup key fs with
  | some v => .ok v
  | none => .error (.missingField key)

/-- The items that a value has: those of a list, the code points of a text, and the names in an
object. -/
def items : Json → Except ValueFault (List Json)
  | .array vs => .ok vs
  | .string s => .ok (s.toList.map fun c => .string (String.ofList [c]))
  | .unwritable t => .ok (t.points.map fun n => ofPoints [n])
  | .object fs => .ok (fs.map fun f => .string f.1)
  | other => .error (.notIterable other.kindName)

/-- The value of an optional integer. -/
def ofInt? : Option Int → Json
  | some n => .int n
  | none => .null

end Json

end Replica
