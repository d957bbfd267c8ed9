import Replica.Number.Shortest
import Replica.Text.Unwritable
/-!
# JSON values

What a device sends is JSON of any shape, so fields that nobody checks stay JSON values.  An
object keeps its fields in the order in which their names first came.

* `Json`: the values; `Number` keeps integers and floats apart.
* `Json.truthy`: whether a value counts as given.
* `Number.compare?`: the exact order of numbers of both kinds.
* `Json.less?`: the order of two values, where they have one.
-/

namespace Replica

/-- A JSON number: an integer without bound, or a float. -/
inductive Number where
  /-- An integer. -/
  | int (n : Int)
  /-- A binary64 float. -/
  | float (x : Float)

namespace Number

/-- Compares an integer with a finite float, exactly. -/
def compareExact (n : Int) (negative : Bool) (x : BinaryFraction) : Ordering :=
  let scaled : Int := if negative then -(x.numerator : Int) else x.numerator
  compare (n * (x.denominator : Int)) scaled

/-- Compares an integer with a float; a float that is no number has no place in the order. -/
def compareIntFloat? (n : Int) (x : Float) : Option Ordering :=
  match Binary64.ofFloat x with
  | .notANumber => none
  | .infinite negative => some (if negative then .gt else .lt)
  | .finite negative magnitude => some (compareExact n negative magnitude)

/-- The exact order of two numbers, if both have a place in it. -/
def compare? : Number → Number → Option Ordering
  | .int m, .int n => some (compare m n)
  | .int m, .float y => compareIntFloat? m y
  | .float x, .int n => (compareIntFloat? n x).map Ordering.swap
  | .float x, .float y =>
    if x < y then some .lt else if y < x then some .gt else if x == y then some .eq else none

/-- Whether the first number is less than the second. -/
def less (a b : Number) : Bool := compare? a b == some .lt

/-- Whether the two numbers have the same value. -/
def same (a b : Number) : Bool := compare? a b == some .eq

/-- Whether the number is the float that is none. -/
def isNotANumber : Number → Bool
  | .int _ => false
  | .float x => x.isNaN

/-- Whether the number differs from zero. -/
def nonzero : Number → Bool
  | .int n => n != 0
  | .float x => !(x == 0.0)

/-- The written form of the number. -/
def text : Number → String
  | .int n => toString n
  | .float x => floatText x

end Number

/-- A JSON value. -/
inductive Json where
  /-- The null value. -/
  | null
  /-- A truth value. -/
  | bool (b : Bool)
  /-- A number. -/
  | number (n : Number)
  /-- A text. -/
  | string (s : String)
  /-- A text with surrogates. -/
  | unwritable (t : Text.Unwritable)
  /-- A list of values. -/
  | array (items : List Json)
  /-- Named values, in the order of their names' first arrival. -/
  | object (fields : List (String × Json))

instance : Inhabited Json := ⟨.null⟩

namespace Json

/-- The JSON value of an integer. -/
def int (n : Int) : Json := .number (.int n)

/-- The text with these code points; a number that is too great to be one is left out. -/
def ofPoints (ns : List Text.CodePoint) : Json :=
  let points := ns.filter (· ≤ Text.CodePoint.max)
  if h : points.all Text.CodePoint.isCharacter = true then
    .string (String.ofList (points.filterMap Text.CodePoint.char?))
  else .unwritable ⟨points, fun _ hn => of_decide_eq_true (List.mem_filter.mp hn).2,
    Bool.not_eq_true _ ▸ h⟩

/-- The value of the field of that name. -/
def lookup (key : String) : List (String × Json) → Option Json
  | [] => none
  | (k, v) :: rest => if k = key then some v else lookup key rest

/-- Sets a field: a name that is there keeps its place, a new one goes to the end. -/
def setField (key : String) (value : Json) : List (String × Json) → List (String × Json)
  | [] => [(key, value)]
  | (k, v) :: rest =>
    if k = key then (k, value) :: rest else (k, v) :: setField key value rest

/-- Whether the value counts as given: null, false, zero and everything empty do not. -/
def truthy : Json → Bool
  | .null => false
  | .bool b => b
  | .number n => n.nonzero
  | .string s => !s.isEmpty
  | .unwritable _ => true
  | .array items => !items.isEmpty
  | .object fields => !fields.isEmpty

/-- The first value if it counts as given, else the second. -/
def orElse (a b : Json) : Json := if a.truthy then a else b

/-- The name of the kind of a value, as messages about it give it. -/
def kindName : Json → String
  | .null => "NoneType"
  | .bool _ => "bool"
  | .number (.int _) => "int"
  | .number (.float _) => "float"
  | .string _ | .unwritable _ => "str"
  | .array _ => "list"
  | .object _ => "dict"

/-- The value as a number; truth values count as one and zero. -/
def number? : Json → Option Number
  | .bool b => some (.int (if b then 1 else 0))
  | .number n => some n
  | _ => none

/-- The value as a text without surrogates. -/
def string? : Json → Option String
  | .string s => some s
  | _ => none

/-- Whether the value is the float that is no number. -/
def isNotANumber : Json → Bool
  | .number n => n.isNotANumber
  | _ => false

mutual

/-- Whether two values are equal: numbers by value, objects whatever the order of fields.  The
float that is no number equals nothing when it stands alone, and itself as an item or a field. -/
def same : Json → Json → Bool
  | .null, .null => true
  | .string s, .string t => s == t
  | .unwritable s, .unwritable t => s == t
  | .array xs, .array ys => sameItems xs ys
  | .object fs, .object gs => fs.length == gs.length && sameFields fs gs
  | .bool a, .bool b => a == b
  | .bool a, .number n => Number.same (.int (if a then 1 else 0)) n
  | .number n, .bool b => Number.same n (.int (if b then 1 else 0))
  | .number m, .number n => Number.same m n
  | _, _ => false

/-- Whether two lists of values are equal item by item. -/
def sameItems : List Json → List Json → Bool
  | [], [] => true
  | x :: xs, y :: ys =>
    (same x y || (isNotANumber x && isNotANumber y)) && sameItems xs ys
  | _, _ => false

/-- Whether each field of the first object is a field of the second with an equal value. -/
def sameFields : List (String × Json) → List (String × Json) → Bool
  | [], _ => true
  | (k, v) :: rest, gs =>
    (match lookup k gs with
      | some w => same v w || (isNotANumber v && isNotANumber w)
      | none => false) && sameFields rest gs

end

/-- Whether two values are equal as items of lists. -/
def sameInside (a b : Json) : Bool := same a b || (isNotANumber a && isNotANumber b)

/-- Two values that no order compares, by the names of their kinds. -/
structure Unordered where
  /-- The kind of the left value. -/
  left : String
  /-- The kind of the right value. -/
  right : String
deriving DecidableEq, Repr

mutual

/-- Whether the first value is less than the second.  Numbers compare by value, texts by code
points, and lists by their first items that differ. -/
def less? : Json → Json → Except Unordered Bool
  | .string s, .string t => .ok (decide (s < t))
  | .string s, .unwritable t => .ok (decide (Text.CodePoint.ofChars s.toList < t.points))
  | .unwritable s, .string t => .ok (decide (s.points < Text.CodePoint.ofChars t.toList))
  | .unwritable s, .unwritable t => .ok (decide (s.points < t.points))
  | .array xs, .array ys => lessItems? xs ys
  | a, b =>
    match a.number?, b.number? with
    | some m, some n => .ok (Number.less m n)
    | _, _ => .error ⟨a.kindName, b.kindName⟩

/-- Whether the first list is less than the second. -/
def lessItems? : List Json → List Json → Except Unordered Bool
  | [], ys => .ok (!ys.isEmpty)
  | _ :: _, [] => .ok false
  | x :: xs, y :: ys =>
    if sameInside x y then lessItems? xs ys else less? x y

end

end Json

end Replica
