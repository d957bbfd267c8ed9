import Replica.FileSystem.Change
import Replica.Json.Integer
/-!
# Descriptions

A rehearsal is described as a JSON value: what is on the local file system, what the bridge
answers, which nodes a remote tree has.  A description is read leniently; what is not as it
should be counts as not given.

* `Description.content`: the bytes of a file or a body.
* `Description.change`: a change of the file system.
-/

namespace Replica.Description

/-- The fields of a value, none if it is no object. -/
def fields : Json → List (String × Json)
  | .object fs => fs
  | _ => []

/-- The field of that name. -/
def field (key : String) (v : Json) : Json := Json.field key (fields v)

/-- The items of a value, none if it is no list. -/
def items : Json → List Json
  | .array vs => vs
  | _ => []

/-- The integer that a value is. -/
def int? : Json → Option Int
  | .number (.int n) => some n
  | _ => none

/-- The number that a value is. -/
def number? : Json → Option Number
  | .number n => some n
  | _ => none

/-- The text that a value is, empty if it is none. -/
def text (v : Json) : String := v.string?.getD ""

/-- The natural number that a value is, zero if it is none. -/
def natural (v : Json) : Nat := ((int? v).getD 0).toNat

/-- The bytes of a text. -/
def bytesOf (s : String) : List UInt8 := s.toUTF8.toList

/-- The bytes that pairs of hexadecimal digits name. -/
def hexBytes : List Char → List UInt8
  | a :: b :: rest =>
    let digit (c : Char) : Nat := (Numeral.digit? 16 c).getD 0
    UInt8.ofNat (16 * digit a + digit b) :: hexBytes rest
  | _ => []

/-- The bytes that a description names: a number of bytes of one kind, a text, bytes in
hexadecimal, or a text repeated. -/
def content : Json → List UInt8
  | .number (.int n) => List.replicate n.toNat 'x'.toUInt8
  | .string s => bytesOf s
  | v =>
    match (field "hex" v).string? with
    | some digits => hexBytes digits.toList
    | none =>
      (List.replicate (natural (field "n" v)) (bytesOf (text (field "fill" v)))).flatten

/-- The change of the file system that a description names. -/
def change (v : Json) : Option FileChange :=
  match items v with
  | action :: path :: rest =>
    let path := Path.ofString (text path)
    match text action, rest with
    | "dir", _ => some (.directory path)
    | "file", bytes :: _ => some (.file path (content bytes))
    | "link", target :: _ => some (.link path (text target))
    | "rm", _ => some (.remove path)
    | _, _ => none
  | _ => none

/-- The changes that a list describes, in order. -/
def changes (v : Json) : List FileChange := (items v).filterMap change

end Replica.Description
