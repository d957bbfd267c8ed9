import Replica.Bridge.Coding
import Replica.Json.Printer
import Replica.Rehearsal.Description
/-!
# Described answers of a bridge

What a rehearsed bridge does with one request: the local file system may change first, and then
an answer comes.  A body that is given as a JSON value is announced as one, and a body that is
sent in one piece is announced with its length.  Codings are taken off a body as it arrives; a
corrupt body in one piece does not arrive at all.
-/

namespace Replica

/-- What a rehearsed bridge does with one request. -/
structure Reply where
  /-- What happens to the local file system before the answer comes. -/
  changes : List FileChange
  /-- The answer. -/
  answer : Answer

namespace Reply

/-- The answer to a request for something that is not there. -/
def notFound : Reply := ⟨[], .response ⟨404, [], [], none⟩⟩

/-- Rehearsed responses name no other addresses. -/
def leadNowhere (_ : Request) (_ : Response) : Except String Request :=
  .error "no other addresses"

/-- Adds a header unless there is one of that name. -/
def addHeader (name value : String) (headers : List (String × String)) :
    List (String × String) :=
  if headers.any fun h => Response.lowerName h.1 = Response.lowerName name then headers
  else headers ++ [(name, value)]

/-- The header that announces the length of a body, unless that is empty. -/
def addLength (body : List UInt8) (headers : List (String × String)) :
    List (String × String) :=
  if body.isEmpty then headers else addHeader "Content-Length" (toString body.length) headers

/-- The answer whose body is sent in one piece. -/
def whole (status : Nat) (headers : List (String × String)) (body : List UInt8) : Answer :=
  match Coding.takeOff (Coding.ofHeaders headers) [body] with
  | (content, none) => .response ⟨status, addLength body headers, content, none⟩
  | (_, some fault) => .unreachable fault.message

/-- The answer whose body is sent in several pieces, after which the connection may break. -/
def streamed (status : Nat) (headers : List (String × String)) (pieces : List (List UInt8))
    (broken : Option String) : Answer :=
  let (content, fault) := Coding.takeOff (Coding.ofHeaders headers) pieces
  .response ⟨status, headers, content, (fault.map (·.message)).or broken⟩

/-- The answer with the status, the headers and the body that a description names. -/
def sent (v : Json) : Answer :=
  let fs := Description.fields v
  let status := ((Json.lookup "status" fs).map Description.natural).getD 200
  let headers := (Description.fields (Json.field "headers" fs)).map fun (name, value) =>
    (name, value.display)
  match Json.lookup "json" fs, Json.lookup "chunks" fs, Json.lookup "body" fs with
  | some value, _, _ =>
    whole status (addHeader "Content-Type" "application/json" headers)
      (Description.bytesOf value.compact)
  | none, some chunks, _ =>
    streamed status headers ((Description.items chunks).map Description.content)
      (Json.field "then" fs).string?
  | none, none, some body => whole status headers (Description.content body)
  | none, none, none => whole status headers []

/-- The answer that a description names. -/
def answerOf (v : Json) : Answer :=
  if (Description.field "interrupt" v).truthy then .interrupted
  else
    match (Description.field "net" v).string? with
    | some cause => .unreachable cause
    | none => sent v

/-- The reply that a description names. -/
def ofJson (v : Json) : Reply :=
  ⟨Description.changes (Description.field "effect" v), answerOf v⟩

end Reply

end Replica
