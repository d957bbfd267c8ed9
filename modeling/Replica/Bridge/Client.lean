import Replica.Bridge.Message
import Replica.Json.Integer
import Replica.Json.Parser
/-!
# The bridge's client

A client makes requests to one bridge.  A request for JSON is made again after a transport
failure, a rate limit or a server error, as long as attempts are left, and waits in between; any
other answer ends it.

* `Client.backoff`: how long to wait before the next attempt.
* `Client.judge`: what an answer means.
* `Client.request`: a request with its attempts.
-/

namespace Replica

/-- How a bridge is asked. -/
structure Client where
  /-- The address under which the bridge's resources lie, without separator at its end. -/
  url : String
  /-- The key, if there is one; an empty one is not presented. -/
  key : Option String
  /-- How often a request is made again. -/
  maxRetries : Int := 3
  /-- How many seconds to wait after the first attempt. -/
  retryDelay : Number := .float 1.0

namespace Client

/-- The key that requests present. -/
def presentedKey (c : Client) : Option String := c.key.filter (· ≠ "")

/-- Checks that the key can be presented: it is sent in ASCII. -/
def checkKey (c : Client) : Except ValueFault Unit :=
  match c.presentedKey with
  | none => .ok ()
  | some key =>
    let text := Request.authorizationFor key
    match Text.beyondAscii? text with
    | none => .ok ()
    | some stretch => .error (.notAscii text stretch)

/-! ## Waiting -/

/-- The float nearest to an integer, if it is in range. -/
def toFloat (n : Int) : Except ValueFault Float :=
  match Binary64.ofInt? n with
  | some x => .ok x
  | none => .error .integerOutOfRange

/-- A number as a float. -/
def numberToFloat : Number → Except ValueFault Float
  | .int n => toFloat n
  | .float x => .ok x

/-- The power of two with a negative exponent; far below the least float it is zero. -/
def negativePower (k : Nat) : Float :=
  if 1100 < k then 0.0 else (Binary64.ofQuotient? false 1 (Nat.pow 2 k)).getD 0.0

/-- The delay times two to the number of the attempt.  A negative number has to be in the range
of floats. -/
def scaledDelay (delay : Number) (attempt : Int) : Except ValueFault Float := do
  if attempt < 0 then
    let _ ← toFloat attempt
    return (← numberToFloat delay) * negativePower attempt.natAbs
  match delay with
  | .int n => toFloat (n * (Nat.pow 2 attempt.toNat : Nat))
  | .float x => return x * (← toFloat (Nat.pow 2 attempt.toNat : Nat))

/-- A number of seconds, moved by up to a quarter either way by chance. -/
def jittered (seconds chance : Float) : Float :=
  seconds + seconds * 0.25 * (2.0 * chance - 1.0)

/-- The seconds that a response asks to wait, if its header is made of digits. -/
def requestedWait (r : Response) : Except ValueFault (Option Float) :=
  match r.header? "Retry-After" with
  | none => .ok none
  | some text =>
    if text ≠ "" ∧ text.toList.all Text.isDigit then
      match Numeral.readPlainDigits? text with
      | some n => .ok (some ((Binary64.ofInt? n).getD Binary64.infinity))
      | none => .error (.notSeconds text)
    else .ok none

/-! ## What an answer means -/

/-- What follows from an answer to one attempt. -/
inductive Verdict where
  /-- The request is answered. -/
  | answered (value : Json)
  /-- The request has failed for good. -/
  | failed (failure : Failure)
  /-- The attempt has failed, and another may succeed. -/
  | transient (error : BridgeError) (response : Option Response)

/-- The words that the body of a refusal gives, if it gives some. -/
def refusalWords (body : List UInt8) : Except Failure (Option String) :=
  match Json.decode body with
  | .ok (.object fs) =>
    let words := (Json.field "message" fs).orElse (Json.field "error" fs)
    .ok (if words.truthy then some words.display else none)
  | .error .tooDeep => .error .documentTooDeep
  | _ => .ok none

/-- What a response with a status that is no success means. -/
def judgeRefusal (r : Response) : Verdict :=
  match r.status with
  | 401 => .failed (.bridge .unauthorized)
  | 403 => .failed (.bridge .forbidden)
  | 404 => .failed (.bridge .notFound)
  | 429 => .transient .rateLimited (some r)
  | status =>
    match refusalWords r.body with
    | .error failure => .failed failure
    | .ok words =>
      let error : BridgeError := .status status words
      if 500 ≤ status ∧ status < 600 then .transient error (some r) else .failed (.bridge error)

/-- What the content of a successful response means. -/
def judgeContent (r : Response) : Verdict :=
  let type := (r.header? "Content-Type").getD ""
  if r.body.isEmpty then .answered (.object [])
  else if !Text.containsRun "application/json".toList type.toList then
    .failed (.bridge (.contentType type))
  else
    match Json.decode r.body with
    | .ok value => .answered value
    | .error .malformed => .failed (.bridge .notJson)
    | .error .tooDeep => .failed .documentTooDeep

/-- What an answer means. -/
def judge : Answer → Verdict
  | .interrupted => .failed .interrupted
  | .unreachable cause => .transient (.network cause) none
  | .response r =>
    match r.broken with
    | some cause => .transient (.network cause) none
    | none => if r.succeeded then judgeContent r else judgeRefusal r

/-! ## Requests -/

variable {τ : Type}

/-- The seconds to wait after an attempt: the delay doubles with every attempt, and chance moves
it. -/
def backoff (l : Link τ) (delay : Number) (attempt : Int) : Action (Connection τ) Float := do
  let seconds ← Procedure.ofChecked (scaledDelay delay attempt)
  return jittered seconds (← l.draw)

/-- The seconds to wait after a failed attempt: what the response asks for after a rate limit,
and the backoff otherwise. -/
def delayAfter (l : Link τ) (c : Client) (attempt : Nat) (error : BridgeError)
    (response : Option Response) : Action (Connection τ) Float := do
  let delay ← backoff l c.retryDelay attempt
  match error, response with
  | .rateLimited, some r => return (← Procedure.ofChecked (requestedWait r)).getD delay
  | _, _ => return delay

/-- Whether another attempt follows one that failed. -/
def triesAgain (c : Client) (isTransient : Bool) (attempt : Int) : Bool :=
  attempt < c.maxRetries && isTransient

/-- Makes a request up to `left` times; `attempt` is the number of the next attempt. -/
def attempts (l : Link τ) (c : Client) (r : Request) :
    (left attempt : Nat) → Action (Connection τ) Json
  | 0, _ => Procedure.fail (.bridge .noAttempt)
  | left + 1, attempt => do
    match judge (← l.send r).answer with
    | .answered value => return value
    | .failed failure => Procedure.fail failure
    | .transient error response =>
      if c.triesAgain true attempt then
        l.wait (← delayAfter l c attempt error response)
        attempts l c r left (attempt + 1)
      else Procedure.fail (.bridge error)

/-- Opens the connection if it is not open. -/
def openUp (c : Client) : Action (Connection τ) Unit := do
  Procedure.ofChecked c.checkKey
  Link.openUp

/-- Makes a request to a resource and gives the JSON value of the answer. -/
def request (l : Link τ) (c : Client) (method endpoint : String)
    (query : List (String × Int)) : Action (Connection τ) Json := do
  openUp c
  if c.maxRetries < 0 then Procedure.fail (.bridge .noAttempt)
  else
    let url := c.url ++ "/" ++ Text.trimLeft '/' endpoint
    let r ← Procedure.ofExcept (Request.prepare method url query c.presentedKey)
    attempts l c r (c.maxRetries + 1).toNat 0

/-- Asks who the device is. -/
def device (l : Link τ) (c : Client) : Action (Connection τ) Json :=
  request l c "GET" "/device" []

/-- Asks for the storages of the device. -/
def storages (l : Link τ) (c : Client) : Action (Connection τ) Json :=
  request l c "GET" "/storages" []

/-- How many entries a page of a listing has. -/
def defaultPerPage : Int := 100

/-- Which part of a listing is asked for. -/
structure PageQuery where
  /-- The storage. -/
  storage : Int
  /-- The container, none for the top of the storage. -/
  parent : Option Int := none
  /-- The number of entries on a page. -/
  perPage : Int := defaultPerPage
  /-- The number of the page, counted from one. -/
  page : Option Int := none
deriving DecidableEq, Repr

/-- The parameters of a request for a page. -/
def PageQuery.parameters (q : PageQuery) : List (String × Int) :=
  [("storageId", q.storage), ("perPage", q.perPage)]
    ++ (q.parent.map ("parentId", ·)).toList ++ (q.page.map ("page", ·)).toList

/-- Asks for a page of the children of a container. -/
def entries (l : Link τ) (c : Client) (q : PageQuery) : Action (Connection τ) Json :=
  request l c "GET" "/file-entries" q.parameters

end Client

end Replica
