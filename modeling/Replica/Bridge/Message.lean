import Replica.Bridge.Request
import Replica.Text.Letter
import Replica.World
/-!
# Answers of the bridge

How a request gets to the bridge is left to a `Link`, which answers one request at a time and
keeps a state of its own; while it does so the local file system may change.  A response may lead on
to another address; then the request that the link makes of it is sent in its place, until an answer
stands.

* `Response`: what the bridge sends back.
* `Link.deliver`: the answer that stands in the end, and what was sent for it.
* `Link.send`: delivers a request and records it.
* `Link.wait`: lets some time pass.
-/

namespace Replica

/-- A response of the bridge. -/
structure Response where
  /-- The status code. -/
  status : Nat
  /-- The headers, in order. -/
  headers : List (String × String)
  /-- The bytes of the body that arrived. -/
  body : List UInt8
  /-- Why the connection broke after those bytes, if it did. -/
  broken : Option String
deriving Repr

namespace Response

/-- A name of a header without regard to case. -/
def lowerName (s : String) : List Char := s.toList.map Text.lowerAscii

/-- The value of a header; the values of several headers of one name are joined by commas. -/
def header? (r : Response) (name : String) : Option String :=
  let values := (r.headers.filter fun h => lowerName h.1 = lowerName name).map (·.2)
  if values.isEmpty then none else some (", ".intercalate values)

/-- Whether the status says that the request succeeded. -/
def succeeded (r : Response) : Bool := 200 ≤ r.status && r.status < 300

/-- The status codes of responses that may lead on to another address. -/
def leadingStatuses : List Nat := [301, 302, 303, 307, 308]

/-- Whether the response leads on to another address. -/
def leadsOn (r : Response) : Bool :=
  leadingStatuses.contains r.status && (r.header? "Location").isSome

/-- The standard phrase for a status code, empty for an unknown one. -/
def phrase : Nat → String
  | 100 => "Continue"
  | 101 => "Switching Protocols"
  | 102 => "Processing"
  | 103 => "Early Hints"
  | 200 => "OK"
  | 201 => "Created"
  | 202 => "Accepted"
  | 203 => "Non-Authoritative Information"
  | 204 => "No Content"
  | 205 => "Reset Content"
  | 206 => "Partial Content"
  | 207 => "Multi-Status"
  | 208 => "Already Reported"
  | 226 => "IM Used"
  | 300 => "Multiple Choices"
  | 301 => "Moved Permanently"
  | 302 => "Found"
  | 303 => "See Other"
  | 304 => "Not Modified"
  | 305 => "Use Proxy"
  | 307 => "Temporary Redirect"
  | 308 => "Permanent Redirect"
  | 400 => "Bad Request"
  | 401 => "Unauthorized"
  | 402 => "Payment Required"
  | 403 => "Forbidden"
  | 404 => "Not Found"
  | 405 => "Method Not Allowed"
  | 406 => "Not Acceptable"
  | 407 => "Proxy Authentication Required"
  | 408 => "Request Timeout"
  | 409 => "Conflict"
  | 410 => "Gone"
  | 411 => "Length Required"
  | 412 => "Precondition Failed"
  | 413 => "Request Entity Too Large"
  | 414 => "Request-URI Too Long"
  | 415 => "Unsupported Media Type"
  | 416 => "Requested Range Not Satisfiable"
  | 417 => "Expectation Failed"
  | 418 => "I'm a teapot"
  | 421 => "Misdirected Request"
  | 422 => "Unprocessable Entity"
  | 423 => "Locked"
  | 424 => "Failed Dependency"
  | 425 => "Too Early"
  | 426 => "Upgrade Required"
  | 428 => "Precondition Required"
  | 429 => "Too Many Requests"
  | 431 => "Request Header Fields Too Large"
  | 451 => "Unavailable For Legal Reasons"
  | 500 => "Internal Server Error"
  | 501 => "Not Implemented"
  | 502 => "Bad Gateway"
  | 503 => "Service Unavailable"
  | 504 => "Gateway Timeout"
  | 505 => "HTTP Version Not Supported"
  | 506 => "Variant Also Negotiates"
  | 507 => "Insufficient Storage"
  | 508 => "Loop Detected"
  | 510 => "Not Extended"
  | 511 => "Network Authentication Required"
  | _ => ""

/-- The class of a status code, as messages about it name it. -/
def statusClass (status : Nat) : String :=
  match status / 100 with
  | 1 => "Informational response"
  | 3 => "Redirect response"
  | 4 => "Client error"
  | 5 => "Server error"
  | _ => "Invalid status code"

/-- Where a status code is explained. -/
def explanation (status : Nat) : String :=
  "https:" ++ "//developer.mozilla.org/en-US/docs/Web/HTTP/Status/" ++ toString status

/-- The complaint about a status that is no success. -/
def complaint (r : Response) (url : String) : String :=
  statusClass r.status ++ " '" ++ toString r.status ++ " " ++ phrase r.status ++ "' for url '"
    ++ url ++ "'\nFor more information check: " ++ explanation r.status

end Response

/-- What comes back for a request. -/
inductive Answer where
  /-- A response. -/
  | response (r : Response)
  /-- No response, for this cause. -/
  | unreachable (cause : String)
  /-- The user interrupted the request. -/
  | interrupted

/-- How a wait ends. -/
inductive Pause where
  /-- The time is over. -/
  | elapsed
  /-- The time cannot be waited for. -/
  | refused (problem : PauseProblem)
  /-- The user interrupted the wait. -/
  | interrupted
deriving DecidableEq, Repr

/-- What a wait comes to. -/
def Pause.outcome : Pause → Except Failure Unit
  | elapsed => .ok ()
  | refused problem => .error (.value (.unwaitable problem))
  | interrupted => .error .interrupted

/-- A way to the bridge; `τ` is its state. -/
structure Link (τ : Type) where
  /-- Carries one request to the bridge.  The local file system may change meanwhile. -/
  exchange : Request → τ → FileSystem → Answer × τ × FileSystem
  /-- The request to the address that a response leads on to, or why there is none. -/
  redirected : Request → Response → Except String Request
  /-- A number between zero and one, by chance. -/
  chance : τ → Float × τ
  /-- Lets this number of seconds pass. -/
  pause : Float → τ → Pause

/-- The state of a connection to the bridge. -/
structure Connection (τ : Type) where
  /-- The state of the link. -/
  link : τ
  /-- Whether the connection is open. -/
  isOpen : Bool

/-- What comes of a request in the end. -/
structure Arrival where
  /-- The requests to which responses led on, in order. -/
  hops : List Request
  /-- The last request that was sent. -/
  last : Request
  /-- The answer to it, or what kept it from standing. -/
  answer : Answer

namespace Link

variable {τ : Type}

/-! ## Redirects -/

/-- How often a request is led on at most. -/
def maxRedirects : Nat := 20

/-- What is wrong with a request that is led on more often. -/
def tooManyRedirects : String := "Exceeded maximum allowed redirects."

/-- The request that an answer leads on to, if it does not stand.  The body of a response that leads
on has to arrive. -/
def next? (l : Link τ) (r : Request) : Answer → Option (Except String Request)
  | .response response =>
    if response.leadsOn then
      some <| match l.redirected r response, response.broken with
        | .error cause, _ => .error cause
        | .ok _, some cause => .error cause
        | .ok hop, none => .ok hop
    else none
  | _ => none

/-- Goes where the answer to a request leads, at most `left` times. -/
def follow (l : Link τ) (left : Nat) (r : Request) (answer : Answer) (state : τ)
    (files : FileSystem) : Arrival × τ × FileSystem :=
  match l.next? r answer, left with
  | none, _ => (⟨[], r, answer⟩, state, files)
  | some (.error cause), _ => (⟨[], r, .unreachable cause⟩, state, files)
  | some (.ok _), 0 => (⟨[], r, .unreachable tooManyRedirects⟩, state, files)
  | some (.ok hop), left + 1 =>
    let (answer, state, files) := l.exchange hop state files
    let (arrival, rest) := follow l left hop answer state files
    ({ arrival with hops := hop :: arrival.hops }, rest)

/-- Sends a request, and goes where its answers lead.  From an address without a scheme nothing
leads on. -/
def deliver (l : Link τ) (r : Request) (state : τ) (files : FileSystem) :
    Arrival × τ × FileSystem :=
  let (answer, state, files) := l.exchange r state files
  if r.address.scheme = "" then (⟨[], r, answer⟩, state, files)
  else l.follow maxRedirects r answer state files

/-! ## Actions -/

/-- Checks that an answer can be taken: a response has to come from an address with a scheme. -/
def checkAnswer (r : Request) : Answer → Except ValueFault Unit
  | .response _ => if r.address.scheme = "" then .error (.noScheme r.address.text) else .ok ()
  | _ => .ok ()

/-- Sends a request, and goes where its answers lead. -/
def send (l : Link τ) (r : Request) : Action (Connection τ) Arrival := do
  Action.record (.sent r)
  let w ← Procedure.state
  let (arrival, state, files) := l.deliver r w.other.link w.files
  Action.setFiles files
  Action.changeOther fun connection => { connection with link := state }
  Action.recordAll (arrival.hops.map .followed)
  Procedure.ofChecked (checkAnswer r arrival.answer)
  return arrival

/-- Draws a number by chance. -/
def draw (l : Link τ) : Action (Connection τ) Float := do
  let (x, state) := l.chance (← Action.other).link
  Action.changeOther fun connection => { connection with link := state }
  return x

/-- Lets some seconds pass. -/
def wait (l : Link τ) (seconds : Float) : Action (Connection τ) Unit := do
  Action.record (.waited seconds)
  Procedure.ofExcept (l.pause seconds (← Action.other).link).outcome

/-- Opens the connection if it is not open. -/
def openUp : Action (Connection τ) Unit :=
  Action.changeOther fun connection => { connection with isOpen := true }

/-- Closes the connection. -/
def close : Action (Connection τ) Unit :=
  Action.changeOther fun connection => { connection with isOpen := false }

end Link

end Replica
