import Replica.Address.Escape
import Replica.Text.Quoted
/-!
# Addresses

The address of a resource has a scheme, a user, a host, a port, a path, a query and a fragment,
each of which may be missing.  All parts are in their normal form: only characters that may stand
there, and nothing that goes without saying.

* `Address`: the parts.
* `Address.text`: the address as it is written.
* `AddressFault`: why a text is no address.
-/

namespace Replica

/-- The address of a resource. -/
structure Address where
  /-- The scheme in lower case, empty if there is none. -/
  scheme : String
  /-- The user, with a password behind a colon; empty if there is none. -/
  user : String
  /-- The host, empty if there is none. -/
  host : String
  /-- The port, unless it is that of the scheme. -/
  port : Option Int
  /-- The path. -/
  path : String
  /-- What follows a question mark. -/
  query : Option String
  /-- What follows a number sign. -/
  fragment : Option String
deriving DecidableEq, Repr

/-- Why a text is no address. -/
inductive AddressFault where
  /-- The text is too long. -/
  | tooLong
  /-- A part of the address is too long. -/
  | partTooLong (part : String)
  /-- The text holds a control character. -/
  | control (c : Char) (position : Nat)
  /-- The port is no number. -/
  | port (text : String)
  /-- The host looks like four numbers and is not. -/
  | version4 (host : String)
  /-- What stands in brackets is no number of a host. -/
  | version6 (host : String)
  /-- The host is no domain name. -/
  | hostName (host : String)
  /-- The path behind a host starts with something else than a separator. -/
  | pathNotRooted
  /-- The path without a host starts with two separators. -/
  | doubleSeparator
  /-- The path without a scheme starts with a colon. -/
  | leadingColon
deriving DecidableEq, Repr

/-- The fault in words. -/
def AddressFault.message : AddressFault → String
  | tooLong => "URL too long"
  | partTooLong part => "URL component '" ++ part ++ "' too long"
  | control c position =>
    "Invalid non-printable ASCII character in URL, " ++ Text.quoted (String.ofList [c])
      ++ " at position " ++ toString position ++ "."
  | port text => "Invalid port: " ++ Text.quoted text
  | version4 host => "Invalid IPv4 address: " ++ Text.quoted host
  | version6 host => "Invalid IPv6 address: " ++ Text.quoted host
  | hostName host => "Invalid IDNA hostname: " ++ Text.quoted host
  | pathNotRooted => "For absolute URLs, path must be empty or begin with '/'"
  | doubleSeparator => "Relative URLs cannot have a path starting with '//'"
  | leadingColon => "Relative URLs cannot have a path starting with ':'"

namespace Address

/-- The host and the port as they are written. -/
def location (a : Address) : String :=
  (if a.host.toList.contains ':' then "[" ++ a.host ++ "]" else a.host)
    ++ (match a.port with
      | some port => ":" ++ toString port
      | none => "")

/-- The user and the location as they are written. -/
def authority (a : Address) : String :=
  (if a.user = "" then "" else a.user ++ "@") ++ a.location

/-- The query as it is written. -/
def queryText (a : Address) : String :=
  match a.query with
  | some query => "?" ++ query
  | none => ""

/-- The address as it is written. -/
def text (a : Address) : String :=
  (if a.scheme = "" then "" else a.scheme ++ ":")
    ++ (if a.authority = "" then "" else "//" ++ a.authority)
    ++ a.path ++ a.queryText
    ++ (match a.fragment with
      | some fragment => "#" ++ fragment
      | none => "")

/-- The path and the query, as the host gets to see them. -/
def target (a : Address) : String := (if a.path = "" then "/" else a.path) ++ a.queryText

/-- Whether the address says where its host is and how to speak to it. -/
def isAbsolute (a : Address) : Bool := a.scheme ≠ "" && a.host ≠ ""

/-! ## Users -/

/-- The name and the password of the user, if there is one. -/
def credentials? (a : Address) : Option (String × String) :=
  let name := a.user.toList.takeWhile (· ≠ ':')
  let password := a.user.toList.drop (name.length + 1)
  if name.isEmpty ∧ password.isEmpty then none
  else some (Escape.unescape (String.ofList name), Escape.unescape (String.ofList password))

/-! ## Parameters -/

/-- The parameters in the query: names, and what follows their equals signs. -/
def parameters (a : Address) : List (String × String) :=
  (Text.splitAt '&' (a.query.getD "").toList).map fun piece =>
    let name := piece.takeWhile (· ≠ '=')
    (String.ofList name, String.ofList (piece.drop (name.length + 1)))

end Address

end Replica
