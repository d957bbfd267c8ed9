import Replica.Address.Reader
import Replica.Failure
import Replica.Number.Shortest
import Replica.Text.Base64
/-!
# Requests to the bridge

A device is reached through a bridge that speaks HTTP.  A request names a resource and gives
parameters in an order that is kept; from both follows the address to which it goes.  Who asks
is told by a key, or by the user in the address.

* `Request.prepare`: the request for a resource, if it has an address.
* `Request.authorization`: the header that tells who asks.
-/

namespace Replica

/-- A request to the bridge. -/
structure Request where
  /-- What to do with the resource, in upper case. -/
  method : String
  /-- The name of the resource. -/
  url : String
  /-- The parameters, in order. -/
  query : List (String × Int)
  /-- The key that is presented. -/
  key : Option String
  /-- The address to which the request goes. -/
  address : Address
deriving DecidableEq, Repr

namespace Request

/-- A method as it is sent. -/
def methodText (method : String) : String := String.ofList (Text.upper method.toList)

/-- The parameters as they stand in an address. -/
def queryText (q : List (String × Int)) : String :=
  "&".intercalate (q.map fun p => p.1 ++ "=" ++ toString p.2)

/-! ## Addresses -/

/-- The address of a resource with parameters, which take the place of those in its name. -/
def addressOf (url : String) (query : List (String × Int)) : Except AddressFault Address := do
  let named ← Address.read url
  let found ← if named.isAbsolute then pure named else named.rooted
  if query.isEmpty then return found else found.withQuery (queryText query)

/-- The front of a label that stands for one beyond ASCII. -/
def labelFront : List Char := "xn--".toList

/-- Checks that the host can be named: what stands behind the front of a label has to stand for
one, and the host is sent in ASCII. -/
def checkHost (a : Address) : Except ValueFault Unit := do
  if labelFront.isPrefixOf a.host.toList then
    (Domain.Name.check a.host.toList).mapError .label
  match Text.beyondAscii? a.location with
  | some stretch => .error (.notAscii a.location stretch)
  | none => .ok ()

/-- The request for a resource, if it has an address and the host can be named. -/
def prepare (method url : String) (query : List (String × Int)) (key : Option String) :
    Except Failure Request := do
  let address ← (addressOf url query).mapError .address
  (checkHost address).mapError .value
  return ⟨methodText method, url, query, key, address⟩

/-! ## Who asks -/

/-- The header that presents a key. -/
def authorizationFor (key : String) : String := "Bearer " ++ key

/-- The header that presents a name and a password. -/
def authorizationOf (name password : String) : String :=
  "Basic " ++ String.ofList (Text.Base64.encode (name ++ ":" ++ password).toUTF8.toList)

/-- The header that tells who asks: the user in the address, or else the key. -/
def authorization (r : Request) : Option String :=
  match r.address.credentials? with
  | some (name, password) => some (authorizationOf name password)
  | none => r.key.map authorizationFor

end Request

end Replica
