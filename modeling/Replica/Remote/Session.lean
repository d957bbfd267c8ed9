import Replica.Bridge.Download
import Replica.Remote.Basic
/-!
# The remote tree behind a bridge

A session asks a bridge for listings and contents and keeps the messages about what failed.  A
listing comes in pages, which are asked for one after the other; one bad entry on any page makes
the whole listing fail, so that no part of a listing is ever taken for the whole.

* `Session.listChildren`: all pages of a listing.
* `Session.remote`: the remote tree of a session.
-/

namespace Replica

/-- The state of a session: its connection, and the messages about what failed. -/
structure Session (τ : Type) where
  /-- The connection to the bridge. -/
  connection : Connection τ
  /-- The messages, the oldest first. -/
  errors : List String

/-- How listings are asked for. -/
structure Paging where
  /-- The number of entries on a page. -/
  perPage : Int := Client.defaultPerPage
  /-- The most pages of one listing. -/
  limit : Nat

namespace Session

variable {τ : Type}

/-- A session whose connection is not open yet. -/
def start (link : τ) : Session τ := ⟨⟨link, false⟩, []⟩

/-- Works on the connection of a session. -/
def onConnection {α : Type} (action : Action (Connection τ) α) : Action (Session τ) α :=
  action.zoom (·.connection) fun connection session => { session with connection }

/-- Keeps a message about what failed. -/
def keepError (message : String) : Action (Session τ) Unit := do
  Action.log .debug .remote ("Remote error: " ++ message)
  Action.changeOther fun session => { session with errors := session.errors ++ [message] }

/-! ## Storages -/

/-- The storages that an answer describes. -/
def storagesOf (answer : Json) : Except ValueFault (List Storage) := do
  let fs ← answer.fields
  let items ← ((Json.lookup "storages" fs).getD (.array [])).items
  items.mapM Storage.ofJson

/-- Asks for the storages. -/
def listStorages (l : Link τ) (c : Client) : Action (Session τ) (List Storage) := do
  match ← Procedure.attempt (onConnection (c.storages l)) with
  | .ok answer => Procedure.ofChecked (storagesOf answer)
  | .error (.bridge error) =>
    keepError ("Could not list storages: " ++ error.message)
    return []
  | .error failure => Procedure.fail failure

/-! ## Listings -/

/-- What a page of a listing says. -/
structure Page where
  /-- Its entries. -/
  nodes : List Node
  /-- Whether another page follows. -/
  hasNext : Bool

/-- Whether a page announces another one: its number and the last number are given, and the
first is less. -/
def announcesNext (current last : Json) : Except ValueFault Bool :=
  match current, last with
  | .null, _ | _, .null => .ok false
  | c, l =>
    match Json.less? c l with
    | .ok b => .ok b
    | .error kinds => .error (.unordered kinds)

/-- The page that an answer describes. -/
def pageOf (answer : Json) : Except ValueFault Page := do
  let fs ← answer.fields
  let items ← ((Json.lookup "data" fs).getD (.array [])).items
  let nodes ← items.mapM Node.ofJson
  return ⟨nodes, ← announcesNext (Json.field "current_page" fs) (Json.field "last_page" fs)⟩

/-- Asks for the pages of a listing from a page on; `left` is the number of pages that may
still be asked for. -/
def pagesFrom (l : Link τ) (c : Client) (perPage storage : Int) (container : Option Int) :
    (left page : Nat) → Action (Session τ) (List Node)
  | 0, _ => Procedure.fail .tooManyPages
  | left + 1, page => do
    let answer ← onConnection (c.entries l ⟨storage, container, perPage, some page⟩)
    let this ← Procedure.ofChecked (pageOf answer)
    if this.hasNext then
      return this.nodes ++ (← pagesFrom l c perPage storage container left (page + 1))
    else return this.nodes

/-- What a message about a failed listing calls it. -/
def listingName (storage : Int) (container : Option Int) : String :=
  "container " ++ Node.idText container ++ " on storage " ++ toString storage

/-- Whether a fault is one of an entry, which makes the listing fail and nothing more. -/
def isEntryFault (fault : ValueFault) : Bool :=
  match fault.family with
  | .missing | .kind | .content => true
  | .fieldless | .range => false

/-- Asks for all children of a container. -/
def listChildren (l : Link τ) (c : Client) (p : Paging) (storage : Int)
    (container : Option Int) : Action (Session τ) (List Node) := do
  match ← Procedure.attempt (pagesFrom l c p.perPage storage container p.limit 1) with
  | .ok children =>
    Action.log .debug .remote
      ("Listed " ++ toString children.length ++ " children of " ++ Node.idText container
        ++ " on storage " ++ toString storage)
    return children
  | .error (.bridge error) =>
    keepError ("Could not list " ++ listingName storage container ++ ": " ++ error.message)
    return []
  | .error (.value fault) =>
    if isEntryFault fault then
      keepError ("Malformed entry in " ++ listingName storage container ++ ": "
        ++ fault.description)
      return []
    else Procedure.fail (.value fault)
  | .error failure => Procedure.fail failure

/-! ## Contents -/

/-- Puts the content of a file at a path. -/
def fetch (l : Link τ) (c : Client) (file : Node) (target : Path) :
    Action (Session τ) Bool := do
  match ← Procedure.attempt (onConnection (c.download l file.id target)) with
  | .ok _ => return true
  | .error failure =>
    match failure with
    | .bridge _ | .file .. =>
      keepError ("Could not fetch " ++ file.name.display ++ " (id " ++ toString file.id ++ "): "
        ++ failure.message)
      return false
    | _ => Procedure.fail failure

/-- The remote tree of a session. -/
def remote (l : Link τ) (c : Client) (p : Paging) : Remote (Session τ) where
  listStorages := .ofAction (listStorages l c)
  listChildren storage container := .ofAction (listChildren l c p storage container)
  fetch file target := .ofAction (fetch l c file target)
  errors session := session.errors
  forgetErrors session := { session with errors := [] }

end Session

end Replica
