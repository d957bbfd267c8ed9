import Replica.Rehearsal.Script
/-!
# Catalogued bridges

A catalogued bridge has replies for each resource: the device, its storages, the pages of each
listing, and the contents of files.  A resource may have several replies, one for each request
in turn, of which the last is repeated; one without replies is not found.

* `Resource.ofRequest?`: what a request asks for.
* `Catalogue.link`: the way to a catalogued bridge.
-/

namespace Replica

/-- What a bridge can be asked for. -/
inductive Resource where
  /-- The device. -/
  | device
  /-- Its storages. -/
  | storages
  /-- A page of the listing of this name. -/
  | page (listing : String) (number : Int)
  /-- The content of a file. -/
  | content (file : String)
deriving DecidableEq, Repr

namespace Resource

/-- What may stand in front of the paths of all resources. -/
def base : List Char := "/api/v1".toList

/-- The front of the paths of contents. -/
def contentBase : List Char := "/file-entries/download/".toList

/-- The value of a parameter in an address. -/
def parameter? (name : String) (a : Address) : Option String := a.parameters.lookup name

/-- The name of the listing that an address asks for: the storage and the container. -/
def listingOf (a : Address) : String :=
  (parameter? "storageId" a).getD "0" ++ "/" ++ (parameter? "parentId" a).getD "root"

/-- The number of the page that an address asks for. -/
def pageOf (a : Address) : Int :=
  match (parameter? "page" a).map Numeral.readDecimal with
  | some (.ok number) => number
  | _ => 1

/-- What a request asks for. -/
def ofRequest? (r : Request) : Option Resource :=
  let path := (Address.Escape.unescape r.address.path).toList
  let route := if base.isPrefixOf path then path.drop base.length else path
  if route = "/device".toList then some .device
  else if route = "/storages".toList then some .storages
  else if route = "/file-entries".toList then
    some (.page (listingOf r.address) (pageOf r.address))
  else if contentBase.isPrefixOf route then
    some (.content (String.ofList (route.drop contentBase.length)))
  else none

end Resource

/-- The replies of a catalogued bridge. -/
structure Catalogue where
  /-- Those about the device. -/
  device : List Reply
  /-- Those about the storages. -/
  storages : List Reply
  /-- Those for the pages of each listing. -/
  listings : List (String × List (List Reply))
  /-- Those with the contents of files. -/
  contents : List (String × List Reply)

namespace Catalogue

/-- The replies for a resource. -/
def repliesFor (c : Catalogue) : Resource → List Reply
  | .device => c.device
  | .storages => c.storages
  | .page listing number =>
    if number < 1 then []
    else ((c.listings.lookup listing).getD []).getD (number - 1).toNat []
  | .content file => (c.contents.lookup file).getD []

/-- The state of a catalogued bridge. -/
structure State where
  /-- How often each resource was asked for. -/
  asked : List (Resource × Nat)
  /-- The numbers drawn by chance. -/
  chances : Chances

/-- A catalogued bridge that was not asked for anything yet. -/
def State.new (chances : Chances) : State := ⟨[], chances⟩

/-- Counts a request for a resource. -/
def countUp (resource : Resource) : List (Resource × Nat) → List (Resource × Nat)
  | [] => [(resource, 1)]
  | (r, n) :: rest => if r = resource then (r, n + 1) :: rest else (r, n) :: countUp resource rest

/-- The reply to a request after `earlier` ones for the same resource. -/
def replyAfter (replies : List Reply) (earlier : Nat) : Reply :=
  (replies[earlier]?.or replies.getLast?).getD .notFound

/-- Carries a request to the bridge. -/
def exchange (c : Catalogue) (r : Request) (s : State) (files : FileSystem) :
    Answer × State × FileSystem :=
  match Resource.ofRequest? r with
  | none => (Reply.notFound.answer, s, files)
  | some resource =>
    let reply := replyAfter (c.repliesFor resource) ((s.asked.lookup resource).getD 0)
    (reply.answer, { s with asked := countUp resource s.asked },
      FileChange.after files reply.changes)

/-- The way to a catalogued bridge.  No time passes. -/
def link (c : Catalogue) : Link State where
  exchange := c.exchange
  redirected := Reply.leadNowhere
  chance s :=
    let (x, chances) := s.chances.draw
    (x, { s with chances })
  pause _ _ := .elapsed

/-! ## Descriptions -/

/-- The replies that a description names, one or several in turn. -/
def repliesOf (v : Json) : List Reply :=
  match Json.lookup "seq" (Description.fields v) with
  | some replies => (Description.items replies).map Reply.ofJson
  | none => [Reply.ofJson v]

/-- The replies for the field of that name, none if it is not given. -/
def repliesAt (key : String) (v : Json) : List Reply :=
  ((Json.lookup key (Description.fields v)).map repliesOf).getD []

/-- The replies for the pages of a listing. -/
def pagesOf : Json → List (List Reply)
  | .array pages => pages.map repliesOf
  | page => [repliesOf page]

/-- The catalogue that a description names. -/
def ofJson (v : Json) : Catalogue where
  device := repliesAt "device" v
  storages := repliesAt "storages" v
  listings := (Description.fields (Description.field "entries" v)).map fun (name, pages) =>
    (name, pagesOf pages)
  contents := (Description.fields (Description.field "files" v)).map fun (file, replies) =>
    (file, repliesOf replies)

end Catalogue

end Replica
