import Replica.Json.Integer
/-!
# Nodes of the remote tree

A storage of a device holds a tree of nodes.  A node is a container, a file whose size is
declared, or an abstract file such as a playlist, which has no content of its own.  Nodes are
read from the entries of a listing.

* `Node.ofJson`: the node of a listing's entry.
* `Node.toJson`: the fields of a node.
-/

namespace Replica

/-- The kinds of nodes. -/
inductive Node.Kind where
  /-- A folder. -/
  | container
  /-- A regular file. -/
  | file
  /-- An entry without content. -/
  | abstractFile
deriving DecidableEq, Repr

/-- The word for a kind. -/
def Node.Kind.word : Node.Kind → String
  | container => "container"
  | file => "file"
  | abstractFile => "abstract"

/-- One entry of the remote tree. -/
structure Node where
  /-- The number that identifies the node. -/
  id : Int
  /-- The container that holds it, none for one at the top of its storage. -/
  parent : Option Int
  /-- The storage on which it lies. -/
  storage : Int
  /-- Its name, as the device gave it. -/
  name : Json
  /-- Its kind. -/
  kind : Node.Kind
  /-- The size that the device declares, if it is known. -/
  declaredSize : Option Int
  /-- What the device says about the type of the file. -/
  filetype : Json

namespace Node

/-- Whether the node is a folder. -/
def isContainer (n : Node) : Bool := n.kind = .container

/-- Whether the node has no content of its own. -/
def isAbstract (n : Node) : Bool := n.kind = .abstractFile

/-- The sizes by which devices mark a file without content. -/
def abstractMarkers : List Int := [-1, 0xFFFFFFFF]

/-- The size that an entry declares, unless it is one of the markers. -/
def declaredSizeOf (raw : Json) : Except ValueFault (Option Int) :=
  match raw with
  | .null => .ok none
  | v => do
    let n ← v.toInt
    return if abstractMarkers.contains n then none else some n

/-- The kind of an entry, by its type and its size. -/
def kindOf (entryType : Json) (size : Option Int) : Node.Kind :=
  if entryType.string? = some "folder" then .container
  else if entryType.string? = some "abstract" ∨ size = none then .abstractFile
  else .file

/-- An optional number: a value that does not count as given is none. -/
def optionalInt (v : Json) : Except ValueFault (Option Int) :=
  if v.truthy then v.toInt.map some else .ok none

/-- The node that an entry of a listing describes. -/
def ofJson (entry : Json) : Except ValueFault Node := do
  let fs ← entry.fields
  let entryType := Json.textField "type" fs
  let size ← declaredSizeOf (Json.field "file_size" fs)
  let kind := kindOf entryType size
  let id ← (← Json.required "id" fs).toInt
  let parent ← optionalInt (Json.field "parent_id" fs)
  let storage ← optionalInt (Json.field "storage_id" fs)
  return {
    id
    parent
    storage := storage.getD 0
    name := Json.textField "name" fs
    kind
    declaredSize := if kind = .container then none else size
    filetype := (Json.field "filetype" fs).orElse entryType }

/-- The fields of a node, in the order in which they are written. -/
def toFields (n : Node) : List (String × Json) :=
  [("id", .int n.id), ("parent_id", .ofInt? n.parent), ("storage_id", .int n.storage),
    ("name", n.name), ("kind", .string n.kind.word), ("declared_size", .ofInt? n.declaredSize),
    ("filetype", n.filetype)]

/-- A node as a JSON value. -/
def toJson (n : Node) : Json := .object n.toFields

/-- The text for the number of a container; the top of a storage has none. -/
def idText : Option Int → String
  | none => "root"
  | some n => toString n

end Node

end Replica
