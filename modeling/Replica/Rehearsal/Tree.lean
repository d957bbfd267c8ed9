import Replica.Rehearsal.Description
import Replica.Remote.InMemory
/-!
# Described trees

The description of a remote tree in memory: its nodes, and what happens when it is asked.
-/

namespace Replica.Description

/-- The kind that a word names. -/
def kindOf (word : String) : Node.Kind :=
  if word = Node.Kind.container.word then .container
  else if word = Node.Kind.abstractFile.word then .abstractFile
  else .file

/-- The field of that name, or the given value if it is not given. -/
def fieldOr (key : String) (default : Json) (v : Json) : Json :=
  (Json.lookup key (fields v)).getD default

/-- The node that a description names. -/
def node (v : Json) : Node where
  id := (int? (field "id" v)).getD 0
  parent := int? (field "parent_id" v)
  storage := (int? (field "storage_id" v)).getD 1
  name := field "name" v
  kind := kindOf (text (field "kind" v))
  declaredSize := int? (field "size" v)
  filetype := fieldOr "filetype" (.string "") v

/-- The number of the container that a name in a description stands for. -/
def containerOf (name : String) : Option Int :=
  if name = Node.idText none then none else (Numeral.readDecimal name).toOption

/-- The remote tree in memory that a description names. -/
def tree (v : Json) : InMemory where
  nodes := (items (field "nodes" v)).map node
  storages := items (field "storages" v)
  failingLists := (items (field "fail_lists" v)).map int?
  failingFetches := (items (field "fail_fetch" v)).filterMap int?
  errorsPerFailure := natural (fieldOr "errors_per_failure" (.int 1) v)
  effects := (fields (field "list_effects" v)).map fun (name, actions) =>
    (containerOf name, changes actions)

/-- The messages that the stack of a remote tree in memory starts with. -/
def initialErrors (v : Json) : List String :=
  (items (field "initial_errors" v)).map text

end Replica.Description
