import Replica.FileSystem.Change
import Replica.Remote.Basic
/-!
# Remote trees in memory

A remote tree that is given as a list of its nodes.  Chosen listings and fetches fail, and
chosen listings change the local file system before they answer, so that every course of a run
can be rehearsed without a device.
-/

namespace Replica

/-- A remote tree as a list of nodes. -/
structure InMemory where
  /-- The nodes; the children of a container come in this order. -/
  nodes : List Node
  /-- The entries of the listing of storages, which are read whenever that is asked for. -/
  storages : List Json
  /-- The containers whose listings fail. -/
  failingLists : List (Option Int)
  /-- The files whose fetches fail. -/
  failingFetches : List Int
  /-- How many messages a failure leaves. -/
  errorsPerFailure : Nat
  /-- What happens to the local file system when a container is listed. -/
  effects : List (Option Int × List FileChange)

namespace InMemory

/-- The messages of one failure: the first as it is, the others with their numbers. -/
def failureMessages (m : InMemory) (text : String) : List String :=
  (List.range m.errorsPerFailure).map fun i =>
    if i = 0 then text else text ++ " (" ++ toString i ++ ")"

/-- The text for the number of a container in messages. -/
def containerText : Option Int → String
  | none => "None"
  | some n => toString n

/-- The changes that come with the listing of a container. -/
def effectsOf (m : InMemory) (container : Option Int) : List FileChange :=
  (m.effects.filter fun e => e.1 = container).flatMap (·.2)

/-- The children of a container. -/
def childrenOf (m : InMemory) (storage : Int) (container : Option Int) : List Node :=
  m.nodes.filter fun n => n.storage = storage ∧ n.parent = container

/-- The size of the content of a file, zero unless a size is declared. -/
def contentSize (file : Node) : Nat := (file.declaredSize.getD 0).toNat

/-- The content of a file. -/
def contentOf (file : Node) : List UInt8 := List.replicate (contentSize file) 'x'.toUInt8

/-- Lists a container; a change of the file system that is refused makes the listing fail. -/
def listChildren (m : InMemory) (storage : Int) (container : Option Int) :
    Service (List String) (List Node) := fun errors files =>
  match FileChange.applyAll files (m.effectsOf container) with
  | (.error refusal, files) =>
    (.error (.ofPathFault refusal.path refusal.fault), ⟨files, errors, []⟩)
  | (.ok (), files) =>
    if m.failingLists.contains container then
      let messages := m.failureMessages ("listing " ++ containerText container ++ " failed")
      (.ok [], ⟨files, errors ++ messages, []⟩)
    else (.ok (m.childrenOf storage container), ⟨files, errors, []⟩)

/-- Lists the storages; one that cannot be read makes the listing fail. -/
def listStorages (m : InMemory) : Service (List String) (List Storage) := fun errors files =>
  ((m.storages.mapM Storage.ofJson).mapError .value, ⟨files, errors, []⟩)

/-- Fetches a file. -/
def fetch (m : InMemory) (file : Node) (target : Path) : Service (List String) Bool :=
  fun errors files =>
    if m.failingFetches.contains file.id then
      let messages := m.failureMessages ("fetch " ++ toString file.id ++ " failed")
      (.ok false, ⟨files, errors ++ messages, []⟩)
    else
      match files.writeFile target (contentOf file) with
      | .ok files => (.ok true, ⟨files, errors, []⟩)
      | .error fault => (.error (.ofPathFault target fault), ⟨files, errors, []⟩)

/-- The remote tree; its state is the stack of messages. -/
def remote (m : InMemory) : Remote (List String) where
  listStorages := m.listStorages
  listChildren := m.listChildren
  fetch := m.fetch
  errors := id
  forgetErrors _ := []

end InMemory

end Replica
