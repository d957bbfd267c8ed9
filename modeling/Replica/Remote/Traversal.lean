import Replica.Remote.Basic
/-!
# Traversals of a remote tree

A traversal finds every node below a container, depth first: a folder's subtree comes directly
after the folder.  A container that was visited before is not listed again, so shared containers
and cycles do no harm.  Each node is found with its path; the path of a node at the start is its
name, as the device gave it.

* `Traversal.explore`: the nodes below a container.
-/

namespace Replica

/-- A node with its path. -/
structure Finding where
  /-- The node. -/
  node : Node
  /-- Its path. -/
  path : Json

/-- The state of a traversal. -/
structure Traversal (σ : Type) where
  /-- The world. -/
  world : World σ
  /-- The containers visited. -/
  visited : List Int
  /-- What was found so far, in order. -/
  found : List Finding

namespace Traversal

/-- A part of a traversal; what was found before a failure stays found. -/
abbrev Part (σ α : Type) := Procedure (Traversal σ) α

variable {σ α : Type}

/-- Does something to the world. -/
def lift (action : Action σ α) : Part σ α :=
  Procedure.within Traversal.world (fun world t => { t with world }) action

/-- The path of a node in a folder with the given path. -/
def pathBelow (above name : Json) : Json :=
  if above.truthy then .joined [above, .string "/", name] else name

/-- Marks a container as visited, unless it was visited before. -/
def enter : Option Int → Part σ Bool
  | none => return true
  | some id => do
    if (← Procedure.state).visited.contains id then
      lift (Action.log .warning .remote
        ("Container " ++ toString id ++ " already visited, skipping cycle"))
      return false
    else
      Procedure.change fun t => { t with visited := id :: t.visited }
      return true

/-- Adds a node to what was found. -/
def find (finding : Finding) : Part σ Unit :=
  Procedure.change fun t => { t with found := t.found ++ [finding] }

/-- Finds the nodes below a container; `depth` is the number of levels that are looked at. -/
def explore (r : Remote σ) (storage : Int) :
    (depth : Nat) → (container : Option Int) → (above : Json) → Part σ Unit
  | 0, _, _ => Procedure.fail .tooDeep
  | depth + 1, container, above => do
    if ← enter container then
      let nodes ← lift (Action.serve (r.listChildren storage container))
      nodes.forM fun node => do
        let path := pathBelow above node.name
        find ⟨node, path⟩
        if node.isContainer then explore r storage depth (some node.id) path else return ()

/-- Where a traversal starts. -/
structure Start where
  /-- The storage. -/
  storage : Int
  /-- The container, none for the top of the storage. -/
  container : Option Int := none
  /-- The path of the container. -/
  above : Json := .string ""
  /-- The containers that count as visited. -/
  visited : List Int := []

/-- Performs a traversal and tells how it ended and what it found until then. -/
def perform (r : Remote σ) (depth : Nat) (start : Start) :
    Action σ (Except Failure Unit × List Finding) := fun w =>
  let (result, t) :=
    (explore r start.storage depth start.container start.above).run ⟨w, start.visited, []⟩
  (.ok (result, t.found), t.world)

end Traversal

end Replica
