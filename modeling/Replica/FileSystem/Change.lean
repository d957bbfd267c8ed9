import Replica.FileSystem.Basic
/-!
# Changes from outside

While a request is served, others may change the file system.  A change makes a directory, a
file or a link, with the directories above it, or removes an entry and all below it.  Of several
changes the first one that is refused is the last one that is tried.

* `FileChange.apply`, `FileChange.applyAll`: the outcome of changes, and what they leave.
* `FileChange.after`: what they leave.
-/

namespace Replica

/-- One change of a file system. -/
inductive FileChange where
  /-- A directory is made. -/
  | directory (path : Path)
  /-- A file is written. -/
  | file (path : Path) (content : List UInt8)
  /-- A symbolic link is made. -/
  | link (path : Path) (target : String)
  /-- An entry is removed. -/
  | remove (path : Path)
deriving DecidableEq, Repr

namespace FileChange

open FileSystem (Refusal)

/-- The outcome of a request about a path, and the file system that it leaves. -/
def outcome (fs : FileSystem) (path : Path) :
    Except PathFault FileSystem → Except Refusal Unit × FileSystem
  | .ok fs' => (.ok (), fs')
  | .error fault => (.error ⟨path, fault⟩, fs)

/-- Puts a link at the end of a path, in place of what is there. -/
def placeLink (fs : FileSystem) (path : Path) (target : String) : Except PathFault FileSystem :=
  match fs.resolve .itself path with
  | .ok (.absent location name) => .ok (fs.set (location ++ [name]) (.link target))
  | .ok (.found location _) => .ok ((fs.erase location).set location (.link target))
  | .error fault => .error fault

/-- Removes what stands at the end of a path, if anything does. -/
def removeEntry (fs : FileSystem) (path : Path) : FileSystem :=
  match fs.resolve .itself path with
  | .ok (.found location _) => if location = [] then fs else fs.erase location
  | _ => fs

/-- Puts something at the end of a path, with the directories above it. -/
def place (fs : FileSystem) (path : Path)
    (put : FileSystem → Except PathFault FileSystem) : Except Refusal Unit × FileSystem :=
  match fs.ensureDirectory path.parent with
  | (.ok (), fs) => outcome fs path (put fs)
  | refused => refused

/-- The outcome of a change, and the file system that it leaves. -/
def apply (fs : FileSystem) : FileChange → Except Refusal Unit × FileSystem
  | directory path => fs.ensureDirectory path
  | file path content => place fs path fun fs => fs.writeFile path content
  | link path target => place fs path fun fs => placeLink fs path target
  | remove path => (.ok (), removeEntry fs path)

/-- The outcome of changes in order, and the file system that they leave. -/
def applyAll (fs : FileSystem) : List FileChange → Except Refusal Unit × FileSystem
  | [] => (.ok (), fs)
  | change :: rest =>
    match apply fs change with
    | (.ok (), fs) => applyAll fs rest
    | refused => refused

/-- The file system that changes leave. -/
def after (fs : FileSystem) (changes : List FileChange) : FileSystem := (applyAll fs changes).2

end FileChange

end Replica
