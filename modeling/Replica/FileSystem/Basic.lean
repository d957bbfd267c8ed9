import Replica.Path
/-!
# File systems

A file system holds directories, regular files and symbolic links, each at a location: the
names that lead to it from the top, where the working directory is.  A path is resolved name by
name through links, of which at most forty are followed.

* `FileSystem.resolve`: where a path leads.
* `FileSystem.sizeOf`, `isDirectory`, `contains`, `readFile`: questions.
* `FileSystem.makeDirectory`, `writeFile`, `setMode`: changes at one location.
-/

namespace Replica

/-- Why the file system refuses a request. -/
inductive FileProblem where
  /-- Nothing is there. -/
  | missing
  /-- A directory on the way may not be looked into. -/
  | denied
  /-- Something is there already. -/
  | occupied
  /-- A name on the way is no directory. -/
  | notDirectory
  /-- A directory stands where a file is wanted. -/
  | isDirectory
  /-- A name is longer than 255 bytes, or a path longer than 4095. -/
  | nameTooLong
  /-- Too many links were followed. -/
  | linkLoop
deriving DecidableEq, Repr

namespace FileProblem

/-- The system's number for the problem. -/
def number : FileProblem → Nat
  | missing => 2
  | denied => 13
  | occupied => 17
  | notDirectory => 20
  | isDirectory => 21
  | nameTooLong => 36
  | linkLoop => 40

/-- The system's words for the problem. -/
def words : FileProblem → String
  | missing => "No such file or directory"
  | denied => "Permission denied"
  | occupied => "File exists"
  | notDirectory => "Not a directory"
  | isDirectory => "Is a directory"
  | nameTooLong => "File name too long"
  | linkLoop => "Too many levels of symbolic links"

end FileProblem

/-- Why a request about a path fails. -/
inductive PathFault where
  /-- The path holds the null character, so it is not passed to the system. -/
  | nullCharacter
  /-- The system refuses. -/
  | system (problem : FileProblem)
deriving DecidableEq, Repr

/-- What stands at a location. -/
inductive Entry where
  /-- A directory. -/
  | directory
  /-- A regular file with its content and its permission bits. -/
  | file (content : List UInt8) (mode : Nat)
  /-- A symbolic link with the text of its target. -/
  | link (target : String)
deriving DecidableEq, Repr

/-- The names that lead to an entry from the top. -/
abbrev Location := List String

/-- A file system: what stands at each location, and which directories may not be looked into.  The
top is always a directory. -/
structure FileSystem where
  /-- The locations below the top with their entries. -/
  entries : List (Location × Entry)
  /-- The directories in which nothing may be looked up. -/
  closed : List Location := []
deriving Repr

/-- Where a path leads. -/
inductive Destination where
  /-- To an entry. -/
  | found (location : Location) (entry : Entry)
  /-- To a name that a directory does not hold. -/
  | absent (directory : Location) (name : String)
deriving DecidableEq, Repr

namespace FileSystem

/-- The file system with nothing in it. -/
def empty : FileSystem := { entries := [] }

/-- One can look up whether a directory is closed. -/
instance (fs : FileSystem) (location : Location) : Decidable (location ∈ fs.closed) :=
  inferInstance

/-- The entry of a location among the given ones. -/
def find : List (Location × Entry) → Location → Option Entry
  | [], _ => none
  | (l, e) :: rest, at' => if l = at' then some e else find rest at'

/-- What stands at a location. -/
def get? (fs : FileSystem) (location : Location) : Option Entry :=
  if location = [] then some .directory else find fs.entries location

/-- Puts an entry at a location in place of what stands there. -/
def replace (location : Location) (entry : Entry) :
    List (Location × Entry) → List (Location × Entry)
  | [] => [(location, entry)]
  | (l, e) :: rest =>
    if l = location then (l, entry) :: rest else (l, e) :: replace location entry rest

/-- The file system with an entry at a location. -/
def set (fs : FileSystem) (location : Location) (entry : Entry) : FileSystem :=
  { fs with entries := replace location entry fs.entries }

/-- The file system without a location and all below it. -/
def erase (fs : FileSystem) (location : Location) : FileSystem where
  entries := fs.entries.filter fun e => !location.isPrefixOf e.1
  closed := fs.closed.filter fun l => !location.isPrefixOf l

/-- The most bytes that a name has. -/
def maxNameBytes : Nat := 255

/-- The most links that are followed on one way. -/
def maxLinks : Nat := 40

/-- A way that has met a link: where to go on, and the names still to follow. -/
structure Detour where
  /-- The directory to go on from. -/
  location : Location
  /-- The names to follow from there. -/
  names : List String
deriving DecidableEq, Repr

/-- The most bytes that the text of a path has. -/
def maxPathBytes : Nat := 4095

/-- What a path is followed for. -/
inductive Access where
  /-- For the entry at its end, be that a link. -/
  | itself
  /-- For the entry that it leads to through all links. -/
  | target
  /-- For the file to be written that it leads to through all links. -/
  | writing
deriving DecidableEq, Repr

/-- The names to follow for a text as it stands; a separator at its end leaves an empty name,
which asks for a directory as a dot does. -/
def rawNames (text : String) : List String :=
  let cs := text.toList
  ((Text.splitAt separator cs).filter fun piece => piece ≠ []).map String.ofList
    ++ (if cs.getLast? = some separator then [""] else [])

/-- Where a link in the directory `location` sends the rest of a way. -/
def detour (location : Location) (target : String) (rest : List String) : Detour :=
  ⟨if target.toList.head? = some separator then [] else location, rawNames target ++ rest⟩

/-- Follows names from a directory up to the end of the way or to the first link on it.  A name
with a separator after it, at the very end, is no file that could be written.  In a closed directory
every name is refused, the dots too. -/
def advance (fs : FileSystem) (access : Access) (location : Location) :
    List String → Except FileProblem (Destination ⊕ Detour)
  | [] => .ok (.inl (.found location .directory))
  | name :: rest =>
    if name = "" then advance fs access location rest
    else if location ∈ fs.closed then .error .denied
    else if name = "." then advance fs access location rest
    else if name = ".." then advance fs access location.dropLast rest
    else if access = .writing ∧ rest = [""] then .error .isDirectory
    else if maxNameBytes < name.utf8ByteSize then .error .nameTooLong
    else
      match fs.get? (location ++ [name]) with
      | none => if rest = [] then .ok (.inl (.absent location name)) else .error .missing
      | some .directory => advance fs access (location ++ [name]) rest
      | some (.file content mode) =>
        if rest = [] then .ok (.inl (.found (location ++ [name]) (.file content mode)))
        else .error .notDirectory
      | some (.link target) =>
        if rest = [] ∧ access = .itself then
          .ok (.inl (.found (location ++ [name]) (.link target)))
        else .ok (.inr (detour location target rest))

/-- Follows names from a directory through at most `links` links. -/
def resolveFrom (fs : FileSystem) (access : Access) :
    Nat → Location → List String → Except FileProblem Destination
  | links, location, names =>
    match fs.advance access location names with
    | .error problem => .error problem
    | .ok (.inl destination) => .ok destination
    | .ok (.inr next) =>
      match links with
      | 0 => .error .linkLoop
      | links + 1 => resolveFrom fs access links next.location next.names

/-- Where a path leads. -/
def resolve (fs : FileSystem) (access : Access) (p : Path) : Except PathFault Destination :=
  if p.hasNull then .error .nullCharacter
  else if maxPathBytes < p.text.utf8ByteSize then .error (.system .nameTooLong)
  else
    match fs.resolveFrom access maxLinks [] p.names with
    | .ok destination => .ok destination
    | .error problem => .error (.system problem)

/-- The entry that a path leads to. -/
def entryOf (fs : FileSystem) (p : Path) : Except PathFault Entry :=
  match fs.resolve .target p with
  | .ok (.found _ entry) => .ok entry
  | .ok (.absent ..) => .error (.system .missing)
  | .error fault => .error fault

/-- Whether a text, taken as it stands, leads to a regular file. -/
def leadsToFile (fs : FileSystem) (text : String) : Except PathFault Bool :=
  if text.toList.contains '\x00' then .error .nullCharacter
  else if maxPathBytes < text.utf8ByteSize then .ok false
  else
    match fs.resolveFrom .target maxLinks [] (rawNames text) with
    | .ok (.found _ (.file ..)) => .ok true
    | _ => .ok false

/-- The size that directories have. -/
def directorySize : Nat := 4096

/-- The size of what a path leads to. -/
def sizeOf (fs : FileSystem) (p : Path) : Except PathFault Nat :=
  match fs.entryOf p with
  | .ok (.file content _) => .ok content.length
  | .ok _ => .ok directorySize
  | .error fault => .error fault

/-- Answers a yes-or-no question about the entry of a path: no entry is a no, and only a name that
is too long and a directory that may not be looked into make the question fail. -/
def ask (fs : FileSystem) (p : Path) (question : Entry → Bool) : Except PathFault Bool :=
  match fs.entryOf p with
  | .ok entry => .ok (question entry)
  | .error (.system .nameTooLong) => .error (.system .nameTooLong)
  | .error (.system .denied) => .error (.system .denied)
  | .error _ => .ok false

/-- Whether a path leads to a directory. -/
def isDirectory (fs : FileSystem) (p : Path) : Except PathFault Bool :=
  fs.ask p fun
    | .directory => true
    | _ => false

/-- Whether a path leads to anything. -/
def contains (fs : FileSystem) (p : Path) : Except PathFault Bool :=
  fs.ask p fun _ => true

/-- Makes one directory at the end of a path. -/
def makeDirectory (fs : FileSystem) (p : Path) : Except PathFault FileSystem :=
  match fs.resolve .itself p with
  | .ok (.absent location name) => .ok (fs.set (location ++ [name]) .directory)
  | .ok (.found ..) => .error (.system .occupied)
  | .error fault => .error fault

/-- The permission bits of a new file. -/
def newFileMode : Nat := 0o644

/-- Writes a file at the end of a path, in place of the content of one that is there. -/
def writeFile (fs : FileSystem) (p : Path) (content : List UInt8) :
    Except PathFault FileSystem :=
  match fs.resolve .writing p with
  | .ok (.absent location name) => .ok (fs.set (location ++ [name]) (.file content newFileMode))
  | .ok (.found location (.file _ mode)) => .ok (fs.set location (.file content mode))
  | .ok (.found _ _) => .error (.system .isDirectory)
  | .error fault => .error fault

/-- The content of the file at the end of a path. -/
def readFile (fs : FileSystem) (p : Path) : Except PathFault (List UInt8) :=
  match fs.entryOf p with
  | .ok (.file content _) => .ok content
  | .ok _ => .error (.system .isDirectory)
  | .error fault => .error fault

/-- Sets the permission bits of the file at the end of a path. -/
def setMode (fs : FileSystem) (p : Path) (mode : Nat) : Except PathFault FileSystem :=
  match fs.resolve .target p with
  | .ok (.found location (.file content _)) => .ok (fs.set location (.file content mode))
  | .ok (.found _ _) => .ok fs
  | .ok (.absent ..) => .error (.system .missing)
  | .error fault => .error fault

/-- A path for which a request failed, and why. -/
structure Refusal where
  /-- The path. -/
  path : Path
  /-- Why the request about it failed. -/
  fault : PathFault
deriving DecidableEq, Repr

/-- Makes a directory unless one is there: a failure counts only if the path does not lead to a
directory. -/
def ensureOne (fs : FileSystem) (p : Path) : Except Refusal Unit × FileSystem :=
  match fs.makeDirectory p with
  | .ok fs' => (.ok (), fs')
  | .error (.system .missing) => (.error ⟨p, .system .missing⟩, fs)
  | .error .nullCharacter => (.error ⟨p, .nullCharacter⟩, fs)
  | .error fault =>
    match fs.isDirectory p with
    | .ok true => (.ok (), fs)
    | .ok false => (.error ⟨p, fault⟩, fs)
    | .error fault' => (.error ⟨p, fault'⟩, fs)

/-- Makes the first `count` names of a path directories, the outer ones first where they are
missing.  Directories made before a failure stay. -/
def ensureFirst (fs : FileSystem) (p : Path) : Nat → Except Refusal Unit × FileSystem
  | 0 => fs.ensureOne { p with names := [] }
  | count + 1 =>
    let here := { p with names := p.names.take (count + 1) }
    match fs.ensureOne here with
    | (.error ⟨_, .system .missing⟩, _) =>
      match fs.ensureFirst p count with
      | (.ok (), fs') => fs'.ensureOne here
      | failed => failed
    | result => result

/-- Makes a path lead to a directory, with the directories above it.  Gives the outcome and the
file system that it leaves. -/
def ensureDirectory (fs : FileSystem) (p : Path) : Except Refusal Unit × FileSystem :=
  fs.ensureFirst p p.names.length

end FileSystem

end Replica
