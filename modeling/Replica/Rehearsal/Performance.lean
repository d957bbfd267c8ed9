import Replica.CommandLine.Program
import Replica.Rehearsal.Catalogue
/-!
# Rehearsals of the program

A rehearsal runs the program against a catalogued bridge, on a described file system.

* `Performance.run`: what a command line does in a rehearsal.
-/

namespace Replica

/-- A rehearsal of the program. -/
structure Performance where
  /-- The bridge. -/
  bridge : Catalogue
  /-- The local file system. -/
  files : FileSystem
  /-- The environment. -/
  environment : Environment
  /-- What the user types. -/
  typed : String
  /-- How far listings and walks go. -/
  limit : Nat

/-- The end of a rehearsal. -/
structure Ending where
  /-- The exit code. -/
  code : ExitCode
  /-- The failure that nothing handled. -/
  failure : Option Failure
  /-- The local file system. -/
  files : FileSystem
  /-- What happened. -/
  journal : List Event

namespace Performance

/-- How far listings and walks go unless something else is wanted. -/
def defaultLimit : Nat := 100000

/-- The rehearsal that a description names. -/
def ofJson (v : Json) (environment : Environment) (typed : String) : Performance where
  bridge := .ofJson (Description.field "bridge" v)
  files := FileChange.after .empty (Description.changes (Description.field "fs" v))
  environment
  typed
  limit := defaultLimit

/-- The shell of a rehearsal. -/
def shell (p : Performance) : Shell Catalogue.State where
  link := p.bridge.link
  settings := ⟨Settings.defaultFile, p.environment⟩
  display := .blank
  typed := Prompt.typedLines p.typed
  limit := p.limit

/-- What a command line does in a rehearsal. -/
def run (p : Performance) (arguments : List String) : Ending :=
  let start : World (Session Catalogue.State) := ⟨p.files, .start (.new ⟨[], 0⟩), []⟩
  match (Program.run p.shell arguments).run start with
  | (.ok outcome, w) => ⟨outcome.code, outcome.failure, w.files, w.journal⟩
  | (.error failure, w) => ⟨.failure, some failure, w.files, w.journal⟩

end Performance

end Replica
