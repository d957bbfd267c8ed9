import Replica.Json.Parser
import Replica.Rehearsal.Performance
/-!
# The command line

The first line of the standard input describes the bridge and the local file system; the other
lines are what the user types.  The arguments are those of the program.
-/

open Replica

/-- Reads the rest of the standard input. -/
partial def readRest (input : IO.FS.Stream) (soFar : String) : IO String := do
  let line ← input.getLine
  if line.isEmpty then return soFar else readRest input (soFar ++ line)

/-- Shows an event to the user. -/
def showEvent : Event → IO Unit
  | .wrote .out text => IO.print text
  | .wrote .err text => IO.eprint text
  | _ => return ()

/-- Rehearses the program. -/
def main (arguments : List String) : IO UInt32 := do
  let input ← IO.getStdin
  let description ← input.getLine
  let typed ← readRest input ""
  let environment : Environment :=
    ⟨← IO.getEnv Settings.urlName, ← IO.getEnv Settings.keyName⟩
  match Json.parse description with
  | .error _ =>
    IO.eprintln "The first line of the input describes no rehearsal."
    return 2
  | .ok v =>
    let ending := (Performance.ofJson v environment typed).run arguments
    ending.journal.forM showEvent
    if let some failure := ending.failure then IO.eprintln failure.message
    return UInt32.ofNat ending.code.number
