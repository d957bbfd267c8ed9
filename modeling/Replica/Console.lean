import Replica.Json.Printer
import Replica.World
/-!
# The console

What the user gets to read.  Results and messages about progress go to the standard output,
warnings and errors to the error output.  A user who wants documents gets nothing else on the
standard output.
-/

namespace Replica

/-- Which messages the user wants to see. -/
structure Console where
  /-- Only documents go to the standard output. -/
  json : Bool
  /-- Messages about progress are left out. -/
  quiet : Bool
deriving DecidableEq, Repr

namespace Console

/-- The console that shows everything. -/
def standard : Console := ⟨false, false⟩

/-- The parameter characters of a control sequence for a terminal. -/
def isSequenceParameter (c : Char) : Bool := '0' ≤ c && c ≤ '?'

/-- The characters that may stand between the parameters and the end of a control sequence. -/
def isSequenceIntermediate (c : Char) : Bool := ' ' ≤ c && c ≤ '/'

/-- The characters that end a control sequence. -/
def isSequenceFinal (c : Char) : Bool := '@' ≤ c && c ≤ '~'

/-- How many characters make up the control sequence whose escape character and opening bracket
come before these, if they go on as one. -/
def sequenceLength? (cs : List Char) : Option Nat :=
  let parameters := cs.takeWhile isSequenceParameter
  let afterParameters := cs.drop parameters.length
  let intermediates := afterParameters.takeWhile isSequenceIntermediate
  match afterParameters.drop intermediates.length with
  | c :: _ =>
    if isSequenceFinal c then some (parameters.length + intermediates.length + 1) else none
  | [] => none

/-- Leaves out control sequences for a terminal: an escape character, an opening bracket,
parameters, intermediate characters and a final one.  The first argument is a count of
characters still to be skipped. -/
def dropSequences : Nat → List Char → List Char
  | _, [] => []
  | skip + 1, _ :: rest => dropSequences skip rest
  | 0, c :: rest =>
    match c, rest with
    | '\x1b', '[' :: more =>
      match sequenceLength? more with
      | some length => dropSequences (length + 1) rest
      | none => c :: dropSequences 0 rest
    | _, _ => c :: dropSequences 0 rest

/-- The text without control sequences for a terminal. -/
def plainText (s : String) : String :=
  String.ofList (dropSequences 0 s.toList)

variable {σ : Type}

/-- Writes a line. -/
def writeLine (stream : Stream) (text : String) : Action σ Unit :=
  Action.record (.wrote stream (plainText text ++ "\n"))

/-- Prints a plain line. -/
def print (c : Console) (text : String) : Action σ Unit :=
  if c.json then return () else writeLine .out text

/-- Prints a message about progress. -/
def info (c : Console) (text : String) : Action σ Unit :=
  if c.quiet || c.json then return () else writeLine .out text

/-- Writes a line with a value in it to the standard output, which takes no surrogates. -/
def writeValue (message : Json) : Action σ Unit :=
  match message.unwritable? with
  | some t => Procedure.fail (.value (.unwritable t))
  | none => writeLine .out message.display

/-- Prints a line with a value in it. -/
def printValue (c : Console) (message : Json) : Action σ Unit :=
  if c.json then return () else writeValue message

/-- Prints a message about progress with a value in it. -/
def infoValue (c : Console) (message : Json) : Action σ Unit :=
  if c.quiet || c.json then return () else writeValue message

/-- Prints a message about success. -/
def success (c : Console) (text : String) : Action σ Unit :=
  c.info text

/-- Prints a message about success with a value in it. -/
def successValue (c : Console) (message : Json) : Action σ Unit :=
  c.infoValue message

/-- Prints a warning. -/
def warning (_ : Console) (text : String) : Action σ Unit :=
  writeLine .err ("Warning: " ++ text)

/-- Prints an error. -/
def error (_ : Console) (text : String) : Action σ Unit :=
  writeLine .err ("Error: " ++ text)

/-- Prints a JSON document. -/
def document (_ : Console) (value : Json) : Action σ Unit :=
  writeLine .out value.pretty

end Console

end Replica
