import Replica.Console
import Replica.Text.Blank
import Replica.Text.Letter
import Replica.Text.Lines
/-!
# Questions to the user

A question is written to the standard output, and one typed line is its answer, which is
written after the question.  Where no line is left there is no answer.

* `Prompt.ask`: a question whose answer is a text.
* `Prompt.confirm`: a question whose answer is yes or no.
-/

namespace Replica.Prompt

/-- The lines that the user types. -/
def typedLines (typed : String) : List String :=
  (Text.lines typed.toList).map String.ofList

variable {σ : Type}

/-- Writes a question. -/
def writeQuestion (question : String) : Action σ Unit :=
  Action.record (.wrote .out (Console.plainText question ++ " "))

/-- Writes an answer. -/
def writeAnswer (answer : String) : Action σ Unit :=
  Action.record (.wrote .out (answer ++ "\n"))

/-- An answer, and the lines that are left after it. -/
structure Answered (α : Type) where
  /-- The answer. -/
  answer : α
  /-- The lines that are left. -/
  rest : List String

/-- Asks for a text; an empty answer stands for `default`. -/
def ask (question default : String) (typed : List String) :
    Action σ (Option (Answered String)) := do
  writeQuestion (question ++ ":")
  match typed with
  | [] => return none
  | line :: rest =>
    writeAnswer line
    return some ⟨if line = "" then default else line, rest⟩

/-- What a line says to a question that is answered by yes or no; nothing at all is a no. -/
def decisionOf (line : String) : Option Bool :=
  match String.ofList ((Text.stripChars line.toList).map Text.lowerAscii) with
  | "y" | "yes" => some true
  | "n" | "no" | "" => some false
  | _ => none

/-- Asks until the answer is yes or no. -/
def confirm (question : String) : List String → Action σ (Option (Answered Bool))
  | [] => do
    writeQuestion (question ++ " [y/N]:")
    return none
  | line :: rest => do
    writeQuestion (question ++ " [y/N]:")
    writeAnswer line
    match decisionOf line with
    | some b => return some ⟨b, rest⟩
    | none =>
      Console.writeLine .out "Error: invalid input"
      confirm question rest

end Replica.Prompt
