import Replica.LocalDirectory
/-!
# Whether a file has to be fetched

A remote file is compared with the local entry of its name by size alone.  It is fetched unless
there is such an entry and the device declares exactly its size.  A declared size may be any
JSON value; null declares none, and only a value that equals the local size is the same.
-/

namespace Replica

/-- How a remote file compares with the local directory. -/
inductive Comparison where
  /-- There is no local entry of its name. -/
  | isNew
  /-- There is one, and the remote size is not known. -/
  | unknownSize (localSize : Nat)
  /-- There is one of another size. -/
  | differs (localSize : Nat) (declared : Json)
  /-- There is one of the same size. -/
  | identical (localSize : Nat)

namespace Comparison

/-- Compares a local size with a declared one. -/
def ofSizes : Option Nat → Json → Comparison
  | none, _ => .isNew
  | some localSize, .null => .unknownSize localSize
  | some localSize, declared =>
    if Json.same (.int localSize) declared then .identical localSize
    else .differs localSize declared

/-- Whether the file has to be fetched. -/
def mustCopy : Comparison → Bool
  | identical _ => false
  | _ => true

/-- The outcome in words. -/
def reason : Comparison → String
  | isNew => "New remote file"
  | unknownSize _ => "Remote size unknown (abstract file)"
  | differs localSize declared =>
    "Size differs (local " ++ toString localSize ++ " vs remote " ++ declared.display ++ ")"
  | identical _ => "Files are identical (same size)"

/-- The size of the local entry, if there is one. -/
def localSize? : Comparison → Option Nat
  | isNew => none
  | unknownSize n | differs n _ | identical n => some n

/-- Compares a remote file with the entry of its name in the current directory. -/
def inspect {σ : Type} (d : LocalDirectory) (name : String) (declared : Json) :
    Action σ Comparison := do
  let outcome := ofSizes (← d.inspect name) declared
  Action.log .debug .decision
    (d.relative ++ name ++ ": " ++ outcome.reason ++ " -> "
      ++ if outcome.mustCopy then "copy" else "skip")
  return outcome

end Comparison

end Replica
