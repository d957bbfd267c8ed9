import Replica.World
/-!
# The failure budget

Transfers may fail; the failures of a whole run are counted, and the count never decreases.
Once it is greater than the threshold the run has to stop.
-/

namespace Replica

/-- The failures that are tolerated, and those that have happened. -/
structure Budget where
  /-- How many failures are tolerated. -/
  threshold : Int
  /-- How many have happened. -/
  failures : Nat
deriving DecidableEq, Repr

namespace Budget

/-- How many failures are tolerated unless the caller says otherwise. -/
def defaultThreshold : Int := 10

/-- A budget of which nothing is spent. -/
def ofThreshold (threshold : Int) : Budget := ⟨threshold, 0⟩

/-- Whether more failures have happened than are tolerated. -/
def exceeded (b : Budget) : Bool := b.threshold < b.failures

variable {σ : Type}

/-- Counts one more failure. -/
def spend (b : Budget) : Action σ Budget := do
  let b := { b with failures := b.failures + 1 }
  Action.log .warning .budget ("Total transfer failures so far: " ++ toString b.failures)
  return b

/-- Stops the run if the budget is exceeded. -/
def check (b : Budget) : Action σ Unit :=
  Procedure.require (!b.exceeded) (.abort (.tooManyFailures b.failures b.threshold))

end Budget

end Replica
