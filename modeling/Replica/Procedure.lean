import Replica.Failure
/-!
# Procedures

A procedure works on a state and ends with a result or with a failure.  What it did before it
failed stays done: the state that a failure leaves is kept.

* `Procedure.run`: the end of a procedure, and the state that it leaves.
* `Procedure.attempt`, `Procedure.ending`: what happens after a failure.
* `Procedure.within`: a procedure on a part of the state.
* `Procedure.run_bind`: one procedure after the other.
-/

namespace Replica

/-- A computation on a state that may fail. -/
def Procedure (S α : Type) := S → Except Failure α × S

namespace Procedure

variable {S T α β : Type}

/-- The end of a procedure on a state, and the state that it leaves. -/
def run (p : Procedure S α) (s : S) : Except Failure α × S := p s

/-- The procedure that has its result already. -/
def done (a : α) : Procedure S α := fun s => (.ok a, s)

/-- One procedure after the other; the second starts only if the first has a result. -/
def next (p : Procedure S α) (f : α → Procedure S β) : Procedure S β := fun s =>
  match p s with
  | (.ok a, s') => f a s'
  | (.error failure, s') => (.error failure, s')

instance : Monad (Procedure S) where
  pure := done
  bind := next

/-- Fails. -/
def fail (failure : Failure) : Procedure S α := fun s => (.error failure, s)

/-- Fails unless a condition holds. -/
def require (condition : Bool) (failure : Failure) : Procedure S Unit :=
  if condition then done () else fail failure

/-- Takes a result, or fails with its failure. -/
def ofExcept : Except Failure α → Procedure S α
  | .ok a => done a
  | .error failure => fail failure

/-- Takes the result of a check of a value, or fails with its fault. -/
def ofChecked (checked : Except ValueFault α) : Procedure S α :=
  ofExcept (checked.mapError .value)

/-- Takes the result of a request about a path, or fails with its fault. -/
def ofRequest (path : Path) (request : Except PathFault α) : Procedure S α :=
  ofExcept (request.mapError (.ofPathFault path))

/-- The state. -/
def state : Procedure S S := fun s => (.ok s, s)

/-- Changes the state. -/
def change (f : S → S) : Procedure S Unit := fun s => (.ok (), f s)

/-- The end of a procedure as a value. -/
def attempt (p : Procedure S α) : Procedure S (Except Failure α) := fun s =>
  let outcome := p s
  (.ok outcome.1, outcome.2)

/-- Does something last, whether the procedure fails or not. -/
def ending (p : Procedure S α) (last : Procedure S Unit) : Procedure S α := do
  let result ← attempt p
  last
  ofExcept result

/-- A procedure on a part of the state. -/
def within (part : S → T) (put : T → S → S) (p : Procedure T α) : Procedure S α := fun s =>
  let outcome := p (part s)
  (outcome.1, put outcome.2 s)

/-! ## What they do -/

@[simp] theorem run_pure (a : α) (s : S) : (pure a : Procedure S α).run s = (.ok a, s) := rfl

theorem run_bind (p : Procedure S α) (f : α → Procedure S β) (s : S) :
    (p >>= f).run s =
      match p.run s with
      | (.ok a, s') => (f a).run s'
      | (.error failure, s') => (.error failure, s') := rfl

@[simp] theorem run_fail (failure : Failure) (s : S) :
    (fail failure : Procedure S α).run s = (.error failure, s) := rfl

@[simp] theorem run_state (s : S) : (state : Procedure S S).run s = (.ok s, s) := rfl

@[simp] theorem run_change (f : S → S) (s : S) : (change f).run s = (.ok (), f s) := rfl

@[simp] theorem run_attempt (p : Procedure S α) (s : S) :
    (attempt p).run s = (.ok (p.run s).1, (p.run s).2) := rfl

@[simp] theorem run_within (part : S → T) (put : T → S → S) (p : Procedure T α) (s : S) :
    (within part put p).run s = ((p.run (part s)).1, put (p.run (part s)).2 s) := rfl

instance : LawfulMonad (Procedure S) :=
  LawfulMonad.mk' _
    (fun p => funext fun s => by
      show (match p s with
        | (.ok a, s') => (Except.ok a, s')
        | (.error failure, s') => (Except.error failure, s')) = p s
      rcases p s with ⟨_ | _, _⟩ <;> rfl)
    (fun _ _ => rfl)
    (fun p f g => funext fun s => by
      show next (next p f) g s = next p (fun a => next (f a) g) s
      unfold next
      rcases p s with ⟨_ | _, _⟩ <;> rfl)

end Procedure

end Replica
