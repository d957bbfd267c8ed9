import Replica.Proofs.Ensures
import Replica.Run
/-!
# Two procedures side by side

Some properties are about two runs at once: what the one does compared with what the other does.
`Procedure.Paired` is a triple for two procedures, which may differ and may work on different kinds
of states.

**Pairs.**  From related states the two end alike (`Procedure.Alike`), in states that are related
again.  There is one rule for each way of building a procedure, as for triples.

**Actions.**  Nothing that a run does depends on its journal.  `World.Alongside` relates worlds that
differ in their journals only, and each action on the local directory, the console, the budget and
the remote tree is paired with itself (`Action.Steady`), provided that the relation between the
journals lets the same event be added to both.
-/

namespace Replica

namespace Procedure

variable {S S' T T' α α' β β' : Type}

/-! ## Pairs -/

/-- Two ends are alike: both are results, with this relation between them, or both are the same
failure. -/
inductive Alike (Q : α → α' → Prop) : Except Failure α → Except Failure α' → Prop where
  /-- Two results. -/
  | ok {a : α} {a' : α'} (related : Q a a') : Alike Q (.ok a) (.ok a')
  /-- Twice the same failure. -/
  | error (failure : Failure) : Alike Q (.error failure) (.error failure)

/-- Ends with the same results are the same. -/
lemma Alike.eq {e e' : Except Failure α} (h : Alike Eq e e') : e' = e := by
  cases h with
  | ok related => rw [related]
  | error failure => rfl

/-- From related states, the two procedures end alike, and in related states. -/
def Paired (R : S → S' → Prop) (p : Procedure S α) (q : Procedure S' α') (Q : α → α' → Prop) :
    Prop :=
  ∀ s s', R s s' → Alike Q (p.run s).1 (q.run s').1 ∧ R (p.run s).2 (q.run s').2

section Rules

variable {R : S → S' → Prop} {Q : α → α' → Prop} {p : Procedure S α} {q : Procedure S' α'}

lemma Paired.pure {a : α} {a' : α'} (h : Q a a') :
    Paired R (Pure.pure a) (Pure.pure a') Q :=
  fun _ _ hs => ⟨.ok h, hs⟩

lemma Paired.fail (failure : Failure) :
    Paired R (Procedure.fail failure : Procedure S α) (Procedure.fail failure : Procedure S' α')
      Q :=
  fun _ _ hs => ⟨.error failure, hs⟩

/-- One procedure after the other. -/
lemma Paired.bind {Q' : β → β' → Prop} {f : α → Procedure S β} {g : α' → Procedure S' β'}
    (h : Paired R p q Q) (hf : ∀ a a', Q a a' → Paired R (f a) (g a') Q') :
    Paired R (p >>= f) (q >>= g) Q' := by
  intro s s' hs
  obtain ⟨hends, hafter⟩ := h s s' hs
  rw [run_bind, run_bind]
  rcases hp : p.run s with ⟨r, t⟩
  rcases hq : q.run s' with ⟨r', t'⟩
  rw [hp, hq] at hends hafter
  cases hends with
  | ok related => exact hf _ _ related t t' hafter
  | error failure => exact ⟨.error failure, hafter⟩

/-- One procedure after the other, where the first ones have the same result. -/
lemma Paired.then {Q' : β → β' → Prop} {q : Procedure S' α} {f : α → Procedure S β}
    {g : α → Procedure S' β'} (h : Paired R p q Eq) (hf : ∀ a, Paired R (f a) (g a) Q') :
    Paired R (p >>= f) (q >>= g) Q' :=
  h.bind fun a _ heq => heq ▸ hf a

lemma Paired.change {f : S → S} {g : S' → S'} (h : ∀ s s', R s s' → R (f s) (g s')) :
    Paired R (Procedure.change f) (Procedure.change g) Eq :=
  fun s s' hs => ⟨.ok rfl, h s s' hs⟩

lemma Paired.ofExcept (e : Except Failure α) :
    Paired R (Procedure.ofExcept e) (Procedure.ofExcept e) Eq := by
  cases e with
  | ok a => exact Paired.pure rfl
  | error failure => exact Paired.fail failure

lemma Paired.ofChecked (e : Except ValueFault α) :
    Paired R (Procedure.ofChecked e) (Procedure.ofChecked e) Eq :=
  Paired.ofExcept _

lemma Paired.ofRequest (path : Path) (e : Except PathFault α) :
    Paired R (Procedure.ofRequest path e) (Procedure.ofRequest path e) Eq :=
  Paired.ofExcept _

lemma Paired.require (condition : Bool) (failure : Failure) :
    Paired R (Procedure.require condition failure) (Procedure.require condition failure) Eq := by
  cases condition with
  | true => exact Paired.pure rfl
  | false => exact Paired.fail failure

lemma Paired.ite {c : Prop} [Decidable c] {p' : Procedure S α} {q' : Procedure S' α'}
    (h : Paired R p q Q) (h' : Paired R p' q' Q) :
    Paired R (if c then p else p') (if c then q else q') Q := by
  split
  · exact h
  · exact h'

lemma Paired.forM {f : α → Procedure S PUnit} {g : α → Procedure S' PUnit} (xs : List α)
    (h : ∀ x, Paired R (f x) (g x) Eq) : Paired R (xs.forM f) (xs.forM g) Eq := by
  induction xs with
  | nil => exact Paired.pure rfl
  | cons x rest ih => exact (h x).then fun _ => ih

lemma Paired.forM_option {f : α → Procedure S PUnit} {g : α → Procedure S' PUnit} (o : Option α)
    (h : ∀ x, Paired R (f x) (g x) Eq) : Paired R (o.forM f) (o.forM g) Eq := by
  cases o with
  | none => exact Paired.pure rfl
  | some x => exact h x

/-- The end of a procedure as a value. -/
lemma Paired.attempt (h : Paired R p q Q) :
    Paired R (Procedure.attempt p) (Procedure.attempt q) (Alike Q) :=
  fun s s' hs => ⟨.ok (h s s' hs).1, (h s s' hs).2⟩

lemma Paired.ofAlike {e : Except Failure α} {e' : Except Failure α'} (h : Alike Q e e') :
    Paired R (Procedure.ofExcept e) (Procedure.ofExcept e') Q := by
  cases h with
  | ok related => exact Paired.pure related
  | error failure => exact Paired.fail failure

lemma Paired.ending {last : Procedure S Unit} {last' : Procedure S' Unit} (h : Paired R p q Q)
    (hlast : Paired R last last' Eq) :
    Paired R (Procedure.ending p last) (Procedure.ending q last') Q :=
  h.attempt.bind fun _ _ hends => hlast.then fun _ => Paired.ofAlike hends

/-- Two procedures on parts of the states. -/
lemma Paired.within {part : S → T} {put : T → S → S} {part' : S' → T'} {put' : T' → S' → S'}
    {P : T → T' → Prop} {p : Procedure T α} {q : Procedure T' α'} (h : Paired P p q Q)
    (hpart : ∀ s s', R s s' → P (part s) (part' s'))
    (hput : ∀ s s' t t', R s s' → P t t' → R (put t s) (put' t' s')) :
    Paired R (Procedure.within part put p) (Procedure.within part' put' q) Q := by
  intro s s' hs
  obtain ⟨hends, hafter⟩ := h _ _ (hpart s s' hs)
  exact ⟨hends, hput s s' _ _ hs hafter⟩

end Rules

end Procedure

open Procedure (Paired)

variable {σ α : Type}

/-! ## Actions -/

/-- Two worlds that differ in their journals only, with this relation between them. -/
structure World.Alongside (E : List Event → List Event → Prop) (w w' : World σ) : Prop where
  files : w'.files = w.files
  other : w'.other = w.other
  events : E w.events w'.events

/-- The same event, which is no step of a walk, may be added to both journals. -/
def GoesAlong (E : List Event → List Event → Prop) : Prop :=
  ∀ {e events events'}, e.isStep = false → E events events' → E (e :: events) (e :: events')

/-- The action does the same in worlds that differ in their journals only. -/
abbrev Action.Steady (E : List Event → List Event → Prop) (action : Action σ α) : Prop :=
  Paired (World.Alongside E) action action Eq

section Steady

variable {E : List Event → List Event → Prop}

open Replica.Action (Steady)

lemma paired_record {e e' : Event} (h : ∀ {events events'}, E events events' →
    E (e :: events) (e' :: events')) :
    Paired (World.Alongside E) (Action.record e : Action σ Unit) (Action.record e') Eq :=
  Paired.change fun _ _ hw => ⟨hw.files, hw.other, h hw.events⟩

lemma steady_files : Steady E (Action.files : Action σ FileSystem) :=
  fun _ _ hw => ⟨.ok hw.files.symm, hw⟩

lemma steady_setFiles (files : FileSystem) : Steady E (Action.setFiles files : Action σ Unit) :=
  Paired.change fun _ _ hw => ⟨rfl, hw.other, hw.events⟩

lemma steady_other : Steady E (Action.other : Action σ σ) :=
  fun _ _ hw => ⟨.ok hw.other.symm, hw⟩

lemma steady_changeOther (f : σ → σ) : Steady E (Action.changeOther f : Action σ Unit) :=
  Paired.change fun _ _ hw => ⟨hw.files, congrArg f hw.other, hw.events⟩

lemma steady_takeErrors (r : Remote σ) : Steady E r.takeErrors :=
  steady_other.then fun _ => (steady_changeOther _).then fun _ => Paired.pure rfl

variable (hE : GoesAlong E)

include hE

lemma steady_record {e : Event} (he : e.isStep = false) :
    Steady E (Action.record e : Action σ Unit) :=
  paired_record fun h => hE he h

lemma steady_log (level : Level) (origin : Origin) (text : String) :
    Steady E (Action.log level origin text : Action σ Unit) :=
  steady_record hE rfl

/-- Two services are asked for at the same time: where they have related results and leave the
same, so do the actions. -/
lemma paired_serve {Q : α → α → Prop} {service service' : Service σ α}
    (h : ∀ other files, Procedure.Alike Q (service other files).1 (service' other files).1 ∧
      (service' other files).2 = (service other files).2) :
    Paired (World.Alongside E) (Action.serve service) (Action.serve service') Q := by
  rintro w w' ⟨hfiles, hother, hevents⟩
  have hstart : (Action.serve service').run w' =
      ((service' w.other w.files).1, { (service' w.other w.files).2 with
        events := reported (service' w.other w.files).2.events ++ w'.events }) := by
    rw [← hother, ← hfiles]
    rfl
  obtain ⟨hends, hleft⟩ := h w.other w.files
  rw [hstart, hleft]
  refine ⟨hends, rfl, rfl, ?_⟩
  have hreported : ∀ e ∈ reported (service w.other w.files).2.events, e.isStep = false :=
    fun e he => by simpa using (List.mem_filter.mp he).2
  show E (reported (service w.other w.files).2.events ++ w.events)
    (reported (service w.other w.files).2.events ++ w'.events)
  generalize reported (service w.other w.files).2.events = new at hreported
  induction new with
  | nil => exact hevents
  | cons e rest ih =>
    rw [List.forall_mem_cons] at hreported
    exact hE hreported.1 (ih hreported.2)

lemma steady_serve (service : Service σ α) : Steady E (Action.serve service) :=
  paired_serve hE fun other files => by
    refine ⟨?_, rfl⟩
    cases (service other files).1 with
    | ok a => exact .ok rfl
    | error failure => exact .error failure

/-! ### The console -/

namespace Console

variable (c : Console)

lemma steady_writeLine (stream : Stream) (text : String) :
    Steady E (writeLine stream text : Action σ Unit) :=
  steady_record hE rfl

lemma steady_print (text : String) : Steady E (c.print text : Action σ Unit) :=
  Paired.ite (Paired.pure rfl) (steady_writeLine hE _ _)

lemma steady_info (text : String) : Steady E (c.info text : Action σ Unit) :=
  Paired.ite (Paired.pure rfl) (steady_writeLine hE _ _)

lemma steady_infoValue (message : Json) : Steady E (c.infoValue message : Action σ Unit) := by
  rw [infoValue, writeValue]
  refine Paired.ite (Paired.pure rfl) ?_
  cases message.unwritable? with
  | none => exact steady_writeLine hE _ _
  | some t => exact Paired.fail _

end Console

/-! ### The display -/

namespace Display

variable (d : Display) (shown : Bool)

omit hE in
lemma steady_draw (description : String) :
    Steady E (d.draw shown description : Action σ Unit) := by
  rw [draw]
  cases d.undrawn? shown description with
  | none => exact Paired.pure rfl
  | some cause => exact Paired.fail _

lemma steady_write (text : String) : Steady E (write text : Action σ Unit) :=
  Paired.ite (Paired.pure rfl) (steady_record hE rfl)

end Display

/-! ### The local directory -/

namespace LocalDirectory

variable (d : LocalDirectory) (name : String)

omit hE in
lemma steady_leadsToDirectory (path : Path) :
    Steady E (leadsToDirectory path : Action σ Bool) :=
  steady_files.then fun _ => Paired.ofRequest _ _

lemma steady_create : Steady E (d.create name : Action σ Unit) := by
  refine steady_files.then fun files => ?_
  rcases files.makeDirectory (d.pathFor name) with (_ | problem) | made
  · exact Paired.fail _
  · by_cases hproblem : problem = .occupied
    · rw [hproblem]
      exact (steady_leadsToDirectory _).then fun _ =>
        Paired.ite (Paired.pure rfl) (Paired.fail _)
    · cases problem <;> first | exact absurd rfl hproblem | exact Paired.fail _
  · exact (steady_setFiles made).then fun _ => steady_log hE _ _ _

omit hE in
lemma steady_enter : Steady E (d.enter name : Action σ LocalDirectory) :=
  (steady_leadsToDirectory _).then fun _ => Paired.ite (Paired.pure rfl) (Paired.fail _)

omit hE in
lemma steady_leave : Steady E (d.leave : Action σ LocalDirectory) := by
  rw [leave]
  cases d.parts.getLast? with
  | none => exact Paired.fail _
  | some name =>
    exact (steady_leadsToDirectory _).then fun _ => Paired.ite (Paired.pure rfl) (Paired.fail _)

omit hE in
lemma steady_inspect : Steady E (d.inspect name : Action σ (Option Nat)) := by
  refine steady_files.then fun files => ?_
  rcases files.sizeOf (d.pathFor name) with (_ | problem) | size
  · exact Paired.fail _
  · cases problem <;> first | exact Paired.pure rfl | exact Paired.fail _
  · exact Paired.pure rfl

end LocalDirectory

lemma Comparison.steady_inspect (d : LocalDirectory) (name : String) (declared : Json) :
    Steady E (Comparison.inspect d name declared : Action σ Comparison) :=
  (d.steady_inspect name).then fun _ => (steady_log hE _ _ _).then fun _ => Paired.pure rfl

lemma Budget.steady_spend (b : Budget) : Steady E (b.spend : Action σ Budget) :=
  (steady_log hE _ _ _).then fun _ => Paired.pure rfl

end Steady

end Replica
