import Mathlib.Tactic.Common
import Replica.World
/-!
# Triples for procedures

A run, a walk and a single request are all procedures, and most of what there is to say about
them has one shape: from such a state the procedure ends with such a result and state, or with
such a failure.  `Procedure.Ensures` is that shape, with two weaker ones beside it.

**Triples.**  One rule per way of building a procedure (`Ensures.bind`, `Ensures.within`, …).  The
failing side is part of the triple.

**Silence.**  Most of what a walk does is talk: logs, warnings, messages.  `Procedure.Silent`
says that a procedure has a result and leaves what a view shows of the state alone, so a triple
about that view passes over it (`Silent.ensures`).

**Keeping.**  `Procedure.Keeps` says the same without the result.

**Preserving.**  `Procedure.Preserves` says that an invariant holds after a procedure if it holds
before it, whether there is a result or not.

**Agreement.**  `Procedure.Agree` says that two procedures do the same from certain states.
-/

namespace Replica

/-- Of two checks, one after the other, there is a result exactly if both have one. -/
lemma bind_eq_ok_iff {ε α β : Type} {x : Except ε α} {f : α → Except ε β} {b : β} :
    (x >>= f) = .ok b ↔ ∃ a, x = .ok a ∧ f a = .ok b := by
  cases x with
  | error e => exact ⟨nofun, nofun⟩
  | ok a =>
    refine ⟨fun h => ⟨a, rfl, h⟩, ?_⟩
    rintro ⟨_, ha, h⟩
    cases ha
    exact h

lemma eq_ok_of_toOption {ε α : Type} {x : Except ε α} {a : α} (h : x.toOption = some a) :
    x = .ok a := by
  cases x with
  | error e => cases h
  | ok b =>
    cases h
    rfl

end Replica

namespace Replica.Procedure

variable {S T V α β γ : Type}

/-- What follows a step that succeeds. -/
lemma run_bind_of_ok {p : Procedure S α} {f : α → Procedure S β} {s s' : S} {a : α}
    (h : p.run s = (.ok a, s')) : (p >>= f).run s = (f a).run s' := by
  rw [run_bind, h]

/-- From every state that satisfies `before`, the procedure ends with a result and a state that
satisfy `after`, or with a failure and a state that satisfy `failing`. -/
def Ensures (before : S → Prop) (p : Procedure S α) (after : α → S → Prop)
    (failing : Failure → S → Prop) : Prop :=
  ∀ s, before s →
    match p.run s with
    | (.ok a, s') => after a s'
    | (.error failure, s') => failing failure s'

section Triples

variable {before before' : S → Prop} {after after' : α → S → Prop}
  {failing failing' : Failure → S → Prop} {p : Procedure S α}

/-- Consequence. -/
lemma Ensures.mono (h : Ensures before p after failing) (hb : ∀ s, before' s → before s)
    (ha : ∀ a s, after a s → after' a s) (hf : ∀ f s, failing f s → failing' f s) :
    Ensures before' p after' failing' := by
  intro s hs
  have := h s (hb s hs)
  rcases hrun : p.run s with ⟨_ | a, s'⟩
  · rw [hrun] at this
    exact hf _ _ this
  · rw [hrun] at this
    exact ha _ _ this

/-- Consequence on the failing side. -/
lemma Ensures.failing_mono (h : Ensures before p after failing)
    (hf : ∀ f s, failing f s → failing' f s) : Ensures before p after failing' :=
  h.mono (fun _ hs => hs) (fun _ _ hs => hs) hf

/-- A triple may be proved for each state on its own. -/
lemma Ensures.at_state (h : ∀ s₀, before s₀ → Ensures (fun s => s = s₀) p after failing) :
    Ensures before p after failing :=
  fun s hs => h s hs s rfl

/-- What cannot fail ends with a result. -/
lemma Ensures.exists_run (h : Ensures before p after fun _ _ => False) {s : S} (hs : before s) :
    ∃ a s', p.run s = (.ok a, s') ∧ after a s' := by
  have hend := h s hs
  rcases hrun : p.run s with ⟨f | a, s'⟩ <;> rw [hrun] at hend
  · exact hend.elim
  · exact ⟨a, s', rfl, hend⟩

/-- What is known before need not be known of every witness at once. -/
lemma Ensures.of_exists {ι : Sort*} {before : ι → S → Prop}
    (h : ∀ i, Ensures (before i) p after failing) :
    Ensures (fun s => ∃ i, before i s) p after failing := by
  rintro s ⟨i, hi⟩
  exact h i s hi

/-- What is known before and does not depend on the state is a hypothesis. -/
lemma Ensures.of_and {fact : Prop} (h : fact → Ensures before p after failing) :
    Ensures (fun s => fact ∧ before s) p after failing := by
  rintro s ⟨hfact, hs⟩
  exact h hfact s hs

lemma Ensures.pure {a : α} (h : ∀ s, before s → after a s) :
    Ensures before (Pure.pure a) after failing :=
  fun s hs => h s hs

lemma Ensures.fail {failure : Failure} (h : ∀ s, before s → failing failure s) :
    Ensures before (Procedure.fail failure : Procedure S α) after failing :=
  fun s hs => h s hs

/-- One procedure after the other. -/
lemma Ensures.bind {m : α → S → Prop} {after : β → S → Prop} {f : α → Procedure S β}
    (hp : Ensures before p m failing) (hf : ∀ a, Ensures (m a) (f a) after failing) :
    Ensures before (p >>= f) after failing := by
  intro s hs
  have hmid := hp s hs
  rw [run_bind]
  rcases hrun : p.run s with ⟨_ | a, s'⟩
  · rw [hrun] at hmid
    exact hmid
  · rw [hrun] at hmid
    exact hf a s' hmid

lemma Ensures.change {f : S → S} {after : Unit → S → Prop} (h : ∀ s, before s → after () (f s)) :
    Ensures before (Procedure.change f) after failing :=
  fun s hs => h s hs

lemma Ensures.require {condition : Bool} {failure : Failure} {after : Unit → S → Prop}
    (ht : condition = true → ∀ s, before s → after () s)
    (hf : condition = false → ∀ s, before s → failing failure s) :
    Ensures before (Procedure.require condition failure) after failing := by
  rw [Procedure.require]
  cases condition with
  | true => exact Ensures.pure (ht rfl)
  | false => exact Ensures.fail (hf rfl)

lemma Ensures.ofExcept {e : Except Failure α}
    (ho : ∀ a, e = .ok a → ∀ s, before s → after a s)
    (he : ∀ f, e = .error f → ∀ s, before s → failing f s) :
    Ensures before (Procedure.ofExcept e) after failing := by
  cases e with
  | ok a => exact Ensures.pure (ho a rfl)
  | error f => exact Ensures.fail (he f rfl)

lemma Ensures.ofChecked {e : Except ValueFault α}
    (ho : ∀ a, e = .ok a → ∀ s, before s → after a s)
    (he : ∀ f, e = .error f → ∀ s, before s → failing (.value f) s) :
    Ensures before (Procedure.ofChecked e) after failing := by
  cases e with
  | ok a => exact Ensures.pure (ho a rfl)
  | error f => exact Ensures.fail (he f rfl)

lemma Ensures.ofRequest {path : Path} {e : Except PathFault α}
    (ho : ∀ a, e = .ok a → ∀ s, before s → after a s)
    (he : ∀ f, e = .error f → ∀ s, before s → failing (.ofPathFault path f) s) :
    Ensures before (Procedure.ofRequest path e) after failing := by
  cases e with
  | ok a => exact Ensures.pure (ho a rfl)
  | error f => exact Ensures.fail (he f rfl)

/-- A procedure on a part of the state. -/
lemma Ensures.within {part : S → T} {put : T → S → S} {p : Procedure T α}
    (h : ∀ s, before s → Ensures (fun t => t = part s) p (fun a t => after a (put t s))
      (fun f t => failing f (put t s))) :
    Ensures before (Procedure.within part put p) after failing := by
  intro s hs
  have := h s hs (part s) rfl
  rw [run_within]
  rcases hrun : p.run (part s) with ⟨_ | a, t⟩
  · rw [hrun] at this
    exact this
  · rw [hrun] at this
    exact this

/-- What happens last happens after a result and after a failure. -/
lemma Ensures.ending {last : Procedure S Unit} {m : Except Failure α → S → Prop}
    (hp : Ensures before p (fun a => m (.ok a)) (fun f => m (.error f)))
    (hlast : ∀ r, Ensures (m r) last
      (fun _ s => match r with
        | .ok a => after a s
        | .error f => failing f s) failing) :
    Ensures before (Procedure.ending p last) after failing := by
  have hattempt : Ensures before (attempt p) m failing := by
    intro s hs
    have := hp s hs
    rw [run_attempt]
    rcases hrun : p.run s with ⟨_ | a, s'⟩
    · rw [hrun] at this
      exact this
    · rw [hrun] at this
      exact this
  refine Ensures.bind hattempt fun r => ?_
  refine Ensures.bind (hlast r) fun _ => ?_
  cases r with
  | ok a => exact Ensures.pure fun s hs => hs
  | error f => exact Ensures.fail fun s hs => hs

end Triples

/-! ## Silence -/

/-- The procedure has a result whatever the state, and leaves what the view shows alone. -/
def Silent (view : S → V) (p : Procedure S α) : Prop :=
  ∀ s, (∃ a, (p.run s).1 = .ok a) ∧ view (p.run s).2 = view s

section Silence

variable {view : S → V} {p : Procedure S α} {failing : Failure → S → Prop}

/-- A silent procedure keeps every fact about the view. -/
lemma Silent.ensures (h : Silent view p) {Q : V → Prop} :
    Ensures (fun s => Q (view s)) p (fun _ s => Q (view s)) failing := by
  intro s hs
  obtain ⟨⟨a, ha⟩, hv⟩ := h s
  rcases hrun : p.run s with ⟨r, s'⟩
  rw [hrun] at ha hv
  cases ha
  show Q (view s')
  rw [hv]
  exact hs

lemma Silent.pure (a : α) : Silent view (Pure.pure a : Procedure S α) :=
  fun _ => ⟨⟨a, rfl⟩, rfl⟩

lemma Silent.bind {f : α → Procedure S β} (hp : Silent view p) (hf : ∀ a, Silent view (f a)) :
    Silent view (p >>= f) := by
  intro s
  obtain ⟨⟨a, ha⟩, hv⟩ := hp s
  rcases hrun : p.run s with ⟨r, s'⟩
  rw [hrun] at ha hv
  cases ha
  obtain ⟨hb, hv'⟩ := hf a s'
  rw [run_bind, hrun]
  exact ⟨hb, hv'.trans hv⟩

lemma Silent.change {f : S → S} (h : ∀ s, view (f s) = view s) :
    Silent view (Procedure.change f) :=
  fun s => ⟨⟨(), rfl⟩, h s⟩

lemma Silent.forM {f : α → Procedure S PUnit} (xs : List α) (h : ∀ x ∈ xs, Silent view (f x)) :
    Silent view (xs.forM f) := by
  induction xs with
  | nil => exact Silent.pure _
  | cons x rest ih =>
    exact Silent.bind (h x List.mem_cons_self) fun _ =>
      ih fun y hy => h y (List.mem_cons_of_mem x hy)

lemma Silent.forM_option {f : α → Procedure S PUnit} (o : Option α)
    (h : ∀ x, Silent view (f x)) : Silent view (o.forM f) := by
  cases o with
  | none => exact Silent.pure _
  | some x => exact h x

lemma Silent.ite {c : Prop} [Decidable c] {p q : Procedure S α} (hp : Silent view p)
    (hq : Silent view q) : Silent view (if c then p else q) := by
  by_cases hc : c
  · rw [if_pos hc]
    exact hp
  · rw [if_neg hc]
    exact hq

lemma Silent.within {part : S → T} {put : T → S → S} {inner : T → β} {p : Procedure T α}
    (h : Silent inner p)
    (hput : ∀ s t, inner t = inner (part s) → view (put t s) = view s) :
    Silent view (Procedure.within part put p) := by
  intro s
  obtain ⟨hr, hv⟩ := h (part s)
  exact ⟨hr, hput s _ hv⟩

end Silence

/-! ## Keeping -/

/-- Whether it has a result or fails, the procedure leaves what the view shows alone. -/
def Keeps (view : S → V) (p : Procedure S α) : Prop := ∀ s, view (p.run s).2 = view s

section Keeping

variable {view : S → V} {p : Procedure S α}

lemma Keeps.pure (a : α) : Keeps view (Pure.pure a : Procedure S α) := fun _ => rfl

lemma Keeps.fail (failure : Failure) : Keeps view (Procedure.fail failure : Procedure S α) :=
  fun _ => rfl

lemma Keeps.ofExcept (e : Except Failure α) : Keeps view (Procedure.ofExcept e) := by
  cases e <;> exact fun _ => rfl

lemma Keeps.ofChecked (e : Except ValueFault α) : Keeps view (Procedure.ofChecked e) :=
  Keeps.ofExcept _

lemma Keeps.bind {f : α → Procedure S β} (hp : Keeps view p)
    (hf : ∀ a, Keeps view (f a)) : Keeps view (p >>= f) := by
  intro s
  have hfirst := hp s
  rw [run_bind]
  rcases hrun : p.run s with ⟨_ | a, s'⟩
  · rw [hrun] at hfirst
    exact hfirst
  · rw [hrun] at hfirst
    exact (hf a s').trans hfirst

lemma Keeps.attempt (hp : Keeps view p) : Keeps view (Procedure.attempt p) :=
  hp

lemma Keeps.within {part : S → T} {put : T → S → S} {inner : T → β} {p : Procedure T α}
    (hp : Keeps inner p)
    (hput : ∀ s t, inner t = inner (part s) → view (put t s) = view s) :
    Keeps view (Procedure.within part put p) :=
  fun s => hput s _ (hp (part s))

end Keeping

/-! ## Preserving -/

/-- Whether it has a result or fails, the procedure leaves the invariant true. -/
def Preserves (I : S → Prop) (p : Procedure S α) : Prop := ∀ s, I s → I (p.run s).2

section Preserving

variable {I : S → Prop} {p : Procedure S α}

lemma Preserves.ensures (h : Preserves I p) : Ensures I p (fun _ => I) fun _ => I := by
  intro s hs
  have hrun := h s hs
  rcases hout : p.run s with ⟨_ | _, s'⟩ <;> rw [hout] at hrun <;> exact hrun

/-- What is known of a result need not be kept. -/
lemma Ensures.preserves {after : α → S → Prop} {failing : Failure → S → Prop}
    (h : Ensures I p after failing) (ha : ∀ a s, after a s → I s)
    (hf : ∀ f s, failing f s → I s) : Preserves I p := by
  intro s hs
  have hrun := h s hs
  rcases hout : p.run s with ⟨f | a, s'⟩ <;> rw [hout] at hrun
  · exact hf f s' hrun
  · exact ha a s' hrun

lemma Preserves.pure (a : α) : Preserves I (Pure.pure a : Procedure S α) := fun _ hs => hs

lemma Preserves.fail (failure : Failure) : Preserves I (Procedure.fail failure : Procedure S α) :=
  fun _ hs => hs

lemma Preserves.ofExcept (e : Except Failure α) : Preserves I (Procedure.ofExcept e) := by
  cases e <;> exact fun _ hs => hs

lemma Preserves.ofChecked (e : Except ValueFault α) : Preserves I (Procedure.ofChecked e) :=
  Preserves.ofExcept _

lemma Preserves.ofRequest (path : Path) (e : Except PathFault α) :
    Preserves I (Procedure.ofRequest path e) :=
  Preserves.ofExcept _

lemma Preserves.require (condition : Bool) (failure : Failure) :
    Preserves I (Procedure.require condition failure) := by
  cases condition <;> exact fun _ hs => hs

lemma Preserves.state : Preserves I (Procedure.state : Procedure S S) := fun _ hs => hs

lemma Preserves.change {f : S → S} (h : ∀ s, I s → I (f s)) : Preserves I (Procedure.change f) :=
  h

lemma Preserves.bind {f : α → Procedure S β} (hp : Preserves I p)
    (hf : ∀ a, Preserves I (f a)) : Preserves I (p >>= f) := by
  intro s hs
  have hfirst := hp s hs
  rw [run_bind]
  rcases hrun : p.run s with ⟨_ | a, s'⟩ <;> rw [hrun] at hfirst
  · exact hfirst
  · exact hf a s' hfirst

/-- What comes after a check need only do so for the value that passed it. -/
lemma Preserves.ofExcept_bind {e : Except Failure α} {f : α → Procedure S β}
    (h : ∀ a, e = .ok a → Preserves I (f a)) : Preserves I (Procedure.ofExcept e >>= f) := by
  cases e with
  | ok a => exact h a rfl
  | error failure => exact fun _ hs => hs

lemma Preserves.attempt (hp : Preserves I p) : Preserves I (Procedure.attempt p) := hp

lemma Preserves.ending {last : Procedure S Unit} (hp : Preserves I p)
    (hlast : Preserves I last) : Preserves I (Procedure.ending p last) :=
  hp.attempt.bind fun _ => hlast.bind fun _ => Preserves.ofExcept _

lemma Preserves.forM {f : α → Procedure S PUnit} (xs : List α)
    (h : ∀ x ∈ xs, Preserves I (f x)) : Preserves I (xs.forM f) := by
  induction xs with
  | nil => exact Preserves.pure _
  | cons x rest ih =>
    exact (h x List.mem_cons_self).bind fun _ =>
      ih fun y hy => h y (List.mem_cons_of_mem x hy)

lemma Preserves.forM_option {f : α → Procedure S PUnit} (o : Option α)
    (h : ∀ x, Preserves I (f x)) : Preserves I (o.forM f) := by
  cases o with
  | none => exact Preserves.pure _
  | some x => exact h x

lemma Preserves.ite {c : Prop} [Decidable c] {p q : Procedure S α} (hp : Preserves I p)
    (hq : Preserves I q) : Preserves I (if c then p else q) := by
  by_cases hc : c
  · rw [if_pos hc]
    exact hp
  · rw [if_neg hc]
    exact hq

lemma Preserves.within {part : S → T} {put : T → S → S} {J : T → Prop} {p : Procedure T α}
    (hp : Preserves J p) (hpart : ∀ s, I s → J (part s))
    (hput : ∀ s t, I s → J t → I (put t s)) : Preserves I (Procedure.within part put p) :=
  fun s hs => hput s _ hs (hp _ (hpart s hs))

end Preserving

/-! ## Agreement -/

/-- From every state that satisfies `before`, the two procedures do the same. -/
def Agree (before : S → Prop) (p q : Procedure S α) : Prop := ∀ s, before s → p.run s = q.run s

section Agreement

variable {before : S → Prop} {p q : Procedure S α}

lemma Agree.refl (before : S → Prop) (p : Procedure S α) : Agree before p p := fun _ _ => rfl

/-- What comes after need only agree on what the first leaves. -/
lemma Agree.bind {after : α → S → Prop} {f g : α → Procedure S β}
    (h : Agree before p q) (hp : Ensures before p after fun _ _ => True)
    (hf : ∀ a, Agree (after a) (f a) (g a)) : Agree before (p >>= f) (q >>= g) := by
  intro s hs
  have hmid := hp s hs
  rw [run_bind, run_bind, ← h s hs]
  rcases hrun : p.run s with ⟨_ | a, s'⟩
  · rfl
  · rw [hrun] at hmid
    exact hf a s' hmid

/-- What comes after the same is the same. -/
lemma Agree.then (h : Agree before p q) (f : α → Procedure S β) :
    Agree before (p >>= f) (q >>= f) := by
  intro s hs
  rw [run_bind, run_bind, h s hs]

lemma Agree.of_exists {ι : Sort*} {before : ι → S → Prop} (h : ∀ i, Agree (before i) p q) :
    Agree (fun s => ∃ i, before i s) p q := by
  rintro s ⟨i, hi⟩
  exact h i s hi

lemma Agree.of_and {fact : Prop} (h : fact → Agree before p q) :
    Agree (fun s => fact ∧ before s) p q := by
  rintro s ⟨hfact, hs⟩
  exact h hfact s hs

end Agreement

end Replica.Procedure
