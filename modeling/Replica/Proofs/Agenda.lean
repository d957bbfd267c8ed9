import Replica.Proofs.Rounds
/-!
# What a walk has before it

The steps of a run tell, without a look at the walk itself, where it has to go next.  Reading
them in order, one keeps an agenda: for each listing that is being gone through, the child whose
turn it is and the children that still wait.

* **Agendas.**  `Agenda.after` is what one step does to an agenda, `Agenda.ofSteps` what all of
  them do.  The folders whose turn it is make up the way down to where the walk stands
  (`Agenda.descent`).
* **Orderly steps.**  `Orderly` is what every step of a run observes: trail and local directory
  both name that way down, the child taken is the first that waits, nothing is left or begun while
  a child waits, and what becomes of a fetch is the last that happens in the turn of its file.
* **Courses.**  `Moment` is the invariant.  Every `Deed`, `Halt` and `Course` keeps it, and with
  it every run is orderly from its first step to its last (`Run.Ends.orderly`).
-/

namespace Replica

variable {σ : Type}

/-! ## Agendas -/

/-- A listing that is being gone through. -/
structure Frame where
  /-- The child whose turn it is. -/
  turn : Option Node
  /-- The children that wait for theirs, in order. -/
  waiting : List Node

/-- The listings that are being gone through, the innermost first. -/
abbrev Agenda := List Frame

namespace Agenda

/-- The agenda after one more step.  The top of a storage is only listed when nothing else is
being gone through. -/
def after : Agenda → Step → Agenda
  | _, .listing _ none => [⟨none, []⟩]
  | frame :: outer, .listed children => ⟨frame.turn, children⟩ :: outer
  | frame :: outer, .taken child => ⟨some child, frame.waiting.tail⟩ :: outer
  | agenda, .entered _ _ => ⟨none, []⟩ :: agenda
  | _ :: outer, .left _ _ => outer
  | agenda, _ => agenda

/-- The agenda that steps leave; the newest step comes first. -/
def ofSteps : List (Standing × Step) → Agenda
  | [] => []
  | (_, what) :: earlier => (ofSteps earlier).after what

/-- The children that wait in the innermost listing. -/
def waiting : Agenda → List Node
  | [] => []
  | frame :: _ => frame.waiting

/-- The folders that are being gone through, the outermost first. -/
def descent (agenda : Agenda) : List Node := (agenda.tail.filterMap Frame.turn).reverse

/-- The folders that are being gone through have these names, and each of them can be used. -/
structure Names (agenda : Agenda) (names : List String) : Prop where
  descent : agenda.descent.map Node.name = names.map .string
  usable : ∀ n ∈ names, isSegment n = true

/-- Only the outer listings have to do with the way down. -/
lemma Names.congr {agenda agenda' : Agenda} {names : List String} (h : agenda.Names names)
    (htail : agenda'.tail = agenda.tail) : agenda'.Names names := by
  refine ⟨?_, h.usable⟩
  rw [Agenda.descent, htail]
  exact h.descent

/-- One folder further down there is one more name. -/
lemma Names.below {frame : Frame} {outer : Agenda} {above : List String} {child : Node}
    {name : String} (h : Names (frame :: outer) above) (hturn : frame.turn = some child)
    (hcalls : child.Calls name) (inner : Frame) :
    Names (inner :: frame :: outer) (above ++ [name]) := by
  have hdescent : (outer.filterMap Frame.turn).reverse.map Node.name = above.map .string :=
    h.descent
  refine ⟨?_, usable_concat h.usable hcalls.segment⟩
  simp [Agenda.descent, hturn, hdescent, hcalls.text]

/-- Outside of all listings there is no name. -/
lemma Names.outside {agenda : Agenda} (h : agenda.tail = []) : agenda.Names [] := by
  constructor
  · simp [Agenda.descent, h]
  · simp

end Agenda

/-! ## Orderly steps -/

/-- Whether an agenda admits a step: the child taken is the first that waits, and nothing is left
or begun while a child waits. -/
def Step.Admitted (agenda : Agenda) : Step → Prop
  | .taken child => ∃ rest, agenda.waiting = child :: rest
  | .left _ _ | .listing _ _ => agenda.waiting = []
  | _ => True

/-- Whether a step begins or ends something, so that it does not belong to the turn of a file. -/
def Step.turnsOver : Step → Bool
  | .listing .. | .taken _ | .left .. => true
  | _ => false

/-- Whether a step says what became of a fetch. -/
def Step.isFetched : Step → Bool
  | .fetched _ => true
  | _ => false

/-- Whether the newest step says what became of a fetch. -/
def endsInFetched (steps : List (Standing × Step)) : Bool := steps.head?.any (·.2.isFetched)

/-- What a step observes; `earlier` are the steps before it. -/
structure Orderly (earlier : List (Standing × Step)) (standing : Standing) (what : Step) :
    Prop where
  /-- The trail and the local directory agree, name by name. -/
  parts : standing.parts = standing.segments
  /-- They name the folders that are being gone through. -/
  names : (Agenda.ofSteps ((standing, what) :: earlier)).Names standing.segments
  /-- The step is one that has its turn. -/
  admitted : what.Admitted (Agenda.ofSteps earlier)
  /-- Nothing else happens in the turn of a file once the fetch is over. -/
  prompt : what.turnsOver = true ∨ endsInFetched earlier = false

/-- Once a fetch is over the next child that waits has its turn. -/
lemma Orderly.eq_taken {earlier : List (Standing × Step)} {standing standing' : Standing}
    {success : Bool} {what : Step}
    (h : Orderly ((standing', .fetched success) :: earlier) standing what) {child : Node}
    {rest : List Node}
    (hwaiting : (Agenda.ofSteps earlier).waiting = child :: rest) : what = .taken child := by
  obtain ⟨-, -, hadmitted, hprompt⟩ := h
  have hnone : (Agenda.ofSteps earlier).waiting ≠ [] := by simp [hwaiting]
  cases what with
  | taken child' =>
    obtain ⟨rest', hadmitted⟩ := hadmitted
    cases hwaiting.symm.trans hadmitted
    rfl
  | left _ _ | listing _ _ => exact absurd hadmitted hnone
  | listed _ | entered _ _ | visited _ | compared _ | fetching _ _ | fetched _ =>
    rcases hprompt with h | h <;> cases h

/-- All steps after those of `base` are orderly, and leave this agenda. -/
structure Recorded (base : List (Standing × Step)) (agenda : Agenda)
    (steps : List (Standing × Step)) : Prop where
  steps : ∃ new, steps = new ++ base ∧ Agenda.ofSteps new = agenda ∧
    ∀ earlier standing what, (standing, what) :: earlier <:+ new → Orderly earlier standing what

/-- Before the first step nothing is to be done. -/
lemma Recorded.start (base : List (Standing × Step)) : Recorded base [] base :=
  ⟨[], rfl, rfl, fun _ _ _ h => by simpa using List.suffix_nil.mp h⟩

/-- One more orderly step. -/
lemma Recorded.cons {base steps : List (Standing × Step)} {agenda : Agenda}
    (h : Recorded base agenda steps) {above : List String} (ids : List Int) (what : Step)
    (hnames : (agenda.after what).Names above) (hadmitted : what.Admitted agenda)
    (hprompt : what.turnsOver = true ∨ endsInFetched steps = false) :
    Recorded base (agenda.after what) ((Walk.spot above ids, what) :: steps) := by
  obtain ⟨new, rfl, rfl, horderly⟩ := h
  have hprompt' : what.turnsOver = true ∨ endsInFetched new = false := by
    refine hprompt.imp_right fun h => ?_
    cases new with
    | nil => rfl
    | cons x _ => exact h
  refine ⟨(Walk.spot above ids, what) :: new, rfl, rfl, fun earlier standing what' hsuffix => ?_⟩
  rcases List.suffix_cons_iff.mp hsuffix with heq | hsuffix
  · cases heq
    exact ⟨rfl, hnames, hadmitted, hprompt'⟩
  · exact horderly earlier standing what' hsuffix

namespace Walk

variable {p : Plan σ} {root : Path} {storage : Int} {above : List String} {ids : List Int}
  {child : Node} {a a' : Account σ} {base : List (Standing × Step)} {agenda outer : Agenda}

/-- A moment of a walk that stands at `above`: what was recorded is orderly, and the agenda leads
to there. -/
structure Moment (base : List (Standing × Step)) (agenda : Agenda) (above : List String)
    (a : Account σ) : Prop where
  recorded : Recorded base agenda a.steps
  names : agenda.Names above

namespace Moment

/-- Only the steps matter. -/
lemma congr (h : Moment base agenda above a) (hsteps : a'.steps = a.steps) :
    Moment base agenda above a' :=
  ⟨hsteps ▸ h.recorded, h.names⟩

/-- One more step, after which the walk may stand somewhere else. -/
lemma note (h : Moment base agenda above a) {above' : List String} (ids : List Int) (what : Step)
    (hnames : (agenda.after what).Names above') (hadmitted : what.Admitted agenda)
    (hprompt : what.turnsOver = true ∨ endsInFetched a.steps = false) :
    Moment base (agenda.after what) above' (a.note (spot above' ids) what) :=
  ⟨h.recorded.cons ids what hnames hadmitted hprompt, hnames⟩

/-- A file has its turn and is looked at. -/
lemma looked (h : Moment base agenda above a) (hlast : endsInFetched a.steps = false) :
    Moment base agenda above (a.looked above ids child) :=
  have hcounted : Moment base agenda above (a.count fun c => { c with files := c.files + 1 }) :=
    h.congr rfl
  hcounted.note ids (.visited _) h.names trivial (.inr hlast)

lemma compared (h : Moment base agenda above a) (hlast : endsInFetched a.steps = false) :
    Moment base agenda above (a.compared above ids child) :=
  (h.looked hlast).note ids (.compared child) h.names trivial (.inr rfl)

lemma asked (h : Moment base agenda above a) (hlast : endsInFetched a.steps = false)
    (target : Path) (w : World σ) :
    Moment base agenda above (a.asked above ids child target w) :=
  have hfetching := (h.compared hlast).note ids (.fetching child target) h.names trivial
    (.inr rfl)
  hfetching.congr rfl

/-- The fetch of a file is over. -/
lemma fetched (h : Moment base agenda above a) (hlast : endsInFetched a.steps = false)
    (target : Path) (w : World σ) (success : Bool) :
    Moment base agenda above
      ((a.asked above ids child target w).note (spot above ids) (.fetched success)) :=
  (h.asked hlast target w).note ids (.fetched success) h.names trivial (.inr rfl)

/-- A child is taken that waits. -/
lemma taken {turn : Option Node} {rest : List Node}
    (h : Moment base (⟨turn, child :: rest⟩ :: outer) above a) (ids : List Int) :
    Moment base (⟨some child, rest⟩ :: outer) above (a.note (spot above ids) (.taken child)) :=
  h.note ids (.taken child) (h.names.congr rfl) ⟨rest, rfl⟩ (.inl rfl)

/-- The folder whose turn it is is entered. -/
lemma entered {rest : List Node} (h : Moment base (⟨some child, rest⟩ :: outer) above a)
    (hlast : endsInFetched a.steps = false) {name : String} (hcalls : child.Calls name)
    (files : FileSystem) :
    Moment base (⟨none, []⟩ :: ⟨some child, rest⟩ :: outer) (above ++ [name])
      (a.entered above ids child name files) :=
  have hwith : Moment base (⟨some child, rest⟩ :: outer) above (a.withFiles files) := h.congr rfl
  have hentered := hwith.note ids (.entered child.id name) (h.names.below rfl hcalls _)
    trivial (.inr hlast)
  hentered.congr rfl

/-- It is left, once nothing waits in it. -/
lemma left {inner frame : Frame} (h : Moment base (inner :: frame :: outer) (above ++ [name]) a)
    (hdone : inner.waiting = []) (hnames : Agenda.Names (frame :: outer) above) (ids : List Int)
    (id : Int) :
    Moment base (frame :: outer) above (a.note (spot above ids) (.left id name)) :=
  h.note ids (.left id name) hnames hdone (.inl rfl)

end Moment

/-! ## Courses -/

/-- A child that is not gone through leaves the agenda as it is. -/
lemma Deed.moment (hd : Deed p root above ids child a a') (h : Moment base agenda above a)
    (hlast : endsInFetched a.steps = false) : Moment base agenda above a' := by
  cases hd with
  | passOver _ => exact h.congr rfl
  | skip _ | leaveOut _ => exact (h.compared hlast).congr rfl
  | fetch _ _ => exact (h.fetched hlast _ _ true).congr rfl
  | miss _ _ _ => exact (h.fetched hlast _ _ false).congr rfl

/-- So does a child that stops the run. -/
lemma Halt.moment {f : Failure} (hh : Halt p root above ids child a f a')
    (h : Moment base agenda above a) (hlast : endsInFetched a.steps = false) :
    Moment base agenda above a' := by
  cases hh with
  | unreadable _ | cycle _ _ _ | unnamedFolder _ _ _ | notMade _ _ _ _ => exact h
  | notEntered _ _ _ _ _ => exact h.congr rfl
  | oversized _ _ _ | unnamedFile _ _ _ => exact h.looked hlast
  | notInspected _ _ _ => exact h.compared hlast
  | fetchFailed _ _ => exact h.asked hlast _ _
  | tooMany _ _ _ => exact (h.fetched hlast _ _ false).congr rfl

/-- The task is what the agenda has next; `rest` waits behind it, in the innermost listing. -/
def Task.Next (outer : Agenda) (rest : List Node) (agenda : Agenda) : Task → Prop
  | .container _ none => agenda.tail = [] ∧ agenda.waiting = [] ∧ outer = [] ∧ rest = []
  | .container _ (some _) => agenda = ⟨none, []⟩ :: outer ∧ rest = []
  | .children _ nodes => (∃ turn, agenda = ⟨turn, nodes⟩ :: outer) ∧ rest = []
  | .child _ n => ∃ turn, agenda = ⟨turn, n :: rest⟩ :: outer

/-- The children of a container are asked for. -/
lemma Moment.listing {levels : Nat} {container : Option Int} {rest : List Node}
    (h : Moment base agenda above a)
    (hnext : (Task.container levels container).Next outer rest agenda) (ids : List Int)
    (w : World σ) :
    Moment base (⟨none, []⟩ :: outer) above
      (a.listing (spot above ids) storage container w) := by
  cases container with
  | none =>
    obtain ⟨htail, hwaiting, rfl, -⟩ := hnext
    have hnames : Agenda.Names [⟨none, []⟩] above := h.names.congr htail.symm
    exact (h.note ids (.listing storage none) hnames hwaiting (.inl rfl)).congr rfl
  | some c =>
    obtain ⟨rfl, -⟩ := hnext
    exact (h.note ids (.listing storage (some c)) h.names rfl (.inl rfl)).congr rfl

/-- **Every course is orderly.**  From a moment in which its task comes next, all that it records
is orderly.  If it ends, then with the same outer listings and what waited behind the task; if a
directory was gone that it was to leave, then nothing waited in there any more. -/
theorem Course.orderly {task : Task} {result : Except Stop Unit} {rest : List Node}
    (hc : Course p root storage task above ids a result a') (h : Moment base agenda above a)
    (hnext : task.Next outer rest agenda) :
    ∃ agenda', Recorded base agenda' a'.steps ∧
      (result = .ok () → (∃ turn, agenda' = ⟨turn, rest⟩ :: outer) ∧ agenda'.Names above) ∧
      ∀ stop, result = .error stop → stop.standing.parts ≠ stop.standing.segments →
        agenda'.waiting = [] ∧ agenda'.Names stop.standing.parts := by
  induction hc generalizing agenda outer rest with
  | tooDeep => exact ⟨_, h.recorded, nofun, by rintro _ ⟨⟩ hne; exact absurd rfl hne⟩
  | unlisted answer =>
    exact ⟨_, (h.listing hnext _ _).recorded, nofun, by rintro _ ⟨⟩ hne; exact absurd rfl hne⟩
  | @listed levels container above ids a children w result a' answer _ ih =>
    have hlisting : Moment base (⟨none, []⟩ :: outer) above
        (a.listing (spot above (inside container ids)) storage container w) :=
      h.listing hnext _ _
    have hlisted := hlisting.note (inside container ids) (.listed children)
      (hlisting.names.congr rfl) trivial (.inr rfl)
    have hrest : rest = [] := by
      cases container with
      | none => exact hnext.2.2.2
      | some _ => exact hnext.2
    exact ih (hlisted.congr rfl) ⟨⟨none, rfl⟩, hrest⟩
  | done =>
    obtain ⟨⟨turn, rfl⟩, rfl⟩ := hnext
    exact ⟨_, h.recorded, fun _ => ⟨⟨turn, rfl⟩, h.names⟩, nofun⟩
  | next _ _ ih₁ ih₂ =>
    obtain ⟨⟨turn, rfl⟩, rfl⟩ := hnext
    obtain ⟨_, hrecorded, hended, -⟩ := ih₁ h ⟨turn, rfl⟩
    obtain ⟨⟨turn', rfl⟩, hnames⟩ := hended rfl
    exact ih₂ ⟨hrecorded, hnames⟩ ⟨⟨turn', rfl⟩, rfl⟩
  | stopped _ ih =>
    obtain ⟨⟨turn, rfl⟩, rfl⟩ := hnext
    obtain ⟨agenda', hrecorded, -, hlost⟩ := ih h ⟨turn, rfl⟩
    exact ⟨agenda', hrecorded, nofun, hlost⟩
  | @deed levels child above ids a a' hd =>
    obtain ⟨turn, rfl⟩ := hnext
    have hdone := hd.moment (h.taken ids) rfl
    exact ⟨_, hdone.recorded, fun _ => ⟨⟨some child, rfl⟩, hdone.names⟩, nofun⟩
  | @halt levels child above ids a f a' hh =>
    obtain ⟨turn, rfl⟩ := hnext
    exact ⟨_, (hh.moment (h.taken ids) rfl).recorded, nofun,
      by rintro _ ⟨⟩ hne; exact absurd rfl hne⟩
  | @through levels child name files above ids a below a₁ result a' hcalls _ _ _ _ _ back ih =>
    obtain ⟨turn, rfl⟩ := hnext
    have htaken := h.taken ids
    obtain ⟨agenda', hrecorded, hended, hlost⟩ :=
      ih (htaken.entered rfl hcalls files) ⟨rfl, rfl⟩
    cases back with
    | back _ =>
      obtain ⟨⟨turn', rfl⟩, hnames⟩ := hended rfl
      have hleft := Moment.left ⟨hrecorded, hnames⟩ rfl htaken.names ids child.id
      exact ⟨_, hleft.recorded, fun _ => ⟨⟨some child, rfl⟩, hleft.names⟩, nofun⟩
    | lost _ =>
      obtain ⟨⟨turn', rfl⟩, hnames⟩ := hended rfl
      refine ⟨_, hrecorded, nofun, ?_⟩
      rintro _ ⟨⟩ -
      exact ⟨rfl, hnames⟩
    | stopped => exact ⟨agenda', hrecorded, nofun, hlost⟩

end Walk

/-! ## Runs -/

namespace Run

open Walk (Account Moment)

variable {p : Plan σ} {base : List (Standing × Step)} {agenda : Agenda} {a a' : Account σ}

/-- A moment between two walks. -/
def Between (base : List (Standing × Step)) (a : Account σ) : Prop :=
  ∃ agenda : Agenda, Moment base agenda [] a ∧ agenda.tail = [] ∧ agenda.waiting = []

lemma Between.start (hsteps : a.steps = base) : Between base a :=
  ⟨[], ⟨hsteps ▸ .start _, .outside rfl⟩, rfl, rfl⟩

/-- One walk of a run is orderly. -/
lemma Between.walk {storage : Int} {result : Except Walk.Stop Unit} (h : Between base a)
    (hc : Walk.Course p.walk p.destination storage (.container p.depth none) [] [] a.afresh
      result a') :
    ∃ agenda', Recorded base agenda' a'.steps ∧
      (result = .ok () → (∃ turn, agenda' = [⟨turn, []⟩]) ∧ agenda'.Names []) ∧
      ∀ stop, result = .error stop → stop.standing.parts ≠ stop.standing.segments →
        agenda'.waiting = [] ∧ agenda'.Names stop.standing.parts := by
  obtain ⟨agenda, hm, htail, hwaiting⟩ := h
  exact hc.orderly (hm.congr rfl) ⟨htail, hwaiting, rfl, rfl⟩

/-- After a walk that ends the next one may begin. -/
lemma Between.next {storage : Int} {b' : Account σ} (h : Between base a)
    (hc : Walk.Course p.walk p.destination storage (.container p.depth none) [] [] a.afresh
      (.ok ()) b') : Between base (b'.since a) := by
  obtain ⟨_, hrecorded, hended, -⟩ := h.walk hc
  obtain ⟨⟨turn, rfl⟩, hnames⟩ := hended rfl
  exact ⟨_, ⟨hrecorded, hnames⟩, rfl, rfl⟩

/-- **Every run is orderly**, in whichever way it ends. -/
theorem Ends.orderly {result : Except Failure RunStatistics} (he : Ends p a result a') :
    ∃ agenda', Recorded a.steps agenda' a'.steps := by
  cases he with
  | refused _ | unlisted _ _ | unwritten _ _ _ _ | undrawn _ _ _ _ => exact ⟨_, .start _⟩
  | walked _ _ _ rounds _ _ | veiled _ _ _ rounds _ _ =>
    rcases rounds.last (I := Between a.steps) (.start rfl) fun _ _ _ hb walk => hb.next walk with
      ⟨-, agenda, hm, -⟩ | ⟨storage, b, b', stop, hb, walk, -, rfl⟩ | ⟨-, agenda, hm, -⟩
    · exact ⟨agenda, hm.recorded⟩
    · obtain ⟨agenda', hrecorded, -⟩ := hb.walk walk
      exact ⟨agenda', hrecorded⟩
    · exact ⟨agenda, hm.recorded⟩

end Run

end Replica
