import Replica.Proofs.Walks
import Replica.Run
/-!
# How runs end

A run checks its destination, asks for the storages, and then makes its rounds: one walk for each
storage, every one from the destination on, with the failures of the walks before it.

* **Rounds.**  `Rounds` relates the account before and after the walks through a list of
  storages, as `Walk.Course` does for one walk.
* **Runs.**  `Ends` has one rule for each way in which a run ends.  `run_start` shows that every
  run, with any remote tree and in any world, ends in one of them.
-/

namespace Replica

variable {σ : Type}

namespace Walk

/-- A world that looks like this account to the next walk. -/
def Account.Describes (a : Account σ) (w : World σ) : Prop :=
  w.files = a.files ∧ w.other = a.other ∧ w.steps = a.steps

/-- The account with nothing counted, from which a walk starts. -/
@[simps] def Account.afresh (a : Account σ) : Account σ := { a with statistics := {} }

/-- The account of a walk together with what was counted before it. -/
@[simps] def Account.since (a' a : Account σ) : Account σ :=
  { a' with statistics := a.statistics + a'.statistics }

/-- The account of a walk in a world. -/
def accountOf (walk : Walk) (w : World σ) : Account σ :=
  ⟨w.files, w.other, w.steps, walk.statistics, walk.budget⟩

open Procedure (Ensures Silent)

/-- What is said in a world does not change its account. -/
lemma Account.Describes.talk {a : Account σ} {α : Type} {action : Action σ α}
    (h : Silent worldView action) {failing : Failure → World σ → Prop} :
    Ensures a.Describes action (fun _ => a.Describes) failing :=
  h.ensures (Q := fun v => v.1 = a.files ∧ v.2.1 = a.other ∧ v.2.2 = a.steps)

lemma ensures_expectTop {root : Path} {ids : List Int} {a : Account σ} (fault : String → TrailFault)
    {failing : Failure → Scene σ → Prop} :
    Ensures (Stands root [] ids a) (expectTop fault) (fun _ => Stands root [] ids a) failing :=
  ensures_here (Ensures.pure fun _ hs => hs)

/-- A walk from the destination follows a course, and the checks before and after it pass. -/
lemma follows_start (p : Plan σ) (root : Path) (storage : Int) (container : Option Int) :
    Follows p root storage (.container p.depth container) [] [] (start p storage container) := by
  intro a
  refine Ensures.bind (ensures_expectTop _) fun _ => ?_
  refine Ensures.bind (m := fun _ => Stands root [] [] a) ?_ fun _ => ?_
  · refine Ensures.change fun s hs => ⟨?_, hs.2⟩
    rw [hs.1]
  refine Ensures.bind (follows_visit p.depth container [] [] (by simp) a) fun _ => ?_
  refine Ensures.of_exists fun a' => Ensures.of_and fun hcourse => ?_
  refine Ensures.bind ensures_checkAgreement fun _ => ?_
  refine (ensures_expectTop _).mono (fun s hs => hs) (fun _ s hs => ?_) fun _ _ hs => hs
  exact ⟨a', hcourse, hs⟩

/-- A whole walk follows a course; the walk that is left has what that counted.  A walk that was
stopped has its place, and one that ended is back at the destination. -/
lemma run_perform (p : Plan σ) (root : Path) (budget : Budget) (storage : Int)
    (container : Option Int) (w : World σ) :
    ∃ result walk w', (p.perform (new root budget) storage container).run w =
        (.ok (result.mapError Stop.failure, walk), w') ∧
      Course p root storage (.container p.depth container) [] []
        (accountOf (new root budget) w) result (accountOf walk w') ∧
      (∀ stop, result = .error stop → stop.standing = walk.standing) ∧
      (result = .ok () → walk.trail = .empty ∧ walk.place = .atRoot root) := by
  have hstands : Stands root [] [] (accountOf (new root budget) w)
      (⟨new root budget, w⟩ : Scene σ) :=
    ⟨rfl, rfl, rfl, rfl⟩
  have hfollows := follows_start p root storage container _ _ hstands
  have hperform : (p.perform (new root budget) storage container).run w =
      (.ok (((start p storage container).run ⟨new root budget, w⟩).1,
        ((start p storage container).run ⟨new root budget, w⟩).2.walk),
        ((start p storage container).run ⟨new root budget, w⟩).2.world) := rfl
  rw [hperform]
  rcases hrun : (start p storage container).run ⟨new root budget, w⟩ with ⟨f | u, s⟩
  · rw [hrun] at hfollows
    refine ⟨.error ⟨f, s.walk.standing⟩, s.walk, s.world, rfl, hfollows, ?_, nofun⟩
    rintro stop ⟨rfl⟩
    rfl
  · rw [hrun] at hfollows
    obtain ⟨a', hcourse, hs⟩ := hfollows
    refine ⟨.ok (), s.walk, s.world, rfl, ?_, nofun, fun _ => ?_⟩
    · rw [← hs.account] at hcourse
      exact hcourse
    · rw [hs.1]
      exact ⟨rfl, rfl⟩

end Walk

namespace Run

open Walk (Account Course accountOf worldView)
open Procedure (Ensures Silent)

/-! ## Rounds -/

/-- What keeps a storage from being introduced: there are surrogates in the line about it, which is
to be printed. -/
def Plan.untold? (p : Plan σ) (storage : Storage) : Option Text.Unwritable :=
  if p.showsActivity then (p.introduction storage).unwritable? else none

/-- One walk for each storage: from one account to another one, ending or being stopped.  Every
walk counts from nothing and goes on with the failures of the walks before it. -/
inductive Rounds (p : Plan σ) :
    List Storage → Account σ → Except Failure Unit → Account σ → Prop where
  /-- No storage is left. -/
  | done {a : Account σ} : Rounds p [] a (.ok ()) a
  /-- The next storage is walked, and then the others are. -/
  | next {storage : Storage} {rest : List Storage} {a a₁ a' : Account σ}
    {result : Except Failure Unit} (told : p.untold? storage = none)
    (walk : Course p.walk p.destination storage.id (.container p.depth none) [] [] a.afresh
      (.ok ()) a₁)
    (others : Rounds p rest (a₁.since a) result a') :
    Rounds p (storage :: rest) a result a'
  /-- The walk through the next storage is stopped. -/
  | stopped {storage : Storage} {rest : List Storage} {a a₁ : Account σ} {stop : Walk.Stop}
    (told : p.untold? storage = none)
    (walk : Course p.walk p.destination storage.id (.container p.depth none) [] [] a.afresh
      (.error stop) a₁) :
    Rounds p (storage :: rest) a (.error stop.failure) (a₁.since a)
  /-- The next storage cannot be introduced. -/
  | untold {storage : Storage} {rest : List Storage} {a : Account σ} {line : Text.Unwritable}
    (untold : p.untold? storage = some line) :
    Rounds p (storage :: rest) a (.error (.value (.unwritable line))) a

/-- What every walk that ends keeps holds after the rounds, or where the walk starts that is
stopped, or where the storage is to be introduced that cannot be. -/
lemma Rounds.last {p : Plan σ} {storages : List Storage} {a a' : Account σ}
    {result : Except Failure Unit} {I : Account σ → Prop} (hr : Rounds p storages a result a')
    (ha : I a)
    (hkeep : ∀ storage b b', I b → Course p.walk p.destination storage (.container p.depth none)
      [] [] b.afresh (.ok ()) b' → I (b'.since b)) :
    result = .ok () ∧ I a' ∨
      (∃ storage b b' stop, I b ∧ Course p.walk p.destination storage (.container p.depth none)
        [] [] b.afresh (.error stop) b' ∧ result = .error stop.failure ∧ a' = b'.since b) ∨
      (∃ storage ∈ storages, ∃ line, p.untold? storage = some line ∧
        result = .error (.value (.unwritable line))) ∧ I a' := by
  induction hr with
  | done => exact .inl ⟨rfl, ha⟩
  | @next storage _ _ _ _ _ _ walk _ ih =>
    rcases ih (hkeep _ _ _ ha walk) with hdone | hstopped | ⟨⟨storage', hmem, huntold⟩, hI⟩
    · exact .inl hdone
    · exact .inr (.inl hstopped)
    · exact .inr (.inr ⟨⟨storage', List.mem_cons_of_mem _ hmem, huntold⟩, hI⟩)
  | stopped _ walk => exact .inr (.inl ⟨_, _, _, _, ha, walk, rfl, rfl⟩)
  | untold huntold => exact .inr (.inr ⟨⟨_, List.mem_cons_self, _, huntold, rfl⟩, ha⟩)

lemma silent_reportAbort (storage : Storage) (walk : Walk) (f : Failure) :
    Silent worldView (reportAbort storage walk f : Action σ Unit) := by
  cases f
  case abort => exact Walk.silent_log _ _ _
  all_goals exact Silent.pure _

/-- The introduction of a storage changes nothing, whether it can be printed or not. -/
lemma ensures_introduce (p : Plan σ) (storage : Storage) (a : Account σ) :
    Ensures a.Describes (p.console.infoValue (p.introduction storage))
      (fun _ w => p.untold? storage = none ∧ a.Describes w)
      (fun f w => ∃ line, (p.untold? storage = some line ∧ f = .value (.unwritable line)) ∧
        a.Describes w) := by
  rw [Console.infoValue, Plan.untold?, Plan.showsActivity]
  cases p.console.quiet || p.console.json with
  | true => exact Ensures.pure fun w hw => ⟨rfl, hw⟩
  | false =>
    rw [if_neg Bool.false_ne_true, Console.writeValue, Bool.not_false, if_pos rfl]
    rcases (p.introduction storage).unwritable? with _ | line
    · exact (Account.Describes.talk (Walk.silent_record rfl)).mono (fun _ hw => hw)
        (fun _ _ hw => ⟨rfl, hw⟩) fun _ _ hw => hw
    · exact Ensures.fail fun w hw => ⟨line, ⟨rfl, rfl⟩, hw⟩

/-- One walk of a run, unless its storage cannot be introduced. -/
lemma ensures_walkStorage (p : Plan σ) (storage : Storage) (a : Account σ) :
    Ensures a.Describes (walkStorage p a.budget storage)
      (fun walk w => p.untold? storage = none ∧
        Course p.walk p.destination storage.id (.container p.depth none) [] [] a.afresh (.ok ())
          (accountOf walk w))
      (fun f w => (∃ line, (p.untold? storage = some line ∧ f = .value (.unwritable line)) ∧
          a.Describes w) ∨
        ∃ stop walk, stop.failure = f ∧ p.untold? storage = none ∧
          Course p.walk p.destination storage.id (.container p.depth none) [] [] a.afresh
            (.error stop) (accountOf walk w)) := by
  refine Ensures.bind ((ensures_introduce p storage a).failing_mono fun _ _ h => .inl h)
    fun _ => Ensures.of_and fun htold => ?_
  intro w hw
  obtain ⟨result, walk, w', hrun, hcourse, -⟩ :=
    Walk.run_perform p.walk p.destination a.budget storage.id none w
  have haccount : accountOf (Walk.new p.destination a.budget) w = a.afresh := by
    simp [accountOf, Walk.new, Account.afresh, hw.1, hw.2.1, hw.2.2]
  rw [haccount] at hcourse
  rw [Procedure.run_bind, hrun]
  cases result with
  | ok u => exact ⟨htold, hcourse⟩
  | error stop =>
    -- what is said about the stop changes nothing
    have hsaid : Ensures (accountOf walk w').Describes
        (reportAbort storage walk stop.failure >>= fun _ =>
          (Procedure.fail stop.failure : Action σ Walk))
        (fun walk w => p.untold? storage = none ∧
          Course p.walk p.destination storage.id (.container p.depth none) [] [] a.afresh (.ok ())
            (accountOf walk w))
        (fun f w => (∃ line, (p.untold? storage = some line ∧ f = .value (.unwritable line)) ∧
            a.Describes w) ∨
          ∃ stop walk, stop.failure = f ∧ p.untold? storage = none ∧
            Course p.walk p.destination storage.id (.container p.depth none) [] [] a.afresh
              (.error stop) (accountOf walk w)) := by
      refine Ensures.bind (Account.Describes.talk (silent_reportAbort _ _ _)) fun _ => ?_
      refine Ensures.fail fun w hw => .inr ⟨stop, walk, rfl, htold, ?_⟩
      have heq : accountOf walk w = accountOf walk w' := by
        obtain ⟨hfiles, hother, hsteps⟩ := hw
        simp only [accountOf] at hfiles hother hsteps ⊢
        rw [hfiles, hother, hsteps]
      rw [heq]
      exact hcourse
    exact hsaid w' ⟨rfl, rfl, rfl⟩

/-- The walks of a run make its rounds. -/
lemma ensures_walkAll (p : Plan σ) (storages : List Storage) (a : Account σ) (n : Nat) :
    Ensures a.Describes (walkAll p a.budget ⟨a.statistics, n⟩ storages)
      (fun s w => ∃ a', Rounds p storages a (.ok ()) a' ∧
        s = ⟨a'.statistics, n + storages.length⟩ ∧ a'.Describes w)
      (fun f w => ∃ a', Rounds p storages a (.error f) a' ∧ a'.Describes w) := by
  induction storages generalizing a n with
  | nil => exact Ensures.pure fun w hw => ⟨a, .done, rfl, hw⟩
  | cons storage rest ih =>
    refine Ensures.bind ((ensures_walkStorage p storage a).failing_mono ?_) fun walk => ?_
    · rintro f w (⟨line, ⟨huntold, rfl⟩, hw⟩ | ⟨stop, walk, rfl, htold, hcourse⟩)
      · exact ⟨a, .untold huntold, hw⟩
      · exact ⟨_, .stopped htold hcourse, rfl, rfl, rfl⟩
    refine Ensures.at_state fun w ⟨htold, hcourse⟩ => ?_
    refine (ih ((accountOf walk w).since a) (n + 1)).mono ?_ ?_ ?_
    · rintro w' rfl
      exact ⟨rfl, rfl, rfl⟩
    · rintro s w' ⟨a', hrounds, rfl, hw'⟩
      refine ⟨a', .next htold hcourse hrounds, ?_, hw'⟩
      rw [List.length_cons, Nat.add_assoc, Nat.add_comm 1]
    · rintro f w' ⟨a', hrounds, hw'⟩
      exact ⟨a', .next htold hcourse hrounds, hw'⟩

/-! ## Runs -/

/-- Whether the destination is a directory, or why the run does not start. -/
def Plan.checked (p : Plan σ) (files : FileSystem) : Except Failure Unit :=
  match files.contains p.destination with
  | .error fault => .error (.ofPathFault p.destination fault)
  | .ok false => .error (.noDestination p.destination.text)
  | .ok true =>
    match files.isDirectory p.destination with
    | .error fault => .error (.ofPathFault p.destination fault)
    | .ok false => .error (.destinationNotDirectory p.destination.text)
    | .ok true => .ok ()

/-- The storages that a run walks, of those that the device has. -/
def Plan.chosen (p : Plan σ) (storages : List Storage) : List Storage :=
  match p.storages with
  | none => storages
  | some wanted => (choose storages wanted).1

/-- The numbers that are wanted and that no storage has. -/
def Plan.absent (p : Plan σ) (storages : List Storage) : List Int :=
  match p.storages with
  | none => []
  | some wanted => (choose storages wanted).2

/-- What a run starts from in a world. -/
def Plan.account (p : Plan σ) (w : World σ) : Account σ :=
  ⟨w.files, w.other, w.steps, {}, .ofThreshold p.maxFailures⟩

/-- Why the display of a run does not draw a description. -/
def Plan.undrawn? (p : Plan σ) (description : String) : Option String :=
  p.display.undrawn? p.showsActivity description

/-- What a run gives once its display had this description to draw in the end. -/
def Plan.closed {α : Type} (p : Plan σ) (description : String) (result : Except Failure α) :
    Except Failure α :=
  match p.undrawn? description with
  | some cause => .error (.undrawable cause)
  | none => result

lemma Plan.closed_of_drawn {α : Type} {p : Plan σ} {description : String}
    (h : p.undrawn? description = none) (result : Except Failure α) :
    p.closed description result = result := by
  rw [closed, h]

lemma Plan.closed_of_undrawn {α : Type} {p : Plan σ} {description cause : String}
    (h : p.undrawn? description = some cause) (result : Except Failure α) :
    p.closed description result = .error (.undrawable cause) := by
  rw [closed, h]

/-- The last description of a run that takes some steps, after others. -/
def descriptionAfter (before after : List (Standing × Step)) : String :=
  lastDescription (visits before).length (visits after)

/-- The ways in which a run ends, with the account that it leaves. -/
inductive Ends (p : Plan σ) (a : Account σ) : Except Failure RunStatistics → Account σ → Prop where
  /-- The destination is refused. -/
  | refused {f : Failure} (destination : p.checked a.files = .error f) : Ends p a (.error f) a
  /-- The storages cannot be listed. -/
  | unlisted {f : Failure} {w : World σ} (destination : p.checked a.files = .ok ())
    (answer : p.remote.listStorages a.other a.files = (.error f, w)) :
    Ends p a (.error f) (a.answered w)
  /-- A wanted number that no storage has cannot be written. -/
  | unwritten {storages : List Storage} {w : World σ} {id : Int} {fault : ValueFault}
    (destination : p.checked a.files = .ok ())
    (answer : p.remote.listStorages a.other a.files = (.ok storages, w))
    (absent : id ∈ p.absent storages) (text : storageText id = .error fault) :
    Ends p a (.error (.value fault)) ((a.answered w).forgotten p.walk)
  /-- The display cannot draw what it shows at first. -/
  | undrawn {storages : List Storage} {w : World σ} {cause : String}
    (destination : p.checked a.files = .ok ())
    (answer : p.remote.listStorages a.other a.files = (.ok storages, w))
    (absent : ∀ id ∈ p.absent storages, ∃ text, storageText id = .ok text)
    (first : p.undrawn? firstDescription = some cause) :
    Ends p a (.error (.undrawable cause)) ((a.answered w).forgotten p.walk)
  /-- The storages are walked. -/
  | walked {storages : List Storage} {w : World σ} {result : Except Failure Unit} {a' : Account σ}
    (destination : p.checked a.files = .ok ())
    (answer : p.remote.listStorages a.other a.files = (.ok storages, w))
    (absent : ∀ id ∈ p.absent storages, ∃ text, storageText id = .ok text)
    (rounds : Rounds p (p.chosen storages) ((a.answered w).forgotten p.walk) result a')
    (first : p.undrawn? firstDescription = none)
    (last : p.undrawn? (descriptionAfter a.steps a'.steps) = none) :
    Ends p a (result.map fun _ => ⟨a'.statistics, (p.chosen storages).length⟩) a'
  /-- The storages are walked, and the display cannot draw its last description. -/
  | veiled {storages : List Storage} {w : World σ} {result : Except Failure Unit} {a' : Account σ}
    {cause : String}
    (destination : p.checked a.files = .ok ())
    (answer : p.remote.listStorages a.other a.files = (.ok storages, w))
    (absent : ∀ id ∈ p.absent storages, ∃ text, storageText id = .ok text)
    (rounds : Rounds p (p.chosen storages) ((a.answered w).forgotten p.walk) result a')
    (first : p.undrawn? firstDescription = none)
    (last : p.undrawn? (descriptionAfter a.steps a'.steps) = some cause) :
    Ends p a (.error (.undrawable cause)) a'

/-- What depends on the files depends on those of the account. -/
lemma ensures_files {α : Type} {a : Account σ} {f : FileSystem → Action σ α}
    {after : α → World σ → Prop} {failing : Failure → World σ → Prop}
    (h : Ensures a.Describes (f a.files) after failing) :
    Ensures a.Describes (Action.files >>= f) after failing := by
  intro w hw
  have hrun := h w hw
  rw [← hw.1] at hrun
  exact hrun

lemma ensures_checkDestination (p : Plan σ) (a : Account σ) :
    Ensures a.Describes (checkDestination p)
      (fun _ w => p.checked a.files = .ok () ∧ a.Describes w)
      (fun f w => p.checked a.files = .error f ∧ a.Describes w) := by
  rw [checkDestination, Plan.checked]
  refine ensures_files ?_
  refine Ensures.bind (m := fun b w => a.files.contains p.destination = .ok b ∧ a.Describes w)
    ?_ fun isThere => Ensures.of_and fun hthere => ?_
  · refine Ensures.ofRequest (fun b hb w hw => ⟨hb, hw⟩) fun fault hfault w hw => ?_
    rw [hfault]
    exact ⟨rfl, hw⟩
  rw [hthere]
  cases isThere with
  | false => exact Ensures.bind (m := fun _ _ => False) (Ensures.require (by simp)
      fun _ w hw => ⟨rfl, hw⟩) fun _ w hw => hw.elim
  | true =>
    refine Ensures.bind (m := fun _ => a.Describes)
      (Ensures.require (fun _ w hw => hw) (by simp)) fun _ => ensures_files ?_
    refine Ensures.bind
      (m := fun b w => a.files.isDirectory p.destination = .ok b ∧ a.Describes w)
      ?_ fun isDirectory => Ensures.of_and fun hdirectory => ?_
    · refine Ensures.ofRequest (fun b hb w hw => ⟨hb, hw⟩) fun fault hfault w hw => ?_
      rw [hfault]
      exact ⟨rfl, hw⟩
    rw [hdirectory]
    cases isDirectory with
    | false => exact Ensures.require (by simp) fun _ w hw => ⟨rfl, hw⟩
    | true => exact Ensures.require (fun _ w hw => ⟨rfl, hw⟩) (by simp)

/-- The wanted numbers that no storage has are named, unless one cannot be written. -/
lemma ensures_nameAbsent (c : Console) (absent : List Int) (a : Account σ) :
    Ensures a.Describes
      (absent.forM fun id => do
        let text ← Procedure.ofChecked (storageText id)
        c.warning ("Storage " ++ text ++ " not found on device"))
      (fun _ w => (∀ id ∈ absent, ∃ text, storageText id = .ok text) ∧ a.Describes w)
      (fun f w => ∃ id fault, (id ∈ absent ∧ storageText id = .error fault ∧ f = .value fault) ∧
        a.Describes w) := by
  induction absent with
  | nil => exact Ensures.pure fun w hw => ⟨by simp, hw⟩
  | cons id rest ih =>
    refine Ensures.bind (m := fun _ w => (∃ text, storageText id = .ok text) ∧ a.Describes w)
      ?_ fun _ => Ensures.of_and fun htext => ?_
    · refine Ensures.bind
        (m := fun _ w => (∃ text, storageText id = .ok text) ∧ a.Describes w) ?_ fun _ => ?_
      · refine Ensures.ofChecked (fun text htext w hw => ⟨⟨text, htext⟩, hw⟩) ?_
        exact fun fault hfault w hw => ⟨id, fault, ⟨List.mem_cons_self, hfault, rfl⟩, hw⟩
      · refine Ensures.of_and fun htext => ?_
        exact (Account.Describes.talk (Walk.silent_warning _ _)).mono (fun w hw => hw)
          (fun _ w hw => ⟨htext, hw⟩) fun _ _ hw => hw
    · refine ih.mono (fun w hw => hw) ?_ ?_
      · rintro - w ⟨hrest, hw⟩
        refine ⟨fun i hi => ?_, hw⟩
        rcases List.mem_cons.mp hi with rfl | hi
        · exact htext
        · exact hrest i hi
      · rintro f w ⟨i, fault, ⟨hi, h⟩, hw⟩
        exact ⟨i, fault, ⟨List.mem_cons_of_mem id hi, h⟩, hw⟩

/-- The storages are asked for and chosen. -/
lemma ensures_chooseStorages (p : Plan σ) (a : Account σ) :
    Ensures a.Describes (chooseStorages p)
      (fun chosen w => ∃ storages v, (p.remote.listStorages a.other a.files = (.ok storages, v) ∧
        (∀ id ∈ p.absent storages, ∃ text, storageText id = .ok text) ∧
        chosen = p.chosen storages) ∧ ((a.answered v).forgotten p.walk).Describes w)
      (fun f w => (∃ v, p.remote.listStorages a.other a.files = (.error f, v) ∧
          (a.answered v).Describes w) ∨
        ∃ storages v id fault, (p.remote.listStorages a.other a.files = (.ok storages, v) ∧
          id ∈ p.absent storages ∧ storageText id = .error fault ∧ f = .value fault) ∧
          ((a.answered v).forgotten p.walk).Describes w) := by
  have hserve : Ensures a.Describes (Action.serve p.remote.listStorages)
      (fun storages w => ∃ v, p.remote.listStorages a.other a.files = (.ok storages, v) ∧
        (a.answered v).Describes w)
      (fun f w => ∃ v, p.remote.listStorages a.other a.files = (.error f, v) ∧
        (a.answered v).Describes w) := by
    rintro w ⟨hfiles, hother, hsteps⟩
    rcases hanswer : p.remote.listStorages a.other a.files with ⟨r, v⟩
    have hdescribes : (a.answered v).Describes
        { v with events := reported v.events ++ w.events } := by
      refine ⟨rfl, rfl, ?_⟩
      rw [Walk.Account.answered_steps, ← hsteps]
      simp [World.steps, filterMap_reported]
    rw [← hother, ← hfiles] at hanswer
    rw [Walk.run_serve hanswer]
    cases r with
    | ok storages => exact ⟨v, rfl, hdescribes⟩
    | error f => exact ⟨v, rfl, hdescribes⟩
  refine Ensures.bind (hserve.failing_mono fun f w hw => .inl hw) fun storages => ?_
  refine Ensures.of_exists fun v => Ensures.of_and fun hanswer => ?_
  refine Ensures.bind (m := fun _ => ((a.answered v).forgotten p.walk).Describes) ?_
    fun errors => ?_
  · rintro w ⟨hfiles, hother, hsteps⟩
    refine ⟨hfiles, ?_, hsteps⟩
    show p.remote.forgetErrors w.other = _
    rw [hother]
    rfl
  refine Ensures.bind (Account.Describes.talk (Silent.forM errors fun error _ =>
    Silent.bind (Walk.silent_log _ _ _) fun _ => Walk.silent_warning _ _)) fun _ => ?_
  rcases hwanted : p.storages with _ | wanted
  · refine Ensures.pure fun w hw => ⟨storages, v, ⟨hanswer, ?_, ?_⟩, hw⟩
    · simp [Plan.absent, hwanted]
    · simp [Plan.chosen, hwanted]
  · refine Ensures.bind ((ensures_nameAbsent p.console (choose storages wanted).2 _).failing_mono
      ?_) fun _ => ?_
    · rintro f w ⟨id, fault, h, hw⟩
      refine .inr ⟨storages, v, id, fault, ⟨hanswer, ?_⟩, hw⟩
      simpa [Plan.absent, hwanted] using h
    · refine Ensures.of_and fun habsent => Ensures.pure fun w hw => ?_
      refine ⟨storages, v, ⟨hanswer, ?_, ?_⟩, hw⟩
      · simpa [Plan.absent, hwanted] using habsent
      · simp [Plan.chosen, hwanted, choose]

lemma silent_print (c : Console) (text : String) :
    Silent worldView (c.print text : Action σ Unit) :=
  Silent.ite (Silent.pure _) (Walk.silent_record rfl)

lemma silent_summarize (c : Console) (s : RunStatistics) :
    Silent worldView (summarize c s : Action σ Unit) := by
  refine Silent.ite (Silent.pure _) (Silent.bind (silent_print c _) fun _ => ?_)
  refine Silent.bind (Walk.silent_info c _) fun _ => Silent.bind (Walk.silent_info c _) fun _ => ?_
  refine Silent.bind (Walk.silent_info c _) fun _ => ?_
  refine Silent.bind (Silent.forM_option _ fun _ => Walk.silent_info c _) fun _ => ?_
  refine Silent.bind (Silent.forM_option _ fun _ => Walk.silent_info c _) fun _ => ?_
  exact Silent.forM_option _ fun _ => Walk.silent_warning c _

lemma silent_write (text : String) : Silent worldView (Display.write text : Action σ Unit) :=
  Silent.ite (Silent.pure _) (Walk.silent_record rfl)

/-- What depends on the number of files looked at depends on the steps of the account. -/
lemma ensures_visits {α : Type} {a : Account σ} {f : List String → Action σ α}
    {after : α → World σ → Prop} {failing : Failure → World σ → Prop}
    (h : Ensures a.Describes (f (visits a.steps)) after failing) :
    Ensures a.Describes (Procedure.state >>= fun w => f w.visits) after failing := by
  intro w hw
  have hrun := h w hw
  rw [← hw.2.2, ← w.visits_eq] at hrun
  exact hrun

/-- Drawing a description changes nothing, whether it fails or not. -/
lemma ensures_draw (p : Plan σ) (description : String) (a : Account σ) :
    Ensures a.Describes (p.display.draw p.showsActivity description)
      (fun _ w => p.undrawn? description = none ∧ a.Describes w)
      (fun f w => ∃ cause, (p.undrawn? description = some cause ∧ f = .undrawable cause) ∧
        a.Describes w) := by
  intro w hw
  rw [Display.draw]
  rcases hdrawn : p.display.undrawn? p.showsActivity description with _ | cause
  · exact ⟨hdrawn, hw⟩
  · exact ⟨cause, ⟨hdrawn, rfl⟩, hw⟩

/-- The display disappears, unless it cannot draw its last description. -/
lemma ensures_hide (p : Plan σ) (before : List (Standing × Step)) (a : Account σ) :
    Ensures a.Describes (hide p (visits before).length)
      (fun _ w => p.undrawn? (descriptionAfter before a.steps) = none ∧ a.Describes w)
      (fun f w => ∃ cause, (p.undrawn? (descriptionAfter before a.steps) = some cause ∧
        f = .undrawable cause) ∧ a.Describes w) := by
  refine Ensures.bind (Account.Describes.talk (Walk.silent_record rfl)) fun _ => ?_
  refine ensures_visits (f := fun paths => do
    p.display.draw p.showsActivity (lastDescription (visits before).length paths)
    Display.write (p.display.closing p.showsActivity
      (lastDescription (visits before).length paths))) ?_
  refine Ensures.bind (ensures_draw p _ a) fun _ => Ensures.of_and fun hlast => ?_
  exact (Account.Describes.talk (silent_write _)).mono (fun _ hw => hw)
    (fun _ _ hw => ⟨hlast, hw⟩) fun _ _ hw => hw

/-- Without a step in between, the description is the first one. -/
@[simp] lemma descriptionAfter_self (steps : List (Standing × Step)) :
    descriptionAfter steps steps = firstDescription := by
  rw [descriptionAfter]
  cases visits steps with
  | nil => rfl
  | cons path earlier =>
    rw [lastDescription, if_neg (by simp)]

/-- How a run stands when its display disappears: it could not draw what it shows at first, or
the rounds were made. -/
inductive Shown (p : Plan σ) (storages : List Storage) (a : Account σ) :
    Except Failure RunStatistics → Account σ → Prop where
  /-- The display could not draw what it shows at first. -/
  | undrawn {cause : String} (first : p.undrawn? firstDescription = some cause) :
    Shown p storages a (.error (.undrawable cause)) a
  /-- The rounds were made. -/
  | made {result : Except Failure Unit} {a' : Account σ}
    (first : p.undrawn? firstDescription = none) (rounds : Rounds p storages a result a') :
    Shown p storages a (result.map fun _ => ⟨a'.statistics, storages.length⟩) a'

lemma ensures_showing (p : Plan σ) (storages : List Storage) (a : Account σ)
    (hcounted : a.statistics = {}) (hbudget : a.budget = .ofThreshold p.maxFailures) :
    Ensures a.Describes
      (showing p (walkAll p (.ofThreshold p.maxFailures) {} storages))
      (fun s w => ∃ a', Shown p storages a (.ok s) a' ∧ a'.Describes w)
      (fun f w => ∃ a', Shown p storages a (.error f) a' ∧ a'.Describes w) := by
  refine Ensures.bind ((ensures_draw p _ a).failing_mono ?_) fun _ => ?_
  · rintro f w ⟨cause, ⟨hfirst, rfl⟩, hw⟩
    exact ⟨a, .undrawn hfirst, hw⟩
  refine Ensures.of_and fun hfirst => ?_
  rw [← hbudget, show ({} : RunStatistics) = ⟨a.statistics, 0⟩ by rw [hcounted]]
  refine (ensures_walkAll p storages a 0).mono (fun _ hw => hw) ?_ ?_
  · rintro s w ⟨a', hrounds, rfl, hw⟩
    rw [Nat.zero_add]
    exact ⟨a', .made hfirst hrounds, hw⟩
  · rintro f w ⟨a', hrounds, hw⟩
    exact ⟨a', .made hfirst hrounds, hw⟩

/-- **Every run ends.**  With any remote tree and in any world, a run ends in one of the ways of
`Ends`, and what it leaves is what that says. -/
theorem run_start (p : Plan σ) (w : World σ) :
    ∃ result w' a', (start p).run w = (result, w') ∧ Ends p (p.account w) result a' ∧
      a'.Describes w' := by
  have hstart : Ensures (p.account w).Describes (start p)
      (fun s w' => ∃ a', Ends p (p.account w) (.ok s) a' ∧ a'.Describes w')
      (fun f w' => ∃ a', Ends p (p.account w) (.error f) a' ∧ a'.Describes w') := by
    refine Ensures.bind ((ensures_checkDestination p _).failing_mono ?_) fun _ => ?_
    · rintro f w' ⟨hchecked, hw⟩
      exact ⟨_, .refused hchecked, hw⟩
    refine Ensures.of_and fun hchecked => ?_
    refine Ensures.bind ((ensures_chooseStorages p _).failing_mono ?_) fun chosen => ?_
    · rintro f w' (⟨v, hanswer, hw⟩ |
        ⟨storages, v, id, fault, ⟨hanswer, habsent, htext, rfl⟩, hw⟩)
      · exact ⟨_, .unlisted hchecked hanswer, hw⟩
      · exact ⟨_, .unwritten hchecked hanswer habsent htext, hw⟩
    refine Ensures.of_exists fun storages => Ensures.of_exists fun v => Ensures.of_and ?_
    rintro ⟨hanswer, habsent, rfl⟩
    refine Ensures.bind (Account.Describes.talk (Walk.silent_record rfl)) fun _ => ?_
    refine Ensures.bind (Account.Describes.talk (silent_write _)) fun _ => ?_
    refine Ensures.bind (Account.Describes.talk (Walk.silent_record rfl)) fun _ => ?_
    refine ensures_visits (f := fun paths => do
      let statistics ← Procedure.ending (showing p (walkAll p (.ofThreshold p.maxFailures) {}
        (p.chosen storages))) (hide p paths.length)
      summarize p.console statistics
      return statistics) ?_
    refine Ensures.bind (m := fun s w' => ∃ a', Ends p (p.account w) (.ok s) a' ∧
      a'.Describes w') ?_ fun s => ?_
    · refine Ensures.ending (m := fun r w' => ∃ a', Shown p (p.chosen storages)
        (((p.account w).answered v).forgotten p.walk) r a' ∧ a'.Describes w') ?_ fun r => ?_
      · exact ensures_showing p (p.chosen storages) _ rfl rfl
      refine Ensures.of_exists fun a' => Ensures.of_and fun hshown => ?_
      have hhide := ensures_hide p (p.account w).steps a'
      cases hshown with
      | undrawn hfirst =>
        -- no file was looked at, so the display fails over the same description once more
        rw [Walk.Account.forgotten_steps, Walk.Account.answered_steps, descriptionAfter_self]
          at hhide
        refine hhide.mono (fun _ hw => hw) ?_ ?_
        · rintro - w' ⟨hlast, hw⟩
          rw [hfirst] at hlast
          cases hlast
        · rintro f w' ⟨_, ⟨hlast, rfl⟩, hw⟩
          exact ⟨_, .undrawn hchecked hanswer habsent hlast, hw⟩
      | @made result _ hfirst hrounds =>
        refine hhide.mono (fun _ hw => hw) ?_ ?_
        · rintro - w' ⟨hlast, hw⟩
          cases result with
          | ok u => exact ⟨a', .walked hchecked hanswer habsent hrounds hfirst hlast, hw⟩
          | error f => exact ⟨a', .walked hchecked hanswer habsent hrounds hfirst hlast, hw⟩
        · rintro f w' ⟨_, ⟨hlast, rfl⟩, hw⟩
          exact ⟨a', .veiled hchecked hanswer habsent hrounds hfirst hlast, hw⟩
    · refine Ensures.of_exists fun a' => Ensures.of_and fun hends => ?_
      refine Ensures.bind (Account.Describes.talk (silent_summarize _ _)) fun _ => ?_
      exact Ensures.pure fun w' hw => ⟨a', hends, hw⟩
  have hrun := hstart w ⟨rfl, rfl, rfl⟩
  rcases hout : (start p).run w with ⟨f | s, w'⟩
  · rw [hout] at hrun
    obtain ⟨a', hends, hw⟩ := hrun
    exact ⟨_, w', a', rfl, hends, hw⟩
  · rw [hout] at hrun
    obtain ⟨a', hends, hw⟩ := hrun
    exact ⟨_, w', a', rfl, hends, hw⟩

/-- The same for a run whose end is known. -/
theorem ends_of_run {p : Plan σ} {w w' : World σ} {result : Except Failure RunStatistics}
    (hrun : (start p).run w = (result, w')) :
    ∃ a', Ends p (p.account w) result a' ∧ a'.Describes w' := by
  obtain ⟨_, _, a', hrun', hends, hw⟩ := run_start p w
  rw [hrun] at hrun'
  cases hrun'
  exact ⟨a', hends, hw⟩

end Run

end Replica
