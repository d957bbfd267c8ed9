import Replica.Proofs.Course
/-!
# Every walk follows a course

The procedure of a walk is read rule by rule: each of its parts is given a triple that says where
the walk stands afterwards and with which account (`Stands`), and the triples are put together
along the text of the procedure.  Logs, warnings and messages change neither (`talk`).

The result is `follows_visit`: over every remote tree and from every state, a walk through a
container it is not inside of follows a `Course`, whether it ends or is stopped.  It is proved by
induction on the number of levels left; the containers that the walk is inside of are what the
check against cycles has kept apart, so each mark that is set is taken off again.
-/

namespace Replica

/-- The events that a service reports hold no steps of a walk. -/
lemma filterMap_reported (events : List Event) : (reported events).filterMap Event.step? = [] := by
  rw [List.filterMap_eq_nil_iff]
  intro e he
  have := (List.mem_filter.mp he).2
  cases e <;> simp_all [Event.isStep, Event.step?]

namespace Walk

variable {σ α : Type}

/-- The scene in which a walk stands at `above`, inside of `ids`, with this account. -/
def Stands (root : Path) (above : List String) (ids : List Int) (a : Account σ) (s : Scene σ) :
    Prop :=
  s.walk = ⟨⟨above⟩, ⟨root, above⟩, ids, a.statistics, a.budget⟩ ∧ s.world.files = a.files ∧
    s.world.other = a.other ∧ s.world.steps = a.steps

/-- The account of a scene. -/
def Scene.account (s : Scene σ) : Account σ :=
  ⟨s.world.files, s.world.other, s.world.steps, s.walk.statistics, s.walk.budget⟩

/-- A scene without what was said. -/
def Scene.view (s : Scene σ) : Walk × FileSystem × σ × List (Standing × Step) :=
  (s.walk, s.world.files, s.world.other, s.world.steps)

/-- A world without what was said. -/
def worldView (w : World σ) : FileSystem × σ × List (Standing × Step) :=
  (w.files, w.other, w.steps)

section Triples

open Procedure (Ensures Silent)

variable {p : Plan σ} {root : Path} {storage : Int} {above : List String} {ids : List Int}
  {child : Node} {a : Account σ}

lemma Stands.account {s : Scene σ} (h : Stands root above ids a s) : s.account = a := by
  obtain ⟨hwalk, hfiles, hother, hsteps⟩ := h
  simp [Scene.account, hwalk, hfiles, hother, hsteps]

lemma Stands.standing {s : Scene σ} (h : Stands root above ids a s) :
    s.walk.standing = spot above ids := by
  rw [Walk.standing, h.1]
  rfl

/-! ### Talk -/

lemma silent_record {e : Event} (h : Event.step? e = none) :
    Silent worldView (Action.record e : Action σ Unit) :=
  Silent.change fun w => by
    simp [worldView, World.add, World.steps, h]

lemma silent_log (level : Level) (origin : Origin) (text : String) :
    Silent worldView (Action.log level origin text : Action σ Unit) :=
  silent_record rfl

lemma silent_warning (c : Console) (text : String) :
    Silent worldView (c.warning text : Action σ Unit) :=
  silent_record rfl

lemma silent_error (c : Console) (text : String) :
    Silent worldView (c.error text : Action σ Unit) :=
  silent_record rfl

lemma silent_info (c : Console) (text : String) :
    Silent worldView (c.info text : Action σ Unit) :=
  Silent.ite (Silent.pure _) (silent_record rfl)

lemma silent_lift {action : Action σ α} (h : Silent worldView action) :
    Silent Scene.view (lift action) := by
  refine Silent.within h fun s w hw => ?_
  simp only [worldView, Prod.mk.injEq] at hw
  simp [Scene.view, hw]

lemma silent_warn (text : String) : Silent Scene.view (warn p text) :=
  Silent.bind (silent_lift (silent_log _ _ _)) fun _ =>
    Silent.forM_option _ fun c => silent_lift (silent_warning c _)

/-- Talk leaves a walk where it stands, with its account. -/
lemma talk {part : Part σ α} (h : Silent Scene.view part) {failing : Failure → Scene σ → Prop} :
    Ensures (Stands root above ids a) part (fun _ => Stands root above ids a) failing := by
  exact h.ensures (Q := fun v =>
    v.1 = ⟨⟨above⟩, ⟨root, above⟩, ids, a.statistics, a.budget⟩ ∧ v.2.1 = a.files ∧
      v.2.2.1 = a.other ∧ v.2.2.2 = a.steps)

/-! ### One step each -/

/-- What depends on where the walk stands depends on what is known of that. -/
lemma ensures_here {f : Walk → Part σ α} {after : α → Scene σ → Prop}
    {failing : Failure → Scene σ → Prop}
    (h : Ensures (Stands root above ids a)
      (f ⟨⟨above⟩, ⟨root, above⟩, ids, a.statistics, a.budget⟩) after failing) :
    Ensures (Stands root above ids a) (here >>= f) after failing := by
  intro s hs
  have hrun := h s hs
  rw [← hs.1] at hrun
  exact hrun

lemma ensures_record (what : Step) {failing : Failure → Scene σ → Prop} :
    Ensures (Stands root above ids a)
      (lift (Action.record (.step (spot above ids) what)))
      (fun _ => Stands root above ids (a.note (spot above ids) what)) failing := by
  rintro s ⟨hwalk, hfiles, hother, hsteps⟩
  refine ⟨hwalk, hfiles, hother, ?_⟩
  show World.steps (World.add s.world _) = _
  rw [Account.note_steps, ← hsteps]
  rfl

lemma ensures_step (what : Step) {failing : Failure → Scene σ → Prop} :
    Ensures (Stands root above ids a) (step what)
      (fun _ => Stands root above ids (a.note (spot above ids) what)) failing :=
  ensures_here (ensures_record what)

lemma ensures_count (f : Statistics → Statistics) {failing : Failure → Scene σ → Prop} :
    Ensures (Stands root above ids a) (count f) (fun _ => Stands root above ids (a.count f))
      failing := by
  refine Ensures.change fun s hs => ?_
  obtain ⟨hwalk, hfiles, hother, hsteps⟩ := hs
  exact ⟨by simp [hwalk], hfiles, hother, hsteps⟩

/-- What a service leaves, with the events that it reports added to those before. -/
lemma run_serve {service : Service σ α} {w v : World σ} {r : Except Failure α}
    (h : service w.other w.files = (r, v)) :
    (Action.serve service).run w = (r, { v with events := reported v.events ++ w.events }) := by
  simp [Procedure.run, Action.serve, h]

/-- A service answers, and leaves files and a state of the other side. -/
lemma ensures_serve (service : Service σ α) :
    Ensures (Stands root above ids a) (lift (Action.serve service))
      (fun r s => ∃ w, service a.other a.files = (.ok r, w) ∧
        Stands root above ids (a.answered w) s)
      (fun f s => ∃ w, service a.other a.files = (.error f, w) ∧
        Stands root above ids (a.answered w) s) := by
  rintro s ⟨hwalk, hfiles, hother, hsteps⟩
  rcases hanswer : service a.other a.files with ⟨r, w⟩
  have hrun : (lift (Action.serve service)).run s =
      (r, { s with world := { w with events := reported w.events ++ s.world.events } }) := by
    rw [← hother, ← hfiles] at hanswer
    rw [lift, Procedure.run_within, run_serve hanswer]
  have hstands : Stands root above ids (a.answered w)
      { s with world := { w with events := reported w.events ++ s.world.events } } := by
    refine ⟨hwalk, rfl, rfl, ?_⟩
    rw [Account.answered_steps, ← hsteps]
    simp [World.steps, filterMap_reported]
  rw [hrun]
  cases r with
  | ok r => exact ⟨w, rfl, hstands⟩
  | error f => exact ⟨w, rfl, hstands⟩

lemma ensures_takeErrors {failing : Failure → Scene σ → Prop} :
    Ensures (Stands root above ids a) (lift p.remote.takeErrors)
      (fun _ => Stands root above ids (a.forgotten p)) failing := by
  rintro s ⟨hwalk, hfiles, hother, hsteps⟩
  refine ⟨hwalk, hfiles, ?_, hsteps⟩
  show p.remote.forgetErrors s.world.other = _
  rw [hother]
  rfl

lemma ensures_reportErrors (context : String) {failing : Failure → Scene σ → Prop} :
    Ensures (Stands root above ids a) (reportErrors p context)
      (fun _ => Stands root above ids (a.forgotten p)) failing :=
  Ensures.bind ensures_takeErrors fun errors =>
    talk (Silent.forM errors fun _ _ => silent_warn _)

lemma ensures_checked (e : Except ValueFault α) :
    Ensures (Stands root above ids a) (lift (Procedure.ofChecked e))
      (fun r s => e = .ok r ∧ Stands root above ids a s)
      (fun f s => ∃ fault, e = .error fault ∧ f = .value fault ∧ Stands root above ids a s) := by
  intro s hs
  cases e with
  | ok r => exact ⟨rfl, hs⟩
  | error fault => exact ⟨fault, rfl, rfl, hs⟩

lemma ensures_nameText (name : Json) :
    Ensures (Stands root above ids a) (nameText name)
      (fun text s => name = .string text ∧ Stands root above ids a s)
      (fun f s => (∀ text, name ≠ .string text) ∧
        f = .value (LocalDirectory.nameFault ⟨root, above⟩ name) ∧ Stands root above ids a s) := by
  intro s hs
  have hplace : s.walk.place = ⟨root, above⟩ := by rw [hs.1]
  cases name
  case string text => exact ⟨rfl, hs⟩
  all_goals exact ⟨fun text h => (by cases h), by rw [hplace], hs⟩

/-! ### Moves -/

lemma ensures_checkAgreement {failing : Failure → Scene σ → Prop} :
    Ensures (Stands root above ids a) checkAgreement (fun _ => Stands root above ids a) failing :=
  ensures_here (by
    rw [if_pos (show Trail.path ⟨above⟩ = LocalDirectory.relative ⟨root, above⟩ from rfl)]
    exact Ensures.pure fun _ hs => hs)

/-- One step down, which fails where the directory is not made or not entered. -/
lemma ensures_goDown {name : String} (hseg : isSegment name = true) :
    Ensures (Stands root above ids a) (goDown name)
      (fun _ s => ∃ files, LocalDirectory.made ⟨root, above⟩ name a.files = .ok files ∧
        LocalDirectory.entered ⟨root, above⟩ name files = .ok ⟨root, above ++ [name]⟩ ∧
        Stands root (above ++ [name]) ids (a.withFiles files) s)
      (fun f s => LocalDirectory.made ⟨root, above⟩ name a.files = .error f ∧
          Stands root above ids a s ∨
        ∃ files, LocalDirectory.made ⟨root, above⟩ name a.files = .ok files ∧
          LocalDirectory.entered ⟨root, above⟩ name files = .error f ∧
          Stands root above ids (a.withFiles files) s) := by
  have hcreate : Ensures (Stands root above ids a)
      (lift (LocalDirectory.create ⟨root, above⟩ name))
      (fun _ s => ∃ files, LocalDirectory.made ⟨root, above⟩ name a.files = .ok files ∧
        Stands root above ids (a.withFiles files) s)
      (fun f s => LocalDirectory.made ⟨root, above⟩ name a.files = .error f ∧
        Stands root above ids a s) := by
    refine Ensures.within fun s hs => ?_
    obtain ⟨hwalk, hfiles, hother, hsteps⟩ := hs
    refine (LocalDirectory.ensures_create s.world).mono (fun _ hw => hw) ?_ ?_
    · rintro - w ⟨hmade, hw, hw'⟩
      exact ⟨w.files, hfiles ▸ hmade, hwalk, rfl, hw'.trans hother, hw.trans hsteps⟩
    · rintro f w ⟨hmade, rfl⟩
      exact ⟨hfiles ▸ hmade, hwalk, hfiles, hother, hsteps⟩
  refine ensures_here (Ensures.bind (hcreate.failing_mono fun _ _ h => Or.inl h) fun _ => ?_)
  refine Ensures.of_exists fun files => Ensures.of_and fun hmade => ensures_here ?_
  have henter : Ensures (Stands root above ids (a.withFiles files))
      (lift (LocalDirectory.enter ⟨root, above⟩ name))
      (fun d s => LocalDirectory.entered ⟨root, above⟩ name files = .ok d ∧
        Stands root above ids (a.withFiles files) s)
      (fun f s => LocalDirectory.entered ⟨root, above⟩ name files = .error f ∧
        Stands root above ids (a.withFiles files) s) := by
    intro s hs
    have hrun : (lift (LocalDirectory.enter ⟨root, above⟩ name)).run s =
        (LocalDirectory.entered ⟨root, above⟩ name s.world.files, s) := by
      rw [lift, Procedure.run_within, LocalDirectory.run_enter]
    rw [hrun, hs.2.1, Account.withFiles_files]
    rcases LocalDirectory.entered ⟨root, above⟩ name files with f | d
    · exact ⟨rfl, hs⟩
    · exact ⟨rfl, hs⟩
  refine Ensures.bind (henter.failing_mono fun _ _ h => Or.inr ⟨files, hmade, h⟩) fun d => ?_
  refine Ensures.of_and fun hentered => ?_
  obtain rfl := LocalDirectory.eq_of_entered hentered
  -- what is left only writes down where the walk stands now
  intro s hs
  obtain ⟨hwalk, hfiles, hother, hsteps⟩ := hs
  have hrun : ((change fun w : Walk => { w with place := ⟨root, above ++ [name]⟩ }) >>=
      fun _ => push name >>= fun _ => checkAgreement).run s =
      (.ok (), { s with walk :=
        ⟨⟨above ++ [name]⟩, ⟨root, above ++ [name]⟩, ids, a.statistics, a.budget⟩ }) := by
    obtain ⟨walk, world⟩ := s
    subst hwalk
    simp [change, push, checkAgreement, here, Procedure.run_bind, Trail.push, hseg,
      Trail.path, LocalDirectory.relative]
  rw [hrun]
  exact ⟨files, hmade, hentered, rfl, hfiles, hother, hsteps⟩

/-- One step up, which fails where the directory is gone. -/
lemma ensures_goUp {name : String} :
    Ensures (Stands root (above ++ [name]) ids a) goUp
      (fun _ s => LocalDirectory.left ⟨root, above ++ [name]⟩ a.files = .ok ⟨root, above⟩ ∧
        Stands root above ids a s)
      (fun f s => LocalDirectory.left ⟨root, above ++ [name]⟩ a.files = .error f ∧
        s.account = a ∧ s.walk.standing = ⟨above, above ++ [name], ids⟩) := by
  rintro ⟨walk, world⟩ ⟨rfl, hfiles, hother, hsteps⟩
  have hleave : (lift (LocalDirectory.leave ⟨root, above ++ [name]⟩)).run
      (⟨⟨⟨above⟩, ⟨root, above ++ [name]⟩, ids, a.statistics, a.budget⟩, world⟩ : Scene σ) =
      (LocalDirectory.left ⟨root, above ++ [name]⟩ a.files,
        ⟨⟨⟨above⟩, ⟨root, above ++ [name]⟩, ids, a.statistics, a.budget⟩, world⟩) := by
    rw [lift, Procedure.run_within, LocalDirectory.run_leave]
    rw [show world.files = a.files from hfiles]
  have hpop : ({ segments := above ++ [name] } : Trail).pop = .ok (name, ⟨above⟩) := by
    simp [Trail.pop]
  simp only [goUp, pop]
  simp only [Procedure.run_bind, here, Procedure.run_state, Procedure.run_pure, hpop, change,
    Procedure.run_change, hleave]
  rcases hleft : LocalDirectory.left ⟨root, above ++ [name]⟩ a.files with f | d
  · refine ⟨rfl, ?_, rfl⟩
    dsimp only at hfiles hother hsteps
    show (⟨world.files, world.other, world.steps, a.statistics, a.budget⟩ : Account σ) = a
    rw [hfiles, hother, hsteps]
  · obtain rfl : d = ⟨root, above⟩ := by
      rw [LocalDirectory.eq_of_left hleft]
      simp
    simp only [checkAgreement, Procedure.run_bind, here,
      Procedure.run_state, Procedure.run_pure]
    rw [if_pos (show Trail.path ⟨above⟩ = LocalDirectory.relative ⟨root, above⟩ from rfl)]
    exact ⟨trivial, rfl, hfiles, hother, hsteps⟩

/-! ### Files -/

/-- How a file compares, or why that is not known. -/
lemma ensures_inspect (name : String) (declared : Json) :
    Ensures (Stands root above ids a)
      (lift (Comparison.inspect ⟨root, above⟩ name declared))
      (fun outcome s => (∃ size, LocalDirectory.inspected ⟨root, above⟩ name a.files = .ok size ∧
        outcome = Comparison.ofSizes size declared) ∧ Stands root above ids a s)
      (fun f s => LocalDirectory.inspected ⟨root, above⟩ name a.files = .error f ∧
        Stands root above ids a s) := by
  refine Ensures.within fun s hs => ?_
  obtain ⟨hwalk, hfiles, hother, hsteps⟩ := hs
  rintro w rfl
  rw [Comparison.inspect]
  rw [Procedure.run_bind, LocalDirectory.run_inspect, hfiles]
  rcases LocalDirectory.inspected ⟨root, above⟩ name a.files with f | size
  · exact ⟨rfl, hwalk, hfiles, hother, hsteps⟩
  · exact ⟨⟨size, rfl, rfl⟩, hwalk, hfiles, hother, hsteps⟩

/-- One more failure, which stops the run if there are too many. -/
lemma ensures_failTransfer (name : String) :
    Ensures (Stands root above ids a) (failTransfer p name)
      (fun _ s => a.missed.budget.exceeded = false ∧
        Stands root above ids (a.forgotten p).missed s)
      (fun f s => a.missed.budget.exceeded = true ∧
        f = .abort (.tooManyFailures (a.budget.failures + 1) a.budget.threshold) ∧
        Stands root above ids (a.forgotten p).missed s) := by
  refine Ensures.bind ensures_takeErrors fun errors => ensures_here ?_
  refine Ensures.bind (talk (silent_lift (silent_log _ _ _))) fun _ => ?_
  refine Ensures.bind (talk (Silent.forM_option _ fun c => silent_lift (silent_error c _)))
    fun _ => ?_
  refine Ensures.bind (ensures_count _) fun _ => ensures_here ?_
  rintro s ⟨hwalk, hfiles, hother, hsteps⟩
  obtain ⟨walk, world⟩ := s
  dsimp only at hwalk
  subst hwalk
  have hbudget : Budget.exceeded { a.budget with failures := a.budget.failures + 1 } =
    a.missed.budget.exceeded := rfl
  simp only [Procedure.run_bind, lift, Procedure.run_within, Budget.spend, Budget.check, Action.log,
    Action.record, Procedure.run_change, Procedure.run_pure, change, Account.count_budget,
    Account.forgotten_budget, hbudget]
  cases a.missed.budget.exceeded with
  | false => exact ⟨rfl, rfl, hfiles, hother, hsteps⟩
  | true => exact ⟨rfl, rfl, rfl, hfiles, hother, hsteps⟩

/-- A file that is due is asked for. -/
lemma ensures_transfer {name path size : String} :
    Ensures (Stands root above ids (a.compared above ids child))
      (transfer p child name path size)
      (fun _ s => ∃ w,
        (p.remote.fetch child (LocalDirectory.pathFor ⟨root, above⟩ name) a.other a.files =
            (.ok true, w) ∧
          Stands root above ids
            (((a.asked above ids child (LocalDirectory.pathFor ⟨root, above⟩ name) w).note
              (spot above ids) (.fetched true)).count
                fun c => { c with downloads := c.downloads + 1 }) s) ∨
        (p.remote.fetch child (LocalDirectory.pathFor ⟨root, above⟩ name) a.other a.files =
            (.ok false, w) ∧ a.missed.budget.exceeded = false ∧
          Stands root above ids
            (a.failed p above ids child (LocalDirectory.pathFor ⟨root, above⟩ name) w) s))
      (fun f s => ∃ w,
        (p.remote.fetch child (LocalDirectory.pathFor ⟨root, above⟩ name) a.other a.files =
            (.error f, w) ∧
          Stands root above ids
            (a.asked above ids child (LocalDirectory.pathFor ⟨root, above⟩ name) w) s) ∨
        (p.remote.fetch child (LocalDirectory.pathFor ⟨root, above⟩ name) a.other a.files =
            (.ok false, w) ∧ a.missed.budget.exceeded = true ∧
          f = .abort (.tooManyFailures (a.budget.failures + 1) a.budget.threshold) ∧
          Stands root above ids
            (a.failed p above ids child (LocalDirectory.pathFor ⟨root, above⟩ name) w) s)) := by
  rw [transfer]
  refine ensures_here (Ensures.bind (ensures_step _) fun _ => ?_)
  refine Ensures.bind ((ensures_serve _).failing_mono ?_) fun success => ?_
  · rintro f s ⟨w, hanswer, hs⟩
    exact ⟨w, .inl ⟨hanswer, hs⟩⟩
  refine Ensures.of_exists fun w => Ensures.of_and fun hanswer => ?_
  refine Ensures.bind (ensures_step _) fun _ => ?_
  cases success with
  | true =>
    refine Ensures.bind (ensures_count _) fun _ => ?_
    refine Ensures.mono (talk (Silent.forM_option _ fun c => silent_lift (silent_info c _)))
      (fun s hs => hs) (fun _ s hs => ⟨w, .inl ⟨hanswer, hs⟩⟩) fun _ _ hs => hs
  | false =>
    refine (ensures_failTransfer name).mono (fun s hs => hs) ?_ ?_
    · rintro - s ⟨hbudget, hs⟩
      exact ⟨w, .inr ⟨hanswer, hbudget, hs⟩⟩
    · rintro f s ⟨hbudget, hf, hs⟩
      exact ⟨w, .inr ⟨hanswer, hbudget, hf, hs⟩⟩

/-- A file with a usable name is a deed or a halt. -/
lemma ensures_bringUpToDate (husable : isUsableName child.name = .ok true)
    (hfile : child.isContainer = false) :
    Ensures (Stands root above ids a) (bringUpToDate p child)
      (fun _ s => ∃ a', Deed p root above ids child a a' ∧ Stands root above ids a' s)
      (fun f s => ∃ a', Halt p root above ids child a f a' ∧ Stands root above ids a' s) := by
  rw [bringUpToDate]
  refine ensures_here (Ensures.bind (ensures_count _) fun _ => ?_)
  refine Ensures.bind (ensures_step _) fun _ => ?_
  refine Ensures.bind ((ensures_checked _).failing_mono ?_) fun size => ?_
  · rintro f s ⟨fault, hfault, rfl, hs⟩
    exact ⟨_, .oversized husable hfile hfault, hs⟩
  refine Ensures.of_and fun hsize => ?_
  refine Ensures.bind (talk (silent_lift (silent_log _ _ _))) fun _ => ?_
  refine Ensures.bind ((ensures_nameText _).failing_mono ?_) fun name => ?_
  · rintro f s ⟨htext, rfl, hs⟩
    exact ⟨_, .unnamedFile husable hfile htext, hs⟩
  refine Ensures.of_and fun hname => ?_
  have hcalls : child.Calls name := by
    refine ⟨hname, ?_⟩
    rw [hname] at husable
    exact Except.ok.inj husable
  refine Ensures.bind (ensures_step _) fun _ => ensures_here ?_
  refine Ensures.bind ((ensures_inspect name _).failing_mono ?_) fun outcome => ?_
  · rintro f s ⟨hinspected, hs⟩
    exact ⟨_, .notInspected hcalls hfile hinspected, hs⟩
  refine Ensures.of_and fun ⟨localSize, hlocal, houtcome⟩ => ?_
  have hlooked : Looked p root above child a name (p.verdict child localSize) :=
    ⟨hfile, hcalls, ⟨size, hsize⟩, localSize, hlocal, rfl⟩
  subst houtcome
  by_cases hcopy : (!(Comparison.ofSizes localSize (.ofInt? child.declaredSize)).mustCopy) = true
  · rw [if_pos hcopy]
    rw [Plan.verdict, if_pos hcopy] at hlooked
    refine (ensures_count _).mono (fun s hs => hs) (fun _ s hs => ?_) fun _ _ hs => hs
    exact ⟨_, .skip hlooked, hs⟩
  rw [if_neg hcopy]
  by_cases habstract : (child.isAbstract && !p.includeAbstract) = true
  · rw [if_pos habstract]
    rw [Plan.verdict, if_neg hcopy, if_pos habstract] at hlooked
    refine Ensures.bind (ensures_count _) fun _ => ?_
    refine (talk (silent_lift (silent_log _ _ _))).mono (fun s hs => hs) (fun _ s hs => ?_)
      fun _ _ hs => hs
    exact ⟨_, .leaveOut hlooked, hs⟩
  · rw [if_neg habstract]
    rw [Plan.verdict, if_neg hcopy, if_neg habstract] at hlooked
    refine ensures_transfer.mono (fun s hs => hs) ?_ ?_
    · rintro - s ⟨w, ⟨hanswer, hs⟩ | ⟨hanswer, hbudget, hs⟩⟩
      · exact ⟨_, .fetch hlooked hanswer, hs⟩
      · exact ⟨_, .miss hlooked hanswer hbudget, hs⟩
    · rintro f s ⟨w, ⟨hanswer, hs⟩ | ⟨hanswer, hbudget, rfl, hs⟩⟩
      · exact ⟨_, .fetchFailed hlooked hanswer, hs⟩
      · exact ⟨_, .tooMany hlooked hanswer hbudget, hs⟩

/-! ### Folders and listings -/

/-- The part follows courses of the task, whether it ends or is stopped. -/
def Follows (p : Plan σ) (root : Path) (storage : Int) (task : Task) (above : List String)
    (ids : List Int) (part : Part σ Unit) : Prop :=
  ∀ a, Ensures (Stands root above ids a) part
    (fun _ s => ∃ a', Course p root storage task above ids a (.ok ()) a' ∧
      Stands root above ids a' s)
    (fun f s => Course p root storage task above ids a (.error ⟨f, s.walk.standing⟩) s.account)

lemma Stands.halted {levels : Nat} {a' : Account σ} {f : Failure} {s : Scene σ}
    (h : Halt p root above ids child (a.note (spot above ids) (.taken child)) f a')
    (hs : Stands root above ids a' s) :
    Course p root storage (.child levels child) above ids a (.error ⟨f, s.walk.standing⟩)
      s.account := by
  rw [hs.account, hs.standing]
  exact .halt h

/-- A folder is gone through, or the run stops at it or below it. -/
lemma ensures_goThrough {levels : Nat} {below : Int → Part σ Unit}
    (husable : isUsableName child.name = .ok true) (hfolder : child.isContainer = true)
    (hbelow : ∀ name, child.id ∉ ids →
      Follows p root storage (.container levels (some child.id)) (above ++ [name]) ids
        (below child.id)) :
    Ensures (Stands root above ids (a.note (spot above ids) (.taken child)))
      (goThrough below child)
      (fun _ s => ∃ a', Course p root storage (.child levels child) above ids a (.ok ()) a' ∧
        Stands root above ids a' s)
      (fun f s => Course p root storage (.child levels child) above ids a
        (.error ⟨f, s.walk.standing⟩) s.account) := by
  rw [goThrough]
  refine ensures_here ?_
  have hrequire : Ensures (Stands root above ids (a.note (spot above ids) (.taken child)))
      (Procedure.require (!ids.contains child.id)
        (.abort (.cycle child.id (Trail.path ⟨above⟩))))
      (fun _ s => child.id ∉ ids ∧
        Stands root above ids (a.note (spot above ids) (.taken child)) s)
      (fun f s => Course p root storage (.child levels child) above ids a
        (.error ⟨f, s.walk.standing⟩) s.account) := by
    refine Ensures.require (fun hno s hs => ⟨by simpa using hno, hs⟩) fun hyes s hs => ?_
    exact hs.halted (.cycle husable hfolder (by simpa using hyes))
  refine Ensures.bind hrequire fun _ => Ensures.of_and fun houtside => ?_
  refine Ensures.bind (talk (silent_lift (silent_log _ _ _))) fun _ => ?_
  refine Ensures.bind ((ensures_nameText _).failing_mono ?_) fun name => ?_
  · rintro f s ⟨htext, rfl, hs⟩
    exact hs.halted (.unnamedFolder husable hfolder htext houtside)
  refine Ensures.of_and fun hname => ?_
  have hcalls : child.Calls name := by
    refine ⟨hname, ?_⟩
    rw [hname] at husable
    exact Except.ok.inj husable
  refine Ensures.bind ((ensures_goDown hcalls.segment).failing_mono ?_) fun _ => ?_
  · rintro f s (⟨hmade, hs⟩ | ⟨files, hmade, hentered, hs⟩)
    · exact hs.halted (.notMade hcalls hfolder houtside hmade)
    · exact hs.halted (.notEntered hcalls hfolder houtside hmade hentered)
  refine Ensures.of_exists fun files => Ensures.of_and fun hmade => ?_
  refine Ensures.of_and fun hentered => ?_
  refine Ensures.bind (ensures_step _) fun _ => ?_
  refine Ensures.bind (ensures_count _) fun _ => ?_
  refine Ensures.bind ((hbelow name houtside _).failing_mono ?_) fun _ => ?_
  · intro f s hcourse
    exact .through hcalls hfolder houtside hmade hentered hcourse .stopped
  refine Ensures.of_exists fun a' => Ensures.of_and fun hcourse => ?_
  refine Ensures.bind (ensures_goUp.failing_mono ?_) fun _ => ?_
  · rintro f s ⟨hleft, haccount, hstanding⟩
    rw [haccount, hstanding]
    exact .through hcalls hfolder houtside hmade hentered hcourse (.lost hleft)
  refine Ensures.of_and fun hleft => ?_
  refine Ensures.bind (ensures_step _) fun _ => ensures_here ?_
  refine (talk (silent_lift (silent_log _ _ _))).mono (fun s hs => hs) (fun _ s hs => ?_)
    fun _ _ hs => hs
  exact ⟨_, .through hcalls hfolder houtside hmade hentered hcourse (.back hleft), hs⟩

lemma follows_takeUp {levels : Nat} {below : Int → Part σ Unit}
    (hbelow : ∀ name, child.id ∉ ids →
      Follows p root storage (.container levels (some child.id)) (above ++ [name]) ids
        (below child.id)) :
    Follows p root storage (.child levels child) above ids (takeUp p below child) := by
  intro a
  rw [takeUp]
  refine Ensures.bind (ensures_step _) fun _ => ?_
  refine Ensures.bind ((ensures_checked _).failing_mono ?_) fun usable => ?_
  · rintro f s ⟨fault, hfault, rfl, hs⟩
    exact hs.halted (.unreadable hfault)
  refine Ensures.of_and fun husable => ?_
  cases usable with
  | false =>
    rw [if_pos (by simp)]
    refine Ensures.bind (ensures_count _) fun _ => ensures_here ?_
    refine (talk (silent_warn _)).mono (fun s hs => hs) (fun _ s hs => ?_) fun _ _ hs => hs
    exact ⟨_, .deed (.passOver husable), hs⟩
  | true =>
    rw [if_neg (by simp)]
    by_cases hfolder : child.isContainer = true
    · rw [if_pos hfolder]
      exact ensures_goThrough husable hfolder hbelow
    · rw [if_neg hfolder]
      have hfile : child.isContainer = false := by simpa using hfolder
      refine (ensures_bringUpToDate husable hfile).mono (fun s hs => hs) ?_ ?_
      · rintro - s ⟨a', hdeed, hs⟩
        exact ⟨a', .deed hdeed, hs⟩
      · rintro f s ⟨a', hhalt, hs⟩
        exact hs.halted hhalt

/-- A listing is gone through from the front. -/
lemma follows_children {levels : Nat} {part : Node → Part σ Unit} (children : List Node)
    (h : ∀ child ∈ children, Follows p root storage (.child levels child) above ids (part child)) :
    Follows p root storage (.children levels children) above ids (children.forM part) := by
  induction children with
  | nil => exact fun a => Ensures.pure fun s hs => ⟨a, .done, hs⟩
  | cons child rest ih =>
    intro a
    refine Ensures.bind ((h child List.mem_cons_self a).failing_mono fun f s hcourse =>
      .stopped hcourse) fun _ => ?_
    refine Ensures.of_exists fun a₁ => Ensures.of_and fun hfirst => ?_
    refine (ih (fun c hc => h c (List.mem_cons_of_mem child hc)) a₁).mono (fun s hs => hs) ?_ ?_
    · rintro - s ⟨a', hothers, hs⟩
      exact ⟨a', .next hfirst hothers, hs⟩
    · exact fun f s hothers => .next hfirst hothers

lemma ensures_goInside {container : Option Int} (h : ∀ id ∈ container, id ∉ ids)
    {failing : Failure → Scene σ → Prop} :
    Ensures (Stands root above ids a) (container.forM goInside)
      (fun _ => Stands root above (inside container ids) a) failing := by
  cases container with
  | none => exact Ensures.pure fun s hs => hs
  | some id =>
    refine Ensures.change fun s hs => ⟨?_, hs.2⟩
    have hid : id ∉ ids := h id rfl
    simp [hs.1, inside, List.insert_of_not_mem hid]

lemma ensures_comeOut {container : Option Int} (h : ∀ id ∈ container, id ∉ ids)
    {failing : Failure → Scene σ → Prop} :
    Ensures (Stands root above (inside container ids) a) (container.forM comeOut)
      (fun _ => Stands root above ids a) failing := by
  cases container with
  | none => exact Ensures.pure fun s hs => hs
  | some id =>
    refine Ensures.change fun s hs => ⟨?_, hs.2⟩
    have hid : ids.filter (fun x => decide (x ≠ id)) = ids := by
      rw [List.filter_eq_self]
      intro x hx
      have hne : x ≠ id := fun heq => h id rfl (heq ▸ hx)
      simpa using hne
    simp only [hs.1, inside, Option.toList_some, List.singleton_append, List.filter_cons]
    simpa using hid

/-- **Every walk follows a course.**  From a container that the walk is not inside of, and with
any remote tree, it ends where it started or is stopped, and what it leaves is what a course
leaves. -/
theorem follows_visit (levels : Nat) :
    ∀ (container : Option Int) (above : List String) (ids : List Int),
      (∀ id ∈ container, id ∉ ids) →
      Follows p root storage (.container levels container) above ids
        (visit p storage levels container) := by
  induction levels with
  | zero =>
    intro container above ids _ a
    refine Ensures.fail fun s hs => ?_
    rw [hs.account, hs.standing]
    exact .tooDeep
  | succ levels ih =>
    intro container above ids hnew a
    rw [visit]
    refine Ensures.bind (ensures_goInside hnew) fun _ => ?_
    refine Ensures.bind (ensures_step _) fun _ => ?_
    refine Ensures.bind ((ensures_serve _).failing_mono ?_) fun children => ?_
    · rintro f s ⟨w, hanswer, hs⟩
      rw [hs.account, hs.standing]
      exact .unlisted hanswer
    refine Ensures.of_exists fun w => Ensures.of_and fun hanswer => ?_
    refine Ensures.bind (ensures_step _) fun _ => ensures_here ?_
    refine Ensures.bind (ensures_reportErrors _) fun _ => ?_
    have hchildren : Follows p root storage (.children levels children) above
        (inside container ids)
        (children.forM (takeUp p fun id => visit p storage levels (some id))) := by
      refine follows_children children fun child _ => follows_takeUp fun name houtside => ?_
      refine ih (some child.id) (above ++ [name]) (inside container ids) ?_
      rintro id ⟨rfl⟩
      exact houtside
    -- a walk stopped here stays inside of the container, one that ends comes out of it
    refine Ensures.bind ((hchildren _).failing_mono fun f s hcourse =>
      .listed hanswer hcourse) fun _ => ?_
    refine Ensures.of_exists fun a' => Ensures.of_and fun hcourse => ?_
    refine (ensures_comeOut hnew).mono (fun s hs => hs) (fun _ s hs => ?_) fun _ _ hs => hs
    exact ⟨a', .listed hanswer hcourse, hs⟩

end Triples

end Walk

end Replica
