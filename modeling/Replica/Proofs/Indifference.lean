import Replica.Proofs.Pairs
import Replica.Proofs.Tours
/-!
# Entries with unfit names

A name that is a text and no single component of a path is never used.  So an entry that has one
might as well not be there: the same run against the remote tree without all such entries asks the
same questions in the same order, ends in the same way and leaves the same files.

**Sifting.**  `Remote.sifted` is the remote tree whose listings lack these entries, with everything
else as it is: its state goes the same way, so that its answers depend on the same history.

**Questions.**  Whatever a run asks for or looks at is an entry that a listing gave and that is not
unfit (`Run.asked_of_run`).  This follows from the courses of its walks.

**Journals.**  `Sifts` relates the journals of the two runs.  The one of the first run has, in
addition, the turn of each unfit entry with the warning about it, and its listings and its summary
tell of them.  All other events are the same.

**Walks.**  The two walks stand at the same place and differ in the count of these entries only
(`Walk.Beside`).  Each part of a walk is paired with the same part of the other one; just the turn
of an unfit entry is paired with nothing at all (`Walk.paired_skip`).

**Runs.**  `Run.run_sifted` compares two whole runs, whatever the remote tree does.
-/

namespace Replica

open Procedure (Paired Alike)
open Replica.Action (Steady)

variable {σ α : Type}

/-! ## Sifting -/

/-- The name is a text, but no single component of a path. -/
def Node.isUnfit (n : Node) : Bool :=
  match n.name with
  | .string s => !isSegment s
  | .unwritable t => !isUnwritableSegment t
  | _ => false

/-- The entries that are not unfit. -/
def sift (nodes : List Node) : List Node := nodes.filter fun n => !n.isUnfit

/-- An entry that goes by a name is not unfit. -/
lemma Node.Calls.mem_sift {n : Node} {name : String} (h : n.Calls name) {nodes : List Node}
    (hn : n ∈ nodes) : n ∈ sift nodes :=
  List.mem_filter.mpr ⟨hn, by simp [isUnfit, h.text, h.segment]⟩

/-- The remote tree without the unfit entries in its listings. -/
def Remote.sifted (r : Remote σ) : Remote σ :=
  { r with
    listChildren := fun storage container other files =>
      ((r.listChildren storage container other files).1.map sift,
        (r.listChildren storage container other files).2) }

/-- The same walk through the sifted remote tree. -/
def Walk.Plan.sifted (p : Walk.Plan σ) : Walk.Plan σ := { p with remote := p.remote.sifted }

/-- The same run through the sifted remote tree. -/
def Run.Plan.sifted (p : Run.Plan σ) : Run.Plan σ := { p with remote := p.remote.sifted }

lemma Run.Plan.sifted_storages (p : Run.Plan σ) : p.sifted.storages = p.storages := rfl

/-- An unfit entry is left out. -/
lemma Node.isUsableName_of_isUnfit {n : Node} (h : n.isUnfit = true) :
    isUsableName n.name = .ok false := by
  rw [isUnfit] at h
  split at h
  next s hname =>
    rw [hname, isUsableName]
    exact congrArg Except.ok (by simpa using h)
  next t hname =>
    rw [hname, isUsableName]
    exact congrArg Except.ok (by simpa using h)
  next => cases h

/-! ## Questions -/

/-- The step asks for the children of one of these folders or of the top of a storage, or it looks
at one of these files or asks for it. -/
def Step.Concerns (given : List Node) : Step → Prop
  | .listing _ container => ∀ id ∈ container, ∃ n ∈ given, n.isContainer = true ∧ n.id = id
  | .compared n | .fetching n _ => n ∈ given
  | _ => True

lemma Step.Concerns.mono {given given' : List Node} {what : Step} (h : what.Concerns given)
    (hgiven : given ⊆ given') : what.Concerns given' := by
  cases what with
  | listing storage container =>
    intro id hid
    obtain ⟨n, hn, hfolder⟩ := h id hid
    exact ⟨n, hgiven hn, hfolder⟩
  | compared | fetching => exact hgiven h
  | _ => trivial

/-- Since the steps `base`, nothing was asked for but what is fit among these entries and those of
the listings given meanwhile. -/
def Asked (given : List Node) (base steps : List (Standing × Step)) : Prop :=
  ∃ new, steps = new ++ base ∧
    ∀ x ∈ new, x.2.Concerns (sift (given ++ (listings new).flatten))

namespace Asked

variable {given : List Node} {base middle steps : List (Standing × Step)} {standing : Standing}

lemma refl (given : List Node) (base : List (Standing × Step)) : Asked given base base :=
  ⟨[], rfl, nofun⟩

lemma trans (h : Asked given base middle) (h' : Asked given middle steps) :
    Asked given base steps := by
  obtain ⟨first, rfl, hfirst⟩ := h
  obtain ⟨later, rfl, hlater⟩ := h'
  refine ⟨later ++ first, (List.append_assoc ..).symm, List.forall_mem_append.mpr ⟨?_, ?_⟩⟩
  · refine fun x hx => (hlater x hx).mono (List.filter_subset _ fun n hn => ?_)
    simp only [listings_append, List.flatten_append, List.mem_append] at hn ⊢
    tauto
  · refine fun x hx => (hfirst x hx).mono (List.filter_subset _ fun n hn => ?_)
    simp only [listings_append, List.flatten_append, List.mem_append] at hn ⊢
    tauto

/-- One more step. -/
lemma note (h : Asked given base steps) (standing : Standing) (what : Step)
    (hwhat : what.Concerns (sift given)) :
    Asked given base ((standing, what) :: steps) :=
  h.trans ⟨[(standing, what)], rfl, List.forall_mem_singleton.mpr
    (hwhat.mono (List.filter_subset _ (List.subset_append_left _ _)))⟩

/-- What a listing gives may be asked for afterwards. -/
lemma listed {children : List Node}
    (h : Asked (given ++ children) ((standing, .listed children) :: base) steps) :
    Asked given base steps := by
  obtain ⟨new, rfl, hnew⟩ := h
  refine ⟨new ++ [(standing, .listed children)], by simp, List.forall_mem_append.mpr ⟨?_, ?_⟩⟩
  · refine fun x hx => (hnew x hx).mono (List.filter_subset _ fun n hn => ?_)
    simp only [listings_append, List.flatten_append, List.mem_append] at hn ⊢
    rcases hn with (hn | hn) | hn
    · exact .inl hn
    · exact .inr (.inr (by simpa [listings, Step.listed?] using hn))
    · exact .inr (.inl hn)
  · exact List.forall_mem_singleton.mpr trivial

end Asked

namespace Walk

variable {p : Plan σ} {root : Path} {storage : Int} {above : List String} {ids : List Int}
  {child : Node} {a a' : Account σ} {given : List Node}

/-- A file that goes by a name may be visited and looked at. -/
lemma asked_compared {name : String} (calls : child.Calls name) (hchild : child ∈ given)
    (standing : Standing) (path : String) (base : List (Standing × Step)) :
    Asked given base ((standing, .compared child) :: (standing, .visited path) :: base) :=
  ((Asked.refl given base).note standing (.visited path) trivial).note standing (.compared child)
    (calls.mem_sift hchild)

/-- It may be asked for afterwards. -/
lemma asked_fetching {name : String} (calls : child.Calls name) (hchild : child ∈ given)
    (standing : Standing) (path : String) (target : Path) (base : List (Standing × Step)) :
    Asked given base ((standing, .fetching child target) :: (standing, .compared child) ::
      (standing, .visited path) :: base) :=
  (asked_compared calls hchild standing path base).note standing (.fetching child target)
    (calls.mem_sift hchild)

lemma Deed.asked (h : Deed p root above ids child a a') (hchild : child ∈ given) :
    Asked given a.steps a'.steps := by
  cases h with
  | passOver => exact .refl given _
  | skip looked | leaveOut looked => exact asked_compared looked.calls hchild _ _ _
  | fetch looked | miss looked =>
    exact (asked_fetching looked.calls hchild _ _ _ _).note _ (.fetched _) trivial

lemma Halt.asked {f : Failure} (h : Halt p root above ids child a f a') (hchild : child ∈ given) :
    Asked given a.steps a'.steps := by
  cases h with
  | unreadable | cycle | unnamedFolder | notMade | notEntered => exact .refl given _
  | oversized | unnamedFile => exact (Asked.refl given _).note _ (.visited _) trivial
  | notInspected calls => exact asked_compared calls hchild _ _ _
  | fetchFailed looked => exact asked_fetching looked.calls hchild _ _ _ _
  | tooMany looked => exact (asked_fetching looked.calls hchild _ _ _ _).note _ (.fetched _) trivial

/-- What a task starts with are entries that were given. -/
def Task.From (given : List Node) : Task → Prop
  | .container _ c => ∀ id ∈ c, ∃ n ∈ sift given, n.isContainer = true ∧ n.id = id
  | .children _ nodes => nodes ⊆ given
  | .child _ n => n ∈ given

/-- **A walk asks for nothing that is unfit.** -/
lemma Course.asked {task : Task} {result : Except Stop Unit}
    (h : Course p root storage task above ids a result a') (htask : task.From given) :
    Asked given a.steps a'.steps := by
  induction h generalizing given with
  | tooDeep | done => exact .refl given _
  | @unlisted _ container =>
    exact (Asked.refl given _).note _ (.listing storage container) htask
  | @listed _ container above ids a children _ _ _ _ _ ih =>
    have hlisting := (Asked.refl given a.steps).note (spot above (inside container ids))
      (.listing storage container) htask
    exact hlisting.trans (ih (List.subset_append_right given children)).listed
  | next _ _ ih₁ ih₂ =>
    exact (ih₁ (htask List.mem_cons_self)).trans (ih₂ fun _ hn => htask (List.mem_cons_of_mem _ hn))
  | stopped _ ih => exact ih (htask List.mem_cons_self)
  | @deed _ child _ _ _ _ deed =>
    exact ((Asked.refl given _).note _ (.taken child) trivial).trans (deed.asked htask)
  | @halt _ child _ _ _ _ _ halt =>
    exact ((Asked.refl given _).note _ (.taken child) trivial).trans (halt.asked htask)
  | @through _ child name _ above ids a _ _ _ _ calls folder _ _ _ _ back ih =>
    have hinner : Asked given _ _ := ih (by
      rintro id ⟨rfl⟩
      exact ⟨child, calls.mem_sift htask, folder, rfl⟩)
    have htaken := (Asked.refl given a.steps).note (spot above ids) (.taken child) trivial
    have hentered := htaken.note (spot (above ++ [name]) ids) (.entered child.id name) trivial
    cases back with
    | back => exact (hentered.trans hinner).note _ (.left child.id name) trivial
    | lost | stopped => exact hentered.trans hinner

end Walk

namespace Run

open Walk (Account Course)

variable {p : Plan σ}

lemma Rounds.asked {storages : List Storage} {a a' : Account σ} {result : Except Failure Unit}
    (h : Rounds p storages a result a') : Asked [] a.steps a'.steps := by
  induction h with
  | done => exact .refl [] _
  | next _ walk _ ih => exact Asked.trans (walk.asked (by rintro id ⟨⟩)) ih
  | stopped _ walk => exact walk.asked (by rintro id ⟨⟩)
  | untold _ => exact .refl [] _

lemma asked_of_run {w w' : World σ} {result : Except Failure RunStatistics}
    (hrun : (start p).run w = (result, w')) : Asked [] w.steps w'.steps := by
  obtain ⟨a', hends, hdescribes⟩ := ends_of_run hrun
  rw [hdescribes.2.2]
  cases hends with
  | refused | unlisted | unwritten | undrawn => exact .refl [] _
  | walked _ _ _ rounds _ _ | veiled _ _ _ rounds _ _ => exact rounds.asked

end Run

/-! ## Journals -/

/-- The event may be in both journals: it is no listing, and no unfit entry has its turn. -/
def Event.isCommon : Event → Bool
  | .step _ (.listed _) => false
  | .step _ (.taken n) => !n.isUnfit
  | _ => true

/-- What is said about an entry that is left out. -/
def skipText (standing : Standing) (child : Node) : String :=
  "Skipping entry " ++ toString child.id ++ " with unusable name " ++ child.name.quotedText
    ++ " in '" ++ Trail.pathOf standing.segments ++ "'"

/-- The turn of an entry that is left out, the newest event first; `shown` says whether there is
somebody to read the warning. -/
def skipEvents (shown : Bool) (standing : Standing) (child : Node) : List Event :=
  (if shown then
    [.wrote .err (Console.plainText ("Warning: " ++ skipText standing child) ++ "\n")] else []) ++
    [.logged ⟨.warning, .walk, skipText standing child⟩, .step standing (.taken child)]

/-- What a summary says of that many entries that were left out. -/
def tallyEvents (n : Nat) : List Event :=
  (Run.counted n).toList.map fun text =>
    .wrote .out (Console.plainText ("  Skipped (unusable name): " ++ text) ++ "\n")

/-- The journals of two runs that start with the same one, the newest event first: the second one
is without the unfit entries. -/
inductive Sifts (start : List Event) : List Event → List Event → Prop where
  /-- Nothing has happened yet. -/
  | start : Sifts start start start
  /-- The same happens in both runs. -/
  | same {e : Event} {events events' : List Event} (common : e.isCommon = true)
    (past : Sifts start events events') : Sifts start (e :: events) (e :: events')
  /-- Both are given a listing, the second one without the unfit entries. -/
  | listed (standing : Standing) (children : List Node) {events events' : List Event}
    (past : Sifts start events events') :
    Sifts start (.step standing (.listed children) :: events)
      (.step standing (.listed (sift children)) :: events')
  /-- The first one leaves an unfit entry out. -/
  | skipped (shown : Bool) (standing : Standing) {child : Node} {events events' : List Event}
    (unfit : child.isUnfit = true) (past : Sifts start events events') :
    Sifts start (skipEvents shown standing child ++ events) events'
  /-- Both tell how many entries were left out. -/
  | tallied (n n' : Nat) {events events' : List Event} (past : Sifts start events events') :
    Sifts start (tallyEvents n ++ events) (tallyEvents n' ++ events')

namespace Sifts

variable {start events events' : List Event}

lemma goesAlong : GoesAlong (Sifts start) := by
  intro e events events' he h
  refine h.same ?_
  cases e with
  | step => cases he
  | _ => rfl

lemma skipEvents_calls (shown : Bool) (standing : Standing) (child : Node) :
    calls ((skipEvents shown standing child).filterMap Event.step?) = [] := by
  cases shown <;> rfl

lemma skipEvents_visits (shown : Bool) (standing : Standing) (child : Node) :
    (skipEvents shown standing child).filterMap Event.visited? = [] := by
  cases shown <;> rfl

lemma tallyEvents_steps (n : Nat) : (tallyEvents n).filterMap Event.step? = [] := by
  rw [tallyEvents]
  cases Run.counted n <;> rfl

lemma tallyEvents_visits (n : Nat) : (tallyEvents n).filterMap Event.visited? = [] := by
  rw [tallyEvents]
  cases Run.counted n <;> rfl

/-- The same files are looked at, in the same order. -/
lemma visits_eq (h : Sifts start events events') :
    events'.filterMap Event.visited? = events.filterMap Event.visited? := by
  induction h with
  | start => rfl
  | @same e _ _ _ _ ih => rw [List.filterMap_cons, List.filterMap_cons, ih]
  | listed _ _ _ ih => exact ih
  | skipped shown standing _ _ ih =>
    rw [List.filterMap_append, skipEvents_visits, List.nil_append, ih]
  | tallied n n' _ ih =>
    rw [List.filterMap_append, List.filterMap_append, tallyEvents_visits, tallyEvents_visits]
    exact ih

/-- **The same questions are asked**, in the same order. -/
lemma calls_eq (h : Sifts start events events') :
    calls (events'.filterMap Event.step?) = calls (events.filterMap Event.step?) := by
  induction h with
  | start => rfl
  | @same e _ _ _ _ ih =>
    cases he : e.step? with
    | none => rw [List.filterMap_cons_none he, List.filterMap_cons_none he, ih]
    | some x =>
      rw [List.filterMap_cons_some he, List.filterMap_cons_some he, calls_cons, calls_cons, ih]
  | listed _ _ _ ih => exact ih
  | skipped shown standing _ _ ih =>
    rw [List.filterMap_append, calls_append, skipEvents_calls, List.nil_append, ih]
  | tallied n n' _ ih =>
    rw [List.filterMap_append, List.filterMap_append, tallyEvents_steps, tallyEvents_steps]
    exact ih

end Sifts

/-! ## Walks -/

namespace Walk

/-- The walk with another count of entries that were left out. -/
def withInvalid (w : Walk) (n : Nat) : Walk :=
  { w with statistics := { w.statistics with invalid := n } }

lemma withInvalid_trail (w : Walk) (n : Nat) : (w.withInvalid n).trail = w.trail := rfl

/-- The second walk is where the first one is, and has counted the same but for the entries that
were left out. -/
structure Beside (start : List Event) (s s' : Scene σ) : Prop where
  walk : ∃ n, s'.walk = s.walk.withInvalid n
  world : World.Alongside (Sifts start) s.world s'.world

/-- The two parts do the same in walks that are beside each other. -/
abbrev Even (start : List Event) (part part' : Part σ α) : Prop :=
  Paired (Beside start) part part' Eq

section Parts

variable {start : List Event} {p : Plan σ}

lemma paired_lift {β : Type} {Q : α → β → Prop} {action : Action σ α} {action' : Action σ β}
    (h : Paired (World.Alongside (Sifts start)) action action' Q) :
    Paired (Beside start) (lift action) (lift action') Q :=
  h.within (fun _ _ hs => hs.world) fun _ _ _ _ hs hw => ⟨hs.walk, hw⟩

/-- What depends on the walk only depends on where it is and what it has counted. -/
lemma paired_here {β : Type} {Q : α → β → Prop} {f : Walk → Part σ α} {g : Walk → Part σ β}
    (h : ∀ w n, Paired (Beside start) (f w) (g (w.withInvalid n)) Q) :
    Paired (Beside start) (here >>= f) (here >>= g) Q := by
  intro s s' hs
  obtain ⟨n, hn⟩ := hs.walk
  have hrun : (here >>= g).run s' = (g (s.walk.withInvalid n)).run s' := by
    rw [← hn]
    rfl
  rw [hrun]
  exact h s.walk n s s' hs

lemma even_change {f : Walk → Walk}
    (h : ∀ w n, ∃ n', f (w.withInvalid n) = (f w).withInvalid n') :
    Even start (change f : Part σ Unit) (change f) :=
  Paired.change fun s _ hs => by
    obtain ⟨n, hn⟩ := hs.walk
    obtain ⟨n', hn'⟩ := h s.walk n
    exact ⟨⟨n', (congrArg f hn).trans hn'⟩, hs.world⟩

lemma even_step (what : Step) (h : ∀ standing, (Event.step standing what).isCommon = true) :
    Even start (step what : Part σ Unit) (step what) :=
  paired_here fun _ _ => paired_lift (paired_record fun hpast => hpast.same (h _))

lemma even_stop (fault : TrailFault) : Even start (stop fault : Part σ α) (stop fault) :=
  Paired.fail _

lemma even_log (level : Level) (origin : Origin) (text : String) :
    Even start (lift (Action.log level origin text) : Part σ Unit)
      (lift (Action.log level origin text)) :=
  paired_lift (steady_log Sifts.goesAlong _ _ _)

/-! ### Reports and moves -/

lemma even_warn (text : String) : Even start (warn p text) (warn p.sifted text) :=
  (even_log _ _ _).then fun _ => Paired.forM_option _ fun _ =>
    paired_lift (Console.steady_writeLine Sifts.goesAlong _ _)

lemma even_reportErrors (context : String) :
    Even start (reportErrors p context) (reportErrors p.sifted context) :=
  (paired_lift (steady_takeErrors p.remote)).then fun _ => Paired.forM _ fun _ => even_warn _

lemma even_checkAgreement : Even start (checkAgreement : Part σ Unit) checkAgreement :=
  paired_here fun _ _ => Paired.ite (Paired.pure rfl) (even_stop _)

lemma even_nameText (name : Json) : Even start (nameText name : Part σ String) (nameText name) := by
  refine paired_here fun _ _ => ?_
  cases name with
  | string text => exact Paired.pure rfl
  | _ => exact Paired.fail _

lemma even_push (name : String) : Even start (push name : Part σ Unit) (push name) := by
  refine paired_here fun w n => ?_
  rw [withInvalid_trail]
  cases w.trail.push name with
  | ok trail => exact even_change fun _ n => ⟨n, rfl⟩
  | error fault => exact even_stop fault

lemma even_pop : Even start (pop : Part σ Unit) pop := by
  refine paired_here fun w n => ?_
  rw [withInvalid_trail]
  cases w.trail.pop with
  | ok trail => exact even_change fun _ n => ⟨n, rfl⟩
  | error fault => exact even_stop fault

lemma even_goDown (name : String) : Even start (goDown name : Part σ Unit) (goDown name) := by
  refine paired_here fun w _ => ?_
  refine (paired_lift (LocalDirectory.steady_create Sifts.goesAlong w.place name)).then fun _ => ?_
  refine paired_here fun w _ => (paired_lift (w.place.steady_enter name)).then fun place => ?_
  refine (even_change fun _ n => ⟨n, rfl⟩).then fun _ => ?_
  exact (even_push name).then fun _ => even_checkAgreement

lemma even_goUp : Even start (goUp : Part σ Unit) goUp := by
  refine even_pop.then fun _ => ?_
  refine paired_here fun w _ => (paired_lift w.place.steady_leave).then fun place => ?_
  exact (even_change fun _ n => ⟨n, rfl⟩).then fun _ => even_checkAgreement

/-! ### Folders and files -/

lemma even_goThrough (folder : Node) {below below' : Int → Part σ Unit}
    (hbelow : ∀ id, Even start (below id) (below' id)) :
    Even start (goThrough below folder) (goThrough below' folder) := by
  refine paired_here fun w _ => (Paired.require _ _).then fun _ => (even_log _ _ _).then fun _ => ?_
  refine (even_nameText _).then fun name => (even_goDown name).then fun _ => ?_
  refine (even_step (.entered folder.id name) fun _ => rfl).then fun _ => ?_
  refine (even_change fun _ n => ⟨n, rfl⟩).then fun _ => ?_
  refine (hbelow folder.id).then fun _ => even_goUp.then fun _ => ?_
  refine (even_step (.left folder.id name) fun _ => rfl).then fun _ => ?_
  exact paired_here fun _ _ => even_log _ _ _

lemma even_failTransfer (name : String) :
    Even start (failTransfer p name) (failTransfer p.sifted name) := by
  refine (paired_lift (steady_takeErrors p.remote)).then fun errors => ?_
  refine paired_here fun _ _ => (even_log _ _ _).then fun _ => ?_
  refine (Paired.forM_option _ fun _ =>
    paired_lift (Console.steady_writeLine Sifts.goesAlong _ _)).then fun _ => ?_
  refine (even_change fun _ n => ⟨n, rfl⟩).then fun _ => ?_
  refine paired_here fun w _ => ?_
  refine (paired_lift (Budget.steady_spend Sifts.goesAlong w.budget)).then fun budget => ?_
  exact (even_change fun _ n => ⟨n, rfl⟩).then fun _ => paired_lift (Paired.require _ _)

lemma even_transfer (file : Node) (name path size : String) :
    Even start (transfer p file name path size) (transfer p.sifted file name path size) := by
  refine paired_here fun w _ => ?_
  refine (even_step (.fetching file (w.place.pathFor name)) fun _ => rfl).then fun _ => ?_
  refine (paired_lift (steady_serve Sifts.goesAlong _)).then fun success => ?_
  refine (even_step (.fetched success) fun _ => rfl).then fun _ => ?_
  refine Paired.ite ?_ (even_failTransfer name)
  refine (even_change fun _ n => ⟨n, rfl⟩).then fun _ => ?_
  exact Paired.forM_option _ fun console =>
    paired_lift (Console.steady_info Sifts.goesAlong console _)

lemma even_bringUpToDate (file : Node) :
    Even start (bringUpToDate p file) (bringUpToDate p.sifted file) := by
  refine paired_here fun w _ => ?_
  refine (even_change fun _ n => ⟨n, rfl⟩).then fun _ => ?_
  refine (even_step (.visited _) fun _ => rfl).then fun _ => ?_
  refine (paired_lift (Paired.ofChecked _)).then fun size => ?_
  refine (even_log _ _ _).then fun _ => ?_
  refine (even_nameText _).then fun name => ?_
  refine (even_step (.compared file) fun _ => rfl).then fun _ => ?_
  refine paired_here fun w _ => ?_
  refine (paired_lift (Comparison.steady_inspect Sifts.goesAlong w.place name _)).then
    fun outcome => ?_
  refine Paired.ite (even_change fun _ n => ⟨n, rfl⟩) (Paired.ite ?_ (even_transfer file _ _ _))
  exact (even_change fun _ n => ⟨n, rfl⟩).then fun _ => even_log _ _ _

/-! ### Containers -/

lemma even_takeUp {child : Node} (hfit : child.isUnfit = false) {below below' : Int → Part σ Unit}
    (hbelow : ∀ id, Even start (below id) (below' id)) :
    Even start (takeUp p below child) (takeUp p.sifted below' child) := by
  have htaken : (!child.isUnfit) = true := by rw [hfit]; rfl
  refine (even_step (.taken child) fun _ => htaken).then fun _ => ?_
  refine (paired_lift (Paired.ofChecked _)).then fun usable => ?_
  refine Paired.ite ?_ (Paired.ite (even_goThrough child hbelow) (even_bringUpToDate child))
  refine (even_change fun _ n => ⟨n + 1, rfl⟩).then fun _ => ?_
  exact paired_here fun _ _ => even_warn _

/-- **The turn of an unfit entry is no turn at all** in the other run. -/
lemma paired_skip {child : Node} (hunfit : child.isUnfit = true) (below : Int → Part σ Unit) :
    Even start (takeUp p below child) (pure ()) := by
  intro s s' hs
  have hrun : (takeUp p below child).run s =
      (.ok (), ⟨s.walk.withInvalid (s.walk.statistics.invalid + 1),
        { s.world with
          events := skipEvents p.console.isSome s.walk.standing child ++ s.world.events }⟩) := by
    rw [takeUp, Node.isUsableName_of_isUnfit hunfit]
    cases hconsole : p.console with
    | none =>
      simp only [warn, hconsole]
      rfl
    | some console =>
      simp only [warn, hconsole]
      rfl
  rw [hrun]
  obtain ⟨⟨n, hn⟩, hfiles, hother, hevents⟩ := hs
  exact ⟨.ok rfl, ⟨n, hn⟩, hfiles, hother, hevents.skipped _ _ hunfit⟩

/-- The entries of a listing take their turns, and the unfit ones are missing from the second. -/
lemma even_children {below below' : Int → Part σ Unit}
    (hbelow : ∀ id, Even start (below id) (below' id)) (children : List Node) :
    Even start (children.forM (takeUp p below))
      ((sift children).forM (takeUp p.sifted below')) := by
  induction children with
  | nil => exact Paired.pure rfl
  | cons child rest ih =>
    rcases hfit : child.isUnfit with _ | _
    · have hkept : sift (child :: rest) = child :: sift rest :=
        List.filter_cons_of_pos (by rw [hfit]; rfl)
      rw [hkept]
      exact (even_takeUp hfit hbelow).then fun _ => ih
    · have hdropped : sift (child :: rest) = sift rest :=
        List.filter_cons_of_neg (by rw [hfit]; exact Bool.false_ne_true)
      rw [hdropped]
      exact (paired_skip hfit below).then fun _ => ih

/-- **A container is gone through in the same way**, with everything below it. -/
lemma even_visit (storage : Int) (depth : Nat) (container : Option Int) :
    Even start (visit p storage depth container) (visit p.sifted storage depth container) := by
  induction depth generalizing container with
  | zero => exact Paired.fail _
  | succ depth ih =>
    have hanswer : ∀ other files, Alike (fun children children' => children' = sift children)
        (p.remote.listChildren storage container other files).1
        (p.sifted.remote.listChildren storage container other files).1 ∧
        (p.sifted.remote.listChildren storage container other files).2 =
          (p.remote.listChildren storage container other files).2 := by
      intro other files
      refine ⟨?_, rfl⟩
      show Alike _ _ ((p.remote.listChildren storage container other files).1.map sift)
      cases (p.remote.listChildren storage container other files).1 with
      | ok children => exact .ok rfl
      | error failure => exact .error failure
    refine (Paired.forM_option _ fun id => even_change fun _ n => ⟨n, rfl⟩).then fun _ => ?_
    refine (even_step (.listing storage container) fun _ => rfl).then fun _ => ?_
    refine (paired_lift (paired_serve Sifts.goesAlong hanswer)).bind ?_
    rintro children _ rfl
    have hlisted : Even start (step (.listed children) : Part σ Unit)
        (step (.listed (sift children))) :=
      paired_here fun _ _ => paired_lift (paired_record fun hpast => hpast.listed _ children)
    refine hlisted.then fun _ => ?_
    refine paired_here fun _ _ => (even_reportErrors _).then fun _ => ?_
    refine (even_children (fun id => ih (some id)) children).then fun _ => ?_
    exact Paired.forM_option _ fun id => even_change fun _ n => ⟨n, rfl⟩

/-! ### Whole walks -/

lemma even_expectTop (fault : String → TrailFault) :
    Even start (expectTop fault : Part σ Unit) (expectTop fault) :=
  paired_here fun _ _ => Paired.ite (Paired.pure rfl) (even_stop _)

lemma even_start (storage : Int) (container : Option Int) :
    Even start (Walk.start p storage container) (Walk.start p.sifted storage container) := by
  refine (even_expectTop _).then fun _ => (even_change fun _ n => ⟨n, rfl⟩).then fun _ => ?_
  refine (even_visit storage p.depth container).then fun _ => ?_
  exact even_checkAgreement.then fun _ => even_expectTop _

/-- **Two walks end in the same way and at the same place.** -/
lemma paired_perform (walk : Walk) (storage : Int) (container : Option Int) :
    Paired (World.Alongside (Sifts start)) (p.perform walk storage container)
      (p.sifted.perform walk storage container)
      fun x x' => x'.1 = x.1 ∧ ∃ n, x'.2 = x.2.withInvalid n := by
  intro w w' hw
  obtain ⟨hends, hwalk, hworld⟩ := even_start (p := p) storage container ⟨walk, w⟩ ⟨walk, w'⟩
    ⟨⟨walk.statistics.invalid, rfl⟩, hw⟩
  exact ⟨.ok ⟨hends.eq, hwalk⟩, hworld⟩

end Parts

end Walk

/-! ## Runs -/

namespace Run

/-- The statistics with another count of entries that were left out. -/
def withInvalid (s : RunStatistics) (n : Nat) : RunStatistics :=
  { s with total := { s.total with invalid := n } }

/-- The same statistics but for the entries that were left out. -/
def Similar (s s' : RunStatistics) : Prop := ∃ n, s' = withInvalid s n

section Runs

variable {start : List Event} {p : Plan σ}

lemma steady_checkDestination :
    Paired (World.Alongside (Sifts start)) (checkDestination p) (checkDestination p.sifted) Eq := by
  refine steady_files.then fun _ => (Paired.ofRequest _ _).then fun _ => ?_
  refine (Paired.require _ _).then fun _ => steady_files.then fun _ => ?_
  exact (Paired.ofRequest _ _).then fun _ => Paired.require _ _

lemma paired_chooseStorages :
    Paired (World.Alongside (Sifts start)) (chooseStorages p) (chooseStorages p.sifted) Eq := by
  refine (steady_serve Sifts.goesAlong p.remote.listStorages).then fun storages => ?_
  refine (steady_takeErrors p.remote).then fun errors => ?_
  refine (Paired.forM errors fun _ => (steady_log Sifts.goesAlong _ _ _).then fun _ =>
    Console.steady_writeLine Sifts.goesAlong _ _).then fun _ => ?_
  rw [Plan.sifted_storages]
  cases p.storages with
  | none => exact Paired.pure rfl
  | some wanted =>
    exact (Paired.forM _ fun _ => (Paired.ofChecked _).then fun _ =>
      Console.steady_writeLine Sifts.goesAlong _ _).then fun _ => Paired.pure rfl

lemma paired_walkStorage (budget : Budget) (storage : Storage) :
    Paired (World.Alongside (Sifts start)) (walkStorage p budget storage)
      (walkStorage p.sifted budget storage) fun walk walk' => ∃ n, walk' = walk.withInvalid n := by
  refine (Console.steady_infoValue Sifts.goesAlong p.console _).then fun _ => ?_
  refine (Walk.paired_perform (p := p.walk) _ _ _).bind ?_
  rintro ⟨result, walk⟩ ⟨result', walk'⟩ ⟨hresult, n, hwalk⟩
  obtain rfl : result' = result := hresult
  obtain rfl : walk' = walk.withInvalid n := hwalk
  cases result' with
  | ok u => exact Paired.pure ⟨n, rfl⟩
  | error failure =>
    refine Paired.then ?_ fun _ => Paired.fail failure
    cases failure with
    | abort condition => exact steady_log Sifts.goesAlong _ _ _
    | _ => exact Paired.pure rfl

lemma paired_walkAll (storages : List Storage) (budget : Budget) {s s' : RunStatistics}
    (hs : Similar s s') :
    Paired (World.Alongside (Sifts start)) (walkAll p budget s storages)
      (walkAll p.sifted budget s' storages) Similar := by
  induction storages generalizing budget s s' with
  | nil => exact Paired.pure hs
  | cons storage rest ih =>
    refine (paired_walkStorage budget storage).bind ?_
    rintro walk _ ⟨n, rfl⟩
    obtain ⟨m, rfl⟩ := hs
    exact ih walk.budget ⟨m + n, rfl⟩

/-- What the summaries say of the entries that were left out. -/
lemma paired_tally {c : Console} (hshown : ¬(c.quiet || c.json) = true) (n m : Nat) :
    Paired (World.Alongside (Sifts start))
      ((counted n).forM fun text =>
        (c.info ("  Skipped (unusable name): " ++ text) : Action σ Unit))
      ((counted m).forM fun text => c.info ("  Skipped (unusable name): " ++ text)) Eq := by
  intro w w' hw
  have hinfo : ∀ text, (c.info text : Action σ Unit) = Console.writeLine .out text :=
    fun _ => if_neg hshown
  have hrun : ∀ (k : Nat) (v : World σ), ((counted k).forM fun text =>
      (c.info ("  Skipped (unusable name): " ++ text) : Action σ Unit)).run v =
        (.ok (), { v with events := tallyEvents k ++ v.events }) := by
    intro k v
    rw [tallyEvents]
    cases counted k with
    | none => rfl
    | some text => exact congrArg (Procedure.run · v) (hinfo _)
  rw [hrun, hrun]
  exact ⟨.ok rfl, hw.files, hw.other, hw.events.tallied _ _⟩

/-- The summaries differ in the line about the entries that were left out. -/
lemma paired_summarize {c : Console} {s s' : RunStatistics} (hs : Similar s s') :
    Paired (World.Alongside (Sifts start)) (summarize c s : Action σ Unit) (summarize c s') Eq := by
  obtain ⟨m, rfl⟩ := hs
  rw [summarize, summarize]
  by_cases hsilent : (c.quiet || c.json) = true
  · rw [if_pos hsilent, if_pos hsilent]
    exact Paired.pure rfl
  rw [if_neg hsilent, if_neg hsilent]
  refine (Console.steady_print Sifts.goesAlong c _).then fun _ => ?_
  refine (Console.steady_info Sifts.goesAlong c _).then fun _ => ?_
  refine (Console.steady_info Sifts.goesAlong c _).then fun _ => ?_
  refine (Console.steady_info Sifts.goesAlong c _).then fun _ => ?_
  refine (Paired.forM_option _ fun _ => Console.steady_info Sifts.goesAlong c _).then fun _ => ?_
  refine (paired_tally hsilent _ _).then fun _ => ?_
  exact Paired.forM_option _ fun _ => Console.steady_writeLine Sifts.goesAlong _ _

/-- What depends on the files looked at is the same in both runs. -/
lemma paired_visits {β : Type} {Q : β → β → Prop} {f g : List String → Action σ β}
    (h : ∀ paths, Paired (World.Alongside (Sifts start)) (f paths) (g paths) Q) :
    Paired (World.Alongside (Sifts start)) (Procedure.state >>= fun w => f w.visits)
      (Procedure.state >>= fun w => g w.visits) Q := by
  intro w w' hw
  have hvisits : w'.visits = w.visits := hw.events.visits_eq
  have hrun : (Procedure.state >>= fun w => g w.visits).run w' = (g w.visits).run w' := by
    rw [← hvisits]
    rfl
  rw [hrun]
  exact h w.visits w w' hw

lemma steady_hide (before : Nat) :
    Paired (World.Alongside (Sifts start)) (hide p before) (hide p.sifted before) Eq := by
  refine (steady_record Sifts.goesAlong rfl).then fun _ => paired_visits (f := fun paths => do
    p.display.draw p.showsActivity (lastDescription before paths)
    Display.write (p.display.closing p.showsActivity (lastDescription before paths)))
    (g := fun paths => do
      p.display.draw p.showsActivity (lastDescription before paths)
      Display.write (p.display.closing p.showsActivity (lastDescription before paths)))
    fun paths => ?_
  exact (p.display.steady_draw _ _).then fun _ => Display.steady_write Sifts.goesAlong _

lemma paired_start :
    Paired (World.Alongside (Sifts start)) (Run.start p) (Run.start p.sifted) Similar := by
  refine steady_checkDestination.then fun _ => paired_chooseStorages.then fun storages => ?_
  refine (steady_record Sifts.goesAlong rfl).then fun _ => ?_
  refine (Display.steady_write Sifts.goesAlong _).then fun _ => ?_
  refine (steady_record Sifts.goesAlong rfl).then fun _ => paired_visits (f := fun paths => do
    let statistics ← Procedure.ending
      (showing p (walkAll p (.ofThreshold p.maxFailures) {} storages)) (hide p paths.length)
    summarize p.console statistics
    return statistics) (g := fun paths => do
    let statistics ← Procedure.ending
      (showing p.sifted (walkAll p.sifted (.ofThreshold p.maxFailures) {} storages))
      (hide p.sifted paths.length)
    summarize p.console statistics
    return statistics) fun paths => ?_
  refine (Paired.ending ((p.display.steady_draw _ _).then fun _ =>
    paired_walkAll storages _ ⟨0, rfl⟩) (steady_hide _)).bind fun s s' hs => ?_
  exact (paired_summarize hs).then fun _ => Paired.pure hs

end Runs

/-- **Unfit entries have no influence on a run.**  Take any run against any remote tree, whatever
happens to the files meanwhile, and the same run against the remote tree without the unfit entries.
Both end with the same failure, or with the same statistics but for the entries left out; they leave
the same files and the remote tree in the same state; and they ask it the same questions in the same
order.  Their journals differ in the turns of the unfit entries, with the warnings about them, and
in what listings and summary tell of them.  All that the first run asks for, the top of a storage
apart, and all that it looks at are entries of its listings that are not unfit. -/
theorem run_sifted (p : Plan σ) (w : World σ) :
    Alike Similar ((start p).run w).1 ((start p.sifted).run w).1 ∧
      ((start p.sifted).run w).2.files = ((start p).run w).2.files ∧
      ((start p.sifted).run w).2.other = ((start p).run w).2.other ∧
      Sifts w.events ((start p).run w).2.events ((start p.sifted).run w).2.events ∧
      calls ((start p.sifted).run w).2.steps = calls ((start p).run w).2.steps ∧
      Asked [] w.steps ((start p).run w).2.steps := by
  obtain ⟨hends, hfiles, hother, hevents⟩ := paired_start (p := p) w w ⟨rfl, rfl, .start⟩
  exact ⟨hends, hfiles, hother, hevents, hevents.calls_eq, asked_of_run rfl⟩

end Run

end Replica
