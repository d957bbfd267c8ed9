import Replica.Proofs.Confinement
import Replica.Proofs.Descent
import Replica.Proofs.Hierarchy
/-!
# Walks over any graph

A remote tree need not be a tree: a container may be listed in several others, or below itself.
The walk has no measure of its own then, but no container comes twice on the way down, so it ends
as soon as there are only finitely many of them.

* **Levels.**  The number of levels of a walk stands for the recursion limit.  Where the remote tree
  reports folders from a finite set only, more levels than the set has members make no difference
  (`Walk.agree_visit`), and no walk runs out of them (`Walk.Course.shallow`).
* **Cycles.**  A walk that ends has gone down every passage below the container that it started
  with, so there is no cycle among them (`Walk.Course.acc`).
* **Walks.**  `Walk.perform_guards` puts this together with the way down.
-/

namespace Replica

variable {σ : Type}

/-- The remote tree reports no other folders of a storage than those with these numbers. -/
def Remote.Reports (r : Remote σ) (storage : Int) (folders : Finset Int) : Prop :=
  ∀ container other files children w,
    r.listChildren storage container other files = (.ok children, w) →
      ∀ n ∈ children, n.isContainer = true → n.id ∈ folders

namespace Walk

open Procedure (Agree Ensures)
open Run (samplePlan sampleWorld sampleDevice)

variable {p : Plan σ} {root : Path} {storage : Int} {above : List String} {ids : List Int}
  {child : Node} {a a' : Account σ} {folders : Finset Int}

/-! ## Levels -/

/-- Going inside of a folder of the set leaves fewer folders for below. -/
lemma card_inside_lt {id : Int} (hid : id ∈ folders) (houtside : id ∉ ids) {n : Nat}
    (hroom : (folders \ ids.toFinset).card < n + 1) :
    (folders \ (inside (some id) ids).toFinset).card < n := by
  have hssubset : folders \ (inside (some id) ids).toFinset ⊂ folders \ ids.toFinset := by
    refine Finset.ssubset_iff.mpr ⟨id, by simp [inside], fun x hx => ?_⟩
    simp only [inside, Finset.mem_insert, Finset.mem_sdiff, List.mem_toFinset, Option.toList_some,
      List.singleton_append, List.mem_cons, not_or] at hx ⊢
    rcases hx with rfl | ⟨hx, -, hnot⟩
    · exact ⟨hid, houtside⟩
    · exact ⟨hx, hnot⟩
  have := Finset.card_lt_card hssubset
  omega

lemma agree_here {f g : Walk → Part σ Unit}
    (h : Agree (Stands root above ids a)
      (f ⟨⟨above⟩, ⟨root, above⟩, ids, a.statistics, a.budget⟩)
      (g ⟨⟨above⟩, ⟨root, above⟩, ids, a.statistics, a.budget⟩)) :
    Agree (Stands root above ids a) (here >>= f) (here >>= g) := by
  intro s hs
  have hrun := h s hs
  rw [← hs.1] at hrun
  exact hrun

/-- A folder is gone through in the same way if the same is done below it. -/
lemma agree_goThrough {below below' : Int → Part σ Unit}
    (husable : isUsableName child.name = .ok true)
    (hbelow : ∀ name a, child.id ∉ ids →
      Agree (Stands root (above ++ [name]) ids a) (below child.id) (below' child.id)) :
    Agree (Stands root above ids a) (goThrough below child) (goThrough below' child) := by
  refine agree_here ?_
  have hrequire : Ensures (Stands root above ids a)
      (Procedure.require (!ids.contains child.id) (.abort (.cycle child.id (Trail.path ⟨above⟩))))
      (fun _ s => child.id ∉ ids ∧ Stands root above ids a s) fun _ _ => True :=
    Ensures.require (fun hno s hs => ⟨by simpa using hno, hs⟩) fun _ _ _ => trivial
  refine Agree.bind (Agree.refl _ _) hrequire fun _ => Agree.of_and fun houtside => ?_
  refine Agree.bind (Agree.refl _ _) (talk (silent_lift (silent_log _ _ _))) fun _ => ?_
  refine Agree.bind (Agree.refl _ _) ((ensures_nameText _).failing_mono fun _ _ _ => trivial)
    fun name => Agree.of_and fun hname => ?_
  have hseg : isSegment name = true := by
    rw [hname] at husable
    exact Except.ok.inj husable
  refine Agree.bind (Agree.refl _ _) ((ensures_goDown hseg).failing_mono fun _ _ _ => trivial)
    fun _ => Agree.of_exists fun files => Agree.of_and fun _ => Agree.of_and fun _ => ?_
  refine Agree.bind (Agree.refl _ _) (ensures_step _) fun _ => ?_
  refine Agree.bind (Agree.refl _ _) (ensures_count _) fun _ => ?_
  exact Agree.then (hbelow name _ houtside) _

lemma agree_takeUp {below below' : Int → Part σ Unit}
    (hbelow : ∀ name a, child.isContainer = true → child.id ∉ ids →
      Agree (Stands root (above ++ [name]) ids a) (below child.id) (below' child.id)) :
    Agree (Stands root above ids a) (takeUp p below child) (takeUp p below' child) := by
  refine Agree.bind (Agree.refl _ _) (ensures_step _) fun _ => ?_
  refine Agree.bind (Agree.refl _ _) ((ensures_checked _).failing_mono fun _ _ _ => trivial)
    fun usable => Agree.of_and fun husable => ?_
  cases usable with
  | false => exact Agree.refl _ _
  | true =>
    by_cases hfolder : child.isContainer = true
    · simp only [hfolder, Bool.not_true, Bool.false_eq_true, if_false, if_true]
      exact agree_goThrough husable fun name a => hbelow name a hfolder
    · simp only [hfolder]
      exact Agree.refl _ _

lemma agree_children {levels : Nat} {part part' : Node → Part σ Unit} (children : List Node)
    (hagree : ∀ child ∈ children, ∀ a, Agree (Stands root above ids a) (part child) (part' child))
    (hfollows : ∀ child ∈ children,
      Follows p root storage (.child levels child) above ids (part child)) (a : Account σ) :
    Agree (Stands root above ids a) (children.forM part) (children.forM part') := by
  induction children generalizing a with
  | nil => exact Agree.refl _ _
  | cons child rest ih =>
    refine Agree.bind (hagree child List.mem_cons_self a)
      ((hfollows child List.mem_cons_self a).failing_mono fun _ _ _ => trivial) fun _ => ?_
    refine Agree.of_exists fun a' => Agree.of_and fun _ => ?_
    exact ih (fun c hc => hagree c (List.mem_cons_of_mem _ hc))
      (fun c hc => hfollows c (List.mem_cons_of_mem _ hc)) a'

/-- **More levels make no difference** than there are folders that the walk is not inside of. -/
theorem agree_visit (hreports : p.remote.Reports storage folders) (m : Nat) :
    ∀ (n : Nat) (container : Option Int) (above : List String) (ids : List Int) (a : Account σ),
      (∀ id ∈ container, id ∉ ids) → (folders \ (inside container ids).toFinset).card < m →
        (folders \ (inside container ids).toFinset).card < n →
          Agree (Stands root above ids a) (visit p storage m container)
            (visit p storage n container) := by
  induction m with
  | zero => exact fun _ _ _ _ _ _ hm => absurd hm (Nat.not_lt_zero _)
  | succ m ih =>
    intro n container above ids a hnew hm hn
    obtain ⟨n, rfl⟩ : ∃ n', n = n' + 1 := ⟨n - 1, by omega⟩
    rw [visit, visit]
    refine Agree.bind (Agree.refl _ _) (ensures_goInside hnew) fun _ => ?_
    refine Agree.bind (Agree.refl _ _) (ensures_step _) fun _ => ?_
    refine Agree.bind (Agree.refl _ _) ((ensures_serve _).failing_mono fun _ _ _ => trivial)
      fun children => Agree.of_exists fun w => Agree.of_and fun hanswer => ?_
    refine Agree.bind (Agree.refl _ _) (ensures_step _) fun _ => agree_here ?_
    refine Agree.bind (Agree.refl _ _) (ensures_reportErrors _) fun _ => Agree.then ?_ _
    have hfollows : ∀ child ∈ children, Follows p root storage (.child m child) above
        (inside container ids) (takeUp p (fun id => visit p storage m (some id)) child) := by
      refine fun child _ => follows_takeUp fun name houtside => follows_visit m _ _ _ ?_
      rintro id ⟨rfl⟩
      exact houtside
    refine agree_children children (fun child hchild a => ?_) hfollows _
    refine agree_takeUp fun name a hfolder houtside => ?_
    have hid := hreports _ _ _ _ _ hanswer child hchild hfolder
    refine ih n (some child.id) (above ++ [name]) _ a ?_ (card_inside_lt hid houtside hm)
      (card_inside_lt hid houtside hn)
    rintro id ⟨rfl⟩
    exact houtside

/-- The number of folders that a walk may still go inside of before it runs out of levels. -/
def Task.room : Task → Nat
  | .container levels _ => levels
  | .children levels _ | .child levels _ => levels + 1

/-- **No walk runs out of levels** where there are more of them than folders, unless the remote tree
says so. -/
theorem Course.shallow (hreports : p.remote.Reports storage folders) {task : Task}
    {result : Except Stop Unit} {stop : Stop}
    (hc : Course p root storage task above ids a result a')
    (hroom : (folders \ (task.within ids).toFinset).card < task.room)
    (hnodes : ∀ n ∈ task.nodes, n.isContainer = true → n.id ∈ folders)
    (hresult : result = .error stop) (hdeep : stop.failure = .tooDeep) :
    p.remote.Raises .tooDeep := by
  induction hc with
  | tooDeep => exact absurd hroom (Nat.not_lt_zero _)
  | unlisted answer =>
    cases hresult
    cases hdeep
    exact .children answer
  | listed answer _ ih => exact ih hroom (hreports _ _ _ _ _ answer) hresult
  | done => cases hresult
  | next _ _ _ ih => exact ih hroom (fun n hn => hnodes n (List.mem_cons_of_mem _ hn)) hresult
  | stopped _ ih =>
    refine ih hroom (fun n hn => hnodes n ?_) hresult
    rw [List.mem_singleton.mp hn]
    exact List.mem_cons_self
  | deed _ => cases hresult
  | halt hh =>
    cases hresult
    have hrefuses : ∀ {files path f}, f = .tooDeep →
        LocalDirectory.Refuses files path f → False := by
      rintro files path f rfl h
      cases h
    cases hh with
    | unreadable _ | cycle _ _ _ | unnamedFolder _ _ _ | oversized _ _ _ | unnamedFile _ _ _
    | tooMany _ _ _ => cases hdeep
    | notMade _ _ _ h => exact (hrefuses hdeep (LocalDirectory.refuses_of_made h)).elim
    | notEntered _ _ _ _ h => exact (hrefuses hdeep (LocalDirectory.refuses_of_entered h)).elim
    | notInspected _ _ h => exact (hrefuses hdeep (LocalDirectory.refuses_of_inspected h)).elim
    | fetchFailed _ answer =>
      cases hdeep
      exact .fetch answer
  | through _ hfolder houtside _ _ _ hback ih =>
    cases hback with
    | back _ => cases hresult
    | lost hleft =>
      cases hresult
      cases hdeep
      cases LocalDirectory.refuses_of_left hleft
    | stopped =>
      exact ih (card_inside_lt (hnodes _ List.mem_cons_self hfolder) houtside hroom)
        (by simp [Task.nodes]) hresult

/-! ## Cycles -/

/-- From the container `c` a walk goes on to `d`: that is listed in `c` as a folder with a usable
name. -/
def Passage (listing : Option Int → List Node) (c d : Option Int) : Prop :=
  ∃ n ∈ listing c, n.isContainer = true ∧ isUsableName n.name = .ok true ∧ d = some n.id

/-- The containers that a task goes through at its top. -/
def Task.Enters : Task → Option Int → Prop
  | .container _ c, d => d = c
  | task, d => ∃ n ∈ task.nodes, n.isContainer = true ∧ isUsableName n.name = .ok true ∧
    d = some n.id

/-- **Below a walk that ends there is no endless way down.** -/
theorem Course.acc {listing : Option Int → List Node}
    (hlisting : ∀ c other files, (p.remote.listChildren storage c other files).1 = .ok (listing c))
    {task : Task} (hc : Course p root storage task above ids a (.ok ()) a') :
    ∀ c, task.Enters c → Acc (fun d c => Passage listing c d) c := by
  induction hc using Course.induction_ok with
  | @listed levels container above ids a a' children w answer _ ih =>
    rintro c rfl
    have hchildren := hlisting c a.other a.files
    rw [answer] at hchildren
    cases hchildren
    exact Acc.intro _ fun d hd => ih d hd
  | done =>
    rintro c ⟨n, hn, -⟩
    cases hn
  | next _ _ ih₁ ih₂ =>
    rintro c ⟨n, hn, hpassage⟩
    rcases List.mem_cons.mp hn with rfl | hn
    · exact ih₁ c ⟨n, List.mem_cons_self, hpassage⟩
    · exact ih₂ c ⟨n, hn, hpassage⟩
  | deed hd =>
    rintro c ⟨n, hn, hfolder, husable, -⟩
    obtain rfl := List.mem_singleton.mp hn
    exact (hd.not_folder ⟨husable, hfolder⟩).elim
  | through _ _ _ _ _ _ _ ih =>
    rintro c ⟨n, hn, -, -, rfl⟩
    obtain rfl := List.mem_singleton.mp hn
    exact ih _ rfl

/-- Where no way down is endless there is no cycle. -/
lemma not_transGen_of_acc {listing : Option Int → List Node} {c : Option Int}
    (h : Acc (fun d c => Passage listing c d) c) : ¬Relation.TransGen (Passage listing) c c := by
  induction h with
  | intro c _ ih =>
    intro hcycle
    obtain ⟨d, hd, hback⟩ := Relation.TransGen.head'_iff.mp hcycle
    exact ih d hd (Relation.TransGen.tail'_iff.mpr ⟨c, hback, hd⟩)

lemma acc_of_reaches {listing : Option Int → List Node} {c d : Option Int}
    (hreaches : Relation.ReflTransGen (Passage listing) c d)
    (h : Acc (fun d c => Passage listing c d) c) : Acc (fun d c => Passage listing c d) d := by
  induction hreaches with
  | refl => exact h
  | tail _ hpassage ih => exact ih.inv hpassage

/-! ## Walks -/

section Start

variable {walk walk' : Walk} {container : Option Int} {w w' : World σ}
  {result : Except Failure Unit}

lemma perform_eq (p : Plan σ) (walk : Walk) (storage : Int) (container : Option Int)
    (w : World σ) :
    (p.perform walk storage container).run w =
      (.ok (((start p storage container).run ⟨walk, w⟩).1,
        ((start p storage container).run ⟨walk, w⟩).2.walk),
        ((start p storage container).run ⟨walk, w⟩).2.world) :=
  rfl

/-- A walk that does not stand at the top does not start. -/
lemma run_start_of_inside (hinside : walk.trail ≠ .empty) :
    (start p storage container).run ⟨walk, w⟩ =
      (.error (.abort (.trail (.startedInside walk.trail.path))), ⟨walk, w⟩) := by
  have hdepth : walk.trail.depth ≠ 0 := by
    intro hzero
    have hsegments : walk.trail.segments = [] := List.length_eq_zero_iff.mp hzero
    exact hinside (congrArg Trail.mk hsegments)
  simp [start, expectTop, here, Procedure.run_bind, hdepth, stop]

/-- A walk starts as if it had not been anywhere before. -/
lemma run_start_of_top (htop : walk.trail = .empty) :
    (start p storage container).run ⟨walk, w⟩ =
      (start p storage container).run ⟨{ walk with ancestors := [] }, w⟩ := by
  simp [start, expectTop, here, Procedure.run_bind, htop, Trail.empty, Trail.depth, change]

lemma stands_of_top (hwalk : walk.place.parts = walk.trail.segments) (htop : walk.trail = .empty) :
    Stands walk.place.root [] [] (accountOf walk w) ⟨{ walk with ancestors := [] }, w⟩ := by
  obtain ⟨trail, ⟨root, parts⟩, ancestors, statistics, budget⟩ := walk
  subst htop
  obtain rfl : parts = [] := hwalk
  exact ⟨rfl, rfl, rfl, rfl⟩

/-- A walk that starts at the top follows a course.  One that is stopped stands where its course
was stopped. -/
lemma standing_of_perform (hwalk : walk.place.parts = walk.trail.segments)
    (htop : walk.trail = .empty)
    (hrun : (p.perform walk storage container).run w = (.ok (result, walk'), w')) :
    ∃ r, result = r.mapError Stop.failure ∧
      (∀ stop, r = .error stop → stop.standing = walk'.standing) ∧
      Course p walk.place.root storage (.container p.depth container) [] []
        (accountOf walk w) r (accountOf walk' w') := by
  have hfollows := follows_start p walk.place.root storage container (accountOf walk w) _
    (stands_of_top hwalk htop)
  rw [perform_eq, run_start_of_top htop] at hrun
  rcases hstart : (start p storage container).run ⟨{ walk with ancestors := [] }, w⟩ with
    ⟨f | u, s⟩
  · rw [hstart] at hfollows hrun
    cases hrun
    refine ⟨_, rfl, ?_, hfollows⟩
    rintro stop ⟨rfl⟩
    rfl
  · rw [hstart] at hfollows hrun
    cases hrun
    obtain ⟨a', hcourse, hs⟩ := hfollows
    rw [← hs.account] at hcourse
    exact ⟨.ok (), rfl, nofun, hcourse⟩

lemma course_of_perform (hwalk : walk.place.parts = walk.trail.segments)
    (htop : walk.trail = .empty)
    (hrun : (p.perform walk storage container).run w = (.ok (result, walk'), w')) :
    ∃ r, result = r.mapError Stop.failure ∧
      Course p walk.place.root storage (.container p.depth container) [] []
        (accountOf walk w) r (accountOf walk' w') := by
  obtain ⟨r, hresult, -, hcourse⟩ := standing_of_perform hwalk htop hrun
  exact ⟨r, hresult, hcourse⟩

/-- The number of levels is all that a walk knows of its plan's. -/
lemma visit_withDepth (levels : Nat) (n : Nat) (c : Option Int) :
    visit { p with depth := levels } storage n c = visit p storage n c := by
  induction n generalizing c with
  | zero => rfl
  | succ n ih =>
    rw [visit, visit]
    simp only [ih]
    rfl

lemma agree_start (hreports : p.remote.Reports storage folders) (hdepth : folders.card < p.depth)
    {levels : Nat} (hlevels : folders.card < levels) (a : Account σ) :
    Agree (Stands root [] [] a) (start { p with depth := levels } storage container)
      (start p storage container) := by
  have hroom : (folders \ (inside container []).toFinset).card ≤ folders.card :=
    Finset.card_le_card Finset.sdiff_subset
  have hchange : Ensures (Stands root [] [] a) (change fun w => { w with ancestors := [] })
      (fun _ => Stands root [] [] a) fun _ _ => True :=
    Ensures.change fun s hs => ⟨by rw [hs.1], hs.2⟩
  refine Agree.bind (Agree.refl _ _) (ensures_expectTop _) fun _ => ?_
  refine Agree.bind (Agree.refl _ _) hchange fun _ => Agree.then ?_ _
  rw [visit_withDepth]
  exact agree_visit hreports levels p.depth container [] [] a (by simp) (by omega) (by omega)

/-- A walk with more levels than there are folders does the same. -/
lemma perform_withDepth (hreports : p.remote.Reports storage folders)
    (hwalk : walk.place.parts = walk.trail.segments) (hdepth : folders.card < p.depth)
    {levels : Nat} (hlevels : folders.card < levels) :
    (Plan.perform { p with depth := levels } walk storage container).run w =
      (p.perform walk storage container).run w := by
  have hstart : (start { p with depth := levels } storage container).run ⟨walk, w⟩ =
      (start p storage container).run ⟨walk, w⟩ := by
    by_cases htop : walk.trail = .empty
    · rw [run_start_of_top htop, run_start_of_top htop]
      exact agree_start hreports hdepth hlevels _ _ (stands_of_top hwalk htop)
    · rw [run_start_of_inside htop, run_start_of_inside htop]
  exact congrArg (fun r => (Except.ok (r.1, r.2.walk), r.2.world)) hstart

/-- A folder that the walk is inside of stops it before anything is done. -/
lemma run_takeUp_of_reenters {s : Scene σ} (below : Int → Part σ Unit)
    (h : Reenters s.walk.standing child) :
    (takeUp p below child).run s =
      (.error (.abort (.cycle child.id s.walk.trail.path)),
        { s with world := s.world.add (.step s.walk.standing (.taken child)) }) := by
  obtain ⟨husable, hfolder, hinside⟩ := h
  have hancestors : s.walk.ancestors.contains child.id = true := List.contains_iff_mem.mpr hinside
  have hstep : (step (.taken child)).run s =
      (.ok (), { s with world := s.world.add (.step s.walk.standing (.taken child)) }) := rfl
  have hname : ∀ t : Scene σ,
      (lift (Procedure.ofChecked (isUsableName child.name))).run t = (.ok true, t) := by
    intro t
    rw [husable]
    rfl
  have hthrough : ∀ t : Scene σ, t.walk = s.walk → (goThrough below child).run t =
      (.error (.abort (.cycle child.id s.walk.trail.path)), t) := by
    intro t ht
    have hhere : (here : Part σ Walk).run t = (.ok s.walk, t) := by
      rw [← ht]
      rfl
    rw [goThrough, Procedure.run_bind, hhere]
    dsimp only
    rw [Procedure.run_bind, hancestors]
    rfl
  rw [takeUp, Procedure.run_bind, hstep]
  dsimp only
  rw [Procedure.run_bind, hname]
  dsimp only
  rw [if_neg (by simp), if_pos hfolder]
  exact hthrough _ rfl

end Start

/-- The steps and the end of a walk from `container` on that guards itself against cycles. -/
structure Guarded (p : Plan σ) (container : Option Int) (new : List (Standing × Step))
    (result : Except Failure Unit) (w : World σ) : Prop where
  /-- Whenever a container is listed, the walk is inside of the containers on the way down and of
  no others, that one is the innermost, and all are different folders that were reported. -/
  listing : ∀ standing storage c earlier, (standing, .listing storage c) :: earlier <:+ new →
    Descends container earlier standing ∧ c = (descent container earlier).head? ∧
      (openFolders earlier).length + 1 ≤ (foldersListed earlier).toFinset.card + 1
  /-- A folder that the walk is inside of is the last that has its turn. -/
  reentered : ∀ standing child earlier, (standing, .taken child) :: earlier <:+ new →
    Descends container earlier standing ∧ (Reenters standing child →
      new = (standing, .taken child) :: earlier ∧
        result = .error (.abort (.cycle child.id (Trail.pathOf standing.segments))))
  /-- Only such a folder stops the walk so, unless the remote tree itself gave that failure. -/
  cycle : ∀ id path, result = .error (.abort (.cycle id path)) →
    p.remote.Raised (.abort (.cycle id path)) w ∨
      ∃ standing child earlier, new = (standing, .taken child) :: earlier ∧
        Descends container earlier standing ∧ Reenters standing child ∧ id = child.id ∧
        path = Trail.pathOf standing.segments

lemma Descent.guarded {container : Option Int} {opens : List (Int × String)} {w : World σ}
    {new : List (Standing × Step)} {r : Except Stop Unit}
    (h : Descent p container opens a new r) (hw : a.Describes w) :
    Guarded p container new (r.mapError Stop.failure) w where
  listing standing storage c earlier hsuffix := by
    rcases h.observes hsuffix with ⟨hdescends, hfirst⟩ | ⟨_, hwhat, -⟩
    · exact ⟨hdescends, hfirst, Nat.succ_le_succ hdescends.depth_le⟩
    · cases hwhat
  reentered standing child earlier hsuffix := by
    rcases h.observes hsuffix with ⟨hdescends, hnot⟩ | ⟨_, hwhat, hnew, hdescends, -, rfl⟩
    · exact ⟨hdescends, fun hreenters => absurd hreenters hnot⟩
    · cases hwhat
      exact ⟨hdescends, fun _ => ⟨hnew, rfl⟩⟩
  cycle id path hresult := by
    cases h with
    | back _ => cases hresult
    | @stopped stop _ _ other =>
      have hfailure : stop.failure = .abort (.cycle id path) := Except.error.inj hresult
      rw [hfailure] at other
      exact .inl (other rfl w hw)
    | reentered steps _ descends reenters =>
      cases hresult
      exact .inr ⟨_, _, _, steps, descends, reenters, rfl, rfl⟩

lemma guarded_of_course {r : Except Stop Unit} {levels : Nat} {w w' : World σ} {walk walk' : Walk}
    (hc : Course p root storage (.container levels container) [] [] (accountOf walk w) r
      (accountOf walk' w')) :
    ∃ new, w'.steps = new ++ w.steps ∧ Guarded p container new (r.mapError Stop.failure) w' := by
  have hmeets : (Task.container levels container).Meets container [] [] [] :=
    { names := rfl
      containers := by simp [Task.within, inside, descent, openFolders]
      first := by
        rintro _ _ ⟨⟩
        cases container <;> rfl
      listed := nofun }
  have hbase : (accountOf walk w).steps = [] ++ w.steps := rfl
  obtain ⟨later, hsteps, hdescent⟩ := hc.descends hbase (Way.nil container) hmeets
  exact ⟨later ++ [], hsteps, hdescent.guarded ⟨rfl, rfl, rfl⟩⟩

/-- **Every walk guards itself against cycles.**  Take any walk over any remote tree, from the top
of a storage or from one of its containers.  Whenever it lists a container it is inside of the
containers on the way down and of no others, and these are pairwise different; so the way is never
longer than the number of folders that the remote tree has reported, plus one.  The walk is stopped
over a cycle exactly when a folder with a usable name has its turn that is on the way, and then
nothing else has been done about that folder.

If the remote tree reports folders from a finite set only, the walk ends by itself: it does not run
out of levels once there are more of them than folders, and any more make no difference.  If
moreover the listings are fixed and a cycle can be reached from where the walk started, through
usable names, it does not end without a failure. -/
theorem perform_guards (p : Plan σ) (walk : Walk) (hwalk : walk.place.parts = walk.trail.segments)
    (storage : Int) (container : Option Int) (w : World σ) {result : Except Failure Unit}
    {walk' : Walk} {w' : World σ}
    (hrun : (p.perform walk storage container).run w = (.ok (result, walk'), w')) :
    (∃ new, w'.steps = new ++ w.steps ∧ Guarded p container new result w') ∧
      (∀ below child (s : Scene σ), Reenters s.walk.standing child →
        (takeUp p below child).run s = (.error (.abort (.cycle child.id s.walk.trail.path)),
          { s with world := s.world.add (.step s.walk.standing (.taken child)) })) ∧
      (∀ folders, p.remote.Reports storage folders → folders.card < p.depth →
        (result = .error .tooDeep → p.remote.Raises .tooDeep) ∧
        ∀ levels, folders.card < levels →
          (Plan.perform { p with depth := levels } walk storage container).run w =
            (.ok (result, walk'), w')) ∧
      ∀ listing, (∀ c other files,
          (p.remote.listChildren storage c other files).1 = .ok (listing c)) →
        ∀ c, Relation.ReflTransGen (Passage listing) container c →
          Relation.TransGen (Passage listing) c c → ∃ f, result = .error f := by
  by_cases htop : walk.trail = .empty
  · obtain ⟨r, rfl, hcourse⟩ := course_of_perform hwalk htop hrun
    refine ⟨guarded_of_course hcourse, fun below child s => run_takeUp_of_reenters below,
      fun folders hreports hdepth => ⟨fun hdeep => ?_, fun levels hlevels =>
        (perform_withDepth hreports hwalk hdepth hlevels).trans hrun⟩,
      fun listing hlisting c hreaches hcycle => ?_⟩
    · cases r with
      | ok => cases hdeep
      | error stop =>
        have hroom : (folders \ (inside container []).toFinset).card ≤ folders.card :=
          Finset.card_le_card Finset.sdiff_subset
        exact hcourse.shallow hreports (hroom.trans_lt hdepth) nofun rfl (Except.error.inj hdeep)
    · cases r with
      | ok =>
        have hacc := acc_of_reaches hreaches (hcourse.acc hlisting container rfl)
        exact absurd hcycle (not_transGen_of_acc hacc)
      | error stop => exact ⟨_, rfl⟩
  · have hperform : (p.perform walk storage container).run w =
        (.ok (.error (.abort (.trail (.startedInside walk.trail.path))), walk), w) := by
      rw [perform_eq, run_start_of_inside htop]
    rw [hperform] at hrun
    cases hrun
    refine ⟨⟨[], rfl, ?_⟩, fun below child s => run_takeUp_of_reenters below,
      fun folders hreports hdepth => ⟨nofun, fun levels hlevels =>
        (perform_withDepth hreports hwalk hdepth hlevels).trans hperform⟩,
      fun listing hlisting c hreaches hcycle => ⟨_, rfl⟩⟩
    exact ⟨fun _ _ _ _ h => by simpa using List.suffix_nil.mp h,
      fun _ _ _ h => by simpa using List.suffix_nil.mp h, nofun⟩

/-- A device with a folder that is listed in itself. -/
def loopDevice : InMemory :=
  { sampleDevice with
    nodes := [⟨1, none, 7, .string "a", .container, none, .null⟩,
      ⟨1, some 1, 7, .string "b", .container, none, .null⟩] }

/-- A walk over it. -/
def loopPlan : Plan (List String) := { samplePlan.walk with remote := loopDevice.remote }

/-- Where it starts. -/
def loopStart : Walk := .new samplePlan.destination (.ofThreshold 10)

/-- Where it is stopped. -/
def loopEnd : Walk :=
  { loopStart with
    trail := ⟨["a"]⟩
    place := ⟨samplePlan.destination, ["a"]⟩
    ancestors := [1]
    statistics := { directories := 1 } }

lemma loopDevice_listChildren (container : Option Int) (other : List String) (files : FileSystem) :
    (loopDevice.remote.listChildren 7 container other files).1 =
      .ok (loopDevice.childrenOf 7 container) :=
  rfl

/-- The folder comes up below itself, however many levels there are. -/
theorem perform_guards_sample :
    ∃ w' new, w'.steps = new ∧
      Guarded loopPlan none new (.error (.abort (.cycle 1 "a/"))) w' ∧
      (∀ levels, 1 < levels →
        (Plan.perform { loopPlan with depth := levels } loopStart 7 none).run sampleWorld =
          (.ok (.error (.abort (.cycle 1 "a/")), loopEnd), w')) ∧
      Passage (loopDevice.childrenOf 7) none (some 1) ∧
      Passage (loopDevice.childrenOf 7) (some 1) (some 1) := by
  have hresult : ((loopPlan.perform loopStart 7 none).run sampleWorld).1.toOption =
      some (.error (.abort (.cycle 1 "a/")), loopEnd) := by
    decide +kernel
  have hrun : (loopPlan.perform loopStart 7 none).run sampleWorld =
      (.ok (.error (.abort (.cycle 1 "a/")), loopEnd),
        ((loopPlan.perform loopStart 7 none).run sampleWorld).2) := by
    rw [perform_eq] at hresult ⊢
    rw [Option.some.inj hresult]
  have hreports : loopPlan.remote.Reports 7 {1} := by
    rintro container other files children w hchildren n hn -
    have hlisting := loopDevice_listChildren container other files
    rw [show loopDevice.remote = loopPlan.remote from rfl, hchildren] at hlisting
    cases hlisting
    have hids : ∀ n ∈ loopDevice.nodes, n.id = 1 := by decide
    exact Finset.mem_singleton.mpr (hids n (List.mem_of_mem_filter hn))
  obtain ⟨⟨new, hsteps, hguarded⟩, -, hlevels, -⟩ :=
    perform_guards loopPlan loopStart rfl 7 none sampleWorld hrun
  exact ⟨_, new, hsteps.trans (List.append_nil new), hguarded,
    (hlevels {1} hreports (by decide)).2, ⟨_, List.mem_cons_self, rfl, rfl, rfl⟩,
    ⟨_, List.mem_cons_self, rfl, rfl, rfl⟩⟩

end Walk

end Replica
