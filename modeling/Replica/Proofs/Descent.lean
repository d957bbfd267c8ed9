import Mathlib.Data.Finset.Card
import Replica.Proofs.Causes
import Replica.Proofs.Tours
/-!
# The way down

The containers that a walk is inside of can be read off its steps alone: those that were entered
and not left, on top of the container that the walk started with.  No container comes twice on that
way, since a folder that is on it already stops the run before anything is done about it.

* **The way.**  `openFolders` are the folders entered and not left, and `descent` the numbers of all
  containers on the way, the innermost first.
* **What steps observe.**  `Descends` says that a step knows the way: its standing holds just these
  containers and these names.  `Way` says so of all steps at which it matters.
* **Courses.**  Every course keeps to the way, or is stopped by a folder that is on it
  (`Walk.Course.descends`).
* **Depth.**  The folders on the way are different ones that the remote tree has reported, which
  bounds their number (`Descends.depth_le`).
-/

namespace Replica

variable {σ : Type}

/-! ## The way -/

/-- The folders that were entered and not left, with their names, the innermost first. -/
def openFolders : List (Standing × Step) → List (Int × String)
  | [] => []
  | (_, .entered id name) :: earlier => (id, name) :: openFolders earlier
  | (_, .left _ _) :: earlier => (openFolders earlier).tail
  | _ :: earlier => openFolders earlier

/-- The containers on the way down from `start`, the innermost first. -/
def descent (start : Option Int) (earlier : List (Standing × Step)) : List Int :=
  (openFolders earlier).map Prod.fst ++ start.toList

/-- The names on the way down, the outermost first. -/
def descentNames (earlier : List (Standing × Step)) : List String :=
  ((openFolders earlier).map Prod.snd).reverse

/-- The numbers of the folders in the listings that were given. -/
def foldersListed (steps : List (Standing × Step)) : List Int :=
  (listings steps).flatMap fun children => (children.filter Node.isContainer).map Node.id

lemma foldersListed_subset {steps steps' : List (Standing × Step)} (h : steps <:+ steps') :
    foldersListed steps ⊆ foldersListed steps' := by
  obtain ⟨later, rfl⟩ := h
  intro id hid
  rw [foldersListed, listings_append, List.flatMap_append]
  exact List.mem_append_right _ hid

lemma mem_foldersListed (standing : Standing) (steps : List (Standing × Step))
    {children : List Node} {n : Node} (hn : n ∈ children) (hfolder : n.isContainer = true) :
    n.id ∈ foldersListed ((standing, .listed children) :: steps) := by
  rw [foldersListed, listings_cons, List.flatMap_append]
  refine List.mem_append_left _ ?_
  simpa [Step.listed?] using ⟨n, ⟨hn, hfolder⟩, rfl⟩

/-- A walk that stands somewhere knows the way down to there. -/
structure Descends (start : Option Int) (earlier : List (Standing × Step)) (standing : Standing) :
    Prop where
  ancestors : standing.ancestors = descent start earlier
  distinct : standing.ancestors.Nodup
  segments : standing.segments = descentNames earlier
  listed : (openFolders earlier).map Prod.fst ⊆ foldersListed earlier

/-- A folder has its turn that the walk is inside of. -/
def Reenters (standing : Standing) (child : Node) : Prop :=
  isUsableName child.name = .ok true ∧ child.isContainer = true ∧ child.id ∈ standing.ancestors

/-- The folders on the way are no more than the different folders that were listed. -/
lemma Descends.depth_le {start : Option Int} {earlier : List (Standing × Step)}
    {standing : Standing} (h : Descends start earlier standing) :
    (openFolders earlier).length ≤ (foldersListed earlier).toFinset.card := by
  have hdistinct : ((openFolders earlier).map Prod.fst).Nodup := by
    have := h.distinct
    rw [h.ancestors, descent] at this
    exact this.of_append_left
  calc (openFolders earlier).length
      = ((openFolders earlier).map Prod.fst).toFinset.card := by
        rw [List.toFinset_card_of_nodup hdistinct, List.length_map]
    _ ≤ (foldersListed earlier).toFinset.card := by
        refine Finset.card_le_card fun id hid => ?_
        exact List.mem_toFinset.mpr (h.listed (List.mem_toFinset.mp hid))

/-! ## What steps observe -/

/-- What a step observes that comes after the steps `earlier`. -/
def Observes (start : Option Int) (earlier : List (Standing × Step)) (standing : Standing) :
    Step → Prop
  | .listing _ container =>
    Descends start earlier standing ∧ container = (descent start earlier).head?
  | .taken child => Descends start earlier standing ∧ ¬Reenters standing child
  | _ => True

/-- Whether a step has nothing to do with the way down. -/
def Step.isAside : Step → Bool
  | .visited _ | .compared _ | .fetching _ _ | .fetched _ => true
  | _ => false

/-- The steps keep to the way, and these folders are open. -/
structure Way (start : Option Int) (opens : List (Int × String)) (steps : List (Standing × Step)) :
    Prop where
  folders : openFolders steps = opens
  distinct : (descent start steps).Nodup
  listed : opens.map Prod.fst ⊆ foldersListed steps
  observed : ∀ earlier standing what, (standing, what) :: earlier <:+ steps →
    Observes start earlier standing what

namespace Way

open Walk (spot)

variable {start : Option Int} {opens : List (Int × String)} {steps : List (Standing × Step)}

lemma nil (start : Option Int) : Way start [] [] where
  folders := rfl
  distinct := by cases start <;> simp [descent, openFolders]
  listed := List.nil_subset _
  observed _ _ _ h := by simpa using List.suffix_nil.mp h

/-- A walk that keeps to the way stands at its end. -/
lemma descends (h : Way start opens steps) :
    Descends start steps (spot (descentNames steps) (descent start steps)) :=
  ⟨rfl, h.distinct, rfl, h.folders ▸ h.listed⟩

lemma observed_cons (h : Way start opens steps) {standing : Standing} {what : Step}
    (hwhat : Observes start steps standing what) :
    ∀ earlier standing' what', (standing', what') :: earlier <:+ (standing, what) :: steps →
      Observes start earlier standing' what' := by
  intro earlier standing' what' hsuffix
  rcases List.suffix_cons_iff.mp hsuffix with heq | hsuffix
  · cases heq
    exact hwhat
  · exact h.observed earlier standing' what' hsuffix

/-- A step by which the walk does not move. -/
lemma stay (h : Way start opens steps) {standing : Standing} {what : Step}
    (hopens : openFolders ((standing, what) :: steps) = openFolders steps)
    (hwhat : Observes start steps standing what) : Way start opens ((standing, what) :: steps) where
  folders := hopens.trans h.folders
  distinct := by
    rw [descent, hopens]
    exact h.distinct
  listed := List.Subset.trans h.listed (foldersListed_subset (List.suffix_cons _ _))
  observed := h.observed_cons hwhat

/-- Steps that have nothing to do with the way. -/
lemma aside (h : Way start opens steps) {later : List (Standing × Step)}
    (hlater : ∀ x ∈ later, x.2.isAside = true) : Way start opens (later ++ steps) := by
  induction later with
  | nil => exact h
  | cons x later ih =>
    obtain ⟨standing, what⟩ := x
    have hrest := ih fun y hy => hlater y (List.mem_cons_of_mem _ hy)
    have haside := hlater _ List.mem_cons_self
    cases what with
    | visited _ | compared _ | fetching _ _ | fetched _ => exact hrest.stay rfl trivial
    | listing _ _ | listed _ | taken _ | entered _ _ | left _ _ => cases haside

/-- A folder is entered that was listed and that is not on the way. -/
lemma entered (h : Way start opens steps) {standing : Standing} {id : Int} {name : String}
    (houtside : id ∉ descent start steps) (hlisted : id ∈ foldersListed steps) :
    Way start ((id, name) :: opens) ((standing, .entered id name) :: steps) where
  folders := congrArg _ h.folders
  distinct := by
    have heq : descent start ((standing, .entered id name) :: steps) =
        id :: descent start steps := rfl
    rw [heq]
    exact List.nodup_cons.mpr ⟨houtside, h.distinct⟩
  listed := by
    have hmono := foldersListed_subset (List.suffix_cons (standing, Step.entered id name) steps)
    rw [List.map_cons, List.cons_subset]
    exact ⟨hmono hlisted, List.Subset.trans h.listed hmono⟩
  observed := h.observed_cons trivial

/-- The innermost folder is left. -/
lemma left {folder : Int × String} (h : Way start (folder :: opens) steps) {standing : Standing}
    {id : Int} {name : String} : Way start opens ((standing, .left id name) :: steps) where
  folders := by
    show (openFolders steps).tail = opens
    rw [h.folders]
    rfl
  distinct := by
    have heq : descent start steps =
        folder.1 :: descent start ((standing, .left id name) :: steps) := by
      simp [descent, openFolders, h.folders]
    have := h.distinct
    rw [heq] at this
    exact this.of_cons
  listed := by
    have hmono := foldersListed_subset (List.suffix_cons (standing, Step.left id name) steps)
    exact List.Subset.trans (List.subset_cons_self _ _) (List.Subset.trans h.listed hmono)
  observed := h.observed_cons trivial

end Way

/-! ## Courses -/

/-- Whether a failure is that of a folder that comes up below itself. -/
def Failure.isCycle : Failure → Bool
  | .abort (.cycle _ _) => true
  | _ => false

namespace Walk

variable {p : Plan σ} {root : Path} {storage : Int} {above : List String} {ids : List Int}
  {child : Node} {a a' : Account σ} {start : Option Int} {opens : List (Int × String)}
  {base new : List (Standing × Step)}

/-- How a walk leaves the way down: back where it was, stopped somewhere, or stopped by a folder
that it is inside of. -/
inductive Descent (p : Plan σ) (start : Option Int) (opens : List (Int × String))
    (a : Account σ) (new : List (Standing × Step)) : Except Stop Unit → Prop where
  | back (way : Way start opens new) : Descent p start opens a new (.ok ())
  | stopped {stop : Stop} {opens' : List (Int × String)} (way : Way start opens' new)
    (other : stop.failure.isCycle = true → ∀ w, a.Describes w → p.remote.Raised stop.failure w) :
    Descent p start opens a new (.error stop)
  | reentered {standing : Standing} {child : Node} {earlier : List (Standing × Step)}
    {opens' : List (Int × String)} (steps : new = (standing, .taken child) :: earlier)
    (way : Way start opens' earlier) (descends : Descends start earlier standing)
    (reenters : Reenters standing child) :
    Descent p start opens a new
      (.error ⟨.abort (.cycle child.id (Trail.pathOf standing.segments)), standing⟩)

/-- On the way down every step observes what it should, but for the folder that stops the walk. -/
lemma Descent.observes {result : Except Stop Unit} (h : Descent p start opens a new result)
    {earlier : List (Standing × Step)} {standing : Standing} {what : Step}
    (hsuffix : (standing, what) :: earlier <:+ new) :
    Observes start earlier standing what ∨ ∃ child, what = .taken child ∧
      new = (standing, what) :: earlier ∧ Descends start earlier standing ∧
      Reenters standing child ∧
      result = .error ⟨.abort (.cycle child.id (Trail.pathOf standing.segments)), standing⟩ := by
  cases h with
  | back way => exact .inl (way.observed _ _ _ hsuffix)
  | stopped way _ => exact .inl (way.observed _ _ _ hsuffix)
  | reentered steps way descends reenters =>
    subst steps
    rcases List.suffix_cons_iff.mp hsuffix with heq | hsuffix
    · cases heq
      exact .inr ⟨_, rfl, rfl, descends, reenters, rfl⟩
    · exact .inl (way.observed _ _ _ hsuffix)

/-- A deed takes no step on the way. -/
lemma Deed.aside (hd : Deed p root above ids child a a') :
    ∃ later, a'.steps = later ++ a.steps ∧ ∀ x ∈ later, x.2.isAside = true := by
  cases hd with
  | passOver _ => exact ⟨[], rfl, by simp⟩
  | skip _ | leaveOut _ => exact ⟨[_, _], rfl, by simp [Step.isAside]⟩
  | fetch _ _ | miss _ _ _ => exact ⟨[_, _, _, _], rfl, by simp [Step.isAside]⟩

lemma not_isCycle_of_refuses {files : FileSystem} {path : Path} {f : Failure}
    (h : LocalDirectory.Refuses files path f) : f.isCycle = false := by
  cases h <;> rfl

/-- A child that stops the run takes no step on the way either, and unless it is a folder that the
walk is inside of, only the remote tree could have said that it is one. -/
lemma Halt.aside {f : Failure} (hh : Halt p root above ids child a f a') :
    (Reenters (spot above ids) child ∧ f = .abort (.cycle child.id (Trail.pathOf above)) ∧ a' = a) ∨
      ¬Reenters (spot above ids) child ∧
        (∃ later, a'.steps = later ++ a.steps ∧ ∀ x ∈ later, x.2.isAside = true) ∧
        (f.isCycle = true → ∀ w, a'.Describes w → p.remote.Raised f w) := by
  have hfile : child.isContainer = false → ¬Reenters (spot above ids) child := by
    rintro hfile ⟨-, hfolder, -⟩
    rw [hfile] at hfolder
    cases hfolder
  have hrefuses : ∀ {files path}, LocalDirectory.Refuses files path f → f.isCycle = true →
      ∀ w, a'.Describes w → p.remote.Raised f w := by
    intro files path hrefuses hcycle
    rw [not_isCycle_of_refuses hrefuses] at hcycle
    cases hcycle
  cases hh with
  | cycle hname hfolder hinside => exact .inl ⟨⟨hname, hfolder, hinside⟩, rfl, rfl⟩
  | unreadable hname =>
    refine .inr ⟨?_, ⟨[], rfl, by simp⟩, nofun⟩
    rintro ⟨husable, -⟩
    rw [hname] at husable
    cases husable
  | unnamedFolder _ _ _ houtside =>
    exact .inr ⟨fun h => houtside h.2.2, ⟨[], rfl, by simp⟩, nofun⟩
  | notMade _ _ houtside hmade =>
    exact .inr ⟨fun h => houtside h.2.2, ⟨[], rfl, by simp⟩,
      hrefuses (LocalDirectory.refuses_of_made hmade)⟩
  | notEntered _ _ houtside _ hentered =>
    exact .inr ⟨fun h => houtside h.2.2, ⟨[], rfl, by simp⟩,
      hrefuses (LocalDirectory.refuses_of_entered hentered)⟩
  | oversized _ h _ | unnamedFile _ h _ =>
    exact .inr ⟨hfile h, ⟨[_], rfl, by simp [Step.isAside]⟩, nofun⟩
  | notInspected _ h hinspected =>
    exact .inr ⟨hfile h, ⟨[_, _], rfl, by simp [Step.isAside]⟩,
      hrefuses (LocalDirectory.refuses_of_inspected hinspected)⟩
  | fetchFailed hlooked answer =>
    exact .inr ⟨hfile hlooked.file, ⟨[_, _, _], rfl, by simp [Step.isAside]⟩,
      fun _ w hw => .fetch hw.2.2 answer ⟨hw.1, hw.2.1⟩⟩
  | tooMany hlooked _ _ =>
    exact .inr ⟨hfile hlooked.file, ⟨[_, _, _, _], rfl, by simp [Step.isAside]⟩, nofun⟩

/-- The containers that a walk is inside of once it has begun with a task. -/
def Task.within : Task → List Int → List Int
  | .container _ c, ids => inside c ids
  | _, ids => ids

/-- The nodes that a task is about. -/
def Task.nodes : Task → List Node
  | .container _ _ => []
  | .children _ nodes => nodes
  | .child _ node => [node]

/-- A task comes next on the way down: it is about the container at its end, or about nodes that
were listed. -/
structure Task.Meets (start : Option Int) (new : List (Standing × Step)) (above : List String)
    (ids : List Int) (task : Task) : Prop where
  names : above = descentNames new
  containers : task.within ids = descent start new
  first : ∀ levels c, task = .container levels c → c = (descent start new).head?
  listed : ∀ n ∈ task.nodes, n.isContainer = true → n.id ∈ foldersListed new

namespace Task.Meets

variable {new' : List (Standing × Step)} {task task' : Task} {levels : Nat}

lemma descends (h : task.Meets start new above ids) (hway : Way start opens new) :
    Descends start new (spot above (task.within ids)) := by
  rw [h.names, h.containers]
  exact hway.descends

/-- The same place, later, for fewer nodes. -/
lemma later (h : task.Meets start new above ids) (hnodes : task'.nodes ⊆ task.nodes)
    (hcontainers : task'.within ids = task.within ids)
    (hfirst : ∀ levels c, task' ≠ .container levels c)
    (hfolders : openFolders new' = openFolders new) (hsuffix : new <:+ new') :
    task'.Meets start new' above ids where
  names := by
    rw [h.names, descentNames, descentNames, hfolders]
  containers := by
    rw [hcontainers, h.containers, descent, descent, hfolders]
  first levels c htask := absurd htask (hfirst levels c)
  listed n hn hfolder := foldersListed_subset hsuffix (h.listed n (hnodes hn) hfolder)

/-- The question for a listing. -/
lemma listing {container : Option Int}
    (h : (Task.container levels container).Meets start new above ids) (hway : Way start opens new) :
    Way start opens ((spot above (inside container ids), .listing storage container) :: new) :=
  hway.stay rfl ⟨h.descends hway, h.first _ _ rfl⟩

/-- The turn of a child that is not on the way. -/
lemma taken (h : (Task.child levels child).Meets start new above ids) (hway : Way start opens new)
    (hnot : ¬Reenters (spot above ids) child) :
    Way start opens ((spot above ids, .taken child) :: new) :=
  hway.stay rfl ⟨h.descends hway, hnot⟩

/-- The way leads on into a folder that is not on it. -/
lemma entered {name : String} (h : (Task.child levels child).Meets start new above ids)
    (hway : Way start opens new) (hfolder : child.isContainer = true) (houtside : child.id ∉ ids) :
    Way start ((child.id, name) :: opens) ((spot (above ++ [name]) ids, .entered child.id name) ::
        (spot above ids, .taken child) :: new) ∧
      (Task.container levels (some child.id)).Meets start
        ((spot (above ++ [name]) ids, .entered child.id name) ::
          (spot above ids, .taken child) :: new) (above ++ [name]) ids := by
  have hids : ids = descent start ((spot above ids, .taken child) :: new) := h.containers
  refine ⟨(h.taken hway fun hreenters => houtside hreenters.2.2).entered (hids ▸ houtside) ?_, ?_⟩
  · exact foldersListed_subset (List.suffix_cons _ _) (h.listed child List.mem_cons_self hfolder)
  · exact
      { names := by
          rw [h.names]
          simp [descentNames, openFolders]
        containers := congrArg _ hids
        first := by
          rintro _ _ ⟨⟩
          rfl
        listed := by simp [Task.nodes] }

end Task.Meets

/-- A walk that is stopped does not come back to where it was. -/
lemma Descent.error {opens' : List (Int × String)} {stop : Stop}
    (h : Descent p start opens a new (.error stop)) :
    Descent p start opens' a new (.error stop) := by
  cases h with
  | stopped way other => exact .stopped way other
  | reentered steps way descends reenters => exact .reentered steps way descends reenters

lemma Deed.not_folder (hd : Deed p root above ids child a a') :
    ¬(isUsableName child.name = .ok true ∧ child.isContainer = true) := by
  rintro ⟨husable, hfolder⟩
  cases hd with
  | passOver hname =>
    rw [husable] at hname
    cases hname
  | skip hl | leaveOut hl | fetch hl | miss hl =>
    rw [hl.file] at hfolder
    cases hfolder

/-- **Every course keeps to the way**, or is stopped by a folder that is on it. -/
theorem Course.descends {task : Task} {result : Except Stop Unit}
    (hc : Course p root storage task above ids a result a') (hsteps : a.steps = new ++ base)
    (hway : Way start opens new) (hmeets : task.Meets start new above ids) :
    ∃ later, a'.steps = later ++ new ++ base ∧
      Descent p start opens a' (later ++ new) result := by
  induction hc generalizing new opens with
  | tooDeep => exact ⟨[], hsteps, .stopped hway nofun⟩
  | @unlisted levels container above ids a f w answer =>
    refine ⟨[_], congrArg _ hsteps, .stopped (hmeets.listing hway) fun _ w' hw => ?_⟩
    exact .children hw.2.2 answer ⟨hw.1, hw.2.1⟩
  | @listed levels container above ids a children w result a' answer turns ih =>
    have hlisted : Way start opens ((spot above (inside container ids), .listed children) ::
        (spot above (inside container ids), .listing storage container) :: new) :=
      (hmeets.listing hway).stay rfl trivial
    obtain ⟨later, hsteps', hdescent⟩ := ih (congrArg _ (congrArg _ hsteps)) hlisted
      { names := hmeets.names
        containers := hmeets.containers
        first := nofun
        listed := fun n hn hfolder => mem_foldersListed _ _ hn hfolder }
    exact ⟨later ++ [_, _], by simpa using hsteps', by simpa using hdescent⟩
  | done => exact ⟨[], hsteps, .back hway⟩
  | next _ _ ih₁ ih₂ =>
    obtain ⟨later₁, hsteps₁, hdescent₁⟩ := ih₁ hsteps hway
      (hmeets.later (by simp [Task.nodes]) rfl nofun rfl (List.suffix_refl _))
    cases hdescent₁ with
    | back hway₁ =>
      obtain ⟨later₂, hsteps₂, hdescent₂⟩ := ih₂ hsteps₁ hway₁
        (hmeets.later (by simp [Task.nodes]) rfl nofun (hway₁.folders.trans hway.folders.symm)
          (List.suffix_append _ _))
      exact ⟨later₂ ++ later₁, by simpa using hsteps₂, by simpa using hdescent₂⟩
  | stopped _ ih =>
    exact ih hsteps hway (hmeets.later (by simp [Task.nodes]) rfl nofun rfl (List.suffix_refl _))
  | @deed levels child above ids a a' hd =>
    have htaken := hmeets.taken hway fun h => hd.not_folder ⟨h.1, h.2.1⟩
    obtain ⟨later, hlater, haside⟩ := hd.aside
    refine ⟨later ++ [(spot above ids, .taken child)], ?_, ?_⟩
    · simp [hlater, hsteps]
    · simpa using Descent.back (htaken.aside haside)
  | @halt levels child above ids a f a' hh =>
    rcases hh.aside with ⟨hreenters, rfl, rfl⟩ | ⟨hnot, ⟨later, hlater, haside⟩, hother⟩
    · exact ⟨[(spot above ids, .taken child)], congrArg _ hsteps,
        .reentered rfl hway (hmeets.descends hway) hreenters⟩
    · refine ⟨later ++ [(spot above ids, .taken child)], ?_, ?_⟩
      · simp [hlater, hsteps]
      · simpa using Descent.stopped ((hmeets.taken hway hnot).aside haside) hother
  | @through levels child name files above ids a below a₁ result a' hcalls hfolder houtside _ _ _
      hback ih =>
    obtain ⟨hentered, hbelow⟩ := hmeets.entered hway hfolder houtside
    obtain ⟨later, hsteps', hdescent⟩ := ih (congrArg _ (congrArg _ hsteps)) hentered hbelow
    cases hback with
    | back _ =>
      cases hdescent with
      | back hway' =>
        have hleft : Way start opens ((spot above ids, .left child.id name) :: (later ++ _)) :=
          hway'.left
        refine ⟨(spot above ids, .left child.id name) :: later ++ [_, _],
          by simpa using hsteps', ?_⟩
        simpa using Descent.back hleft
    | lost hleft =>
      cases hdescent with
      | back hway' =>
        have hother := not_isCycle_of_refuses (LocalDirectory.refuses_of_left hleft)
        refine ⟨later ++ [_, _], by simpa using hsteps', ?_⟩
        rw [List.append_assoc]
        exact .stopped hway' fun hcycle => absurd hcycle (by simp [hother])
    | stopped => exact ⟨later ++ [_, _], by simpa using hsteps', by simpa using hdescent.error⟩

end Walk

end Replica
