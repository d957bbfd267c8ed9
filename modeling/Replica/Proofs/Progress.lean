import Replica.Proofs.Completion
/-!
# Why a run returns

A run is stopped only for a reason, and every reason can be traced to the hierarchy, to the names,
or to what stood below the destination before.

* **Nodes.**  `Passable` is what a walk asks of a node that it meets.
* **Containers.**  `Task.Apart` says that no container that the walk is inside of comes up again,
  which is so if no container is below itself.
* **Courses.**  `Course.progress` shows that a course over passable nodes ends if contents are
  delivered, and `Course.failures_eq` that it does so without a failure.  The files on the way are
  known from `Course.completed`.
* **The way back.**  `Course.passes` shows that a course that ends without a failure has passed
  every node that it meets, so nothing is in the way of another one.
-/

namespace Replica

open FileSystem (LinkFree Preserves)

namespace Walk

variable {σ : Type}

/-- A walk can pass a node that it meets in the directory `above`: the name is known to be usable
or not, the system takes its path, its size can be written, and there are levels left below it. -/
structure Passable (p : Plan σ) (root : Path) (top : Location) (files : FileSystem)
    (above : List String) (n : Node) : Prop where
  named : isUsableName n.name = .ok false ∨ ∃ name, n.Calls name
  takes : ∀ name, n.Calls name → files.Takes (root.below above) (top ++ above) name
  size : ∀ name, n.Calls name → n.isContainer = false →
    ∃ text, sizeText n.declaredSize = .ok text
  level : ∀ name, n.Calls name → n.isContainer = true → above.length + 1 < p.depth

/-- The levels left for a task. -/
def Task.levels : Task → Nat
  | .container levels _ => levels
  | .children levels _ => levels + 1
  | .child levels _ => levels + 1

/-- Every folder that the task is about to go through is properly below all of `ids`. -/
def Task.Apart (h : Hierarchy) (storage : Int) (ids : List Int) : Task → Prop
  | .container _ none => ids = []
  | .container _ (some c) => ∀ i ∈ ids, Relation.TransGen (h.Holds storage) i c
  | .children _ nodes => ∀ n ∈ nodes, n.isContainer = true →
      ∀ i ∈ ids, Relation.TransGen (h.Holds storage) i n.id
  | .child _ n => n.isContainer = true → ∀ i ∈ ids, Relation.TransGen (h.Holds storage) i n.id

variable {p : Plan σ} {h : Hierarchy} {root : Path} {storage : Int} {top : Location}
  {met : List String → Node → Prop} {before : FileSystem} {child n : Node} {above : List String}
  {ids : List Int} {a a' : Account σ} {name : String}

/-- The listed folders are below the container, and so below all that is above it. -/
lemma Task.Apart.listed {levels levels' : Nat} {container : Option Int}
    (hapart : (Task.container levels container).Apart h storage ids) :
    (Task.children levels' (h.listing storage container)).Apart h storage
      (inside container ids) := by
  intro n hn hfolder i hi
  cases container with
  | none =>
    have hids : ids = [] := hapart
    simp [inside, hids] at hi
  | some c =>
    have hholds : h.Holds storage c n.id := ⟨n, hn, hfolder, rfl⟩
    rcases List.mem_cons.mp hi with rfl | hi
    · exact .single hholds
    · exact (hapart i hi).tail hholds

/-- With the same permissions the same can be passed. -/
lemma Passable.congr {files files' : FileSystem} (hp : Passable p root top files above n)
    (hclosed : files'.closed = files.closed) : Passable p root top files' above n :=
  ⟨hp.named, fun name hcalls => (hp.takes name hcalls).congr hclosed, hp.size, hp.level⟩

/-- The directory of a folder can be made. -/
lemma exists_made {files : FileSystem}
    (hu : Underway met (p.Settles h) top before files)
    (hfile : NoFile met top before)
    (hfoot : Foothold files root top above) (hmet : met above child) (hcalls : child.Calls name)
    (hfolder : child.isContainer = true)
    (htakes : files.Takes (root.below above) (top ++ above) name) :
    ∃ files', LocalDirectory.made ⟨root, above⟩ name files = .ok files' := by
  have hnofile : ∀ c m, files.get? (top ++ above ++ [name]) ≠ some (.file c m) := by
    rcases hu.folder above child name hmet hcalls hfolder with hsame | hthere
    · rw [hsame]
      exact hfile above child name hmet hcalls hfolder
    · rw [hthere]
      simp
  rcases hn : files.get? (top ++ above ++ [name]) with _ | ⟨_ | ⟨c, m⟩ | t⟩
  · exact ⟨_, (hfoot.made hcalls.segment).mpr ⟨htakes, .inl ⟨hn, rfl⟩⟩⟩
  · exact ⟨_, (hfoot.made hcalls.segment).mpr ⟨htakes, .inr ⟨hn, rfl⟩⟩⟩
  · exact absurd hn (hnofile c m)
  · exact absurd hn ((hfoot.site hcalls.segment).noLink t)

/-- A name is usable exactly if the node has it. -/
lemma Passable.calls (hp : Passable p root top before above n)
    (husable : isUsableName n.name = .ok true) :
    ∃ name, n.Calls name := by
  rcases hp.named with hunnamed | hcalls
  · rw [hunnamed] at husable
    cases husable
  · exact hcalls

section Progress

variable (hlists : p.remote.Lists h) (hdelivers : p.remote.Delivers h) (hunique : Unique met)
  (hdir : NoDirectory met top before)
include hdelivers hdir

/-- A file that is due is delivered. -/
lemma fetch_eq_ok (hu : Underway met (p.Settles h) top before a.files)
    (hfoot : Foothold a.files root top above) (hmet : met above child)
    (hlooked : Looked p root above child a name .due) :
    (p.remote.fetch child (LocalDirectory.pathFor ⟨root, above⟩ name) a.other a.files).1 =
      .ok true := by
  have hseg := hlooked.calls.segment
  obtain ⟨size, hsize, -⟩ := hlooked.size
  obtain ⟨htakes, -⟩ := hfoot.inspected hseg hsize
  have hwrite : a.files.writeFile (LocalDirectory.pathFor ⟨root, above⟩ name) (h.body child) =
      .ok _ := (hfoot.writeFile hseg).mpr
    ⟨htakes, not_directory hdir hu hmet hlooked.calls hlooked.file, rfl⟩
  exact (hdelivers child _ a.other a.files _ hwrite).1

/-- A deed is no failure. -/
lemma Deed.failures_eq (hd : Deed p root above ids child a a')
    (hu : Underway met (p.Settles h) top before a.files)
    (hfoot : Foothold a.files root top above) (hmet : met above child) :
    a'.statistics.failures = a.statistics.failures := by
  cases hd with
  | miss hlooked answer _ =>
    have := fetch_eq_ok hdelivers hdir hu hfoot hmet hlooked
    rw [answer] at this
    cases this
  | passOver | skip | leaveOut | fetch => rfl

include hlists hunique

/-- If contents are delivered, a course that ends does so without a failure. -/
theorem Course.failures_eq {task : Task} (hc : Course p root storage task above ids a (.ok ()) a')
    (hmet : h.Covered storage met task above)
    (hu : Underway met (p.Settles h) top before a.files)
    (hfoot : Foothold a.files root top above) :
    a'.statistics.failures = a.statistics.failures := by
  induction hc using Course.induction_ok with
  | @listed levels container above ids a a' children w answer _ ih =>
    obtain ⟨hchildren, hfiles⟩ := hlists.eq_listing answer
    cases hchildren
    rw [Account.listed_files, hfiles] at ih
    exact ih (hmet.listed (List.Subset.refl _)) hu hfoot
  | done => rfl
  | @next levels child rest above ids a a₁ a' first _ ih₁ ih₂ =>
    have hfail₁ := ih₁ hmet.head hu hfoot
    obtain ⟨hadvances, -⟩ := first.completed hdir hunique hlists hdelivers.isTruthful hfail₁
      hmet.head hu hfoot
    have hfail₂ := ih₂ hmet.tail hadvances.underway
      (hfoot.preserved hadvances.preserves hadvances.linkFree)
    exact hfail₂.trans hfail₁
  | @deed levels child above ids a a' hd =>
    have hchild := hmet.here
    have hsame := hd.failures_eq hdelivers hdir hu hfoot hchild
    exact hsame
  | @through levels child name files above ids a a' hcalls hfolder _ hmade _ _ _ ih =>
    have hchild := hmet.here
    obtain ⟨hadvances, -⟩ := advances_made hunique hu hfoot hchild hcalls hfolder hmade
    exact ih (hmet.below hfolder hcalls) hadvances.underway (hfoot.below hcalls.segment hmade)

omit hlists hunique

variable (hfile : NoFile met top before)
  (hacyclic : ∀ c, ¬Relation.TransGen (h.Holds storage) c c)
include hfile hacyclic

/-- Nothing stops a walk at a node that it can pass. -/
lemma not_halt {f : Failure} (hpass : Passable p root top before above child)
    (hu : Underway met (p.Settles h) top before a.files)
    (hfoot : Foothold a.files root top above) (hmet : met above child)
    (hapart : child.isContainer = true →
      ∀ i ∈ ids, Relation.TransGen (h.Holds storage) i child.id) :
    ¬Halt p root above ids child a f a' := by
  intro hh
  cases hh with
  | unreadable hname =>
    rcases hpass.named with hunnamed | ⟨name, htext, -⟩
    · rw [hunnamed] at hname
      cases hname
    · rw [htext] at hname
      cases hname
  | cycle _ hfolder hinside => exact hacyclic child.id (hapart hfolder child.id hinside)
  | unnamedFolder husable _ htext =>
    obtain ⟨name, hcalls⟩ := hpass.calls husable
    exact htext name hcalls.text
  | notMade hcalls hfolder _ hmade =>
    obtain ⟨files, hmade'⟩ := exists_made hu hfile hfoot hmet hcalls hfolder
      ((hpass.takes _ hcalls).congr hu.closed)
    rw [hmade] at hmade'
    cases hmade'
  | notEntered hcalls _ _ hmade hentered =>
    rw [hfoot.entered hcalls.segment hmade] at hentered
    cases hentered
  | oversized husable hfile hsize =>
    obtain ⟨name, hcalls⟩ := hpass.calls husable
    obtain ⟨text, htext⟩ := hpass.size name hcalls hfile
    rw [hsize] at htext
    cases htext
  | unnamedFile husable _ htext =>
    obtain ⟨name, hcalls⟩ := hpass.calls husable
    exact htext name hcalls.text
  | notInspected hcalls _ hinspected =>
    rw [hfoot.inspected_of_takes hcalls.segment ((hpass.takes _ hcalls).congr hu.closed)]
      at hinspected
    cases hinspected
  | fetchFailed hlooked answer =>
    have := fetch_eq_ok hdelivers hdir hu hfoot hmet hlooked
    rw [answer] at this
    cases this
  | tooMany hlooked answer _ =>
    have := fetch_eq_ok hdelivers hdir hu hfoot hmet hlooked
    rw [answer] at this
    cases this

include hlists hunique

/-- **A course over passable nodes ends.** -/
theorem Course.progress {task : Task} {result : Except Stop Unit}
    (hc : Course p root storage task above ids a result a')
    (hpass : ∀ above n, met above n → Passable p root top before above n)
    (hmet : h.Covered storage met task above)
    (hu : Underway met (p.Settles h) top before a.files)
    (hfoot : Foothold a.files root top above) (hapart : task.Apart h storage ids)
    (hlevels : above.length + task.levels = p.depth) (hpos : 0 < task.levels) :
    result = .ok () := by
  induction hc with
  | tooDeep => exact absurd hpos (Nat.lt_irrefl 0)
  | unlisted answer => cases (hlists.eq_listing answer).1
  | @listed levels container above ids a children w result a' answer _ ih =>
    obtain ⟨hchildren, hfiles⟩ := hlists.eq_listing answer
    cases hchildren
    rw [Account.listed_files, hfiles] at ih
    exact ih (hmet.listed (List.Subset.refl _)) hu hfoot hapart.listed hlevels hpos
  | done => rfl
  | @next levels child rest above ids a a₁ result a' first _ _ ih =>
    have hfail := first.failures_eq hlists hdelivers hunique hdir hmet.head hu hfoot
    obtain ⟨hadvances, -⟩ := first.completed hdir hunique hlists hdelivers.isTruthful hfail
      hmet.head hu hfoot
    exact ih hmet.tail hadvances.underway
      (hfoot.preserved hadvances.preserves hadvances.linkFree)
      (fun n hn => hapart n (List.mem_cons_of_mem _ hn)) hlevels hpos
  | @stopped levels child rest above ids a stop a' _ ih =>
    cases ih hmet.head hu hfoot (hapart child List.mem_cons_self) hlevels hpos
  | deed => rfl
  | @halt levels child above ids a f a' hh =>
    have hchild := hmet.here
    exact absurd hh (not_halt hdelivers hdir hfile hacyclic (hpass above child hchild) hu hfoot
      hchild hapart)
  | @through levels child name files above ids a below a₁ result a' hcalls hfolder _ hmade _ inner
      back ih =>
    have hchild := hmet.here
    have hlevel := (hpass above child hchild).level name hcalls hfolder
    have hlevels' : above.length + (levels + 1) = p.depth := hlevels
    obtain ⟨hadvances, -⟩ := advances_made hunique hu hfoot hchild hcalls hfolder hmade
    have hinner := hmet.below hfolder hcalls
    have hfoot' := hfoot.below hcalls.segment hmade
    obtain rfl := ih hinner hadvances.underway hfoot' (hapart hfolder)
      (by simp [Task.levels]; omega) (by simp [Task.levels]; omega)
    cases back with
    | back _ => rfl
    | lost hleft =>
      -- what was entered is still there
      have hfail := inner.failures_eq hlists hdelivers hunique hdir hinner hadvances.underway hfoot'
      obtain ⟨hadvances', -⟩ := inner.completed hdir hunique hlists hdelivers.isTruthful hfail
        hinner hadvances.underway hfoot'
      rw [(hfoot'.preserved hadvances'.preserves hadvances'.linkFree).left] at hleft
      cases hleft

end Progress

/-! ## What a course that ends has passed -/

section Passed

variable (hdir : NoDirectory met top before)
  (hunique : Unique met) (hlists : p.remote.Lists h) (htruth : p.remote.IsTruthful h)

/-- A walk passes a node, and no file stands in the way of its directory if it is a folder. -/
def Passes (p : Plan σ) (root : Path) (top : Location) (files : FileSystem) (above : List String)
    (n : Node) : Prop :=
  Passable p root top files above n ∧ ∀ name, n.Calls name → n.isContainer = true →
    ∀ c m, files.get? (top ++ above ++ [name]) ≠ some (.file c m)

/-- What is passed later was in nobody's way before. -/
lemma Passes.of_preserves {files files' : FileSystem} (hp : Passes p root top files' above n)
    (hpreserves : Preserves files files') : Passes p root top files above n := by
  refine ⟨hp.1.congr hpreserves.closed.symm, fun name hcalls hfolder c m hn => ?_⟩
  obtain ⟨c', m', hn'⟩ := hpreserves.file _ c m hn
  exact hp.2 name hcalls hfolder c' m' hn'

/-- A container that is gone through is one for which a level was left. -/
lemma Course.levels_pos {levels : Nat} {container : Option Int}
    (hc : Course p root storage (.container levels container) above ids a (.ok ()) a') :
    0 < levels := by
  cases hc
  exact Nat.succ_pos _

/-- A child that is a deed is passed. -/
lemma Deed.passes (hd : Deed p root above ids child a a')
    (hfoot : Foothold a.files root top above) : Passes p root top a.files above child := by
  have hlooked : ∀ {name verdict}, Looked p root above child a name verdict →
      Passes p root top a.files above child := by
    intro name verdict hlooked
    obtain ⟨size, hsize, -⟩ := hlooked.size
    have hfolder : child.isContainer ≠ true := by simp [hlooked.file]
    refine ⟨⟨.inr ⟨name, hlooked.calls⟩, fun name' hcalls => ?_, fun _ _ _ => hlooked.text,
      fun _ _ h => absurd h hfolder⟩, fun _ _ h => absurd h hfolder⟩
    obtain rfl := hcalls.unique hlooked.calls
    exact (hfoot.inspected hcalls.segment hsize).1
  cases hd with
  | passOver hname =>
    have hnot : ∀ name, ¬child.Calls name := fun name => not_calls hname
    exact ⟨⟨.inl hname, fun name hcalls => absurd hcalls (hnot name),
      fun name hcalls => absurd hcalls (hnot name), fun name hcalls => absurd hcalls (hnot name)⟩,
      fun name hcalls => absurd hcalls (hnot name)⟩
  | skip h => exact hlooked h
  | leaveOut h => exact hlooked h
  | fetch h => exact hlooked h
  | miss h => exact hlooked h

include hdir hunique hlists htruth

/-- A course that ends without a failure has passed every node that it meets. -/
theorem Course.passes {task : Task}
    (hc : Course p root storage task above ids a (.ok ()) a')
    (hfail : a'.statistics.failures = a.statistics.failures)
    (hmet : h.Covered storage met task above)
    (hu : Underway met (p.Settles h) top before a.files)
    (hfoot : Foothold a.files root top above)
    (hlevels : above.length + task.levels = p.depth) :
    ∀ names n, h.MeetsIn storage task names n → Passes p root top a.files (above ++ names) n := by
  induction hc using Course.induction_ok with
  | @listed levels container above ids a a' children w answer _ ih =>
    obtain ⟨hchildren, hfiles⟩ := hlists.eq_listing answer
    cases hchildren
    rw [Account.listed_files, hfiles] at ih
    intro names n hn
    exact ih hfail (hmet.listed (List.Subset.refl _)) hu hfoot hlevels names n
      ((h.meets_iff storage).mp hn)
  | done =>
    rintro names n ⟨child, hchild, -⟩
    cases hchild
  | @next levels child rest above ids a a₁ a' first others ih₁ ih₂ =>
    have hle₁ := first.failures_le
    have hle₂ := others.failures_le
    obtain ⟨hadvances, -⟩ := first.completed hdir hunique hlists htruth (by omega) hmet.head hu
      hfoot
    rintro names n ⟨c, hc, hn⟩
    rcases List.mem_cons.mp hc with rfl | hc
    · exact ih₁ (by omega) hmet.head hu hfoot hlevels names n hn
    · refine (ih₂ (by omega) hmet.tail hadvances.underway
        (hfoot.preserved hadvances.preserves hadvances.linkFree) hlevels names n
        ⟨c, hc, hn⟩).of_preserves hadvances.preserves
  | @deed levels child above ids a a' hd =>
    have hpasses : Passes p root top a.files above child := hd.passes hfoot
    rintro names n (⟨rfl, rfl⟩ | ⟨name, rest, hfolder, hcalls, -, -⟩)
    · rwa [List.append_nil]
    · rw [hd.isFile hcalls] at hfolder
      cases hfolder
  | @through levels child name files above ids a a' hcalls hfolder _ hmade _ inner _ ih =>
    have hchild := hmet.here
    have hlevels' : above.length + (levels + 1) = p.depth := hlevels
    have hpos := inner.levels_pos
    obtain ⟨hadvances, -⟩ := advances_made hunique hu hfoot hchild hcalls hfolder hmade
    rintro names n (⟨rfl, rfl⟩ | ⟨name', rest, -, hcalls', rfl, hn⟩)
    · rw [List.append_nil]
      obtain ⟨htakes, hthere⟩ := (hfoot.made hcalls.segment).mp hmade
      refine ⟨⟨.inr ⟨name, hcalls⟩, fun name' hcalls' => ?_, fun _ _ hfile => ?_,
        fun _ _ _ => by omega⟩, fun name' hcalls' _ c m hn => ?_⟩
      · rwa [hcalls'.unique hcalls]
      · rw [hfolder] at hfile
        cases hfile
      · rw [hcalls'.unique hcalls] at hn
        rcases hthere with ⟨habsent, -⟩ | ⟨hdirectory, -⟩
        · rw [habsent] at hn
          cases hn
        · rw [hdirectory] at hn
          cases hn
    · obtain rfl := hcalls'.unique hcalls
      have hinner := ih hfail (hmet.below hfolder hcalls) hadvances.underway
        (hfoot.below hcalls.segment hmade) (by simp [Task.levels]; omega) rest n hn
      rw [List.append_cons]
      exact hinner.of_preserves hadvances.preserves

end Passed

end Walk

end Replica
