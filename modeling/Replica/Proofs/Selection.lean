import Replica.Proofs.Commands
import Replica.Proofs.Numerals
import Replica.Proofs.Searches
/-!
# Which storages are selected

The overview of a device writes the number of each storage in hexadecimal, and the other commands
take such numbers back, or decimal ones, to select storages by.

* **Texts.**  `Program.Denotes` are the texts that are taken for a number, and
  `Program.storagesOf_of_denotes` says that they are.
* **Runs.**  A run lists the tops of the selected storages in the order of the device, and of no
  others (`Run.Rounds.tops`).
* **Commands.**  `Program.selects` puts these together.  There is one exception, at which a run
  selects nothing: it stops over a number that no storage has and that is too long to be written
  (`Program.stops_at_vast`).
-/

namespace Replica

variable {σ τ : Type}

/-! ## Tops -/

/-- The storage whose top is listed in a step, if it is one. -/
def Step.top? : Step → Option Int
  | .listing storage none => some storage
  | _ => none

/-- The storages whose tops are listed in these steps, in their order. -/
def tops (steps : List (Standing × Step)) : List Int := steps.filterMap (·.2.top?)

namespace Walk

variable {p : Plan σ} {root : Path} {storage : Int} {above : List String} {ids : List Int}
  {child : Node} {a a' : Account σ} {f : Failure}

lemma Deed.tops (h : Deed p root above ids child a a') : tops a'.steps = tops a.steps := by
  cases h <;> rfl

lemma Halt.tops (h : Halt p root above ids child a f a') : tops a'.steps = tops a.steps := by
  cases h <;> rfl

/-- The storages whose tops are listed for a task: its own, if the task is the top. -/
def Task.tops (storage : Int) : Task → List Int
  | .container (_ + 1) none => [storage]
  | _ => []

/-- A walk lists one top at most, and it does so first. -/
lemma Course.tops {task : Task} {result : Except Stop Unit}
    (h : Course p root storage task above ids a result a') :
    tops a'.steps = task.tops storage ++ tops a.steps := by
  induction h with
  | tooDeep => rfl
  | @unlisted levels container => cases container <;> rfl
  | @listed levels container above ids a children w result a' answer turns ih =>
    rw [ih]
    cases container <;> rfl
  | done => rfl
  | next _ _ ih₁ ih₂ =>
    exact ih₂.trans ih₁
  | stopped _ ih =>
    rw [ih]
    rfl
  | deed hd => rw [hd.tops]; rfl
  | halt hh => rw [hh.tops]; rfl
  | @through levels child name files above ids a below a₁ result a' _ _ _ _ _ _ back ih =>
    have hinner : Replica.tops a₁.steps = Replica.tops a.steps := by
      rw [ih]
      cases levels <;> rfl
    cases back with
    | back _ => exact hinner
    | lost _ => exact hinner
    | stopped => exact hinner

end Walk

/-- Whether a storage has one of these numbers. -/
def Storage.hasOneOf (numbers : List Nat) (s : Storage) : Bool :=
  numbers.any fun n => s.id = (n : Int)

lemma Storage.contains_id (numbers : List Nat) (s : Storage) :
    (numbers.map Nat.cast).contains s.id = s.hasOneOf numbers := by
  have hcontains : (numbers.map Nat.cast).contains s.id = true ↔
      ∃ n ∈ numbers, (n : Int) = s.id := by simp
  have hone : s.hasOneOf numbers = true ↔ ∃ n ∈ numbers, s.id = (n : Int) := by
    simp [Storage.hasOneOf]
  rw [Bool.eq_iff_iff, hcontains, hone]
  exact exists_congr fun n => and_congr_right fun _ => eq_comm

namespace Run

open Walk (Account Course)

variable {p : Plan σ} {storages : List Storage} {a a' : Account σ} {result : Except Failure Unit}

/-- **Rounds list the tops of their storages in order**, all of them unless the run is stopped. -/
lemma Rounds.tops (h : Rounds p storages a result a') :
    ∃ walked, walked <+: storages ∧ (result = .ok () → walked = storages) ∧
      Replica.tops a'.steps = (walked.map Storage.id).reverse ++ Replica.tops a.steps := by
  induction h with
  | done => exact ⟨[], List.prefix_refl _, fun _ => rfl, rfl⟩
  | @next storage rest a a₁ a' result _ walk _ ih =>
    obtain ⟨walked, hfront, hall, htops⟩ := ih
    have hone : Replica.tops a₁.steps = [storage.id] ++ Replica.tops a.steps := by
      have hcourse := walk.tops
      -- with no level left the walk would not have ended
      rcases hdepth : p.depth with _ | levels <;> rw [hdepth] at walk hcourse
      · cases walk
      · exact hcourse
    refine ⟨storage :: walked, (List.prefix_cons_inj storage).mpr hfront,
      fun hok => by rw [hall hok], ?_⟩
    rw [htops, List.map_cons, List.reverse_cons, List.append_assoc]
    exact congrArg _ hone
  | @stopped storage rest a a₁ stop _ walk =>
    have hcourse := walk.tops
    rcases hdepth : p.depth with _ | levels <;> rw [hdepth] at hcourse
    · exact ⟨[], List.nil_prefix, nofun, hcourse⟩
    · exact ⟨[storage], by simp, nofun, hcourse⟩
  | untold _ => exact ⟨[], List.nil_prefix, nofun, rfl⟩

/-- How a run ends that is told these numbers of storages, once the device has listed its own. -/
inductive Obeys (p : Plan σ) (numbers : List Nat) (storages : List Storage) (w : World σ)
    (a : Account σ) : Except Failure RunStatistics → World σ → Prop where
  /-- No storage has a number that is too long to be written; the run stops before its rounds. -/
  | vast {n : Nat} {w' : World σ} (told : n ∈ numbers) (absent : ∀ s ∈ storages, s.id ≠ n)
    (vast : Numeral.maxDecimalDigits < (natDigits n).length)
    (idle : Replica.tops w'.steps = Replica.tops w.steps) :
    Obeys p numbers storages w a (.error (.value .integerTooLong)) w'
  /-- The display cannot draw what it shows at first; the run stops before its rounds. -/
  | undrawn {cause : String} {w' : World σ} (first : p.undrawn? firstDescription = some cause)
    (idle : Replica.tops w'.steps = Replica.tops w.steps) :
    Obeys p numbers storages w a (.error (.undrawable cause)) w'
  /-- The run makes its rounds through the storages that have one of the numbers, in the order in
  which they are listed. -/
  | walks {chosen walked : List Storage} {result : Except Failure Unit} {a' : Account σ}
    {w' : World σ}
    (short : ∀ n ∈ numbers, (∀ s ∈ storages, s.id ≠ (n : Int)) →
      (natDigits n).length ≤ Numeral.maxDecimalDigits)
    (chosen_eq : chosen = storages.filter (·.hasOneOf numbers))
    (rounds : Rounds p chosen a result a') (describes : a'.Describes w')
    (front : walked <+: chosen) (all : result = .ok () → walked = chosen)
    (tops : Replica.tops w'.steps = (walked.map Storage.id).reverse ++ Replica.tops w.steps) :
    Obeys p numbers storages w a (p.closed (descriptionAfter w.steps w'.steps)
      (result.map fun _ => ⟨a'.statistics, chosen.length⟩)) w'

/-- The numbers that no storage has, of those that are told. -/
lemma mem_absent {numbers : List Nat} {storages : List Storage} {id : Int}
    (hwanted : p.storages = some (numbers.map Nat.cast)) :
    id ∈ p.absent storages ↔ ∃ n ∈ numbers, (n : Int) = id ∧ ∀ s ∈ storages, s.id ≠ n := by
  rw [Plan.absent, hwanted]
  simp only [choose, List.mem_mergeSort, List.mem_eraseDups, List.mem_filter, List.mem_map]
  constructor
  · rintro ⟨⟨n, hn, rfl⟩, habsent⟩
    exact ⟨n, hn, rfl, by simpa using habsent⟩
  · rintro ⟨n, hn, rfl, habsent⟩
    exact ⟨⟨n, hn, rfl⟩, by simpa using habsent⟩

lemma chosen_eq_filter {numbers : List Nat} (storages : List Storage)
    (hwanted : p.storages = some (numbers.map Nat.cast)) :
    p.chosen storages = storages.filter (·.hasOneOf numbers) := by
  rw [Plan.chosen, hwanted]
  exact List.filter_congr fun s _ => s.contains_id numbers

/-- **A run obeys the numbers that it is told.** -/
lemma obeys_of_run {numbers : List Nat} {storages : List Storage} {w v w' : World σ}
    {result : Except Failure RunStatistics} (hrun : (start p).run w = (result, w'))
    (hwanted : p.storages = some (numbers.map Nat.cast))
    (hchecked : p.checked w.files = .ok ())
    (hanswer : p.remote.listStorages w.other w.files = (.ok storages, v)) :
    Obeys p numbers storages w (((p.account w).answered v).forgotten p.walk) result w' := by
  obtain ⟨a', hends, hdescribes⟩ := ends_of_run hrun
  have hsteps : Replica.tops ((p.account w).answered v).steps = Replica.tops w.steps := rfl
  have hshort : (∀ id ∈ p.absent storages, ∃ text, storageText id = .ok text) →
      ∀ n ∈ numbers, (∀ s ∈ storages, s.id ≠ (n : Int)) →
        (natDigits n).length ≤ Numeral.maxDecimalDigits := by
    intro absent n hn habsent
    obtain ⟨text, htext⟩ := absent n ((mem_absent hwanted).mpr ⟨n, hn, rfl, habsent⟩)
    rw [storageText] at htext
    split_ifs at htext with hvast
    exact Nat.not_lt.mp hvast
  -- the rounds list the tops of their storages, however the display closes over them
  have hwalks : ∀ {r : Except Failure Unit} {result : Except Failure RunStatistics},
      (∀ id ∈ p.absent storages, ∃ text, storageText id = .ok text) →
      Rounds p (p.chosen storages) (((p.account w).answered v).forgotten p.walk) r a' →
      result = p.closed (descriptionAfter w.steps w'.steps)
        (r.map fun _ => ⟨a'.statistics, (p.chosen storages).length⟩) →
      Obeys p numbers storages w (((p.account w).answered v).forgotten p.walk) result w' := by
    rintro r _ absent rounds rfl
    obtain ⟨walked, hfront, hall, htops⟩ := rounds.tops
    exact .walks (hshort absent) (chosen_eq_filter storages hwanted) rounds hdescribes hfront hall
      (by rw [hdescribes.2.2, htops]; exact congrArg _ hsteps)
  cases hends with
  | refused destination => cases hchecked.symm.trans destination
  | unlisted _ answer => cases hanswer.symm.trans answer
  | unwritten _ answer absent text =>
    obtain ⟨rfl, rfl⟩ : storages = _ ∧ v = _ := by simpa using hanswer.symm.trans answer
    obtain ⟨n, hn, rfl, habsent⟩ := (mem_absent hwanted).mp absent
    rw [storageText] at text
    split_ifs at text with hvast
    cases text
    exact .vast hn habsent hvast (by rw [hdescribes.2.2]; exact hsteps)
  | undrawn _ answer _ first =>
    exact .undrawn first (by rw [hdescribes.2.2]; exact hsteps)
  | walked _ answer absent rounds _ last =>
    obtain ⟨rfl, rfl⟩ : storages = _ ∧ v = _ := by simpa using hanswer.symm.trans answer
    refine hwalks absent rounds (Plan.closed_of_drawn ?_ _).symm
    rwa [hdescribes.2.2]
  | veiled _ answer absent rounds _ last =>
    obtain ⟨rfl, rfl⟩ : storages = _ ∧ v = _ := by simpa using hanswer.symm.trans answer
    refine hwalks absent rounds (Plan.closed_of_undrawn ?_ _).symm
    rwa [hdescribes.2.2]

end Run

/-! ## Texts -/

namespace Program

variable {told : Options.Parsed CommandKey} {numbers : List Nat}

/-- The texts that are taken for a number: the one that the overview of a device has for it, and
its decimal digits unless there are too many. -/
inductive Denotes : Nat → String → Prop where
  /-- As it is shown. -/
  | shown (n : Nat) : Denotes n (Shell.storageNumber n)
  /-- In decimal. -/
  | decimal {n : Nat} (short : (natDigits n).length ≤ Numeral.maxDecimalDigits) :
    Denotes n (toString n)

lemma storageId_of_denotes {n : Nat} {text : String} (h : Denotes n text) :
    storageId text = .ok n := by
  cases h with
  | shown => rw [storageId, Shell.storageNumber, Numeral.readLiteral_hex]
  | decimal short => rw [storageId, Numeral.readLiteral_decimal short]

/-- **What is told is understood** as the numbers that the texts denote. -/
lemma storagesOf_of_denotes (h : List.Forall₂ Denotes numbers (told.values .storage)) :
    storagesOf told = .ok (numbers.map Nat.cast) := by
  rw [storagesOf]
  generalize told.values .storage = texts at h
  induction h with
  | nil => rfl
  | cons hhead _ ih =>
    rw [List.mapM_cons, storageId_of_denotes hhead, ih]
    rfl

/-! ## Commands -/

/-- What commands do that are told these numbers of storages. -/
structure Selects (shell : Shell τ) (told : Options.Parsed CommandKey) (numbers : List Nat) :
    Prop where
  /-- The files of these storages are listed. -/
  files (g : General) :
    perform shell g .files told =
      understood (expectEnd told.arguments) fun _ => shell.files g (numbers.map Nat.cast)
  /-- With a client the list is all that the command does for its session; in the end it shows the
  messages of the remote tree, and the document about the files. -/
  listed (g : General) {c : Client} {w : World (Session τ)} (client : shell.clientIn g w = .ok c) :
    (shell.files g (numbers.map Nat.cast)).run w =
      match (shell.listFiles g.console (shell.remote c) (numbers.map Nat.cast)).run
        (Shell.renewed w) with
      | (.ok found, v) =>
        (.ok .success, ((Shell.hungUp v).showing (shell.remote c)
          ((Session.errors v.other).map Console.warningLine)).addAll
            (if g.console.json then
              [Shell.documentLine (.array (found.map Shell.findingJson))] else []))
      | (.error .interrupted, v) =>
        (.ok .cancelled, (Shell.hungUp v).add (Console.warningLine "Listing cancelled by user"))
      | (.error failure, v) => (.error failure, Shell.hungUp v)
  /-- These storages are copied. -/
  copies (g : General) :
    perform shell g .copy told =
      withDestination (told.arguments.headD ".") fun destination =>
        understood (expectEnd (told.arguments.drop 1)) fun _ =>
          shell.copy g
            ⟨destination, numbers.map Nat.cast, told.has .includeAbstract⟩
  /-- With a client the run is all that the command does for its session. -/
  copied (g : General) {c : Client} {destination : Path} {includeAbstract : Bool}
    {w : World (Session τ)} (client : shell.clientIn g w = .ok c) :
    (shell.copy g ⟨destination, numbers.map Nat.cast, includeAbstract⟩).run w =
      match (Run.start (shell.runPlan g.console c
        ⟨destination, numbers.map Nat.cast, includeAbstract⟩)).run (Shell.renewed w) with
      | (.ok statistics, v) =>
        (.ok .success, (Shell.hungUp v).addAll
          (if g.console.json then [Shell.documentLine statistics.toJson] else []))
      | (.error .interrupted, v) =>
        (.ok .cancelled, (Shell.hungUp v).add (Console.warningLine "Mirror cancelled by user"))
      | (.error failure, v) =>
        if Shell.isReported failure then
          (.ok .failure, (Shell.hungUp v).add (Console.errorLine failure.message))
        else (.error failure, Shell.hungUp v)
  /-- The list goes through the storages that have one of the numbers, as they are listed. -/
  lists (console : Console) (r : Remote (Session τ)) {w v : World (Session τ)}
    {storages : List Storage} (answer : r.listStorages w.other w.files = (.ok storages, v)) :
    (shell.listFiles console r (numbers.map Nat.cast)).run w =
      (do
        let chosen := storages.filter (·.hasOneOf numbers)
        return (← chosen.mapM (shell.listStorage console r)).flatten :
          Action (Session τ) (List Finding)).run (w.after v)
  /-- The run goes through them too, or stops over a number that cannot be written. -/
  obeys {console : Console} {c : Client} {destination : Path} {includeAbstract : Bool}
    {p : Run.Plan (Session τ)} {w v w' : World (Session τ)} {storages : List Storage}
    {result : Except Failure RunStatistics}
    (plan : p = shell.runPlan console c ⟨destination, numbers.map Nat.cast, includeAbstract⟩)
    (run : (Run.start p).run w = (result, w')) (checked : p.checked w.files = .ok ())
    (answer : p.remote.listStorages w.other w.files = (.ok storages, v)) :
    Run.Obeys p numbers storages w (((p.account w).answered v).forgotten p.walk) result w'

/-- **Numbers select their storages.**  The number of a storage is read back from the text that the
overview shows, which no other number has, and from its decimal digits unless there are too many.
Commands that are told such texts look into the storages with one of the numbers, in the order in
which the device lists them, and into no others; but a run looks into none at all if one of the
numbers is too long to be written and no storage has it. -/
theorem selects (shell : Shell τ) :
    (∀ n : Nat, storageId (Shell.storageNumber n) = .ok n) ∧
      (∀ n : Nat, (natDigits n).length ≤ Numeral.maxDecimalDigits →
        storageId (toString n) = .ok n) ∧
      (∀ m n : Nat, Shell.storageNumber m = Shell.storageNumber n → m = n) ∧
      ∀ (told : Options.Parsed CommandKey) (numbers : List Nat),
        List.Forall₂ Denotes numbers (told.values .storage) → numbers ≠ [] →
          Selects shell told numbers := by
  refine ⟨fun n => storageId_of_denotes (.shown n),
    fun n hshort => storageId_of_denotes (.decimal hshort), fun m n hsame => ?_, ?_⟩
  · have hm := storageId_of_denotes (.shown m)
    rw [hsame, storageId_of_denotes (.shown n)] at hm
    exact Int.ofNat_inj.mp (Except.ok.inj hm).symm
  · intro told numbers hdenotes hsome
    have hstorages := storagesOf_of_denotes hdenotes
    have hempty : (numbers.map (Nat.cast : Nat → Int)).isEmpty = false := by simpa using hsome
    refine ⟨fun g => by rw [perform, hstorages]; rfl, fun g _ _ => Shell.run_files shell _,
      fun g => by rw [perform, hstorages]; rfl, fun g _ _ _ _ => Shell.run_copy shell _,
      fun console r w v storages hanswer => ?_, fun hplan hrun hchecked hanswer => ?_⟩
    · have hchosen : (storages.filter fun s => (numbers.map Nat.cast).contains s.id) =
          storages.filter (·.hasOneOf numbers) :=
        List.filter_congr fun s _ => s.contains_id numbers
      rw [Shell.listFiles, Procedure.run_bind, Walk.run_serve hanswer, hempty, ← hchosen]
      rfl
    · subst hplan
      exact Run.obeys_of_run hrun (by rw [Shell.runPlan, hempty]; rfl) hchecked hanswer

/-! ## Numbers at a bridge with one storage -/

/-- The general options for the bridge that refuses. -/
def plainly : General := ⟨some ("http:" ++ "//bridge"), none, .standard, false⟩

/-- A command is told of storage 7, which the bridge has, and of another one. -/
def telling (other : String) : Options.Parsed CommandKey :=
  ⟨[⟨.storage, Shell.storageNumber 7⟩, ⟨.storage, other⟩], []⟩

/-- The world before the commands. -/
def untouched : World (Session Unit) := ⟨.empty, .start (), []⟩

/-- What becomes of a copy that is told of storage 7 and of another one. -/
def copying (other : String) : Except Failure ExitCode × World (Session Unit) :=
  (perform Shell.refusing plainly .copy (telling other)).run untouched

/-- What becomes of a list that is told of storage 7 and of another one. -/
def listing (other : String) : Except Failure ExitCode × World (Session Unit) :=
  (perform Shell.refusing plainly .files (telling other)).run untouched

/-- The storages whose listings were asked for. -/
def askedStorages (w : World (Session Unit)) : List Int :=
  w.journal.filterMap fun
    | .sent r => r.query.lookup "storageId"
    | _ => none

/-- The run of a copy that is told of the storages 7 and 9. -/
def copyingPlan : Run.Plan (Session Unit) :=
  Shell.refusing.runPlan .standard { url := "http:" ++ "//bridge", key := none }
    ⟨.ofString ".", [7, 9], false⟩

/-- Storage 7 is listed and copied, and storage 9 is missed. -/
theorem selects_refusing :
    storageId (Shell.storageNumber 7) = .ok 7 ∧ storageId (toString 9) = .ok 9 ∧
      (listing (toString 9)).1.toOption = some .success ∧
      askedStorages (listing (toString 9)).2 = [7] ∧
      tops (copying (toString 9)).2.steps = [7] ∧
      ∃ storages v, copyingPlan.remote.listStorages untouched.other untouched.files =
          (.ok storages, v) ∧ storages.map Storage.id = [7] ∧
        Run.Obeys copyingPlan [7, 9] storages untouched
          (((copyingPlan.account untouched).answered v).forgotten copyingPlan.walk)
          ((Run.start copyingPlan).run untouched).1 ((Run.start copyingPlan).run untouched).2 := by
  obtain ⟨hshown, hdecimal, -, hselects⟩ := selects Shell.refusing
  have hnine : (natDigits 9).length ≤ Numeral.maxDecimalDigits := by decide +kernel
  have hboth := hselects (telling (toString 9)) [7, 9]
    (.cons (.shown 7) (.cons (.decimal hnine) .nil)) (by simp)
  refine ⟨hshown 7, hdecimal 9 hnine, ?_, ?_, ?_, ?_⟩
  · rw [listing, hboth.files]
    decide +kernel
  · rw [listing, hboth.files]
    decide +kernel
  · rw [copying, hboth.copies]
    decide +kernel
  · have hids : (copyingPlan.remote.listStorages untouched.other untouched.files).1.toOption.map
        (·.map Storage.id) = some [7] := by decide +kernel
    rcases hanswer : copyingPlan.remote.listStorages untouched.other untouched.files with
      ⟨f | storages, v⟩ <;> rw [hanswer] at hids
    · cases hids
    · exact ⟨storages, v, rfl, Option.some.inj hids, hboth.obeys rfl rfl (by rfl) hanswer⟩

/-- The least number with too many digits. -/
def vastNumber : Nat := 10 ^ Numeral.maxDecimalDigits

/-- **A number that is too long to be written selects nothing**, and neither does the other number:
the copy fails before it lists the top of a storage. -/
theorem stops_at_vast :
    List.Forall₂ Denotes [7, vastNumber]
        ((telling (Shell.storageNumber vastNumber)).values .storage) ∧
      (copying (Shell.storageNumber vastNumber)).1.toOption = some .failure ∧
      tops (copying (Shell.storageNumber vastNumber)).2.steps = [] := by
  have hdenotes : List.Forall₂ Denotes [7, vastNumber]
      ((telling (Shell.storageNumber vastNumber)).values .storage) :=
    .cons (.shown 7) (.cons (.shown vastNumber) .nil)
  refine ⟨hdenotes, ?_⟩
  rw [copying, perform, storagesOf_of_denotes hdenotes]
  decide +kernel

end Program

end Replica
