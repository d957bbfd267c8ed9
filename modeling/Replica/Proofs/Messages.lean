import Replica.Proofs.Commands
import Replica.Proofs.Correspondence
import Replica.Proofs.Searches
/-!
# What becomes of the messages of a session

A session puts a message about everything that fails onto one stack, and whoever works with the
session has to take it off again.  A message that stays too long is shown in the wrong place, and
one that is taken off without being shown is lost.

* **Runs.**  A run takes all messages off as soon as a service has answered, so that every service
  is asked while the stack is empty (`Run.Reaches.calm`), and what is on the stack afterwards comes
  from this one service.
* **Lists of the files.**  A search leaves the messages where they are (`Searches.silent`), and the
  command shows all of them at its end.

`Session.messages_shown` says both, of every run and of every list of the files.
-/

namespace Replica

variable {τ : Type}

/-! ## Warnings -/

/-- Whether the event is a warning to the user. -/
def Event.isWarning : Event → Bool
  | wrote .err text => "Warning: ".toList.isPrefixOf text.toList
  | _ => false

/-- The warnings in a journal, the oldest first. -/
def Console.warnings (events : List Event) : List Event :=
  (events.filter Event.isWarning).reverse

lemma Event.isWarning_warningLine (text : String) :
    (Console.warningLine text).isWarning = true := by
  rw [Console.warningLine, isWarning, Console.plainText_append (by decide), String.append_assoc,
    String.toList_append, List.isPrefixOf_iff_prefix]
  exact List.prefix_append _ _

lemma Event.isWarning_errorLine (text : String) : (Console.errorLine text).isWarning = false := by
  rw [Console.errorLine, isWarning, Console.plainText_append (by decide), String.append_assoc,
    String.toList_append, ← Bool.not_eq_true, List.isPrefixOf_iff_prefix,
    show "Warning: ".toList = 'W' :: "arning: ".toList by decide,
    show "Error: ".toList = 'E' :: "rror: ".toList by decide, List.cons_append,
    List.cons_prefix_cons]
  exact fun h => absurd h.1 (by decide)

lemma Console.warnings_append (new base : List Event) :
    warnings (new ++ base) = warnings base ++ warnings new := by
  rw [warnings, List.filter_append, List.reverse_append, warnings, warnings]

lemma Console.warnings_eq_nil {events : List Event} (h : ∀ e ∈ events, e.isWarning = false) :
    warnings events = [] := by
  rw [warnings, List.reverse_eq_nil_iff, List.filter_eq_nil_iff]
  exact fun e he => by rw [h e he]; exact Bool.false_ne_true

lemma Console.warnings_lines (messages : List String) :
    warnings (messages.map warningLine).reverse = messages.map warningLine := by
  rw [warnings, List.filter_eq_self.mpr, List.reverse_reverse]
  intro e he
  obtain ⟨message, -, rfl⟩ := List.mem_map.mp (List.mem_reverse.mp he)
  exact Event.isWarning_warningLine message

/-! ## Stacks -/

namespace Session

/-- The messages that a service puts onto the stack are those that it has on record, in order. -/
def Records {α : Type} (service : Service (Session τ) α) : Prop :=
  ∀ session files, (service session files).2.other.errors =
    session.errors ++ kept (service session files).2.events

lemma Accounted.errors_of_error {α : Type} {nothing : α} {escapes : Failure → Prop}
    {before : List String} {inner : Except Failure α} {f : Failure} {w : World (Session τ)}
    (h : Accounted nothing escapes before inner (.error f, w)) : w.other.errors = before := by
  cases h
  assumption

/-- A content that has arrived leaves no message. -/
lemma Accounted.errors_of_fetched {escapes : Failure → Prop} {before : List String}
    {inner : Except Failure Bool} {w : World (Session τ)}
    (h : Accounted false escapes before inner (.ok true, w)) : w.other.errors = before := by
  cases h
  assumption

end Session

section Runs

variable {l : Link τ} {c : Client} {paging : Paging} {p : Run.Plan (Session τ)} {ids : List Int}
  {w₀ w : World (Session τ)} {known : Lore}

/-- **The stack is empty wherever a run comes to**, so that it is empty whenever a service is
asked. -/
lemma Run.Reaches.calm (hremote : p.remote = Session.remote l c paging)
    (hstart : w₀.other.errors = []) (h : Run.Reaches p ids (fun _ => True) w₀ known w) :
    w.other.errors = [] ∧ Run.Reaches p ids (fun s => s.errors = []) w₀ known w := by
  induction h with
  | start => exact ⟨hstart, .start⟩
  | speaks _ plain ih => exact ⟨ih.1, ih.2.speaks plain⟩
  | puts _ files ih => exact ⟨ih.1, ih.2.puts files⟩
  | lists _ standing _ chosen source answer ih =>
    refine ⟨?_, ih.2.lists standing ih.1 chosen source answer⟩
    rw [Run.afterListed, hremote]
    rfl
  | @fails _ w _ storage container _ _ standing _ chosen source answer ih =>
    refine ⟨?_, ih.2.fails standing ih.1 chosen source answer⟩
    have haccounted := Session.accounted_listChildren l c paging storage container w.files w.other
    rw [hremote] at answer
    rw [answer] at haccounted
    exact haccounted.errors_of_error.trans ih.1
  | @fetches _ w _ _ file target _ standing _ source leaf answer ih =>
    refine ⟨?_, ih.2.fetches standing ih.1 source leaf answer⟩
    have haccounted := Session.accounted_fetch l c paging file target w.files w.other
    rw [hremote] at answer
    rw [answer] at haccounted
    exact haccounted.errors_of_fetched.trans ih.1
  | misses _ standing _ source leaf named place answer ih =>
    refine ⟨?_, ih.2.misses standing ih.1 source leaf named place answer⟩
    rw [Run.afterMissed, hremote]
    rfl
  | @breaks _ w _ _ file target _ _ standing _ source leaf answer ih =>
    refine ⟨?_, ih.2.breaks standing ih.1 source leaf answer⟩
    have haccounted := Session.accounted_fetch l c paging file target w.files w.other
    rw [hremote] at answer
    rw [answer] at haccounted
    exact haccounted.errors_of_error.trans ih.1

/-- A run takes the messages about the storages off before it asks for anything else, and leaves
none behind; where it gets no storages it leaves those that were there. -/
lemma Run.Proceeds.calm {result : Except Failure RunStatistics}
    (hremote : p.remote = Session.remote l c paging)
    (h : Run.Proceeds p (fun _ => True) w₀ result known w) :
    Run.Proceeds p (fun s => s.errors = []) w₀ result known w ∧
      (w₀.other.errors = [] ∨ (∃ s, result = .ok s) → w.other.errors = []) := by
  cases h with
  | refused destination =>
    refine ⟨.refused destination, ?_⟩
    rintro (hempty | ⟨s, hs⟩)
    · exact hempty
    · cases hs
  | unlisted answer =>
    refine ⟨.unlisted answer, ?_⟩
    have haccounted := Session.accounted_listStorages l c paging w₀.files w₀.other
    rw [hremote] at answer
    rw [answer] at haccounted
    rintro (hempty | ⟨s, hs⟩)
    · exact haccounted.errors_of_error.trans hempty
    · cases hs
  | @listed _ v _ _ _ answer past =>
    obtain ⟨hempty, hcalm⟩ := Run.Reaches.calm hremote (by rw [hremote]; rfl) past
    exact ⟨.listed answer hcalm, fun _ => hempty⟩

end Runs

/-! ## Searches -/

namespace Session

variable {l : Link τ} {c : Client} {paging : Paging} {console : Console} {ids : List Int}
  {w₀ w v : World (Session τ)} {known : Lore} {asked : Request → Prop}

/-- Nobody has been warned since `w₀`, and the messages on record since then are still on the
stack. -/
def Silent (w₀ w : World (Session τ)) : Prop :=
  ∃ new, w.events = new ++ w₀.events ∧ Console.warnings new = [] ∧
    w.other.errors = w₀.other.errors ++ kept new

lemma Silent.refl (w : World (Session τ)) : Silent w w := ⟨[], rfl, rfl, (List.append_nil _).symm⟩

lemma Silent.add (h : Silent w₀ w) {e : Event} (hwarning : e.isWarning = false)
    (hkept : e.kept? = none) : Silent w₀ (w.add e) := by
  obtain ⟨new, hevents, hwarnings, herrors⟩ := h
  refine ⟨[e] ++ new, congrArg (e :: ·) hevents, ?_, ?_⟩
  · rw [Console.warnings_append, hwarnings, Console.warnings_eq_nil (by simpa using hwarning)]
    rfl
  · have hnone : kept [e] = [] := kept_eq_nil (by simpa using hkept)
    rw [kept_append, hnone, List.append_nil]
    exact herrors

/-- A service warns nobody, and its messages go onto the stack. -/
lemma Silent.after (h : Silent w₀ w) (hv : Telling l asked w.other v) : Silent w₀ (w.after v) := by
  obtain ⟨new, hevents, hwarnings, herrors⟩ := h
  have hreported : reported v.events = v.events := by
    rw [reported, List.filter_eq_self]
    intro e he
    cases hv.tells e he with
    | exchanged tells => cases tells <;> rfl
    | noted text => rfl
  have hquiet : Console.warnings v.events = [] := by
    refine Console.warnings_eq_nil fun e he => ?_
    cases hv.tells e he with
    | exchanged tells => cases tells <;> rfl
    | noted text => rfl
  refine ⟨v.events ++ new, ?_, ?_, ?_⟩
  · show reported v.events ++ w.events = _
    rw [hreported, hevents, List.append_assoc]
  · rw [Console.warnings_append, hwarnings, hquiet]
    rfl
  · show v.other.errors = _
    rw [hv.errors, herrors, kept_append, List.append_assoc]

/-- **A search leaves all messages on the stack** and warns nobody. -/
lemma Searches.silent (hstart : Silent w w₀)
    (h : Searches (remote l c paging) console ids w₀ known v) : Silent w v := by
  induction h with
  | start => exact hstart
  | speaks _ plain ih => cases plain <;> exact ih.add rfl rfl
  | lists _ chosen source answer ih => exact ih.after (telling_listChildren answer)
  | fails _ chosen source answer ih => exact ih.after (telling_listChildren answer)

/-- A list of the files leaves all messages on the stack, if there is one. -/
lemma Silent.of_lists {wanted : List Int} {found : List Finding}
    (h : Shell.Lists (remote l c paging) console wanted w (.ok found) v) : Silent w v := by
  cases h with
  | listed answer past =>
    exact Searches.silent ((Silent.refl w).after (telling_listStorages answer)) past

/-! ## Messages shown -/

/-- The command that lists the files shows all messages in the end, if nothing stops it. -/
lemma files_shows (shell : Shell τ) (g : General) (wanted : List Int) {code : ExitCode}
    (hrun : (shell.files g wanted).run w = (.ok code, v)) (hcode : code ≠ .cancelled) :
    ∃ new, v.events = new ++ w.events ∧
      Console.warnings new = (kept new).map Console.warningLine := by
  rcases hclient : shell.clientIn g w with f | c
  · rw [show (shell.files g wanted).run w = Shell.unconnected w f from
      Shell.carryOut_unconnected hclient (.files wanted)] at hrun
    cases f with
    | bridge error =>
      cases hrun
      exact ⟨[_], rfl, Console.warnings_eq_nil (by simp [Event.isWarning_errorLine])⟩
    | _ => cases hrun
  obtain ⟨result, u, hlist, hlists⟩ := Shell.listFiles_proceeds shell g.console (shell.remote c)
    wanted (Shell.renewed w)
  rw [Shell.run_files shell wanted hclient, hlist] at hrun
  rcases result with f | found
  · cases f with
    | interrupted =>
      cases hrun
      exact absurd rfl hcode
    | _ => cases hrun
  obtain ⟨new, hevents, hwarnings, hstack⟩ := Silent.of_lists hlists
  have herrors : u.other.errors = kept new := hstack.trans (List.nil_append _)
  cases hrun
  obtain ⟨document, hdocument, hplain⟩ : ∃ document : List Event, (if g.console.json then
      [Shell.documentLine (.array (found.map Shell.findingJson))] else []).reverse = document ∧
        Console.warnings document = [] ∧ kept document = [] := by
    cases g.console.json <;> exact ⟨_, rfl, rfl, rfl⟩
  refine ⟨document ++ ((u.other.errors.map Console.warningLine).reverse ++ new), ?_, ?_⟩
  · rw [← hdocument, List.append_assoc, List.append_assoc,
      show new ++ w.events = u.events from hevents.symm]
    rfl
  · have hlines : kept (u.other.errors.map Console.warningLine).reverse = [] := by
      refine kept_eq_nil fun e he => ?_
      obtain ⟨message, -, rfl⟩ := List.mem_map.mp (List.mem_reverse.mp he)
      rfl
    rw [Console.warnings_append, Console.warnings_append, hwarnings, hplain.1,
      Console.warnings_lines, kept_append, kept_append, hlines, hplain.2, herrors]
    simp only [List.append_nil, List.nil_append]

lemma records_remote (l : Link τ) (c : Client) (paging : Paging) :
    Records (remote l c paging).listStorages ∧
      (∀ storage container, Records ((remote l c paging).listChildren storage container)) ∧
      ∀ file target, Records ((remote l c paging).fetch file target) :=
  ⟨fun _ _ => (telling_listStorages (p := paging) rfl).errors,
    fun _ _ _ _ => (telling_listChildren (p := paging) rfl).errors,
    fun _ _ _ _ => (telling_fetch (p := paging) rfl).errors⟩

/-- **Every message of a session is shown once, and in its place**: in a run right after the
service that left it, for the stack is empty whenever a service is asked and every dealing shows
what it finds there; in a list of the files that nothing stops, in the end, each as one warning
and in the order in which they came. -/
theorem messages_shown (l : Link τ) (c : Client) (paging : Paging) (q : Run.Plan (Session τ))
    (shell : Shell τ) (g : General) (wanted : List Int) (w : World (Session τ)) :
    (Records (remote l c paging).listStorages ∧
      (∀ storage container, Records ((remote l c paging).listChildren storage container)) ∧
      ∀ file target, Records ((remote l c paging).fetch file target)) ∧
    (∃ result known w',
      (Run.start { q with remote := remote l c paging }).run w = (result, w') ∧
      Run.Proceeds { q with remote := remote l c paging } (fun s => s.errors = []) w result known
        w' ∧
      (w.other.errors = [] ∨ (∃ s, result = .ok s) → w'.other.errors = [])) ∧
    ∀ code w', (shell.files g wanted).run w = (.ok code, w') → code ≠ .cancelled →
      ∃ new, w'.events = new ++ w.events ∧
        Console.warnings new = (kept new).map Console.warningLine := by
  refine ⟨records_remote l c paging, ?_, fun code w' hrun hcode =>
    files_shows shell g wanted hrun hcode⟩
  obtain ⟨result, known, w', hrun, hproceeds⟩ :=
    Run.run_proceeds { q with remote := remote l c paging } w
  exact ⟨result, known, w', hrun, hproceeds.calm rfl⟩

/-- The list of the files of a bridge that refuses. -/
def refusedList : Except Failure ExitCode × World (Session Unit) :=
  (Shell.refusing.files ⟨none, none, .standard, false⟩ []).run ⟨.empty, start (), []⟩

/-- The refusal is on record once, and is shown as a warning once. -/
theorem messages_shown_refusal :
    refusedList.1 = .ok .success ∧
      kept refusedList.2.events =
        ["Could not list container root on storage 7: Resource not found"] ∧
      Console.warnings refusedList.2.events =
        (kept refusedList.2.events).map Console.warningLine := by
  have hsuccess : refusedList.1 = .ok .success := by decide +kernel
  let c : Client := { url := "http:" ++ "//bridge", key := none }
  obtain ⟨new, hevents, hwarnings⟩ := (messages_shown Link.refusing c { limit := 1000 }
    (Shell.refusing.runPlan .standard c ⟨.ofString ".", [], false⟩) Shell.refusing
    ⟨none, none, .standard, false⟩ [] ⟨.empty, start (), []⟩).2.2 .success refusedList.2
    (Prod.ext hsuccess rfl) (by decide)
  obtain rfl : refusedList.2.events = new := by
    rw [hevents]
    exact List.append_nil new
  exact ⟨hsuccess, by decide +kernel, hwarnings⟩

end Session

end Replica
