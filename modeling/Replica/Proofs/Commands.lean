import Replica.CommandLine.Program
import Replica.Proofs.Correspondence
import Replica.Proofs.Proceedings
/-!
# Commands that ask the bridge

Three commands of the program ask the bridge: they show the device, list its files, or copy it.
They have one frame in common, and this file takes it apart.

* **Orders.**  An `Order` is one of these commands with what it is told, and `Program.Asks` says
  that a command line is understood as one.
* **Work.**  `Shell.work` is what a command does between the opening and the closing of its session,
  with the document about it as the result.
* **Frames.**  `run_connecting`, `run_withClient` and `run_showErrors` say what the frame does to a
  world, and `Program.run_asks` what the program does with an order.
* **The survey.**  What is told while the device is shown is short enough to be listed
  (`Shell.Surveys`); runs and searches have files of their own.
-/

namespace Replica

variable {σ τ : Type}

/-- What becomes of a result when something is made of it. -/
lemma Procedure.run_return {S α β : Type} (p : Procedure S α) (f : α → β) (s : S) :
    (do return f (← p) : Procedure S β).run s = ((p.run s).1.map f, (p.run s).2) := by
  rw [Procedure.run_bind]
  rcases p.run s with ⟨_ | _, _⟩ <;> rfl

/-! ## Settings -/

section Settings

open Procedure (Keeps)

variable {s : Settings}

lemma keeps_files : Keeps id (Action.files : Action σ FileSystem) :=
  Keeps.bind (fun _ => rfl) fun _ => Keeps.pure _

lemma keeps_values : Keeps id (s.values : Action σ (List (String × String))) := by
  have hwritten : Keeps id (s.isWritten : Action σ Bool) :=
    keeps_files.bind fun _ => Keeps.ofExcept _
  refine hwritten.bind fun written => ?_
  cases written
  · exact Keeps.pure _
  · refine keeps_files.bind fun _ => (Keeps.ofExcept _).bind fun bytes => ?_
    split
    · exact Keeps.pure _
    · exact Keeps.fail _

/-- The settings are read, and nothing else happens. -/
lemma keeps_client (s : Settings) (url key : Option String) :
    Keeps id (s.client url key : Action σ Client) := by
  have hurl : Keeps id (s.urlOr url : Action σ String) := by
    rw [Settings.urlOr]
    split
    · exact Keeps.pure _
    · refine Keeps.bind ?_ fun _ => Keeps.pure _
      rw [Settings.url]
      split
      · exact Keeps.pure _
      · exact keeps_values.bind fun _ => Keeps.pure _
  have hkey : Keeps id (s.keyOr key : Action σ (Option String)) := by
    rw [Settings.keyOr]
    split
    · exact Keeps.pure _
    · rw [Settings.key]
      split
      · exact Keeps.pure _
      · exact keeps_values.bind fun _ => Keeps.pure _
  refine hurl.bind fun _ => hkey.bind fun _ => Keeps.bind ?_ fun _ => Keeps.pure _
  rw [Procedure.require]
  split_ifs
  · exact Keeps.pure _
  · exact Keeps.fail _

end Settings

/-! ## Frames -/

namespace Shell

variable {α : Type}

/-- The client that the settings give in a world. -/
def clientIn (shell : Shell τ) (g : General) (w : World (Session τ)) : Except Failure Client :=
  ((shell.settings.client g.url g.key).run w).1

/-- The world with a session that starts anew. -/
def renewed (w : World (Session τ)) : World (Session τ) :=
  { w with other := .start w.other.connection.link }

/-- The world with a closed connection. -/
def hungUp (w : World (Session τ)) : World (Session τ) :=
  { w with other := { w.other with connection := { w.other.connection with isOpen := false } } }

/-- How a command ends that gets no client. -/
def unconnected (w : World (Session τ)) : Failure → Except Failure ExitCode × World (Session τ)
  | .bridge error => (.ok .failure, w.add (Console.errorLine error.message))
  | failure => (.error failure, w)

lemma run_connecting (shell : Shell τ) (g : General)
    (command : Client → Action (Session τ) ExitCode) (w : World (Session τ)) :
    (shell.connecting g command).run w =
      match shell.clientIn g w with
      | .ok c => (command c).run w
      | .error failure => unconnected w failure := by
  have hworld : ((shell.settings.client g.url g.key).run w).2 = w := keeps_client _ _ _ w
  rw [connecting, Procedure.run_bind, Procedure.run_attempt, hworld, clientIn]
  rcases ((shell.settings.client g.url g.key).run w).1 with f | c
  · cases f <;> rfl
  · rfl

lemma run_withClient (work : Action (Session τ) α) (w : World (Session τ)) :
    (withClient work).run w =
      (.ok (work.run (renewed w)).1, hungUp (work.run (renewed w)).2) := by
  show (Procedure.attempt (Procedure.ending work hangUp)).run (renewed w) = _
  rw [Procedure.run_attempt, Procedure.ending, Procedure.run_bind, Procedure.run_attempt]
  rcases work.run (renewed w) with ⟨_ | _, w'⟩ <;> rfl

/-- The messages are shown one after the other. -/
lemma run_showErrors (console : Console) (r : Remote (Session τ)) (w : World (Session τ)) :
    (showErrors console r).run w =
      (.ok (), w.showing r ((r.errors w.other).map Console.warningLine)) := by
  have hlines : ∀ (messages : List String) (v : World (Session τ)),
      (messages.forM console.warning).run v =
        (.ok (), v.addAll (messages.map Console.warningLine)) := by
    intro messages
    induction messages with
    | nil => exact fun _ => rfl
    | cons message rest ih =>
      intro v
      refine (ih (v.add (Console.warningLine message))).trans ?_
      simp [World.addAll, World.add]
  exact hlines _ _

/-- The event of a document. -/
def documentLine (value : Json) : Event := .wrote .out (Console.plainText value.pretty ++ "\n")

/-- The command that lists the files, once it has a client. -/
lemma run_files (shell : Shell τ) {g : General} (wanted : List Int) {c : Client}
    {w : World (Session τ)} (hclient : shell.clientIn g w = .ok c) :
    (shell.files g wanted).run w =
      match (shell.listFiles g.console (shell.remote c) wanted).run (renewed w) with
      | (.ok found, v) =>
        (.ok .success, ((hungUp v).showing (shell.remote c)
          ((Session.errors v.other).map Console.warningLine)).addAll
            (if g.console.json then [documentLine (.array (found.map findingJson))] else []))
      | (.error .interrupted, v) =>
        (.ok .cancelled, (hungUp v).add (Console.warningLine "Listing cancelled by user"))
      | (.error failure, v) => (.error failure, hungUp v) := by
  rw [files, run_connecting, hclient]
  show (Procedure.run (withClient (shell.listFiles g.console (shell.remote c) wanted) >>= _) w) = _
  rw [Procedure.run_bind, run_withClient]
  rcases (shell.listFiles g.console (shell.remote c) wanted).run (renewed w) with ⟨f | found, v⟩
  · cases f <;> rfl
  · show (Procedure.run (showErrors g.console (shell.remote c) >>= _) (hungUp v)) = _
    rw [Procedure.run_bind, run_showErrors]
    cases g.console.json <;> rfl

/-- The command that shows the device, once it has a client. -/
lemma run_info (shell : Shell τ) {g : General} {c : Client} {w : World (Session τ)}
    (hclient : shell.clientIn g w = .ok c) :
    (shell.info g).run w =
      match (shell.survey g.console c).run (renewed w) with
      | (.ok overview, v) =>
        if g.console.json then (.ok .success, (hungUp v).add (documentLine overview.toJson))
        else (do printOverview g.console overview; return ExitCode.success).run (hungUp v)
      | (.error (.bridge error), v) =>
        (.ok .failure, (hungUp v).add (Console.errorLine ("API error: " ++ error.message)))
      | (.error failure, v) => (.error failure, hungUp v) := by
  rw [info, run_connecting, hclient]
  show (Procedure.run (withClient (shell.survey g.console c) >>= _) w) = _
  rw [Procedure.run_bind, run_withClient]
  rcases (shell.survey g.console c).run (renewed w) with ⟨f | overview, v⟩
  · cases f <;> rfl
  · cases g.console.json <;> rfl

/-- The command that copies the device, once it has a client. -/
lemma run_copy (shell : Shell τ) {g : General} (what : Copying) {c : Client}
    {w : World (Session τ)} (hclient : shell.clientIn g w = .ok c) :
    (shell.copy g what).run w =
      match (Run.start (shell.runPlan g.console c what)).run (renewed w) with
      | (.ok statistics, v) =>
        (.ok .success, (hungUp v).addAll
          (if g.console.json then [documentLine statistics.toJson] else []))
      | (.error .interrupted, v) =>
        (.ok .cancelled, (hungUp v).add (Console.warningLine "Mirror cancelled by user"))
      | (.error failure, v) =>
        if isReported failure then
          (.ok .failure, (hungUp v).add (Console.errorLine failure.message))
        else (.error failure, hungUp v) := by
  rw [copy, run_connecting, hclient]
  show (Procedure.run (withClient (Run.start (shell.runPlan g.console c what)) >>= _) w) = _
  rw [Procedure.run_bind, run_withClient]
  rcases (Run.start (shell.runPlan g.console c what)).run (renewed w) with ⟨f | statistics, v⟩
  · cases f
    case interrupted => rfl
    all_goals
      dsimp only
      rw [Procedure.run_bind, Procedure.require]
      split_ifs <;> rfl
  · cases g.console.json <;> rfl

end Shell

/-! ## The survey -/

namespace Shell

open Procedure (Preserves)

/-- What is told while the device is shown: the requests for it and for its storages, and warnings
about these. -/
inductive Surveys (l : Link τ) (c : Client) : Event → Prop where
  /-- A request for the device. -/
  | device {e : Event} (tells : Client.Tells l (c.Asks "/device" []) e) : Surveys l c e
  /-- A request for the storages. -/
  | storages {e : Event} (tells : Session.Tells l (c.Asks "/storages" []) e) : Surveys l c e
  /-- A warning. -/
  | warning (text : String) : Surveys l c (Console.warningLine text)

lemma since_survey (shell : Shell τ) (console : Console) (c : Client) (base : List Event) :
    Preserves (World.Since (Surveys shell.link c) base) (shell.survey console c) := by
  have hdevice : Preserves (World.Since (Surveys shell.link c) base)
      (Session.onConnection (c.device shell.link)) := by
    intro w hw
    have hrequest : Preserves (World.Since (Client.Tells shell.link (c.Asks "/device" [])) w.events)
        (c.device shell.link) := Client.since_request fun _ h => h
    obtain ⟨new, hevents, hnew⟩ := hrequest (w.withOther w.other.connection) ⟨[], rfl, by simp⟩
    exact hw.append hevents fun e he => .device (hnew e he)
  refine hdevice.bind fun _ => (Preserves.ofChecked _).bind fun _ => ?_
  refine (since_serve fun answer e he => ?_).bind fun _ => Preserves.bind ?_ fun _ =>
    Preserves.pure _
  · exact .storages ((Session.telling_listStorages answer).tells e he)
  · intro w hw
    rw [run_showErrors]
    refine World.Since.append (w := w) hw rfl fun e he => ?_
    obtain ⟨message, -, rfl⟩ := List.mem_map.mp (List.mem_reverse.mp he)
    exact .warning message

end Shell

/-! ## Orders -/

namespace Shell

/-- A command that asks the bridge, with what it is told. -/
inductive Order where
  /-- Shows the device. -/
  | info
  /-- Lists the files of these storages, or of all. -/
  | files (wanted : List Int)
  /-- Copies the device. -/
  | copy (what : Copying)

/-- Carries out an order. -/
def carryOut (shell : Shell τ) (g : General) : Order → Action (Session τ) ExitCode
  | .info => shell.info g
  | .files wanted => shell.files g wanted
  | .copy what => shell.copy g what

lemma carryOut_unconnected {shell : Shell τ} {g : General} {w : World (Session τ)} {f : Failure}
    (hclient : shell.clientIn g w = .error f) (order : Order) :
    (shell.carryOut g order).run w = unconnected w f := by
  cases order with
  | info => rw [carryOut, info, run_connecting, hclient]
  | files wanted => rw [carryOut, files, run_connecting, hclient]
  | copy what => rw [carryOut, copy, run_connecting, hclient]

/-- What is done for an order while the session is open; the result is the document about it. -/
def work (shell : Shell τ) (console : Console) (c : Client) : Order → Action (Session τ) Json
  | .info => do return (← shell.survey console c).toJson
  | .files wanted => do
    return .array ((← shell.listFiles console (shell.remote c) wanted).map findingJson)
  | .copy what => do return (← Run.start (shell.runPlan console c what)).toJson

end Shell

/-! ## Command lines -/

namespace Program

/-- What a command is told makes up this order; the destination of a copy is no file. -/
inductive Tells (files : FileSystem) : CommandName → Options.Parsed CommandKey → Shell.Order → Prop
    where
  | info {told : Options.Parsed CommandKey} (rest : told.arguments = []) :
    Tells files .info told .info
  | files {told : Options.Parsed CommandKey} {wanted : List Int}
    (storages : storagesOf told = .ok wanted) (rest : told.arguments = []) :
    Tells files .files told (.files wanted)
  | copy {told : Options.Parsed CommandKey} {wanted : List Int}
    (storages : storagesOf told = .ok wanted)
    (place : files.leadsToFile (told.arguments.headD ".") = .ok false)
    (rest : told.arguments.drop 1 = []) :
    Tells files .copy told
      (.copy ⟨.ofString (told.arguments.headD "."), wanted, told.has .includeAbstract⟩)

/-- The command line is understood: it has these general options and asks for this order. -/
structure Asks (e : Environment) (files : FileSystem) (arguments : List String) (g : General)
    (order : Shell.Order) : Prop where
  understood : ∃ p name told, readGeneral e arguments = .ok (g, p) ∧ askedInstead p = none ∧
    readTask p.arguments = .ok (.command name told) ∧ Tells files name told order

lemma run_perform {shell : Shell τ} {g : General} {name : CommandName}
    {told : Options.Parsed CommandKey} {order : Shell.Order} {w : World (Session τ)}
    (h : Tells w.files name told order) :
    (perform shell g name told).run w = (shell.carryOut g order).run w := by
  cases h with
  | info rest =>
    rw [perform, rest]
    rfl
  | files storages rest =>
    rw [perform, storages, rest]
    rfl
  | copy storages place rest =>
    rw [perform, storages, rest]
    show (Procedure.run (Procedure.ofRequest _ (w.files.leadsToFile _) >>= _) w) = _
    rw [place]
    rfl

/-- **The program carries out the order** that its command line asks for. -/
lemma run_asks {shell : Shell τ} {arguments : List String} {g : General} {order : Shell.Order}
    {w : World (Session τ)} (h : Asks shell.settings.environment w.files arguments g order) :
    (run shell arguments).run w =
      (outcomeOf ((shell.carryOut g order).run w).1).run ((shell.carryOut g order).run w).2 := by
  obtain ⟨p, name, told, hgeneral, hasked, htask, htells⟩ := h.understood
  have hsome : arguments.isEmpty = false := by
    cases arguments with
    | nil =>
      cases hgeneral
      cases htask
    | cons _ _ => rfl
  have hcommand : (command shell arguments).run w = (shell.carryOut g order).run w := by
    rw [command, hsome, if_neg Bool.false_ne_true, hgeneral, ← run_perform htells]
    rw [understood]
    dsimp only
    rw [hasked, htask]
    rfl
  rw [run, Procedure.run_bind, Procedure.run_attempt, hcommand]

end Program

/-! ## A bridge that refuses -/

/-- A bridge with one storage, which it does not list. -/
def Link.refusing : Link Unit where
  exchange r state files :=
    if r.url.endsWith "/storages" then
      (.response ⟨200, [("Content-Type", "application/json")],
        "\x7b\"storages\": [\x7b\"id\": 7\x7d]\x7d".toList.map fun c => c.toNat.toUInt8, none⟩,
        state, files)
    else (.response ⟨404, [], [], none⟩, state, files)
  redirected _ _ := .error "nowhere"
  chance state := (0, state)
  pause _ _ := .elapsed

/-- A shell with that bridge. -/
def Shell.refusing : Shell Unit where
  link := .refusing
  settings := ⟨.ofString "settings", ⟨some ("http:" ++ "//bridge"), none⟩⟩
  display := .blank
  limit := 1000

end Replica
