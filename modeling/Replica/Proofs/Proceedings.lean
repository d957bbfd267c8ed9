import Replica.Proofs.Rounds
/-!
# Proceedings of a run

A course forgets what is said and what a service reports.  Where that matters (which message is
shown for which listing, which request follows from which answer) this file keeps the whole world:
it says, dealing by dealing, which worlds a run comes to.

* **Events.**  An event may be a line on the standard output, a part of a dealing with the other
  side, or a report about one; `Plan.Says` are the events of a run that are neither a dealing nor
  a report.
* **Dealings.**  A listing or a fetch is one step of `Reaches`, with everything that belongs to it:
  what was asked from where, what the answer left, and the lines in which the messages on the stack
  are shown.  `Lore` collects the nodes that the answers gave, so that a dealing can say where the
  number it asks for comes from.
* **Runs.**  `run_proceeds` shows that every run, with any remote tree and in any world, proceeds
  like this (`Proceeds`), whether it returns or is stopped.
-/

namespace Replica

variable {σ : Type}

/-! ## What is printed -/

namespace Console

section Values

open Procedure (Preserves)

variable {c : Console} {I : World σ → Prop}

/-- What printing keeps is kept if there is a value in what is printed: it is printed like a text,
or there are surrogates in it. -/
lemma preserves_printValue (h : ∀ text, Preserves I (c.print text)) (message : Json) :
    Preserves I (c.printValue message) := by
  rcases hvalue : message.unwritable? with _ | t
  · rw [printValue, writeValue, hvalue]
    exact h message.display
  · rw [printValue, writeValue, hvalue]
    exact Preserves.ite (Preserves.pure _) (Preserves.fail _)

lemma preserves_infoValue (h : ∀ text, Preserves I (c.info text)) (message : Json) :
    Preserves I (c.infoValue message) := by
  rcases hvalue : message.unwritable? with _ | t
  · rw [infoValue, writeValue, hvalue]
    exact h message.display
  · rw [infoValue, writeValue, hvalue]
    exact Preserves.ite (Preserves.pure _) (Preserves.fail _)

end Values

/-- Text without an escape character is kept, whatever follows it. -/
lemma dropSequences_append {front : List Char} (h : '\x1b' ∉ front) (rest : List Char) :
    dropSequences 0 (front ++ rest) = front ++ dropSequences 0 rest := by
  induction front with
  | nil => rfl
  | cons c front ih =>
    obtain ⟨hc, hfront⟩ : '\x1b' ≠ c ∧ '\x1b' ∉ front := by simpa using h
    rw [List.cons_append, dropSequences, ih hfront, List.cons_append]
    exact fun _ hescape _ => hc hescape.symm

lemma plainText_append {front : String} (h : '\x1b' ∉ front.toList) (rest : String) :
    plainText (front ++ rest) = front ++ plainText rest := by
  rw [plainText, String.toList_append, dropSequences_append h, String.ofList_append,
    String.ofList_toList, plainText]

lemma plainText_eq_self {text : String} (h : '\x1b' ∉ text.toList) : plainText text = text := by
  simpa [plainText, dropSequences] using plainText_append h ""

/-- The event of a warning. -/
def warningLine (text : String) : Event := .wrote .err (plainText ("Warning: " ++ text) ++ "\n")

/-- The event of an error. -/
def errorLine (text : String) : Event := .wrote .err (plainText ("Error: " ++ text) ++ "\n")

end Console

/-! ## Events -/

namespace Event

/-- Whether the event puts a text onto the standard output. -/
def isOutput : Event → Bool
  | wrote .out _ => true
  | _ => false

/-- Whether the event belongs to a dealing with the other side. -/
def isDealing : Event → Bool
  | sent _ | followed _ => true
  | step _ (.listing ..) | step _ (.listed _) | step _ (.fetching ..) | step _ (.fetched _) => true
  | _ => false

/-- How a line starts that shows messages of a remote tree: one about a listing of storages, one
about another listing, those about a fetch. -/
def reportFronts : List (List Char) :=
  ["Warning: Could not list storages: ".toList, "Warning: Remote error while ".toList,
    "Error: couldn't write ".toList]

/-- Whether the event is a line that shows messages of a remote tree. -/
def isReport : Event → Bool
  | wrote .err text => reportFronts.any fun front => front.isPrefixOf text.toList
  | _ => false

/-- A warning is no such line if its first character differs. -/
lemma isReport_warningLine {text : String} {c : Char} (h : text.toList.head? = some c)
    (hc : c ∉ ['C', 'R', '\x1b']) : isReport (Console.warningLine text) = false := by
  obtain ⟨hstorages, hlisting, hescape⟩ : c ≠ 'C' ∧ c ≠ 'R' ∧ c ≠ '\x1b' := by simpa using hc
  obtain ⟨rest, hrest⟩ : ∃ rest, text.toList = c :: rest := List.head?_eq_some_iff.mp h
  have hline : (Console.plainText ("Warning: " ++ text) ++ "\n").toList =
      "Warning: ".toList ++ c :: (Console.dropSequences 0 rest ++ ['\n']) := by
    have hplain : Console.dropSequences 0 (c :: rest) = c :: Console.dropSequences 0 rest :=
      Console.dropSequences_append (show '\x1b' ∉ [c] by simpa using hescape.symm) rest
    rw [Console.plainText_append (by decide), Console.plainText, hrest, hplain]
    simp
  -- the fronts of warnings differ from the line in the character after `Warning: `
  have hwarning : ∀ d front, d ≠ c → ¬"Warning: ".toList ++ d :: front <+:
      "Warning: ".toList ++ c :: (Console.dropSequences 0 rest ++ ['\n']) := by
    intro d front hd hprefix
    rw [List.prefix_append_right_inj, List.cons_prefix_cons] at hprefix
    exact hd hprefix.1
  rw [Console.warningLine, isReport, hline, List.any_eq_false]
  intro front hfront hprefix
  rw [List.isPrefixOf_iff_prefix] at hprefix
  simp only [reportFronts, List.mem_cons, List.not_mem_nil, or_false] at hfront
  rcases hfront with rfl | rfl | rfl
  · exact hwarning 'C' "ould not list storages: ".toList hstorages.symm hprefix
  · exact hwarning 'R' "emote error while ".toList hlisting.symm hprefix
  · rw [show "Error: couldn't write ".toList = 'E' :: "rror: couldn't write ".toList by decide,
      show "Warning: ".toList = 'W' :: "arning: ".toList by decide, List.cons_append,
      List.cons_prefix_cons] at hprefix
    exact absurd hprefix.1 (by decide)

end Event

/-! ## Worlds -/

namespace World

/-- What a service leaves: what it reports comes on top of what happened before. -/
def after (w v : World σ) : World σ := { v with events := reported v.events ++ w.events }

/-- The messages of the remote tree are taken off their stack, and these events follow. -/
def showing (w : World σ) (r : Remote σ) (events : List Event) : World σ :=
  { w with other := r.forgetErrors w.other }.addAll events

end World

/-! ## Dealings -/

/-- The nodes that answers gave, each with its storage. -/
abbrev Lore := List (Int × Node)

/-- The container is the top of the storage, or a folder of the storage that an answer gave. -/
def Lore.Knows (known : Lore) (storage : Int) (container : Option Int) : Prop :=
  ∀ id ∈ container, ∃ n : Node, (storage, n) ∈ known ∧ n.isContainer = true ∧ n.id = id

/-- More is known of the nodes of a longer list. -/
lemma Lore.Knows.mono {known all : Lore} {storage : Int} {container : Option Int}
    (h : known.Knows storage container) (hall : known ⊆ all) : all.Knows storage container := by
  intro id hid
  obtain ⟨n, hn, hfolder⟩ := h id hid
  exact ⟨n, hall hn, hfolder⟩

/-- A folder that an answer gave is known. -/
lemma Lore.knows_of_mem {known : Lore} {storage : Int} {n : Node} (h : (storage, n) ∈ known)
    (hfolder : n.isContainer = true) : known.Knows storage (some n.id) := by
  rintro id ⟨rfl⟩
  exact ⟨n, h, hfolder, rfl⟩

/-- What a display puts onto the standard output that is not to be shown. -/
inductive Display.Utters (d : Display) : Event → Prop where
  /-- The text with which it would appear. -/
  | opening (text : d.opening false ≠ "") : Utters d (.wrote .out (d.opening false))
  /-- The text with which it would disappear. -/
  | closing {description : String} (text : d.closing false description ≠ "") :
    Utters d (.wrote .out (d.closing false description))

namespace Run

/-- The events of a run that belong to no dealing and show no message about one; with a console
for documents they are no output either, unless the display makes it. -/
structure Plan.Says (p : Plan σ) (e : Event) : Prop where
  dealing : e.isDealing = false
  report : e.isReport = false
  output : p.console.json = true → e.isOutput = false ∨ p.display.Utters e

/-- The lines about a message of a listing: it is logged, and shown in a warning that names the
container, by its number if it is not the top of its storage, and the directories on the trail, each
with a slash behind it. -/
def listingLines (standing : Standing) (container : Option Int) (message : String) : List Event :=
  let named := match container with
    | none => "root"
    | some id => toString id
  let text := "Remote error while listing " ++ named ++ " in '"
    ++ String.join (standing.segments.map (· ++ "/")) ++ "': " ++ message
  [.logged ⟨.warning, .walk, text⟩, Console.warningLine text]

/-- The lines about the messages of a fetch: they are logged, and shown in one error that names
the file and the local directory. -/
def fetchLines (root : Path) (standing : Standing) (name : String) (messages : List String) :
    List Event :=
  let text := "couldn't write " ++ name ++ " in dir "
    ++ (standing.parts.foldl Path.join root).text ++ ": "
    ++ if messages.isEmpty then "unknown error" else "; ".intercalate messages
  [.logged ⟨.error, .walk, text⟩, Console.errorLine text]

/-- The lines about a message of a listing of storages. -/
def storageLines (message : String) : List Event :=
  [.logged ⟨.warning, .run, message⟩, Console.warningLine message]

section Dealings

variable (p : Plan σ) (standing : Standing) (storage : Int) (container : Option Int)
  (file : Node) (target : Path) (w v : World σ)

/-- What is left of a listing before it is told that it succeeded. -/
def afterListing : World σ := (w.add (.step standing (.listing storage container))).after v

/-- What is left of a fetch before it is told whether it succeeded. -/
def afterFetching : World σ := (w.add (.step standing (.fetching file target))).after v

/-- What is left of a listing that succeeded: all messages are shown at once, before anything
else. -/
def afterListed (children : List Node) : World σ :=
  ((afterListing standing storage container w v).add (.step standing (.listed children))).showing
    p.remote ((p.remote.errors v.other).flatMap (listingLines standing container))

/-- What is left of a fetch that failed: all messages are shown at once, in one line. -/
def afterMissed (name : String) : World σ :=
  ((afterFetching standing file target w v).add (.step standing (.fetched false))).showing p.remote
    (fetchLines p.destination standing name (p.remote.errors v.other))

end Dealings

/-- The worlds that a run comes to from a world in which it walks the storages `ids`, with the
nodes that it was given until then.  Whenever the other side is asked for a listing or for a
content, its state satisfies `calm`. -/
inductive Reaches (p : Plan σ) (ids : List Int) (calm : σ → Prop) (w₀ : World σ) :
    Lore → World σ → Prop where
  /-- The run has done nothing yet. -/
  | start : Reaches p ids calm w₀ [] w₀
  /-- Something is said that belongs to no dealing. -/
  | speaks {known : Lore} {w : World σ} {e : Event} (past : Reaches p ids calm w₀ known w)
    (plain : p.Says e) : Reaches p ids calm w₀ known (w.add e)
  /-- The local files are changed. -/
  | puts {known : Lore} {w : World σ} (past : Reaches p ids calm w₀ known w)
    (files : FileSystem) : Reaches p ids calm w₀ known { w with files }
  /-- A listing succeeds. -/
  | lists {known : Lore} {w v : World σ} {storage : Int} {container : Option Int}
    {children : List Node} (past : Reaches p ids calm w₀ known w) (standing : Standing)
    (quiet : calm w.other) (chosen : storage ∈ ids) (source : known.Knows storage container)
    (answer : p.remote.listChildren storage container w.other w.files = (.ok children, v)) :
    Reaches p ids calm w₀ (known ++ children.map fun n => (storage, n))
      (afterListed p standing storage container w v children)
  /-- A listing fails. -/
  | fails {known : Lore} {w v : World σ} {storage : Int} {container : Option Int} {f : Failure}
    (past : Reaches p ids calm w₀ known w) (standing : Standing) (quiet : calm w.other)
    (chosen : storage ∈ ids) (source : known.Knows storage container)
    (answer : p.remote.listChildren storage container w.other w.files = (.error f, v)) :
    Reaches p ids calm w₀ known (afterListing standing storage container w v)
  /-- A content is fetched. -/
  | fetches {known : Lore} {w v : World σ} {storage : Int} {file : Node} {target : Path}
    (past : Reaches p ids calm w₀ known w) (standing : Standing) (quiet : calm w.other)
    (source : (storage, file) ∈ known) (leaf : file.isContainer = false)
    (answer : p.remote.fetch file target w.other w.files = (.ok true, v)) :
    Reaches p ids calm w₀ known
      ((afterFetching standing file target w v).add (.step standing (.fetched true)))
  /-- A content is not fetched. -/
  | misses {known : Lore} {w v : World σ} {storage : Int} {file : Node} {target : Path}
    {name : String} (past : Reaches p ids calm w₀ known w) (standing : Standing)
    (quiet : calm w.other) (source : (storage, file) ∈ known) (leaf : file.isContainer = false)
    (named : file.name = .string name)
    (place : target = (LocalDirectory.mk p.destination standing.parts).pathFor name)
    (answer : p.remote.fetch file target w.other w.files = (.ok false, v)) :
    Reaches p ids calm w₀ known (afterMissed p standing file target w v name)
  /-- A fetch fails. -/
  | breaks {known : Lore} {w v : World σ} {storage : Int} {file : Node} {target : Path}
    {f : Failure} (past : Reaches p ids calm w₀ known w) (standing : Standing)
    (quiet : calm w.other) (source : (storage, file) ∈ known) (leaf : file.isContainer = false)
    (answer : p.remote.fetch file target w.other w.files = (.error f, v)) :
    Reaches p ids calm w₀ known (afterFetching standing file target w v)

/-! ## Walks -/

section Walks

open Procedure (Ensures Preserves)
open Walk (Scene Part lift)

variable {p : Plan σ} {ids : List Int} {w₀ : World σ} {known : Lore} {storage : Int}
  {container : Option Int} {file : Node} {name : String} {α : Type}

/-- The run has come to this world, and these nodes were given by then. -/
def Past (p : Plan σ) (ids : List Int) (w₀ : World σ) (known : Lore) (w : World σ) : Prop :=
  ∃ all, known ⊆ all ∧ Reaches p ids (fun _ => True) w₀ all w

/-- The run has come to the world of this scene, and the walk is below the destination. -/
def Under (p : Plan σ) (ids : List Int) (w₀ : World σ) (known : Lore) (s : Scene σ) : Prop :=
  s.walk.place.root = p.destination ∧ Past p ids w₀ known s.world

lemma Under.mono {less : Lore} (hless : less ⊆ known) {s : Scene σ}
    (h : Under p ids w₀ known s) : Under p ids w₀ less s := by
  obtain ⟨hroot, all, hall, hreaches⟩ := h
  exact ⟨hroot, all, List.Subset.trans hless hall, hreaches⟩

/-! ### What is said -/

lemma plain_logged (r : LogRecord) : p.Says (.logged r) := ⟨rfl, rfl, fun _ => .inl rfl⟩

lemma plain_warning {text : String} {c : Char} (h : text.toList.head? = some c)
    (hc : c ∉ ['C', 'R', '\x1b']) : p.Says (Console.warningLine text) :=
  ⟨rfl, Event.isReport_warningLine h hc, fun _ => .inl rfl⟩

lemma past_record {e : Event} (h : p.Says e) :
    Preserves (Past p ids w₀ known) (Action.record e : Action σ Unit) := by
  rintro w ⟨all, hall, hreaches⟩
  exact ⟨all, hall, hreaches.speaks h⟩

lemma past_log (level : Level) (origin : Origin) (text : String) :
    Preserves (Past p ids w₀ known) (Action.log level origin text : Action σ Unit) :=
  past_record (plain_logged _)

lemma past_setFiles (files : FileSystem) :
    Preserves (Past p ids w₀ known) (Action.setFiles files : Action σ Unit) := by
  rintro w ⟨all, hall, hreaches⟩
  exact ⟨all, hall, hreaches.puts files⟩

lemma past_files : Preserves (Past p ids w₀ known) (Action.files : Action σ FileSystem) :=
  Preserves.bind Preserves.state fun _ => Preserves.pure _

lemma past_writeOut (h : p.console.json = false) (text : String) :
    Preserves (Past p ids w₀ known) (Console.writeLine .out text : Action σ Unit) := by
  refine past_record ⟨rfl, rfl, fun hjson => ?_⟩
  rw [h] at hjson
  cases hjson

lemma past_info (text : String) :
    Preserves (Past p ids w₀ known) (p.console.info text : Action σ Unit) := by
  rw [Console.info]
  split_ifs with hsilent
  · exact Preserves.pure _
  · exact past_writeOut (by simp_all) text

lemma past_print (text : String) :
    Preserves (Past p ids w₀ known) (p.console.print text : Action σ Unit) := by
  rw [Console.print]
  split_ifs with hsilent
  · exact Preserves.pure _
  · exact past_writeOut (by simp_all) text

/-! ### Parts of a walk -/

lemma under_lift {action : Action σ α} (h : Preserves (Past p ids w₀ known) action) :
    Preserves (Under p ids w₀ known) (lift action) :=
  h.within (fun _ hs => hs.2) fun _ _ hs ht => ⟨hs.1, ht⟩

lemma under_change {f : Walk → Walk} (h : ∀ w, (f w).place = w.place) :
    Preserves (Under p ids w₀ known) (Walk.change f : Part σ Unit) :=
  Preserves.change fun s hs => ⟨by rw [h]; exact hs.1, hs.2⟩

lemma under_count (f : Statistics → Statistics) :
    Preserves (Under p ids w₀ known) (Walk.count f : Part σ Unit) :=
  under_change fun _ => rfl

lemma under_here : Preserves (Under p ids w₀ known) (Walk.here : Part σ Walk) :=
  Preserves.bind Preserves.state fun _ => Preserves.pure _

lemma under_step {what : Step} (h : ∀ standing, Event.isDealing (.step standing what) = false) :
    Preserves (Under p ids w₀ known) (Walk.step what : Part σ Unit) :=
  under_here.bind fun _ => under_lift (past_record ⟨h _, rfl, fun _ => .inl rfl⟩)

lemma under_log (level : Level) (origin : Origin) (text : String) :
    Preserves (Under p ids w₀ known) (lift (Action.log level origin text) : Part σ Unit) :=
  under_lift (past_log level origin text)

lemma under_nameText (json : Json) :
    Ensures (Under p ids w₀ known) (Walk.nameText json)
      (fun name s => json = .string name ∧ Under p ids w₀ known s)
      (fun _ => Under p ids w₀ known) := by
  intro s hs
  cases json
  case string name => exact ⟨rfl, hs⟩
  all_goals exact hs

lemma under_checkAgreement :
    Preserves (Under p ids w₀ known) (Walk.checkAgreement : Part σ Unit) :=
  under_here.bind fun _ => Preserves.ite (Preserves.pure _) (Preserves.fail _)

/-- A move to another local directory stays below the destination. -/
lemma under_moveTo (move : LocalDirectory → Action σ LocalDirectory)
    (hmove : ∀ d w, ((move d).run w).2 = w ∧ ∀ d', ((move d).run w).1 = .ok d' → d'.root = d.root)
    {rest : Part σ Unit} (hrest : Preserves (Under p ids w₀ known) rest) :
    Preserves (Under p ids w₀ known) (Walk.here >>= fun w => lift (move w.place) >>= fun place =>
      Walk.change (fun w => { w with place }) >>= fun _ => rest) := by
  intro s hs
  obtain ⟨hworld, hplace⟩ := hmove s.walk.place s.world
  show Under p ids w₀ known (Procedure.run (lift (move s.walk.place) >>= fun place =>
    Walk.change (fun w => { w with place }) >>= fun _ => rest) s).2
  rw [Procedure.run_bind, lift, Procedure.run_within]
  rcases hrun : (move s.walk.place).run s.world with ⟨f | place, w⟩ <;>
    rw [hrun] at hworld hplace
  · obtain rfl : w = s.world := hworld
    exact hs
  · obtain rfl : w = s.world := hworld
    exact hrest { s with walk := { s.walk with place } } ⟨(hplace place rfl).trans hs.1, hs.2⟩

lemma past_create (d : LocalDirectory) (name : String) :
    Preserves (Past p ids w₀ known) (d.create name) := by
  have hleads : Preserves (Past p ids w₀ known)
      (LocalDirectory.leadsToDirectory (d.pathFor name)) :=
    past_files.bind fun _ => Preserves.ofRequest _ _
  refine past_files.bind fun files => ?_
  split
  · exact (past_setFiles _).bind fun _ => past_log _ _ _
  · exact Preserves.fail _
  · exact hleads.bind fun _ => Preserves.ite (Preserves.pure _) (Preserves.fail _)
  · exact Preserves.fail _

lemma under_goDown (name : String) :
    Preserves (Under p ids w₀ known) (Walk.goDown name : Part σ Unit) := by
  have hpush : Preserves (Under p ids w₀ known) (Walk.push name : Part σ Unit) := by
    refine under_here.bind fun w => ?_
    split
    · exact under_change fun _ => rfl
    · exact Preserves.fail _
  refine under_here.bind fun _ => (under_lift (past_create _ _)).bind fun _ => ?_
  refine under_moveTo (fun d => d.enter name) (fun d w => ?_)
    (hpush.bind fun _ => under_checkAgreement)
  rw [LocalDirectory.run_enter]
  exact ⟨rfl, fun d' h => by rw [LocalDirectory.eq_of_entered h]⟩

lemma under_goUp : Preserves (Under p ids w₀ known) (Walk.goUp : Part σ Unit) := by
  have hpop : Preserves (Under p ids w₀ known) (Walk.pop : Part σ Unit) := by
    refine under_here.bind fun w => ?_
    split
    · exact under_change fun _ => rfl
    · exact Preserves.fail _
  refine hpop.bind fun _ => under_moveTo LocalDirectory.leave (fun d w => ?_) under_checkAgreement
  rw [LocalDirectory.run_leave]
  exact ⟨rfl, fun d' h => by rw [LocalDirectory.eq_of_left h]⟩

/-! ### Files -/

lemma run_serve_add {service : Service σ α} {w v : World σ} {r : Except Failure α}
    (h : service w.other w.files = (r, v)) (walk : Walk) (e : Event) :
    (lift (Action.serve service)).run ⟨walk, w.add e⟩ = (r, ⟨walk, (w.add e).after v⟩) := by
  have hrun : (Action.serve service).run (w.add e) = (r, (w.add e).after v) := Walk.run_serve h
  rw [lift, Procedure.run_within, hrun]

/-- A file that an answer gave is asked for; the messages about a failure are the first that is
spoken of then. -/
lemma under_fetching (hsource : (storage, file) ∈ known) (hleaf : file.isContainer = false)
    (hname : file.name = .string name) (rest : Bool → Part σ Unit)
    (htrue : Preserves (Under p ids w₀ known) (rest true))
    (hfalse : ∀ s : Scene σ, s.walk.place.root = p.destination →
      Past p ids w₀ known (s.world.showing p.remote (fetchLines p.destination s.walk.standing name
        (p.remote.errors s.world.other))) →
      Under p ids w₀ known ((rest false).run s).2) :
    Preserves (Under p ids w₀ known) (Walk.here >>= fun w =>
      Walk.step (.fetching file (w.place.pathFor name)) >>= fun _ =>
      lift (Action.serve (p.remote.fetch file (w.place.pathFor name))) >>= fun success =>
      Walk.step (.fetched success) >>= fun _ => rest success) := by
  intro s hs
  obtain ⟨hroot, all, hall, hreaches⟩ := hs
  rcases hanswer : p.remote.fetch file (s.walk.place.pathFor name) s.world.other s.world.files
    with ⟨r, v⟩
  show Under p ids w₀ known (Procedure.run
    (lift (Action.serve (p.remote.fetch file (s.walk.place.pathFor name))) >>= fun success =>
      Walk.step (.fetched success) >>= fun _ => rest success)
    ⟨s.walk, s.world.add (.step s.walk.standing
      (.fetching file (s.walk.place.pathFor name)))⟩).2
  rw [Procedure.run_bind, run_serve_add hanswer]
  rcases r with f | _ | _
  · exact ⟨hroot, all, hall, hreaches.breaks _ trivial (hall hsource) hleaf hanswer⟩
  · refine hfalse ⟨s.walk, (afterFetching s.walk.standing file (s.walk.place.pathFor name)
      s.world v).add (.step s.walk.standing (.fetched false))⟩ hroot ⟨all, hall, ?_⟩
    refine hreaches.misses _ trivial (hall hsource) hleaf hname ?_ hanswer
    rw [← hroot]
    rfl
  · exact htrue _ ⟨hroot, all, hall, hreaches.fetches _ trivial (hall hsource) hleaf hanswer⟩

lemma under_transfer (hsource : (storage, file) ∈ known) (hleaf : file.isContainer = false)
    (hname : file.name = .string name) (path size : String) :
    Preserves (Under p ids w₀ known) (Walk.transfer p.walk file name path size) := by
  refine under_fetching hsource hleaf hname (fun success =>
    if success then do
      Walk.count fun c => { c with downloads := c.downloads + 1 }
      p.walk.console.forM fun console =>
        lift (console.info ("Fetched: " ++ path ++ " (" ++ size ++ ")"))
    else Walk.failTransfer p.walk name) ?_ fun s hroot hpast => ?_
  · exact (under_count _).bind fun _ => under_lift (past_info _)
  · have hrest : Preserves (Under p ids w₀ known) (do
        Walk.count fun c => { c with failures := c.failures + 1 }
        let budget ← lift (← Walk.here).budget.spend
        Walk.change fun w => { w with budget }
        lift budget.check : Part σ Unit) := by
      refine (under_count _).bind fun _ => under_here.bind fun _ => ?_
      refine (under_lift ((past_log _ _ _).bind fun _ => Preserves.pure _)).bind fun _ => ?_
      exact (under_change fun _ => rfl).bind fun _ => under_lift (Preserves.require _ _)
    rw [fetchLines, ← hroot] at hpast
    exact hrest _ ⟨hroot, hpast⟩

lemma past_inspect (d : LocalDirectory) (name : String) (declared : Json) :
    Preserves (Past p ids w₀ known) (Comparison.inspect d name declared : Action σ Comparison) := by
  have hinspect : Preserves (Past p ids w₀ known) (d.inspect name : Action σ (Option Nat)) := by
    intro w hw
    rw [LocalDirectory.run_inspect]
    exact hw
  exact hinspect.bind fun _ => (past_log _ _ _).bind fun _ => Preserves.pure _

lemma under_bringUpToDate (hsource : (storage, file) ∈ known) (hleaf : file.isContainer = false) :
    Preserves (Under p ids w₀ known) (Walk.bringUpToDate p.walk file) := by
  refine under_here.bind fun _ => (under_count _).bind fun _ => ?_
  refine (under_step fun _ => rfl).bind fun _ => ?_
  refine (under_lift (Preserves.ofChecked _)).bind fun _ => (under_log _ _ _).bind fun _ => ?_
  refine Ensures.preserves (Ensures.bind (under_nameText file.name) fun name =>
    Ensures.of_and fun hname => Preserves.ensures ?_) (fun _ _ h => h) fun _ _ h => h
  refine (under_step fun _ => rfl).bind fun _ => under_here.bind fun _ => ?_
  refine (under_lift (past_inspect _ _ _)).bind fun _ => ?_
  refine Preserves.ite (under_count _) (Preserves.ite ?_ ?_)
  · exact (under_count _).bind fun _ => under_log _ _ _
  · exact under_transfer hsource hleaf hname _ _

/-! ### Folders and listings -/

lemma under_goThrough {below : Int → Part σ Unit}
    (hbelow : Preserves (Under p ids w₀ known) (below file.id)) :
    Preserves (Under p ids w₀ known) (Walk.goThrough below file) := by
  refine under_here.bind fun _ => (Preserves.require _ _).bind fun _ => ?_
  refine (under_log _ _ _).bind fun _ => ?_
  have hname : Preserves (Under p ids w₀ known) (Walk.nameText file.name) :=
    (under_nameText _).preserves (fun _ _ h => h.2) fun _ _ h => h
  refine hname.bind fun _ => (under_goDown _).bind fun _ => ?_
  refine (under_step fun _ => rfl).bind fun _ => (under_count _).bind fun _ => ?_
  refine hbelow.bind fun _ => under_goUp.bind fun _ => ?_
  exact (under_step fun _ => rfl).bind fun _ => under_here.bind fun _ => under_log _ _ _

/-- A child that an answer gave gets its turn. -/
lemma under_takeUp {below : Int → Part σ Unit} (hsource : (storage, file) ∈ known)
    (hbelow : file.isContainer = true → Preserves (Under p ids w₀ known) (below file.id)) :
    Preserves (Under p ids w₀ known) (Walk.takeUp p.walk below file) := by
  refine (under_step fun _ => rfl).bind fun _ => (under_lift (Preserves.ofChecked _)).bind
    fun usable => Preserves.ite ?_ ?_
  · refine (under_count _).bind fun _ => under_here.bind fun w => ?_
    have hline : Preserves (Past p ids w₀ known) (p.console.warning ("Skipping entry "
        ++ toString file.id ++ " with unusable name " ++ file.name.quotedText ++ " in '"
        ++ w.trail.path ++ "'") : Action σ Unit) :=
      past_record (plain_warning (by simp) (c := 'S') (by decide))
    exact (under_log _ _ _).bind fun _ => under_lift hline
  · by_cases hfolder : file.isContainer = true
    · rw [if_pos hfolder]
      exact under_goThrough (hbelow hfolder)
    · rw [if_neg hfolder]
      exact under_bringUpToDate hsource (by simpa using hfolder)

lemma listingLines_eq (walk : Walk) (container : Option Int) (message : String) :
    listingLines walk.standing container message =
      [.logged ⟨.warning, .walk, "Remote error while "
          ++ ("listing " ++ Node.idText container ++ " in '" ++ walk.trail.path ++ "'") ++ ": "
          ++ message⟩,
        Console.warningLine ("Remote error while "
          ++ ("listing " ++ Node.idText container ++ " in '" ++ walk.trail.path ++ "'") ++ ": "
          ++ message)] := by
  have htext : "Remote error while listing " = "Remote error while " ++ "listing " := by decide
  have hend : "': " = "'" ++ ": " := by decide
  cases container <;>
    simp only [listingLines, Node.idText, htext, hend, Trail.path, Trail.pathOf, Walk.standing,
      String.append_assoc]

/-- The messages of a listing are shown one after the other. -/
lemma run_warnAll (container : Option Int) (messages : List String) (walk : Walk) (w : World σ) :
    (messages.forM fun message => Walk.warn p.walk ("Remote error while "
        ++ ("listing " ++ Node.idText container ++ " in '" ++ walk.trail.path ++ "'") ++ ": "
        ++ message)).run ⟨walk, w⟩ =
      (.ok (), ⟨walk, w.addAll (messages.flatMap (listingLines walk.standing container))⟩) := by
  induction messages generalizing w with
  | nil => rfl
  | cons message rest ih =>
    have hwarn : (Walk.warn p.walk ("Remote error while "
        ++ ("listing " ++ Node.idText container ++ " in '" ++ walk.trail.path ++ "'") ++ ": "
        ++ message)).run ⟨walk, w⟩ =
          (.ok (), ⟨walk, w.addAll (listingLines walk.standing container message)⟩) := by
      rw [listingLines_eq]
      rfl
    rw [List.forM, Procedure.run_bind_of_ok hwarn, ih]
    simp [World.addAll]

/-- A container is listed; the messages about that are the first that is spoken of then. -/
lemma under_listing (hchosen : storage ∈ ids) (hsource : known.Knows storage container)
    (rest : List Node → Part σ Unit)
    (hrest : ∀ children, Preserves (Under p ids w₀ (known ++ children.map fun n => (storage, n)))
      (rest children)) :
    Preserves (Under p ids w₀ known) (Walk.step (.listing storage container) >>= fun _ =>
      lift (Action.serve (p.remote.listChildren storage container)) >>= fun children =>
      Walk.step (.listed children) >>= fun _ => Walk.here >>= fun w =>
      Walk.reportErrors p.walk
        ("listing " ++ Node.idText container ++ " in '" ++ w.trail.path ++ "'") >>= fun _ =>
      rest children) := by
  intro s hs
  obtain ⟨hroot, all, hall, hreaches⟩ := hs
  have hknows : Lore.Knows all storage container := hsource.mono hall
  rcases hanswer : p.remote.listChildren storage container s.world.other s.world.files with ⟨r, v⟩
  show Under p ids w₀ known (Procedure.run
    (lift (Action.serve (p.remote.listChildren storage container)) >>= fun children =>
      Walk.step (.listed children) >>= fun _ => Walk.here >>= fun w =>
      Walk.reportErrors p.walk
        ("listing " ++ Node.idText container ++ " in '" ++ w.trail.path ++ "'") >>= fun _ =>
      rest children)
    ⟨s.walk, s.world.add (.step s.walk.standing (.listing storage container))⟩).2
  rw [Procedure.run_bind, run_serve_add hanswer]
  rcases r with f | children
  · exact ⟨hroot, all, hall, hreaches.fails _ trivial hchosen hknows hanswer⟩
  · show Under p ids w₀ known (Procedure.run
      ((p.remote.errors v.other).forM (fun message => Walk.warn p.walk ("Remote error while "
        ++ ("listing " ++ Node.idText container ++ " in '" ++ s.walk.trail.path ++ "'") ++ ": "
        ++ message)) >>= fun _ => rest children)
      ⟨s.walk, ((afterListing s.walk.standing storage container s.world v).add
        (.step s.walk.standing (.listed children))).showing p.remote []⟩).2
    rw [Procedure.run_bind, run_warnAll]
    have hgiven : Under p ids w₀ (known ++ children.map fun n => (storage, n))
        ⟨s.walk, afterListed p s.walk.standing storage container s.world v children⟩ := by
      refine ⟨hroot, _, ?_, hreaches.lists _ trivial hchosen hknows hanswer⟩
      exact List.append_subset.mpr ⟨List.Subset.trans hall (List.subset_append_left _ _),
        List.subset_append_right _ _⟩
    exact (hrest children _ hgiven).mono (List.subset_append_left _ _)

/-- **Every walk proceeds**: from a container that is the top of a chosen storage or that an
answer gave, and whether it ends or is stopped. -/
lemma under_visit (hchosen : storage ∈ ids) (levels : Nat) :
    ∀ (container : Option Int) (known : Lore), known.Knows storage container →
      Preserves (Under p ids w₀ known) (Walk.visit p.walk storage levels container) := by
  induction levels with
  | zero => exact fun _ _ _ => Preserves.fail _
  | succ levels ih =>
    intro container known hsource
    refine Preserves.bind (Preserves.forM_option _ fun _ => under_change fun _ => rfl) fun _ => ?_
    refine under_listing hchosen hsource (fun children =>
      children.forM (Walk.takeUp p.walk fun id => Walk.visit p.walk storage levels (some id))
        >>= fun _ => container.forM Walk.comeOut) fun children => ?_
    refine Preserves.bind (Preserves.forM _ fun child hchild => ?_) fun _ =>
      Preserves.forM_option _ fun _ => under_change fun _ => rfl
    have hgiven : (storage, child) ∈ known ++ children.map fun n => (storage, n) :=
      List.mem_append_right _ (List.mem_map_of_mem hchild)
    exact under_takeUp hgiven fun hfolder => ih _ _ (Lore.knows_of_mem hgiven hfolder)

lemma under_start (hchosen : storage ∈ ids) :
    Preserves (Under p ids w₀ known) (Walk.start p.walk storage none) := by
  have htop : ∀ fault : String → TrailFault,
      Preserves (Under p ids w₀ known) (Walk.expectTop fault : Part σ Unit) := fun fault =>
    under_here.bind fun _ => Preserves.ite (Preserves.pure _) (Preserves.fail _)
  refine (htop _).bind fun _ => Preserves.bind (under_change fun _ => rfl) fun _ => ?_
  refine (under_visit hchosen _ none known nofun).bind fun _ => ?_
  exact under_checkAgreement.bind fun _ => htop _

end Walks

/-! ## Runs -/

/-- How a run proceeds in a world: with this result, from the listing of the storages on, and with
all nodes that it was given in the end.  The messages about that listing are the first that is
spoken of, each in a warning of its own. -/
inductive Proceeds (p : Plan σ) (calm : σ → Prop) (w : World σ) :
    Except Failure RunStatistics → Lore → World σ → Prop where
  /-- The destination is refused, and nothing happens. -/
  | refused {f : Failure} (destination : p.checked w.files = .error f) :
    Proceeds p calm w (.error f) [] w
  /-- The storages cannot be listed. -/
  | unlisted {f : Failure} {v : World σ}
    (answer : p.remote.listStorages w.other w.files = (.error f, v)) :
    Proceeds p calm w (.error f) [] (w.after v)
  /-- They are listed, and the chosen ones are walked. -/
  | listed {storages : List Storage} {v w' : World σ} {known : Lore}
    {result : Except Failure RunStatistics}
    (answer : p.remote.listStorages w.other w.files = (.ok storages, v))
    (past : Reaches p ((p.chosen storages).map Storage.id) calm ((w.after v).showing p.remote
      ((p.remote.errors v.other).flatMap storageLines)) known w') :
    Proceeds p calm w result known w'

section Runs

open Procedure (Ensures Preserves)

variable {p : Plan σ} {ids : List Int} {w₀ : World σ} {known : Lore}

lemma run_checkDestination (p : Plan σ) (w : World σ) :
    (checkDestination p).run w = (p.checked w.files, w) := by
  have hfiles : Preserves (fun w' => w' = w) (Action.files : Action σ FileSystem) :=
    Preserves.bind Preserves.state fun _ => Preserves.pure _
  have hkept : Preserves (fun w' => w' = w) (checkDestination p) := by
    refine hfiles.bind fun _ => (Preserves.ofRequest _ _).bind fun _ => ?_
    refine (Preserves.require _ _).bind fun _ => hfiles.bind fun _ => ?_
    exact (Preserves.ofRequest _ _).bind fun _ => Preserves.require _ _
  have hworld := hkept w rfl
  have hchecked := ensures_checkDestination p (p.account w) w ⟨rfl, rfl, rfl⟩
  rcases hrun : (checkDestination p).run w with ⟨f | u, w'⟩ <;> rw [hrun] at hworld hchecked
  · exact Prod.ext hchecked.1.symm hworld
  · exact Prod.ext hchecked.1.symm hworld

lemma past_walkStorage {storage : Storage} (hchosen : storage.id ∈ ids) (budget : Budget) :
    Preserves (Past p ids w₀ known) (walkStorage p budget storage) := by
  have hperform : Preserves (Past p ids w₀ known)
      (p.walk.perform (Walk.new p.destination budget) storage.id none) := fun w hw =>
    (under_start hchosen ⟨Walk.new p.destination budget, w⟩ ⟨rfl, hw⟩).2
  refine (Console.preserves_infoValue past_info _).bind fun _ =>
    hperform.bind fun (result, walk) => ?_
  rcases result with f | u
  · refine Preserves.bind ?_ fun _ => Preserves.fail _
    cases f
    case abort => exact past_log _ _ _
    all_goals exact Preserves.pure _
  · exact Preserves.pure _

lemma past_walkAll {storages : List Storage} (hchosen : ∀ s ∈ storages, s.id ∈ ids)
    (budget : Budget) (statistics : RunStatistics) :
    Preserves (Past p ids w₀ known) (walkAll p budget statistics storages) := by
  induction storages generalizing budget statistics with
  | nil => exact Preserves.pure _
  | cons storage rest ih =>
    exact (past_walkStorage (hchosen storage List.mem_cons_self) _).bind fun _ =>
      ih (fun s hs => hchosen s (List.mem_cons_of_mem storage hs)) _ _

lemma past_summarize (s : RunStatistics) :
    Preserves (Past p ids w₀ known) (summarize p.console s : Action σ Unit) := by
  refine Preserves.ite (Preserves.pure _) ((past_print _).bind fun _ => ?_)
  refine (past_info _).bind fun _ => (past_info _).bind fun _ => (past_info _).bind fun _ => ?_
  refine (Preserves.forM_option _ fun _ => past_info _).bind fun _ => ?_
  refine (Preserves.forM_option _ fun _ => past_info _).bind fun _ => ?_
  rw [counted]
  split_ifs with hnone
  · exact Preserves.pure _
  · obtain ⟨digit, rest, hdigits⟩ := List.exists_cons_of_ne_nil
      (Nat.toDigits_ne_nil : Nat.toDigits 10 s.total.failures ≠ [])
    have hdigit : digit.isDigit = true :=
      Nat.isDigit_of_mem_toDigits (by decide) (Nat.le_refl _) (hdigits ▸ List.mem_cons_self)
    refine past_record (plain_warning (c := digit) (by simp [hdigits]) fun hmem => ?_)
    simp only [List.mem_cons, List.not_mem_nil, or_false] at hmem
    rcases hmem with rfl | rfl | rfl <;> exact absurd hdigit (by decide)

/-- The messages about the listing of storages are shown one after the other. -/
lemma run_storageLines (messages : List String) (w : World σ) :
    (messages.forM fun message => do
        Action.log .warning .run message
        p.console.warning message : Action σ Unit).run w =
      (.ok (), w.addAll (messages.flatMap storageLines)) := by
  induction messages generalizing w with
  | nil => rfl
  | cons message rest ih =>
    refine (ih (w.addAll (storageLines message))).trans ?_
    simp [World.addAll, List.flatMap_cons]

/-- A display is not shown to a user who wants documents. -/
lemma Plan.showsActivity_of_json {p : Plan σ} (hjson : p.console.json = true) :
    p.showsActivity = false := by
  rw [Plan.showsActivity, hjson, Bool.or_true, Bool.not_true]

lemma past_write {text : String}
    (h : p.console.json = true → text ≠ "" → p.display.Utters (.wrote .out text)) :
    Preserves (Past p ids w₀ known) (Display.write text : Action σ Unit) := by
  rw [Display.write]
  split_ifs with hempty
  · exact Preserves.pure _
  · refine past_record ⟨rfl, rfl, fun hjson => .inr (h hjson ?_)⟩
    rintro rfl
    exact hempty rfl

lemma past_draw (description : String) :
    Preserves (Past p ids w₀ known)
      (p.display.draw p.showsActivity description : Action σ Unit) := by
  rw [Display.draw]
  split
  · exact Preserves.fail _
  · exact Preserves.pure _

lemma past_hide (before : Nat) : Preserves (Past p ids w₀ known) (hide p before) := by
  refine (past_record ⟨rfl, rfl, fun _ => .inl rfl⟩).bind fun _ => Preserves.state.bind fun _ => ?_
  refine (past_draw _).bind fun _ => past_write fun hjson => ?_
  rw [Plan.showsActivity_of_json hjson]
  exact .closing

/-- What happens after the storages are chosen. -/
lemma past_afterwards {storages : List Storage} (hchosen : ∀ s ∈ storages, s.id ∈ ids) :
    Preserves (Past p ids w₀ known) (do
      Action.record (.activity (.started p.showsActivity))
      Display.write (p.display.opening p.showsActivity)
      Action.record (.activity (.described firstDescription))
      let before := (← Procedure.state).visits.length
      let statistics ← Procedure.ending
        (showing p (walkAll p (.ofThreshold p.maxFailures) {} storages)) (hide p before)
      summarize p.console statistics
      return statistics : Action σ RunStatistics) := by
  refine (past_record ⟨rfl, rfl, fun _ => .inl rfl⟩).bind fun _ => Preserves.bind ?_ fun _ => ?_
  · refine past_write fun hjson => ?_
    rw [Plan.showsActivity_of_json hjson]
    exact .opening
  refine (past_record ⟨rfl, rfl, fun _ => .inl rfl⟩).bind fun _ => Preserves.state.bind fun _ => ?_
  have hshowing : Preserves (Past p ids w₀ known)
      (showing p (walkAll p (.ofThreshold p.maxFailures) {} storages)) :=
    (past_draw _).bind fun _ => past_walkAll hchosen _ _
  refine (hshowing.ending (past_hide _)).bind fun _ => ?_
  exact (past_summarize _).bind fun _ => Preserves.pure _

/-- The storages are chosen; the messages about their listing come first. -/
lemma ensures_choice (p : Plan σ) (w : World σ) :
    Ensures (fun w' => w' = w) (chooseStorages p)
      (fun chosen w' => ∃ storages v, (p.remote.listStorages w.other w.files = (.ok storages, v) ∧
        chosen = p.chosen storages) ∧
        Past p ((p.chosen storages).map Storage.id) ((w.after v).showing p.remote
          ((p.remote.errors v.other).flatMap storageLines)) [] w')
      (fun f w' => ∃ known, Proceeds p (fun _ => True) w (.error f) known w') := by
  rintro w' rfl
  rcases hanswer : p.remote.listStorages w'.other w'.files with ⟨r, v⟩
  rw [chooseStorages, Procedure.run_bind, Walk.run_serve hanswer]
  rcases r with f | storages
  · exact ⟨_, .unlisted hanswer⟩
  refine Ensures.bind (m := fun _ w => w = (w'.after v).showing p.remote
    ((p.remote.errors v.other).flatMap storageLines)) (fun w hw => ?_) (fun _ => ?_)
    ((w'.after v).showing p.remote []) rfl
  · rw [run_storageLines, ← hw]
    rfl
  have hwarned : ∀ absent : List Int, Preserves (Past p ((p.chosen storages).map Storage.id)
      ((w'.after v).showing p.remote ((p.remote.errors v.other).flatMap storageLines)) [])
      (absent.forM fun id => do
        let text ← Procedure.ofChecked (storageText id)
        p.console.warning ("Storage " ++ text ++ " not found on device") : Action σ Unit) :=
    fun absent => Preserves.forM _ fun _ _ => (Preserves.ofChecked _).bind fun _ =>
      past_record (plain_warning (c := 'S') (by simp) (by decide))
  have hstart : Past p ((p.chosen storages).map Storage.id) ((w'.after v).showing p.remote
      ((p.remote.errors v.other).flatMap storageLines)) [] ((w'.after v).showing p.remote
        ((p.remote.errors v.other).flatMap storageLines)) :=
    ⟨[], List.Subset.refl _, .start⟩
  rcases hwanted : p.storages with _ | wanted
  · rintro w rfl
    exact ⟨storages, v, ⟨rfl, by rw [Plan.chosen, hwanted]⟩, hstart⟩
  · refine Ensures.bind ((hwarned (choose storages wanted).2).ensures.mono
      (by rintro w rfl; exact hstart) (fun _ _ h => h) ?_) fun _ => Ensures.pure fun w hw => ?_
    · rintro f w ⟨all, -, hreaches⟩
      exact ⟨all, .listed hanswer hreaches⟩
    · exact ⟨storages, v, ⟨rfl, by rw [Plan.chosen, hwanted]; rfl⟩, hw⟩

/-- **Every run proceeds**: with any remote tree and in any world, from the listing of the storages
to whatever ends it. -/
theorem run_proceeds (p : Plan σ) (w : World σ) :
    ∃ result known w', (start p).run w = (result, w') ∧
      Proceeds p (fun _ => True) w result known w' := by
  have hstart : Ensures (fun w' => w' = w) (start p)
      (fun s w' => ∃ known, Proceeds p (fun _ => True) w (.ok s) known w')
      (fun f w' => ∃ known, Proceeds p (fun _ => True) w (.error f) known w') := by
    refine Ensures.bind (m := fun _ w' => w' = w) ?_ fun _ => ?_
    · rintro w' rfl
      rw [run_checkDestination]
      rcases hchecked : p.checked w'.files with f | u
      · exact ⟨_, .refused hchecked⟩
      · rfl
    refine Ensures.bind (ensures_choice p w) fun chosen => ?_
    refine Ensures.of_exists fun storages => Ensures.of_exists fun v => Ensures.of_and ?_
    rintro ⟨hanswer, rfl⟩
    refine (past_afterwards fun s hs => List.mem_map_of_mem hs).ensures.mono
      (fun _ h => h) ?_ ?_
    · rintro s w' ⟨all, -, hreaches⟩
      exact ⟨all, .listed hanswer hreaches⟩
    · rintro f w' ⟨all, -, hreaches⟩
      exact ⟨all, .listed hanswer hreaches⟩
  have hrun := hstart w rfl
  rcases hout : (start p).run w with ⟨f | s, w'⟩ <;> rw [hout] at hrun
  · obtain ⟨known, hproceeds⟩ := hrun
    exact ⟨_, known, w', rfl, hproceeds⟩
  · obtain ⟨known, hproceeds⟩ := hrun
    exact ⟨_, known, w', rfl, hproceeds⟩

end Runs

end Run

end Replica
