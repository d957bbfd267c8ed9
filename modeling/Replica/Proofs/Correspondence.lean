import Replica.Proofs.Contract
/-!
# What a session tells while it answers

A service of a session leaves a journal of its own: the requests that it sent, those to which
responses led on, the time that it waited, and records for finding faults.  This file says what
stands in it.

* **Requests.**  `Client.Asks` are the requests for a resource.  However often one is made again,
  an action on the connection tells of nothing else (`World.Since`).
* **Messages.**  Every message that a session keeps is on record; `Event.kept?` reads it there.
  `Session.Telling` says so of a service: it tells of its own requests only, and the messages that
  it adds to the stack are those on record, in their order.
-/

namespace Replica

open Procedure (Preserves)

variable {σ τ : Type}

/-- What was added to the journal is of this class. -/
def World.Since (E : Event → Prop) (base : List Event) (w : World σ) : Prop :=
  ∃ new, w.events = new ++ base ∧ ∀ e ∈ new, E e

lemma World.Since.append {E : Event → Prop} {base new : List Event} {w w' : World σ}
    (h : World.Since E base w) (hevents : w'.events = new ++ w.events) (hnew : ∀ e ∈ new, E e) :
    World.Since E base w' := by
  obtain ⟨old, hold, hclass⟩ := h
  refine ⟨new ++ old, by rw [hevents, hold, List.append_assoc], fun e he => ?_⟩
  rcases List.mem_append.mp he with he | he
  · exact hnew e he
  · exact hclass e he

section Journals

variable {E : Event → Prop} {base : List Event} {α : Type}

lemma since_record {e : Event} (h : E e) :
    Preserves (World.Since E base) (Action.record e : Action σ Unit) :=
  fun _ hw => World.Since.append hw (List.singleton_append (x := e)).symm (by simpa using h)

lemma since_changeOther (f : σ → σ) :
    Preserves (World.Since E base) (Action.changeOther f : Action σ Unit) :=
  fun _ hw => hw

lemma since_serve {service : Service σ α} (h : ∀ {other files result v},
    service other files = (result, v) → ∀ e ∈ v.events, E e) :
    Preserves (World.Since E base) (Action.serve service) :=
  fun _ hw => hw.append rfl fun e he => h rfl e (List.mem_filter.mp he).1

end Journals

/-- How the record of a message that is kept starts. -/
def Event.keptFront : List Char := "Remote error: ".toList

/-- The message that is kept, if the event is the record of one. -/
def Event.kept? : Event → Option String
  | .logged ⟨.debug, .remote, text⟩ =>
    if keptFront.isPrefixOf text.toList then
      some (String.ofList (text.toList.drop keptFront.length))
    else none
  | _ => none

lemma Event.kept?_record (message : String) :
    kept? (.logged ⟨.debug, .remote, "Remote error: " ++ message⟩) = some message := by
  have hfront : ("Remote error: " ++ message).toList = keptFront ++ message.toList :=
    String.toList_append
  rw [kept?, hfront, if_pos (List.isPrefixOf_iff_prefix.mpr (List.prefix_append _ _)),
    List.drop_left, String.ofList_toList]

lemma Event.kept?_of_head {text : String} {c : Char} (h : text.toList.head? = some c)
    (hc : c ≠ 'R') : kept? (.logged ⟨.debug, .remote, text⟩) = none := by
  obtain ⟨rest, hrest⟩ : ∃ rest, text.toList = c :: rest := List.head?_eq_some_iff.mp h
  rw [kept?, hrest, if_neg]
  rw [List.isPrefixOf_iff_prefix, show keptFront = 'R' :: "emote error: ".toList by decide,
    List.cons_prefix_cons]
  exact fun hprefix => hc hprefix.1.symm

/-! ## Requests -/

namespace Client

/-- A request for a resource of the bridge, with these parameters. -/
def Asks (c : Client) (resource : String) (query : List (String × Int)) (r : Request) : Prop :=
  Request.prepare "GET" (c.url ++ resource) query c.presentedKey = .ok r

/-- What an action on the connection tells: that it sent a request of this class, or one to which
responses led on from such a request, or that it waited. -/
inductive Tells (l : Link τ) (asked : Request → Prop) : Event → Prop where
  /-- A request. -/
  | sent {r : Request} (request : asked r) : Tells l asked (.sent r)
  /-- A request in the place of another one. -/
  | followed {r hop : Request} (request : asked r) (led : Relation.TransGen l.Leads r hop) :
    Tells l asked (.followed hop)
  /-- Some time between two of them. -/
  | waited (seconds : Float) : Tells l asked (.waited seconds)

variable {l : Link τ} {c : Client} {asked : Request → Prop} {base : List Event}

lemma since_send {r : Request} (h : asked r) :
    Preserves (World.Since (Tells l asked) base) (l.send r) := by
  rintro w hw
  have hsent : World.Since (Tells l asked) base (w.add (.sent r)) := since_record (.sent h) w hw
  rw [Link.run_send]
  refine hsent.append rfl fun e he => ?_
  obtain ⟨hop, hmem, rfl⟩ := List.mem_map.mp (List.mem_reverse.mp he)
  exact .followed h (Link.leads_of_deliver hop hmem)

/-- A wait tells of itself, even if it ends early. -/
lemma since_wait {E : Event → Prop} {seconds : Float} (h : E (.waited seconds)) :
    Preserves (World.Since E base) (l.wait seconds) := by
  intro w hw
  rw [Link.run_wait]
  exact since_record h w hw

lemma since_openUp {E : Event → Prop} :
    Preserves (World.Since E base) (c.openUp : Action (Connection τ) Unit) :=
  (Preserves.ofChecked _).bind fun _ => since_changeOther _

lemma since_delayAfter {E : Event → Prop} (attempt : Nat) (error : BridgeError)
    (response : Option Response) :
    Preserves (World.Since E base) (delayAfter l c attempt error response) := by
  have hdraw : Preserves (World.Since E base) l.draw := fun _ hw => hw
  refine ((Preserves.ofChecked _).bind fun _ => hdraw.bind fun _ => Preserves.pure _).bind
    fun _ => ?_
  split
  · exact (Preserves.ofChecked _).bind fun _ => Preserves.pure _
  · exact Preserves.pure _

/-- A request tells of itself only, however often it is made again. -/
lemma since_attempts {r : Request} (h : asked r) (left attempt : Nat) :
    Preserves (World.Since (Tells l asked) base) (attempts l c r left attempt) := by
  induction left generalizing attempt with
  | zero => exact Preserves.fail _
  | succ left ih =>
    refine (since_send h).bind fun answer => ?_
    split
    · exact Preserves.pure _
    · exact Preserves.fail _
    · refine Preserves.ite ((since_delayAfter _ _ _).bind fun seconds => ?_) (Preserves.fail _)
      exact (since_wait (.waited seconds)).bind fun _ => ih _

lemma since_request {endpoint : String} {query : List (String × Int)}
    (h : ∀ r, c.Asks ("/" ++ Text.trimLeft '/' endpoint) query r → asked r) :
    Preserves (World.Since (Tells l asked) base) (request l c "GET" endpoint query) := by
  refine since_openUp.bind fun _ => Preserves.ite (Preserves.fail _) ?_
  refine Preserves.ofExcept_bind fun r hr => since_attempts (h r ?_) _ _
  rw [Asks, ← hr, String.append_assoc]

lemma since_store {E : Event → Prop} (path : Path) (r : Response) :
    Preserves (World.Since E base)
      (store path r : Action (Connection τ) (List Download.Progress)) := by
  refine (Preserves.ofChecked _).bind fun _ => Preserves.bind ?_ fun files => ?_
  · exact Preserves.state.bind fun _ => Preserves.pure _
  · split
    · exact Preserves.fail _
    · exact Preserves.fail _
    · refine Preserves.bind (fun _ hw => hw) fun _ => ?_
      split
      · exact Preserves.pure _
      · exact Preserves.fail _

lemma since_download {node : Int} {path : Path}
    (h : ∀ r, c.Asks ("/file-entries/download/" ++ toString node) [] r → asked r) :
    Preserves (World.Since (Tells l asked) base) (download l c node path) := by
  refine since_openUp.bind fun _ => Preserves.ofExcept_bind fun r hr => ?_
  refine (since_send (h r ?_)).bind fun answer => ?_
  · rw [Asks, ← hr, String.append_assoc]
  · split
    · exact Preserves.fail _
    · exact Preserves.fail _
    · exact Preserves.ite (since_store _ _) (Preserves.fail _)

end Client

/-! ## Messages -/

namespace Session

/-- What a service of a session tells: what its requests tell, or a record for finding faults. -/
inductive Tells (l : Link τ) (asked : Request → Prop) : Event → Prop where
  /-- A request, one in its place, or some time between two of them. -/
  | exchanged {e : Event} (tells : Client.Tells l asked e) : Tells l asked e
  /-- A record. -/
  | noted (text : String) : Tells l asked (.logged ⟨.debug, .remote, text⟩)

/-- The messages on record in a journal, the oldest first. -/
def kept (events : List Event) : List String := (events.filterMap Event.kept?).reverse

lemma kept_append (new base : List Event) : kept (new ++ base) = kept base ++ kept new := by
  simp [kept]

lemma kept_eq_nil {events : List Event} (h : ∀ e ∈ events, e.kept? = none) : kept events = [] := by
  rw [kept, List.reverse_eq_nil_iff, List.filterMap_eq_nil_iff]
  exact h

/-- A service has told this since the journal was `base`, and has kept as many messages as it has
on record. -/
def Told (l : Link τ) (asked : Request → Prop) (base : List Event) (messages : List String)
    (w : World (Session τ)) : Prop :=
  ∃ new, w.events = new ++ base ∧ (∀ e ∈ new, Tells l asked e) ∧
    w.other.errors = messages ++ kept new

section Services

variable {l : Link τ} {c : Client} {asked : Request → Prop} {base : List Event}
  {messages : List String} {α : Type}

lemma told_onConnection {action : Action (Connection τ) α}
    (h : ∀ base, Preserves (World.Since (Client.Tells l asked) base) action) :
    Preserves (Told l asked base messages) (onConnection action) := by
  rintro w ⟨new, hevents, hnew, herrors⟩
  obtain ⟨more, hmore, htells⟩ := h w.events (w.withOther w.other.connection) ⟨[], rfl, by simp⟩
  refine ⟨more ++ new, ?_, fun e he => ?_, ?_⟩
  · show (action.run (w.withOther w.other.connection)).2.events = _
    rw [hmore, hevents, List.append_assoc]
  · rcases List.mem_append.mp he with he | he
    · exact .exchanged (htells e he)
    · exact hnew e he
  · have hsilent : kept more = [] := kept_eq_nil fun e he => by
      cases htells e he <;> rfl
    show w.other.errors = _
    rw [herrors, kept_append, hsilent, List.append_nil]

/-- One more record, with the message that is kept if it is the record of one. -/
lemma Told.note {w w' : World (Session τ)} (h : Told l asked base messages w) {text : String}
    (hevents : w'.events = .logged ⟨.debug, .remote, text⟩ :: w.events)
    (herrors : w'.other.errors =
      w.other.errors ++ (Event.kept? (.logged ⟨.debug, .remote, text⟩)).toList) :
    Told l asked base messages w' := by
  obtain ⟨new, hbefore, hnew, hkept⟩ := h
  refine ⟨.logged ⟨.debug, .remote, text⟩ :: new, by rw [hevents, hbefore, List.cons_append],
    fun e he => ?_, ?_⟩
  · rcases List.mem_cons.mp he with rfl | he
    · exact .noted text
    · exact hnew e he
  · rw [herrors, hkept, ← List.singleton_append (l := new), kept_append, List.append_assoc]
    congr 2
    cases hread : Event.kept? (.logged ⟨.debug, .remote, text⟩) <;> simp [kept, hread]

/-- A record that is none of a message leaves the messages alone. -/
lemma told_note {text : String} (h : Event.kept? (.logged ⟨.debug, .remote, text⟩) = none) :
    Preserves (Told l asked base messages)
      (Action.log .debug .remote text : Action (Session τ) Unit) :=
  fun w hw => hw.note rfl (by rw [h]; exact (List.append_nil _).symm)

lemma told_keepError (message : String) :
    Preserves (Told l asked base messages) (keepError message : Action (Session τ) Unit) :=
  fun _ hw => hw.note rfl (by rw [Event.kept?_record]; rfl)

lemma told_listStorages (h : ∀ r, c.Asks "/storages" [] r → asked r) :
    Preserves (Told l asked base messages) (listStorages l c) := by
  refine Preserves.bind (Preserves.attempt (told_onConnection fun _ =>
    Client.since_request fun r hr => h r hr)) fun r => ?_
  split
  · exact Preserves.ofChecked _
  · exact (told_keepError _).bind fun _ => Preserves.pure _
  · exact Preserves.fail _

/-- The request for a page of a listing, counted from one. -/
def AsksPage (c : Client) (perPage storage : Int) (container : Option Int) (r : Request) : Prop :=
  ∃ page : Int, 1 ≤ page ∧
    c.Asks "/file-entries" (Client.PageQuery.parameters ⟨storage, container, perPage, some page⟩) r

lemma told_pagesFrom {perPage storage : Int} {container : Option Int}
    (h : ∀ r, AsksPage c perPage storage container r → asked r) (left page : Nat)
    (hpage : 1 ≤ page) :
    Preserves (Told l asked base messages) (pagesFrom l c perPage storage container left page) := by
  induction left generalizing page with
  | zero => exact Preserves.fail _
  | succ left ih =>
    refine Preserves.bind (told_onConnection fun _ => Client.since_request fun r hr =>
      h r ⟨page, by exact_mod_cast hpage, hr⟩) fun _ => ?_
    refine (Preserves.ofChecked _).bind fun _ => Preserves.ite ?_ (Preserves.pure _)
    exact (ih (page + 1) (Nat.le_add_left 1 page)).bind fun _ => Preserves.pure _

lemma told_listChildren (p : Paging) {storage : Int} {container : Option Int}
    (h : ∀ r, AsksPage c p.perPage storage container r → asked r) :
    Preserves (Told l asked base messages) (listChildren l c p storage container) := by
  refine Preserves.bind (Preserves.attempt (told_pagesFrom h _ 1 (Nat.le_refl 1))) fun r => ?_
  split
  · exact (told_note (Event.kept?_of_head (c := 'L') (by simp) (by decide))).bind fun _ =>
      Preserves.pure _
  · exact (told_keepError _).bind fun _ => Preserves.pure _
  · exact Preserves.ite ((told_keepError _).bind fun _ => Preserves.pure _) (Preserves.fail _)
  · exact Preserves.fail _

lemma told_fetch {file : Node} {target : Path}
    (h : ∀ r, c.Asks ("/file-entries/download/" ++ toString file.id) [] r → asked r) :
    Preserves (Told l asked base messages) (fetch l c file target) := by
  refine Preserves.bind (Preserves.attempt (told_onConnection fun _ =>
    Client.since_download h)) fun r => ?_
  split
  · exact Preserves.pure _
  · split
    · exact (told_keepError _).bind fun _ => Preserves.pure _
    · exact (told_keepError _).bind fun _ => Preserves.pure _
    · exact Preserves.fail _

/-- What a service of a session leaves: it tells of requests of this class only, and the messages
that it adds are those on record, in their order. -/
structure Telling (l : Link τ) (asked : Request → Prop) (session : Session τ)
    (v : World (Session τ)) : Prop where
  tells : ∀ e ∈ v.events, Tells l asked e
  errors : v.other.errors = session.errors ++ kept v.events

lemma Telling.of_told (action : Action (Session τ) α) {session : Session τ} {files : FileSystem}
    {result : Except Failure α} {v : World (Session τ)}
    (answer : action.run ⟨files, session, []⟩ = (result, v))
    (h : Preserves (Told l asked [] session.errors) action) : Telling l asked session v := by
  obtain ⟨new, hevents, hnew, herrors⟩ := h ⟨files, session, []⟩ ⟨[], rfl, by simp, by simp [kept]⟩
  rw [answer] at hevents herrors
  obtain rfl : v.events = new := by rw [hevents, List.append_nil]
  exact ⟨hnew, herrors⟩

variable {p : Paging} {session : Session τ} {files : FileSystem} {v : World (Session τ)}

lemma telling_listStorages {result : Except Failure (List Storage)}
    (answer : (remote l c p).listStorages session files = (result, v)) :
    Telling l (c.Asks "/storages" []) session v :=
  .of_told (listStorages l c) answer (told_listStorages fun _ h => h)

lemma telling_listChildren {storage : Int} {container : Option Int}
    {result : Except Failure (List Node)}
    (answer : (remote l c p).listChildren storage container session files = (result, v)) :
    Telling l (AsksPage c p.perPage storage container) session v :=
  .of_told (listChildren l c p storage container) answer (told_listChildren p fun _ h => h)

lemma telling_fetch {file : Node} {target : Path} {result : Except Failure Bool}
    (answer : (remote l c p).fetch file target session files = (result, v)) :
    Telling l (c.Asks ("/file-entries/download/" ++ toString file.id) []) session v :=
  .of_told (fetch l c file target) answer (told_fetch fun _ h => h)

end Services

end Session

end Replica
