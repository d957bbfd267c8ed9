import Replica.Proofs.Commands
import Replica.Proofs.Correspondence
import Replica.Proofs.Searches
/-!
# What the bridge is asked for

Every number in a request comes from an answer to an earlier one.  The bridge may answer with
numbers of its choice, but it cannot make the program ask for anything that it has not told of.

* **Inquiries.**  `Session.Inquires` are the worlds that a session comes to if it asks for nothing
  else: for the device, for its storages, for the top of a chosen storage or a folder of one that a
  listing gave, and for the content of a file that a listing gave.
* **Commands.**  Runs, searches and the survey inquire; what a command does before and after that
  is idle (`Session.Idle`).
* **Who asks.**  `Program.run_inquires` adds what every request has in common.  The key is
  presented in every one of them, but a user in the address of the bridge takes its place.

A response may lead on from a request to another address (`Link.Leads`).  What is sent in its place
then is on record apart from the requests that the program makes.
-/

namespace Replica

variable {σ τ : Type}

/-! ## Requests on record -/

/-- The request, if the event is that it was sent. -/
def Event.request? : Event → Option Request
  | sent r => some r
  | _ => none

/-- The request, if the event is that a response led on to it. -/
def Event.hop? : Event → Option Request
  | followed r => some r
  | _ => none

/-- The requests sent so far, the oldest first. -/
def World.requests (w : World σ) : List Request := (w.events.filterMap Event.request?).reverse

/-- The requests so far to which responses led on, the oldest first. -/
def World.hops (w : World σ) : List Request := (w.events.filterMap Event.hop?).reverse

/-- The event is about no request. -/
structure Event.IsIdle (e : Event) : Prop where
  request : e.request? = none
  hop : e.hop? = none

lemma Event.isIdle_of_isStep {e : Event} (h : e.isStep = true) : e.IsIdle := by
  cases e with
  | step => exact ⟨rfl, rfl⟩
  | _ => cases h

namespace World

/-- What is picked out of the events so far, the oldest first, as requests and hops are. -/
def picked (pick : Event → Option Request) (w : World σ) : List Request :=
  (w.events.filterMap pick).reverse

variable {pick : Event → Option Request} {w v : World σ}

lemma picked_append {new : List Event} (h : v.events = new ++ w.events) :
    v.picked pick = w.picked pick ++ (new.filterMap pick).reverse := by
  rw [picked, h, List.filterMap_append, List.reverse_append, picked]

lemma picked_of_idle {new : List Event} (h : v.events = new ++ w.events)
    (hidle : ∀ e ∈ new, pick e = none) : v.picked pick = w.picked pick := by
  rw [picked_append h, List.filterMap_eq_nil_iff.mpr hidle, List.reverse_nil, List.append_nil]

lemma picked_after (hstep : ∀ e : Event, e.isStep = true → pick e = none) :
    (w.after v).picked pick = w.picked pick ++ v.picked pick := by
  have hreported : (reported v.events).filterMap pick = v.events.filterMap pick := by
    rw [reported, List.filterMap_filter]
    refine congrArg (List.filterMap · v.events) (funext fun e => ?_)
    cases he : e.isStep with
    | true => exact (hstep e he).symm
    | false => rfl
  rw [picked_append (w := w) rfl, hreported, ← picked]

end World

/-! ## Inquiries -/

namespace Session

/-- Between these worlds nothing was asked for. -/
structure Idle (w w' : World (Session τ)) : Prop where
  link : w'.other.connection.link = w.other.connection.link
  requests : w'.requests = w.requests
  hops : w'.hops = w.hops

/-- The worlds that a session comes to if it asks only for what it was told of, with the storages
whose listings it may ask for and the nodes that it was given until then; `select` picks the
storages out of those that the bridge has. -/
inductive Inquires (l : Link τ) (c : Client) (p : Paging) (select : List Storage → List Storage)
    (w₀ : World (Session τ)) : List Int → Lore → World (Session τ) → Prop where
  /-- Nothing was asked for yet. -/
  | start : Inquires l c p select w₀ [] [] w₀
  /-- Something else is done. -/
  | works {ids : List Int} {known : Lore} {w w' : World (Session τ)}
    (past : Inquires l c p select w₀ ids known w) (idle : Idle w w') :
    Inquires l c p select w₀ ids known w'
  /-- The device is asked for. -/
  | device {w v : World (Session τ)} {result : Except Failure Json} {new : List Event}
    (past : Inquires l c p select w₀ [] [] w)
    (answer : (onConnection (c.device l)).run w = (result, v))
    (events : v.events = new ++ w.events) (tells : ∀ e ∈ new, Tells l (c.Asks "/device" []) e) :
    Inquires l c p select w₀ [] [] v
  /-- The storages are asked for, and these are given. -/
  | storages {w v : World (Session τ)} {storages : List Storage}
    (past : Inquires l c p select w₀ [] [] w)
    (answer : (remote l c p).listStorages w.other w.files = (.ok storages, v))
    (tells : ∀ e ∈ v.events, Tells l (c.Asks "/storages" []) e) :
    Inquires l c p select w₀ ((select storages).map Storage.id) [] (w.after v)
  /-- The storages are asked for, and none are given. -/
  | unlisted {w v : World (Session τ)} {f : Failure}
    (past : Inquires l c p select w₀ [] [] w)
    (answer : (remote l c p).listStorages w.other w.files = (.error f, v))
    (tells : ∀ e ∈ v.events, Tells l (c.Asks "/storages" []) e) :
    Inquires l c p select w₀ [] [] (w.after v)
  /-- A listing is asked for, and it is given. -/
  | lists {ids : List Int} {known : Lore} {w v : World (Session τ)} {storage : Int}
    {container : Option Int} {children : List Node}
    (past : Inquires l c p select w₀ ids known w) (chosen : storage ∈ ids)
    (source : known.Knows storage container)
    (answer : (remote l c p).listChildren storage container w.other w.files = (.ok children, v))
    (tells : ∀ e ∈ v.events, Tells l (AsksPage c p.perPage storage container) e) :
    Inquires l c p select w₀ ids (known ++ children.map fun n => (storage, n)) (w.after v)
  /-- A listing is asked for, and it is not given. -/
  | fails {ids : List Int} {known : Lore} {w v : World (Session τ)} {storage : Int}
    {container : Option Int} {f : Failure}
    (past : Inquires l c p select w₀ ids known w) (chosen : storage ∈ ids)
    (source : known.Knows storage container)
    (answer : (remote l c p).listChildren storage container w.other w.files = (.error f, v))
    (tells : ∀ e ∈ v.events, Tells l (AsksPage c p.perPage storage container) e) :
    Inquires l c p select w₀ ids known (w.after v)
  /-- A content is asked for. -/
  | fetches {ids : List Int} {known : Lore} {w v : World (Session τ)} {storage : Int}
    {file : Node} {target : Path} {result : Except Failure Bool}
    (past : Inquires l c p select w₀ ids known w) (source : (storage, file) ∈ known)
    (leaf : file.isContainer = false)
    (answer : (remote l c p).fetch file target w.other w.files = (result, v))
    (tells : ∀ e ∈ v.events,
      Tells l (c.Asks ("/file-entries/download/" ++ toString file.id) []) e) :
    Inquires l c p select w₀ ids known (w.after v)

section Idle

variable {w w' v : World (Session τ)}

lemma Idle.trans (h : Idle w v) (h' : Idle v w') : Idle w w' :=
  ⟨h'.link.trans h.link, h'.requests.trans h.requests, h'.hops.trans h.hops⟩

lemma Idle.of_events {new : List Event} (hlink : w'.other.connection.link = w.other.connection.link)
    (hevents : w'.events = new ++ w.events) (h : ∀ e ∈ new, e.IsIdle) : Idle w w' where
  link := hlink
  requests := World.picked_of_idle hevents fun e he => (h e he).request
  hops := World.picked_of_idle hevents fun e he => (h e he).hop

lemma idle_add {e : Event} (h : e.IsIdle) : Idle w (w.add e) :=
  .of_events rfl (show (w.add e).events = [e] ++ w.events from rfl)
    (List.forall_mem_singleton.mpr h)

lemma idle_step (t : Standing) (s : Step) : Idle w (w.add (.step t s)) := idle_add ⟨rfl, rfl⟩

lemma idle_addAll {events : List Event} (h : ∀ e ∈ events, e.IsIdle) : Idle w (w.addAll events) :=
  .of_events rfl (show (w.addAll events).events = events.reverse ++ w.events from rfl)
    fun e he => h e (List.mem_reverse.mp he)

lemma idle_showing (l : Link τ) (c : Client) (p : Paging) {events : List Event}
    (h : ∀ e ∈ events, e.IsIdle) : Idle w (w.showing (remote l c p) events) :=
  .trans (v := { w with other := { w.other with errors := [] } }) ⟨rfl, rfl, rfl⟩ (idle_addAll h)

end Idle

section Tells

variable {l : Link τ} {asked : Request → Prop} {events : List Event}

/-- A service of a session sends requests of its class only. -/
lemma asked_of_tells (h : ∀ e ∈ events, Tells l asked e) :
    ∀ r ∈ (events.filterMap Event.request?).reverse, asked r := by
  intro r hr
  obtain ⟨e, he, hrequest⟩ := List.mem_filterMap.mp (List.mem_reverse.mp hr)
  cases h e he with
  | exchanged tells =>
    cases tells with
    | sent request =>
      cases hrequest
      exact request
    | followed | waited => cases hrequest
  | noted text => cases hrequest

/-- What is sent in the place of a request is led to from one of its class. -/
lemma led_of_tells (h : ∀ e ∈ events, Tells l asked e) :
    ∀ hop ∈ (events.filterMap Event.hop?).reverse,
      ∃ r, asked r ∧ Relation.TransGen l.Leads r hop := by
  intro hop hmem
  obtain ⟨e, he, hhop⟩ := List.mem_filterMap.mp (List.mem_reverse.mp hmem)
  cases h e he with
  | exchanged tells =>
    cases tells with
    | followed request led =>
      cases hhop
      exact ⟨_, request, led⟩
    | sent | waited => cases hhop
  | noted text => cases hhop

end Tells

/-- What was asked for between two worlds: every request asks for something, and every other one is
led to from one that does. -/
structure Asking (l : Link τ) (c : Client) (w w' : World (Session τ)) (new further : List Request) :
    Prop where
  requests : w'.requests = w.requests ++ new
  asks : ∀ r ∈ new, ∃ resource query, c.Asks resource query r
  hops : w'.hops = w.hops ++ further
  led : ∀ hop ∈ further, ∃ resource query r, c.Asks resource query r ∧
    Relation.TransGen l.Leads r hop

lemma Asking.trans {l : Link τ} {c : Client} {w v w' : World (Session τ)}
    {new further new' further' : List Request} (h : Asking l c w v new further)
    (h' : Asking l c v w' new' further') :
    Asking l c w w' (new ++ new') (further ++ further') where
  requests := by rw [h'.requests, h.requests, List.append_assoc]
  asks r hr := (List.mem_append.mp hr).elim (h.asks r) (h'.asks r)
  hops := by rw [h'.hops, h.hops, List.append_assoc]
  led hop hmem := (List.mem_append.mp hmem).elim (h.led hop) (h'.led hop)

/-- What a service tells says what it asked for. -/
lemma Asking.of_tells {l : Link τ} {c : Client} {asked : Request → Prop} {w w' : World (Session τ)}
    {events : List Event} (hasked : ∀ r, asked r → ∃ resource query, c.Asks resource query r)
    (htells : ∀ e ∈ events, Tells l asked e)
    (hrequests : w'.requests = w.requests ++ (events.filterMap Event.request?).reverse)
    (hhops : w'.hops = w.hops ++ (events.filterMap Event.hop?).reverse) :
    Asking l c w w' (events.filterMap Event.request?).reverse
      (events.filterMap Event.hop?).reverse where
  requests := hrequests
  asks r hr := hasked r (asked_of_tells htells r hr)
  hops := hhops
  led hop hmem := by
    obtain ⟨r, hr, hled⟩ := led_of_tells htells hop hmem
    obtain ⟨resource, query, hasks⟩ := hasked r hr
    exact ⟨resource, query, r, hasks, hled⟩

/-- Every request asks for something. -/
lemma Inquires.asks {l : Link τ} {c : Client} {p : Paging} {select : List Storage → List Storage}
    {w₀ w : World (Session τ)} {ids : List Int} {known : Lore}
    (h : Inquires l c p select w₀ ids known w) :
    ∃ requests hops, Asking l c w₀ w requests hops := by
  have hmore : ∀ {v u : World (Session τ)} {asked : Request → Prop},
      (∀ r, asked r → ∃ resource query, c.Asks resource query r) →
      (∀ e ∈ u.events, Tells l asked e) → (∃ requests hops, Asking l c w₀ v requests hops) →
      ∃ requests hops, Asking l c w₀ (v.after u) requests hops := by
    rintro v u asked hasked htells ⟨requests, hops, hpast⟩
    exact ⟨_, _, hpast.trans (.of_tells hasked htells
      (World.picked_after fun _ he => (Event.isIdle_of_isStep he).request)
      (World.picked_after fun _ he => (Event.isIdle_of_isStep he).hop))⟩
  have hpage : ∀ {perPage storage : Int} {container : Option Int} {r : Request},
      AsksPage c perPage storage container r → ∃ resource query, c.Asks resource query r := by
    rintro perPage storage container r ⟨page, -, hasks⟩
    exact ⟨_, _, hasks⟩
  induction h with
  | start =>
    exact ⟨[], [], (List.append_nil _).symm, nofun, (List.append_nil _).symm, nofun⟩
  | works _ idle ih =>
    obtain ⟨requests, hops, hpast⟩ := ih
    exact ⟨requests, hops, idle.requests.trans hpast.requests, hpast.asks,
      idle.hops.trans hpast.hops, hpast.led⟩
  | device _ _ events tells ih =>
    obtain ⟨requests, hops, hpast⟩ := ih
    exact ⟨_, _, hpast.trans (.of_tells (fun r hr => ⟨_, _, hr⟩) tells
      (World.picked_append events) (World.picked_append events))⟩
  | storages _ _ tells ih => exact hmore (fun r hr => ⟨_, _, hr⟩) tells ih
  | unlisted _ _ tells ih => exact hmore (fun r hr => ⟨_, _, hr⟩) tells ih
  | lists _ _ _ _ tells ih => exact hmore (fun r hr => hpage hr) tells ih
  | fails _ _ _ _ tells ih => exact hmore (fun r hr => hpage hr) tells ih
  | fetches _ _ _ _ tells ih => exact hmore (fun r hr => ⟨_, _, hr⟩) tells ih

end Session

/-- What a request tells about who asks: it presents the key, and the header that is sent presents
it too, unless the address of the bridge names a user. -/
structure Client.Presents (c : Client) (r : Request) : Prop where
  method : r.method = "GET"
  key : r.key = c.presentedKey
  header : r.authorization = match r.address.credentials? with
    | some (name, password) => some (Request.authorizationOf name password)
    | none => c.presentedKey.map Request.authorizationFor

lemma Client.Asks.presents {c : Client} {resource : String} {query : List (String × Int)}
    {r : Request} (h : c.Asks resource query r) : c.Presents r := by
  rw [Asks, Request.prepare] at h
  rcases haddress : (Request.addressOf (c.url ++ resource) query).mapError Failure.address with
    f | address <;> rw [haddress] at h
  · cases h
  rcases hhost : (Request.checkHost address).mapError Failure.value with f | u <;>
    simp only [bind, Except.bind, hhost] at h
  · cases h
  · cases h
    exact ⟨(by decide : Request.methodText "GET" = "GET"), rfl, rfl⟩

/-! ## Runs, searches and the survey -/

section Proceedings

open Session (Idle Inquires idle_add idle_step idle_showing)

variable {l : Link τ} {c : Client} {paging : Paging} {select : List Storage → List Storage}
  {w₀ w w' : World (Session τ)} {ids : List Int} {known : Lore}

lemma Run.Plan.Says.isIdle {p : Run.Plan σ} {e : Event} (h : p.Says e) : e.IsIdle := by
  cases e with
  | sent r | followed r => exact absurd h.dealing (by simp [Event.isDealing])
  | _ => exact ⟨rfl, rfl⟩

/-- **A run inquires**, from the world on in which it walks the storages. -/
lemma Run.Reaches.inquires {p : Run.Plan (Session τ)} {calm : Session τ → Prop}
    (hremote : p.remote = Session.remote l c paging) (h : Run.Reaches p ids calm w known w')
    (hstart : Inquires l c paging select w₀ ids [] w) :
    Inquires l c paging select w₀ ids known w' := by
  induction h with
  | start => exact hstart
  | speaks _ plain ih => exact ih.works (idle_add plain.isIdle)
  | puts _ files ih => exact ih.works ⟨rfl, rfl, rfl⟩
  | @lists _ w v storage container children _ standing _ chosen source answer ih =>
    rw [hremote] at answer
    have hstarted := ih.works (idle_step standing (.listing storage container))
    have hlists := hstarted.lists chosen source answer (Session.telling_listChildren answer).tells
    refine hlists.works (Idle.trans (idle_step standing (.listed children)) ?_)
    rw [Run.afterListed, hremote]
    refine idle_showing l c paging fun e he => ?_
    obtain ⟨message, -, he⟩ := List.mem_flatMap.mp he
    simp only [Run.listingLines, List.mem_cons, List.not_mem_nil, or_false] at he
    rcases he with rfl | rfl <;> exact ⟨rfl, rfl⟩
  | @fails _ w v storage container f _ standing _ chosen source answer ih =>
    rw [hremote] at answer
    exact (ih.works (idle_step standing (.listing storage container))).fails
      chosen source answer (Session.telling_listChildren answer).tells
  | @fetches _ w v storage file target _ standing _ source leaf answer ih =>
    rw [hremote] at answer
    have hfetches := (ih.works (idle_step standing (.fetching file target))).fetches
      source leaf answer (Session.telling_fetch answer).tells
    exact hfetches.works (idle_step standing (.fetched true))
  | @misses _ w v storage file target name _ standing _ source leaf named place answer ih =>
    rw [hremote] at answer
    have hfetches := (ih.works (idle_step standing (.fetching file target))).fetches
      source leaf answer (Session.telling_fetch answer).tells
    refine hfetches.works (Idle.trans (idle_step standing (.fetched false)) ?_)
    rw [Run.afterMissed, hremote]
    refine idle_showing l c paging fun e he => ?_
    simp only [Run.fetchLines, List.mem_cons, List.not_mem_nil, or_false] at he
    rcases he with rfl | rfl <;> exact ⟨rfl, rfl⟩
  | @breaks _ w v storage file target f _ standing _ source leaf answer ih =>
    rw [hremote] at answer
    exact (ih.works (idle_step standing (.fetching file target))).fetches
      source leaf answer (Session.telling_fetch answer).tells

lemma Run.Proceeds.inquires {p : Run.Plan (Session τ)} {calm : Session τ → Prop}
    {result : Except Failure RunStatistics} (hremote : p.remote = Session.remote l c paging)
    (h : Run.Proceeds p calm w result known w') :
    ∃ ids, Inquires l c paging p.chosen w ids known w' := by
  cases h with
  | refused destination => exact ⟨[], .start⟩
  | unlisted answer =>
    rw [hremote] at answer
    exact ⟨[], .unlisted .start answer (Session.telling_listStorages answer).tells⟩
  | listed answer past =>
    rw [hremote] at answer
    refine ⟨_, past.inquires hremote (Inquires.works (.storages .start answer
      (Session.telling_listStorages answer).tells) ?_)⟩
    rw [hremote]
    refine idle_showing l c paging fun e he => ?_
    obtain ⟨message, -, he⟩ := List.mem_flatMap.mp he
    simp only [Run.storageLines, List.mem_cons, List.not_mem_nil, or_false] at he
    rcases he with rfl | rfl <;> exact ⟨rfl, rfl⟩

/-- **A search inquires.** -/
lemma Searches.inquires {console : Console}
    (h : Searches (Session.remote l c paging) console ids w known w')
    (hstart : Inquires l c paging select w₀ ids [] w) :
    Inquires l c paging select w₀ ids known w' := by
  induction h with
  | start => exact hstart
  | speaks _ plain ih =>
    refine ih.works (idle_add ?_)
    cases plain <;> exact ⟨rfl, rfl⟩
  | lists _ chosen source answer ih =>
    exact ih.lists chosen source answer (Session.telling_listChildren answer).tells
  | fails _ chosen source answer ih =>
    exact ih.fails chosen source answer (Session.telling_listChildren answer).tells

lemma Shell.Lists.inquires {console : Console} {wanted : List Int}
    {result : Except Failure (List Finding)}
    (h : Shell.Lists (Session.remote l c paging) console wanted w result w') :
    ∃ ids known, Inquires l c paging (Shell.selected wanted) w ids known w' := by
  cases h with
  | unlisted answer =>
    exact ⟨[], [], .unlisted .start answer (Session.telling_listStorages answer).tells⟩
  | listed answer past =>
    exact ⟨_, _, past.inquires
      (.storages .start answer (Session.telling_listStorages answer).tells)⟩

end Proceedings

/-! ## Commands -/

namespace Shell

open Procedure (Ensures Preserves)
open Session (Idle Inquires idle_add idle_addAll idle_showing)

variable {shell : Shell τ} {console : Console} {g : General} {c : Client}
  {w u : World (Session τ)}

/-- The storages that an order looks into. -/
def Order.select : Order → List Storage → List Storage
  | .info => fun _ => []
  | .files wanted => selected wanted
  | .copy what => selected what.storages

lemma chosen_runPlan (shell : Shell τ) (console : Console) (c : Client) (what : Copying) :
    (shell.runPlan console c what).chosen = selected what.storages := by
  funext storages
  rw [Run.Plan.chosen, runPlan, selected]
  cases what.storages.isEmpty <;> rfl

/-- The device is asked for. -/
lemma inquires_device {l : Link τ} {p : Paging} {select : List Storage → List Storage} :
    Preserves (Inquires l c p select w [] []) (Session.onConnection (c.device l)) := by
  intro v hv
  have hrequest : Preserves (World.Since (Client.Tells l (c.Asks "/device" [])) v.events)
      (c.device l) := Client.since_request fun _ h => h
  obtain ⟨new, hevents, hnew⟩ := hrequest (v.withOther v.other.connection) ⟨[], rfl, by simp⟩
  exact hv.device rfl hevents fun e he => .exchanged (hnew e he)

/-- **The survey inquires**, and looks into no storage. -/
lemma inquires_survey (shell : Shell τ) (console : Console) (c : Client) (w : World (Session τ)) :
    ∃ ids, Inquires shell.link c { limit := shell.limit } Order.info.select w ids []
      ((shell.survey console c).run w).2 := by
  let I (ids : List Int) : World (Session τ) → Prop :=
    Inquires shell.link c { limit := shell.limit } Order.info.select w ids []
  have hstorages : Ensures (I []) (Action.serve (shell.remote c).listStorages)
      (fun _ v => ∃ ids, I ids v) (fun _ v => ∃ ids, I ids v) := by
    intro v hv
    rcases hanswer : (shell.remote c).listStorages v.other v.files with ⟨f | storages, u⟩ <;>
      rw [Walk.run_serve hanswer]
    · exact ⟨[], hv.unlisted hanswer (Session.telling_listStorages hanswer).tells⟩
    · exact ⟨_, hv.storages hanswer (Session.telling_listStorages hanswer).tells⟩
  have hshow : Preserves (fun v => ∃ ids, I ids v) (showErrors console (shell.remote c)) := by
    rintro v ⟨ids, hv⟩
    rw [run_showErrors]
    refine ⟨ids, hv.works (idle_showing shell.link c _ fun e he => ?_)⟩
    obtain ⟨message, -, rfl⟩ := List.mem_map.mp he
    exact ⟨rfl, rfl⟩
  have hsurvey : Ensures (I []) (shell.survey console c) (fun _ v => ∃ ids, I ids v)
      (fun _ v => ∃ ids, I ids v) := by
    refine Ensures.bind (inquires_device.ensures.failing_mono fun _ v hv => ⟨[], hv⟩)
      fun answer => ?_
    refine Ensures.bind ((Preserves.ofChecked _).ensures.failing_mono fun _ v hv => ⟨[], hv⟩)
      fun device => ?_
    exact hstorages.bind fun storages => (hshow.bind fun _ => Preserves.pure _).ensures
  have hrun := hsurvey w .start
  rcases hout : (shell.survey console c).run w with ⟨_ | _, v⟩ <;> rw [hout] at hrun <;> exact hrun

/-- **The work of every order inquires.** -/
lemma inquires_work (shell : Shell τ) (console : Console) (c : Client) (order : Order)
    (w : World (Session τ)) :
    ∃ ids known, Inquires shell.link c { limit := shell.limit } order.select w ids known
      ((shell.work console c order).run w).2 := by
  cases order with
  | info =>
    obtain ⟨ids, hsurvey⟩ := inquires_survey shell console c w
    rw [work, Procedure.run_return]
    exact ⟨ids, [], hsurvey⟩
  | files wanted =>
    obtain ⟨result, w', hrun, hlists⟩ := listFiles_proceeds shell console (shell.remote c) wanted w
    rw [work, Procedure.run_return _ fun found : List Finding =>
      Json.array (found.map findingJson), hrun]
    exact hlists.inquires
  | copy what =>
    obtain ⟨result, known, w', hrun, hproceeds⟩ :=
      Run.run_proceeds (shell.runPlan console c what) w
    obtain ⟨ids, hinquires⟩ := hproceeds.inquires rfl
    rw [work, Procedure.run_return, hrun]
    rw [chosen_runPlan] at hinquires
    exact ⟨ids, known, hinquires⟩

lemma idle_hungUp : Idle w (hungUp w) := ⟨rfl, rfl, rfl⟩

lemma idle_print (text : String) :
    Preserves (Idle w) (console.print text : Action (Session τ) Unit) := by
  rw [Console.print]
  split_ifs
  · exact Preserves.pure _
  · exact fun u hu => hu.trans (idle_add ⟨rfl, rfl⟩)

lemma idle_printOverview (overview : Overview) :
    Preserves (Idle w) (printOverview console overview : Action (Session τ) Unit) := by
  have hvalue : ∀ v, Preserves (Idle w) (console.printValue v : Action (Session τ) Unit) :=
    Console.preserves_printValue idle_print
  refine (hvalue _).bind fun _ => (Preserves.forM_option _ hvalue).bind fun _ => ?_
  refine (Preserves.forM_option _ hvalue).bind fun _ => Preserves.forM _ fun storage _ => ?_
  exact (hvalue _).bind fun _ => (Preserves.ofChecked _).bind fun _ =>
    Preserves.forM_option _ idle_print

/-- What a command does after its work is idle. -/
lemma idle_carryOut (hclient : shell.clientIn g w = .ok c) (order : Order) :
    Idle ((shell.work g.console c order).run (renewed w)).2 ((shell.carryOut g order).run w).2 := by
  cases order with
  | info =>
    rw [carryOut, run_info shell hclient, work, Procedure.run_return]
    rcases (shell.survey g.console c).run (renewed w) with ⟨f | overview, v⟩
    · cases f <;> exact ⟨rfl, rfl, rfl⟩
    · dsimp only
      split_ifs
      · exact ⟨rfl, rfl, rfl⟩
      · exact ((idle_printOverview overview).bind fun _ => Preserves.pure _) _ idle_hungUp
  | files wanted =>
    rw [carryOut, run_files shell wanted hclient, work,
      Procedure.run_return _ fun found : List Finding => Json.array (found.map findingJson)]
    rcases (shell.listFiles g.console (shell.remote c) wanted).run (renewed w) with ⟨f | found, v⟩
    · cases f <;> exact ⟨rfl, rfl, rfl⟩
    · refine idle_hungUp.trans (Idle.trans (idle_showing shell.link c _ fun e he => ?_)
        (idle_addAll fun e he => ?_))
      · obtain ⟨message, -, rfl⟩ := List.mem_map.mp he
        exact ⟨rfl, rfl⟩
      · split_ifs at he
        · obtain rfl := List.mem_singleton.mp he
          exact ⟨rfl, rfl⟩
        · cases he
  | copy what =>
    rw [carryOut, run_copy shell what hclient, work, Procedure.run_return]
    rcases (Run.start (shell.runPlan g.console c what)).run (renewed w) with ⟨f | statistics, v⟩
    · cases f
      case interrupted => exact ⟨rfl, rfl, rfl⟩
      all_goals
        dsimp only
        split_ifs <;> exact ⟨rfl, rfl, rfl⟩
    · refine idle_hungUp.trans (idle_addAll fun e he => ?_)
      split_ifs at he
      · obtain rfl := List.mem_singleton.mp he
        exact ⟨rfl, rfl⟩
      · cases he

end Shell

/-! ## The program -/

namespace Program

variable {shell : Shell τ} {arguments : List String} {g : General} {order : Shell.Order}
  {w : World (Session τ)}

/-- **The program asks only for what it was told of**: whatever the bridge answers, and however the
command ends, every request is one of those that `Session.Inquires` lists, for the address that is
set.  Each presents the key, in its header too unless a user in that address takes its place.  What
else is sent is sent in the place of such a request, because responses lead on to it. -/
theorem run_inquires (hasks : Asks shell.settings.environment w.files arguments g order) :
    ∃ outcome w', (run shell arguments).run w = (.ok outcome, w') ∧
      (w'.requests = w.requests ∧ w'.hops = w.hops ∨ ∃ c, shell.clientIn g w = .ok c ∧
        (∃ ids known, Session.Inquires shell.link c { limit := shell.limit } order.select
          (Shell.renewed w) ids known w') ∧
        (∃ new, w'.requests = w.requests ++ new ∧ ∀ r ∈ new, c.Presents r) ∧
        ∃ hops, w'.hops = w.hops ++ hops ∧ ∀ hop ∈ hops, ∃ resource query r,
          c.Asks resource query r ∧ Relation.TransGen shell.link.Leads r hop) := by
  obtain ⟨outcome, w', hrun, hidle⟩ : ∃ outcome w',
      (outcomeOf ((shell.carryOut g order).run w).1).run ((shell.carryOut g order).run w).2 =
        (.ok outcome, w') ∧ Session.Idle ((shell.carryOut g order).run w).2 w' := by
    rcases ((shell.carryOut g order).run w).1 with f | code
    · cases f <;> exact ⟨_, _, rfl, rfl, rfl, rfl⟩
    · exact ⟨_, _, rfl, rfl, rfl, rfl⟩
  refine ⟨outcome, w', (run_asks hasks).trans hrun, ?_⟩
  rcases hclient : shell.clientIn g w with f | c
  · left
    rw [Shell.carryOut_unconnected hclient] at hidle
    have hquiet : (Shell.unconnected w f).2.requests = w.requests ∧
        (Shell.unconnected w f).2.hops = w.hops := by
      cases f <;> exact ⟨rfl, rfl⟩
    exact ⟨hidle.requests.trans hquiet.1, hidle.hops.trans hquiet.2⟩
  · obtain ⟨ids, known, hinquires⟩ :=
      Shell.inquires_work shell g.console c order (Shell.renewed w)
    have hall := hinquires.works ((Shell.idle_carryOut hclient order).trans hidle)
    obtain ⟨new, hops, hasking⟩ := hall.asks
    refine .inr ⟨c, rfl, ⟨ids, known, hall⟩, ⟨new, hasking.requests, fun r hr => ?_⟩,
      hops, hasking.hops, hasking.led⟩
    obtain ⟨resource, query, hr⟩ := hasking.asks r hr
    exact hr.presents

/-- A copy from a bridge that refuses to list its storage. -/
def refusedInquiry : Except Failure Outcome × World (Session Unit) :=
  (run Shell.refusing ["mirror"]).run ⟨.empty, .start (), []⟩

/-- The storage that the bridge told of is the one that is asked for. -/
theorem run_inquires_refusal :
    refusedInquiry.2.requests.map (fun r => (r.url, r.query)) =
      [("http:" ++ "//bridge/storages", []),
        ("http:" ++ "//bridge/file-entries", [("storageId", 7), ("perPage", 100), ("page", 1)])] ∧
      ∃ c, Shell.refusing.clientIn
          ⟨some ("http:" ++ "//bridge"), none, .standard, false⟩ ⟨.empty, .start (), []⟩ = .ok c ∧
        (∃ ids known, Session.Inquires Link.refusing c { limit := 1000 } (Shell.selected [])
          ⟨.empty, .start (), []⟩ ids known refusedInquiry.2) ∧
        ∀ r ∈ refusedInquiry.2.requests, c.Presents r := by
  have hasks : Asks Shell.refusing.settings.environment .empty ["mirror"]
      ⟨some ("http:" ++ "//bridge"), none, .standard, false⟩
      (.copy ⟨.ofString ".", [], false⟩) :=
    ⟨_, .copy, ⟨[], []⟩, rfl, rfl, rfl, .copy rfl rfl rfl⟩
  have hrequests : refusedInquiry.2.requests.map (fun r => (r.url, r.query)) =
      [("http:" ++ "//bridge/storages", []),
        ("http:" ++ "//bridge/file-entries",
          [("storageId", 7), ("perPage", 100), ("page", 1)])] := by
    decide +kernel
  obtain ⟨outcome, w', hrun, hinquires⟩ :=
    run_inquires (w := ⟨.empty, Session.start (), []⟩) hasks
  refine ⟨hrequests, ?_⟩
  rw [refusedInquiry, hrun] at hrequests ⊢
  rcases hinquires with ⟨hnone, -⟩ | ⟨c, hclient, hpast, ⟨new, hnew, hpresents⟩, -⟩
  · have hempty : w'.requests = [] := hnone
    rw [hempty] at hrequests
    cases hrequests
  · obtain rfl : w'.requests = new := hnew.trans (List.nil_append new)
    exact ⟨c, hclient, hpast, hpresents⟩

/-- A shell whose bridge has a user in its address, and a key. -/
def namingShell : Shell Unit where
  link := .refusing
  settings := ⟨.ofString "settings", ⟨some ("http:" ++ "//user:pw@bridge"), some "k"⟩⟩
  display := .blank
  limit := 1000

/-- **The key does not always get there**: a request that presents it is sent with the user of the
address instead. -/
theorem key_displaced :
    ∃ r ∈ ((run namingShell ["info"]).run ⟨.empty, Session.start (), []⟩).2.requests,
      r.key = some "k" ∧ r.authorization ≠ some (Request.authorizationFor "k") := by
  decide +kernel

end Program

end Replica
