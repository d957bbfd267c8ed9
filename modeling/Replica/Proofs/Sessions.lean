import Mathlib.Logic.Relation
import Replica.Proofs.Confinement
import Replica.Remote.Session
/-!
# Sessions keep to their targets

What is said about runs supposes that the remote tree writes nowhere but where it is told to.  A
session with a bridge does so, if the link that carries its requests leaves the local files alone.

* **Requests.**  A request changes nothing but the connection, however often it is made again.
* **Downloads.**  `Puts` says that an action writes at most one content to a target; a download
  puts the content of a response.
* **Sessions.**  `Session.keepsToTarget` is the result.
-/

namespace Replica

open Procedure (Keeps)

variable {σ τ : Type}

lemma keeps_record (e : Event) : Keeps World.files (Action.record e : Action σ Unit) := fun _ => rfl

lemma keeps_changeOther (f : σ → σ) : Keeps World.files (Action.changeOther f : Action σ Unit) :=
  fun _ => rfl

/-- The action leaves the local files alone, or writes one content to the target and nothing
else. -/
def Puts {α : Type} (target : Path) (action : Action σ α) : Prop :=
  ∀ w, (action.run w).2.files = w.files ∨
    ∃ content, w.files.writeFile target content = .ok (action.run w).2.files

section Puts

variable {α β : Type} {target : Path} {p : Action σ α} {f : α → Action σ β}

lemma Puts.of_keeps (hp : Keeps World.files p) : Puts target p := fun w => .inl (hp w)

/-- Something is put by the second action only. -/
lemma Puts.of_bind (hp : Keeps World.files p) (hf : ∀ a, Puts target (f a)) :
    Puts target (p >>= f) := by
  intro w
  have hfirst := hp w
  rw [Procedure.run_bind]
  rcases hrun : p.run w with ⟨_ | a, w'⟩ <;> rw [hrun] at hfirst
  · exact .inl hfirst
  · have hsecond := hf a w'
    rw [show w'.files = w.files from hfirst] at hsecond
    exact hsecond

/-- Something is put by the first action only. -/
lemma Puts.bind (hp : Puts target p) (hf : ∀ a, Keeps World.files (f a)) :
    Puts target (p >>= f) := by
  intro w
  have hfirst := hp w
  rw [Procedure.run_bind]
  rcases hrun : p.run w with ⟨_ | a, w'⟩ <;> rw [hrun] at hfirst
  · exact hfirst
  · rw [show ((f a).run w').2.files = w'.files from hf a w']
    exact hfirst

end Puts

/-- The link leaves the local files alone while it carries a request. -/
def Link.Quiet (l : Link τ) : Prop :=
  ∀ r state files, (l.exchange r state files).2.2 = files

/-- A response that says that the request succeeded leads on to no other address. -/
lemma Response.leadsOn_of_succeeded {r : Response} (h : r.succeeded = true) :
    r.leadsOn = false := by
  have hstatus : 200 ≤ r.status ∧ r.status < 300 := by simpa [succeeded] using h
  have hother : r.status ∉ leadingStatuses := by
    simp only [leadingStatuses, List.mem_cons, List.not_mem_nil, or_false]
    omega
  rw [leadsOn, List.contains_eq_mem, decide_eq_false hother, Bool.false_and]

/-- The answer leads on to no other address. -/
def Answer.Stands (a : Answer) : Prop := ∀ r, a = .response r → r.leadsOn = false

namespace Link

variable {l : Link τ}

lemma next?_of_stands {r : Request} {answer : Answer} (h : answer.Stands) :
    l.next? r answer = none := by
  cases answer with
  | unreachable | interrupted => rfl
  | response response =>
    rw [next?, h response rfl]
    rfl

lemma follow_of_stands {left : Nat} {r : Request} {answer : Answer} {state : τ}
    {files : FileSystem} (h : answer.Stands) :
    l.follow left r answer state files = (⟨[], r, answer⟩, state, files) := by
  unfold follow
  rw [next?_of_stands h]

/-- An answer that stands is what is delivered. -/
lemma deliver_of_stands {r : Request} {state : τ} {files : FileSystem}
    (h : (l.exchange r state files).1.Stands) :
    l.deliver r state files =
      (⟨[], r, (l.exchange r state files).1⟩, (l.exchange r state files).2) := by
  rw [deliver]
  dsimp only
  rw [follow_of_stands h, ite_self]

/-- What comes of a request that may be led on so many times: an answer stands, or something keeps
the next request from being made.  With it comes the state of the link and of the local files. -/
inductive Arrives (l : Link τ) :
    Nat → Request → τ → FileSystem → Arrival × τ × FileSystem → Prop where
  /-- The answer leads on to no other address. -/
  | stands {left : Nat} {r : Request} {state state' : τ} {files files' : FileSystem}
    {answer : Answer} (exchange : l.exchange r state files = (answer, state', files'))
    (stands : answer.Stands) : Arrives l left r state files (⟨[], r, answer⟩, state', files')
  /-- The response leads on to another address, and the request is made there. -/
  | led {left : Nat} {r hop : Request} {state state' : τ} {files files' : FileSystem}
    {response : Response} {arrival : Arrival} {rest : τ × FileSystem}
    (exchange : l.exchange r state files = (.response response, state', files'))
    (leads : response.leadsOn = true) (whole : response.broken = none)
    (redirected : l.redirected r response = .ok hop)
    (onward : Arrives l left hop state' files' (arrival, rest)) :
    Arrives l (left + 1) r state files (⟨hop :: arrival.hops, arrival.last, arrival.answer⟩, rest)
  /-- There is no request to the other address. -/
  | lost {left : Nat} {r : Request} {state state' : τ} {files files' : FileSystem}
    {response : Response} {cause : String}
    (exchange : l.exchange r state files = (.response response, state', files'))
    (leads : response.leadsOn = true) (redirected : l.redirected r response = .error cause) :
    Arrives l left r state files (⟨[], r, .unreachable cause⟩, state', files')
  /-- The response that leads on breaks off. -/
  | broken {left : Nat} {r hop : Request} {state state' : τ} {files files' : FileSystem}
    {response : Response} {cause : String}
    (exchange : l.exchange r state files = (.response response, state', files'))
    (leads : response.leadsOn = true) (redirected : l.redirected r response = .ok hop)
    (broken : response.broken = some cause) :
    Arrives l left r state files (⟨[], r, .unreachable cause⟩, state', files')
  /-- It may not be led on again. -/
  | exhausted {r hop : Request} {state state' : τ} {files files' : FileSystem}
    {response : Response}
    (exchange : l.exchange r state files = (.response response, state', files'))
    (leads : response.leadsOn = true) (whole : response.broken = none)
    (redirected : l.redirected r response = .ok hop) :
    Arrives l 0 r state files
      (⟨[], r, .unreachable "Exceeded maximum allowed redirects."⟩, state', files')

lemma stands_of_next? {r : Request} {answer : Answer} (h : l.next? r answer = none) :
    answer.Stands := by
  rintro response rfl
  rw [next?] at h
  split_ifs at h with hleads
  simpa using hleads

lemma next?_eq_error {r : Request} {answer : Answer} {cause : String}
    (h : l.next? r answer = some (.error cause)) :
    ∃ response, answer = .response response ∧ response.leadsOn = true ∧
      (l.redirected r response = .error cause ∨
        ∃ hop, l.redirected r response = .ok hop ∧ response.broken = some cause) := by
  cases answer with
  | unreachable | interrupted => cases h
  | response response =>
    rw [next?] at h
    split_ifs at h with hleads
    refine ⟨response, rfl, hleads, ?_⟩
    rcases hredirected : l.redirected r response with cause' | hop <;> rw [hredirected] at h
    · cases h
      exact .inl rfl
    · rcases hbroken : response.broken with _ | cause' <;> rw [hbroken] at h <;> cases h
      exact .inr ⟨hop, rfl, rfl⟩

lemma next?_eq_ok {r hop : Request} {answer : Answer}
    (h : l.next? r answer = some (.ok hop)) :
    ∃ response, answer = .response response ∧ response.leadsOn = true ∧
      response.broken = none ∧ l.redirected r response = .ok hop := by
  cases answer with
  | unreachable | interrupted => cases h
  | response response =>
    rw [next?] at h
    split_ifs at h with hleads
    refine ⟨response, rfl, hleads, ?_⟩
    rcases hredirected : l.redirected r response with cause | hop' <;> rw [hredirected] at h
    · cases h
    · rcases hbroken : response.broken with _ | cause <;> rw [hbroken] at h <;> cases h
      exact ⟨rfl, rfl⟩

lemma arrives_follow {left : Nat} {r : Request} {answer : Answer} {state state' : τ}
    {files files' : FileSystem} (hexchange : l.exchange r state files = (answer, state', files')) :
    l.Arrives left r state files (l.follow left r answer state' files') := by
  fun_induction Link.follow l left r answer state' files' generalizing state files with
  | case1 left r answer state' files' hnext => exact .stands hexchange (stands_of_next? hnext)
  | case2 left r answer state' files' cause hnext =>
    obtain ⟨response, rfl, hleads, hredirected | ⟨hop, hredirected, hbroken⟩⟩ :=
      next?_eq_error hnext
    · exact .lost hexchange hleads hredirected
    · exact .broken hexchange hleads hredirected hbroken
  | case3 r answer state' files' hop hnext =>
    obtain ⟨response, rfl, hleads, hwhole, hredirected⟩ := next?_eq_ok hnext
    exact .exhausted hexchange hleads hwhole hredirected
  | case4 r answer state' files' hop left hnext answer'' state'' files'' hnew arrival rest hfollow
      ih =>
    obtain ⟨response, rfl, hleads, hwhole, hredirected⟩ := next?_eq_ok hnext
    have honward := ih hnew
    rw [hfollow] at honward
    exact .led hexchange hleads hwhole hredirected honward

/-- **Delivering a request arrives**: with a scheme, it goes where its answers lead, up to twenty
times. -/
theorem arrives_deliver {r : Request} (hscheme : r.address.scheme ≠ "") (state : τ)
    (files : FileSystem) : l.Arrives 20 r state files (l.deliver r state files) := by
  rw [deliver]
  dsimp only
  rw [if_neg hscheme]
  exact arrives_follow rfl

/-- A response to the request leads on to the other one. -/
def Leads (l : Link τ) (r hop : Request) : Prop :=
  ∃ response : Response, response.leadsOn = true ∧ l.redirected r response = .ok hop

lemma leads_of_next? {r hop : Request} {answer : Answer} (h : l.next? r answer = some (.ok hop)) :
    l.Leads r hop := by
  obtain ⟨response, -, hleads, -, hredirected⟩ := next?_eq_ok h
  exact ⟨response, hleads, hredirected⟩

/-- What is sent on the way to the answer that stands is led to from the request. -/
lemma leads_of_follow {left : Nat} {r : Request} {answer : Answer} {state : τ}
    {files : FileSystem} :
    ∀ hop ∈ (l.follow left r answer state files).1.hops, Relation.TransGen l.Leads r hop := by
  fun_induction Link.follow l left r answer state files with
  | case1 | case2 | case3 => exact nofun
  | case4 r answer state files first left hnext answer' state' files' hexchange arrival rest hfollow
      ih =>
    rw [hfollow] at ih
    have hfirst : Relation.TransGen l.Leads r first := .single (leads_of_next? hnext)
    intro hop hmem
    rcases List.mem_cons.mp hmem with rfl | hmem
    · exact hfirst
    · exact hfirst.trans (ih hop hmem)

lemma leads_of_deliver {r : Request} {state : τ} {files : FileSystem} :
    ∀ hop ∈ (l.deliver r state files).1.hops, Relation.TransGen l.Leads r hop := by
  rw [deliver]
  dsimp only
  split_ifs
  · exact nofun
  · exact leads_of_follow

/-- What sending a request leaves: the last answer, unless it cannot be taken, and all requests on
record. -/
lemma run_send (l : Link τ) (r : Request) (w : World (Connection τ)) :
    (l.send r).run w =
      (((checkAnswer r (l.deliver r w.other.link w.files).1.answer).mapError .value).map
          fun _ => (l.deliver r w.other.link w.files).1,
        World.addAll ⟨(l.deliver r w.other.link w.files).2.2,
          { w.other with link := (l.deliver r w.other.link w.files).2.1 },
          .sent r :: w.events⟩ ((l.deliver r w.other.link w.files).1.hops.map .followed)) := by
  simp only [Link.send, Procedure.run_bind, Action.record, Procedure.run_change,
    Procedure.run_state, World.add, Action.setFiles, Action.changeOther, Action.recordAll]
  cases checkAnswer r (l.deliver r w.other.link w.files).1.answer <;> rfl

/-- What a wait leaves: its beginning on record. -/
lemma run_wait (l : Link τ) (seconds : Float) (w : World (Connection τ)) :
    (l.wait seconds).run w = ((l.pause seconds w.other.link).outcome, w.add (.waited seconds)) := by
  rw [wait]
  simp only [Procedure.run_bind, Action.record, Procedure.run_change, Action.other,
    Procedure.run_state, Procedure.run_pure]
  show (Procedure.ofExcept (l.pause seconds w.other.link).outcome).run _ = _
  cases (l.pause seconds w.other.link).outcome <;> rfl

lemma Quiet.follow (hl : l.Quiet) (left : Nat) (r : Request) (answer : Answer) (state : τ)
    (files : FileSystem) : (l.follow left r answer state files).2.2 = files := by
  fun_induction Link.follow l left r answer state files with
  | case1 | case2 | case3 => rfl
  | case4 r answer state files hop left hnext answer' state' files' hexchange arrival rest hfollow
      ih =>
    rw [hfollow] at ih
    have hquiet := hl hop state files
    rw [hexchange] at hquiet
    exact ih.trans hquiet

lemma Quiet.deliver (hl : l.Quiet) (r : Request) (state : τ) (files : FileSystem) :
    (l.deliver r state files).2.2 = files := by
  rw [Link.deliver]
  dsimp only
  split_ifs
  · exact hl r state files
  · rw [hl.follow, hl]

lemma Quiet.send (hl : l.Quiet) (r : Request) : Keeps World.files (l.send r) := by
  intro w
  rw [run_send]
  exact hl.deliver r w.other.link w.files

lemma keeps_wait (seconds : Float) : Keeps World.files (l.wait seconds) := by
  intro w
  rw [run_wait]
  rfl

lemma keeps_openUp : Keeps World.files (Link.openUp : Action (Connection τ) Unit) :=
  keeps_changeOther _

lemma keeps_draw (l : Link τ) : Keeps World.files l.draw :=
  fun _ => rfl

end Link

/-! ## Requests -/

namespace Client

variable {l : Link τ} (c : Client)

lemma keeps_openUp : Keeps World.files (c.openUp : Action (Connection τ) Unit) :=
  Keeps.bind (Keeps.ofChecked _) fun _ => Link.keeps_openUp

lemma keeps_delayAfter (attempt : Nat) (error : BridgeError) (response : Option Response) :
    Keeps World.files (delayAfter l c attempt error response) := by
  have hbackoff : Keeps World.files (backoff l c.retryDelay attempt) :=
    Keeps.bind (Keeps.ofChecked _) fun _ => Keeps.bind (Link.keeps_draw l) fun _ => Keeps.pure _
  refine Keeps.bind hbackoff fun delay => ?_
  split
  · exact Keeps.bind (Keeps.ofChecked _) fun _ => Keeps.pure _
  · exact Keeps.pure _

variable (hl : l.Quiet)
include hl

lemma keeps_attempts (r : Request) (left attempt : Nat) :
    Keeps World.files (attempts l c r left attempt) := by
  induction left generalizing attempt with
  | zero => exact Keeps.fail _
  | succ left ih =>
    refine Keeps.bind (hl.send r) fun answer => ?_
    split
    · exact Keeps.pure _
    · exact Keeps.fail _
    · split
      · refine Keeps.bind (keeps_delayAfter c _ _ _) fun _ => ?_
        exact Keeps.bind (Link.keeps_wait _) fun _ => ih _
      · exact Keeps.fail _

lemma keeps_request (method endpoint : String) (query : List (String × Int)) :
    Keeps World.files (request l c method endpoint query) := by
  refine Keeps.bind (keeps_openUp c) fun _ => ?_
  split
  · exact Keeps.fail _
  · exact Keeps.bind (Keeps.ofExcept _) fun _ => keeps_attempts c hl _ _ _

omit hl in
/-- The content of a response is put at the path. -/
lemma puts_store (path : Path) (r : Response) :
    Puts path (store path r : Action (Connection τ) (List Download.Progress)) := by
  refine Puts.of_bind (Keeps.ofChecked _) fun total w => ?_
  rcases hwrite : w.files.writeFile path (r.body.take (Download.writtenLength r)) with
    fault | files
  · refine .inl ?_
    simp only [Procedure.run_bind, Action.files, Procedure.run_state, Procedure.run_pure, hwrite]
    cases fault <;> rfl
  · refine .inr ⟨_, hwrite.trans ?_⟩
    simp only [Procedure.run_bind, Action.files, Procedure.run_state, Procedure.run_pure, hwrite,
      Action.setFiles, Procedure.run_change]
    cases r.broken <;> rfl

lemma puts_download (node : Int) (path : Path) : Puts path (download l c node path) := by
  refine Puts.of_bind (keeps_openUp c) fun _ => ?_
  refine Puts.of_bind (Keeps.ofExcept _) fun r => Puts.of_bind (hl.send r) fun answer => ?_
  split
  · exact .of_keeps (Keeps.fail _)
  · exact .of_keeps (Keeps.fail _)
  · split
    · exact puts_store path _
    · exact .of_keeps (Keeps.fail _)

end Client

/-! ## Sessions -/

namespace Session

variable {l : Link τ} (c : Client)

lemma keeps_keepError (message : String) :
    Keeps World.files (keepError message : Action (Session τ) Unit) :=
  Keeps.bind (keeps_record _) fun _ => keeps_changeOther _

lemma keeps_onConnection {α : Type} {action : Action (Connection τ) α}
    (h : Keeps World.files action) : Keeps World.files (onConnection action) :=
  Keeps.within h fun _ _ hfiles => hfiles

variable (hl : l.Quiet)
include hl

lemma keeps_listStorages : Keeps World.files (listStorages l c) := by
  refine Keeps.bind
    (Keeps.attempt (keeps_onConnection (Client.keeps_request c hl _ _ _))) fun r => ?_
  split
  · exact Keeps.ofChecked _
  · exact Keeps.bind (keeps_keepError _) fun _ => Keeps.pure _
  · exact Keeps.fail _

lemma keeps_pagesFrom (perPage storage : Int) (container : Option Int) (left page : Nat) :
    Keeps World.files (pagesFrom l c perPage storage container left page) := by
  induction left generalizing page with
  | zero => exact Keeps.fail _
  | succ left ih =>
    refine Keeps.bind (keeps_onConnection (Client.keeps_request c hl _ _ _)) fun answer => ?_
    refine Keeps.bind (Keeps.ofChecked _) fun this => ?_
    split
    · exact Keeps.bind (ih _) fun _ => Keeps.pure _
    · exact Keeps.pure _

lemma keeps_listChildren (p : Paging) (storage : Int) (container : Option Int) :
    Keeps World.files (listChildren l c p storage container) := by
  refine Keeps.bind (Keeps.attempt (keeps_pagesFrom c hl _ _ _ _ _)) fun r => ?_
  split
  · exact Keeps.bind (keeps_record _) fun _ => Keeps.pure _
  · exact Keeps.bind (keeps_keepError _) fun _ => Keeps.pure _
  · split
    · exact Keeps.bind (keeps_keepError _) fun _ => Keeps.pure _
    · exact Keeps.fail _
  · exact Keeps.fail _

lemma puts_fetch (file : Node) (target : Path) : Puts target (fetch l c file target) := by
  have hdownload : Puts target (Procedure.attempt (onConnection (c.download l file.id target))) :=
    fun w => Client.puts_download c hl file.id target (w.withOther w.other.connection)
  refine hdownload.bind fun r => ?_
  split
  · exact Keeps.pure _
  · split
    · exact Keeps.bind (keeps_keepError _) fun _ => Keeps.pure _
    · exact Keeps.bind (keeps_keepError _) fun _ => Keeps.pure _
    · exact Keeps.fail _

/-- **A session keeps to its targets**: over a link that leaves the local files alone, listings
change nothing, and a fetch writes at most to the path that it is given. -/
theorem keepsToTarget (p : Paging) : (remote l c p).KeepsToTarget where
  listStorages other files := keeps_listStorages c hl ⟨files, other, []⟩
  listChildren storage container other files :=
    keeps_listChildren c hl p storage container ⟨files, other, []⟩
  fetch file target other files := puts_fetch c hl file target ⟨files, other, []⟩

end Session

end Replica
