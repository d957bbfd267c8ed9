import Replica.Proofs.Sessions
/-!
# What a session answers for

A remote tree is meant to answer whatever happens: what goes wrong is put on its stack of messages
and not given as a failure.  A session with a bridge keeps this with exceptions, each service with
its own.

* **Requests.**  `Request.Unusable` are the failures of settings that make no request.  With these
  and with what the bridge answers, `Client.Unmet` says how a request ends that has no result, and
  `Client.Unfetched` how a download does.
* **Services.**  `Session.Accounted` compares a service with what it does inside: it succeeds with
  that, or catches its failure and leaves one message more, or lets the failure out and leaves
  none.  `Session.accounted` shows it for all three services, with the failures that each lets
  out; `Session.lets_out` is one answer of the bridge that gets a failure out of each.
-/

namespace Replica

open Procedure (Ensures)

variable {τ : Type} {l : Link τ} {c : Client}

/-- The link may report that the user interrupted a request. -/
def Link.Interrupts (l : Link τ) : Prop :=
  ∃ r state files, (l.exchange r state files).1 = .interrupted

/-- The link may report that the user interrupted a wait. -/
def Link.InterruptsWait (l : Link τ) : Prop :=
  ∃ seconds state, l.pause seconds state = .interrupted

section Errors

variable {ε ε' α β : Type}

lemma error_of_bind {x : Except ε α} {f : α → Except ε β} {e : ε} (h : (x >>= f) = .error e) :
    x = .error e ∨ ∃ a, x = .ok a ∧ f a = .error e := by
  cases x with
  | error e' =>
    cases h
    exact .inl rfl
  | ok a => exact .inr ⟨a, rfl, h⟩

lemma error_of_mapError {x : Except ε α} {f : ε → ε'} {e' : ε'} (h : x.mapError f = .error e') :
    ∃ e, x = .error e ∧ e' = f e := by
  cases x with
  | error e =>
    cases h
    exact ⟨e, rfl, rfl⟩
  | ok a => cases h

end Errors

/-! ## Requests -/

lemma family_of_integerOfText {text : String} {fault : ValueFault}
    (h : integerOfText text = .error fault) : fault.family = .content := by
  rw [integerOfText] at h
  split at h
  · cases h
  · rename_i e _
    cases h
    cases e <;> rfl

namespace Request

/-- The failures of settings that make no usable request. -/
inductive Unusable : Failure → Prop where
  /-- They give no address. -/
  | address (fault : AddressFault) : Unusable (.address fault)
  /-- They name a host or a key that cannot be presented, or no scheme. -/
  | value {fault : ValueFault} (family : fault.family = .content) : Unusable (.value fault)

lemma family_of_checkHost {a : Address} {fault : ValueFault} (h : checkHost a = .error fault) :
    fault.family = .content := by
  rw [checkHost] at h
  split_ifs at h
  · rcases error_of_bind h with hname | ⟨_, -, h⟩
    · obtain ⟨label, -, rfl⟩ := error_of_mapError hname
      rfl
    · split at h <;> cases h
      rfl
  · split at h <;> cases h
    rfl

lemma unusable_of_prepare {method url : String} {query : List (String × Int)}
    {key : Option String} {f : Failure} (h : prepare method url query key = .error f) :
    Unusable f := by
  rw [prepare] at h
  rcases error_of_bind h with haddress | ⟨address, -, h⟩
  · obtain ⟨fault, -, rfl⟩ := error_of_mapError haddress
    exact .address fault
  rcases error_of_bind h with hhost | ⟨_, -, h⟩
  · obtain ⟨fault, hfault, rfl⟩ := error_of_mapError hhost
    exact .value (family_of_checkHost hfault)
  · cases h

end Request

namespace Client

open Request (Unusable)

/-- The failures with which a request for JSON ends. -/
inductive Unmet (l : Link τ) : Failure → Prop where
  /-- The bridge has no answer. -/
  | bridge (error : BridgeError) : Unmet l (.bridge error)
  /-- The settings, or the time to wait that they or the bridge ask for, cannot be used. -/
  | value {fault : ValueFault} (family : fault.family = .content ∨ fault.family = .range) :
    Unmet l (.value fault)
  /-- The settings give no address. -/
  | address (fault : AddressFault) : Unmet l (.address fault)
  /-- The answer is nested too deeply. -/
  | documentTooDeep : Unmet l .documentTooDeep
  /-- The user interrupted the request, or a wait before it was made again. -/
  | interrupted (link : l.Interrupts ∨ l.InterruptsWait) : Unmet l .interrupted

/-- The failures with which a download ends. -/
inductive Unfetched (l : Link τ) : Failure → Prop where
  /-- The bridge does not deliver the content, or it cannot be written. -/
  | bridge (error : BridgeError) : Unfetched l (.bridge error)
  /-- The settings, or the size that the bridge announces, cannot be used. -/
  | value {fault : ValueFault} (family : fault.family = .content) : Unfetched l (.value fault)
  /-- The settings give no address. -/
  | address (fault : AddressFault) : Unfetched l (.address fault)
  /-- The target holds the null character. -/
  | nullCharacter : Unfetched l .nullCharacter
  /-- The user interrupted the request. -/
  | interrupted (link : l.Interrupts) : Unfetched l .interrupted

lemma Unmet.of_unusable {f : Failure} (h : Unusable f) : Unmet l f := by
  cases h with
  | address fault => exact .address fault
  | value hfamily => exact .value (.inl hfamily)

lemma Unfetched.of_unusable {f : Failure} (h : Unusable f) : Unfetched l f := by
  cases h with
  | address fault => exact .address fault
  | value hfamily => exact .value hfamily

lemma family_of_checkKey {fault : ValueFault} (h : c.checkKey = .error fault) :
    fault.family = .content := by
  rw [checkKey] at h
  split at h
  · cases h
  · dsimp only at h
    split at h <;> cases h
    rfl

lemma ensures_openUp : Ensures (fun _ => True) (c.openUp : Action (Connection τ) Unit)
    (fun _ _ => True) (fun f _ => Unusable f) := by
  refine Ensures.bind (m := fun _ _ => True) (Ensures.ofChecked (fun _ _ _ _ => trivial) ?_)
    fun _ => Ensures.change fun _ _ => trivial
  intro fault hfault _ _
  exact .value (family_of_checkKey hfault)

lemma ensures_prepare (method url : String) (query : List (String × Int)) (key : Option String) :
    Ensures (fun _ => True)
      (Procedure.ofExcept (Request.prepare method url query key) : Action (Connection τ) Request)
      (fun _ _ => True) (fun f _ => Unusable f) :=
  Ensures.ofExcept (fun _ _ _ _ => trivial) fun _ hprepare _ _ =>
    Request.unusable_of_prepare hprepare

lemma unusable_of_checkAnswer {r : Request} {answer : Answer} {fault : ValueFault}
    (h : Link.checkAnswer r answer = .error fault) : Unusable (.value fault) := by
  cases answer with
  | response _ =>
    rw [Link.checkAnswer] at h
    by_cases hscheme : r.address.scheme = ""
    · rw [if_pos hscheme] at h
      cases h
      exact .value rfl
    · rw [if_neg hscheme] at h
      cases h
  | unreachable _ | interrupted => cases h

/-- On the way to the answer that stands, too, it is the link that reports an interruption. -/
lemma interrupts_of_follow {left : Nat} {r : Request} {answer : Answer} {state : τ}
    {files : FileSystem} (hanswer : answer = .interrupted → l.Interrupts)
    (h : (l.follow left r answer state files).1.answer = .interrupted) : l.Interrupts := by
  fun_induction Link.follow l left r answer state files with
  | case1 => exact hanswer h
  | case2 | case3 => cases h
  | case4 r answer state files hop left hnext answer' state' files' hexchange arrival rest hfollow
      ih =>
    rw [hfollow] at ih
    refine ih (fun hinterrupted => ⟨hop, state, files, ?_⟩) h
    rw [hexchange]
    exact hinterrupted

lemma interrupts_of_deliver {r : Request} {state : τ} {files : FileSystem}
    (h : (l.deliver r state files).1.answer = .interrupted) : l.Interrupts := by
  rw [Link.deliver] at h
  dsimp only at h
  split_ifs at h
  · exact ⟨r, state, files, h⟩
  · exact interrupts_of_follow (fun hfirst => ⟨r, state, files, hfirst⟩) h

lemma ensures_send (r : Request) : Ensures (fun _ => True) (l.send r)
    (fun arrival _ => arrival.answer = .interrupted → l.Interrupts) (fun f _ => Unusable f) := by
  intro w _
  rw [Link.run_send]
  rcases hcheck : Link.checkAnswer r (l.deliver r w.other.link w.files).1.answer with fault | u
  · exact unusable_of_checkAnswer hcheck
  · exact interrupts_of_deliver

/-- A wait ends early only if its time cannot be waited for, or the user interrupts it. -/
lemma ensures_wait (seconds : Float) : Ensures (fun _ => True) (l.wait seconds)
    (fun _ _ => True) (fun f _ => Unmet l f) := by
  intro w _
  rw [Link.run_wait]
  rcases hpause : l.pause seconds w.other.link with _ | problem | _
  · trivial
  · refine .value ?_
    cases problem
    · exact .inl rfl
    · exact .inl rfl
    · exact .inr rfl
  · exact .interrupted (.inr ⟨seconds, w.other.link, hpause⟩)

lemma unmet_of_judgeContent {r : Response} {f : Failure} (h : judgeContent r = .failed f) :
    Unmet l f := by
  rw [judgeContent] at h
  split_ifs at h
  · cases h
    exact .bridge _
  · split at h <;> cases h
    · exact .bridge _
    · exact .documentTooDeep

lemma unmet_of_judgeRefusal {r : Response} {f : Failure} (h : judgeRefusal r = .failed f) :
    Unmet l f := by
  have hwords : ∀ {failure}, refusalWords r.body = .error failure → failure = .documentTooDeep := by
    intro failure hwords
    rw [refusalWords] at hwords
    split at hwords <;> cases hwords
    rfl
  rw [judgeRefusal] at h
  split at h
  · cases h
    exact .bridge _
  · cases h
    exact .bridge _
  · cases h
    exact .bridge _
  · cases h
  · split at h
    · rename_i hrefusal
      cases h
      obtain rfl := hwords hrefusal
      exact .documentTooDeep
    · dsimp only at h
      split_ifs at h
      cases h
      exact .bridge _

/-- An answer that ends a request ends it with one of its failures. -/
lemma unmet_of_judge {answer : Answer} {f : Failure} (h : judge answer = .failed f)
    (hlink : answer = .interrupted → l.Interrupts) : Unmet l f := by
  cases answer with
  | interrupted =>
    cases h
    exact .interrupted (.inl (hlink rfl))
  | unreachable cause => cases h
  | response r =>
    rw [judge] at h
    split at h
    · cases h
    · split_ifs at h
      · exact unmet_of_judgeContent h
      · exact unmet_of_judgeRefusal h

lemma family_of_scaledDelay {delay : Number} {attempt : Int} {fault : ValueFault}
    (h : scaledDelay delay attempt = .error fault) : fault.family = .range := by
  have hfloat : ∀ {n : Int} {fault}, toFloat n = .error fault → fault.family = .range := by
    intro n fault h
    rw [toFloat] at h
    split at h <;> cases h
    rfl
  have hnumber : ∀ {fault}, numberToFloat delay = .error fault → fault.family = .range := by
    intro fault h
    cases delay with
    | int n => exact hfloat h
    | float x => cases h
  rw [scaledDelay.eq_def] at h
  split_ifs at h
  · rcases error_of_bind h with h | ⟨_, -, h⟩
    · exact hfloat h
    · rcases error_of_bind h with h | ⟨_, -, h⟩
      · exact hnumber h
      · cases h
  · cases delay with
    | int n => exact hfloat h
    | float x =>
      rcases error_of_bind h with h | ⟨_, -, h⟩
      · exact hfloat h
      · cases h

lemma family_of_requestedWait {r : Response} {fault : ValueFault}
    (h : requestedWait r = .error fault) : fault.family = .content := by
  rw [requestedWait] at h
  split at h
  · cases h
  · split_ifs at h
    split at h <;> cases h
    rfl

lemma ensures_delayAfter (attempt : Nat) (error : BridgeError) (response : Option Response) :
    Ensures (fun _ => True) (delayAfter l c attempt error response) (fun _ _ => True)
      (fun f _ => Unmet l f) := by
  have hbackoff : Ensures (fun _ => True) (backoff l c.retryDelay attempt) (fun _ _ => True)
      (fun f _ => Unmet l f) :=
    Ensures.bind (m := fun _ _ => True) (Ensures.ofChecked (fun _ _ _ _ => trivial)
      fun fault hfault _ _ => .value (.inr (family_of_scaledDelay hfault))) fun _ =>
        fun _ _ => trivial
  refine Ensures.bind hbackoff fun delay => ?_
  split
  · exact Ensures.bind (m := fun _ _ => True) (Ensures.ofChecked (fun _ _ _ _ => trivial)
      fun fault hfault _ _ => .value (.inl (family_of_requestedWait hfault))) fun _ =>
        Ensures.pure fun _ _ => trivial
  · exact Ensures.pure fun _ _ => trivial

/-- A request ends with one of its failures, however often it is made. -/
lemma ensures_attempts (r : Request) (left attempt : Nat) :
    Ensures (fun _ => True) (attempts l c r left attempt) (fun _ _ => True)
      (fun f _ => Unmet l f) := by
  induction left generalizing attempt with
  | zero => exact Ensures.fail fun _ _ => .bridge _
  | succ left ih =>
    refine Ensures.bind ((ensures_send r).failing_mono fun _ _ => .of_unusable) fun arrival => ?_
    split
    · exact Ensures.pure fun _ _ => trivial
    · rename_i f hjudge
      exact Ensures.fail fun _ hlink => unmet_of_judge hjudge hlink
    · rename_i error response _
      split_ifs
      · refine Ensures.bind (m := fun _ _ => True)
          ((ensures_delayAfter attempt error response).mono (fun _ _ => trivial)
            (fun _ _ _ => trivial) fun _ _ h => h) fun seconds => ?_
        exact Ensures.bind (m := fun _ _ => True) (ensures_wait seconds) fun _ => ih (attempt + 1)
      · exact Ensures.fail fun _ _ => .bridge _

lemma ensures_request (method endpoint : String) (query : List (String × Int)) :
    Ensures (fun _ => True) (request l c method endpoint query) (fun _ _ => True)
      (fun f _ => Unmet l f) := by
  refine Ensures.bind (ensures_openUp.failing_mono fun _ _ => .of_unusable) fun _ => ?_
  split_ifs
  · exact Ensures.fail fun _ _ => .bridge _
  exact Ensures.bind ((ensures_prepare _ _ _ _).failing_mono fun _ _ => .of_unusable) fun r =>
    ensures_attempts r _ 0

/-- Content is written unless its announced size, the target or the connection prevents it. -/
lemma ensures_store (path : Path) (r : Response) :
    Ensures (fun _ => True) (store path r : Action (Connection τ) (List Download.Progress))
      (fun _ _ => True) (fun f _ => Unfetched l f) := by
  refine Ensures.bind (m := fun _ _ => True) (Ensures.ofChecked (fun _ _ _ _ => trivial) ?_)
    fun total w _ => ?_
  · intro fault hfault _ _
    rw [Download.announcedSize] at hfault
    split at hfault
    · exact .value (family_of_integerOfText hfault)
    · cases hfault
  simp only [Procedure.run_bind, Action.files, Procedure.run_state, Procedure.run_pure]
  rcases w.files.writeFile path (r.body.take (Download.writtenLength r)) with
    ⟨_ | problem⟩ | files
  · exact .nullCharacter
  · exact .bridge _
  · simp only [Action.setFiles, Procedure.run_bind, Procedure.run_change]
    cases r.broken with
    | none => trivial
    | some cause => exact .bridge _

lemma ensures_download (node : Int) (path : Path) :
    Ensures (fun _ => True) (download l c node path) (fun _ _ => True)
      (fun f _ => Unfetched l f) := by
  refine Ensures.bind (ensures_openUp.failing_mono fun _ _ => .of_unusable) fun _ => ?_
  refine Ensures.bind ((ensures_prepare _ _ _ _).failing_mono fun _ _ => .of_unusable) fun r => ?_
  refine Ensures.bind ((ensures_send r).failing_mono fun _ _ => .of_unusable) fun arrival => ?_
  split
  · rename_i hinterrupted
    exact Ensures.fail fun _ hlink => .interrupted (hlink hinterrupted)
  · exact Ensures.fail fun _ _ => .bridge _
  · split_ifs
    · exact (ensures_store path _).mono (fun _ _ => trivial) (fun _ _ h => h) fun _ _ h => h
    · exact Ensures.fail fun _ _ => .bridge _

end Client

/-! ## Services -/

namespace Session

/-- What a service of a session does, compared with what happens inside of it.  `nothing` is what
it gives instead of a result, `before` are the messages that were there, and `escapes` are the
failures that it lets out. -/
inductive Accounted {α : Type} (nothing : α) (escapes : Failure → Prop) (before : List String)
    (inner : Except Failure α) : Except Failure α × World (Session τ) → Prop where
  /-- It succeeds, and leaves the messages as they were. -/
  | answered {a : α} {w : World (Session τ)} (success : inner = .ok a)
    (errors : w.other.errors = before) : Accounted nothing escapes before inner (.ok a, w)
  /-- It catches a failure, and leaves one message more. -/
  | reported {f : Failure} {message : String} {w : World (Session τ)} (failure : inner = .error f)
    (caught : ¬escapes f) (errors : w.other.errors = before ++ [message]) :
    Accounted nothing escapes before inner (.ok nothing, w)
  /-- It lets a failure out, and leaves the messages as they were. -/
  | escaped {f : Failure} {w : World (Session τ)} (failure : inner = .error f)
    (out : escapes f) (errors : w.other.errors = before) :
    Accounted nothing escapes before inner (.error f, w)

/-- The failures that a listing of storages lets out. -/
inductive StoragesEscape (l : Link τ) : Failure → Prop where
  /-- Any fault of a value, be it of an entry or of the settings. -/
  | value (fault : ValueFault) : StoragesEscape l (.value fault)
  /-- The settings give no address. -/
  | address (fault : AddressFault) : StoragesEscape l (.address fault)
  /-- The answer is nested too deeply. -/
  | documentTooDeep : StoragesEscape l .documentTooDeep
  /-- The user interrupted the request, or a wait before it was made again. -/
  | interrupted (link : l.Interrupts ∨ l.InterruptsWait) : StoragesEscape l .interrupted

/-- The failures that a listing of children lets out. -/
inductive ChildrenEscape (l : Link τ) : Failure → Prop where
  /-- A value that has no fields, or a number out of range. -/
  | value {fault : ValueFault} (family : fault.family = .fieldless ∨ fault.family = .range) :
    ChildrenEscape l (.value fault)
  /-- The settings give no address. -/
  | address (fault : AddressFault) : ChildrenEscape l (.address fault)
  /-- The answer is nested too deeply. -/
  | documentTooDeep : ChildrenEscape l .documentTooDeep
  /-- One page more is announced than may be asked for. -/
  | tooManyPages : ChildrenEscape l .tooManyPages
  /-- The user interrupted the request, or a wait before it was made again. -/
  | interrupted (link : l.Interrupts ∨ l.InterruptsWait) : ChildrenEscape l .interrupted

/-- The failures that a fetch lets out. -/
inductive FetchEscape (l : Link τ) : Failure → Prop where
  /-- A text with unusable content: the announced size, or one of the settings. -/
  | value {fault : ValueFault} (family : fault.family = .content) : FetchEscape l (.value fault)
  /-- The settings give no address. -/
  | address (fault : AddressFault) : FetchEscape l (.address fault)
  /-- The target holds the null character. -/
  | nullCharacter : FetchEscape l .nullCharacter
  /-- The user interrupted the request. -/
  | interrupted (link : l.Interrupts) : FetchEscape l .interrupted

section Listings

variable {e : List String}

/-- What is done on the connection leaves the messages alone. -/
lemma ensures_onConnection {α : Type} {action : Action (Connection τ) α} {failing : Failure → Prop}
    (h : Ensures (fun _ => True) action (fun _ _ => True) (fun f _ => failing f)) :
    Ensures (fun w => w.other.errors = e) (onConnection action)
      (fun _ w => w.other.errors = e) (fun f w => failing f ∧ w.other.errors = e) := by
  rw [onConnection, Action.zoom]
  refine Ensures.within fun w hw => ?_
  exact h.mono (fun _ _ => trivial) (fun _ _ _ => hw) fun _ _ hf => ⟨hf, hw⟩

/-- The failures with which the pages of a listing end. -/
inductive Unlisted (l : Link τ) : Failure → Prop where
  /-- The bridge has no answer. -/
  | bridge (error : BridgeError) : Unlisted l (.bridge error)
  /-- A page is no page or has an entry that is none, or the settings cannot be used. -/
  | value (fault : ValueFault) : Unlisted l (.value fault)
  /-- The settings give no address. -/
  | address (fault : AddressFault) : Unlisted l (.address fault)
  /-- An answer is nested too deeply. -/
  | documentTooDeep : Unlisted l .documentTooDeep
  /-- One page more is announced than may be asked for. -/
  | tooManyPages : Unlisted l .tooManyPages
  /-- The user interrupted a request, or a wait before it was made again. -/
  | interrupted (link : l.Interrupts ∨ l.InterruptsWait) : Unlisted l .interrupted

lemma Unlisted.of_unmet {f : Failure} (h : Client.Unmet l f) : Unlisted l f := by
  cases h with
  | bridge error => exact .bridge error
  | value _ => exact .value _
  | address fault => exact .address fault
  | documentTooDeep => exact .documentTooDeep
  | interrupted link => exact .interrupted link

/-- The pages of a listing leave the messages alone, however many there are. -/
lemma ensures_pagesFrom (perPage storage : Int) (container : Option Int) (left page : Nat) :
    Ensures (fun w => w.other.errors = e) (pagesFrom l c perPage storage container left page)
      (fun _ w => w.other.errors = e) (fun f w => Unlisted l f ∧ w.other.errors = e) := by
  induction left generalizing page with
  | zero => exact Ensures.fail fun _ hw => ⟨.tooManyPages, hw⟩
  | succ left ih =>
    refine Ensures.bind ((ensures_onConnection (Client.ensures_request _ _ _)).failing_mono ?_)
      fun answer => ?_
    · rintro f w ⟨hunmet, hw⟩
      exact ⟨.of_unmet hunmet, hw⟩
    refine Ensures.bind (m := fun _ w => w.other.errors = e)
      (Ensures.ofChecked (fun _ _ _ hw => hw) fun fault _ _ hw => ⟨.value fault, hw⟩) fun this => ?_
    split
    · exact Ensures.bind (ih (page + 1)) fun _ => Ensures.pure fun _ hw => hw
    · exact Ensures.pure fun _ hw => hw

end Listings

lemma isEntryFault_eq_false_iff {fault : ValueFault} :
    isEntryFault fault = false ↔ fault.family = .fieldless ∨ fault.family = .range := by
  rw [isEntryFault]
  cases fault.family <;> simp

variable (l c) (p : Paging) (storage : Int) (container : Option Int) (file : Node) (target : Path)
  (files : FileSystem) (session : Session τ)

/-- What a listing of storages does inside: it asks for them, and reads the answer. -/
def storagesInside : Except Failure (List Storage) :=
  Prod.fst <| Procedure.run
    (do let answer ← onConnection (c.storages l); Procedure.ofChecked (storagesOf answer))
    ⟨files, session, []⟩

/-- What a listing of children does inside: it asks for all pages, and reads them. -/
def childrenInside : Except Failure (List Node) :=
  ((pagesFrom l c p.perPage storage container p.limit 1).run ⟨files, session, []⟩).1

/-- What a fetch does inside: it downloads the content. -/
def fetchInside : Except Failure Bool :=
  ((onConnection (c.download l file.id target)).run ⟨files, session, []⟩).1.map fun _ => true

lemma accounted_listStorages :
    Accounted [] (StoragesEscape l) session.errors (storagesInside l c files session)
      ((remote l c p).listStorages session files) := by
  have hinner := ensures_onConnection (e := session.errors)
    (Client.ensures_request (l := l) (c := c) "GET" "/storages" []) ⟨files, session, []⟩ rfl
  show Accounted _ _ _ _ ((listStorages l c).run _)
  rw [listStorages, Procedure.run_bind, Procedure.run_attempt, storagesInside, Procedure.run_bind]
  rw [← Client.storages] at hinner
  rcases hrun : (onConnection (c.storages l)).run ⟨files, session, []⟩ with ⟨f | answer, w⟩
  · rw [hrun] at hinner
    obtain ⟨hunmet, hw⟩ := hinner
    cases hunmet with
    | bridge error => exact .reported rfl nofun (congrArg (· ++ [_]) hw)
    | value family => exact .escaped rfl (.value _) hw
    | address fault => exact .escaped rfl (.address fault) hw
    | documentTooDeep => exact .escaped rfl .documentTooDeep hw
    | interrupted link => exact .escaped rfl (.interrupted link) hw
  · rw [hrun] at hinner
    -- The answer is read outside of what is tried, so that nothing catches its faults.
    show Accounted _ _ _ ((Procedure.ofChecked (storagesOf answer)).run w).1
      ((Procedure.ofChecked (storagesOf answer)).run w)
    cases storagesOf answer with
    | ok storages => exact .answered rfl hinner
    | error fault => exact .escaped rfl (.value fault) hinner

lemma accounted_listChildren :
    Accounted [] (ChildrenEscape l) session.errors
      (childrenInside l c p storage container files session)
      ((remote l c p).listChildren storage container session files) := by
  have hinner := ensures_pagesFrom (e := session.errors) (l := l) (c := c) p.perPage storage
    container p.limit 1 ⟨files, session, []⟩ rfl
  show Accounted _ _ _ _ ((listChildren l c p storage container).run _)
  rw [listChildren, Procedure.run_bind, Procedure.run_attempt, childrenInside]
  rcases hrun : (pagesFrom l c p.perPage storage container p.limit 1).run ⟨files, session, []⟩
    with ⟨f | children, w⟩
  · rw [hrun] at hinner
    obtain ⟨hunlisted, hw⟩ := hinner
    cases hunlisted with
    | bridge error => exact .reported rfl nofun (congrArg (· ++ [_]) hw)
    | address fault => exact .escaped rfl (.address fault) hw
    | documentTooDeep => exact .escaped rfl .documentTooDeep hw
    | tooManyPages => exact .escaped rfl .tooManyPages hw
    | interrupted link => exact .escaped rfl (.interrupted link) hw
    | value fault =>
      dsimp only
      split_ifs with hentry
      · refine .reported rfl ?_ (congrArg (· ++ [_]) hw)
        rintro ⟨hfamily⟩
        rw [isEntryFault_eq_false_iff.mpr hfamily] at hentry
        cases hentry
      · have hfamily := isEntryFault_eq_false_iff.mp (by simpa using hentry)
        exact .escaped rfl (.value hfamily) hw
  · rw [hrun] at hinner
    exact .answered rfl hinner

lemma accounted_fetch :
    Accounted false (FetchEscape l) session.errors (fetchInside l c file target files session)
      ((remote l c p).fetch file target session files) := by
  have hinner := ensures_onConnection (e := session.errors)
    (Client.ensures_download (l := l) (c := c) file.id target) ⟨files, session, []⟩ rfl
  show Accounted _ _ _ _ ((fetch l c file target).run _)
  rw [fetch, Procedure.run_bind, Procedure.run_attempt, fetchInside]
  rcases hrun : (onConnection (c.download l file.id target)).run ⟨files, session, []⟩
    with ⟨f | steps, w⟩
  · rw [hrun] at hinner
    obtain ⟨hunfetched, hw⟩ := hinner
    cases hunfetched with
    | bridge error => exact .reported rfl nofun (congrArg (· ++ [_]) hw)
    | value family => exact .escaped rfl (.value family) hw
    | address fault => exact .escaped rfl (.address fault) hw
    | nullCharacter => exact .escaped rfl .nullCharacter hw
    | interrupted link => exact .escaped rfl (.interrupted link) hw
  · rw [hrun] at hinner
    exact .answered rfl hinner

/-- **A session accounts for its failures**, whatever the bridge answers: each service succeeds
with what it does inside and leaves the messages as they were, or catches its failure and leaves
one message more, or lets the failure out and leaves no message, and then the failure is one of
those that its `Escape` lists. -/
theorem accounted :
    Accounted [] (StoragesEscape l) session.errors (storagesInside l c files session)
        ((remote l c p).listStorages session files) ∧
      (∀ storage container, Accounted [] (ChildrenEscape l) session.errors
        (childrenInside l c p storage container files session)
        ((remote l c p).listChildren storage container session files)) ∧
      ∀ file target, Accounted false (FetchEscape l) session.errors
        (fetchInside l c file target files session)
        ((remote l c p).fetch file target session files) :=
  ⟨accounted_listStorages l c p files session,
    fun storage container => accounted_listChildren l c p storage container files session,
    fun file target => accounted_fetch l c p file target files session⟩

/-- A bridge that answers every request with an empty array, and calls its length `abc`. -/
def arrayLink : Link Unit where
  exchange _ state files :=
    (.response ⟨200, [("Content-Type", "application/json"), ("Content-Length", "abc")], [91, 93],
      none⟩, state, files)
  redirected _ _ := .error "nowhere"
  chance state := (0, state)
  pause _ _ := .elapsed

lemma arrayLink_not_interrupts : ¬(arrayLink.Interrupts ∨ arrayLink.InterruptsWait) := by
  rintro (⟨_, _, _, hanswer⟩ | ⟨_, _, hpause⟩)
  · cases hanswer
  · cases hpause

/-- The tree behind it. -/
def arrayTree : Remote (Session Unit) :=
  remote arrayLink { url := "http:" ++ "//bridge", key := none } { limit := 1000 }

/-- **Failures do get out**: an answer that nothing interrupts makes all three services fail. -/
theorem lets_out :
    ¬(arrayLink.Interrupts ∨ arrayLink.InterruptsWait) ∧
      (arrayTree.listStorages (start ()) .empty).1.map (fun _ => ()) =
        .error (.value (.noFields "list")) ∧
      (arrayTree.listChildren 7 none (start ()) .empty).1.map (fun _ => ()) =
        .error (.value (.noFields "list")) ∧
      (arrayTree.fetch ⟨2, none, 7, .string "file", .file, none, .null⟩ ⟨.relative, ["file"]⟩
        (start ()) .empty).1 = .error (.value (.notNumeral [0x61, 0x62, 0x63])) := by
  refine ⟨arrayLink_not_interrupts, ?_, ?_, ?_⟩
  · decide +kernel
  · decide +kernel
  · decide +kernel

end Session

end Replica
