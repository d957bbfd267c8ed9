import Replica.Proofs.Persistence
/-!
# How a request ends

Whoever makes a request for JSON counts on two ends: it has a value, or it fails with one of the
failures of the bridge.  Nearly all answers lead to one of them, on whichever attempt they come.
This module finds the others.

**Ends.**  `Client.Foreseen` are the two ends.  `Client.Unmade` are the failures of settings that
make no request, and `Client.Unforeseen` the failures of an attempt that are none of the bridge.

**Waiting.**  The time to wait is computed between two attempts, when nothing catches its faults.
A delay that is a float has none (`Client.scaledDelay_cases`), but the text of a rate limit may
be made of digits and yet not be a number (`Client.requestedWait_cases`).  Nor does anything catch
it if such a time (`Client.Waits`) cannot be waited for.

**Requests.**  `Client.request_settles` puts them together, and
`Client.fails_on_superscript` is a rate limit that gets out.
-/

namespace Replica

variable {τ : Type}

namespace Client

/-! ## Ends -/

/-- The ends on which one counts: a value, or a failure of the bridge. -/
inductive Foreseen : Except Failure Json → Prop where
  /-- The request has a value. -/
  | value (value : Json) : Foreseen (.ok value)
  /-- It fails with a failure of the bridge. -/
  | failure (error : BridgeError) : Foreseen (.error (.bridge error))

/-- The failures of settings that make no request. -/
inductive Unmade (c : Client) (method resource : String) (query : List (String × Int)) :
    Failure → Prop where
  /-- The key cannot be presented. -/
  | key {fault : ValueFault} (refused : c.checkKey = .error fault) :
    Unmade c method resource query (.value fault)
  /-- There is no such address. -/
  | address {f : Failure} (presented : c.checkKey = .ok ())
    (unprepared : Request.prepare method (c.url ++ resource) query c.presentedKey = .error f) :
    Unmade c method resource query f

/-- How long is waited after the answer to the attempt of that number, with the number drawn: as
long as a rate limit asks, and else as long as the backoff takes. -/
inductive Waits (c : Client) (attempt : Nat) (chance : Float) : Answer → Float → Prop where
  /-- A rate limit asks for a number of seconds. -/
  | asked {response : Response} {seconds : Float} (whole : response.broken = none)
    (limited : response.status = 429) (asked : requestedWait response = .ok (some seconds)) :
    Waits c attempt chance (.response response) seconds
  /-- No rate limit asks for anything. -/
  | backoff {a : Answer} {seconds : Float}
    (unasked : ∀ response, a = .response response → response.broken = none →
      response.status = 429 → requestedWait response = .ok none)
    (scaled : scaledDelay c.retryDelay attempt = .ok seconds) :
    Waits c attempt chance a (jittered seconds chance)

/-- The failures of the attempt of that number, given its answer, that are none of the bridge.
`chance` is the number drawn after it, and `pause` how the wait after it ends. -/
inductive Unforeseen (c : Client) (r : Request) (attempt : Nat) (chance : Float)
    (pause : Float → Pause) : Answer → Failure → Prop where
  /-- There is a response, although the address has no scheme. -/
  | noScheme {response : Response} (scheme : r.address.scheme = "") :
    Unforeseen c r attempt chance pause (.response response) (.value (.noScheme r.address.text))
  /-- The user interrupted the request. -/
  | interrupted : Unforeseen c r attempt chance pause .interrupted .interrupted
  /-- The body is nested too deeply. -/
  | nested {response : Response} (whole : response.broken = none)
    (nested : response.isNested = true) :
    Unforeseen c r attempt chance pause (.response response) .documentTooDeep
  /-- Another attempt may follow, but the delay is an integer, and too large by now. -/
  | delay {a : Answer} {n : Int} (again : (attempt : Int) < c.maxRetries)
    (transient : a.isTransient = true) (delay : c.retryDelay = .int n)
    (vast : Binary64.ofInt? (n * (Nat.pow 2 attempt : Nat)) = none) :
    Unforeseen c r attempt chance pause a (.value .integerOutOfRange)
  /-- Another attempt may follow, but the rate limit asks to wait for a text that is made of
  digits and is no number. -/
  | notSeconds {response : Response} {text : String} (again : (attempt : Int) < c.maxRetries)
    (whole : response.broken = none) (limited : response.status = 429)
    (header : response.header? "Retry-After" = some text)
    (digits : text.toList.all Text.isDigit = true)
    (unread : Numeral.readPlainDigits? text = none) :
    Unforeseen c r attempt chance pause (.response response) (.value (.notSeconds text))
  /-- Another attempt may follow, but the wait for it ends early. -/
  | wait {a : Answer} {seconds : Float} {f : Failure} (again : (attempt : Int) < c.maxRetries)
    (transient : a.isTransient = true) (wait : Waits c attempt chance a seconds)
    (early : (pause seconds).outcome = .error f) : Unforeseen c r attempt chance pause a f

/-- What an answer means is foreseen, but for an interruption and a body nested too deeply. -/
lemma foreseen_of_means {c : Client} {r : Request} {attempt : Nat} {chance : Float}
    {pause : Float → Pause} {a : Answer} {result : Except Failure Json} (h : a.Means result) :
    Foreseen result ∨ ∃ f, result = .error f ∧ Unforeseen c r attempt chance pause a f := by
  cases h with
  | interrupted => exact .inr ⟨_, rfl, .interrupted⟩
  | nested whole _ _ _ decoded =>
    exact .inr ⟨_, rfl, .nested whole (by rw [Response.isNested, decoded])⟩
  | refusedNested whole _ _ body => exact .inr ⟨_, rfl, .nested whole body⟩
  | empty | document => exact .inl (.value _)
  | unreachable | broken | otherType | malformed | unauthorized | forbidden | notFound | limited
  | refused => exact .inl (.failure _)

/-! ## Waiting -/

/-- The delay of an attempt is too large only if it is an integer. -/
lemma scaledDelay_cases (delay : Number) {attempt : Nat} (hattempt : attempt < 1024) :
    (∃ seconds, scaledDelay delay attempt = .ok seconds) ∨
      ∃ n, delay = .int n ∧ Binary64.ofInt? (n * (Nat.pow 2 attempt : Nat)) = none ∧
        scaledDelay delay attempt = .error .integerOutOfRange := by
  have hnonneg : ¬(attempt : Int) < 0 := by omega
  cases delay with
  | float x =>
    refine .inl ⟨x * powerOfTwo attempt, ?_⟩
    rw [scaledDelay, if_neg hnonneg]
    simp only [Int.toNat_natCast, toFloat_pow hattempt]
    rfl
  | int n =>
    rw [scaledDelay, if_neg hnonneg]
    simp only [Int.toNat_natCast, toFloat]
    rcases hscaled : Binary64.ofInt? (n * (Nat.pow 2 attempt : Nat)) with _ | seconds
    · exact .inr ⟨n, rfl, hscaled, rfl⟩
    · exact .inl ⟨seconds, rfl⟩

/-- What a rate limit asks for cannot be taken only if it is made of digits and no number. -/
lemma requestedWait_cases (r : Response) :
    (∃ wanted, requestedWait r = .ok wanted) ∨
      ∃ text, r.header? "Retry-After" = some text ∧ text.toList.all Text.isDigit = true ∧
        Numeral.readPlainDigits? text = none ∧ requestedWait r = .error (.notSeconds text) := by
  rw [requestedWait]
  rcases r.header? "Retry-After" with _ | text
  · exact .inl ⟨none, rfl⟩
  · dsimp only
    split_ifs with hdigits
    · rcases hread : Numeral.readPlainDigits? text with _ | n
      · exact .inr ⟨text, rfl, hdigits.2, hread, rfl⟩
      · exact .inl ⟨_, rfl⟩
    · exact .inl ⟨none, rfl⟩

/-- A rate limit is a whole response of that status. -/
lemma limited_of_judge {r : Response} {response : Option Response}
    (h : judge (.response r) = .transient .rateLimited response) :
    r.broken = none ∧ r.status = 429 := by
  have hmeans := (judge_spec (.response r)).1
  rw [h] at hmeans
  cases hmeans with
  | limited whole status => exact ⟨whole, status⟩

section Requests

variable {l : Link τ} {c : Client} {r : Request}

/-- Between two attempts there is a time to wait, or a failure that is not foreseen. -/
lemma run_delayAfter_cases {attempt : Nat} (pause : Float → Pause) (hattempt : attempt < 1024)
    (hagain : (attempt : Int) < c.maxRetries) {a : Answer} {error : BridgeError}
    {response : Option Response} (hjudge : judge a = .transient error response)
    (w : World (Connection τ)) :
    (∃ seconds, (delayAfter l c attempt error response).run w =
        (.ok seconds, { w with other := { w.other with link := (l.chance w.other.link).2 } }) ∧
        Waits c attempt (l.chance w.other.link).1 a seconds) ∨
      ∃ f w', (delayAfter l c attempt error response).run w = (.error f, w') ∧
        Unforeseen c r attempt (l.chance w.other.link).1 pause a f := by
  have htransient : a.isTransient = true := by
    rw [← (judge_spec a).2, hjudge]
    rfl
  rw [delayAfter]
  rcases scaledDelay_cases c.retryDelay hattempt with ⟨seconds, hscaled⟩ | ⟨n, hn, hvast, hscaled⟩
  · have hbackoff : (backoff l c.retryDelay attempt).run w =
        (.ok (jittered seconds (l.chance w.other.link).1),
          { w with other := { w.other with link := (l.chance w.other.link).2 } }) := by
      rw [backoff, hscaled]
      rfl
    rw [Procedure.run_bind_of_ok hbackoff]
    rcases wantedWait_of_transient hjudge with ⟨limit, rfl, rfl, rfl, -⟩ | ⟨herror, -⟩
    · dsimp only
      obtain ⟨hwhole, hlimited⟩ := limited_of_judge hjudge
      rcases requestedWait_cases limit with
        ⟨_ | wanted, hwanted⟩ | ⟨text, hheader, hdigits, hunread, hwanted⟩
      · rw [hwanted]
        refine .inl ⟨_, rfl, .backoff (fun response hresponse _ _ => ?_) hscaled⟩
        cases hresponse
        exact hwanted
      · rw [hwanted]
        exact .inl ⟨_, rfl, .asked hwhole hlimited hwanted⟩
      · rw [hwanted]
        exact .inr ⟨_, _, rfl, .notSeconds hagain hwhole hlimited hheader hdigits hunread⟩
    · split
      · exact absurd rfl herror
      · refine .inl ⟨_, rfl, .backoff (fun response hresponse hwhole hlimited => ?_) hscaled⟩
        -- a whole response of that status is judged a rate limit
        subst hresponse
        rw [judge_of_refusal hwhole (by simp [Response.succeeded, hlimited]), judgeRefusal,
          hlimited] at hjudge
        cases hjudge
        exact absurd rfl herror
  · refine .inr ⟨.value .integerOutOfRange, w, ?_, .delay hagain htransient hn hvast⟩
    rw [backoff, hscaled]
    rfl

/-- The attempt is the last one, and ends in a way that is foreseen or not, or another one follows
after a failure in passing. -/
lemma run_attempts_cases {left attempt : Nat} (hattempt : attempt + left ≤ 1024)
    (hretries : c.maxRetries = (attempt + left : Nat)) (w : World (Connection τ)) :
    Foreseen ((attempts l c r (left + 1) attempt).run w).1 ∨
      (∃ f, ((attempts l c r (left + 1) attempt).run w).1 = .error f ∧
        Unforeseen c r attempt (l.chanceAt r (w.other.link, w.files) 0)
          (l.pauseAt r (w.other.link, w.files) 0) (l.answerAt r (w.other.link, w.files) 0) f) ∨
      (l.answerAt r (w.other.link, w.files) 0).isTransient = true ∧ 0 < left ∧
        ∃ v, (attempts l c r (left + 1) attempt).run w =
            (attempts l c r left (attempt + 1)).run v ∧
          (v.other.link, v.files) = l.turn r (w.other.link, w.files) := by
  rcases run_send_cases l r w with ⟨response, v, hanswer, hscheme, hsend⟩ | ⟨v, hsend, hstate, -⟩
  · rw [attempts, Procedure.run_bind, hsend, hanswer]
    exact .inr (.inl ⟨_, rfl, .noScheme hscheme⟩)
  have hlink : v.other.link = (l.deliver r w.other.link w.files).2.1 := congrArg Prod.fst hstate
  have hfiles : v.files = (l.deliver r w.other.link w.files).2.2 := congrArg Prod.snd hstate
  have hmeans : Foreseen (judge (l.answerAt r (w.other.link, w.files) 0)).outcome ∨
      ∃ f, (judge (l.answerAt r (w.other.link, w.files) 0)).outcome = .error f ∧
        Unforeseen c r attempt (l.chanceAt r (w.other.link, w.files) 0)
          (l.pauseAt r (w.other.link, w.files) 0) (l.answerAt r (w.other.link, w.files) 0) f :=
    foreseen_of_means (judge_spec _).1
  have htransient := (judge_spec (l.answerAt r (w.other.link, w.files) 0)).2
  rw [attempts, Procedure.run_bind_of_ok hsend, ← Link.answerAt]
  rcases hjudge : judge (l.answerAt r (w.other.link, w.files) 0) with
    value | failure | ⟨error, response⟩ <;>
    rw [hjudge] at hmeans htransient <;> dsimp only
  · exact hmeans.imp_right .inl
  · exact hmeans.imp_right .inl
  split_ifs with htries
  · have hleft : 0 < left := (triesAgain_iff hretries).mp htries
    have hagain : (attempt : Int) < c.maxRetries := by omega
    rw [Procedure.run_bind]
    have hdelay := run_delayAfter_cases (l := l) (r := r) (l.pauseAt r (w.other.link, w.files) 0)
      (by omega) hagain hjudge v
    rw [hlink] at hdelay
    rcases hdelay with ⟨seconds, hdelay, hwaits⟩ | ⟨f, w', hdelay, hunforeseen⟩
    · rw [hdelay]
      dsimp only
      rw [Procedure.run_bind, Link.run_wait]
      dsimp only
      rw [show l.pause seconds (l.chance (l.deliver r w.other.link w.files).2.1).2 =
        l.pauseAt r (w.other.link, w.files) 0 seconds from rfl]
      rcases hpause : (l.pauseAt r (w.other.link, w.files) 0 seconds).outcome with f | _
      · exact .inr (.inl ⟨f, rfl, .wait hagain htransient.symm hwaits hpause⟩)
      · refine .inr (.inr ⟨htransient.symm, hleft, _, rfl, ?_⟩)
        show (_, v.files) = _
        rw [hfiles]
        rfl
    · rw [hdelay]
      exact .inr (.inl ⟨f, rfl, hunforeseen⟩)
  · exact hmeans.imp_right .inl

/-- **Attempts end as foreseen, or at one that does not**, and all before that one failed in
passing. -/
lemma run_attempts_settles (left attempt : Nat) (hattempt : attempt + left ≤ 1024)
    (hretries : c.maxRetries = (attempt + left : Nat)) (w : World (Connection τ)) :
    Foreseen ((attempts l c r (left + 1) attempt).run w).1 ∨
      ∃ k ≤ left, (∀ j < k, (l.answerAt r (w.other.link, w.files) j).isTransient = true) ∧
        ∃ f, ((attempts l c r (left + 1) attempt).run w).1 = .error f ∧
          Unforeseen c r (attempt + k) (l.chanceAt r (w.other.link, w.files) k)
            (l.pauseAt r (w.other.link, w.files) k) (l.answerAt r (w.other.link, w.files) k) f := by
  induction left generalizing attempt w with
  | zero =>
    rcases run_attempts_cases (l := l) (r := r) hattempt hretries w with
      hforeseen | ⟨f, hrun, hunforeseen⟩ | ⟨-, hleft, -⟩
    · exact .inl hforeseen
    · exact .inr ⟨0, Nat.le_refl 0, nofun, f, hrun, hunforeseen⟩
    · exact absurd hleft (Nat.lt_irrefl 0)
  | succ left ih =>
    rcases run_attempts_cases (l := l) (r := r) hattempt hretries w with
      hforeseen | ⟨f, hrun, hunforeseen⟩ | ⟨htransient, -, v, hagain, hturn⟩
    · exact .inl hforeseen
    · exact .inr ⟨0, Nat.zero_le _, nofun, f, hrun, hunforeseen⟩
    · rw [hagain]
      refine (ih (attempt + 1) (by omega) (by omega) v).imp_right ?_
      rintro ⟨k, hk, hbefore, f, hrun, hunforeseen⟩
      -- what the link has to say from here on is what it had to say later before
      rw [hturn] at hbefore hunforeseen
      rw [← Link.answerAt_succ, ← Link.chanceAt_succ, ← Link.pauseAt_succ, Nat.add_assoc,
        Nat.add_comm 1 k] at hunforeseen
      refine ⟨k + 1, by omega, fun j hj => ?_, f, hrun, hunforeseen⟩
      cases j with
      | zero => exact htransient
      | succ j =>
        rw [Link.answerAt_succ]
        exact hbefore j (by omega)

end Requests

/-- An attempt of the sample is foreseen unless the user interrupts it or the wait after it, a body
is nested too deeply, or what a response asks to wait is no number. -/
lemma sample_not_unforeseen {chance : Float} {pause : Float → Pause} {a : Answer} {k : Nat}
    {f : Failure} (hcalm : a ≠ .interrupted) (helapsed : ∀ seconds, pause seconds = .elapsed)
    (hflat : ∀ r, a = .response r → r.isNested = false)
    (hread : ∀ r, a = .response r → ∀ text ∈ r.header? "Retry-After",
      (Numeral.readPlainDigits? text).isSome) :
    ¬Unforeseen sample sampleRequest k chance pause a f := by
  intro h
  cases h with
  | noScheme scheme => exact sample_makes.scheme scheme
  | interrupted => exact hcalm rfl
  | nested _ nested => exact absurd ((hflat _ rfl).symm.trans nested) nofun
  | delay _ _ delay => cases delay
  | notSeconds _ _ _ header _ unread =>
    have hsome := hread _ rfl _ header
    rw [unread] at hsome
    cases hsome
  | wait _ _ _ early =>
    rw [helapsed] at early
    cases early

/-- A rate limit that asks to wait for two in superscript, and then an empty object. -/
def superscript : List Answer :=
  [.response ⟨429, [("Retry-After", "²")], [], none⟩,
    .response ⟨200, [("Content-Type", "application/json")], "{}".toUTF8.toList, none⟩]

/-- A request with those answers. -/
def superscriptRequest : Except Failure Json × World (Connection (List Answer)) :=
  (request Link.scripted sample "GET" "test" []).run ⟨.empty, ⟨superscript, false⟩, []⟩

end Client

end Replica
