import Mathlib.Logic.Function.Iterate
import Replica.Proofs.Sessions
import Replica.Proofs.Sizes
/-!
# How long a client persists

A request for JSON is made again while its answers are failures in passing and attempts are left.
How many requests are sent, how long is waited between them and what comes of it all follow from the
answers alone.

* **Answers.**  `Answer.isTransient` are the failures in passing.  `Answer.Means` is the table of
  what comes of an answer after which no other attempt is made.
* **Attempts.**  `Link.arrivalAt`, `Link.chanceAt` and `Link.pauseAt` are what a link has to say to
  one attempt after another, whether or not it comes to all of them.
* **Waiting.**  `Client.waitAfter` is the time after an attempt: the one that a rate limit asks for,
  and else the backoff, which is a float as long as the power of two is one.
* **Requests.**  `Client.request_persists` puts them together.  A server error does not count as
  transient if its body is nested too deeply: `Client.gives_up_on_nesting`.
-/

namespace Replica

variable {τ : Type}

/-! ## Answers -/

/-- The body is nested more deeply than is read. -/
def Response.isNested (r : Response) : Bool :=
  match Json.decode r.body with
  | .error .tooDeep => true
  | _ => false

/-- The content is announced as JSON. -/
def Response.isJson (r : Response) : Bool :=
  Text.containsRun "application/json".toList ((r.header? "Content-Type").getD "").toList

namespace Answer

/-- The answer is a failure in passing: there is no response, or it breaks off, or it is a rate
limit or an error of the server. -/
def isTransient : Answer → Bool
  | .interrupted => false
  | .unreachable _ => true
  | .response r =>
    r.broken.isSome || r.status == 429 ||
      (decide (500 ≤ r.status) && decide (r.status < 600) && !r.isNested)

/-- What comes of an answer after which no other attempt is made. -/
inductive Means : Answer → Except Failure Json → Prop where
  /-- The user interrupted the request. -/
  | interrupted : Means .interrupted (.error .interrupted)
  /-- There is no response. -/
  | unreachable {cause : String} : Means (.unreachable cause) (.error (.bridge (.network cause)))
  /-- The response breaks off. -/
  | broken {r : Response} {cause : String} (broken : r.broken = some cause) :
    Means (.response r) (.error (.bridge (.network cause)))
  /-- A success without content is an empty object. -/
  | empty {r : Response} (whole : r.broken = none) (success : r.succeeded = true)
    (content : r.body = []) : Means (.response r) (.ok (.object []))
  /-- A success with a document gives its value. -/
  | document {r : Response} {value : Json} (whole : r.broken = none)
    (success : r.succeeded = true) (content : r.body ≠ []) (type : r.isJson = true)
    (decoded : Json.decode r.body = .ok value) : Means (.response r) (.ok value)
  /-- The content is not announced as JSON. -/
  | otherType {r : Response} (whole : r.broken = none) (success : r.succeeded = true)
    (content : r.body ≠ []) (type : r.isJson = false) :
    Means (.response r) (.error (.bridge (.contentType ((r.header? "Content-Type").getD ""))))
  /-- The content is no document. -/
  | malformed {r : Response} (whole : r.broken = none) (success : r.succeeded = true)
    (content : r.body ≠ []) (type : r.isJson = true)
    (decoded : Json.decode r.body = .error .malformed) :
    Means (.response r) (.error (.bridge .notJson))
  /-- The document of a success is nested too deeply. -/
  | nested {r : Response} (whole : r.broken = none) (success : r.succeeded = true)
    (content : r.body ≠ []) (type : r.isJson = true)
    (decoded : Json.decode r.body = .error .tooDeep) :
    Means (.response r) (.error .documentTooDeep)
  /-- The key is refused. -/
  | unauthorized {r : Response} (whole : r.broken = none) (status : r.status = 401) :
    Means (.response r) (.error (.bridge .unauthorized))
  /-- Access is forbidden. -/
  | forbidden {r : Response} (whole : r.broken = none) (status : r.status = 403) :
    Means (.response r) (.error (.bridge .forbidden))
  /-- There is no such resource. -/
  | notFound {r : Response} (whole : r.broken = none) (status : r.status = 404) :
    Means (.response r) (.error (.bridge .notFound))
  /-- Too many requests were made. -/
  | limited {r : Response} (whole : r.broken = none) (status : r.status = 429) :
    Means (.response r) (.error (.bridge .rateLimited))
  /-- Any other status is named, with the words that the body gives. -/
  | refused {r : Response} {words : Option String} (whole : r.broken = none)
    (failure : r.succeeded = false) (status : r.status ∉ [401, 403, 404, 429])
    (body : Client.refusalWords r.body = .ok words) :
    Means (.response r) (.error (.bridge (.status r.status words)))
  /-- The body of any other status is nested too deeply. -/
  | refusedNested {r : Response} (whole : r.broken = none) (failure : r.succeeded = false)
    (status : r.status ∉ [401, 403, 404, 429]) (body : r.isNested = true) :
    Means (.response r) (.error .documentTooDeep)

end Answer

namespace Client

/-- What a verdict comes to if no other attempt is made. -/
def Verdict.outcome : Verdict → Except Failure Json
  | .answered value => .ok value
  | .failed failure => .error failure
  | .transient error _ => .error (.bridge error)

/-- Whether another attempt may follow a verdict. -/
def Verdict.isTransient : Verdict → Bool
  | .transient .. => true
  | _ => false

lemma refusalWords_of_isNested {r : Response} :
    (r.isNested = true ∧ refusalWords r.body = .error .documentTooDeep) ∨
      (r.isNested = false ∧ ∃ words, refusalWords r.body = .ok words) := by
  rw [Response.isNested, refusalWords]
  rcases Json.decode r.body with ⟨_ | _⟩ | (_ | _ | _ | _ | _ | _) <;> simp

/-- What is judged a failure in passing, and what comes of a status that is no success. -/
lemma judgeRefusal_spec {r : Response} (whole : r.broken = none) (failure : r.succeeded = false) :
    Answer.Means (.response r) (judgeRefusal r).outcome ∧
      (judgeRefusal r).isTransient = Answer.isTransient (.response r) := by
  have htransient : Answer.isTransient (.response r) =
      (r.status == 429 || (decide (500 ≤ r.status) && decide (r.status < 600) && !r.isNested)) := by
    rw [Answer.isTransient, whole]
    rfl
  rw [htransient, judgeRefusal]
  split
  next h => exact ⟨.unauthorized whole h, by rw [h]; rfl⟩
  next h => exact ⟨.forbidden whole h, by rw [h]; rfl⟩
  next h => exact ⟨.notFound whole h, by rw [h]; rfl⟩
  next h => exact ⟨.limited whole h, by rw [h]; rfl⟩
  next h401 h403 h404 h429 =>
    have hlimit : (r.status == 429) = false := beq_eq_false_iff_ne.mpr h429
    have hstatus : r.status ∉ [401, 403, 404, 429] := by
      simp only [List.mem_cons, List.not_mem_nil, or_false, not_or]
      exact ⟨h401, h403, h404, h429⟩
    rcases refusalWords_of_isNested (r := r) with ⟨hnested, hwords⟩ | ⟨hnested, words, hwords⟩
    · rw [hwords, hnested, hlimit]
      exact ⟨.refusedNested whole failure hstatus hnested, by simp [Verdict.isTransient]⟩
    · rw [hwords, hnested, hlimit]
      dsimp only
      split_ifs with hserver
      · exact ⟨.refused whole failure hstatus hwords, by simp [Verdict.isTransient, hserver]⟩
      · refine ⟨.refused whole failure hstatus hwords, ?_⟩
        simpa [Verdict.isTransient] using hserver

lemma judgeContent_spec {r : Response} (whole : r.broken = none) (success : r.succeeded = true) :
    Answer.Means (.response r) (judgeContent r).outcome ∧
      (judgeContent r).isTransient = Answer.isTransient (.response r) := by
  have hstatus : 200 ≤ r.status ∧ r.status < 300 := by simpa [Response.succeeded] using success
  have htransient : Answer.isTransient (.response r) = false := by
    rw [Answer.isTransient, whole]
    have h429 : (r.status == 429) = false := by simp; omega
    have h500 : decide (500 ≤ r.status) = false := by simp; omega
    rw [h429, h500]
    rfl
  rw [htransient, judgeContent]
  split_ifs with hempty htype
  · exact ⟨.empty whole success (by simpa using hempty), rfl⟩
  · have hjson : r.isJson = false := by simpa [Response.isJson] using htype
    exact ⟨.otherType whole success (by simpa using hempty) hjson, rfl⟩
  · have hcontent : r.body ≠ [] := by simpa using hempty
    have hjson : r.isJson = true := by simpa [Response.isJson] using htype
    rcases hdecode : Json.decode r.body with ⟨_ | _⟩ | value
    · exact ⟨.malformed whole success hcontent hjson hdecode, rfl⟩
    · exact ⟨.nested whole success hcontent hjson hdecode, rfl⟩
    · exact ⟨.document whole success hcontent hjson hdecode, rfl⟩

lemma judge_of_success {r : Response} (whole : r.broken = none) (success : r.succeeded = true) :
    judge (.response r) = judgeContent r := by
  rw [judge, whole]
  exact if_pos success

lemma judge_of_refusal {r : Response} (whole : r.broken = none) (failure : r.succeeded = false) :
    judge (.response r) = judgeRefusal r := by
  rw [judge, whole]
  exact if_neg (by rw [failure]; exact Bool.false_ne_true)

lemma judge_of_document {r : Response} (whole : r.broken = none) (success : r.succeeded = true)
    (content : r.body ≠ []) (type : r.isJson = true) :
    judge (.response r) = match Json.decode r.body with
      | .ok value => .answered value
      | .error .malformed => .failed (.bridge .notJson)
      | .error .tooDeep => .failed .documentTooDeep := by
  have htype : ¬(!r.isJson) = true := by simp [type]
  rw [judge_of_success whole success, judgeContent, if_neg (by simpa using content)]
  exact if_neg htype

lemma judge_of_other {r : Response} (whole : r.broken = none) (failure : r.succeeded = false)
    (status : r.status ∉ [401, 403, 404, 429]) :
    (judge (.response r)).outcome = match refusalWords r.body with
      | .ok words => .error (.bridge (.status r.status words))
      | .error failure => .error failure := by
  simp only [List.mem_cons, List.not_mem_nil, or_false, not_or] at status
  rw [judge_of_refusal whole failure, judgeRefusal]
  split
  next h => exact absurd h status.1
  next h => exact absurd h status.2.1
  next h => exact absurd h status.2.2.1
  next h => exact absurd h status.2.2.2
  next =>
    rcases refusalWords r.body with failure | words
    · rfl
    · dsimp only
      split_ifs <;> rfl

/-- **Every answer is judged by the table.** -/
lemma judge_spec (a : Answer) :
    a.Means (judge a).outcome ∧ (judge a).isTransient = a.isTransient := by
  cases a with
  | interrupted => exact ⟨.interrupted, rfl⟩
  | unreachable cause => exact ⟨.unreachable, rfl⟩
  | response r =>
    rw [judge]
    rcases hbroken : r.broken with _ | cause
    · dsimp only
      split_ifs with hsuccess
      · exact judgeContent_spec hbroken hsuccess
      · exact judgeRefusal_spec hbroken (by simpa using hsuccess)
    · exact ⟨.broken hbroken, by rw [Answer.isTransient, hbroken]; rfl⟩

end Client

/-- The table leaves no choice. -/
lemma Answer.Means.outcome_eq {a : Answer} {result : Except Failure Json} (h : a.Means result) :
    result = (Client.judge a).outcome := by
  cases h with
  | interrupted => rfl
  | unreachable => rfl
  | broken broken =>
    rw [Client.judge, broken]
    rfl
  | empty whole success content =>
    rw [Client.judge_of_success whole success, Client.judgeContent, content]
    rfl
  | document whole success content type decoded | malformed whole success content type decoded
  | nested whole success content type decoded =>
    rw [Client.judge_of_document whole success content type, decoded]
    rfl
  | otherType whole success content type =>
    rw [Response.isJson] at type
    rw [Client.judge_of_success whole success, Client.judgeContent, if_neg (by simpa using content),
      if_pos (by rw [type]; rfl)]
    rfl
  | unauthorized whole status | forbidden whole status | notFound whole status
  | limited whole status =>
    rw [Client.judge_of_refusal whole (by simp [Response.succeeded, status]), Client.judgeRefusal,
      status]
    rfl
  | refused whole failure status body => rw [Client.judge_of_other whole failure status, body]
  | refusedNested whole failure status body =>
    rcases Client.refusalWords_of_isNested with ⟨-, hwords⟩ | ⟨hflat, -⟩
    · rw [Client.judge_of_other whole failure status, hwords]
    · cases body.symm.trans hflat

/-! ## Attempts -/

namespace Link

variable (l : Link τ) (r : Request)

/-- The link and the local files after one more attempt: an answer stands, and a number is drawn. -/
def turn (s : τ × FileSystem) : τ × FileSystem :=
  ((l.chance (l.deliver r s.1 s.2).2.1).2, (l.deliver r s.1 s.2).2.2)

/-- What comes of the attempt of that number in the end, if it comes to it. -/
def arrivalAt (s : τ × FileSystem) (j : Nat) : Arrival :=
  (l.deliver r ((l.turn r)^[j] s).1 ((l.turn r)^[j] s).2).1

/-- The answer that stands after the attempt of that number. -/
def answerAt (s : τ × FileSystem) (j : Nat) : Answer := (l.arrivalAt r s j).answer

/-- What is sent in the attempt of that number: the request, and those to which responses lead
on. -/
def sentAt (s : τ × FileSystem) (j : Nat) : List Event :=
  .sent r :: (l.arrivalAt r s j).hops.map .followed

/-- The number that is drawn after the attempt of that number, if another one follows. -/
def chanceAt (s : τ × FileSystem) (j : Nat) : Float :=
  (l.chance (l.deliver r ((l.turn r)^[j] s).1 ((l.turn r)^[j] s).2).2.1).1

/-- How a wait of some seconds after the attempt of that number ends. -/
def pauseAt (s : τ × FileSystem) (j : Nat) (seconds : Float) : Pause :=
  l.pause seconds ((l.turn r)^[j + 1] s).1

lemma arrivalAt_succ (s : τ × FileSystem) (j : Nat) :
    l.arrivalAt r s (j + 1) = l.arrivalAt r (l.turn r s) j := by
  rw [arrivalAt, Function.iterate_succ_apply, arrivalAt]

lemma answerAt_succ (s : τ × FileSystem) (j : Nat) :
    l.answerAt r s (j + 1) = l.answerAt r (l.turn r s) j := by
  rw [answerAt, arrivalAt_succ, answerAt]

lemma sentAt_succ (s : τ × FileSystem) (j : Nat) :
    l.sentAt r s (j + 1) = l.sentAt r (l.turn r s) j := by
  rw [sentAt, arrivalAt_succ, sentAt]

lemma chanceAt_succ (s : τ × FileSystem) (j : Nat) :
    l.chanceAt r s (j + 1) = l.chanceAt r (l.turn r s) j := by
  rw [chanceAt, Function.iterate_succ_apply, chanceAt]

lemma pauseAt_succ (s : τ × FileSystem) (j : Nat) :
    l.pauseAt r s (j + 1) = l.pauseAt r (l.turn r s) j := by
  funext seconds
  rw [pauseAt, Function.iterate_succ_apply, pauseAt]

end Link

/-! ## Waiting -/

namespace BinaryFraction

/-- A power of two has one digit, whatever the exponent. -/
lemma nearest_pow (k : Nat) : nearest (Nat.pow 2 k) 1 = ⟨Nat.pow 2 52, (k : Int) - 52⟩ := by
  have hpos : 0 < Nat.pow 2 k := Nat.two_pow_pos k
  have hquotient : ((Nat.pow 2 k : ℕ) : ℚ) / (1 : ℕ) = 2 ^ (k : ℤ) := by
    simp
  have hlead : leadingExponent (Nat.pow 2 k) 1 = k := by
    refine leadingExponent_eq hpos (by decide) hquotient.ge ?_
    rw [hquotient]
    exact zpow_lt_zpow_right₀ (by norm_num) (by omega)
  have hexponent : (nearest (Nat.pow 2 k) 1).exponent = (k : Int) - 52 := by
    rw [exponent_nearest, hlead]
    omega
  have hmantissa : (nearest (Nat.pow 2 k) 1).mantissa = Nat.pow 2 52 := by
    have hround := roundsTo_nearest (Nat.pow 2 k) Nat.one_pos
    rw [hexponent, hquotient, ← zpow_sub₀ (by norm_num), sub_sub_cancel] at hround
    exact hround.unique (by exact_mod_cast RoundsTo.natCast (2 ^ 52))
  calc nearest (Nat.pow 2 k) 1
      = ⟨(nearest (Nat.pow 2 k) 1).mantissa, (nearest (Nat.pow 2 k) 1).exponent⟩ := rfl
    _ = ⟨Nat.pow 2 52, (k : Int) - 52⟩ := by rw [hmantissa, hexponent]

lemma inRange_nearest_pow {k : Nat} (hk : k < 1024) : (nearest (Nat.pow 2 k) 1).inRange = true := by
  rw [inRange, numerator, denominator, nearest_pow, decide_eq_true_eq]
  generalize 1024 = n at hk ⊢
  show 2 ^ 52 * 2 ^ ((k : Int) - 52).toNat < 2 ^ n * 2 ^ (-((k : Int) - 52)).toNat
  rw [← Nat.pow_add, ← Nat.pow_add]
  exact Nat.pow_lt_pow_right (by decide) (by omega)

end BinaryFraction

namespace Client

/-- The float that is two to that number, for a number below 1024. -/
def powerOfTwo (k : Nat) : Float := Float.ofBits ((k + 1023).toUInt64 <<< 52)

lemma toFloat_pow {k : Nat} (hk : k < 1024) : toFloat (Nat.pow 2 k : Nat) = .ok (powerOfTwo k) := by
  have hpos : Nat.pow 2 k ≠ 0 := Nat.pos_iff_ne_zero.mp (Nat.two_pow_pos k)
  have hsign : decide (((Nat.pow 2 k : Nat) : Int) < 0) = false :=
    decide_eq_false (Int.not_lt.mpr (Int.natCast_nonneg _))
  have hfloat : Binary64.toFloat false ⟨Nat.pow 2 52, (k : Int) - 52⟩ = powerOfTwo k := by
    have hdigits : ¬Nat.pow 2 52 = Nat.pow 2 53 := by decide
    have hexponent : ((k : Int) - 52 + 1075).toNat = k + 1023 := by omega
    rw [Binary64.toFloat, if_neg (Nat.lt_irrefl _), if_neg hdigits, hexponent, powerOfTwo]
    simp
  rw [toFloat, Binary64.ofInt?, hsign, Int.natAbs_natCast, Binary64.ofQuotient?, if_neg hpos,
    if_pos (BinaryFraction.inRange_nearest_pow hk), BinaryFraction.nearest_pow, hfloat]

end Client

/-! ### Rate limits -/

/-- The value of a numeral in ASCII digits. -/
def Numeral.value (cs : List Char) : Nat := cs.foldl (fun n c => 10 * n + (c.toNat - 48)) 0

/-- Whether the character is an ASCII digit. -/
def Text.isAsciiDigit (c : Char) : Bool := Json.isAsciiDigit c.toNat

lemma Text.decimalDigit?_of_isAsciiDigit {c : Char} (h : isAsciiDigit c = true) :
    decimalDigit? c = some (c.toNat - 48) := by
  have hrange : 48 ≤ c.toNat ∧ c.toNat < 48 + 10 := by
    rw [isAsciiDigit, Json.isAsciiDigit, Bool.and_eq_true, decide_eq_true_eq,
      decide_eq_true_eq] at h
    exact ⟨h.1, Nat.lt_succ_of_le h.2⟩
  have hzeros : decimalZeros = 48 :: decimalZeros.tail := rfl
  rw [decimalDigit?, hzeros, List.find?_cons_of_pos (by simpa using hrange)]
  rfl

lemma Numeral.readPlainDigits?_of_ascii {s : String} (h : s.toList.all Text.isAsciiDigit = true) :
    readPlainDigits? s = some (value s.toList) := by
  rw [readPlainDigits?, value]
  generalize s.toList = cs at h ⊢
  generalize 0 = n
  induction cs generalizing n with
  | nil => rfl
  | cons c cs ih =>
    rw [List.all_cons, Bool.and_eq_true] at h
    rw [List.foldlM_cons, Text.decimalDigit?_of_isAsciiDigit h.1]
    exact ih h.2 _

namespace Response

/-- The number of seconds that a header of ASCII digits asks to wait. -/
def wantedWait (r : Response) : Option Float :=
  match r.header? "Retry-After" with
  | none => none
  | some text =>
    if text ≠ "" ∧ text.toList.all Text.isAsciiDigit then
      some ((Binary64.ofInt? (Numeral.value text.toList)).getD Binary64.infinity)
    else none

/-- The header that asks to wait is made of ASCII digits, or has a character that is no digit. -/
def AsksPlainly (r : Response) : Prop :=
  ∀ text ∈ r.header? "Retry-After", text.toList.all Text.isAsciiDigit = true ∨
    text.toList.all Text.isDigit = false

lemma requestedWait_eq {r : Response} (h : r.AsksPlainly) :
    Client.requestedWait r = .ok r.wantedWait := by
  rw [Client.requestedWait, wantedWait]
  rcases hheader : r.header? "Retry-After" with _ | text
  · rfl
  · have hdigit : ∀ c, Text.isAsciiDigit c = true → Text.isDigit c = true := fun c hc => by
      rw [Text.isDigit, Text.decimalDigit?_of_isAsciiDigit hc]
      rfl
    rcases h text hheader with hascii | hother
    · have hall : text.toList.all Text.isDigit = true :=
        List.all_eq_true.mpr fun c hc => hdigit c (List.all_eq_true.mp hascii c hc)
      by_cases hempty : text = ""
      · simp [hempty]
      · simp [hempty, hall, hascii, Numeral.readPlainDigits?_of_ascii hascii]
    · have hnone : text.toList.all Text.isAsciiDigit = false := by
        rw [List.all_eq_false] at hother ⊢
        obtain ⟨c, hc, hno⟩ := hother
        exact ⟨c, hc, fun hyes => hno (hdigit c hyes)⟩
      simp [hother, hnone]

end Response

namespace Answer

/-- The number of seconds that a rate limit asks to wait. -/
def wantedWait : Answer → Option Float
  | .response r => if r.broken = none ∧ r.status = 429 then r.wantedWait else none
  | _ => none

/-- If the answer is a response, it asks plainly. -/
def AsksPlainly (a : Answer) : Prop := ∀ r, a = .response r → r.AsksPlainly

end Answer

namespace Client

/-- How long is waited after an attempt that failed in passing, with the number drawn. -/
def waitAfter (delay : Float) (attempt : Nat) (a : Answer) (chance : Float) : Float :=
  a.wantedWait.getD (jittered (delay * powerOfTwo attempt) chance)

/-- What is asked to wait is looked for in a rate limit only. -/
lemma wantedWait_of_transient {a : Answer} {error : BridgeError} {response : Option Response}
    (hjudge : judge a = .transient error response) :
    (∃ r, a = .response r ∧ error = .rateLimited ∧ response = some r ∧
      a.wantedWait = r.wantedWait) ∨ error ≠ .rateLimited ∧ a.wantedWait = none := by
  cases a with
  | interrupted => cases hjudge
  | unreachable cause =>
    cases hjudge
    exact .inr ⟨nofun, rfl⟩
  | response r =>
    rw [judge] at hjudge
    rcases hbroken : r.broken with _ | cause <;> rw [hbroken] at hjudge
    · dsimp only at hjudge
      split_ifs at hjudge
      · rw [judgeContent] at hjudge
        split_ifs at hjudge
        split at hjudge <;> cases hjudge
      · rw [judgeRefusal] at hjudge
        split at hjudge
        next => cases hjudge
        next => cases hjudge
        next => cases hjudge
        next hstatus =>
          cases hjudge
          exact .inl ⟨r, rfl, rfl, rfl, if_pos ⟨hbroken, hstatus⟩⟩
        next hstatus =>
          split at hjudge
          · cases hjudge
          · dsimp only at hjudge
            split_ifs at hjudge
            cases hjudge
            exact .inr ⟨nofun, if_neg fun h => hstatus h.2⟩
    · cases hjudge
      exact .inr ⟨nofun, if_neg fun h => by rw [hbroken] at h; cases h.1⟩

lemma run_delayAfter {l : Link τ} {c : Client} {x : Float} {a : Answer} {error : BridgeError}
    {response : Option Response} (hdelay : c.retryDelay = .float x) {attempt : Nat}
    (hattempt : attempt < 1024) (hplain : a.AsksPlainly)
    (hjudge : judge a = .transient error response) (w : World (Connection τ)) :
    (delayAfter l c attempt error response).run w =
      (.ok (waitAfter x attempt a (l.chance w.other.link).1),
        { w with other := { w.other with link := (l.chance w.other.link).2 } }) := by
  have hscaled : scaledDelay (.float x) attempt = .ok (x * powerOfTwo attempt) := by
    rw [scaledDelay, if_neg (by omega)]
    simp only [Int.toNat_natCast, toFloat_pow hattempt]
    rfl
  have hbackoff : (backoff l (.float x) attempt).run w =
      (.ok (jittered (x * powerOfTwo attempt) (l.chance w.other.link).1),
        { w with other := { w.other with link := (l.chance w.other.link).2 } }) := by
    rw [backoff, hscaled]
    rfl
  rw [delayAfter, hdelay, Procedure.run_bind_of_ok hbackoff]
  rcases wantedWait_of_transient hjudge with ⟨r, rfl, rfl, rfl, hwait⟩ | ⟨herror, hwait⟩
  · dsimp only
    rw [Response.requestedWait_eq (hplain r rfl), waitAfter, hwait]
    rfl
  · rw [waitAfter, hwait]
    split
    · exact absurd rfl herror
    · rfl

end Client

/-! ## Requests -/

namespace Client

/-- The client can make this request for a resource: its key can be presented, and the address has
a scheme. -/
structure Makes (c : Client) (method resource : String) (query : List (String × Int))
    (r : Request) : Prop where
  key : c.checkKey = .ok ()
  prepared : Request.prepare method (c.url ++ resource) query c.presentedKey = .ok r
  scheme : r.address.scheme ≠ ""

section Attempts

variable {l : Link τ} {c : Client} {r : Request} {x : Float}

lemma run_openUp (hkey : c.checkKey = .ok ()) (w : World (Connection τ)) :
    (c.openUp : Action (Connection τ) Unit).run w =
      (.ok (), { w with other := { w.other with isOpen := true } }) := by
  rw [openUp, hkey]
  rfl

/-- A request is sent and its answer taken, unless that is a response from an address without a
scheme. -/
lemma run_send_cases (l : Link τ) (r : Request) (w : World (Connection τ)) :
    (∃ response v, l.answerAt r (w.other.link, w.files) 0 = .response response ∧
        r.address.scheme = "" ∧
        (l.send r).run w = (.error (.value (.noScheme r.address.text)), v)) ∨
      ∃ v, (l.send r).run w = (.ok (l.arrivalAt r (w.other.link, w.files) 0), v) ∧
        (v.other.link, v.files) = (l.deliver r w.other.link w.files).2 ∧
        v.journal = w.journal ++ l.sentAt r (w.other.link, w.files) 0 := by
  rw [Link.run_send]
  rcases hcheck : Link.checkAnswer r (l.deliver r w.other.link w.files).1.answer with fault | _
  · -- only a response is checked
    rcases hanswer : (l.deliver r w.other.link w.files).1.answer with response | _ | _ <;>
      rw [hanswer] at hcheck
    · rw [Link.checkAnswer] at hcheck
      split_ifs at hcheck with hscheme
      cases hcheck
      exact .inl ⟨response, _, hanswer, hscheme, rfl⟩
    · cases hcheck
    · cases hcheck
  · refine .inr ⟨_, rfl, rfl, ?_⟩
    simp [World.journal, World.addAll, Link.sentAt, Link.arrivalAt]

/-- With a scheme, every answer can be taken. -/
lemma run_send_of_scheme (hscheme : r.address.scheme ≠ "") (w : World (Connection τ)) :
    ∃ v, (l.send r).run w = (.ok (l.arrivalAt r (w.other.link, w.files) 0), v) ∧
      (v.other.link, v.files) = (l.deliver r w.other.link w.files).2 ∧
      v.journal = w.journal ++ l.sentAt r (w.other.link, w.files) 0 := by
  rcases run_send_cases l r w with ⟨_, _, _, hnone, _⟩ | hsent
  · exact absurd hnone hscheme
  · exact hsent

/-- As many attempts are left as the client may still make. -/
lemma triesAgain_iff {left attempt : Nat} (hretries : c.maxRetries = (attempt + left : Nat)) :
    c.triesAgain true attempt = true ↔ 0 < left := by
  rw [triesAgain, Bool.and_true, decide_eq_true_eq, hretries]
  omega

/-- The attempt is the last one if its answer is no failure in passing, or none is left. -/
lemma run_attempts_last (hscheme : r.address.scheme ≠ "") {left attempt : Nat}
    (hretries : c.maxRetries = (attempt + left : Nat)) (w : World (Connection τ))
    (hlast : left = 0 ∨ (l.answerAt r (w.other.link, w.files) 0).isTransient = false) :
    ∃ result w', (attempts l c r (left + 1) attempt).run w = (result, w') ∧
      (l.answerAt r (w.other.link, w.files) 0).Means result ∧
      w'.journal = w.journal ++ l.sentAt r (w.other.link, w.files) 0 := by
  obtain ⟨v, hsend, -, hjournal⟩ := run_send_of_scheme (l := l) hscheme w
  have hjudge := judge_spec (l.answerAt r (w.other.link, w.files) 0)
  rw [attempts, Procedure.run_bind_of_ok hsend, ← Link.answerAt]
  rcases hverdict : judge (l.answerAt r (w.other.link, w.files) 0) with value | failure | _ <;>
    rw [hverdict] at hjudge
  · exact ⟨_, _, rfl, hjudge.1, hjournal⟩
  · exact ⟨_, _, rfl, hjudge.1, hjournal⟩
  · rcases hlast with rfl | hsteady
    · dsimp only
      rw [if_neg fun htries => absurd ((triesAgain_iff hretries).mp htries) (Nat.lt_irrefl 0)]
      exact ⟨_, _, rfl, hjudge.1, hjournal⟩
    · exact absurd (hjudge.2.trans hsteady) nofun

/-- After a failure in passing there is a wait, if an attempt is left, and after the wait the rest
of the attempts follows. -/
lemma run_attempts_again (hscheme : r.address.scheme ≠ "") (hdelay : c.retryDelay = .float x)
    {left attempt : Nat} (hretries : c.maxRetries = (attempt + (left + 1) : Nat))
    (hattempt : attempt < 1024) (w : World (Connection τ))
    (hplain : (l.answerAt r (w.other.link, w.files) 0).AsksPlainly)
    (htransient : (l.answerAt r (w.other.link, w.files) 0).isTransient = true) :
    ∃ v, (attempts l c r (left + 2) attempt).run w =
        (match (l.pauseAt r (w.other.link, w.files) 0
            (waitAfter x attempt (l.answerAt r (w.other.link, w.files) 0)
              (l.chanceAt r (w.other.link, w.files) 0))).outcome with
          | .ok () => (attempts l c r (left + 1) (attempt + 1)).run v
          | .error f => (.error f, v)) ∧
      (v.other.link, v.files) = l.turn r (w.other.link, w.files) ∧
      v.journal = w.journal ++ (l.sentAt r (w.other.link, w.files) 0 ++
        [.waited (waitAfter x attempt (l.answerAt r (w.other.link, w.files) 0)
          (l.chanceAt r (w.other.link, w.files) 0))]) := by
  obtain ⟨v, hsend, hstate, hjournal⟩ := run_send_of_scheme (l := l) hscheme w
  have hjudge := judge_spec (l.answerAt r (w.other.link, w.files) 0)
  have hlink : v.other.link = (l.deliver r w.other.link w.files).2.1 := congrArg Prod.fst hstate
  have hfiles : v.files = (l.deliver r w.other.link w.files).2.2 := congrArg Prod.snd hstate
  have hchance : (l.chance v.other.link).1 = l.chanceAt r (w.other.link, w.files) 0 := by
    rw [hlink]
    rfl
  rw [attempts, Procedure.run_bind_of_ok hsend, ← Link.answerAt]
  rcases hverdict : judge (l.answerAt r (w.other.link, w.files) 0) with
    _ | _ | ⟨error, response⟩ <;> rw [hverdict] at hjudge
  · exact absurd (hjudge.2.trans htransient) nofun
  · exact absurd (hjudge.2.trans htransient) nofun
  · dsimp only
    rw [if_pos ((triesAgain_iff hretries).mpr (Nat.succ_pos left)),
      Procedure.run_bind_of_ok (run_delayAfter hdelay hattempt hplain hverdict v),
      Procedure.run_bind, Link.run_wait, hchance, hlink]
    dsimp only
    rw [show ∀ seconds, l.pause seconds (l.chance (l.deliver r w.other.link w.files).2.1).2 =
      l.pauseAt r (w.other.link, w.files) 0 seconds from fun _ => rfl]
    generalize waitAfter x attempt (l.answerAt r (w.other.link, w.files) 0)
      (l.chanceAt r (w.other.link, w.files) 0) = seconds
    refine ⟨World.add ⟨v.files, ⟨(l.chance (l.deliver r w.other.link w.files).2.1).2,
      v.other.isOpen⟩, v.events⟩ (.waited seconds), ?_, ?_, ?_⟩
    · cases (l.pauseAt r (w.other.link, w.files) 0 seconds).outcome <;> rfl
    · rw [hfiles]
      rfl
    · rw [World.journal_add, ← List.append_assoc, ← hjournal]
      rfl

/-- What is put on record between two attempts. -/
def betweenAttempts (l : Link τ) (r : Request) (x : Float) (s : τ × FileSystem) (attempt j : Nat) :
    List Event :=
  l.sentAt r s j ++ [.waited (waitAfter x (attempt + j) (l.answerAt r s j) (l.chanceAt r s j))]

/-- How a request ends in the attempt of that number: the answer that stands decides, if it is no
failure in passing or no attempt is left; and else the wait for the next attempt ends early. -/
inductive Ends (l : Link τ) (r : Request) (x : Float) (s : τ × FileSystem) (left attempt k : Nat) :
    Except Failure Json → List Event → Prop where
  /-- The answer decides. -/
  | answered {result : Except Failure Json}
    (last : k < left → (l.answerAt r s k).isTransient = false)
    (means : (l.answerAt r s k).Means result) : Ends l r x s left attempt k result (l.sentAt r s k)
  /-- The wait ends early. -/
  | unwaited {f : Failure} (again : k < left) (transient : (l.answerAt r s k).isTransient = true)
    (pause : (l.pauseAt r s k
      (waitAfter x (attempt + k) (l.answerAt r s k) (l.chanceAt r s k))).outcome = .error f) :
    Ends l r x s left attempt k (.error f) (betweenAttempts l r x s attempt k)

/-- **Attempts go on while the answers are failures in passing** and the waits come to their end. -/
lemma run_attempts (hscheme : r.address.scheme ≠ "") (hdelay : c.retryDelay = .float x)
    (left attempt : Nat) (hretries : c.maxRetries = (attempt + left : Nat))
    (hattempt : attempt + left ≤ 1024) (w : World (Connection τ))
    (hplain : ∀ j, (l.answerAt r (w.other.link, w.files) j).AsksPlainly) :
    ∃ k ≤ left, (∀ j < k, (l.answerAt r (w.other.link, w.files) j).isTransient = true) ∧
      ∃ result last w', (attempts l c r (left + 1) attempt).run w = (result, w') ∧
        Ends l r x (w.other.link, w.files) left attempt k result last ∧
        w'.journal = w.journal ++ (List.range k).flatMap
          (betweenAttempts l r x (w.other.link, w.files) attempt) ++ last := by
  induction left generalizing attempt w with
  | zero =>
    obtain ⟨result, w', hrun, hmeans, hjournal⟩ :=
      run_attempts_last (l := l) (c := c) hscheme hretries w (.inl rfl)
    exact ⟨0, Nat.le_refl 0, nofun, result, _, w', hrun, .answered nofun hmeans,
      by simpa using hjournal⟩
  | succ left ih =>
    rcases htransient : (l.answerAt r (w.other.link, w.files) 0).isTransient with _ | _
    · obtain ⟨result, w', hrun, hmeans, hjournal⟩ :=
        run_attempts_last (l := l) (c := c) hscheme hretries w (.inr htransient)
      exact ⟨0, Nat.zero_le _, nofun, result, _, w', hrun, .answered (fun _ => htransient) hmeans,
        by simpa using hjournal⟩
    · obtain ⟨v, hagain, hturn, hjournal⟩ := run_attempts_again hscheme hdelay hretries
        (show attempt < 1024 by omega) w (hplain 0) htransient
      rcases hpause : (l.pauseAt r (w.other.link, w.files) 0
        (waitAfter x attempt (l.answerAt r (w.other.link, w.files) 0)
          (l.chanceAt r (w.other.link, w.files) 0))).outcome with f | _ <;> rw [hpause] at hagain
      · exact ⟨0, Nat.zero_le _, nofun, .error f, _, v, hagain,
          .unwaited (Nat.succ_pos left) htransient hpause,
          by simpa [betweenAttempts] using hjournal⟩
      -- what the link has to say from here on is what it had to say later before
      have hlater : ∀ j, l.answerAt r (v.other.link, v.files) j =
          l.answerAt r (w.other.link, w.files) (j + 1) := fun j => by
        rw [hturn, Link.answerAt_succ]
      have hbetween : ∀ j, betweenAttempts l r x (v.other.link, v.files) (attempt + 1) j =
          betweenAttempts l r x (w.other.link, w.files) attempt (j + 1) := by
        intro j
        rw [betweenAttempts, betweenAttempts, hlater, hturn, Link.chanceAt_succ, Link.sentAt_succ,
          Nat.add_right_comm, Nat.add_assoc]
      obtain ⟨k, hk, hbefore, result, last, w', hrun, hends, hjournal'⟩ :=
        ih (attempt + 1) (by omega) (by omega) v fun j => by
          rw [hlater]
          exact hplain (j + 1)
      refine ⟨k + 1, by omega, fun j hj => ?_, result, last, w', hagain.trans hrun, ?_, ?_⟩
      · cases j with
        | zero => exact htransient
        | succ j =>
          rw [← hlater]
          exact hbefore j (by omega)
      · cases hends with
        | answered hlast hmeans =>
          rw [hturn, ← Link.sentAt_succ]
          rw [hlater] at hmeans
          exact .answered (fun hlt => hlater k ▸ hlast (by omega)) hmeans
        | unwaited hlt hpassing hrefused =>
          rw [hbetween]
          rw [hlater, hturn, ← Link.pauseAt_succ, ← Link.chanceAt_succ, Nat.add_assoc,
            Nat.add_comm 1 k] at hrefused
          exact .unwaited (by omega) (hlater k ▸ hpassing) hrefused
      · rw [hjournal', funext hbetween, List.range_succ_eq_map, List.flatMap_cons, List.flatMap_map,
          hjournal]
        simp [betweenAttempts]

/-- A request that can be made comes to its attempts. -/
lemma run_request_of_makes {m : Nat} {method endpoint : String} {query : List (String × Int)}
    (hretries : c.maxRetries = m)
    (hmakes : c.Makes method ("/" ++ Text.trimLeft '/' endpoint) query r)
    (w : World (Connection τ)) :
    (request l c method endpoint query).run w =
      (attempts l c r (m + 1) 0).run { w with other := { w.other with isOpen := true } } := by
  have hprepared : Request.prepare method (c.url ++ "/" ++ Text.trimLeft '/' endpoint) query
      c.presentedKey = .ok r := by
    rw [String.append_assoc]
    exact hmakes.prepared
  have hleft : ((m : Int) + 1).toNat = m + 1 := by omega
  rw [request, Procedure.run_bind_of_ok (run_openUp hmakes.key w), hretries, if_neg (by omega)]
  dsimp only
  rw [hprepared, hleft]
  rfl

/-- **A request persists while its answers are failures in passing**: at most as often as it may be
made again, it is sent once more after each of them and a wait, and what comes of it is what the
last answer means.  The waits are those of `Client.waitAfter`, with none after the last answer.
Only a wait that ends early keeps it from going on: then its failure is what comes of the request.
In each attempt the same request is sent, and those to which responses lead on. -/
theorem request_persists {m : Nat} {method endpoint : String} {query : List (String × Int)}
    (w : World (Connection τ)) (hretries : c.maxRetries = m) (hm : m ≤ 1024)
    (hdelay : c.retryDelay = .float x)
    (hmakes : c.Makes method ("/" ++ Text.trimLeft '/' endpoint) query r)
    (hplain : ∀ j, (l.answerAt r (w.other.link, w.files) j).AsksPlainly) :
    ∃ k ≤ m, (∀ j < k, (l.answerAt r (w.other.link, w.files) j).isTransient = true) ∧
      ∃ result last w', (request l c method endpoint query).run w = (result, w') ∧
        Ends l r x (w.other.link, w.files) m 0 k result last ∧
        w'.journal = w.journal ++ (List.range k).flatMap (fun j =>
          l.sentAt r (w.other.link, w.files) j ++
            [.waited (waitAfter x j (l.answerAt r (w.other.link, w.files) j)
              (l.chanceAt r (w.other.link, w.files) j))]) ++ last := by
  obtain ⟨k, hk, hbefore, result, last, w', hrun, hends, hjournal⟩ :=
    run_attempts hmakes.scheme hdelay m 0 (by rw [hretries, Nat.zero_add]) (by omega)
      { w with other := { w.other with isOpen := true } } hplain
  have hbetween : betweenAttempts l r x (w.other.link, w.files) 0 = fun j =>
      l.sentAt r (w.other.link, w.files) j ++
        [.waited (waitAfter x j (l.answerAt r (w.other.link, w.files) j)
          (l.chanceAt r (w.other.link, w.files) j))] :=
    funext fun j => by rw [betweenAttempts, Nat.zero_add]
  rw [← hbetween]
  exact ⟨k, hk, hbefore, result, last, w', (run_request_of_makes hretries hmakes w).trans hrun,
    hends, hjournal⟩

end Attempts

end Client

/-! ### Two bridges -/

/-- A bridge that gives these answers, and then is not reached.  It leads nowhere, and nothing keeps
from waiting. -/
def Link.scripted : Link (List Answer) where
  exchange _ answers files := (answers.headD (.unreachable "closed"), answers.tail, files)
  redirected _ _ := .error "nowhere"
  chance answers := (0, answers)
  pause _ _ := .elapsed

/-- The attempts get the answers in order. -/
lemma Link.arrivalAt_scripted (r : Request) {answers : List Answer} (files : FileSystem)
    (hstand : ∀ a ∈ answers, a.Stands) (j : Nat) :
    scripted.arrivalAt r (answers, files) j =
      ⟨[], r, (answers.drop j).headD (.unreachable "closed")⟩ := by
  have hdeliver : scripted.deliver r answers files =
      (⟨[], r, answers.headD (.unreachable "closed")⟩, answers.tail, files) := by
    refine deliver_of_stands (l := scripted) ?_
    cases answers with
    | nil => exact nofun
    | cons a answers => exact hstand a List.mem_cons_self
  induction j generalizing answers with
  | zero => exact congrArg Prod.fst hdeliver
  | succ j ih =>
    have hstand' : ∀ a ∈ answers.tail, a.Stands := fun a ha => hstand a (List.mem_of_mem_tail ha)
    have hturn : scripted.turn r (answers, files) = (answers.tail, files) := by
      rw [turn, hdeliver]
      rfl
    rw [arrivalAt_succ, hturn, ← List.drop_tail]
    refine ih hstand' (deliver_of_stands (l := scripted) ?_)
    cases htail : answers.tail with
    | nil => exact nofun
    | cons a answers => exact hstand' a (htail ▸ List.mem_cons_self)

namespace Client

/-- A client of a bridge. -/
def sample : Client := { url := "http:" ++ "//bridge", key := none }

/-- A request that it makes. -/
def sampleRequest : Request :=
  ⟨"GET", "http:" ++ "//bridge/test", [], none,
    ⟨"http", "", "bridge", none, "/test", none, none⟩⟩

lemma sample_makes : sample.Makes "GET" "/test" [] sampleRequest where
  key := rfl
  prepared := by
    exact eq_ok_of_toOption (a := sampleRequest) (by decide +kernel)
  scheme := by decide

/-- A server error, a rate limit, and then a response without content. -/
def recovering : List Answer :=
  [.response ⟨503, [], [], none⟩, .response ⟨429, [("Retry-After", "7")], [], none⟩,
    .response ⟨200, [], [], none⟩]

lemma recovering_stands : ∀ a ∈ recovering, a.Stands := by
  intro a ha r hr
  simp only [recovering, List.mem_cons, List.not_mem_nil, or_false] at ha
  rcases ha with rfl | rfl | rfl <;> cases hr <;> rfl

/-- Both failures pass: the client waits as long as it chooses to after the first one, and as long
as it is asked to after the second one. -/
theorem request_persists_sample :
    ∃ w', (request Link.scripted sample "GET" "test" []).run ⟨.empty, ⟨recovering, false⟩, []⟩ =
        (.ok (.object []), w') ∧
      w'.journal = [.sent sampleRequest, .waited (jittered (1.0 * powerOfTwo 0) 0),
        .sent sampleRequest, .waited ((Binary64.ofInt? 7).getD Binary64.infinity),
        .sent sampleRequest] := by
  have hplain : ∀ j, (Link.scripted.answerAt sampleRequest (recovering, .empty) j).AsksPlainly := by
    intro j
    rw [Link.answerAt, Link.arrivalAt_scripted _ _ recovering_stands]
    rintro a ha text htext
    match j with
    | 0 => cases ha; cases htext
    | 1 => cases ha; exact .inl (by cases htext; decide)
    | 2 => cases ha; cases htext
    | j + 3 =>
      rw [List.drop_eq_nil_of_le (Nat.le_add_left 3 j)] at ha
      cases ha
  have hmakes : sample.Makes "GET" ("/" ++ Text.trimLeft '/' "test") [] sampleRequest :=
    sample_makes
  obtain ⟨k, hk, hbefore, result, last, w', hrun, hends, hjournal⟩ :=
    request_persists (m := 3) (⟨.empty, ⟨recovering, false⟩, []⟩ : World (Connection (List Answer)))
      rfl (by decide) rfl hmakes hplain
  obtain ⟨hstop, hmeans, rfl⟩ : (k < 3 → (Link.scripted.answerAt sampleRequest (recovering, .empty)
      k).isTransient = false) ∧ (Link.scripted.answerAt sampleRequest (recovering, .empty) k).Means
        result ∧ last = Link.scripted.sentAt sampleRequest (recovering, .empty) k := by
    cases hends with
    | answered last means => exact ⟨last, means, rfl⟩
    | unwaited _ _ pause => cases pause
  obtain rfl : k = 2 := by
    rcases (by omega : k = 0 ∨ k = 1 ∨ k = 2 ∨ k = 3) with rfl | rfl | rfl | rfl
    · cases hstop (by decide)
    · cases hstop (by decide)
    · rfl
    · cases hbefore 2 (by decide)
  obtain rfl : result = .ok (.object []) := hmeans.outcome_eq
  refine ⟨w', hrun, hjournal.trans ?_⟩
  have hfirst : Answer.wantedWait (.response ⟨503, [], [], none⟩) = none := rfl
  have hsecond : Answer.wantedWait (.response ⟨429, [("Retry-After", "7")], [], none⟩) =
      some ((Binary64.ofInt? 7).getD Binary64.infinity) := by
    have hheader : Response.header? ⟨429, [("Retry-After", "7")], [], none⟩ "Retry-After" =
        some "7" := by decide
    have hvalue : (Numeral.value "7".toList : Int) = 7 := by decide
    rw [Answer.wantedWait, if_pos ⟨rfl, rfl⟩, Response.wantedWait, hheader]
    dsimp only
    rw [if_pos (by decide), hvalue]
  show [Event.sent _, .waited (waitAfter 1.0 0 (.response ⟨503, [], [], none⟩) 0), .sent _,
    .waited (waitAfter 1.0 1 (.response ⟨429, [("Retry-After", "7")], [], none⟩) 0), .sent _] = _
  rw [waitAfter, waitAfter, hfirst, hsecond, Option.getD_none, Option.getD_some]

/-- A request to a bridge that fails once, with a body nested too deeply, and then recovers. -/
def buriedRequest : Except Failure Json × World (Connection (List Answer)) :=
  (request Link.scripted sample "GET" "test" []).run
    ⟨.empty, ⟨[.response ⟨502, [], List.replicate 1000 91, none⟩, .response ⟨200, [], [], none⟩],
      false⟩, []⟩

/-- **Not every server error is a failure in passing**: three more attempts are left, the next one
would succeed, and none is made.  The failure is not one of those of the bridge either. -/
theorem gives_up_on_nesting :
    buriedRequest.1.map (fun _ => ()) = .error .documentTooDeep ∧
      buriedRequest.2.events.length = 1 ∧ buriedRequest.2.other.link.length = 1 := by
  decide +kernel

end Client

end Replica
