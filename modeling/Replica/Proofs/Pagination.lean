import Replica.Proofs.Inquiries
import Replica.Proofs.Persistence
/-!
# The pages of a listing

A listing is put together from pages, which are asked for one after the other until one of them
announces no other.  Which pages are asked for and what comes of them follows from the answers.

* **Pages.**  `Session.IsPage` says what an answer has to be to count as a page; it reads the number
  of the page and the last number, which a bridge may leave out.
* **Turns.**  `Session.Turns` are the pages that are asked for, each once and in order;
  `Session.Ends` is what their answers come to.
* **Requests.**  A turn is one request, which may have been made again: `Session.InOrder`.
* **Listings.**  `Session.listChildren_gathers` is the result, with the case of a bridge that serves
  a listing cut into pages (`Session.Serves`).
* **The last page.**  The loop counts its own pages and compares the numbers that the bridge gives.
  `Session.listChildren_bounded` bounds it for a bridge whose numbers do not fall behind
  (`Session.Faithful`); `Session.asks_beyond_last` is one whose numbers do.
-/

namespace Replica

open Procedure (Preserves)

variable {τ : Type}

namespace Session

/-! ## Pages -/

/-- Whether a page of this number announces another one, where that is the last number: both have
to be there, and the first has to be less. -/
inductive Announces : Json → Json → Bool → Prop where
  /-- One of the numbers is not there. -/
  | unnumbered {current last : Json} (missing : current = .null ∨ last = .null) :
    Announces current last false
  /-- Both are there and are compared. -/
  | numbered {current last : Json} {next : Bool} (given : current ≠ .null) (known : last ≠ .null)
    (order : Json.less? current last = .ok next) : Announces current last next

/-- The answer is a page with these entries, which become these nodes; it may announce another. -/
inductive IsPage : Json → List Json → List Node → Bool → Prop where
  | mk {fs : List (String × Json)} {entries : List Json} {nodes : List Node} {next : Bool}
    (data : ((Json.lookup "data" fs).getD (.array [])).items = .ok entries)
    (converted : entries.mapM Node.ofJson = .ok nodes)
    (announces : Announces (Json.field "current_page" fs) (Json.field "last_page" fs) next) :
    IsPage (.object fs) entries nodes next

lemma announcesNext_of_null {current last : Json} (h : current = .null ∨ last = .null) :
    announcesNext current last = .ok false := by
  rcases h with rfl | rfl
  · rfl
  · cases current <;> rfl

lemma announcesNext_of_ne {current last : Json} (given : current ≠ .null) (known : last ≠ .null) :
    announcesNext current last = (Json.less? current last).mapError .unordered := by
  rw [announcesNext]
  · cases Json.less? current last <;> rfl
  · exact given
  · exact known

lemma announcesNext_eq_ok {current last : Json} {next : Bool} :
    announcesNext current last = .ok next ↔ Announces current last next := by
  constructor
  · intro h
    by_cases hnull : current = .null ∨ last = .null
    · rw [announcesNext_of_null hnull] at h
      cases h
      exact .unnumbered hnull
    · rw [not_or] at hnull
      rw [announcesNext_of_ne hnull.1 hnull.2] at h
      rcases hless : Json.less? current last with kinds | less <;> rw [hless] at h <;> cases h
      exact .numbered hnull.1 hnull.2 hless
  · rintro (missing | ⟨given, known, order⟩)
    · exact announcesNext_of_null missing
    · rw [announcesNext_of_ne given known, order]
      rfl

lemma pageOf_eq_ok {answer : Json} {nodes : List Node} {next : Bool} :
    pageOf answer = .ok ⟨nodes, next⟩ ↔ ∃ entries, IsPage answer entries nodes next := by
  simp only [pageOf, bind_eq_ok_iff]
  constructor
  · rintro ⟨fs, hfields, entries, data, nodes', converted, next', hnext, hpage⟩
    cases hpage
    cases answer with
    | object fs' =>
      cases hfields
      exact ⟨entries, .mk data converted (announcesNext_eq_ok.mp hnext)⟩
    | _ => cases hfields
  · rintro ⟨entries, ⟨data, converted, announces⟩⟩
    exact ⟨_, rfl, entries, data, nodes, converted, next, announcesNext_eq_ok.mpr announces, rfl⟩

/-! ## Turns -/

/-- Asks for one page of a listing. -/
def askPage (l : Link τ) (c : Client) (perPage storage : Int) (container : Option Int)
    (page : Nat) : Action (Session τ) Json :=
  onConnection (c.entries l ⟨storage, container, perPage, some page⟩)

/-- One turn of the loop over the pages. -/
lemma run_pagesFrom_succ (l : Link τ) (c : Client) (perPage storage : Int) (container : Option Int)
    (left page : Nat) (w : World (Session τ)) :
    (pagesFrom l c perPage storage container (left + 1) page).run w =
      match (askPage l c perPage storage container page).run w with
      | (.error failure, v) => (.error failure, v)
      | (.ok answer, v) =>
        match pageOf answer with
        | .error fault => (.error (.value fault), v)
        | .ok ⟨nodes, false⟩ => (.ok nodes, v)
        | .ok ⟨nodes, true⟩ =>
          (((pagesFrom l c perPage storage container left (page + 1)).run v).1.map (nodes ++ ·),
            ((pagesFrom l c perPage storage container left (page + 1)).run v).2) := by
  rw [pagesFrom, Procedure.run_bind, askPage]
  rcases (onConnection (c.entries l ⟨storage, container, perPage, some page⟩)).run w with
    ⟨failure | answer, v⟩
  · rfl
  dsimp only
  rcases pageOf answer with fault | ⟨nodes, _ | _⟩
  · rfl
  · rfl
  · show (pagesFrom l c perPage storage container left (page + 1) >>= fun rest =>
      pure (nodes ++ rest)).run v = _
    rw [Procedure.run_bind]
    rcases (pagesFrom l c perPage storage container left (page + 1)).run v with
      ⟨failure | rest, v'⟩ <;> rfl

/-- From this page on the pages are asked for in their order, each once, with these answers. -/
inductive Turns {σ : Type} (ask : Nat → Action σ Json) :
    Nat → World σ → List (Except Failure Json) → World σ → Prop where
  /-- No other page is asked for. -/
  | done {page : Nat} {w : World σ} : Turns ask page w [] w
  /-- A page is asked for, and then those after it. -/
  | next {page : Nat} {w v w' : World σ} {answer : Except Failure Json}
    {answers : List (Except Failure Json)} (asked : (ask page).run w = (answer, v))
    (rest : Turns ask (page + 1) v answers w') : Turns ask page w (answer :: answers) w'

/-- The answer is a page that announces another. -/
def GoesOn (answer : Except Failure Json) : Prop :=
  ∃ json entries nodes, answer = .ok json ∧ IsPage json entries nodes true

/-- The answer is a page with these entries. -/
def HasEntries (answer : Except Failure Json) (entries : List Json) : Prop :=
  ∃ json nodes next, answer = .ok json ∧ IsPage json entries nodes next

/-- What the answers come to, from one page on, if so many pages may still be asked for. -/
inductive Ends : Nat → List (Except Failure Json) → Except Failure (List Node) → Prop where
  /-- No other page may be asked for. -/
  | exhausted : Ends 0 [] (.error .tooManyPages)
  /-- The page is not given. -/
  | fails {left : Nat} {f : Failure} : Ends (left + 1) [.error f] (.error f)
  /-- The answer is no page. -/
  | malformed {left : Nat} {answer : Json} {fault : ValueFault}
    (page : pageOf answer = .error fault) : Ends (left + 1) [.ok answer] (.error (.value fault))
  /-- The page is the last one. -/
  | last {left : Nat} {answer : Json} {nodes : List Node}
    (page : pageOf answer = .ok ⟨nodes, false⟩) : Ends (left + 1) [.ok answer] (.ok nodes)
  /-- The page announces another one. -/
  | more {left : Nat} {answer : Json} {nodes : List Node} {answers : List (Except Failure Json)}
    {result : Except Failure (List Node)} (page : pageOf answer = .ok ⟨nodes, true⟩)
    (rest : Ends left answers result) :
    Ends (left + 1) (.ok answer :: answers) (result.map (nodes ++ ·))

/-- **The loop over the pages takes its turns.** -/
lemma run_pagesFrom (l : Link τ) (c : Client) (perPage storage : Int) (container : Option Int)
    (left page : Nat) (w : World (Session τ)) :
    ∃ answers result v, (pagesFrom l c perPage storage container left page).run w = (result, v) ∧
      Turns (askPage l c perPage storage container) page w answers v ∧
      Ends left answers result := by
  induction left generalizing page w with
  | zero => exact ⟨[], _, w, rfl, .done, .exhausted⟩
  | succ left ih =>
    rw [run_pagesFrom_succ]
    rcases hasked : (askPage l c perPage storage container page).run w with ⟨f | answer, v⟩
    · exact ⟨[.error f], _, v, rfl, .next hasked .done, .fails⟩
    dsimp only
    rcases hpage : pageOf answer with fault | ⟨nodes, _ | _⟩
    · exact ⟨[.ok answer], _, v, rfl, .next hasked .done, .malformed hpage⟩
    · exact ⟨[.ok answer], _, v, rfl, .next hasked .done, .last hpage⟩
    · obtain ⟨answers, result, v', hrun, hturns, hends⟩ := ih (page + 1) v
      rw [hrun]
      exact ⟨.ok answer :: answers, _, v', rfl, .next hasked hturns, .more hpage hends⟩

lemma goesOn_iff {answer : Json} :
    GoesOn (.ok answer) ↔ ∃ nodes, pageOf answer = .ok ⟨nodes, true⟩ := by
  simp only [GoesOn, pageOf_eq_ok, Except.ok.injEq]
  constructor
  · rintro ⟨_, entries, nodes, rfl, h⟩
    exact ⟨nodes, entries, h⟩
  · rintro ⟨nodes, entries, h⟩
    exact ⟨answer, entries, nodes, rfl, h⟩

lemma hasEntries_iff {answer : Json} :
    (∃ entries, HasEntries (.ok answer) entries) ↔ ∃ page, pageOf answer = .ok page := by
  simp only [HasEntries, Except.ok.injEq]
  constructor
  · rintro ⟨entries, _, nodes, next, rfl, h⟩
    exact ⟨⟨nodes, next⟩, pageOf_eq_ok.mpr ⟨entries, h⟩⟩
  · rintro ⟨⟨nodes, next⟩, h⟩
    obtain ⟨entries, h⟩ := pageOf_eq_ok.mp h
    exact ⟨entries, answer, nodes, next, rfl, h⟩

/-- **Pages are asked for as long as they announce another one**: unless there are too many, the
last answer is the first that goes on no more, and either all answers are pages and the result is
what all their entries become, or the last one is none and there is no result. -/
lemma Ends.outcome {left : Nat} {answers : List (Except Failure Json)}
    {result : Except Failure (List Node)} (h : Ends left answers result) :
    ((∀ a ∈ answers, GoesOn a) ∧ answers.length = left ∧ result = .error .tooManyPages) ∨
      ∃ init last, answers = init ++ [last] ∧ (∀ a ∈ init, GoesOn a) ∧ ¬GoesOn last ∧
        ((∃ nodes parts, result = .ok nodes ∧ List.Forall₂ HasEntries answers parts ∧
            parts.flatten.mapM Node.ofJson = .ok nodes) ∨
          ∃ f, result = .error f ∧ ∀ entries, ¬HasEntries last entries) := by
  induction h with
  | exhausted => exact .inl ⟨List.forall_mem_nil _, rfl, rfl⟩
  | fails =>
    refine .inr ⟨[], _, rfl, List.forall_mem_nil _, ?_, .inr ⟨_, rfl, ?_⟩⟩
    · rintro ⟨_, _, _, h, -⟩
      cases h
    · rintro _ ⟨_, _, _, h, -⟩
      cases h
  | malformed page =>
    refine .inr ⟨[], _, rfl, List.forall_mem_nil _, ?_, .inr ⟨_, rfl, ?_⟩⟩
    · rw [goesOn_iff, page]
      rintro ⟨_, h⟩
      cases h
    · intro entries h
      obtain ⟨_, h⟩ := hasEntries_iff.mp ⟨entries, h⟩
      rw [page] at h
      cases h
  | @last _ answer nodes page =>
    obtain ⟨entries, hentries⟩ := pageOf_eq_ok.mp page
    refine .inr ⟨[], _, rfl, List.forall_mem_nil _, ?_, .inl ⟨nodes, [entries], rfl, ?_, ?_⟩⟩
    · rw [goesOn_iff, page]
      rintro ⟨_, h⟩
      cases h
    · exact .cons ⟨answer, nodes, false, rfl, hentries⟩ .nil
    · obtain ⟨_, converted, _⟩ := hentries
      simpa using converted
  | @more _ answer nodes answers result page _ ih =>
    obtain ⟨entries, hentries⟩ := pageOf_eq_ok.mp page
    have hgoes : GoesOn (.ok answer) := ⟨answer, entries, nodes, rfl, hentries⟩
    rcases ih with ⟨hall, hlength, rfl⟩ | ⟨init, last, rfl, hinit, hlast, hresult⟩
    · exact .inl ⟨List.forall_mem_cons.mpr ⟨hgoes, hall⟩, by simp [hlength], rfl⟩
    · refine .inr ⟨.ok answer :: init, last, rfl, List.forall_mem_cons.mpr ⟨hgoes, hinit⟩,
        hlast, ?_⟩
      rcases hresult with ⟨rest, parts, rfl, hparts, hrest⟩ | ⟨f, rfl, hnone⟩
      · refine .inl ⟨nodes ++ rest, entries :: parts, rfl,
          .cons ⟨answer, nodes, true, rfl, hentries⟩ hparts, ?_⟩
        obtain ⟨_, converted, _⟩ := hentries
        rw [List.flatten_cons, List.mapM_append, converted, hrest]
        rfl
      · exact .inr ⟨f, rfl, hnone⟩

end Session

/-! ## Requests -/

lemma World.requests_of_sent {σ σ' : Type} {w : World σ} {w' : World σ'} {r : Request}
    (h : w'.journal = w.journal ++ [.sent r]) : w'.requests = w.requests ++ [r] := by
  rw [World.requests, ← List.filterMap_reverse, ← World.journal, h, List.filterMap_append,
    World.requests, ← List.filterMap_reverse, ← World.journal]
  rfl

/-- What is told of one class of requests only adds requests of that class. -/
lemma World.Since.requests {σ τ : Type} {l : Link τ} {asked : Request → Prop} {w w' : World σ}
    (h : World.Since (Client.Tells l asked) w.events w') :
    ∃ block, w'.requests = w.requests ++ block ∧ ∀ q ∈ block, asked q := by
  obtain ⟨new, hevents, hnew⟩ := h
  refine ⟨(new.filterMap Event.request?).reverse, ?_, fun q hq => ?_⟩
  · rw [World.requests, hevents, List.filterMap_append, List.reverse_append, World.requests]
  · obtain ⟨e, he, hq⟩ := List.mem_filterMap.mp (List.mem_reverse.mp hq)
    cases hnew e he with
    | sent request =>
      cases hq
      exact request
    | followed | waited => cases hq

namespace Client

variable {l : Link τ} {c : Client}

/-- The first attempt is always made. -/
lemma sent_attempts {asked : Request → Prop} {r : Request} (hr : asked r) (left attempt : Nat)
    (w : World (Connection τ)) :
    World.Since (Tells l asked) (.sent r :: w.events)
      ((attempts l c r (left + 1) attempt).run w).2 := by
  have hagain : Preserves (World.Since (Tells l asked) (.sent r :: w.events))
      (attempts l c r left (attempt + 1)) := since_attempts hr _ _
  have hsent : World.Since (Tells l asked) (.sent r :: w.events) ((l.send r).run w).2 := by
    rw [Link.run_send]
    refine ⟨_, rfl, fun e he => ?_⟩
    obtain ⟨hop, hmem, rfl⟩ := List.mem_map.mp (List.mem_reverse.mp he)
    exact .followed hr (Link.leads_of_deliver hop hmem)
  rw [attempts, Procedure.run_bind]
  rcases hsend : (l.send r).run w with ⟨_ | arrival, v⟩ <;> rw [hsend] at hsent
  · exact hsent
  dsimp only
  cases judge arrival.answer with
  | answered value => exact hsent
  | failed failure => exact hsent
  | transient error response =>
    refine Preserves.ite ((since_delayAfter _ _ _).bind fun seconds => ?_) (Preserves.fail _) _
      hsent
    exact (since_wait (.waited seconds)).bind fun _ => hagain

/-- A request for a resource sends requests for it only, and at least one if it is answered. -/
lemma run_request {endpoint : String} {query : List (String × Int)} {w w' : World (Connection τ)}
    {result : Except Failure Json}
    (hrun : (request l c "GET" endpoint query).run w = (result, w')) :
    ∃ block, w'.requests = w.requests ++ block ∧
      (∀ q ∈ block, c.Asks ("/" ++ Text.trimLeft '/' endpoint) query q) ∧
      ((∃ value, result = .ok value) → block ≠ []) := by
  have hnone : ∀ {f : Failure}, result = .error f → w'.events = w.events →
      ∃ block, w'.requests = w.requests ++ block ∧
        (∀ q ∈ block, c.Asks ("/" ++ Text.trimLeft '/' endpoint) query q) ∧
        ((∃ value, result = .ok value) → block ≠ []) := by
    rintro f rfl hevents
    exact ⟨[], by rw [World.requests, hevents, List.append_nil, World.requests], nofun, nofun⟩
  rw [request, openUp] at hrun
  rcases hkey : c.checkKey with fault | _ <;> rw [hkey] at hrun
  · cases hrun
    exact hnone rfl rfl
  by_cases hretries : c.maxRetries < 0
  · rw [if_pos hretries] at hrun
    cases hrun
    exact hnone rfl rfl
  rw [if_neg hretries] at hrun
  dsimp only at hrun
  rcases hprepare : Request.prepare "GET" (c.url ++ "/" ++ Text.trimLeft '/' endpoint) query
    c.presentedKey with failure | r <;> rw [hprepare] at hrun
  · cases hrun
    exact hnone rfl rfl
  have hasks : c.Asks ("/" ++ Text.trimLeft '/' endpoint) query r := by
    rw [Asks, ← hprepare, String.append_assoc]
  obtain ⟨left, hleft⟩ : ∃ left, (c.maxRetries + 1).toNat = left + 1 :=
    ⟨c.maxRetries.toNat, by omega⟩
  rw [hleft] at hrun
  -- the connection is open from here on, and nothing else has changed
  have hsince := sent_attempts (l := l) (c := c) hasks left 0
    { w with other := { w.other with isOpen := true } }
  rw [show w' = ((attempts l c r (left + 1) 0).run
    { w with other := { w.other with isOpen := true } }).2 from (congrArg Prod.snd hrun).symm]
  obtain ⟨block, hblock, hasked⟩ := World.Since.requests (w := w.add (.sent r)) hsince
  have hsent : (w.add (.sent r)).requests = w.requests ++ [r] :=
    World.requests_of_sent (World.journal_add w _)
  refine ⟨r :: block, ?_, List.forall_mem_cons.mpr ⟨hasks, hasked⟩, fun _ => List.cons_ne_nil _ _⟩
  rw [hblock, hsent, List.append_assoc, List.singleton_append]

end Client

namespace Session

variable {l : Link τ} {c : Client} {perPage storage : Int} {container : Option Int}

/-- These are the requests for the pages from this one on: for each answer those for its page, of
which there are several only if the request was made again. -/
inductive InOrder (c : Client) (perPage storage : Int) (container : Option Int) :
    Nat → List (Except Failure Json) → List (List Request) → Prop where
  /-- No other page is asked for. -/
  | done {page : Nat} : InOrder c perPage storage container page [] []
  /-- The requests for one page, and those for the pages after it. -/
  | next {page : Nat} {answer : Except Failure Json} {answers : List (Except Failure Json)}
    {block : List Request} {blocks : List (List Request)}
    (asked : ∀ q ∈ block, c.Asks "/file-entries"
      (Client.PageQuery.parameters ⟨storage, container, perPage, some page⟩) q)
    (sent : (∃ value, answer = .ok value) → block ≠ [])
    (rest : InOrder c perPage storage container (page + 1) answers blocks) :
    InOrder c perPage storage container page (answer :: answers) (block :: blocks)

/-- A turn keeps the messages, and sends requests for its page only. -/
lemma run_askPage {page : Nat} {w v : World (Session τ)} {answer : Except Failure Json}
    (h : (askPage l c perPage storage container page).run w = (answer, v)) :
    v.other.errors = w.other.errors ∧ ∃ block, v.requests = w.requests ++ block ∧
      (∀ q ∈ block, c.Asks "/file-entries"
        (Client.PageQuery.parameters ⟨storage, container, perPage, some page⟩) q) ∧
      ((∃ value, answer = .ok value) → block ≠ []) := by
  rw [askPage] at h
  rcases hrun : (c.entries l ⟨storage, container, perPage, some page⟩).run
      (w.withOther w.other.connection) with ⟨result, u⟩
  obtain ⟨rfl, rfl⟩ : answer = result ∧ v = u.withOther { w.other with connection := u.other } := by
    rw [onConnection, Action.zoom, Procedure.run_within, hrun] at h
    cases h
    exact ⟨rfl, rfl⟩
  exact ⟨rfl, Client.run_request hrun⟩

lemma Turns.inOrder {page : Nat} {w v : World (Session τ)} {answers : List (Except Failure Json)}
    (h : Turns (askPage l c perPage storage container) page w answers v) :
    v.other.errors = w.other.errors ∧ ∃ blocks, v.requests = w.requests ++ blocks.flatten ∧
      InOrder c perPage storage container page answers blocks := by
  induction h with
  | done => exact ⟨rfl, [], by simp, .done⟩
  | @next page w v w' answer answers asked _ ih =>
    obtain ⟨herrors, blocks, hrequests, hblocks⟩ := ih
    obtain ⟨hkept, block, hblock, hasked, hsent⟩ := run_askPage asked
    refine ⟨herrors.trans hkept, block :: blocks, ?_, .next hasked hsent hblocks⟩
    rw [hrequests, hblock, List.flatten_cons, List.append_assoc]

/-- What comes of a listing, when its pages have been asked for. -/
lemma run_listChildren {p : Paging} {w v w' : World (Session τ)}
    {result : Except Failure (List Node)} {children : List Node}
    (hpages : (pagesFrom l c p.perPage storage container p.limit 1).run w = (result, v))
    (hrun : (listChildren l c p storage container).run w = (.ok children, w')) :
    w'.requests = v.requests ∧ ((result = .ok children ∧ w'.other.errors = v.other.errors) ∨
      ∃ f, result = .error f ∧ f ≠ .tooManyPages ∧ children = [] ∧
        ∃ message, w'.other.errors = v.other.errors ++ [message]) := by
  rw [listChildren, Procedure.run_bind, Procedure.run_attempt, hpages] at hrun
  rcases result with f | nodes
  · cases f with
    | bridge error =>
      cases hrun
      exact ⟨rfl, .inr ⟨_, rfl, (fun h => by cases h), rfl, _, rfl⟩⟩
    | value fault =>
      dsimp only at hrun
      split_ifs at hrun
      · cases hrun
        exact ⟨rfl, .inr ⟨_, rfl, (fun h => by cases h), rfl, _, rfl⟩⟩
      · cases hrun
    | _ => cases hrun
  · cases hrun
    exact ⟨rfl, .inl ⟨rfl, rfl⟩⟩

end Session

/-! ## Bridges that serve a listing -/

/-- The response is a success whose content is this document. -/
structure Response.Holds (r : Response) (value : Json) : Prop where
  whole : r.broken = none
  success : r.succeeded = true
  content : r.body ≠ []
  type : r.isJson = true
  decoded : Json.decode r.body = .ok value

lemma Response.Holds.judge {r : Response} {value : Json} (h : r.Holds value) :
    Client.judge (.response r) = .answered value := by
  rw [Client.judge_of_document h.whole h.success h.content h.type, h.decoded]

/-- A request that is answered with a document is made once. -/
lemma Client.run_request_at_once {l : Link τ} {c : Client} {m : Nat} {method endpoint : String}
    {query : List (String × Int)} {r : Request} {response : Response} {value : Json}
    (hretries : c.maxRetries = m)
    (hmakes : c.Makes method ("/" ++ Text.trimLeft '/' endpoint) query r) (w : World (Connection τ))
    (hanswer : (l.exchange r w.other.link w.files).1 = .response response)
    (hholds : response.Holds value) :
    ∃ w', (request l c method endpoint query).run w = (.ok value, w') ∧
      w'.journal = w.journal ++ [.sent r] := by
  have hstands : (l.exchange r w.other.link w.files).1.Stands := by
    rw [hanswer]
    rintro _ ⟨rfl⟩
    exact Response.leadsOn_of_succeeded hholds.success
  have hfirst : l.arrivalAt r (w.other.link, w.files) 0 = ⟨[], r, .response response⟩ := by
    rw [← hanswer]
    exact congrArg Prod.fst (Link.deliver_of_stands hstands)
  have hsteady : (l.answerAt r (w.other.link, w.files) 0).isTransient = false := by
    rw [← (judge_spec _).2, Link.answerAt, hfirst, hholds.judge]
    rfl
  obtain ⟨result, w', hrun, hmeans, hjournal⟩ := run_attempts_last (l := l) (c := c) hmakes.scheme
    (by rw [hretries, Nat.zero_add]) { w with other := { w.other with isOpen := true } }
    (.inr hsteady)
  obtain rfl : result = .ok value := by
    rw [Answer.Means.outcome_eq hmeans]
    show (judge (l.arrivalAt r (w.other.link, w.files) 0).answer).outcome = _
    rw [hfirst, hholds.judge]
    rfl
  refine ⟨w', (run_request_of_makes hretries hmakes w).trans hrun, hjournal.trans ?_⟩
  show w.journal ++ l.sentAt r (w.other.link, w.files) 0 = _
  rw [Link.sentAt, hfirst]
  rfl

namespace Session

variable {l : Link τ} {c : Client} {perPage storage : Int} {container : Option Int}

/-- The fields of the page of that number, counted from zero, of a listing cut into these pages:
its entries, its number, and how many pages there are. -/
structure NumberedPage (pages : List (List Json)) (i : Nat) (fs : List (String × Json)) :
    Prop where
  data : Json.lookup "data" fs = some (.array (pages.getD i []))
  current : Json.field "current_page" fs = .int (i + 1)
  last : Json.field "last_page" fs = .int pages.length

/-- The bridge answers the request for each page of a listing cut into these pages at once.  A
listing without pages is served as an empty one. -/
def Serves (l : Link τ) (c : Client) (perPage storage : Int) (container : Option Int)
    (pages : List (List Json)) : Prop :=
  ∀ i < max 1 pages.length, ∃ r,
    c.Makes "GET" "/file-entries"
      (Client.PageQuery.parameters ⟨storage, container, perPage, some (i + 1)⟩) r ∧
    ∀ state files, ∃ response fs, (l.exchange r state files).1 = .response response ∧
      response.Holds (.object fs) ∧ NumberedPage pages i fs

lemma less?_int (a b : Int) : Json.less? (.int a) (.int b) = .ok (decide (a < b)) :=
  congrArg Except.ok (Number.less_int a b)

lemma NumberedPage.pageOf {pages : List (List Json)} {i : Nat} {fs : List (String × Json)}
    (h : NumberedPage pages i fs) {nodes : List Node}
    (hnodes : (pages.getD i []).mapM Node.ofJson = .ok nodes) :
    Session.pageOf (.object fs) = .ok ⟨nodes, decide (i + 1 < pages.length)⟩ := by
  have hless : Json.less? (.int (i + 1)) (.int pages.length) =
      .ok (decide (i + 1 < pages.length)) := by
    rw [less?_int]
    exact congrArg Except.ok (decide_eq_decide.mpr (by omega))
  refine pageOf_eq_ok.mpr ⟨pages.getD i [], .mk ?_ hnodes ?_⟩
  · rw [h.data]
    rfl
  · rw [h.current, h.last]
    exact .numbered nofun nofun hless

/-- A page that is served is asked for in one request. -/
lemma run_askPage_served {m i : Nat} {pages : List (List Json)} (hretries : c.maxRetries = m)
    (hserves : Serves l c perPage storage container pages) (hi : i < max 1 pages.length)
    (w : World (Session τ)) :
    ∃ fs v r, (askPage l c perPage storage container (i + 1)).run w = (.ok (.object fs), v) ∧
      NumberedPage pages i fs ∧ v.requests = w.requests ++ [r] ∧ c.Asks "/file-entries"
        (Client.PageQuery.parameters ⟨storage, container, perPage, some (i + 1)⟩) r := by
  obtain ⟨r, hmakes, hanswers⟩ := hserves i hi
  obtain ⟨response, fs, hanswer, hholds, hpage⟩ := hanswers w.other.connection.link w.files
  obtain ⟨u, hentries, hjournal⟩ : ∃ u,
      (c.entries l ⟨storage, container, perPage, some (i + 1 : Nat)⟩).run
        (w.withOther w.other.connection) = (.ok (.object fs), u) ∧
      u.journal = (w.withOther w.other.connection).journal ++ [Event.sent r] :=
    Client.run_request_at_once hretries hmakes (w.withOther w.other.connection) hanswer hholds
  refine ⟨fs, u.withOther { w.other with connection := u.other }, r, ?_, hpage, ?_, hmakes.prepared⟩
  · rw [askPage, onConnection, Action.zoom, Procedure.run_within, hentries]
  · exact World.requests_of_sent hjournal

/-- These are requests for the pages from this one on, one for each. -/
def OnePerPage (c : Client) (perPage storage : Int) (container : Option Int) (first : Nat)
    (requests : List Request) : Prop :=
  ∀ j r, requests[j]? = some r → c.Asks "/file-entries"
    (Client.PageQuery.parameters ⟨storage, container, perPage, some (first + j : Nat)⟩) r

/-- **The rest of a served listing comes page by page.** -/
lemma run_pagesFrom_served {m : Nat} {pages : List (List Json)} (hretries : c.maxRetries = m)
    (hserves : Serves l c perPage storage container pages) (left i : Nat)
    (hi : i < max 1 pages.length) (hleft : max 1 pages.length ≤ i + left) {nodes : List Node}
    (hnodes : (pages.drop i).flatten.mapM Node.ofJson = .ok nodes) (w : World (Session τ)) :
    ∃ v requests, (pagesFrom l c perPage storage container left (i + 1)).run w = (.ok nodes, v) ∧
      v.requests = w.requests ++ requests ∧ i + requests.length = max 1 pages.length ∧
      OnePerPage c perPage storage container (i + 1) requests := by
  induction left generalizing i nodes w with
  | zero => omega
  | succ left ih =>
    obtain ⟨fs, v, r, hrun, hpage, hsent, hasks⟩ := run_askPage_served hretries hserves hi w
    have hsplit : (pages.drop i).flatten = pages.getD i [] ++ (pages.drop (i + 1)).flatten := by
      rcases Nat.lt_or_ge i pages.length with hlt | hge
      · rw [List.drop_eq_getElem_cons hlt, List.flatten_cons, List.getD,
          List.getElem?_eq_getElem hlt, Option.getD_some]
      · rw [List.drop_eq_nil_of_le hge, List.drop_eq_nil_of_le (by omega), List.getD,
          List.getElem?_eq_none hge]
        rfl
    rw [hsplit, List.mapM_append] at hnodes
    obtain ⟨this, hthis, hnodes⟩ := bind_eq_ok_iff.mp hnodes
    obtain ⟨later, hlater, hnodes⟩ := bind_eq_ok_iff.mp hnodes
    cases hnodes
    rw [run_pagesFrom_succ, hrun]
    dsimp only
    rw [hpage.pageOf hthis]
    by_cases hnext : i + 1 < pages.length
    · obtain ⟨v', requests, hrest, hrequests, hlength, hone⟩ :=
        ih (i + 1) (by omega) (by omega) hlater v
      refine ⟨v', r :: requests, ?_, ?_, by rw [List.length_cons]; omega, ?_⟩
      · rw [decide_eq_true hnext]
        dsimp only
        rw [hrest]
        rfl
      · rw [hrequests, hsent, ← List.append_cons]
      · intro j q hq
        cases j with
        | zero =>
          cases hq
          exact hasks
        | succ j =>
          have hlater := hone j q hq
          rwa [Nat.add_right_comm, Nat.add_assoc] at hlater
    · have hempty : later = [] := by
        rw [List.drop_eq_nil_of_le (by omega)] at hlater
        cases hlater
        rfl
      refine ⟨v, [r], ?_, hsent, by rw [List.length_singleton]; omega, ?_⟩
      · rw [decide_eq_false hnext, hempty, List.append_nil]
      · intro j q hq
        cases j with
        | zero =>
          cases hq
          exact hasks
        | succ j => cases hq

/-! ## Listings -/

/-- **A listing is all its pages or none.**  The pages are asked for in order, each once, until one
announces no other.  If the answers are pages, the children are what all their entries become, and
no message is added; otherwise there are no children, and one message is added.  In particular a
listing that a bridge serves page by page is read as a whole, in one request for each page. -/
theorem listChildren_gathers (l : Link τ) (c : Client) (p : Paging) (storage : Int)
    (container : Option Int) (w : World (Session τ)) :
    (∀ children w', (listChildren l c p storage container).run w = (.ok children, w') →
      ∃ init last v blocks,
        Turns (askPage l c p.perPage storage container) 1 w (init ++ [last]) v ∧
        (∀ answer ∈ init, GoesOn answer) ∧ ¬GoesOn last ∧
        w'.requests = w.requests ++ blocks.flatten ∧
        InOrder c p.perPage storage container 1 (init ++ [last]) blocks ∧
        ((∃ parts, List.Forall₂ HasEntries (init ++ [last]) parts ∧
            parts.flatten.mapM Node.ofJson = .ok children ∧ w'.other.errors = w.other.errors) ∨
          ((∀ entries, ¬HasEntries last entries) ∧ children = [] ∧
            ∃ message, w'.other.errors = w.other.errors ++ [message]))) ∧
    ∀ pages nodes, 0 ≤ c.maxRetries → Serves l c p.perPage storage container pages →
      max 1 pages.length ≤ p.limit → pages.flatten.mapM Node.ofJson = .ok nodes →
      ∃ w' requests, (listChildren l c p storage container).run w = (.ok nodes, w') ∧
        w'.other.errors = w.other.errors ∧ w'.requests = w.requests ++ requests ∧
        requests.length = max 1 pages.length ∧
        OnePerPage c p.perPage storage container 1 requests := by
  obtain ⟨answers, result, v, hpages, hturns, hends⟩ :=
    run_pagesFrom l c p.perPage storage container p.limit 1 w
  obtain ⟨herrors, blocks, hblocks, horder⟩ := hturns.inOrder
  constructor
  · intro children w' hrun
    obtain ⟨hrequests, hresult⟩ := run_listChildren hpages hrun
    rcases hends.outcome with ⟨-, -, rfl⟩ | ⟨init, last, rfl, hinit, hlast, hends⟩
    · rcases hresult with ⟨hno, -⟩ | ⟨f, hf, hno, -⟩
      · cases hno
      · cases hf
        exact absurd rfl hno
    refine ⟨init, last, v, blocks, hturns, hinit, hlast, hrequests.trans hblocks, horder, ?_⟩
    rcases hends with ⟨nodes, parts, rfl, hparts, hnodes⟩ | ⟨f, rfl, hnone⟩
    · rcases hresult with ⟨hchildren, hkept⟩ | ⟨_, hno, -⟩
      · cases hchildren
        exact .inl ⟨parts, hparts, hnodes, hkept.trans herrors⟩
      · cases hno
    · rcases hresult with ⟨hno, -⟩ | ⟨_, -, -, hchildren, message, hmessage⟩
      · cases hno
      · exact .inr ⟨hnone, hchildren, message, by rw [hmessage, herrors]⟩
  · intro pages nodes hretries hserves hlimit hnodes
    obtain ⟨v', requests, hserved, hrequests, hlength, hone⟩ :=
      run_pagesFrom_served (m := c.maxRetries.toNat) (by omega) hserves p.limit 0 (by omega)
        (by omega) hnodes w
    obtain ⟨rfl, rfl⟩ : result = .ok nodes ∧ v = v' := by
      rw [hpages] at hserved
      cases hserved
      exact ⟨rfl, rfl⟩
    refine ⟨v.add (.logged ⟨.debug, .remote, "Listed " ++ toString nodes.length ++ " children of "
      ++ Node.idText container ++ " on storage " ++ toString storage⟩), requests, ?_, herrors,
      hrequests, by omega, hone⟩
    rw [listChildren, Procedure.run_bind, Procedure.run_attempt, hpages]
    rfl

/-! ## The last page -/

/-- The answer gives these numbers of a page and of the last one. -/
def Numbers (answer : Except Failure Json) (current last : Int) : Prop :=
  ∃ fs, answer = .ok (.object fs) ∧ Json.field "current_page" fs = .int current ∧
    Json.field "last_page" fs = .int last

/-- No page that announces another one gives a number less than that under which it was asked for;
the first of the answers is that to page one. -/
def Faithful (answers : List (Except Failure Json)) : Prop :=
  ∀ (i : Nat) answer, answers[i]? = some answer → GoesOn answer →
    ∃ current last, Numbers answer current last ∧ (i : Int) + 1 ≤ current

lemma GoesOn.lt {answer : Except Failure Json} {current last : Int} (h : GoesOn answer)
    (hnumbers : Numbers answer current last) : current < last := by
  obtain ⟨_, entries, nodes, rfl, hpage⟩ := h
  obtain ⟨fs, hanswer, hcurrent, hlast⟩ := hnumbers
  cases hanswer
  obtain ⟨-, -, hannounces⟩ := hpage
  rw [hcurrent, hlast] at hannounces
  cases hannounces with
  | numbered _ _ order =>
    rw [less?_int, Except.ok.injEq, decide_eq_true_eq] at order
    exact order

/-- What a listing sends, it sends for its pages. -/
lemma requests_listChildren {p : Paging} {w v : World (Session τ)}
    {result : Except Failure (List Node)}
    (hpages : (pagesFrom l c p.perPage storage container p.limit 1).run w = (result, v)) :
    ((listChildren l c p storage container).run w).2.requests = v.requests := by
  rw [listChildren, Procedure.run_bind, Procedure.run_attempt, hpages]
  rcases result with f | nodes
  · cases f with
    | value fault =>
      dsimp only
      split_ifs <;> rfl
    | _ => rfl
  · rfl

/-- **A bridge that does not fall behind bounds the loop**: if no page that announces another one
gives a number less than that under which it was asked for, then no more pages are asked for than
the last number that was just told; and the loop ends by itself if the bridge tells of no more pages
than may be asked for. -/
theorem listChildren_bounded (l : Link τ) (c : Client) (p : Paging) (storage : Int)
    (container : Option Int) (w : World (Session τ)) (hlimit : 0 < p.limit) :
    ∃ init last v, Turns (askPage l c p.perPage storage container) 1 w (init ++ [last]) v ∧
      ((listChildren l c p storage container).run w).2.requests = v.requests ∧
      (∀ answer ∈ init, GoesOn answer) ∧
      (Faithful (init ++ [last]) →
        (∀ (i : Nat) answer, init[i]? = some answer →
          ∃ current final, Numbers answer current final ∧ (i : Int) + 2 ≤ final) ∧
        ((∀ answer ∈ init ++ [last], ∀ current final, Numbers answer current final →
            final ≤ p.limit) → ¬GoesOn last)) := by
  obtain ⟨answers, result, v, hpages, hturns, hends⟩ :=
    run_pagesFrom l c p.perPage storage container p.limit 1 w
  -- the loop has stopped after the last of the answers, or it may ask for no other
  obtain ⟨init, last, rfl, hinit, hstop⟩ : ∃ init last, answers = init ++ [last] ∧
      (∀ answer ∈ init, GoesOn answer) ∧ (GoesOn last → init.length + 1 = p.limit) := by
    rcases hends.outcome with ⟨hall, hlength, -⟩ | ⟨init, last, rfl, hinit, hlast, -⟩
    · rcases answers.eq_nil_or_concat with rfl | ⟨init, last, rfl⟩
      · exact absurd hlength (Nat.ne_of_lt hlimit)
      · rw [List.concat_eq_append] at hall
        refine ⟨init, last, List.concat_eq_append,
          fun answer h => hall answer (List.mem_append_left _ h), fun _ => ?_⟩
        simpa using hlength
    · exact ⟨init, last, rfl, hinit, fun h => absurd h hlast⟩
  refine ⟨init, last, v, hturns, requests_listChildren hpages, hinit, fun hfaithful => ⟨?_, ?_⟩⟩
  · intro i answer hanswer
    have hgoes := hinit answer (List.mem_of_getElem? hanswer)
    obtain ⟨current, final, hnumbers, hcurrent⟩ := hfaithful i answer (by
      rw [List.getElem?_append_left (List.getElem?_eq_some_iff.mp hanswer).1]
      exact hanswer) hgoes
    have hlt := hgoes.lt hnumbers
    exact ⟨current, final, hnumbers, by omega⟩
  · intro htold hgoes
    obtain ⟨current, final, hnumbers, hcurrent⟩ :=
      hfaithful init.length last List.getElem?_concat_length hgoes
    have hlt := hgoes.lt hnumbers
    have hfinal := htold last (by simp) current final hnumbers
    have hlength := hstop hgoes
    omega

lemma numbers_of_served {m i : Nat} {pages : List (List Json)} (hretries : c.maxRetries = m)
    (hserves : Serves l c perPage storage container pages) (hi : i < max 1 pages.length)
    {w v : World (Session τ)} {answer : Except Failure Json}
    (asked : (askPage l c perPage storage container (i + 1)).run w = (answer, v)) :
    Numbers answer (i + 1 : Nat) pages.length := by
  obtain ⟨fs, _, _, hrun, hpage, -⟩ := run_askPage_served hretries hserves hi w
  rw [hrun] at asked
  cases asked
  exact ⟨fs, rfl, hpage.current, hpage.last⟩

/-- The turns of a served listing bring its pages in order. -/
lemma Turns.numbers {m : Nat} {pages : List (List Json)} (hretries : c.maxRetries = m)
    (hserves : Serves l c perPage storage container pages) {i : Nat} (hi : i < max 1 pages.length)
    {w v : World (Session τ)} {init : List (Except Failure Json)} {last : Except Failure Json}
    (hturns : Turns (askPage l c perPage storage container) (i + 1) w (init ++ [last]) v)
    (hinit : ∀ answer ∈ init, GoesOn answer) (j : Nat) {answer : Except Failure Json}
    (hanswer : (init ++ [last])[j]? = some answer) :
    Numbers answer (i + 1 + j : Nat) pages.length := by
  induction init generalizing i j w with
  | nil =>
    cases hturns with
    | next asked =>
      cases j with
      | zero =>
        cases hanswer
        exact numbers_of_served hretries hserves hi asked
      | succ j => cases hanswer
  | cons first init ih =>
    cases hturns with
    | next asked rest =>
      have hfirst := numbers_of_served hretries hserves hi asked
      cases j with
      | zero =>
        cases hanswer
        exact hfirst
      | succ j =>
        have hnext := (hinit first List.mem_cons_self).lt hfirst
        have hlater := ih (by omega) rest
          (fun answer h => hinit answer (List.mem_cons_of_mem _ h)) j hanswer
        rwa [Nat.add_right_comm, Nat.add_assoc] at hlater

/-- A bridge that serves a listing does not fall behind. -/
lemma Turns.faithful {m : Nat} {pages : List (List Json)} (hretries : c.maxRetries = m)
    (hserves : Serves l c perPage storage container pages)
    {w v : World (Session τ)} {init : List (Except Failure Json)} {last : Except Failure Json}
    (hturns : Turns (askPage l c perPage storage container) 1 w (init ++ [last]) v)
    (hinit : ∀ answer ∈ init, GoesOn answer) : Faithful (init ++ [last]) := by
  intro j answer hanswer _
  exact ⟨_, _, hturns.numbers hretries hserves (i := 0) (by omega) hinit j hanswer, by omega⟩

end Session

/-! ### A bridge with two pages -/

namespace Session

/-- The content of a page with an entry of that number. -/
def pageBody (id current last : Nat) : List UInt8 :=
  ("\x7b\"data\": [\x7b\"id\": " ++ toString id ++ "\x7d], \"current_page\": " ++ toString current
    ++ ", \"last_page\": " ++ toString last ++ "\x7d").toUTF8.toList

/-- The response with that content. -/
def pageAnswer (id current last : Nat) : Answer :=
  .response ⟨200, [("Content-Type", "application/json")], pageBody id current last, none⟩

/-- A bridge with two pages. -/
def twoPages : Link Unit where
  exchange r _ files :=
    let page := ((r.query.lookup "page").getD 1).toNat
    (pageAnswer (4 + page) page 2, (), files)
  redirected _ _ := .error "nowhere"
  chance _ := (0, ())
  pause _ _ := .elapsed

/-- Whether the content is that of a page with these numbers, whose entries become nodes with these
ones. -/
def isPageBody (body : List UInt8) (ids : List Int) (current last : Int) : Bool :=
  match Json.decode body with
  | .ok (.object fs) =>
    match Json.lookup "data" fs, Json.field "current_page" fs, Json.field "last_page" fs with
    | some (.array entries), .number (.int m), .number (.int n) =>
      match entries.mapM Node.ofJson with
      | .ok nodes => nodes.map Node.id == ids && m == current && n == last
      | .error _ => false
    | _, _, _ => false
  | _ => false

lemma exists_of_isPageBody {body : List UInt8} {ids : List Int} {current last : Int}
    (h : isPageBody body ids current last = true) :
    ∃ fs entries nodes, Json.decode body = .ok (.object fs) ∧
      Json.lookup "data" fs = some (.array entries) ∧ Json.field "current_page" fs = .int current ∧
      Json.field "last_page" fs = .int last ∧ entries.mapM Node.ofJson = .ok nodes ∧
      nodes.map Node.id = ids := by
  rw [isPageBody] at h
  split at h
  next fs hdecode =>
    split at h
    next entries m n hdata hcurrent hlast =>
      split at h
      next nodes hnodes =>
        simp only [Bool.and_eq_true, beq_iff_eq] at h
        obtain ⟨⟨hids, rfl⟩, rfl⟩ := h
        exact ⟨fs, entries, nodes, hdecode, hdata, hcurrent, hlast, hnodes, hids⟩
      next => cases h
    next => cases h
  next => cases h

/-- The request for a page of the bridge. -/
def pageRequest (page : Nat) : Request :=
  ⟨"GET", "http:" ++ "//bridge/file-entries",
    Client.PageQuery.parameters ⟨7, none, 100, some page⟩, none,
    ⟨"http", "", "bridge", none, "/file-entries",
      some ("storageId=7&perPage=100&page=" ++ toString page), none⟩⟩

lemma sample_makes_page {page : Nat} (h : page = 1 ∨ page = 2) :
    Client.sample.Makes "GET" "/file-entries"
      (Client.PageQuery.parameters ⟨7, none, 100, some page⟩) (pageRequest page) where
  key := rfl
  prepared := by
    have hprepare : (Request.prepare "GET" (Client.sample.url ++ "/file-entries")
        (Client.PageQuery.parameters ⟨7, none, 100, some page⟩)
        Client.sample.presentedKey).toOption = some (pageRequest page) := by
      rcases h with rfl | rfl <;> decide +kernel
    exact eq_ok_of_toOption hprepare
  scheme := by
    show "http" ≠ ""
    decide

/-- Each of the two pages has one entry. -/
lemma twoPages_holds {page : Nat} (h : page = 1 ∨ page = 2) :
    ∃ response fs entries nodes, pageAnswer (4 + page) page 2 = .response response ∧
      response.Holds (.object fs) ∧ Json.lookup "data" fs = some (.array entries) ∧
      Json.field "current_page" fs = .int page ∧ Json.field "last_page" fs = .int 2 ∧
      entries.mapM Node.ofJson = .ok nodes ∧ nodes.map Node.id = [(4 + page : Int)] := by
  have hbody : isPageBody (pageBody (4 + page) page 2) [4 + page] page 2 = true := by
    rcases h with rfl | rfl <;> decide +kernel
  have hcontent : pageBody (4 + page) page 2 ≠ [] := by
    rcases h with rfl | rfl <;> decide +kernel
  have htype : Response.isJson ⟨200, [("Content-Type", "application/json")],
      pageBody (4 + page) page 2, none⟩ = true := by
    rcases h with rfl | rfl <;> decide +kernel
  obtain ⟨fs, entries, nodes, hdecode, hpage⟩ := exists_of_isPageBody hbody
  exact ⟨_, fs, entries, nodes, rfl, ⟨rfl, rfl, hcontent, htype, hdecode⟩, hpage⟩

lemma twoPages_exchange {page : Nat} (h : page = 1 ∨ page = 2) (state : Unit)
    (files : FileSystem) :
    (twoPages.exchange (pageRequest page) state files).1 = pageAnswer (4 + page) page 2 := by
  have hpage : (((pageRequest page).query.lookup "page").getD 1).toNat = page := by
    rcases h with rfl | rfl <;> decide
  show pageAnswer (4 + _) _ 2 = _
  rw [hpage]

/-- The bridge serves its two pages. -/
lemma twoPages_serves : ∃ pages nodes, pages.length = 2 ∧
    Serves twoPages Client.sample 100 7 none pages ∧ pages.flatten.mapM Node.ofJson = .ok nodes ∧
    nodes.map Node.id = [5, 6] := by
  obtain ⟨response, fs, entries, nodes, hanswer, hholds, hdata, hcurrent, hlast, hnodes, hids⟩ :=
    twoPages_holds (.inl rfl)
  obtain ⟨response', fs', entries', nodes', hanswer', hholds', hdata', hcurrent', hlast', hnodes',
    hids'⟩ := twoPages_holds (.inr rfl)
  refine ⟨[entries, entries'], nodes ++ nodes', rfl, ?_, ?_, ?_⟩
  · intro i hi
    match i with
    | 0 =>
      exact ⟨pageRequest 1, sample_makes_page (.inl rfl), fun state files =>
        ⟨response, fs, (twoPages_exchange (.inl rfl) state files).trans hanswer, hholds,
          ⟨hdata, hcurrent, hlast⟩⟩⟩
    | 1 =>
      exact ⟨pageRequest 2, sample_makes_page (.inr rfl), fun state files =>
        ⟨response', fs', (twoPages_exchange (.inr rfl) state files).trans hanswer', hholds',
          ⟨hdata', hcurrent', hlast'⟩⟩⟩
  · simp only [List.flatten_cons, List.flatten_nil, List.append_nil, List.mapM_append, hnodes,
      hnodes']
    rfl
  · rw [List.map_append, hids, hids']
    rfl

/-- The session with the bridge. -/
def twoPagesWorld : World (Session Unit) := ⟨.empty, start (), []⟩

/-- Both pages are read, and the second is the last. -/
theorem listChildren_gathers_sample :
    ∃ nodes w', (listChildren twoPages Client.sample { limit := 5 } 7 none).run twoPagesWorld =
        (.ok nodes, w') ∧ nodes.map Node.id = [5, 6] ∧ w'.requests.length = 2 ∧
      ∃ init last v, Turns (askPage twoPages Client.sample 100 7 none) 1 twoPagesWorld
        (init ++ [last]) v ∧ (∀ answer ∈ init, GoesOn answer) ∧ ¬GoesOn last := by
  obtain ⟨pages, nodes, hlength, hserves, hnodes, hids⟩ := twoPages_serves
  have hgathers := listChildren_gathers twoPages Client.sample { limit := 5 } 7 none twoPagesWorld
  obtain ⟨w', requests, hrun, -, hrequests, hcount, -⟩ :=
    hgathers.2 pages nodes (by decide) hserves (by rw [hlength]; decide) hnodes
  obtain ⟨init, last, v, _, hturns, hinit, hlast, -⟩ := hgathers.1 nodes w' hrun
  refine ⟨nodes, w', hrun, hids, ?_, init, last, v, hturns, hinit, hlast⟩
  rw [hrequests, List.length_append, hcount, hlength]
  rfl

/-- The second page is asked for because the first one tells of it, and no third one is. -/
theorem listChildren_bounded_sample :
    ∃ init last v, Turns (askPage twoPages Client.sample 100 7 none) 1 twoPagesWorld
        (init ++ [last]) v ∧
      (∀ (i : Nat) answer, init[i]? = some answer →
        ∃ current final, Numbers answer current final ∧ (i : Int) + 2 ≤ final) ∧ ¬GoesOn last := by
  obtain ⟨pages, _, hlength, hserves, -⟩ := twoPages_serves
  obtain ⟨init, last, v, hturns, -, hinit, hbounded⟩ :=
    listChildren_bounded twoPages Client.sample { limit := 5 } 7 none twoPagesWorld (by decide)
  obtain ⟨htold, hstops⟩ := hbounded (hturns.faithful (m := 3) rfl hserves hinit)
  refine ⟨init, last, v, hturns, htold, hstops fun answer hanswer current final hnumbers => ?_⟩
  obtain ⟨j, hj⟩ := List.getElem?_of_mem hanswer
  obtain ⟨fs, rfl, -, hfinal⟩ := hturns.numbers (m := 3) rfl hserves (i := 0) (by omega) hinit j hj
  obtain ⟨_, hfs, -, hfinal'⟩ := hnumbers
  cases hfs
  rw [hfinal'] at hfinal
  cases hfinal
  rw [hlength]
  decide

/-- A listing from a bridge that gives its first page twice. -/
def repeatedListing : Except Failure (List Node) × World (Session (List Answer)) :=
  (listChildren Link.scripted Client.sample { limit := 5 } 7 none).run
    ⟨.empty, start [pageAnswer 5 1 2, pageAnswer 5 1 2, pageAnswer 6 2 2], []⟩

/-- **A bridge that falls behind is asked more often**: it never tells of more than two pages, and
is asked for three; the entry of the page that it gives twice is listed twice. -/
theorem asks_beyond_last :
    repeatedListing.1.map (List.map Node.id) = .ok [5, 5, 6] ∧
      repeatedListing.2.requests.map Request.query = [1, 2, 3].map fun page =>
        Client.PageQuery.parameters ⟨7, none, 100, some page⟩ := by
  decide +kernel

end Session

end Replica
