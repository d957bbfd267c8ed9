import Mathlib.Data.List.Basic
import Replica.Proofs.Conservation
import Replica.Proofs.Losses
/-!
# Faults stay where they are

Two runs over devices that list the same, where some files of the second one cannot be fetched, go
the same way.  What a lost file leaves behind is found at its own place only, and nobody looks there
again.

* **Walks.**  `Walk.Abreast` says where a second walk stands beside a first one.
  `Walk.Course.isolated` relates any second course to the tour of a first one, by induction on the
  tour.
* **Runs.**  `Run.run_isolates` puts the walks together.
-/

namespace Replica

open FileSystem (LinkFree Stays sizeAt)

variable {σ τ : Type}

/-! ## Walks -/

namespace Walk

variable {p : Plan σ} {q : Plan τ} {h : Hierarchy} {f f' : Reaction} {lost : Int → Bool}
  {root : Path} {storage : Int} {top : Location} {above : List String} {ids : List Int}
  {child : Node} {fate fate' : Fate} {t : Tour} {levels : Nat} {x x₁ x' : Position σ}
  {y y₁ : Position τ} {b b₁ b' : Account τ} {result : Except Stop Unit}
  {spoiled : List Location}

section Leaf

variable (hr : p.remote.Reacts f) (hr' : q.remote.Reacts f') (hloses : f.Loses lost f')
  (hinclude : q.includeAbstract = p.includeAbstract)
  (hb : Befalls p root above child fate x x₁) (hfoot : Foothold x.files root top above)
  (hfoot' : Foothold y.files root top above) (hclosed : y.files.closed = x.files.closed)
  (hsame : child.Calls child.name.display →
    y.files.get? (top ++ above ++ [child.name.display]) =
      x.files.get? (top ++ above ++ [child.name.display]))
include hr hr' hloses hb hfoot hfoot' hclosed hsame

/-- A file that is due for the first walk gets the same answer in the second one, unless it is
lost. -/
lemma Befalls.answer_spoil (hfate : fate.verdict? = some .due) {answer : Except Failure Bool}
    {w : World τ}
    (hanswer : q.remote.fetch child (LocalDirectory.pathFor ⟨root, above⟩ child.name.display)
      y.other y.files = (answer, w)) :
    answer = .ok (decide (fate.spoil (lost child.id) = .fetched)) ∧
      ∀ l, y.files.get? l = x.files.get? l → (fate = .fetched → lost child.id = true →
        l ≠ top ++ above ++ [child.name.display]) → w.files.get? l = x₁.files.get? l := by
  obtain ⟨v, hfirst, hfiles⟩ := hb.due hfate
  rcases hb.verdict with ⟨rfl, -⟩ | ⟨size, hfaces, -⟩
  · cases hfate
  have htakes := (hfoot.inspected hfaces.calls.segment hfaces.size).1
  obtain ⟨hfirst₁, -, hleaves₁⟩ := hfoot.fetched hr hfaces.calls.segment htakes hfirst
  obtain ⟨rfl, -, hleaves₂⟩ :=
    hfoot'.fetched hr' hfaces.calls.segment (htakes.congr hclosed) hanswer
  rw [hsame hfaces.calls] at hleaves₂ ⊢
  refine ⟨hloses.answer hfirst₁.symm, fun l hl hplace => ?_⟩
  rw [hfiles, hleaves₁, hleaves₂]
  split_ifs with heq
  · cases hlost : lost child.id with
    | false => exact (hloses.kept _ _ _ hlost).2
    | true =>
      have hfetched := (hloses.missed _ _ _ _ hlost hfirst₁.symm).1
      exact absurd heq (hplace (of_decide_eq_true hfetched) hlost)
  · exact hl

include hinclude

/-- What befalls a child in the second walk. -/
lemma Befalls.spoil (hb' : Befalls q root above child fate' y y₁) :
    fate' = fate.spoil (lost child.id) ∧
      ∀ l, y.files.get? l = x.files.get? l → (fate = .fetched → lost child.id = true →
        l ≠ top ++ above ++ [child.name.display]) → y₁.files.get? l = x₁.files.get? l := by
  rcases hb.verdict with ⟨rfl, hname⟩ | ⟨size, hfaces, hverdict⟩ <;>
    rcases hb'.verdict with ⟨rfl, hname'⟩ | ⟨size', hfaces', hverdict'⟩
  · refine ⟨rfl, fun l hl _ => ?_⟩
    rw [hb.idle (by simp [Fate.verdict?]), hb'.idle (by simp [Fate.verdict?]), hl]
  · exact absurd hfaces'.calls (not_calls hname)
  · exact absurd hfaces.calls (not_calls hname')
  obtain rfl := (hfaces.of_foothold hfoot hfoot' hclosed (hsame hfaces.calls)).unique hfaces'
  rw [verdict_congr hinclude, ← hverdict] at hverdict'
  by_cases hdue : fate.verdict? = some .due
  · obtain ⟨w, hanswer, hfiles⟩ := hb'.due (hverdict'.trans hdue)
    obtain ⟨hanswer', hleaves⟩ := 
      hb.answer_spoil hr hr' hloses hfoot hfoot' hclosed hsame hdue hanswer
    refine ⟨Fate.eq_of_verdict? (by simpa using hverdict') fun _ => ?_, by rwa [hfiles]⟩
    exact decide_eq_decide.mp (Except.ok.inj hanswer')
  · refine ⟨?_, fun l hl _ => ?_⟩
    · rw [Fate.spoil_of_idle hdue]
      exact Fate.eq_of_verdict? hverdict' fun hdue' => absurd (hverdict' ▸ hdue') hdue
    · rw [hb.idle hdue, hb'.idle (hverdict' ▸ hdue), hl]

end Leaf

/-- Where a second walk stands beside a first one that goes on to make a tour. -/
structure Abreast (lost : Int → Bool) (root : Path) (top : Location) (above : List String)
    (spoiled : List Location) (t : Tour) (x : Position σ) (b : Account τ) : Prop where
  first : Foothold x.files root top above
  second : Foothold b.files root top above
  clear : Clear top spoiled (t.entries above)
  closed : b.files.closed = x.files.closed
  same : ∀ l ∉ spoiled, b.files.get? l = x.files.get? l
  budget : ((b.budget.failures + (t.spoil lost).counts.failures : Nat) : Int) ≤ b.budget.threshold

/-- Both go on to what comes after the first part of a tour. -/
lemma Abreast.next {t' : Tour} (hlists : p.remote.Lists h) (hlists' : q.remote.Lists h)
    (hr : p.remote.Reacts f) (hr' : q.remote.Reacts f')
    (ht : Makes p root storage above ids t x x₁)
    (htracks : Tracks q root storage levels above ids (t.spoil lost) b b₁)
    (hsame : ∀ l ∉ spoiled ++ t.losses lost top above, b₁.files.get? l = x₁.files.get? l)
    (ha : Abreast lost root top above spoiled (t.append t') x b) :
    Abreast lost root top above (spoiled ++ t.losses lost top above) t' x₁ b₁ := by
  obtain ⟨hfoot, hfoot', hclear, hclosed, -, hbudget⟩ := ha
  rw [Tour.entries_append] at hclear
  obtain ⟨hstays, hlinkFree⟩ := ht.stays hlists hr hfoot
  obtain ⟨hstays', hlinkFree'⟩ := htracks.makes.stays hlists' hr' hfoot'
  have hspent : b₁.budget =
      ⟨b.budget.threshold, b.budget.failures + (t.spoil lost).counts.failures⟩ :=
    htracks.makes.budget.1
  refine ⟨hfoot.stays hstays hlinkFree, hfoot'.stays hstays' hlinkFree', ?_,
    hstays'.closed.trans (hclosed.trans hstays.closed.symm), hsame, ?_⟩
  · refine hclear.later fun l hl => ?_
    obtain ⟨z, hz, hcalls, hfile, -, hplace, -⟩ :=
      Tour.exists_of_mem_losses (ht.isOf hlists) root hl
    exact ⟨z, hz, hcalls, hfile, hplace⟩
  · rw [hspent]
    simpa [Nat.add_assoc] using hbudget

/-- Both go down into a folder that the first one has gone down into. -/
lemma Abreast.down {below rest : Tour} {files : FileSystem} {x₀ : Position σ}
    (ha : Abreast lost root top above spoiled (.folder child below rest) x b)
    (hcalls : child.Calls child.name.display)
    (hmade : LocalDirectory.made ⟨root, above⟩ child.name.display x.files = .ok files)
    (hfiles : x₀.files = files) :
    ∃ files', LocalDirectory.made ⟨root, above⟩ child.name.display b.files = .ok files' ∧
      ∀ c : Account τ, c.files = files' → c.budget = b.budget →
        Abreast lost root top (above ++ [child.name.display]) spoiled below x₀ c := by
  obtain ⟨hfoot, hfoot', hclear, hclosed, hsame, hbudget⟩ := ha
  have hplace := hclear.unspoiled _ List.mem_cons_self _ hcalls
  obtain ⟨files', hmade', hsame'⟩ :=
    hfoot.made_alike hfoot' hcalls.segment hmade hclosed (hsame _ hplace)
  have hkept := (hfoot.preserves_made hcalls.segment hmade).1.closed
  have hkept' := (hfoot'.preserves_made hcalls.segment hmade').1.closed
  have hcounts : (Tour.spoil lost (.folder child below rest)).counts.failures =
    0 + (below.spoil lost).counts.failures + (rest.spoil lost).counts.failures := rfl
  refine ⟨files', hmade', ?_⟩
  rintro c rfl hc
  rw [hcounts] at hbudget
  refine ⟨hfiles ▸ hfoot.below hcalls.segment hmade, hfoot'.below hcalls.segment hmade',
    hclear.tail.left, hfiles ▸ hkept'.trans (hclosed.trans hkept.symm),
    fun l hl => hfiles ▸ hsame' l (hsame l hl), ?_⟩
  rw [hc]
  omega

/-- The files and the failures are all that matters. -/
lemma Abreast.moved (ha : Abreast lost root top above spoiled t x b) (hx : x₁.files = x.files)
    (hb : b₁.files = b.files) (hbudget : b₁.budget = b.budget) :
    Abreast lost root top above spoiled t x₁ b₁ := by
  obtain ⟨hfoot, hfoot', hclear, hclosed, hsame, hspent⟩ := ha
  refine ⟨hx ▸ hfoot, hb ▸ hfoot', hclear, by rw [hb, hx, hclosed], fun l hl => ?_,
    hbudget ▸ hspent⟩
  rw [hb, hx, hsame l hl]

lemma Abreast.front {t' : Tour} (ha : Abreast lost root top above spoiled (t.append t') x b) :
    Abreast lost root top above spoiled t x b := by
  obtain ⟨hfoot, hfoot', hclear, hclosed, hsame, hbudget⟩ := ha
  rw [Tour.entries_append] at hclear
  refine ⟨hfoot, hfoot', hclear.left, hclosed, hsame, ?_⟩
  simp at hbudget
  omega

section Course

variable (hlists : p.remote.Lists h) (hlists' : q.remote.Lists h) (hr : p.remote.Reacts f)
  (hr' : q.remote.Reacts f') (hloses : f.Loses lost f')
  (hinclude : q.includeAbstract = p.includeAbstract)
include hr hr' hloses hinclude

/-- A child that does not stop the first walk does not stop the second one, as long as the failures
are tolerated. -/
lemma not_halt_spoil {failure : Failure} (hb : Befalls p root above child fate x x₁)
    (hfoot : Foothold x.files root top above) (hfoot' : Foothold b.files root top above)
    (hclosed : b.files.closed = x.files.closed)
    (hsame : child.Calls child.name.display →
      b.files.get? (top ++ above ++ [child.name.display]) =
        x.files.get? (top ++ above ++ [child.name.display]))
    (hbudget : ((b.budget.failures + (fate.spoil (lost child.id)).counts.failures : Nat) : Int) ≤
      b.budget.threshold) :
    ¬Halt q root above ids child b failure b' := by
  intro hh
  rcases hb.verdict with ⟨-, hname⟩ | ⟨size, hfaces, hverdict⟩
  · exact not_halt_unusable hname hh
  obtain ⟨hdue, w, hanswer⟩ :=
    hh.of_faces (hfaces.of_foothold hfoot hfoot' hclosed (hsame hfaces.calls))
  rw [verdict_congr hinclude] at hdue
  rw [hdue] at hverdict
  have hfetch : ∀ answer, q.remote.fetch child
      (LocalDirectory.pathFor ⟨root, above⟩ child.name.display) b.other b.files = (answer, w) →
        answer = .ok (decide (fate.spoil (lost child.id) = .fetched)) := fun _ hanswer =>
    (hb.answer_spoil (y := b.position) hr hr' hloses hfoot hfoot' hclosed hsame hverdict hanswer).1
  rcases hanswer with hfailed | ⟨hmissed, hexceeded⟩
  · cases hfetch _ hfailed
  · have hspoilt : fate.spoil (lost child.id) ≠ .fetched :=
      of_decide_eq_false (Except.ok.inj (hfetch _ hmissed)).symm
    have hverdict' : (fate.spoil (lost child.id)).verdict? = some .due := by
      rw [Fate.verdict?_spoil, hverdict]
    have hone : (fate.spoil (lost child.id)).counts.failures = 1 := by
      cases hspoil : fate.spoil (lost child.id) with
      | missed => rfl
      | fetched => exact absurd hspoil hspoilt
      | unusable | upToDate | leftOut =>
        rw [hspoil] at hverdict'
        cases hverdict'
    have hless : b.budget.threshold < (b.budget.failures + 1 : Nat) := by
      simpa [Budget.exceeded] using hexceeded
    rw [hone] at hbudget
    omega

/-- A child that is not gone through. -/
lemma Course.isolated_leaf {rest : Tour} (hb : Befalls p root above child fate x x₁)
    (ha : Abreast lost root top above spoiled (.leaf child fate rest) x b)
    (hc' : Course q root storage (.child levels child) above ids b result b₁) :
    result = .ok () ∧
      Tracks q root storage levels above ids (Tour.spoil lost (.leaf child fate .done)) b b₁ ∧
      ∀ l ∉ spoiled ++ Tour.losses lost top above (.leaf child fate .done),
        b₁.files.get? l = x₁.files.get? l := by
  obtain ⟨hfoot, hfoot', hclear, hclosed, hsame, hbudget⟩ := ha
  have hplace : child.Calls child.name.display →
      b.files.get? (top ++ above ++ [child.name.display]) =
        x.files.get? (top ++ above ++ [child.name.display]) := fun hcalls =>
    hsame _ (hclear.unspoiled _ List.mem_cons_self _ hcalls)
  have hcounts : (Tour.spoil lost (.leaf child fate rest)).counts.failures =
    (fate.spoil (lost child.id)).counts.failures + (rest.spoil lost).counts.failures := rfl
  cases hc' with
  | halt hh =>
    exact absurd hh (not_halt_spoil (b := b.note (spot above ids) (.taken child)) hr hr' hloses
      hinclude hb hfoot hfoot' hclosed hplace (by rw [Account.note_budget]; omega))
  | through hcalls hfolder =>
    rcases hb.verdict with ⟨-, hname⟩ | ⟨_, hfaces, -⟩
    · exact absurd hcalls (not_calls hname)
    · rw [hfaces.file] at hfolder
      cases hfolder
  | deed hd =>
    obtain ⟨fate', htracks⟩ :
        ∃ fate', Tracks q root storage levels above ids (.leaf child fate' .done) b b₁ := hd.tracks
    have hmakes := htracks.makes
    generalize hposition : b₁.position = y at hmakes
    cases hmakes with
    | leaf hmeets hothers =>
      cases hothers
      obtain ⟨rfl, hleaves⟩ := hb.spoil hr hr' hloses hinclude hfoot hfoot' hclosed hplace hmeets
      rw [← hposition] at hleaves
      refine ⟨rfl, htracks, fun l hl => ?_⟩
      rw [List.mem_append, not_or] at hl
      refine hleaves l (hsame l hl.1) fun hfetched hlost heq => hl.2 ?_
      simp [Tour.losses, hfetched, hlost, heq]

include hlists hlists'

/-- **Losses do not spread.**  Where a first walk has made a tour, any second course makes the same
tour but for lost files, as long as the failures are tolerated.  It leaves the same files, except
where files were lost. -/
theorem Course.isolated (ht : Makes p root storage above ids t x x') (hheight : t.height ≤ levels)
    (ha : Abreast lost root top above spoiled t x b)
    (hc' : Course q root storage (.children levels t.children) above ids b result b') :
    result = .ok () ∧ Tracks q root storage levels above ids (t.spoil lost) b b' ∧
      ∀ l ∉ spoiled ++ t.losses lost top above, b'.files.get? l = x'.files.get? l := by
  -- along the first tour; what it has lost so far is spoiled for what comes after
  induction ht generalizing spoiled levels b b' result with
  | done =>
    cases hc' with
    | done => exact ⟨rfl, .done, by simpa [Tour.losses] using ha.same⟩
  | @leaf above ids child fate rest x x₁ x' hmeets hothers ih =>
    have hfirst : Makes p root storage above ids (.leaf child fate .done) x x₁ :=
      .leaf hmeets .done
    cases hc' with
    | stopped hc₁ => cases (Course.isolated_leaf hr hr' hloses hinclude hmeets ha hc₁).1
    | next hc₁ hc₂ =>
      obtain ⟨-, htracks₁, hsame₁⟩ := Course.isolated_leaf hr hr' hloses hinclude hmeets ha hc₁
      have ha₂ := Abreast.next hlists hlists' hr hr' hfirst htracks₁ hsame₁ ha
      obtain ⟨rfl, htracks₂, hsame₂⟩ := ih hheight ha₂ hc₂
      rw [List.append_assoc, ← Tour.losses_append] at hsame₂
      exact ⟨rfl, htracks₁.append htracks₂, hsame₂⟩
  | @folder above ids child below rest files w x x₁ x' hcalls hfolder houtside hmade hentered answer
      hinner hleft hothers ih₁ ih₂ =>
    obtain ⟨hbelow, hrest⟩ := Nat.max_le.mp hheight
    obtain ⟨hchildren, hfiles⟩ := hlists.eq_listing answer
    have hlistedFiles : (x.listed p w).files = files := hfiles
    have hfirst : Makes p root storage above ids (.folder child below .done) x x₁ :=
      .folder hcalls hfolder houtside hmade hentered answer hinner hleft .done
    obtain ⟨files', hmade', hdown⟩ := ha.down hcalls hmade hlistedFiles
    have hlisted : (below.spoil lost).children = h.listing storage (some child.id) := by
      rw [Tour.children_spoil]
      exact Except.ok.inj hchildren
    -- the second walk goes through the folder too, and what it loses below is lost for the rest
    have hthrough : ∀ {r b₁}, Course q root storage (.child levels child) above ids b r b₁ → _ :=
      fun hc₁ => Course.gone_through (P := fun final => ∀ l ∉ spoiled ++
        below.losses lost top (above ++ [child.name.display]), final.get? l = x₁.files.get? l)
          hlists' hr' hcalls hfolder houtside ha.second hmade' hlisted hbelow
          (fun hc hle hstart hbudget => ih₁ hle (hdown _ hstart hbudget)
            (Tour.children_spoil lost below ▸ hc)) hc₁
    cases hc' with
    | stopped hc₁ => cases (hthrough hc₁).1
    | next hc₁ hc₂ =>
      obtain ⟨-, htracks₁, hsame₁⟩ := hthrough hc₁
      have hlosses : below.losses lost top (above ++ [child.name.display]) =
          Tour.losses lost top above (.folder child below .done) := (List.append_nil _).symm
      rw [hlosses] at hsame₁
      have ha₂ := Abreast.next hlists hlists' hr hr' hfirst htracks₁ hsame₁ ha
      obtain ⟨rfl, htracks₂, hsame₂⟩ := ih₂ hrest ha₂ hc₂
      rw [List.append_assoc, ← Tour.losses_append] at hsame₂
      exact ⟨rfl, htracks₁.append htracks₂, hsame₂⟩

end Course

end Walk

/-! ## Runs -/

namespace Run

open Walk (Abreast Account Course Position openedSteps spot)

/-- The tours of a run as a single one. -/
def joined (tours : List (Storage × Tour)) : Tour := tours.foldr (fun x t => x.2.append t) .done

/-- What becomes of the tours of a run if files are lost. -/
def spoil (lost : Int → Bool) (tours : List (Storage × Tour)) : List (Storage × Tour) :=
  tours.map fun x => (x.1, x.2.spoil lost)

section Joined

variable (lost : Int → Bool) (tours : List (Storage × Tour))

lemma counts_joined : (joined tours).counts = total tours := by
  induction tours with
  | nil => rfl
  | cons x rest ih =>
    show (x.2.append (joined rest)).counts = x.2.counts + total rest
    rw [Tour.counts_append, ih]

lemma entries_joined (above : List String) :
    (joined tours).entries above = tours.flatMap fun x => x.2.entries above := by
  induction tours with
  | nil => rfl
  | cons x rest ih =>
    show (x.2.append (joined rest)).entries above = _
    rw [Tour.entries_append, ih, List.flatMap_cons]

lemma losses_joined (top : Location) (above : List String) :
    (joined tours).losses lost top above = tours.flatMap fun x => x.2.losses lost top above := by
  induction tours with
  | nil => rfl
  | cons x rest ih =>
    show (x.2.append (joined rest)).losses lost top above = _
    rw [Tour.losses_append, ih, List.flatMap_cons]

lemma joined_spoil : joined (spoil lost tours) = (joined tours).spoil lost := by
  induction tours with
  | nil => rfl
  | cons x rest ih =>
    show (x.2.spoil lost).append (joined (spoil lost rest)) = (x.2.append (joined rest)).spoil lost
    rw [Tour.spoil_append, ih]

/-- Lost files change the counts of a run as they change those of a walk. -/
lemma degraded_total : Statistics.Degraded (total tours) (total (spoil lost tours)) := by
  rw [← counts_joined, ← counts_joined, joined_spoil]
  exact Tour.degraded_spoil lost _

end Joined

variable {p : Plan σ} {q : Plan τ} {h : Hierarchy} {f f' : Reaction} {lost : Int → Bool}
  {top : Location} {tours : List (Storage × Tour)} {x x' : Position σ} {b b' : Account τ}
  {spoiled : List Location}

/-- What is asked for by the walks of a run. -/
lemma calls_record : calls (record p tours) = tours.flatMap fun x =>
    .listing x.1.id none :: x.2.calls p.destination x.1.id [] := by
  induction tours with
  | nil => rfl
  | cons x rest ih =>
    have hrecord : record p (x :: rest) = openedSteps x.1.id none (spot [] []) x.2.children
      (x.2.steps p.destination x.1.id [] []) ++ record p rest := rfl
    simp [hrecord, openedSteps, calls_cons, Step.call?, Tour.calls_steps, ih]

/-- Lost files are asked for all the same. -/
lemma calls_record_spoil (hdestination : q.destination = p.destination) :
    calls (record q (spoil lost tours)) = calls (record p tours) := by
  simp [calls_record, spoil, List.flatMap_map, hdestination]

section Rounds

variable (hlists : p.remote.Lists h) (hlists' : q.remote.Lists h) (hr : p.remote.Reacts f)
  (hr' : q.remote.Reacts f') (hloses : f.Loses lost f') (hq : q.Matches p)
  (hdepth : q.depth = p.depth)
include hlists hlists' hr hr' hloses hq hdepth

/-- The walk through a storage, with what the first run has still to do after it. -/
lemma isolated_walk {storage : Storage} {t rest : Tour} {w : World σ}
    {result : Except Walk.Stop Unit}
    (answer : p.remote.listChildren storage.id none x.other x.files = (.ok t.children, w))
    (ht : Walk.Makes p.walk p.destination storage.id [] [] t (x.listed p.walk w) x')
    (hheight : t.height < p.depth)
    (ha : Abreast lost p.destination top [] spoiled (t.append rest) x b)
    (hc' : Course q.walk q.destination storage.id (.container q.depth none) [] [] b.afresh
      result b') :
    result = .ok () ∧
      Abreast lost p.destination top [] (spoiled ++ t.losses lost top []) rest x' b' ∧
      b'.steps = (openedSteps storage.id none (spot [] []) t.children
        ((t.spoil lost).steps p.destination storage.id [] [])).reverse ++ b.steps ∧
      b'.statistics = (t.spoil lost).counts := by
  obtain ⟨hchildren, hfiles⟩ := hlists.eq_listing answer
  obtain ⟨levels, hlevels⟩ : ∃ levels, p.depth = levels + 1 := ⟨p.depth - 1, by omega⟩
  rw [hq.destination, hdepth, hlevels] at hc'
  cases hc' with
  | unlisted answer' => cases (hlists'.eq_listing answer').1
  | @listed _ _ _ _ _ children' w' _ _ answer' turns' =>
    obtain ⟨hchildren', hfiles'⟩ := hlists'.eq_listing answer'
    obtain rfl : children' = t.children := (Except.ok.inj hchildren').trans
      (Except.ok.inj hchildren).symm
    have ha₁ : Abreast lost p.destination top [] spoiled (t.append rest) (x.listed p.walk w)
        (b.afresh.listed q.walk (spot [] []) storage.id none t.children w') :=
      ha.moved hfiles hfiles' rfl
    obtain ⟨rfl, htracks, hsame⟩ := Walk.Course.isolated hlists hlists' hr hr' hloses
      hq.includeAbstract ht (by omega) ha₁.front turns'
    refine ⟨rfl, ha₁.next hlists hlists' hr hr' ht htracks hsame, ?_, ?_⟩
    · rw [htracks.steps]
      simp [openedSteps, Walk.Account.listed, Walk.Account.listing]
    · exact htracks.counts.trans (zero_add _)

/-- **Losses do not spread** from one storage to another. -/
theorem Rounds.isolated {result : Except Failure Unit} (ht : Makes p tours x x')
    (hheight : ∀ x ∈ tours, x.2.height < p.depth)
    (ha : Abreast lost p.destination top [] spoiled (joined tours) x b)
    (htold : ∀ s ∈ tours.map Prod.fst, q.untold? s = none)
    (hrounds : Rounds q (tours.map Prod.fst) b result b') :
    result = .ok () ∧ b'.steps = (record q (spoil lost tours)).reverse ++ b.steps ∧
      b'.statistics = b.statistics + total (spoil lost tours) ∧
      ∀ l ∉ spoiled ++ (joined tours).losses lost top [], b'.files.get? l = x'.files.get? l := by
  induction ht generalizing b spoiled with
  | done =>
    cases hrounds with
    | done => exact ⟨rfl, rfl, (add_zero _).symm, by simpa [joined, Tour.losses] using ha.same⟩
  | @next storage t rest w x x₁ x' answer walk _ ih =>
    rw [List.forall_mem_cons] at hheight
    rw [List.map_cons, List.forall_mem_cons] at htold
    cases hrounds with
    | untold huntold =>
      rw [htold.1] at huntold
      cases huntold
    | stopped _ walk' =>
      cases (isolated_walk hlists hlists' hr hr' hloses hq hdepth answer walk hheight.1 ha walk').1
    | @next _ _ _ b₁ _ _ _ walk' others' =>
      obtain ⟨-, ha₁, hsteps₁, hcounts₁⟩ :=
        isolated_walk hlists hlists' hr hr' hloses hq hdepth answer walk hheight.1 ha walk'
      have ha₂ : Abreast lost p.destination top [] (spoiled ++ t.losses lost top []) (joined rest)
          x₁ (b₁.since b) := ha₁.moved rfl rfl rfl
      obtain ⟨rfl, hsteps, hcounts, hsame⟩ := ih hheight.2 ha₂ htold.2 others'
      refine ⟨rfl, ?_, ?_, ?_⟩
      · rw [hsteps, Walk.Account.since_steps, hsteps₁]
        simp [record, spoil, hq.destination]
      · rw [hcounts, Walk.Account.since_statistics, hcounts₁, add_assoc]
        rfl
      · rwa [List.append_assoc, ← Tour.losses_append] at hsame

end Rounds

/-- A run that is to copy what another one has copied gets as far as its rounds, and it returns if
they end. -/
lemma Plan.Matches.rounds (hq : q.Matches p) (hlists' : q.remote.Lists h) (hdraws : q.Draws h)
    (habsent : ∀ id ∈ p.absent h.storages, ∃ text, storageText id = .ok text) {v : World τ}
    (hleads : v.files.Leads p.destination top) :
    ∃ result r v' b b', (start q).run v = (result, v') ∧
      (r = .ok () → result = .ok ⟨b'.statistics, (p.chosen h.storages).length⟩) ∧
      Rounds q (p.chosen h.storages) b r b' ∧ b'.Describes v' ∧ b.files = v.files ∧
      b.steps = v.steps ∧ b.statistics = {} ∧ b.budget = .ofThreshold q.maxFailures := by
  obtain ⟨result, v', b', hrun, hends, hdescribes⟩ := run_start q v
  rw [← hq.destination] at hleads
  obtain ⟨b, r, hfiles, hsteps, hstatistics, hbudget, hrounds, hreturns⟩ :=
    hends.makesRounds hlists' hdraws (hq.absent h.storages ▸ habsent)
      (Plan.checked_of_leads hleads)
  rw [hq.chosen] at hrounds hreturns
  exact ⟨result, r, v', b, b', hrun, hreturns, hrounds, hdescribes, hfiles, hsteps, hstatistics,
    hbudget⟩

/-- The places where a run asks for lost files. -/
def Forfeits (p : Plan σ) (h : Hierarchy) (lost : Int → Bool) (top : Location) (asked : List Call)
    (l : Location) : Prop :=
  ∃ s ∈ p.chosen h.storages, ∃ x ∈ h.census s.id p.depth none [],
    x.2.Calls x.2.name.display ∧ lost x.2.id = true ∧
      .fetching x.2 (LocalDirectory.pathFor ⟨p.destination, x.1⟩ x.2.name.display) ∈ asked ∧
        l = top ++ x.1 ++ [x.2.name.display]

/-- Files are lost at such places only. -/
lemma forfeits_of_mem (htoured : ∀ x ∈ tours, Toured p h x.1 x.2)
    (hstorages : tours.map Prod.fst = p.chosen h.storages) {l : Location}
    (hl : l ∈ (joined tours).losses lost top []) :
    Forfeits p h lost top (calls (record p tours)) l := by
  rw [losses_joined, List.mem_flatMap] at hl
  obtain ⟨x, hx, hl⟩ := hl
  obtain ⟨y, hy, hcalls, -, hlost, hplace, hcall⟩ :=
    Tour.exists_of_mem_losses (htoured x hx).isOf p.destination hl
  rw [(htoured x hx).entries_eq] at hy
  have hasked : .fetching y.2 (LocalDirectory.pathFor ⟨p.destination, y.1⟩ y.2.name.display) ∈
      calls (record p tours) := by
    rw [calls_record, List.mem_flatMap]
    exact ⟨x, hx, List.mem_cons_of_mem _ hcall⟩
  exact ⟨x.1, hstorages ▸ List.mem_map_of_mem hx, y, hy, hcalls, hlost, hasked, hplace⟩

/-- There are no more new failures than lost files are asked for. -/
lemma failures_spoil_le (p : Plan σ) (lost : Int → Bool) (tours : List (Storage × Tour)) :
    (total (spoil lost tours)).failures ≤
      (total tours).failures + (calls (record p tours)).countP (Call.isLost lost) := by
  induction tours with
  | nil => exact Nat.le_refl _
  | cons x rest ih =>
    have hhere := x.2.failures_spoil lost [] []
    have hasked := x.2.length_losses_le lost [] p.destination x.1.id []
    have htotal : (total (x :: rest)).failures = x.2.counts.failures + (total rest).failures := rfl
    have htotal' : (total (spoil lost (x :: rest))).failures =
      (x.2.spoil lost).counts.failures + (total (spoil lost rest)).failures := rfl
    rw [calls_record, List.flatMap_cons, List.countP_append, ← calls_record, List.countP_cons]
    simp only [Call.isLost]
    omega

/-- **Faults stay where they are.**  Suppose that a run returns, and that a second one starts from
the same files, over a device that lists the same.  A listing that fails is empty, so this lets the
second device fail to list what the first one lists as empty.  Moreover the second device loses
some files, and what it leaves at their places may be anything.  No file is to share its place with
another entry, no link is to stand below the destination, and the second run can draw and introduce
what the first one did.

If the failures of the first run and its requests for lost files are tolerated together, the second
run returns too.  It asks for the same, in the same order.  It leaves the same files, except where
the first run asked for lost ones, and it counts the same, except that some of what was fetched
could not be fetched. -/
theorem run_isolates (p : Plan σ) (q : Plan τ) (hq : q.Matches p) (hdraws : q.DrawsLike p)
    (hdepth : q.depth = p.depth) (hmax : q.maxFailures = p.maxFailures) {h : Hierarchy}
    (hlists : p.remote.Lists h) (hlists' : q.remote.Lists h) {f f' : Reaction}
    (hr : p.remote.Reacts f) (hr' : q.remote.Reacts f') {lost : Int → Bool}
    (hloses : f.Loses lost f')
    (hapart : ((p.chosen h.storages).flatMap fun s => h.census s.id p.depth none []).Pairwise Apart)
    {w w' : World σ} {top : Location} (hleads : w.files.Leads p.destination top)
    (hlinkFree : w.files.LinkFree top) {s : RunStatistics} (hrun : (start p).run w = (.ok s, w'))
    {new : List (Standing × Step)} (hnew : w'.steps = new ++ w.steps)
    (hfew : ((s.total.failures + (calls new).countP (Call.isLost lost) : Nat) : Int) ≤
      p.maxFailures) (v : World τ) (hv : v.files = w.files) :
    ∃ s' v' new', (start q).run v = (.ok s', v') ∧ v'.steps = new' ++ v.steps ∧
      calls new' = calls new ∧
      (∀ l, ¬Forfeits p h lost top (calls new) l → v'.files.get? l = w'.files.get? l) ∧
      s'.storages = s.storages ∧ s.total.Degraded s'.total := by
  obtain ⟨a', hends, hfiles, -, hsteps⟩ := ends_of_run hrun
  obtain ⟨habsent, a, hfiles₀, hsteps₀, hstatistics₀, -, hrounds, rfl⟩ := hends.rounds hlists
  obtain ⟨tours, hstorages, hmakes, hrecord, hcounts, hheight⟩ := hrounds.tracks rfl
  have hqdraws : q.Draws h := (hends.draws hlists).like hdraws hdepth (hq.chosen _)
  obtain ⟨result, r, v', b, b', hrun', hreturns, hrounds', ⟨hfiles', -, hsteps'⟩, hbfiles, hbsteps,
    hbstatistics, hbudget⟩ := hq.rounds hlists' hqdraws habsent (hv ▸ hleads)
  have htoured := hmakes.toured hlists hheight
  -- the steps of the first run are those of its tours
  obtain rfl : new = (record p tours).reverse := by
    rw [hsteps, hrecord, hsteps₀] at hnew
    exact (List.append_cancel_right hnew).symm
  have htotal : a'.statistics = total tours := by
    rw [hcounts, hstatistics₀]
    exact zero_add _
  have hentries : (joined tours).entries [] =
      (p.chosen h.storages).flatMap fun s => h.census s.id p.depth none [] := by
    rw [entries_joined, ← hstorages, List.flatMap_map]
    exact List.flatMap_congr fun x hx => (htoured x hx).entries_eq
  have hfoot : Foothold w.files p.destination top [] :=
    ⟨by simp, by simpa using hleads, hlinkFree⟩
  -- both runs start from the same files with all failures still to come
  have ha : Abreast lost p.destination top [] [] (joined tours) a.position b := by
    have hfiles₁ : a.position.files = w.files := hfiles₀
    have hbegun : b.files = a.position.files := hbfiles.trans (hv.trans hfiles₁.symm)
    refine ⟨hfiles₁ ▸ hfoot, (hbfiles.trans hv) ▸ hfoot, ⟨hentries ▸ hapart, by simp⟩,
      congrArg _ hbegun, ?_, ?_⟩
    · intro l _
      rw [hbegun]
    · have hfailures := failures_spoil_le p lost tours
      rw [← counts_joined, joined_spoil] at hfailures
      rw [calls_reverse, List.countP_reverse, htotal] at hfew
      dsimp only at hfew
      rw [hbudget, Budget.ofThreshold, hmax]
      show ((0 + _ : Nat) : Int) ≤ p.maxFailures
      omega
  have htold : ∀ s ∈ tours.map Prod.fst, q.untold? s = none := by
    rw [hstorages, ← hq.chosen]
    exact hqdraws.told
  rw [← hstorages] at hrounds'
  obtain ⟨rfl, hsteps₁, hcounts₁, hsame⟩ :=
    Rounds.isolated hlists hlists' hr hr' hloses hq hdepth hmakes hheight ha htold hrounds'
  rw [hreturns rfl] at hrun'
  refine ⟨_, v', (record q (spoil lost tours)).reverse, hrun', ?_, ?_, fun l hl => ?_, rfl, ?_⟩
  · rw [hsteps', hsteps₁, hbsteps]
  · rw [calls_reverse, calls_reverse, calls_record_spoil hq.destination]
  · rw [hfiles', hfiles]
    refine hsame l fun hmem => hl ?_
    have hforfeits := forfeits_of_mem htoured hstorages hmem
    simpa [Forfeits] using hforfeits
  · show Statistics.Degraded a'.statistics b'.statistics
    rw [htotal, hcounts₁, hbstatistics]
    have hzero : ({} : Statistics) + total (spoil lost tours) = total (spoil lost tours) :=
      zero_add _
    rw [hzero]
    exact degraded_total lost tours

/-- A device with three files, of which one cannot be fetched, and an empty folder. -/
def emptyDevice : InMemory :=
  { unreadableDevice with
    nodes := unreadableDevice.nodes ++ [⟨6, none, 7, .string "empty", .container, none, .null⟩]
    failingFetches := [4] }

/-- What it holds. -/
def emptyHierarchy : Hierarchy := emptyDevice.hierarchy [⟨7, .string "", .null, .null⟩]

/-- A run that copies it. -/
def emptyPlan : Plan (List String) := { samplePlan with remote := emptyDevice.remote }

/-- The same device, when the empty folder cannot be listed and one more file cannot be fetched. -/
def brokenDevice : InMemory := emptyDevice.broken [some 6] [2]

/-- A run that copies it. -/
def brokenPlan : Plan (List String) := { samplePlan with remote := brokenDevice.remote }

/-- The faults do not change anything but the file that is lost. -/
theorem run_isolates_sample :
    ∃ s' v' new', (start brokenPlan).run sampleWorld = (.ok s', v') ∧ v'.steps = new' ++ [] ∧
      calls new' = calls ((start emptyPlan).run sampleWorld).2.steps ∧
      (∀ l, ¬Forfeits emptyPlan emptyHierarchy ([2].contains ·) ["d"]
          (calls ((start emptyPlan).run sampleWorld).2.steps) l →
        v'.files.get? l = ((start emptyPlan).run sampleWorld).2.files.get? l) ∧
      s'.storages = 1 ∧ Statistics.Degraded ⟨2, 3, 2, 0, 1, 0, 0⟩ s'.total := by
  have hreturns : ((start emptyPlan).run sampleWorld).1.toOption =
      some ⟨⟨2, 3, 2, 0, 1, 0, 0⟩, 1⟩ := by
    decide +kernel
  have hlists : emptyDevice.remote.Lists emptyHierarchy := InMemory.lists rfl (by rfl)
  have hempty : ∀ storage, emptyDevice.childrenOf storage (some 6) = [] := by
    intro storage
    simp [InMemory.childrenOf, emptyDevice, unreadableDevice, sampleFolder, sampleFile]
  have hlists' : brokenDevice.remote.Lists emptyHierarchy := by
    have hbroken : brokenDevice.remote.Lists
        (brokenDevice.hierarchy [⟨7, .string "", .null, .null⟩]) := InMemory.lists rfl (by rfl)
    rwa [brokenDevice, InMemory.hierarchy_broken (by simpa using hempty)] at hbroken
  have hfew : ((calls ((start emptyPlan).run sampleWorld).2.steps).countP
      (Call.isLost ([2].contains ·)) : Int) = 1 := by
    decide +kernel
  have hdraws : brokenPlan.DrawsLike emptyPlan :=
    ⟨fun _ hdrawn => hdrawn, fun _ htold => htold⟩
  refine run_isolates emptyPlan brokenPlan ⟨rfl, rfl, rfl⟩ hdraws rfl rfl hlists hlists'
    InMemory.reacts InMemory.reacts (InMemory.loses_broken _ (by decide)) ?_ sampleWorld_leads
    sampleWorld_linkFree (returns_of_toOption hreturns) (List.append_nil _).symm ?_ sampleWorld rfl
  · exact pairwise_apart (by decide +kernel)
  · push_cast
    rw [hfew]
    decide

end Run

end Replica
