import Mathlib.Tactic.Common
import Replica.Proofs.Components
/-!
# Histories of a trail

A trail is used by pushing and popping, and some of that is refused: names that are no components,
and pops at the destination.  Whatever was done to it, the trail holds the names that were pushed
and not yet popped, and its path tells them all.

* **Moves.**  `Trail.perform` makes a move, and `Trail.Move.Does` says what it can do to the names
  held.  `Trail.after` makes a list of moves from the empty trail.
* **Matches.**  `Trail.Settled` are the moves that pop what they push and nothing else.  They leave
  every trail as it is (`Trail.Settled.run`), so a pop takes off the last name with settled moves
  behind it, and there is no other one that it could take off (`Trail.exists_push_of_after`).
* **Paths.**  The pieces of the path are the names (`Trail.splitAt_pathOf`), so that the path
  determines the trail.
* **Trails.**  `Trail.after_stacks` puts these together.
-/

namespace Replica.Trail

variable {t : Trail} {name : String} {names : List String}

/-! ## Moves -/

/-- A move on a trail. -/
inductive Move where
  /-- A name is pushed. -/
  | push (name : String)
  /-- The last name is popped. -/
  | pop

/-- What a move answers, and the trail behind it.  A move that is refused leaves the trail as it
is. -/
def perform (t : Trail) : Move → Except TrailFault (Option String) × Trail
  | .push name =>
    match t.push name with
    | .ok pushed => (.ok none, pushed)
    | .error fault => (.error fault, t)
  | .pop =>
    match t.pop with
    | .ok (name, popped) => (.ok (some name), popped)
    | .error fault => (.error fault, t)

/-- A move with the names held before, what is answered, and the names held behind it. -/
inductive Move.Does :
    Move → List String → Except TrailFault (Option String) → List String → Prop where
  | pushed {name : String} {names : List String} (usable : isSegment name = true) :
    Does (.push name) names (.ok none) (names ++ [name])
  | refused {name : String} {names : List String} (unusable : isSegment name = false) :
    Does (.push name) names (.error (.invalidName name)) names
  | popped {name : String} {names : List String} :
    Does .pop (names ++ [name]) (.ok (some name)) names
  | empty : Does .pop [] (.error .emptyPop) []

lemma perform_push (h : isSegment name = true) :
    t.perform (.push name) = (.ok none, ⟨t.segments ++ [name]⟩) := by
  simp [perform, push, h]

lemma perform_push_refused (h : isSegment name = false) :
    t.perform (.push name) = (.error (.invalidName name), t) := by
  simp [perform, push, h]

lemma perform_pop : perform ⟨names ++ [name]⟩ .pop = (.ok (some name), ⟨names⟩) := by
  simp [perform, pop]

lemma does_perform (t : Trail) (m : Move) :
    m.Does t.segments (t.perform m).1 (t.perform m).2.segments := by
  cases m with
  | push name =>
    rcases hname : isSegment name with _ | _
    · rw [perform_push_refused hname]
      exact .refused hname
    · rw [perform_push hname]
      exact .pushed hname
  | pop =>
    rcases t with ⟨segments⟩
    rcases List.eq_nil_or_concat segments with rfl | ⟨front, last, rfl⟩
    · exact .empty
    · rw [List.concat_eq_append, perform_pop]
      exact .popped

/-- The trail behind a list of moves. -/
def run (t : Trail) (moves : List Move) : Trail := moves.foldl (fun t m => (t.perform m).2) t

/-- The trail behind moves that start at the destination. -/
def after (moves : List Move) : Trail := run empty moves

@[simp] lemma run_nil (t : Trail) : t.run [] = t := rfl

@[simp] lemma run_cons (t : Trail) (m : Move) (moves : List Move) :
    t.run (m :: moves) = (t.perform m).2.run moves := rfl

@[simp] lemma run_append (t : Trail) (moves moves' : List Move) :
    t.run (moves ++ moves') = (t.run moves).run moves' := List.foldl_append

lemma after_concat (moves : List Move) (m : Move) :
    after (moves ++ [m]) = ((after moves).perform m).2 := run_append empty moves [m]

lemma Move.Does.usable {m : Move} {answer : Except TrailFault (Option String)}
    {held held' : List String} (h : m.Does held answer held')
    (husable : ∀ n ∈ held, isSegment n = true) : ∀ n ∈ held', isSegment n = true := by
  cases h with
  | pushed usable => exact usable_concat husable usable
  | refused => exact husable
  | popped => exact fun n hn => husable n (List.mem_append_left _ hn)
  | empty => exact husable

lemma usable_run (h : ∀ n ∈ t.segments, isSegment n = true) (moves : List Move) :
    ∀ n ∈ (t.run moves).segments, isSegment n = true := by
  induction moves generalizing t with
  | nil => exact h
  | cons m moves ih => exact ih ((does_perform t m).usable h)

lemma usable_after (moves : List Move) : ∀ n ∈ (after moves).segments, isSegment n = true :=
  usable_run (fun _ hn => absurd hn List.not_mem_nil) moves

/-! ## Matches -/

/-- Moves that pop what they push, and nothing else. -/
inductive Settled : List Move → Prop where
  /-- Nothing is done. -/
  | nil : Settled []
  /-- A push is refused. -/
  | refused {name : String} {rest : List Move} (unusable : isSegment name = false)
    (after : Settled rest) : Settled (.push name :: rest)
  /-- A name is pushed, and popped again after moves that have settled. -/
  | matched {name : String} {inner rest : List Move} (usable : isSegment name = true)
    (within : Settled inner) (after : Settled rest) :
    Settled (.push name :: (inner ++ .pop :: rest))

/-- **Settled moves leave a trail as it is.** -/
lemma Settled.run {moves : List Move} (h : Settled moves) (t : Trail) : t.run moves = t := by
  induction h generalizing t with
  | nil => rfl
  | refused unusable _ ih => rw [run_cons, perform_push_refused unusable, ih]
  | matched usable _ _ within after =>
    rw [run_cons, perform_push usable, run_append, within, run_cons, perform_pop, after]

lemma Settled.append {moves moves' : List Move} (h : Settled moves) (h' : Settled moves') :
    Settled (moves ++ moves') := by
  induction h with
  | nil => exact h'
  | refused unusable _ ih => exact .refused unusable ih
  | @matched name inner rest usable within _ _ ih =>
    rw [List.cons_append, List.append_assoc, List.cons_append]
    exact .matched usable within ih

/-- **The last name of a trail was pushed by the last move with settled moves behind it**, and the
names in front of it are those that were held before that move. -/
lemma exists_push_of_after {moves : List Move} (h : (after moves).segments = names ++ [name]) :
    ∃ before between, moves = before ++ .push name :: between ∧ isSegment name = true ∧
      Settled between ∧ (after before).segments = names := by
  -- by induction on the number of moves, from the last move on: a pop leads to an earlier push, and
  -- what stood below the name popped was pushed before that
  induction hlength : moves.length using Nat.strongRecOn generalizing moves names name with
  | ind length ih =>
    rcases List.eq_nil_or_concat moves with rfl | ⟨earlier, m, rfl⟩
    · simp [after, empty] at h
    rw [List.concat_eq_append] at h hlength ⊢
    have hshort : earlier.length < length := by
      rw [← hlength, List.length_append, List.length_singleton]
      omega
    have hdoes := does_perform (after earlier) m
    rw [after_concat] at h
    generalize hheld : (after earlier).segments = held at hdoes
    generalize ((after earlier).perform m).2.segments = held' at hdoes h
    generalize ((after earlier).perform m).1 = answer at hdoes
    cases hdoes with
    | @pushed pushed _ usable =>
      obtain ⟨rfl, rfl⟩ : held = names ∧ pushed = name := by
        simpa using List.append_inj' h rfl
      exact ⟨earlier, [], rfl, usable, .nil, hheld⟩
    | @refused refused _ unusable =>
      obtain ⟨before, between, rfl, hname, hsettled, hbefore⟩ := ih _ hshort (hheld.trans h) rfl
      exact ⟨before, between ++ [.push refused], by simp, hname,
        hsettled.append (.refused unusable .nil), hbefore⟩
    | @popped top =>
      obtain ⟨middle, within, rfl, htop, hwithin, hmiddle⟩ := ih _ hshort hheld rfl
      have hshorter : middle.length < length := by
        rw [List.length_append] at hshort
        omega
      obtain ⟨before, between, rfl, hname, hbetween, hbefore⟩ :=
        ih _ hshorter (hmiddle.trans h) rfl
      exact ⟨before, between ++ .push top :: (within ++ [.pop]), by simp, hname,
        hbetween.append (.matched htop hwithin .nil), hbefore⟩
    | empty => simp at h

lemma perform_pop_after_iff {moves : List Move} :
    (after moves).perform .pop = (.ok (some name), t) ↔
      ∃ before between, moves = before ++ .push name :: between ∧ isSegment name = true ∧
        Settled between ∧ after before = t := by
  constructor
  · intro h
    have hdoes := does_perform (after moves) .pop
    rw [h] at hdoes
    generalize hheld : (after moves).segments = held at hdoes
    rcases t with ⟨names⟩
    cases hdoes
    obtain ⟨before, between, hmoves, hname, hsettled, hbefore⟩ := exists_push_of_after hheld
    exact ⟨before, between, hmoves, hname, hsettled, congrArg Trail.mk hbefore⟩
  · rintro ⟨before, between, rfl, hname, hsettled, rfl⟩
    rw [after, run_append, run_cons, perform_push hname, hsettled.run, perform_pop]
    rfl

/-! ## Paths -/

lemma toList_pathOf_cons (n : String) (rest : List String) :
    (pathOf (n :: rest)).toList = n.toList ++ separator :: (pathOf rest).toList := by
  simp [pathOf, separator]

/-- **The path of a trail tells its names**: they are the pieces, but for the last one, which is
empty. -/
lemma splitAt_pathOf (h : ∀ n ∈ names, separator ∉ n.toList) :
    Text.splitAt separator (pathOf names).toList = names.map String.toList ++ [[]] := by
  induction names with
  | nil => rfl
  | cons n rest ih =>
    have hn : Text.splitAt separator n.toList = [n.toList] :=
      Text.splitAt_of_not_mem (h n List.mem_cons_self)
    have hrest := ih fun m hm => h m (List.mem_cons_of_mem n hm)
    rw [toList_pathOf_cons, Text.splitAt_append, hn, hrest]
    rfl

lemma count_pathOf (h : ∀ n ∈ names, separator ∉ n.toList) :
    (pathOf names).toList.count separator = names.length := by
  induction names with
  | nil => rfl
  | cons n rest ih =>
    have hn : n.toList.count separator = 0 :=
      List.count_eq_zero_of_not_mem (h n List.mem_cons_self)
    have hrest := ih fun m hm => h m (List.mem_cons_of_mem n hm)
    rw [toList_pathOf_cons, List.count_append, List.count_cons_self, hn, hrest, Nat.zero_add,
      List.length_cons]

lemma separator_not_mem_after (moves : List Move) :
    ∀ n ∈ (after moves).segments, separator ∉ n.toList := by
  intro n hn
  obtain ⟨-, -, -, hseparator, -⟩ := isSegment_iff.mp (usable_after moves n hn)
  exact hseparator

/-- The names of a trail, read off its path. -/
def namesIn (path : String) : List String :=
  (Text.splitAt separator path.toList).dropLast.map String.ofList

lemma namesIn_path (moves : List Move) : namesIn (after moves).path = (after moves).segments := by
  rw [namesIn, path, splitAt_pathOf (separator_not_mem_after moves), List.dropLast_concat,
    List.map_map]
  simp [Function.comp_def]

/-! ## Trails -/

/-- What a trail has to be behind the moves that lead to it. -/
structure Stacks (moves : List Move) (t : Trail) : Prop where
  /-- A name that is no component is refused, and so is a pop of nothing, and both change nothing;
  other names are added at the end and taken off there. -/
  does : ∀ m : Move, m.Does t.segments (t.perform m).1 (t.perform m).2.segments
  /-- What a pop takes off is the last name that was pushed and not yet popped. -/
  last : ∀ name t', t.perform .pop = (.ok (some name), t') ↔
    ∃ before between, moves = before ++ .push name :: between ∧ isSegment name = true ∧
      Settled between ∧ after before = t'
  /-- Every name is a component. -/
  usable : ∀ n ∈ t.segments, isSegment n = true
  /-- The pieces of the path are the names and an empty one. -/
  pieces : Text.splitAt separator t.path.toList = t.segments.map String.toList ++ [[]]
  /-- The names can be read off the path. -/
  names : namesIn t.path = t.segments
  /-- There are as many names as separators. -/
  depth : t.depth = t.path.toList.count separator

/-- **A trail is a stack of usable names, and its path tells which.**  Behind any moves, a push of a
name that is no component and a pop at the destination are refused and leave the trail as it is; any
other push adds its name, and any other pop takes off the last name that was pushed and not yet
popped.  All names held are usable.  They are the pieces of the path without the empty one at its
end, as many as there are separators, so that trails of the same path are the same. -/
theorem after_stacks :
    (∀ moves, Stacks moves (after moves)) ∧
      ∀ moves moves', (after moves).path = (after moves').path → after moves = after moves' := by
  constructor
  · intro moves
    exact
      { does := does_perform (after moves)
        last := fun name t' => perform_pop_after_iff
        usable := usable_after moves
        pieces := splitAt_pathOf (separator_not_mem_after moves)
        names := namesIn_path moves
        depth := (count_pathOf (separator_not_mem_after moves)).symm }
  · intro moves moves' hpath
    have hsegments : (after moves).segments = (after moves').segments := by
      rw [← namesIn_path moves, hpath, namesIn_path moves']
    exact congrArg Trail.mk hsegments

/-- Two names are pushed and the second one is popped, and in between a pop and two names are
refused. -/
def sampleMoves : List Move :=
  [.pop, .push "a", .push "b", .push "b/c", .pop, .push ".."]

/-- The trail is the one of a single push, and a pop takes that name off. -/
theorem after_stacks_sample :
    after sampleMoves = after [.push "a"] ∧ namesIn "a/" = ["a"] ∧
      (after sampleMoves).perform .pop = (.ok (some "a"), after [.pop]) := by
  obtain ⟨hstacks, hinjective⟩ := after_stacks
  have hsame : after sampleMoves = after [.push "a"] := hinjective _ _ (by decide)
  have hbetween : Settled [.push "b", .push "b/c", .pop, .push ".."] :=
    @Settled.matched "b" [.push "b/c"] [.push ".."] (by decide) (.refused (by decide) .nil)
      (.refused (by decide) .nil)
  refine ⟨hsame, (hstacks [.push "a"]).names, ?_⟩
  exact ((hstacks sampleMoves).last "a" _).mpr
    ⟨[.pop], [.push "b", .push "b/c", .pop, .push ".."], rfl, by decide, hbetween, rfl⟩

end Replica.Trail
