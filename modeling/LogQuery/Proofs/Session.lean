import LogQuery.Proofs.RunDrivers
import Mathlib.Data.List.DropRight
import Mathlib.Logic.Function.Basic

/-!
# Runs Side by Side

Many runs of one query can be under way at once, and whoever holds them may feed
them in any order and replace any of them by a fresh one. They share the query
and nothing else, so none of them can tell that the others are there.

A session is a family of runs under names, and a history of a session is a list
of events, each of which says to which run it happens. What counts for one run
is its own part of the history, from its last start on: `givenTo` reads that off
the history without looking at any run. `Mirrors` then says that every run of a
session is a fresh one that has been fed its part and nothing else.

One event keeps this (`mirrors_take`). For the run that it happens to, that is
the meaning of the event; for every other run it is the frame: neither the run
nor its part of the history changes. A history keeps it by induction, from
whatever has happened before.

## Main definitions

* `Session`: Runs of one query, by names.
* `Session.take`, `Session.takeAll`: What events make of a session.
* `givenTo`: The records given to a run since its last start.
* `Mirrors`: Every run has seen its part of a history and nothing else.

## Theorems

* `take_runs_of_ne`, `givenTo_concat_of_ne`: An event leaves the other runs, and
  their parts of the history, as they were.
* `mirrors_take`, `mirrors_takeAll`: Runs keep to their parts of the history.
* `getElem?_takeAll`: An answer is that of the session in front of its event.
* `session_isolates`: Every run does what it would do alone.
-/

namespace LogQuery

variable {ι : Type}

/-! ### Sessions -/

/-- What may happen next among runs that go by names. -/
inductive SessionEvent (ι : Type) where
  /-- The run with the name is fed a record. -/
  | feeds (name : ι) (record : LogRecord)
  /-- The run with the name is replaced by a fresh one. -/
  | restarts (name : ι)

/-- The run to which an event happens. -/
def SessionEvent.name : SessionEvent ι → ι
  | feeds name _ | restarts name => name

/-- Runs of one query, by names. -/
structure Session (ι : Type) where
  query : CompiledQuery
  runs : ι → QueryRun

/-- No run has seen a record. -/
def Session.start (q : CompiledQuery) : Session ι := ⟨q, fun _ => q.start⟩

variable [DecidableEq ι]

namespace Session

/-- What an event makes of a session. Gives the answer of the run that is fed, if
    one is fed; the answer is missing in turn if the record is dropped. -/
def take (s : Session ι) : SessionEvent ι → Option (Option OutputRecord) × Session ι
  | .feeds name record =>
    let (answer, run) := (s.runs name).process record
    (some answer, { s with runs := Function.update s.runs name run })
  | .restarts name => (none, { s with runs := Function.update s.runs name s.query.start })

/-- What a history makes of a session. Gives the answers, event by event. -/
def takeAll (s : Session ι) :
    List (SessionEvent ι) → List (Option (Option OutputRecord)) × Session ι
  | [] => ([], s)
  | event :: rest =>
    let (answer, s) := s.take event
    let (answers, s) := s.takeAll rest
    (answer :: answers, s)

theorem takeAll_cons (s : Session ι) (event : SessionEvent ι) (rest : List (SessionEvent ι)) :
    s.takeAll (event :: rest) =
      ((s.take event).1 :: ((s.take event).2.takeAll rest).1,
        ((s.take event).2.takeAll rest).2) := rfl

/-- The query of a session is that of all its runs, and it stays. -/
@[simp]
theorem take_query (s : Session ι) (event : SessionEvent ι) :
    (s.take event).2.query = s.query := by
  cases event with
  | feeds name record => rfl
  | restarts name => rfl

/-- An event leaves every run as it was but the one to which it happens. -/
theorem take_runs_of_ne (s : Session ι) {event : SessionEvent ι} {name : ι}
    (h : name ≠ event.name) : (s.take event).2.runs name = s.runs name := by
  cases event with
  | feeds other record => exact Function.update_of_ne h _ _
  | restarts other => exact Function.update_of_ne h _ _

theorem take_feeds_runs (s : Session ι) (name : ι) (record : LogRecord) :
    (s.take (.feeds name record)).2.runs name = ((s.runs name).process record).2 :=
  Function.update_self _ _ _

theorem take_restarts_runs (s : Session ι) (name : ι) :
    (s.take (.restarts name)).2.runs name = s.query.start :=
  Function.update_self _ _ _

/-- The answer to an event is that of the session in front of it. -/
theorem getElem?_takeAll (s : Session ι) (events : List (SessionEvent ι)) (m : Nat) :
    (s.takeAll events).1[m]? =
      events[m]?.map fun event => ((s.takeAll (events.take m)).2.take event).1 := by
  induction events generalizing s m with
  | nil => rfl
  | cons event rest ih =>
      -- The first answer is that to the session itself, the others are given behind it.
      rw [takeAll_cons]
      cases m with
      | zero => rfl
      | succ m =>
          rw [List.getElem?_cons_succ, List.getElem?_cons_succ, ih, List.take_succ_cons,
            takeAll_cons]

end Session

/-! ### The part of a run in a history -/

namespace SessionEvent

/-- Whether an event is a start of the run with the name. -/
def isStartOf (name : ι) : SessionEvent ι → Bool
  | feeds _ _ => false
  | restarts other => other = name

/-- The record that an event gives to the run with the name. -/
def recordFor? (name : ι) : SessionEvent ι → Option LogRecord
  | feeds other record => if other = name then some record else none
  | restarts _ => none

end SessionEvent

/-- The records that a history has given to a run since its last start, in
    order. -/
def givenTo (name : ι) (events : List (SessionEvent ι)) : List LogRecord :=
  (events.rtakeWhile fun event => !event.isStartOf name).filterMap (·.recordFor? name)

/-- A start is the end of what has been given before. -/
theorem givenTo_concat_restarts (name : ι) (events : List (SessionEvent ι)) :
    givenTo name (events ++ [.restarts name]) = [] := by
  have hstart : ¬ (!(SessionEvent.restarts name).isStartOf name) = true := by
    simp only [SessionEvent.isStartOf, decide_true, Bool.not_true, Bool.false_eq_true,
      not_false_eq_true]
  have hcut := List.rtakeWhile_concat_neg (fun event => !event.isStartOf name) events _ hstart
  rw [givenTo, hcut, List.filterMap_nil]

/-- An event that is no start comes behind what has been given before. -/
theorem givenTo_concat {name : ι} {event : SessionEvent ι} (h : event.isStartOf name = false)
    (events : List (SessionEvent ι)) :
    givenTo name (events ++ [event]) = givenTo name events ++ (event.recordFor? name).toList := by
  have hkept : (!event.isStartOf name) = true := by rw [h, Bool.not_false]
  have hlonger := List.rtakeWhile_concat_pos (fun event => !event.isStartOf name) events _ hkept
  rw [givenTo, givenTo, hlonger, List.filterMap_append, List.filterMap_cons]
  cases event.recordFor? name with
  | none => rfl
  | some record => rfl

theorem givenTo_concat_feeds (name : ι) (record : LogRecord) (events : List (SessionEvent ι)) :
    givenTo name (events ++ [.feeds name record]) = givenTo name events ++ [record] := by
  rw [givenTo_concat rfl, SessionEvent.recordFor?, if_pos rfl, Option.toList_some]

/-- What happens to another run is no part of the history of this one. -/
theorem givenTo_concat_of_ne {name : ι} {event : SessionEvent ι} (h : name ≠ event.name)
    (events : List (SessionEvent ι)) :
    givenTo name (events ++ [event]) = givenTo name events := by
  have hother : event.name ≠ name := fun he => h he.symm
  cases event with
  | feeds other record =>
      have hnone : (SessionEvent.feeds other record).recordFor? name = none := if_neg hother
      rw [givenTo_concat rfl, hnone, Option.toList_none, List.append_nil]
  | restarts other =>
      have hno : (SessionEvent.restarts other).isStartOf name = false := decide_eq_false hother
      rw [givenTo_concat hno, SessionEvent.recordFor?, Option.toList_none, List.append_nil]

/-! ### Keeping to one's part -/

/-- Every run of a session is a fresh one that has been fed its part of a
    history and nothing else. -/
structure Mirrors (q : CompiledQuery) (events : List (SessionEvent ι)) (s : Session ι) :
    Prop where
  query : s.query = q
  runs : ∀ name, s.runs name = (q.start.feed (givenTo name events)).2

theorem mirrors_start (q : CompiledQuery) : Mirrors q [] (Session.start q : Session ι) where
  query := rfl
  runs := fun _ => rfl

section

variable {q : CompiledQuery} {before : List (SessionEvent ι)} {s : Session ι}

/-- After one more event every run still keeps to its part of the history. -/
theorem mirrors_take (h : Mirrors q before s) (event : SessionEvent ι) :
    Mirrors q (before ++ [event]) (s.take event).2 where
  query := by rw [Session.take_query, h.query]
  runs := by
    intro name
    by_cases hname : name = event.name
    · cases event with
      | feeds other record =>
          obtain rfl : name = other := hname
          rw [Session.take_feeds_runs, givenTo_concat_feeds, QueryRun.feed_concat, h.runs]
      | restarts other =>
          obtain rfl : name = other := hname
          rw [Session.take_restarts_runs, givenTo_concat_restarts, QueryRun.feed_nil, h.query]
    · rw [Session.take_runs_of_ne s hname, givenTo_concat_of_ne hname, h.runs]

theorem mirrors_takeAll (h : Mirrors q before s) (events : List (SessionEvent ι)) :
    Mirrors q (before ++ events) (s.takeAll events).2 := by
  induction events generalizing before s with
  | nil =>
      rw [List.append_nil]
      exact h
  | cons event rest ih =>
      -- The event goes over to what has happened before.
      rw [Session.takeAll_cons, ← List.singleton_append, ← List.append_assoc]
      exact ih (mirrors_take h event)

/-- A run that keeps to its part of the history answers as a fresh one does to the
    last record of that part. -/
theorem answer_of_mirrors (h : Mirrors q before s) (name : ι) (record : LogRecord) :
    ∃ answer, (s.take (.feeds name record)).1 = some answer ∧
      (q.start.feed (givenTo name (before ++ [.feeds name record]))).1.getLast? = some answer := by
  refine ⟨((s.runs name).process record).1, rfl, ?_⟩
  rw [givenTo_concat_feeds, QueryRun.feed_concat, h.runs, List.getLast?_concat]

end

/-- Runs of one query do not interfere. Whatever happens in a session, and in
    whatever order, every run is at any time what a fresh run is that has been fed
    alone, in order, what this one was given since its last start; and whenever a
    run is fed, it answers what that fresh run answers to its last record. -/
theorem session_isolates (q : CompiledQuery) (events : List (SessionEvent ι)) :
    let session : Session ι := .start q
    (∀ (m : Nat) (name : ι), (session.takeAll (events.take m)).2.runs name =
      (q.start.feed (givenTo name (events.take m))).2) ∧
    ∀ (m : Nat) (name : ι) (record : LogRecord), events[m]? = some (.feeds name record) →
      ∃ answer, (session.takeAll events).1[m]? = some (some answer) ∧
        (q.start.feed (givenTo name (events.take (m + 1)))).1.getLast? = some answer := by
  intro session
  have hmirrors : ∀ m, Mirrors q (events.take m) (session.takeAll (events.take m)).2 := by
    intro m
    exact mirrors_takeAll (mirrors_start q) (events.take m)
  refine ⟨fun m name => (hmirrors m).runs name, fun m name record hevent => ?_⟩
  rcases answer_of_mirrors (hmirrors m) name record with ⟨answer, hgiven, hfresh⟩
  refine ⟨answer, ?_, ?_⟩
  · rw [Session.getElem?_takeAll, hevent, Option.map_some, hgiven]
  · rw [List.take_add_one, hevent]
    exact hfresh

/-- A query that colors each record by the one before it. -/
def previousQuery : CompiledQuery :=
  ⟨[.colorBy (.lastVarValue "previous"), .set "previous" .record]⟩

/-- Two runs that are fed in turns, the first of which is replaced on the way. -/
def twoRuns : List (SessionEvent Bool) :=
  [.feeds true (.ofText "0"), .feeds false (.ofText "1"), .restarts true,
    .feeds true (.ofText "2"), .feeds false (.ofText "3"), .feeds true (.ofText "4")]

/-- The last record is colored by the record that its own run was given before,
    though the other run has seen a later one. -/
theorem session_isolates_twoRuns :
    twoRuns[5]? = some (.feeds true (.ofText "4")) ∧
      ∃ answer, ((Session.start previousQuery).takeAll twoRuns).1[5]? = some (some answer) ∧
        answer.map (fun o => o.color) = some (some "2") := by
  refine ⟨rfl, ?_⟩
  rcases (session_isolates previousQuery twoRuns).2 5 true (.ofText "4") rfl with
    ⟨answer, hgiven, hfresh⟩
  refine ⟨answer, hgiven, ?_⟩
  have hcolor : ((previousQuery.start.feed (givenTo true (twoRuns.take 6))).1.getLast?.map
      fun answer => answer.map fun o => o.color) = some (some (some "2")) := by
    decide +kernel
  rw [hfresh] at hcolor
  exact Option.some.inj hcolor

end LogQuery
