import LogQuery.Pattern.Cache
import LogQuery.Proofs.Bindings

/-!
# Shared Patterns Are Not Seen

Compilations that go on side by side take their steps in any order. Between the
lookup of one and its store, others may have compiled the same source, stored it,
emptied the cache or lost the lock. None of this can be seen in a result: every
compilation gets what its source compiles to, as if there were no cache.

The invariant has two parts. The cache is `Faithful` if each pattern in it is what
its source compiles to and there are no more of them than there is room for. A
compilation is `Sound` if what it holds is what its source compiles to. Neither
part would do without the other, since a lookup trusts the cache and a store
trusts the compilation. One step of one compilation keeps both (`advance_sound`),
whatever the state of the cache, so any order of steps does (`run_sound`).

That a compilation gets its result at all is a matter of counting. It has at most
three steps to take, each of its own steps brings it nearer to its end, and what
others do never sets it back (`getElem?_run`). No step waits for another one, not
even when the lock is lost.

## Main definitions

* `PatternCache.Faithful`: A cache holds nothing but what its sources compile to.
* `Compilation.Sound`: So does a compilation.
* `Compilation.stepsLeft`: How far a compilation is from its end.
* `SharedCompilations.Sound`: The invariant of compilations side by side.

## Theorems

* `faithful_store`: Storing a compiled pattern keeps a cache faithful.
* `advance_sound`: A step of a compilation keeps the invariant.
* `run_sound`: So does any sequence of events.
* `sources_run`: Compilations are numbered as they began.
* `getElem?_run`: Own steps bring a compilation to its end.
* `shared_patterns_transparent`: Sharing patterns is not seen.
-/

namespace LogQuery

/-! ### The cache -/

namespace PatternCache

/-- Each stored pattern is what its source compiles to, and there are no more of
    them than there is room for. -/
structure Faithful (cache : PatternCache) : Prop where
  compiled : ∀ source pattern, cache.patterns.get? source = some pattern →
    Pattern.compile? source = some pattern
  fits : cache.patterns.size ≤ capacity

theorem faithful_empty : empty.Faithful := ⟨nofun, Nat.zero_le _⟩

theorem compile_of_lookUp {cache : PatternCache} (h : cache.Faithful) {source : String}
    {pattern : Pattern} (hfound : cache.lookUp source = some pattern) :
    Pattern.compile? source = some pattern := by
  unfold lookUp at hfound
  by_cases hlost : cache.lockLost
  · rw [if_pos hlost] at hfound
    cases hfound
  · rw [if_neg hlost] at hfound
    exact h.compiled source pattern hfound

/-- Storing what a source compiles to keeps a cache faithful. The room is made
    before the pattern is stored, so the cache never holds one too many. -/
theorem faithful_store {cache : PatternCache} (h : cache.Faithful) {source : String}
    {pattern : Pattern} (hpattern : Pattern.compile? source = some pattern) :
    (cache.store source pattern).Faithful := by
  unfold store
  by_cases hlost : cache.lockLost
  · rw [if_pos hlost]
    exact h
  · rw [if_neg hlost]
    have hcompiled : ∀ kept : Bindings Pattern,
        (∀ other found, kept.get? other = some found → Pattern.compile? other = some found) →
        ∀ other found, (kept.set source pattern).get? other = some found →
          Pattern.compile? other = some found := by
      intro kept hkept other found hfound
      rw [Bindings.get?_set] at hfound
      by_cases hother : other = source
      · rw [if_pos hother] at hfound
        rw [hother, hpattern, hfound]
      · rw [if_neg hother] at hfound
        exact hkept other found hfound
    by_cases hfull : capacity ≤ cache.patterns.size
    · rw [if_pos hfull]
      exact ⟨hcompiled .empty nofun, Nat.le_trans (Bindings.size_set_le _ _ _) (by decide)⟩
    · rw [if_neg hfull]
      exact ⟨hcompiled cache.patterns h.compiled,
        Nat.le_trans (Bindings.size_set_le _ _ _) (Nat.lt_of_not_le hfull)⟩

end PatternCache

/-! ### One compilation -/

namespace Compilation

/-- The source that is compiled. -/
def source : Compilation → String
  | lookingUp source | compiling source | storing source _ | finished source _ => source

/-- What a compilation holds is what its source compiles to. -/
def Sound : Compilation → Prop
  | lookingUp _ | compiling _ => True
  | storing source pattern => Pattern.compile? source = some pattern
  | finished source result => result = Pattern.compile? source

/-- How many steps a compilation has to take at most. -/
def stepsLeft : Compilation → Nat
  | lookingUp _ => 3
  | compiling _ => 2
  | storing _ _ => 1
  | finished _ _ => 0

/-- A step of a compilation leaves it sound and the cache faithful. -/
theorem advance_sound {cache : PatternCache} (hcache : cache.Faithful) {c : Compilation}
    (h : c.Sound) : (c.advance cache).1.Sound ∧ (c.advance cache).2.Faithful := by
  cases c with
  | lookingUp source =>
      rw [advance]
      cases hfound : cache.lookUp source with
      | some pattern => exact ⟨(PatternCache.compile_of_lookUp hcache hfound).symm, hcache⟩
      | none => exact ⟨trivial, hcache⟩
  | compiling source =>
      rw [advance]
      cases hpattern : Pattern.compile? source with
      | some pattern => exact ⟨hpattern, hcache⟩
      | none => exact ⟨hpattern.symm, hcache⟩
  | storing source pattern => exact ⟨h.symm, PatternCache.faithful_store hcache h⟩
  | finished source result => exact ⟨h, hcache⟩

/-- A step goes on with the same source and comes nearer to the end, whatever it
    finds in the cache. -/
theorem advance_nearer (cache : PatternCache) (c : Compilation) :
    (c.advance cache).1.source = c.source ∧ (c.advance cache).1.stepsLeft ≤ c.stepsLeft - 1 := by
  cases c with
  | lookingUp source =>
      rw [advance]
      cases cache.lookUp source with
      | some pattern => exact ⟨rfl, Nat.zero_le _⟩
      | none => exact ⟨rfl, Nat.le_refl _⟩
  | compiling source =>
      rw [advance]
      cases Pattern.compile? source with
      | some pattern => exact ⟨rfl, Nat.le_refl _⟩
      | none => exact ⟨rfl, Nat.zero_le _⟩
  | storing source pattern => exact ⟨rfl, Nat.le_refl _⟩
  | finished source result => exact ⟨rfl, Nat.le_refl _⟩

/-- A sound compilation that has no step left has the result of its source. -/
theorem eq_finished {c : Compilation} (h : c.Sound) (hend : c.stepsLeft = 0) :
    c = .finished c.source (Pattern.compile? c.source) := by
  cases c with
  | finished source result => exact congrArg (finished source) h
  | lookingUp source | compiling source | storing source pattern => cases hend

theorem stepsLeft_le (c : Compilation) : c.stepsLeft ≤ 3 := by
  cases c <;> simp only [stepsLeft] <;> decide

end Compilation

/-! ### Compilations side by side -/

/-- The source with which an event begins a compilation. -/
def CompilationEvent.begun? : CompilationEvent → Option String
  | begins source => some source
  | advances _ | loseLock => none

namespace SharedCompilations

/-- The cache is faithful and every compilation is sound. -/
structure Sound (s : SharedCompilations) : Prop where
  cache : s.cache.Faithful
  compilations : ∀ c ∈ s.compilations, c.Sound

theorem start_sound : start.Sound := ⟨PatternCache.faithful_empty, nofun⟩

theorem run_cons (s : SharedCompilations) (event : CompilationEvent)
    (rest : List CompilationEvent) : s.run (event :: rest) = (s.take event).run rest := rfl

/-- The step of a compilation that there is. -/
theorem take_advances {s : SharedCompilations} {number : Nat} {c : Compilation}
    (h : s.compilations[number]? = some c) :
    s.take (.advances number) =
      ⟨(c.advance s.cache).2, s.compilations.set number (c.advance s.cache).1⟩ := by
  simp only [take, h]

/-- A compilation that has not begun takes no step. -/
theorem take_advances_of_none {s : SharedCompilations} {number : Nat}
    (h : s.compilations[number]? = none) : s.take (.advances number) = s := by
  simp only [take, h]

theorem take_sound {s : SharedCompilations} (h : s.Sound) (event : CompilationEvent) :
    (s.take event).Sound := by
  cases event with
  | begins source =>
      refine ⟨h.cache, fun c hc => ?_⟩
      rcases List.mem_append.mp hc with hold | hnew
      · exact h.compilations c hold
      · rw [List.mem_singleton.mp hnew]
        exact trivial
  | advances number =>
      cases hfound : s.compilations[number]? with
      | none =>
          rw [take_advances_of_none hfound]
          exact h
      | some c =>
          have hsound : c.Sound := h.compilations c (List.mem_of_getElem? hfound)
          rcases Compilation.advance_sound h.cache hsound with ⟨hnext, hcache⟩
          rw [take_advances hfound]
          refine ⟨hcache, fun c' hc' => ?_⟩
          rcases List.mem_or_eq_of_mem_set hc' with hold | rfl
          · exact h.compilations c' hold
          · exact hnext
  | loseLock => exact ⟨⟨h.cache.compiled, h.cache.fits⟩, h.compilations⟩

/-- The invariant holds behind any sequence of events. -/
theorem run_sound {s : SharedCompilations} (h : s.Sound) (events : List CompilationEvent) :
    (s.run events).Sound := by
  induction events generalizing s with
  | nil => exact h
  | cons event rest ih => exact ih (take_sound h event)

/-- An event leaves the sources of the compilations that have begun, in their
    places, and puts that of a new one behind them. -/
theorem sources_take (s : SharedCompilations) (event : CompilationEvent) :
    (s.take event).compilations.map Compilation.source =
      s.compilations.map Compilation.source ++ event.begun?.toList := by
  cases event with
  | begins source => exact List.map_append
  | advances number =>
      cases hfound : s.compilations[number]? with
      | none =>
          rw [take_advances_of_none hfound]
          exact (List.append_nil _).symm
      | some c =>
          rw [take_advances hfound]
          have hsource : (s.compilations.map Compilation.source)[number]? = some c.source := by
            rw [List.getElem?_map, hfound, Option.map_some]
          rcases List.getElem?_eq_some_iff.mp hsource with ⟨hlt, hat⟩
          simp only [CompilationEvent.begun?, Option.toList_none, List.append_nil]
          rw [List.map_set, (c.advance_nearer s.cache).1, ← hat, List.set_getElem_self]
  | loseLock => exact (List.append_nil _).symm

/-- Compilations are numbered as they began. -/
theorem sources_run (s : SharedCompilations) (events : List CompilationEvent) :
    (s.run events).compilations.map Compilation.source =
      s.compilations.map Compilation.source ++ events.filterMap CompilationEvent.begun? := by
  induction events generalizing s with
  | nil => exact (List.append_nil _).symm
  | cons event rest ih =>
      rw [run_cons, ih, sources_take, List.append_assoc, List.filterMap_cons]
      cases event.begun? <;> rfl

/-- An event brings the compilation to which it happens nearer to its end, and sets
    no other one back. -/
theorem getElem?_take {s : SharedCompilations} {number : Nat} {c : Compilation}
    (h : s.compilations[number]? = some c) (event : CompilationEvent) :
    ∃ c', (s.take event).compilations[number]? = some c' ∧ c'.source = c.source ∧
      c'.stepsLeft ≤ c.stepsLeft - [event].count (.advances number) := by
  cases event with
  | begins source =>
      rcases List.getElem?_eq_some_iff.mp h with ⟨hlt, _⟩
      refine ⟨c, ?_, rfl, Nat.le_refl _⟩
      rw [← h]
      exact List.getElem?_append_left hlt
  | advances other =>
      by_cases hother : other = number
      · subst hother
        rw [take_advances h, List.count_singleton_self]
        rcases List.getElem?_eq_some_iff.mp h with ⟨hlt, _⟩
        exact ⟨_, List.getElem?_set_self hlt, c.advance_nearer s.cache⟩
      · have hcount : [CompilationEvent.advances other].count (.advances number) = 0 := by
          rw [List.count_eq_zero, List.mem_singleton, CompilationEvent.advances.injEq]
          exact Ne.symm hother
        rw [hcount, Nat.sub_zero]
        cases hfound : s.compilations[other]? with
        | none =>
            rw [take_advances_of_none hfound]
            exact ⟨c, h, rfl, Nat.le_refl _⟩
        | some d =>
            rw [take_advances hfound]
            refine ⟨c, ?_, rfl, Nat.le_refl _⟩
            rw [List.getElem?_set_ne hother]
            exact h
  | loseLock => exact ⟨c, h, rfl, Nat.le_refl _⟩

/-- Each of its own steps brings a compilation nearer to its end, and no other event
    sets it back. -/
theorem getElem?_run {s : SharedCompilations} {number : Nat} {c : Compilation}
    (h : s.compilations[number]? = some c) (events : List CompilationEvent) :
    ∃ c', (s.run events).compilations[number]? = some c' ∧ c'.source = c.source ∧
      c'.stepsLeft ≤ c.stepsLeft - events.count (.advances number) := by
  induction events generalizing s c with
  | nil => exact ⟨c, h, rfl, Nat.le_refl _⟩
  | cons event rest ih =>
      rcases getElem?_take h event with ⟨next, hnext, hsource, hnearer⟩
      rcases ih hnext with ⟨last, hlast, hsource', hleft⟩
      refine ⟨last, hlast, hsource'.trans hsource, ?_⟩
      have hcount : (event :: rest).count (.advances number) =
          [event].count (.advances number) + rest.count (.advances number) := by
        rw [← List.singleton_append, List.count_append]
      omega

end SharedCompilations

/-- Sharing patterns is not seen. Let any number of compilations begin, take their
    steps in any order and lose the lock at any time. At every point each source in
    the cache stands with the pattern that it compiles to, no source is there that
    is rejected, and there are no more than 256. A compilation that has finished,
    has the source that it began with and exactly what this source compiles to. And
    every compilation that has begun does finish so, at the latest with its third
    step, whatever happens in between. -/
theorem shared_patterns_transparent (events : List CompilationEvent) :
    let s := SharedCompilations.start.run events
    let sources := events.filterMap CompilationEvent.begun?
    (∀ source pattern, s.cache.patterns.get? source = some pattern →
      Pattern.compile? source = some pattern) ∧
    (∀ source, Pattern.compile? source = none → source ∉ s.cache.patterns.keys) ∧
    s.cache.patterns.size ≤ 256 ∧
    (∀ (number : Nat) (source : String) (result : Option Pattern),
      s.compilations[number]? = some (.finished source result) →
      sources[number]? = some source ∧ result = Pattern.compile? source) ∧
    ∀ (number : Nat) (source : String) (later : List CompilationEvent),
      sources[number]? = some source → 3 ≤ later.count (.advances number) →
      (s.run later).compilations[number]? =
        some (.finished source (Pattern.compile? source)) := by
  intro s sources
  have hsound : s.Sound := SharedCompilations.run_sound SharedCompilations.start_sound events
  have hsources : s.compilations.map Compilation.source = sources :=
    SharedCompilations.sources_run .start events
  refine ⟨hsound.cache.compiled, ?_, hsound.cache.fits, ?_, ?_⟩
  · intro source hrejected hmem
    rcases Option.isSome_iff_exists.mp ((lookupEntry_isSome_iff _ _).mpr hmem) with
      ⟨pattern, hfound⟩
    rw [hsound.cache.compiled source pattern hfound] at hrejected
    cases hrejected
  · intro number source result hfinished
    refine ⟨?_, hsound.compilations _ (List.mem_of_getElem? hfinished)⟩
    rw [← hsources, List.getElem?_map, hfinished]
    rfl
  · intro number source later hbegun hsteps
    rw [← hsources, List.getElem?_map, Option.map_eq_some_iff] at hbegun
    rcases hbegun with ⟨c, hc, rfl⟩
    rcases SharedCompilations.getElem?_run hc later with ⟨last, hlast, hsource, hleft⟩
    have hlastSound : last.Sound :=
      (SharedCompilations.run_sound hsound later).compilations last (List.mem_of_getElem? hlast)
    have hend : last.stepsLeft = 0 := by
      have hmost := c.stepsLeft_le
      omega
    rw [hlast, Compilation.eq_finished hlastSound hend, hsource]

/-- Two compilations of one source miss each other in the cache, and a third one has
    a source that is rejected. -/
def racingEvents : List CompilationEvent :=
  [.begins "a", .begins "a", .begins "(", .advances 0, .advances 1, .advances 0, .advances 0]

/-- The lock is lost before the others have gone on. -/
def lateEvents : List CompilationEvent :=
  [.loseLock, .advances 2, .advances 1, .advances 2, .advances 1, .advances 2, .advances 1]

/-- The first compilation has finished and stored its pattern. The others finish
    without the cache, with the same pattern and with none. -/
theorem shared_patterns_transparent_racingEvents :
    let s := SharedCompilations.start.run racingEvents
    (∃ pattern, s.cache.patterns.get? "a" = some pattern ∧
      Pattern.compile? "a" = some pattern) ∧
    (∃ result, s.compilations[0]? = some (.finished "a" result) ∧
      result = Pattern.compile? "a") ∧
    (s.run lateEvents).compilations[1]? = some (.finished "a" (Pattern.compile? "a")) ∧
    (s.run lateEvents).compilations[2]? = some (.finished "(" none) := by
  intro s
  have hstate : (s.cache.patterns.contains "a", s.compilations.map fun c =>
      (c.source, c.stepsLeft)) = (true, [("a", 0), ("a", 2), ("(", 3)]) := by
    decide +kernel
  have hrejected : Pattern.compile? "(" = none :=
    Option.isNone_iff_eq_none.mp (by decide +kernel)
  rcases Prod.mk.inj hstate with ⟨hcached, hcompilations⟩
  rcases shared_patterns_transparent racingEvents with
    ⟨hcompiled, _, _, hfinished, hfinishes⟩
  rcases Option.isSome_iff_exists.mp hcached with ⟨pattern, hpattern⟩
  have hfirst : ∃ result, s.compilations[0]? = some (.finished "a" result) := by
    have hat := congrArg (fun entries => entries[0]?) hcompilations
    simp only [List.getElem?_map, List.getElem?_cons_zero, Option.map_eq_some_iff] at hat
    rcases hat with ⟨c, hc, hend⟩
    rw [hc]
    cases c <;> cases hend
    exact ⟨_, rfl⟩
  rcases hfirst with ⟨result, hresult⟩
  refine ⟨⟨pattern, hpattern, hcompiled "a" pattern hpattern⟩,
    ⟨result, hresult, (hfinished 0 "a" result hresult).2⟩,
    hfinishes 1 "a" lateEvents rfl (by decide), ?_⟩
  rw [← hrejected]
  exact hfinishes 2 "(" lateEvents rfl (by decide)

end LogQuery
