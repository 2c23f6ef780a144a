import LogQuery.Bindings
import LogQuery.Pattern

/-!
# Shared Patterns

Compiling a pattern is expensive, so compilations that go on side by side may
share the patterns that have been accepted. A compilation first looks its
source up, then compiles it if it was not there, and then stores what it got.
Only the first and the last step touch the cache, each of them under a lock,
and other compilations may take any steps in between.

The cache is only ever a shortcut. It is emptied when it is full, since
whoever got a pattern out of it keeps that pattern; and when the lock cannot
be had any more, because somebody failed while holding it, compilations go on
without the cache.

## Main definitions

* `PatternCache`: Accepted patterns by their sources.
* `Compilation.advance`: The next step of a compilation.
* `SharedCompilations.run`: Compilations side by side, for any order of their
  steps.
-/

namespace LogQuery

/-- Accepted patterns by their sources, behind a lock. -/
structure PatternCache where
  patterns : Bindings Pattern
  /-- Whether the lock cannot be had any more. -/
  lockLost : Bool

namespace PatternCache

/-- The cache before the first compilation. -/
def empty : PatternCache := ⟨.empty, false⟩

/-- How many patterns there is room for. -/
def capacity : Nat := 256

/-- The pattern stored for a source, unless there is none to be had. -/
def lookUp (cache : PatternCache) (source : String) : Option Pattern :=
  if cache.lockLost then none else cache.patterns.get? source

/-- Stores a pattern, after making room for it if the cache is full. -/
def store (cache : PatternCache) (source : String) (pattern : Pattern) : PatternCache :=
  if cache.lockLost then cache
  else
    let kept := if capacity ≤ cache.patterns.size then .empty else cache.patterns
    { cache with patterns := kept.set source pattern }

end PatternCache

/-- How far a compilation has got. -/
inductive Compilation where
  | lookingUp (source : String)
  | compiling (source : String)
  | storing (source : String) (pattern : Pattern)
  /-- The result is missing if the source has been rejected. Why it has been is not told. -/
  | finished (source : String) (result : Option Pattern)

namespace Compilation

/-- The next step of a compilation. Between two steps others may have changed
    the cache. -/
def advance (cache : PatternCache) : Compilation → Compilation × PatternCache
  | lookingUp source =>
    match cache.lookUp source with
    | some pattern => (finished source (some pattern), cache)
    | none => (compiling source, cache)
  | compiling source =>
    match Pattern.compile? source with
    | some pattern => (storing source pattern, cache)
    | none => (finished source none, cache)
  | storing source pattern => (finished source (some pattern), cache.store source pattern)
  | finished source result => (finished source result, cache)

end Compilation

/-- What may happen next among compilations that go on side by side. -/
inductive CompilationEvent where
  /-- Another compilation begins. -/
  | begins (source : String)
  /-- The compilation with the given number takes its next step. -/
  | advances (number : Nat)
  | loseLock
deriving DecidableEq, Repr

/-- Compilations that go on side by side, numbered as they began. -/
structure SharedCompilations where
  cache : PatternCache
  compilations : List Compilation

namespace SharedCompilations

/-- No compilation has begun. -/
def start : SharedCompilations := ⟨.empty, []⟩

/-- What an event makes of the compilations. -/
def take (s : SharedCompilations) : CompilationEvent → SharedCompilations
  | .begins source => { s with compilations := s.compilations ++ [.lookingUp source] }
  | .advances number =>
    match s.compilations[number]? with
    | some compilation =>
      let (next, cache) := compilation.advance s.cache
      ⟨cache, s.compilations.set number next⟩
    | none => s
  | .loseLock => { s with cache.lockLost := true }

/-- What a sequence of events makes of the compilations. -/
def run (s : SharedCompilations) (events : List CompilationEvent) : SharedCompilations :=
  events.foldl take s

end SharedCompilations

end LogQuery
