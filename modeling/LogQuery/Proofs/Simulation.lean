import LogQuery.Proofs.RunDrivers
import Mathlib.Data.List.Forall2

/-!
# Runs in Step

A statement that compares two runs speaks of all their records, and yet only one
record has to be looked at to prove it. If two passes that see alike records and
alike pasts end alike, then what they commit makes the pasts alike again, and the
runs go on in step for as long as their records do.

What alike means is different from one statement to the next: two records may
hold the same fields in another order, two scopes may be the same up to one name.
So it is a parameter. The past of a pass and what the pass itself binds have
relations of their own, since a commit joins the two and a statement may ask less
of the one than of the other. Outcome and color are simply equal.

## Main definitions

* `Pass.Alike`, `OutputRecord.Alike`: Passes and outputs up to relations of their
  parts.
* `CompiledQuery.InStep`: Alike records and pasts have alike passes.

## Theorems

* `output?_alike`: Alike passes give out alike records, or both give none.
* `feed_inStep`: Runs in step answer every record alike.
* `processAll_inStep`: Their outputs are alike, one by one.
-/

namespace LogQuery

variable {records : LogRecord → LogRecord → Prop} {past own : Scope → Scope → Prop}

/-- Two passes end in the same way, with the same color and with variables that
    are related. -/
structure Pass.Alike (own : Scope → Scope → Prop) (p p' : Pass) : Prop where
  outcome : p.outcome = p'.outcome
  color : p.color = p'.color
  transient : own p.transient p'.transient

/-- Two outputs have the same color, and related records and variables. -/
structure OutputRecord.Alike (records : LogRecord → LogRecord → Prop)
    (own : Scope → Scope → Prop) (o o' : OutputRecord) : Prop where
  record : records o.record o'.record
  color : o.color = o'.color
  vars : own o.vars o'.vars

/-- The passes of two queries over related records are alike as long as the pasts
    are related, and what they commit leaves the pasts related. -/
structure CompiledQuery.InStep (records : LogRecord → LogRecord → Prop)
    (past own : Scope → Scope → Prop) (q q' : CompiledQuery) : Prop where
  pass : ∀ {r r' : LogRecord} {a a' : Scope}, records r r' → past a a' →
    (q.pass r a).Alike own (q'.pass r' a')
  commit : ∀ {a a' t t' : Scope}, past a a' → own t t' → past (a.commit t) (a'.commit t')

/-- Where two lists of answers correspond, so do the outputs among them. -/
theorem forall₂_reduceOption {α β : Type} {R : α → β → Prop} {xs : List (Option α)}
    {ys : List (Option β)} (h : List.Forall₂ (Option.Rel R) xs ys) :
    List.Forall₂ R xs.reduceOption ys.reduceOption := by
  induction h with
  | nil => exact .nil
  | cons hhead _ ih =>
      cases hhead with
      | none => exact ih
      | some hvalue => exact .cons hvalue ih

namespace QueryRun

/-- Alike passes give out alike records, or give out nothing, both of them. -/
theorem output?_alike {p p' : Pass} {r r' : LogRecord} (hpass : p.Alike own p')
    (hrecord : records r r') :
    Option.Rel (OutputRecord.Alike records own) (output? r p) (output? r' p') := by
  have houtcome := hpass.outcome
  unfold output?
  cases h : p'.outcome with
  | done =>
      rw [h] at houtcome
      simp only [houtcome]
      exact .some ⟨hrecord, hpass.color, hpass.transient⟩
  | skipped =>
      rw [h] at houtcome
      simp only [houtcome]
      exact .none

/-- Runs of queries that go in step answer related records alike, each in its
    place, and their pasts stay related. -/
theorem feed_inStep {q q' : CompiledQuery} (h : q.InStep records past own q')
    {xs ys : List LogRecord} (hrecords : List.Forall₂ records xs ys) {a a' : Scope}
    (hpast : past a a') :
    List.Forall₂ (Option.Rel (OutputRecord.Alike records own)) (feed ⟨q, a⟩ xs).1
        (feed ⟨q', a'⟩ ys).1 ∧
      past (feed ⟨q, a⟩ xs).2.persistent (feed ⟨q', a'⟩ ys).2.persistent := by
  -- Each record finds other pasts, and these are related as the first ones are.
  induction hrecords generalizing a a' with
  | nil => exact ⟨.nil, hpast⟩
  | cons hrecord _ ih =>
      have hpass := h.pass hrecord hpast
      rcases ih (h.commit hpast hpass.transient) with ⟨hanswers, hlater⟩
      rw [feed_cons, feed_cons]
      exact ⟨.cons (output?_alike hpass hrecord) hanswers, hlater⟩

/-- Runs of queries that go in step give out as many records, alike one by one. -/
theorem processAll_inStep {q q' : CompiledQuery} (h : q.InStep records past own q')
    {xs ys : List LogRecord} (hrecords : List.Forall₂ records xs ys) {a a' : Scope}
    (hpast : past a a') :
    List.Forall₂ (OutputRecord.Alike records own) (processAll ⟨q, a⟩ xs).1
      (processAll ⟨q', a'⟩ ys).1 := by
  rw [processAll_eq_feed, processAll_eq_feed]
  exact forall₂_reduceOption (feed_inStep h hrecords hpast).1

end QueryRun

end LogQuery
