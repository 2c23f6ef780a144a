import LogQuery.Proofs.Independence
import LogQuery.Proofs.Simulation

/-!
# The Order of Fields

A record keeps its fields in the order in which they were read, and shows them in
that order when it is given out. No query can tell the order. Two ways lead from a
record into a pass: the value of a field, which is looked up by name, and the text
of the record, which is made of the fields after they have been sorted.

That sorting forgets the order needs the names to be distinct. Sorting is by name
alone, so of two fields with one name the order would be left as it is; but then
two fields that may stand on either side of each other are one and the same
(`sortFields_perm`), and a list has only one sorted form.

Records that read alike have equal passes, and equal passes commit the same, so
two runs over records that differ in the order of their fields go in step with
one past.

## Main definitions

* `LogRecord.SameFields`: Two records without a line hold the same fields.

## Theorems

* `sortFields_perm`: Fields with distinct names have one sorted form.
* `readsLike_of_sameFields`: No expression tells the order of fields.
* `inStep_sameFields`: No pass does.
* `field_order_unseen`: Two runs are the same up to the order of fields.
-/

namespace LogQuery

namespace LogRecord

/-- Neither record has a line, and they hold the same fields with the same values,
    in any order. -/
structure SameFields (r r' : LogRecord) : Prop where
  no_text : r.text = none
  no_text' : r'.text = none
  fields : r.fields.entries.Perm r'.fields.entries

theorem sortFields_sorted (fields : List (String × Value)) :
    (sortFields fields).Pairwise fun x y => x.1 ≤ y.1 := by
  have htrans : ∀ x y z : String × Value,
      decide (x.1 ≤ y.1) → decide (y.1 ≤ z.1) → decide (x.1 ≤ z.1) := by
    intro x y z hxy hyz
    exact decide_eq_true (String.le_trans (of_decide_eq_true hxy) (of_decide_eq_true hyz))
  have htotal : ∀ x y : String × Value, decide (x.1 ≤ y.1) || decide (y.1 ≤ x.1) := by
    intro x y
    rw [Bool.or_eq_true, decide_eq_true_eq, decide_eq_true_eq]
    exact String.le_total x.1 y.1
  exact (List.pairwise_mergeSort htrans htotal fields).imp of_decide_eq_true

/-- Fields with distinct names have one sorted form, in whatever order they are. -/
theorem sortFields_perm {xs ys : List (String × Value)} (hnodup : (xs.map Prod.fst).Nodup)
    (h : xs.Perm ys) : sortFields xs = sortFields ys := by
  have hperm : (sortFields xs).Perm (sortFields ys) :=
    (List.mergeSort_perm xs _).trans (h.trans (List.mergeSort_perm ys _).symm)
  refine List.Perm.eq_of_pairwise ?_ (sortFields_sorted xs) (sortFields_sorted ys) hperm
  intro x y hx hy hxy hyx
  -- Fields that may stand in either order have one name, so they are one field.
  have hname : x.1 = y.1 := String.le_antisymm hxy hyx
  have hx' : (x.1, x.2) ∈ xs := (List.mergeSort_perm xs _).mem_iff.mp hx
  have hy' : (x.1, y.2) ∈ xs := by
    rw [hname]
    exact h.mem_iff.mpr ((List.mergeSort_perm ys _).mem_iff.mp hy)
  rw [← lookupEntry_eq_some_iff hnodup] at hx' hy'
  exact Prod.ext hname (Option.some.inj (hx'.symm.trans hy'))

/-- No expression tells the order of fields. -/
theorem readsLike_of_sameFields {r r' : LogRecord} (h : r.SameFields r') : r.ReadsLike r' := by
  constructor
  · rw [render, render, h.no_text, h.no_text']
    simp only [sortFields_perm r.fields.nodup h.fields]
  · intro name
    have hfound : r.fields.get? name = r'.fields.get? name := by
      refine Option.ext fun value => ?_
      unfold Bindings.get?
      rw [lookupEntry_eq_some_iff r.fields.nodup, lookupEntry_eq_some_iff r'.fields.nodup]
      exact h.fields.mem_iff
    rw [get, get, hfound]

end LogRecord

/-- Over records with the same fields a query goes in step with itself, from one
    past to one past. -/
theorem CompiledQuery.inStep_sameFields (q : CompiledQuery) :
    q.InStep LogRecord.SameFields Eq Eq q := by
  constructor
  · rintro r r' a _ hfields rfl
    have hpass : q.pass r a = q.pass r' a :=
      pass_congr (LogRecord.readsLike_of_sameFields hfields) fun _ _ => rfl
    rw [hpass]
    exact ⟨rfl, rfl, rfl⟩
  · rintro a _ t _ rfl rfl
    rfl

/-- The order of fields has no part in what a query does. Take two lists of records
    without a line, and let the records at each place hold the same fields with the
    same values, in any order. Then the two runs drop the same places and give out
    the others with the same colors and the same variables in the same order, and
    they end with one and the same persistent scope. What is given out is again the
    same up to the order of fields. -/
theorem field_order_unseen (q : CompiledQuery) {xs ys : List LogRecord}
    (h : List.Forall₂ LogRecord.SameFields xs ys) :
    List.Forall₂ (Option.Rel (OutputRecord.Alike LogRecord.SameFields Eq))
        (q.start.feed xs).1 (q.start.feed ys).1 ∧
      List.Forall₂ (OutputRecord.Alike LogRecord.SameFields Eq)
        (q.run xs).records (q.run ys).records ∧
      (q.start.feed xs).2.persistent = (q.start.feed ys).2.persistent := by
  rcases QueryRun.feed_inStep q.inStep_sameFields h rfl with ⟨hanswers, hpersistent⟩
  exact ⟨hanswers, QueryRun.processAll_inStep q.inStep_sameFields h rfl, hpersistent⟩

/-- A record whose fields stand in the order of their names. -/
def tidyRecord : LogRecord := .ofFields [("a", .string "x"), ("level", .string "warn")]

/-- The same record with its fields the other way round. -/
def untidyRecord : LogRecord := .ofFields [("level", .string "warn"), ("a", .string "x")]

/-- A query that keeps a record only if one field stands behind another in its
    text. -/
def wholeTextQuery : Query :=
  ⟨[.branch ⟨.record, "x (?P<next>l)"⟩ [.colorBy (.field "level")] [.skipRecord]]⟩

/-- The two records are different. The query keeps the one whose fields are in
    order, and so it keeps the other one as well. -/
theorem field_order_unseen_untidyRecord :
    tidyRecord ≠ untidyRecord ∧
    ∃ compiled : CompiledQuery, wholeTextQuery.compile = .ok compiled ∧
      (compiled.pass tidyRecord .empty).outcome = .done ∧
      (compiled.pass tidyRecord .empty).color = some "warn" ∧
      List.Forall₂ (OutputRecord.Alike LogRecord.SameFields Eq)
        (compiled.run [tidyRecord]).records (compiled.run [untidyRecord]).records := by
  have hfields : LogRecord.SameFields tidyRecord untidyRecord := ⟨rfl, rfl, List.Perm.swap _ _ []⟩
  -- The fields are sorted already, so the record reads like one that has its text as a line.
  have hsorted : LogRecord.sortFields tidyRecord.fields.entries = tidyRecord.fields.entries :=
    List.mergeSort_of_pairwise (by decide)
  have hlike : tidyRecord.ReadsLike ⟨some "a=x level=warn", tidyRecord.fields⟩ := by
    refine ⟨?_, fun _ => rfl⟩
    have hnone : tidyRecord.text = none := rfl
    rw [LogRecord.render, hnone]
    simp only [hsorted]
    decide
  have hpass : (wholeTextQuery.compile.toOption.map fun compiled =>
      let p := compiled.pass ⟨some "a=x level=warn", tidyRecord.fields⟩ .empty
      (p.outcome, p.color)) = some (.done, some "warn") := by
    decide +kernel
  rcases Option.map_eq_some_iff.mp hpass with ⟨compiled, hc, hend⟩
  rcases Prod.mk.inj hend with ⟨houtcome, hcolor⟩
  rw [← CompiledQuery.pass_congr hlike fun _ _ => rfl] at houtcome hcolor
  exact ⟨by decide, compiled, toOption_eq_some_iff.mp hc, houtcome, hcolor,
    (field_order_unseen compiled (.cons hfields .nil)).2.1⟩

end LogQuery
