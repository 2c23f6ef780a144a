/-!
# Outcomes

When a computation that can fail has a result, by the way it is put together
from others. A reader of a proof can so take a result apart into the results of
the parts.

Where only a property of the result is wanted, `Ensures` goes the other way: it is
put together from the parts and never asks whether there is a result.

## Main definitions

* `Ensures`: The result has a property, if there is one.

## Theorems

* `bind_eq_ok`: Success of two computations in a row.
* `toOption_bind`, `toOption_eq_some_iff`: The same with the errors left out.
* `map_eq_ok`, `mapError_eq_ok`: Success under a change of the result or of the
  error.
* `getElem?_of_mapM`: Where a result of a list comes from.
* `Ensures.bind`, `Ensures.map`, `ensures_foldlM`: What a computation ensures, from
  what its parts ensure.
-/

namespace LogQuery

/-- Two computations in a row succeed exactly if both do. -/
theorem bind_eq_ok {ε α β : Type} {x : Except ε α} {f : α → Except ε β} {b : β} :
    x >>= f = .ok b ↔ ∃ a, x = .ok a ∧ f a = .ok b := by
  cases x with
  | error e =>
      constructor
      · intro h
        cases h
      · rintro ⟨a, h, _⟩
        cases h
  | ok a =>
      constructor
      · intro h
        exact ⟨a, rfl, h⟩
      · rintro ⟨a', h, hf⟩
        cases h
        exact hf

/-- Of two computations in a row only the results count. -/
theorem toOption_bind {ε α β : Type} (x : Except ε α) (f : α → Except ε β) :
    (x >>= f).toOption = x.toOption.bind fun a => (f a).toOption := by
  cases x <;> rfl

theorem toOption_eq_some_iff {ε α : Type} {x : Except ε α} {a : α} :
    x.toOption = some a ↔ x = .ok a := by
  cases x with
  | error e => exact ⟨nofun, nofun⟩
  | ok b => exact ⟨fun h => congrArg Except.ok (Option.some.inj h), fun h => h ▸ rfl⟩

theorem map_eq_ok {α β ε : Type} {f : α → β} {result : Except ε α} {b : β}
    (h : result.map f = .ok b) : ∃ a, result = .ok a ∧ f a = b := by
  cases result with
  | error e => cases h
  | ok a =>
      cases h
      exact ⟨a, rfl, rfl⟩

theorem mapError_eq_ok {ε ε' α : Type} {result : Except ε α} {f : ε → ε'} {a : α} :
    result.mapError f = .ok a ↔ result = .ok a := by
  cases result with
  | error e => exact ⟨nofun, nofun⟩
  | ok b => rw [show (Except.ok b).mapError f = .ok b from rfl, Except.ok.injEq, Except.ok.injEq]

/-- Every result of a list that succeeds in all of its items comes from one of them. -/
theorem getElem?_of_mapM {ε α β : Type} {f : α → Except ε β} {items : List α} {results : List β}
    (h : items.mapM f = .ok results) {b : β} (hb : b ∈ results) :
    ∃ (i : Nat) (a : α), items[i]? = some a ∧ f a = .ok b := by
  induction items generalizing results with
  | nil =>
      cases h
      exact absurd hb List.not_mem_nil
  | cons item rest ih =>
      rw [List.mapM_cons] at h
      rcases bind_eq_ok.mp h with ⟨first, hfirst, h⟩
      rcases bind_eq_ok.mp h with ⟨others, hothers, h⟩
      cases h
      rcases List.mem_cons.mp hb with rfl | hb
      · exact ⟨0, item, rfl, hfirst⟩
      · rcases ih hothers hb with ⟨i, a, ha, hf⟩
        exact ⟨i + 1, a, ha, hf⟩

/-! ### What a result ensures -/

section

variable {ε α β : Type} {P : α → Prop} {Q : β → Prop}

/-- The result has a property, if there is one. -/
def Ensures (P : α → Prop) : Except ε α → Prop
  | .ok a => P a
  | .error _ => True

theorem ensures_iff {x : Except ε α} : Ensures P x ↔ ∀ a, x = .ok a → P a := by
  cases x with
  | error e => exact ⟨nofun, fun _ => trivial⟩
  | ok a => exact ⟨fun h b hb => Except.ok.inj hb ▸ h, fun h => h a rfl⟩

theorem Ensures.mono {P' : α → Prop} {x : Except ε α} (h : Ensures P x) (hP : ∀ a, P a → P' a) :
    Ensures P' x := by
  cases x with
  | error e => trivial
  | ok a => exact hP a h

theorem Ensures.and {P' : α → Prop} {x : Except ε α} (h : Ensures P x) (h' : Ensures P' x) :
    Ensures (fun a => P a ∧ P' a) x := by
  cases x with
  | error e => trivial
  | ok a => exact ⟨h, h'⟩

/-- What the second of two computations ensures may rest on the result of the first. -/
theorem Ensures.bind {x : Except ε α} {f : α → Except ε β} (h : Ensures P x)
    (hf : ∀ a, P a → Ensures Q (f a)) : Ensures Q (x >>= f) := by
  cases x with
  | error e => trivial
  | ok a => exact hf a h

theorem Ensures.map {x : Except ε α} {f : α → β} (h : Ensures (fun a => Q (f a)) x) :
    Ensures Q (x.map f) := by
  cases x with
  | error e => trivial
  | ok a => exact h

/-- What every step of a loop preserves holds at its end. -/
theorem ensures_foldlM {step : α → β → Except ε α} {items : List β}
    (h : ∀ a, P a → ∀ item ∈ items, Ensures P (step a item)) {a : α} (ha : P a) :
    Ensures P (items.foldlM step a) := by
  induction items generalizing a with
  | nil => exact ha
  | cons item rest ih =>
      rw [List.foldlM_cons]
      refine (h a ha item List.mem_cons_self).bind fun b hb => ?_
      exact ih (fun a ha item hitem => h a ha item (List.mem_cons_of_mem _ hitem)) hb

end

end LogQuery
