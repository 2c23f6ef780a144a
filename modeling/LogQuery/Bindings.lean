/-!
# Ordered Bindings

A finite map from names to values that remembers the order in which its names
were first bound. Fields of a record, variables of a scope and the captures of
a pass are all of this shape, and every output that lists them shows their
order, so the order belongs to the type.

Binding a name again replaces the value where the name already stands. The
names are pairwise distinct by construction, so no reader ever has to ask
which of two entries wins.

## Main definitions

* `Bindings`: Distinct names with their values, in order of first binding.
* `Bindings.set`: Binds a name, in place if it is already bound.
* `Bindings.get?`: The value of a name.
* `Bindings.ofList`: Binds the pairs of a list from the left.
* `Bindings.override`: Replays one set of bindings over another.

## Theorems

* `keys_set`: Binding a name keeps the names and appends a new one.
* `get?_set`: Reading a name back gives the value bound last.
-/

namespace LogQuery

/-- The value of the first entry with the given name. -/
def lookupEntry {α : Type} (name : String) : List (String × α) → Option α
  | [] => none
  | (key, value) :: rest => if key = name then some value else lookupEntry name rest

/-- Replaces the value of the first entry with the given name, or appends a
    new entry when there is none. -/
def setEntry {α : Type} (name : String) (value : α) : List (String × α) → List (String × α)
  | [] => [(name, value)]
  | (key, old) :: rest =>
    if key = name then (key, value) :: rest else (key, old) :: setEntry name value rest

/-- Writing an entry leaves the names as they are if the name is among them,
    and otherwise appends it. -/
theorem map_fst_setEntry {α : Type} (name : String) (value : α) (entries : List (String × α)) :
    (setEntry name value entries).map Prod.fst =
      if name ∈ entries.map Prod.fst then entries.map Prod.fst
      else entries.map Prod.fst ++ [name] := by
  induction entries with
  | nil => simp [setEntry]
  | cons entry rest ih =>
    obtain ⟨key, old⟩ := entry
    by_cases h : key = name
    · simp [setEntry, h]
    · have h' : ¬ name = key := fun e => h e.symm
      simp only [setEntry, if_neg h, List.map_cons, ih, List.mem_cons, h', false_or]
      split <;> simp

theorem nodup_setEntry {α : Type} (name : String) (value : α) {entries : List (String × α)}
    (h : (entries.map Prod.fst).Nodup) : ((setEntry name value entries).map Prod.fst).Nodup := by
  rw [map_fst_setEntry]
  split
  · exact h
  · next hmem =>
    rw [List.nodup_append]
    refine ⟨h, by simp, ?_⟩
    intro a ha b hb
    rw [List.mem_singleton] at hb
    rintro rfl
    exact hmem (hb ▸ ha)

theorem lookupEntry_setEntry {α : Type} (name other : String) (value : α)
    (entries : List (String × α)) :
    lookupEntry other (setEntry name value entries) =
      if other = name then some value else lookupEntry other entries := by
  induction entries with
  | nil => simp [setEntry, lookupEntry, eq_comm]
  | cons entry rest ih =>
    obtain ⟨key, old⟩ := entry
    by_cases h : key = name
    · subst h
      by_cases ho : key = other
      · subst ho; simp [setEntry, lookupEntry]
      · have ho' : ¬ other = key := fun e => ho e.symm
        simp [setEntry, lookupEntry, ho, ho']
    · simp only [setEntry, if_neg h, lookupEntry, ih]
      by_cases ho : key = other
      · subst ho; simp [h]
      · simp [ho]

/-- Distinct names with their values, in the order of first binding. -/
structure Bindings (α : Type) where
  /-- The names and values, in order. -/
  entries : List (String × α)
  /-- No name occurs twice. -/
  nodup : (entries.map Prod.fst).Nodup
deriving DecidableEq

namespace Bindings

variable {α : Type}

/-- No name is bound. -/
def empty : Bindings α := ⟨[], List.nodup_nil⟩

instance : Inhabited (Bindings α) := ⟨empty⟩

/-- Two sets of bindings with the same entries in the same order are equal. -/
@[ext]
theorem ext {a b : Bindings α} (h : a.entries = b.entries) : a = b := by
  cases a; cases b; simpa using h

/-- The bound names, in order of first binding. -/
def keys (b : Bindings α) : List String := b.entries.map Prod.fst

/-- How many names are bound. -/
def size (b : Bindings α) : Nat := b.entries.length

def isEmpty (b : Bindings α) : Bool := b.entries.isEmpty

/-- The value of a name, if it is bound. -/
def get? (b : Bindings α) (name : String) : Option α := lookupEntry name b.entries

def contains (b : Bindings α) (name : String) : Bool := (b.get? name).isSome

/-- Binds a name: in place if it is bound already, at the end if not. -/
def set (b : Bindings α) (name : String) (value : α) : Bindings α :=
  ⟨setEntry name value b.entries, nodup_setEntry name value b.nodup⟩

/-- Replays the bindings of a list over `b`, from the left. -/
def setAll (b : Bindings α) (pairs : List (String × α)) : Bindings α :=
  pairs.foldl (fun acc pair => acc.set pair.1 pair.2) b

/-- The bindings that a list of pairs makes: of a repeated name the first
    position and the last value stay. -/
def ofList (pairs : List (String × α)) : Bindings α := empty.setAll pairs

/-- Replays the bindings of `new` over `old`. -/
def override (old new : Bindings α) : Bindings α := old.setAll new.entries

/-- Whether both bind the same names to values that agree, in any order. -/
def agrees (same : α → α → Bool) (a b : Bindings α) : Bool :=
  a.size == b.size && a.entries.all fun entry =>
    match b.get? entry.1 with
    | some value => same entry.2 value
    | none => false

theorem keys_set (b : Bindings α) (name : String) (value : α) :
    (b.set name value).keys = if name ∈ b.keys then b.keys else b.keys ++ [name] :=
  map_fst_setEntry name value b.entries

theorem get?_set (b : Bindings α) (name other : String) (value : α) :
    (b.set name value).get? other = if other = name then some value else b.get? other :=
  lookupEntry_setEntry name other value b.entries

@[simp]
theorem get?_empty (name : String) : (empty : Bindings α).get? name = none := rfl

end Bindings

end LogQuery
