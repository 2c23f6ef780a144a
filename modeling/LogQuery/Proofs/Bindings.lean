import LogQuery.Scope

/-!
# Laws of Ordered Bindings

What a set of bindings looks like after a list of pairs has been replayed over
it. Two questions are asked about it, and each has an answer that does not
mention the replay: which names are bound and in which order, and what a name
is bound to.

The order is that of first occurrence, so it is `List.eraseDups` of all names
ever bound. The value is that of the last pair with the name, which is
`lastEntry`; reading from the end is what separates it from `lookupEntry`, and
on lists whose names are distinct, such as the entries of bindings, the two
agree.

A commit replays one set of bindings over another, so both answers carry over
to it. Together they say everything: bindings with the same names in the same
order and the same values are equal (`ext_of_keys`), and what is known about
names and values one by one becomes an equation between bindings. It shows that a
list may be replayed as it is or as the bindings that it makes, and so that
replays can be bracketed in any way.

## Main definitions

* `lastEntry`: The value of the last pair with a name.
* `Bindings.erase`: Bindings without the entry of a name.

## Theorems

* `keys_setAll`, `get?_setAll`: The names and values after a replay.
* `keys_setAll_eq_append`: The names that were there, and those that are new.
* `ofList_entries`: Bindings are what their entries make.
* `keys_ofList`, `get?_ofList`: The same for a replay over nothing.
* `keys_override`, `get?_override`: The same for a commit.
* `ext_of_keys`: Names in their order and values determine bindings.
* `override_ofList`: Replaying a list is replaying what it makes.
* `override_override`: Two replays are one.
* `erase_set_self`, `erase_set_of_ne`, `erase_setAll`, `erase_override`: Leaving out a
  name before and after a change.
-/

namespace LogQuery

variable {α : Type}

/-! ### First and last entries -/

/-- The value of the last entry with the given name. -/
def lastEntry (name : String) (pairs : List (String × α)) : Option α :=
  lookupEntry name pairs.reverse

@[simp]
theorem lastEntry_nil (name : String) : lastEntry name ([] : List (String × α)) = none := rfl

theorem lookupEntry_append (name : String) (xs ys : List (String × α)) :
    lookupEntry name (xs ++ ys) = (lookupEntry name xs).or (lookupEntry name ys) := by
  induction xs with
  | nil =>
      simp only [List.nil_append, lookupEntry, Option.none_or]
  | cons x rest ih =>
      rcases x with ⟨key, value⟩
      by_cases h : key = name
      · simp only [List.cons_append, lookupEntry, if_pos h, Option.some_or]
      · simp only [List.cons_append, lookupEntry, if_neg h, ih]

/-- A later list is asked before an earlier one. -/
theorem lastEntry_append (name : String) (xs ys : List (String × α)) :
    lastEntry name (xs ++ ys) = (lastEntry name ys).or (lastEntry name xs) := by
  unfold lastEntry
  rw [List.reverse_append, lookupEntry_append]

theorem lastEntry_cons (name key : String) (value : α) (rest : List (String × α)) :
    lastEntry name ((key, value) :: rest) =
      (lastEntry name rest).or (if key = name then some value else none) := by
  rw [← List.singleton_append, lastEntry_append]
  rfl

theorem lookupEntry_isSome_iff (name : String) (pairs : List (String × α)) :
    (lookupEntry name pairs).isSome ↔ name ∈ pairs.map Prod.fst := by
  induction pairs with
  | nil =>
      simp only [lookupEntry, Option.isSome_none, List.map_nil, List.not_mem_nil,
        Bool.false_eq_true]
  | cons pair rest ih =>
      rcases pair with ⟨key, value⟩
      by_cases h : key = name
      · rw [lookupEntry, if_pos h, List.map_cons, h]
        simp only [Option.isSome_some, List.mem_cons_self]
      · have hne : ¬ name = key := fun he => h he.symm
        simp only [lookupEntry, if_neg h, ih, List.map_cons, List.mem_cons, hne, false_or]

/-- Where no name occurs twice, an entry is found under its name. -/
theorem lookupEntry_eq_some_iff {pairs : List (String × α)} (h : (pairs.map Prod.fst).Nodup)
    {name : String} {value : α} : lookupEntry name pairs = some value ↔ (name, value) ∈ pairs := by
  induction pairs with
  | nil => exact ⟨nofun, nofun⟩
  | cons pair rest ih =>
      rcases pair with ⟨key, held⟩
      rw [List.map_cons, List.nodup_cons] at h
      by_cases hk : key = name
      · -- The name is not among the rest, so only this entry can be meant.
        have hrest : (name, value) ∉ rest := by
          intro hmem
          exact h.1 (List.mem_map.mpr ⟨(name, value), hmem, hk.symm⟩)
        rw [lookupEntry, if_pos hk, List.mem_cons, Option.some.injEq, Prod.mk.injEq, hk]
        simp only [true_and, hrest, or_false, eq_comm]
      · have hne : ¬ name = key := fun he => hk he.symm
        rw [lookupEntry, if_neg hk, ih h.2, List.mem_cons, Prod.mk.injEq]
        simp only [hne, false_and, false_or]

/-- Where no name occurs twice, its first entry is its last one. -/
theorem lastEntry_of_nodup (name : String) (pairs : List (String × α))
    (h : (pairs.map Prod.fst).Nodup) : lastEntry name pairs = lookupEntry name pairs := by
  induction pairs with
  | nil =>
      rfl
  | cons pair rest ih =>
      rcases pair with ⟨key, value⟩
      rw [List.map_cons, List.nodup_cons] at h
      rw [lastEntry_cons, ih h.2]
      by_cases hk : key = name
      · -- The name is not among the rest, so nothing there hides this entry.
        have hnone : lookupEntry name rest = none := by
          rw [← Option.not_isSome_iff_eq_none, lookupEntry_isSome_iff, ← hk]
          exact h.1
        rw [hnone, if_pos hk, Option.none_or, lookupEntry, if_pos hk]
      · rw [if_neg hk, Option.or_none, lookupEntry, if_neg hk]

/-- A new name goes to the end. -/
theorem setEntry_of_not_mem {name : String} {entries : List (String × α)}
    (h : name ∉ entries.map Prod.fst) (value : α) :
    setEntry name value entries = entries ++ [(name, value)] := by
  induction entries with
  | nil => rfl
  | cons entry rest ih =>
      rcases entry with ⟨key, old⟩
      rw [List.map_cons, List.mem_cons, not_or] at h
      rw [setEntry, if_neg (Ne.symm h.1), ih h.2, List.cons_append]

/-- An entry that is written twice has what was written last. -/
theorem setEntry_setEntry (name : String) (value other : α) (entries : List (String × α)) :
    setEntry name other (setEntry name value entries) = setEntry name other entries := by
  induction entries with
  | nil => simp only [setEntry, if_true]
  | cons entry rest ih =>
      rcases entry with ⟨key, old⟩
      by_cases h : key = name
      · simp only [setEntry, if_pos h]
      · simp only [setEntry, if_neg h, ih]

/-- An entry that is written is not seen once its name is left out. -/
theorem filter_setEntry_self (name : String) (value : α) (entries : List (String × α)) :
    (setEntry name value entries).filter (fun entry => entry.1 != name) =
      entries.filter fun entry => entry.1 != name := by
  induction entries with
  | nil => simp only [setEntry, List.filter_cons, bne_self_eq_false, Bool.false_eq_true, if_false]
  | cons entry rest ih =>
      rcases entry with ⟨key, old⟩
      by_cases h : key = name
      · -- The entry that is written over is the one that is left out.
        simp only [setEntry, h, if_true, List.filter_cons, bne_self_eq_false,
          Bool.false_eq_true, if_false]
      · simp only [setEntry, if_neg h, List.filter_cons, ih]

/-- To leave out a name and to write an entry of another are two things that do not
    get in each other's way. -/
theorem filter_setEntry_of_ne {name other : String} (h : other ≠ name) (value : α)
    (entries : List (String × α)) :
    (setEntry other value entries).filter (fun entry => entry.1 != name) =
      setEntry other value (entries.filter fun entry => entry.1 != name) := by
  induction entries with
  | nil => simp only [setEntry, List.filter_cons, bne_iff_ne, ne_eq, h, not_false_eq_true,
      if_true, List.filter_nil]
  | cons entry rest ih =>
      rcases entry with ⟨key, old⟩
      by_cases hkey : key = other
      · -- The entry that is written over is one of those that stay.
        have hstays : (key != name) = true := bne_iff_ne.mpr (hkey ▸ h)
        simp only [setEntry, if_pos hkey, List.filter_cons, hstays, if_true]
      · cases hstays : key != name with
        | true => simp only [setEntry, if_neg hkey, List.filter_cons, hstays, if_true, ih]
        | false =>
            simp only [setEntry, if_neg hkey, List.filter_cons, hstays, Bool.false_eq_true,
              if_false, ih]

/-- To leave out a name hides no other. -/
theorem lookupEntry_filter_of_ne {name other : String} (h : other ≠ name)
    (entries : List (String × α)) :
    lookupEntry other (entries.filter fun entry => entry.1 != name) =
      lookupEntry other entries := by
  induction entries with
  | nil => rfl
  | cons entry rest ih =>
      rcases entry with ⟨key, value⟩
      by_cases hkey : key = other
      · have hstays : (key != name) = true := bne_iff_ne.mpr (hkey ▸ h)
        simp only [List.filter_cons, hstays, if_true, lookupEntry, if_pos hkey]
      · cases hstays : key != name with
        | true => simp only [List.filter_cons, hstays, if_true, lookupEntry, if_neg hkey, ih]
        | false =>
            simp only [List.filter_cons, hstays, Bool.false_eq_true, if_false, lookupEntry,
              if_neg hkey, ih]

/-- Entries with distinct names are determined by the names in their order and by
    the value that each of them has. -/
theorem eq_of_lookupEntry {xs ys : List (String × α)} (hnodup : (xs.map Prod.fst).Nodup)
    (hnames : xs.map Prod.fst = ys.map Prod.fst)
    (hvalues : ∀ name, lookupEntry name xs = lookupEntry name ys) : xs = ys := by
  induction xs generalizing ys with
  | nil => exact (List.map_eq_nil_iff.mp hnames.symm).symm
  | cons x xs ih =>
      rcases ys with _ | ⟨y, ys⟩
      · cases hnames
      rcases x with ⟨key, value⟩
      rcases y with ⟨key', value'⟩
      rw [List.map_cons, List.map_cons, List.cons.injEq] at hnames
      rcases hnames with ⟨rfl, hrest⟩
      rw [List.map_cons, List.nodup_cons] at hnodup
      have hvalue : value = value' := by
        have hkey := hvalues key
        rw [lookupEntry, lookupEntry, if_pos rfl, if_pos rfl, Option.some.injEq] at hkey
        exact hkey
      have htail : ∀ name, lookupEntry name xs = lookupEntry name ys := by
        intro name
        by_cases h : key = name
        · -- The name of the first entry is in neither rest.
          have hnone : ∀ zs : List (String × α), key ∉ zs.map Prod.fst →
              lookupEntry name zs = none := by
            intro zs hzs
            rw [← Option.not_isSome_iff_eq_none, lookupEntry_isSome_iff, ← h]
            exact hzs
          rw [hnone xs hnodup.1, hnone ys (hrest ▸ hnodup.1)]
        · have hname := hvalues name
          rw [lookupEntry, lookupEntry, if_neg h, if_neg h] at hname
          exact hname
      rw [hvalue, ih hnodup.2 hrest htail]

/-! ### Names in order of first occurrence -/

/-- A name that has occurred already adds nothing to the distinct names. -/
theorem eraseDups_append_cons_of_mem {name : String} {before : List String}
    (h : name ∈ before) (rest : List String) :
    (before ++ name :: rest).eraseDups = (before ++ rest).eraseDups := by
  have hmem : ¬ before.contains name = false := by
    rw [List.contains_iff_mem.mpr h]
    decide
  rw [List.eraseDups_append, List.eraseDups_append, List.cons_removeAll, if_neg hmem]

/-- Names that have all occurred already add nothing. -/
theorem eraseDups_append_of_subset {before after : List String} (h : after ⊆ before) :
    (before ++ after).eraseDups = before.eraseDups := by
  induction after with
  | nil => rw [List.append_nil]
  | cons name rest ih =>
      rw [List.cons_subset] at h
      rw [eraseDups_append_cons_of_mem h.1, ih h.2]

/-- A name that has not occurred is the last of the distinct names. -/
theorem eraseDups_concat_of_not_mem {name : String} {before : List String}
    (h : name ∉ before) : (before ++ [name]).eraseDups = before.eraseDups ++ [name] := by
  have hnew : before.contains name = false := by
    rw [← Bool.not_eq_true, List.contains_iff_mem]
    exact h
  rw [List.eraseDups_append, List.cons_removeAll, if_pos hnew]
  rfl

theorem eraseDups_of_nodup {names : List String} (h : names.Nodup) : names.eraseDups = names := by
  induction names with
  | nil =>
      rfl
  | cons name rest ih =>
      rw [List.nodup_cons] at h
      have hkeep : (rest.filter fun other => !other == name) = rest := by
        refine List.filter_eq_self.mpr (fun other hmem => ?_)
        have hne : other ≠ name := fun he => h.1 (he ▸ hmem)
        simp only [beq_eq_false_iff_ne.mpr hne, Bool.not_false]
      rw [List.eraseDups_cons, hkeep, ih h.2]

namespace Bindings

/-- Bindings of the same names in the same order to the same values are equal. -/
theorem ext_of_keys {a b : Bindings α} (hkeys : a.keys = b.keys)
    (hvalues : ∀ name, a.get? name = b.get? name) : a = b :=
  ext (eq_of_lookupEntry a.nodup hkeys hvalues)

theorem set_set (b : Bindings α) (name : String) (value other : α) :
    (b.set name value).set name other = b.set name other :=
  ext (setEntry_setEntry name value other b.entries)

theorem size_set_le (b : Bindings α) (name : String) (value : α) :
    (b.set name value).size ≤ b.size + 1 := by
  have hkeys : ∀ c : Bindings α, c.size = c.keys.length := fun c => (List.length_map _).symm
  rw [hkeys, hkeys, keys_set]
  by_cases h : name ∈ b.keys
  · rw [if_pos h]
    exact Nat.le_succ _
  · rw [if_neg h]
    exact Nat.le_of_eq List.length_append

/-! ### Replaying pairs -/

@[simp]
theorem setAll_nil (b : Bindings α) : b.setAll [] = b := rfl

theorem setAll_cons (b : Bindings α) (pair : String × α) (rest : List (String × α)) :
    b.setAll (pair :: rest) = (b.set pair.1 pair.2).setAll rest := rfl

theorem setAll_append (b : Bindings α) (xs ys : List (String × α)) :
    b.setAll (xs ++ ys) = (b.setAll xs).setAll ys :=
  List.foldl_append

/-- Replaying pairs appends their new names in the order in which they first
    occur. -/
theorem keys_setAll (b : Bindings α) (pairs : List (String × α)) :
    (b.setAll pairs).keys = (b.keys ++ pairs.map Prod.fst).eraseDups := by
  induction pairs generalizing b with
  | nil =>
      rw [setAll_nil, List.map_nil, List.append_nil]
      exact (eraseDups_of_nodup b.nodup).symm
  | cons pair rest ih =>
      rw [setAll_cons, ih, keys_set, List.map_cons]
      by_cases h : pair.1 ∈ b.keys
      · rw [if_pos h, eraseDups_append_cons_of_mem h]
      · rw [if_neg h, List.append_assoc, List.singleton_append]

/-- The names that are bound keep their places, and the new ones follow them. -/
theorem keys_setAll_eq_append (b : Bindings α) (pairs : List (String × α)) :
    (b.setAll pairs).keys =
      b.keys ++ ((pairs.map Prod.fst).filter fun name => name ∉ b.keys).eraseDups := by
  have hnew : (pairs.map Prod.fst).removeAll b.keys =
      (pairs.map Prod.fst).filter fun name => name ∉ b.keys := by
    refine List.filter_congr fun name _ => ?_
    rw [List.elem_eq_mem, decide_not]
  have hold : b.keys.eraseDups = b.keys := eraseDups_of_nodup b.nodup
  rw [keys_setAll, List.eraseDups_append, hold, hnew]

/-- After a replay a name has the value of the last pair with it, and its
    older value if there is none. -/
theorem get?_setAll (b : Bindings α) (pairs : List (String × α)) (name : String) :
    (b.setAll pairs).get? name = (lastEntry name pairs).or (b.get? name) := by
  induction pairs generalizing b with
  | nil =>
      rw [setAll_nil, lastEntry_nil, Option.none_or]
  | cons pair rest ih =>
      rcases pair with ⟨key, value⟩
      rw [setAll_cons, ih, get?_set, lastEntry_cons, Option.or_assoc]
      by_cases h : key = name
      · rw [if_pos h, if_pos h.symm, Option.some_or]
      · rw [if_neg h, if_neg (fun he => h he.symm), Option.none_or]

/-- Pairs with new names are appended as they are. -/
theorem entries_setAll_of_nodup (b : Bindings α) {pairs : List (String × α)}
    (h : ((b.entries ++ pairs).map Prod.fst).Nodup) :
    (b.setAll pairs).entries = b.entries ++ pairs := by
  induction pairs generalizing b with
  | nil => rw [setAll_nil, List.append_nil]
  | cons pair rest ih =>
      have hset : (b.set pair.1 pair.2).entries = b.entries ++ [pair] := by
        refine setEntry_of_not_mem (fun hmem => ?_) pair.2
        rw [List.map_append, List.nodup_append] at h
        exact h.2.2 _ hmem _ (List.mem_cons_self) rfl
      rw [List.append_cons, ← hset] at h ⊢
      rw [setAll_cons, ih _ h]

/-- Bindings are what their entries make. -/
theorem ofList_entries (b : Bindings α) : ofList b.entries = b :=
  Bindings.ext (entries_setAll_of_nodup empty b.nodup)

theorem keys_ofList (pairs : List (String × α)) :
    (ofList pairs).keys = (pairs.map Prod.fst).eraseDups :=
  keys_setAll empty pairs

theorem get?_ofList (pairs : List (String × α)) (name : String) :
    (ofList pairs).get? name = lastEntry name pairs := by
  rw [ofList, get?_setAll, get?_empty, Option.or_none]

theorem ofList_append (xs ys : List (String × α)) :
    ofList (xs ++ ys) = (ofList xs).setAll ys :=
  setAll_append empty xs ys

/-! ### Replaying bindings -/

theorem keys_override (old new : Bindings α) :
    (old.override new).keys = (old.keys ++ new.keys).eraseDups :=
  keys_setAll old new.entries

theorem get?_override (old new : Bindings α) (name : String) :
    (old.override new).get? name = (new.get? name).or (old.get? name) := by
  rw [override, get?_setAll, lastEntry_of_nodup name new.entries new.nodup]
  rfl

/-- Whether a name is bound before a replay or after it makes no difference to it. -/
theorem override_set (old new : Bindings α) (name : String) (value : α) :
    old.override (new.set name value) = (old.override new).set name value := by
  refine ext_of_keys ?_ fun other => ?_
  · simp only [keys_override, keys_set, List.mem_eraseDups, List.mem_append]
    by_cases hnew : name ∈ new.keys
    · rw [if_pos hnew, if_pos (.inr hnew)]
    · rw [if_neg hnew, ← List.append_assoc]
      by_cases hold : name ∈ old.keys
      · -- The name is new to the bindings that are replayed, but has a place already.
        rw [if_pos (.inl hold), eraseDups_append_of_subset]
        exact List.cons_subset.mpr ⟨List.mem_append_left _ hold, List.nil_subset _⟩
      · rw [if_neg (not_or.mpr ⟨hold, hnew⟩), eraseDups_concat_of_not_mem]
        exact fun hmem => (List.mem_append.mp hmem).elim hold hnew
  · rw [get?_override, get?_set, get?_set, get?_override]
    by_cases h : other = name
    · rw [if_pos h, if_pos h, Option.some_or]
    · rw [if_neg h, if_neg h]

/-- A list may be replayed as it is or as the bindings that it makes. -/
theorem override_setAll (old new : Bindings α) (pairs : List (String × α)) :
    old.override (new.setAll pairs) = (old.override new).setAll pairs := by
  induction pairs generalizing new with
  | nil => rfl
  | cons pair rest ih => rw [setAll_cons, setAll_cons, ih, override_set]

theorem override_ofList (b : Bindings α) (pairs : List (String × α)) :
    b.override (ofList pairs) = b.setAll pairs :=
  override_setAll b empty pairs

/-- Replaying bindings and then others over them is replaying what the two make. -/
theorem override_override (a b c : Bindings α) :
    (a.override b).override c = a.override (b.override c) :=
  (override_setAll a b c.entries).symm

/-- A second replay of the same bindings finds everything as it would leave it. -/
theorem override_self (b : Bindings α) : b.override b = b := by
  refine ext_of_keys ?_ fun name => ?_
  · rw [keys_override, eraseDups_append_of_subset (List.Subset.refl _)]
    exact eraseDups_of_nodup b.nodup
  · rw [get?_override, Option.or_self]

/-! ### Leaving out a name -/

/-- The bindings without the entry of a name, if there is one. -/
def erase (b : Bindings α) (name : String) : Bindings α :=
  ⟨b.entries.filter fun entry => entry.1 != name,
    (List.filter_sublist.map Prod.fst).nodup b.nodup⟩

theorem erase_set_self (b : Bindings α) (name : String) (value : α) :
    (b.set name value).erase name = b.erase name :=
  ext (filter_setEntry_self name value b.entries)

theorem erase_set_of_ne (b : Bindings α) {name other : String} (h : other ≠ name) (value : α) :
    (b.set other value).erase name = (b.erase name).set other value :=
  ext (filter_setEntry_of_ne h value b.entries)

theorem get?_erase_of_ne (b : Bindings α) {name other : String} (h : other ≠ name) :
    (b.erase name).get? other = b.get? other :=
  lookupEntry_filter_of_ne h b.entries

/-- What a replay does to the other names does not depend on the pairs with the name
    that is left out. -/
theorem erase_setAll (b : Bindings α) (pairs : List (String × α)) (name : String) :
    (b.setAll pairs).erase name =
      (b.erase name).setAll (pairs.filter fun pair => pair.1 != name) := by
  induction pairs generalizing b with
  | nil => rfl
  | cons pair rest ih =>
      rcases pair with ⟨key, value⟩
      rw [setAll_cons, ih, List.filter_cons]
      by_cases h : key = name
      · rw [h, erase_set_self, if_neg (by simp only [bne_self_eq_false, Bool.false_eq_true,
          not_false_eq_true])]
      · rw [erase_set_of_ne b h, if_pos (bne_iff_ne.mpr h), setAll_cons]

theorem erase_override (old new : Bindings α) (name : String) :
    (old.override new).erase name = (old.erase name).override (new.erase name) :=
  erase_setAll old new.entries name

end Bindings

end LogQuery
