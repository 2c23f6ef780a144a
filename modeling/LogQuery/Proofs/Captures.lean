import LogQuery.Pattern
import LogQuery.Proofs.Regex.Spans

/-!
# Captures Agree with Matching

What a branch binds is what a match has captured, and whether it is taken at all is read
off the same result. A pattern without named groups does not ask for positions, since to
know that there is a match is enough. That must not be seen: asking for captures answers
whether there is a match, whatever groups the pattern has (`captures_eq`).

The captures of a match are listed by their groups. The groups are numbered in the order
of their opening, and their names are distinct, so the number of a group is the place of
its name (`capturesFrom_eq`). A group is listed if the match has noted both its positions,
and what it holds lies between them (`cut_between`), for they make a span of the text.

## Main definitions

* `Regex.Slots.span?`: The span of the group with a number.
* `Pattern.span?`: The span of a named group in the match, if it took part.

## Theorems

* `capturesFrom_eq`: Captures are listed by the names of the groups.
* `captures_eq`: The short way for patterns without groups is not seen.
* `compile?_nested`: The groups of a compiled pattern are nested.
* `span?_bounds`: The span of a group that took part lies in the text.
* `cut_between`: What lies between two positions is a piece of the text.
* `captures_agree_with_matching`: What captures say about a match and its groups.
-/

namespace LogQuery

/-- The span that a match has noted for the group with the given number. -/
def Regex.Slots.span? (slots : Regex.Slots) (i : Nat) : Option (Nat × Nat) := do
  let first ← slots.noted (2 * i)
  let last ← slots.noted (2 * i + 1)
  some (first, last)

namespace Pattern

open Regex (Program Slots)

/-- The span of a named group in the match that is to be preferred, if there is a match
    and the group took part in it. -/
def span? (p : Pattern) (text name : String) : Option (Nat × Nat) := do
  let slots ← p.slots text
  slots.span? (p.groups.idxOf name)

theorem capture?_eq (text : String) (slots : Slots) (i : Nat) :
    capture? text slots i = (slots.span? i).map fun span => cut text span.1 span.2 := by
  rw [capture?, Slots.span?]
  change ((slots.noted (2 * i)).bind fun first => (slots.noted (2 * i + 1)).bind fun last =>
    some (cut text first last)) = _
  cases slots.noted (2 * i) with
  | none => rfl
  | some first => cases slots.noted (2 * i + 1) <;> rfl

/-- Since the names are distinct, the number of a group is the place of its name. -/
theorem capturesFrom_eq (text : String) (slots : Slots) (before names : List String)
    (h : (before ++ names).Nodup) :
    capturesFrom text slots before.length names = names.filterMap fun name =>
      (capture? text slots ((before ++ names).idxOf name)).map fun held => (name, held) := by
  induction names generalizing before with
  | nil => rfl
  | cons name rest ih =>
      -- The name is not among those before it, so it is found in its own place.
      have hnumber : (before ++ name :: rest).idxOf name = before.length := by
        have hfresh : name ∉ before := fun hmem =>
          (List.nodup_append.mp h).2.2 name hmem name List.mem_cons_self rfl
        rw [List.idxOf_append_of_notMem hfresh, List.idxOf_cons_self, Nat.add_zero]
      have hrest := ih (before ++ [name]) (by rwa [List.append_cons] at h)
      rw [List.length_append, List.length_singleton, ← List.append_cons] at hrest
      rw [capturesFrom, List.filterMap_cons, hnumber, hrest]
      cases capture? text slots before.length with
      | none => rfl
      | some held => rfl

/-- The captures of a match by the names of the groups, whether or not there are any. -/
theorem captures_eq (p : Pattern) (text : String) :
    p.captures text = (p.slots text).map fun slots => p.groups.filterMap fun name =>
      (capture? text slots (p.groups.idxOf name)).map fun held => (name, held) := by
  rw [captures]
  split
  · rename_i hempty
    have hmatch : p.isMatch text = (p.slots text).isSome :=
      p.program.search_isSome 0 _ text.toList
    rw [hmatch, List.isEmpty_iff.mp hempty]
    cases p.slots text with
    | none => rfl
    | some slots => rfl
  · refine congrArg (Option.map · (p.slots text)) (funext fun slots => ?_)
    exact capturesFrom_eq text slots [] p.groups p.groups_nodup

/-! ### Spans -/

/-- The groups of a compiled pattern are nested. -/
theorem compile?_nested {source : String} {p : Pattern} (h : compile? source = some p) :
    ∃ nesting, p.program.Nested nesting := by
  simp only [compile?, Option.bind_eq_bind, Option.bind_eq_some_iff] at h
  obtain ⟨ast, _, ⟨node, _⟩, _, program, hprogram, hp⟩ := h
  rw [Program.ofNode?] at hprogram
  split at hprogram
  · cases hprogram
    split at hp
    · cases hp
      exact Program.ofNode_nested _ node
    · cases hp
  · cases hprogram

/-- The span of a group that took part in a match lies in the text. -/
theorem span?_bounds {source : String} {p : Pattern} (h : compile? source = some p)
    {text name : String} (hname : name ∈ p.groups) {first last : Nat}
    (hspan : p.span? text name = some (first, last)) :
    first ≤ last ∧ last ≤ text.length := by
  obtain ⟨nesting, hnested⟩ := compile?_nested h
  rw [span?, Option.bind_eq_bind, Option.bind_eq_some_iff] at hspan
  obtain ⟨slots, hslots, hspan⟩ := hspan
  rcases Program.search_spans hnested hslots (List.idxOf_lt_length_of_mem hname) with
    ⟨hfirst, _⟩ | ⟨first', last', hfirst, hlast, hordered, hbounded⟩
  · rw [Slots.span?, hfirst] at hspan
    cases hspan
  · rw [Slots.span?, hfirst, hlast] at hspan
    cases hspan
    exact ⟨hordered, String.length_toList ▸ hbounded⟩

/-- What lies between two positions of a text is a piece of it. -/
theorem cut_between {text : String} {first last : Nat} (hle : first ≤ last)
    (hlast : last ≤ text.length) : ∃ before after,
    text = before ++ cut text first last ++ after ∧ before.length = first ∧
      (cut text first last).length = last - first := by
  rw [← String.length_toList] at hlast
  refine ⟨.ofList (text.toList.take first), .ofList (text.toList.drop last), ?_, ?_, ?_⟩
  · have hdrop : text.toList.drop last = (text.toList.drop first).drop (last - first) := by
      rw [List.drop_drop, Nat.add_sub_cancel' hle]
    rw [cut, ← String.ofList_append, ← String.ofList_append, hdrop, List.append_assoc,
      List.take_append_drop, List.take_append_drop, String.ofList_toList]
  · rw [String.length_ofList, List.length_take_of_le (hle.trans hlast)]
  · rw [cut, String.length_ofList, List.length_take_of_le]
    rw [List.length_drop]
    omega

/-- The captures of a match list the groups that took part and what is in their spans. -/
theorem eq_of_captures {p : Pattern} {text : String} {captures : List (String × String)}
    (h : p.captures text = some captures) :
    captures = p.groups.filterMap fun name =>
      (p.span? text name).map fun span => (name, cut text span.1 span.2) := by
  rw [captures_eq, Option.map_eq_some_iff] at h
  obtain ⟨slots, hslots, rfl⟩ := h
  refine congrArg (List.filterMap · p.groups) (funext fun name => ?_)
  rw [span?, hslots, capture?_eq, Option.map_map]
  rfl

/-- Captures tell whether there is a match. If there is, they list the groups that took
    part in it, each of them once and in the order of the pattern, and what they hold is
    the piece of the text in their spans. -/
theorem captures_agree_with_matching {source : String} {p : Pattern}
    (h : compile? source = some p) (text : String) :
    (p.captures text).isSome = p.isMatch text ∧
    ∀ captures, p.captures text = some captures →
      (captures.map Prod.fst).Nodup ∧
      captures.map Prod.fst = p.groups.filter (fun name => (p.span? text name).isSome) ∧
      ∀ name held, (name, held) ∈ captures → ∃ first last before after,
        p.span? text name = some (first, last) ∧ first ≤ last ∧ last ≤ text.length ∧
          text = before ++ held ++ after ∧ before.length = first ∧
            held.length = last - first := by
  refine ⟨?_, fun captures hcaptures => ?_⟩
  · rw [captures_eq, Option.isSome_map]
    exact p.program.search_isSome _ 0 text.toList
  have hlist := eq_of_captures hcaptures
  have hnames : captures.map Prod.fst =
      p.groups.filter fun name => (p.span? text name).isSome := by
    rw [hlist, List.map_filterMap, ← List.filterMap_eq_filter]
    refine congrArg (List.filterMap · p.groups) (funext fun name => ?_)
    cases hspan : p.span? text name with
    | none => simp [Option.guard, hspan]
    | some span => simp [Option.guard, hspan]
  refine ⟨hnames ▸ p.groups_nodup.filter _, hnames, fun name held hmem => ?_⟩
  rw [hlist, List.mem_filterMap] at hmem
  obtain ⟨group, hgroup, hheld⟩ := hmem
  obtain ⟨⟨first, last⟩, hspan, hpair⟩ := Option.map_eq_some_iff.mp hheld
  cases hpair
  obtain ⟨hordered, hbounded⟩ := span?_bounds h hgroup hspan
  obtain ⟨before, after, htext, hbefore, hlength⟩ := cut_between hordered hbounded
  exact ⟨first, last, before, after, hspan, hordered, hbounded, htext, hbefore, hlength⟩

/-- A group inside a repetition, one inside that which is skipped, and an alternative that
    is taken in a later round. -/
theorem captures_agree_with_matching_skippedGroup :
    ∃ p, compile? "((?P<a>x(?P<b>w)?)|(?P<c>y))*" = some p ∧
      p.captures "xy" = some [("a", "x"), ("c", "y")] ∧ p.isMatch "xy" = true ∧
      p.groups.filter (fun name => (p.span? "xy" name).isSome) = ["a", "c"] := by
  have hrun : (compile? "((?P<a>x(?P<b>w)?)|(?P<c>y))*").bind (fun p => p.captures "xy") =
      some [("a", "x"), ("c", "y")] := by
    decide +kernel
  obtain ⟨p, hp, hcaptures⟩ := Option.bind_eq_some_iff.mp hrun
  obtain ⟨hmatch, hlist⟩ := captures_agree_with_matching hp "xy"
  obtain ⟨_, hnames, _⟩ := hlist _ hcaptures
  refine ⟨p, hp, hcaptures, ?_, hnames.symm⟩
  rw [← hmatch, hcaptures]
  rfl

end Pattern

end LogQuery
