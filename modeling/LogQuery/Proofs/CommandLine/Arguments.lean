import LogQuery.CommandLine.Arguments

/-!
# Words of a Query

What the two commands make of the words that say where a query comes from. Both
have the options for it, and `process` has others behind them; an option is
looked for from the front, so a word that names one of these two is read alike
by every shape whose options start with them (`mention?_extends`). Carried
along the words this gives the same options or the same misuse
(`read_queryWords`), whatever the spelling and whatever is said twice.

## Main definitions

* `CommandShape.queryOnly`: The shape of what can only be told where a query
  comes from.
* `QueryWords`: Words that name only options of a query.
* `Invocation.plain`: The arguments of `process` that only ask for a query.

## Theorems

* `mention?_extends`: An option in front of the others is found by all shapes.
* `read_queryWords`: All shapes read the words of a query alike.
* `ofArguments_queryWords`: What both commands make of them.
-/

namespace LogQuery

namespace CommandShape

/-- The shape of what can only be told where a query comes from. -/
def queryOnly : CommandShape := ⟨queryOptions, none⟩

end CommandShape

/-- Words that name only options of a query, in any spelling. A value is attached
    to its option or is the next word. -/
inductive QueryWords : List String → Prop where
  | nil : QueryWords []
  | attached {word value : String} {option : CommandOption} {rest : List String} :
      CommandShape.queryOnly.mention? word = some (some ⟨option, some value⟩) →
      QueryWords rest → QueryWords (word :: rest)
  | apart {word value : String} {option : CommandOption} {rest : List String} :
      CommandShape.queryOnly.mention? word = some (some ⟨option, none⟩) →
      QueryWords rest → QueryWords (word :: value :: rest)

namespace CommandShape

variable {shape : CommandShape}

theorem find?_extends (h : queryOptions <+: shape.options) {test : CommandOption → Bool}
    {option : CommandOption} (hfind : queryOptions.find? test = some option) :
    shape.options.find? test = some option := by
  rcases h with ⟨more, hmore⟩
  rw [← hmore, List.find?_append, hfind, Option.some_or]

/-- An option that stands in front of the others is found by every shape. -/
theorem mention?_extends (h : queryOptions <+: shape.options) {word : String} {mention : Mention}
    (hmention : queryOnly.mention? word = some (some mention)) :
    shape.mention? word = some (some mention) := by
  unfold mention? at hmention ⊢
  split at hmention
  · rcases Option.bind_eq_some_iff.mp (Option.some_inj.mp hmention) with ⟨option, hfind, hrest⟩
    exact congrArg some (Option.bind_eq_some_iff.mpr ⟨option, find?_extends h hfind, hrest⟩)
  · rcases Option.bind_eq_some_iff.mp (Option.some_inj.mp hmention) with ⟨option, hfind, hrest⟩
    exact congrArg some (Option.bind_eq_some_iff.mpr ⟨option, find?_extends h hfind, hrest⟩)
  · cases hmention

theorem mem_of_mention? {word : String} {mention : Mention}
    (h : shape.mention? word = some (some mention)) : mention.option ∈ shape.options := by
  unfold mention? at h
  split at h
  · rcases Option.bind_eq_some_iff.mp (Option.some_inj.mp h) with ⟨option, hfind, hrest⟩
    have hmem := List.mem_of_find?_eq_some hfind
    split at hrest <;> cases hrest <;> exact hmem
  · rcases Option.bind_eq_some_iff.mp (Option.some_inj.mp h) with ⟨option, hfind, hrest⟩
    have hmem := List.mem_of_find?_eq_some hfind
    split at hrest
    · split at hrest <;> cases hrest <;> exact hmem
    · cases hrest
      exact hmem
  · cases h

theorem queryOption_cases {option : CommandOption} (h : option ∈ queryOptions) :
    option.long ∈ ["query", "query-json"] ∧ ∃ accepts, option.kind = .valued accepts := by
  rcases List.mem_cons.mp h with rfl | h
  · exact ⟨by decide, isFileName, rfl⟩
  · cases List.mem_singleton.mp h
    exact ⟨by decide, _, rfl⟩

/-- The words of a query do not end the options. -/
theorem ne_of_mention? {word : String} {mention : Mention}
    (h : queryOnly.mention? word = some (some mention)) : word ≠ "--" := by
  rintro rfl
  cases h

/-! ### Reading the words -/

/-- Adding an option is all that a word with a value attached to it does. -/
theorem read_attached (h : queryOptions <+: shape.options) {word value : String}
    {option : CommandOption} {accepts : String → Bool} (hkind : option.kind = .valued accepts)
    (hword : queryOnly.mention? word = some (some ⟨option, some value⟩)) (given : Given)
    (rest : List String) :
    shape.read true given (word :: rest) =
      add given option.long value accepts >>= fun given => shape.read true given rest := by
  rw [read]
  simp only [Bool.not_true, Bool.false_eq_true, if_false, if_neg (ne_of_mention? hword),
    mention?_extends h hword, hkind]

/-- Adding an option is all that an acceptable value in the next word does. -/
theorem read_apart (h : queryOptions <+: shape.options) {word value : String}
    {option : CommandOption} {accepts : String → Bool} (hkind : option.kind = .valued accepts)
    (hword : queryOnly.mention? word = some (some ⟨option, none⟩)) (given : Given)
    (rest : List String) :
    shape.read true given (word :: value :: rest) =
      if looksLikeOption value then .error .misuse
      else add given option.long value accepts >>= fun given => shape.read true given rest := by
  rw [read]
  simp only [Bool.not_true, Bool.false_eq_true, if_false, if_neg (ne_of_mention? hword),
    mention?_extends h hword, hkind]

/-- Whether options that are given are all about the query. -/
def OnlyQuery (given : Given) : Prop := ∀ entry ∈ given, entry.1 ∈ ["query", "query-json"]

theorem add_cases (given : Given) (name value : String) (accepts : String → Bool) :
    add given name value accepts = .error .misuse ∨
      add given name value accepts = .ok (given ++ [(name, value)]) := by
  unfold add
  split
  · exact .inl rfl
  · exact .inr rfl

theorem onlyQuery_add {given : Given} (h : OnlyQuery given) {name : String}
    (hname : name ∈ ["query", "query-json"]) (value : String) :
    OnlyQuery (given ++ [(name, value)]) := by
  rintro entry hentry
  rcases List.mem_append.mp hentry with hentry | hentry
  · exact h entry hentry
  · cases List.mem_singleton.mp hentry
    exact hname

/-- All shapes with the options of a query read the words alike: as misuse, or as
    options that are all about the query. -/
def ReadAlike (given : Given) (words : List String) : Prop :=
  (∀ shape : CommandShape, queryOptions <+: shape.options →
      shape.read true given words = .error .misuse) ∨
    ∃ all, OnlyQuery all ∧ ∀ shape : CommandShape, queryOptions <+: shape.options →
      shape.read true given words = .ok all

/-- One option more is read alike if what follows it is. -/
theorem readAlike_of_add {given : Given} {option : CommandOption} {value : String}
    {accepts : String → Bool} {words rest : List String} (hoption : option ∈ queryOptions)
    (hgiven : OnlyQuery given)
    (hread : ∀ shape : CommandShape, queryOptions <+: shape.options →
      shape.read true given words =
        add given option.long value accepts >>= fun given => shape.read true given rest)
    (ih : ∀ {given : Given}, OnlyQuery given → ReadAlike given rest) : ReadAlike given words := by
  have hname := (queryOption_cases hoption).1
  rcases add_cases given option.long value accepts with hadd | hadd
  · refine .inl fun shape h => ?_
    rw [hread shape h, hadd]
    rfl
  · rcases ih (onlyQuery_add hgiven hname value) with hmisuse | ⟨all, hall, hrest⟩
    · refine .inl fun shape h => ?_
      rw [hread shape h, hadd]
      exact hmisuse shape h
    · refine .inr ⟨all, hall, fun shape h => ?_⟩
      rw [hread shape h, hadd]
      exact hrest shape h

theorem read_queryWords {words : List String} (hwords : QueryWords words) {given : Given}
    (hgiven : OnlyQuery given) : ReadAlike given words := by
  induction hwords generalizing given with
  | nil => exact .inr ⟨given, hgiven, fun _ _ => rfl⟩
  | attached hword _ ih =>
      have hoption := mem_of_mention? hword
      rcases (queryOption_cases hoption).2 with ⟨accepts, hkind⟩
      exact readAlike_of_add hoption hgiven
        (fun shape h => read_attached h hkind hword given _) ih
  | @apart word value _ rest hword _ ih =>
      have hoption := mem_of_mention? hword
      rcases (queryOption_cases hoption).2 with ⟨accepts, hkind⟩
      by_cases hvalue : looksLikeOption value
      · refine .inl fun shape h => ?_
        rw [read_apart h hkind hword, if_pos hvalue]
      · exact readAlike_of_add hoption hgiven
          (fun shape h => by rw [read_apart h hkind hword, if_neg hvalue]) ih

theorem OnlyQuery.lookup_eq_none {given : Given} (h : OnlyQuery given) {name : String}
    (hname : name ∉ ["query", "query-json"]) : given.lookup name = none := by
  rw [List.lookup_eq_none_iff]
  intro entry hentry
  rw [bne_iff_ne]
  rintro rfl
  exact hname (h entry hentry)

end CommandShape

/-! ### Invocations -/

namespace Invocation

open CommandShape

/-- The arguments of `process` that only ask for a query. -/
def plain (query : QueryArguments) : ProcessArguments :=
  { processArguments [] with query }

theorem processArguments_of_onlyQuery {given : Given} (h : OnlyQuery given) :
    processArguments given = plain (queryArguments given) := by
  have hnone : ∀ name ∉ ["query", "query-json"], given.lookup name = none :=
    fun name hname => h.lookup_eq_none hname
  unfold plain processArguments
  rw [hnone "" (by decide), hnone "output" (by decide), hnone "input-format" (by decide),
    hnone "output-format" (by decide), hnone "color" (by decide), hnone "fail-fast" (by decide),
    hnone "progress" (by decide), hnone "max-line-length" (by decide),
    hnone "buffer-size" (by decide)]
  rfl

/-- A command that is named first is given the other words. -/
theorem ofArguments_cons {name : String} (h : looksLikeOption name = false)
    (words : List String) : ofArguments (name :: words) = ofCommand name words := by
  have hbefore : (name :: words).takeWhile looksLikeOption = [] := by
    rw [List.takeWhile_cons, h, if_neg Bool.false_ne_true]
  rw [ofArguments, hbefore]
  rfl

/-- Both commands make the same of the words of a query: a query that is asked for
    in the same way, or misuse. -/
theorem ofArguments_queryWords {words : List String} (h : QueryWords words) :
    (∃ query, ofArguments ("check" :: words) = .check query ∧
        ofArguments ("process" :: words) = .process (plain query)) ∨
      (ofArguments ("check" :: words) = .misuse ∧
        ofArguments ("process" :: words) = .misuse) := by
  have hcheck : queryOptions <+: CommandShape.check.options := List.prefix_append _ _
  have hprocess : queryOptions <+: CommandShape.process.options := List.prefix_append _ _
  rw [ofArguments_cons (by decide), ofArguments_cons (by decide), ofCommand, if_pos rfl,
    ofCommand, if_neg (by decide), if_pos rfl]
  have hnil : OnlyQuery [] := fun _ hentry => absurd hentry List.not_mem_nil
  rcases read_queryWords h hnil with hmisuse | ⟨given, hgiven, hread⟩
  · right
    rw [hmisuse _ hcheck, hmisuse _ hprocess]
    exact ⟨rfl, rfl⟩
  · left
    rw [hread _ hcheck, hread _ hprocess]
    exact ⟨_, rfl, congrArg process (processArguments_of_onlyQuery hgiven)⟩

/-- A query that is given as JSON is taken as it is, unless it has the look of an
    option. -/
theorem ofArguments_check_json (text : String) :
    ofArguments ["check", "--query-json", text] =
      if looksLikeOption text then .misuse else .check ⟨none, some text⟩ := by
  rw [ofArguments_cons (by decide), ofCommand, if_pos rfl,
    read_apart (List.prefix_append _ _) rfl rfl]
  by_cases h : looksLikeOption text
  · rw [if_pos h, if_pos h]
    rfl
  · rw [if_neg h, if_neg h]
    rfl

end Invocation

end LogQuery
