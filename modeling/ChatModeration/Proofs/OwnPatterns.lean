/-
ChatModeration.Proofs.OwnPatterns — which pattern a token filter is tested with.

Patterns are kept under the ids of their filters, so that the filter that was
added last among those that share an id (`lastWith?`) provides the pattern of
them all.  What a list reports is what it would report if every filter were
tested with its own pattern just when, for every filter, the pattern that stands
in for its own finds the same: that is the main statement, `own_patterns_iff`.
Ids that are not used twice are enough for it.
-/
import ChatModeration.FilterList.Kinds
import ChatModeration.Schema.RawList
import Mathlib.Data.List.Basic

namespace ChatModeration

theorem Number.lt_irrefl (x : Number) : x.lt x = false := by
  cases x with
  | nan => rfl
  | infinity negative => cases negative <;> rfl
  | negativeZero => rfl
  | finite q => simp [lt, toRat?]

theorem Number.sameKey_refl (x : Number) : x.sameKey x = true := by
  cases x <;> simp [sameKey, lt_irrefl]

namespace Token

/-! ## § Two ways to test a filter -/

/-- What a pattern, given by its text, finds first. -/
def finds? (pattern content : Text) : Option Text :=
  (compile? pattern).bind (·.firstMatch? content)

/-- A filter as it is reported with what was found for it. -/
def report? (f : Filter) (found : Option Text) : Option TriggeredFilter :=
  found.map fun t => ⟨f, [Value.text t]⟩

/-- The filter tested with its own pattern. -/
def ownTrigger? (content : Text) (f : Filter) : Option TriggeredFilter :=
  report? f (finds? f.content content)

/-- The filter that was added last among those with an id. -/
def lastWith? (filters : List Filter) (id : Number) : Option Filter :=
  filters.reverse.find? fun f => f.id.sameKey id

variable {filters : List Filter} {f g : Filter} {content : Text}

theorem trigger?_of_lastWith? (h : lastWith? filters f.id = some g) :
    trigger? filters content f = report? f (finds? g.content content) := by
  have hpattern : patternFor? filters f.id = compile? g.content := by
    rw [patternFor?, ← lastWith?, h]
    rfl
  rw [trigger?, hpattern, finds?]
  cases compile? g.content <;> rfl

/-- Every filter of a list has a last one with its id, which may be itself. -/
theorem exists_lastWith? (h : f ∈ filters) :
    ∃ g ∈ filters, lastWith? filters f.id = some g ∧ g.id.sameKey f.id = true := by
  have hsome : (lastWith? filters f.id).isSome :=
    List.find?_isSome.mpr ⟨f, List.mem_reverse.mpr h, f.id.sameKey_refl⟩
  obtain ⟨g, hg⟩ := Option.isSome_iff_exists.mp hsome
  have hkey : g.id.sameKey f.id = true := by simpa using List.find?_some hg
  exact ⟨g, List.mem_reverse.mp (List.mem_of_find?_eq_some hg), hg, hkey⟩

/-! ## § Equal reports -/

/-- A report says for which filter it is and what was found. -/
theorem mem_reports_iff {found : Filter → Option Text} {t : Text} (h : f ∈ filters) :
    (⟨f, [Value.text t]⟩ : TriggeredFilter) ∈ filters.filterMap (fun f => report? f (found f)) ↔
      found f = some t := by
  constructor
  · intro hmem
    obtain ⟨g, -, hg⟩ := List.mem_filterMap.mp hmem
    obtain ⟨u, hu, heq⟩ := Option.map_eq_some_iff.mp hg
    cases heq
    exact hu
  · intro hfound
    exact List.mem_filterMap.mpr ⟨f, h, by rw [report?, hfound]; rfl⟩

/-- Two ways to test the filters of a list report the same just when they find the same for every
filter. -/
theorem reports_eq_iff {found found' : Filter → Option Text} :
    filters.filterMap (fun f => report? f (found f)) =
        filters.filterMap (fun f => report? f (found' f)) ↔
      ∀ f ∈ filters, found f = found' f := by
  constructor
  · intro heq f hf
    refine Option.ext fun t => ?_
    have hown : _ ↔ found' f = some t := mem_reports_iff hf
    rw [← mem_reports_iff hf, ← hown, heq]
  · intro hsame
    exact List.filterMap_congr fun f hf => by rw [hsame f hf]

/-- What the stand-in for a filter's own pattern finds. -/
def standInFinds? (filters : List Filter) (content : Text) (f : Filter) : Option Text :=
  (lastWith? filters f.id).bind fun g => finds? g.content content

theorem triggered_eq (h : content ≠ []) :
    triggered filters content =
      filters.filterMap fun f => report? f (standInFinds? filters content f) := by
  rw [triggered, if_neg h]
  refine List.filterMap_congr fun f hf => ?_
  obtain ⟨g, -, hlast, -⟩ := exists_lastWith? hf
  rw [trigger?_of_lastWith? hlast, standInFinds?, hlast]
  rfl

/-! ## § Batches -/

/-- A token list after batches of filters. -/
def filled (batches : List (List Filter)) : FilterList := batches.foldl FilterList.add .token

/-- The filters of all batches are kept in order. -/
theorem filled_eq (batches : List (List Filter)) :
    filled batches = FilterList.token.add batches.flatten := FilterList.foldl_add _ batches

/-- **Own patterns.**  After any batches, a token list that is shown a text reports, in the order in
which they were added and once each, the filters for which the last filter with the same id finds
something, with what that one finds first.  These are the reports of filters that are tested with
their own patterns just when every filter's own pattern finds the same as the one that stands in
for it; in particular when filters that share an id have the same pattern. -/
theorem own_patterns_iff (batches : List (List Filter)) {ctx : Context} (h : ctx.content ≠ []) :
    let filters := batches.flatten
    let own := filters.filterMap (ownTrigger? ctx.content)
    let outcome := (filled batches).evaluate ctx
    outcome = (.ok (filters.filterMap fun f =>
      report? f (standInFinds? filters ctx.content f)), ctx) ∧
    (outcome = (.ok own, ctx) ↔
      ∀ f ∈ filters, standInFinds? filters ctx.content f = finds? f.content ctx.content) ∧
    ((∀ f ∈ filters, ∀ g ∈ filters, g.id.sameKey f.id → g.content = f.content) →
      outcome = (.ok own, ctx)) := by
  intro filters own outcome
  have houtcome : outcome = (.ok (filters.filterMap fun f =>
      report? f (standInFinds? filters ctx.content f)), ctx) := by
    have hfilters : (FilterList.token.add filters).filters = filters := List.nil_append _
    have htriggered : triggered filters ctx.content = _ := triggered_eq h
    change (filled batches).evaluate ctx = _
    rw [filled_eq, ← htriggered]
    exact congrArg (fun fs => (Except.ok (triggered fs ctx.content), ctx)) hfilters
  have hiff : outcome = (.ok own, ctx) ↔
      ∀ f ∈ filters, standInFinds? filters ctx.content f = finds? f.content ctx.content := by
    rw [houtcome]
    constructor
    · intro heq
      exact reports_eq_iff.mp (Except.ok.inj (Prod.mk.inj heq).1)
    · intro hsame
      rw [reports_eq_iff.mpr hsame]
      rfl
  refine ⟨houtcome, hiff, fun hids => hiff.mpr fun f hf => ?_⟩
  obtain ⟨g, hg, hlast, hkey⟩ := exists_lastWith? hf
  rw [standInFinds?, hlast, Option.bind_some, hids f hf g hg hkey]

/-- A filter for a pattern that does nothing. -/
def plain (id : Number) (pattern : String) : Filter := ⟨id, Text.ofString pattern, none, ⟨none⟩⟩

/-- A message with a text. -/
def saying (content : String) : Context :=
  Context.ofIncoming ⟨.message, ⟨[], [], none, false⟩, ⟨[], [], none⟩, Text.ofString content, none, []⟩

/-- The second batch takes the id of a filter in the first one, whose own pattern would find
nothing. -/
theorem own_patterns_iff_shared_id :
    let ctx := saying "eggs and ham"
    ctx.content ≠ [] ∧
      (filled [[plain 1 "spam", plain 2 "ham"], [plain 1 "egg"]]).evaluate ctx =
        (.ok [⟨plain 1 "spam", [.text (Text.ofString "egg")]⟩,
          ⟨plain 2 "ham", [.text (Text.ofString "ham")]⟩,
          ⟨plain 1 "egg", [.text (Text.ofString "egg")]⟩], ctx) := by
  intro ctx
  have hcontent : ctx.content ≠ [] := by decide
  let filters := [plain 1 "spam", plain 2 "ham", plain 1 "egg"]
  refine ⟨hcontent, (own_patterns_iff [[plain 1 "spam", plain 2 "ham"], [plain 1 "egg"]]
    hcontent).1.trans ?_⟩
  obtain ⟨hspam, hham, hegg⟩ :
      standInFinds? filters ctx.content (plain 1 "spam") = some (Text.ofString "egg") ∧
      standInFinds? filters ctx.content (plain 2 "ham") = some (Text.ofString "ham") ∧
      standInFinds? filters ctx.content (plain 1 "egg") = some (Text.ofString "egg") := by
    decide +kernel
  have hreports : filters.filterMap (fun f => report? f (standInFinds? filters ctx.content f)) =
      [⟨plain 1 "spam", [.text (Text.ofString "egg")]⟩,
        ⟨plain 2 "ham", [.text (Text.ofString "ham")]⟩,
        ⟨plain 1 "egg", [.text (Text.ofString "egg")]⟩] := by
    simp only [filters, List.filterMap_cons, List.filterMap_nil] at hspam hham hegg ⊢
    simp only [hspam, hham, hegg, report?, Option.map_some]
  exact congrArg (fun found => (Except.ok found, ctx)) hreports

/-- Filters that come from a configured list that passes its check. -/
def Accepted (batch : List Filter) : Prop :=
  ∃ v raw, Check.rawList v = .valid raw ∧ raw.toBatch.filters = batch

/-- A configured token list with one filter. -/
def tokenList (pattern : String) : Value :=
  Value.record [("name", .ofString "token"), ("filters", .list [Value.record
    [("id", .number 1), ("content", .ofString pattern)]])]

/-- A filter is not always tested with its own pattern: here the pattern of a later filter with its
id stands in for it, and finds nothing. -/
theorem own_patterns_fail :
    ¬ ∀ (batches : List (List Filter)) (ctx : Context), (∀ batch ∈ batches, Accepted batch) →
      ctx.content ≠ [] → (filled batches).evaluate ctx =
        (.ok (batches.flatten.filterMap (ownTrigger? ctx.content)), ctx) := by
  intro h
  have hspam : Accepted [plain 1 "spam"] := ⟨tokenList "spam", _, rfl, rfl⟩
  have heggs : Accepted [plain 1 "eggs"] := ⟨tokenList "eggs", _, rfl, rfl⟩
  have hown := h [[plain 1 "spam"], [plain 1 "eggs"]] (saying "spam") (by simp [hspam, heggs])
    (by decide)
  have hlength := congrArg (fun outcome => (outcome.1.toOption.map List.length)) hown
  revert hlength
  decide +kernel

end Token

end ChatModeration
