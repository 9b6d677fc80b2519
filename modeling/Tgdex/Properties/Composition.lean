import Tgdex.Query.Verdicts
import Tgdex.Search.Controller
import Tgdex.Properties.Selection

namespace Tgdex.Properties

open Tgdex.Data Tgdex.Java Tgdex.Elastic Tgdex.Query Tgdex.Search

/-! # How searches compose

A search asks for its criteria and for its text at once, and each criterion is
asked for by itself. -/

section

variable {truth : Leaf → Bool} {unicode : Unicode} {isAssetSearch : Bool} {context : RoutingContext}
  {body other : JsonObject} {request : QueryDecoderRequestDTO}

/-- What the search of a request says of a document. -/
def selection (truth : Leaf → Bool) (unicode : Unicode) (isAssetSearch : Bool) (context : RoutingContext) : Verdict :=
  Verdict.of (sentRequest unicode isAssetSearch context) fun sent =>
    Verdict.ofBool (sent.query.all (BoolQuery.holds truth))

def itemVerdict (truth : Leaf → Bool) (unicode : Unicode) (item : Json) : Verdict :=
  Verdict.of (SearchCriteriaDTO.fromJson item) (criterionVerdict truth unicode)

def textVerdict (truth : Leaf → Bool) (body : JsonObject) : Verdict :=
  if asksForText body then
    Verdict.of (getTextSearchRequest body) fun text =>
      text.q.elim ⊤ fun q => verdictOf truth (shouldQuery (textClauses text q) (some 1))
  else ⊤

/-- What is checked of a request besides its criteria and its text. -/
structure Passes (unicode : Unicode) (context : RoutingContext) (body : JsonObject) : Prop where
  size : ∃ size, getSize context = .ok size
  page : ∃ page, getPage context = .ok page
  array : ∃ filter, body.getJsonArray "filter" = .ok filter
  filters : ∃ names, getFilters body = .ok names
  fuzzy : ∃ fuzzy, body.getBooleanOr "fuzzy" false = .ok (some fuzzy)
  autoComplete : ∃ autoComplete, body.getBooleanOr "autoComplete" false = .ok (some autoComplete)
  attrs : ∃ items names, body.getJsonArrayOr "attrs" [] = .ok (some items) ∧ getList items = .ok names
  filter : ∃ items names, body.getJsonArrayOr "filter" [] = .ok (some items) ∧ getList items = .ok names
  sort : ∃ orders fields, extractSortOrders unicode context.sort = .ok orders ∧ sortFields orders = .ok fields

/-- The parts of two bodies agree that have to do with neither criteria nor text. -/
def SameRest (body other : JsonObject) : Prop :=
  ∀ key, key ≠ "searchCriteria" → key ≠ "q" → body.get? key = other.get? key

theorem Passes.congr (passes : Passes unicode context body) (same : SameRest body other) :
    Passes unicode context other := by
  have filter := same "filter" (by decide) (by decide)
  have attrs := same "attrs" (by decide) (by decide)
  have fuzzy := same "fuzzy" (by decide) (by decide)
  have autoComplete := same "autoComplete" (by decide) (by decide)
  obtain ⟨size, page, array, filters, fuzzily, completes, attrs_, filter_, sort⟩ := passes
  simp only [getFilters, JsonObject.getJsonArray, JsonObject.getJsonArrayOr, JsonObject.getBooleanOr,
    JsonObject.getBoolean, JsonObject.containsKey, filter, attrs, fuzzy, autoComplete]
    at array filters fuzzily completes attrs_ filter_
  exact ⟨size, page, array, filters, fuzzily, completes, attrs_, filter_, sort⟩

theorem text_of_build (given : context.body = some body)
    (built : build unicode isAssetSearch false context = .ok request) :
    ∃ text, getTextSearchRequest body = .ok text ∧ text.q = body.getString "q" ∧
      request.textSearchRequest = some text := by
  simp only [build, given, bind_eq_ok, nonNull_eq_ok, pure, Except.pure, Except.ok.injEq, Option.some.injEq,
    exists_eq_left'] at built
  obtain ⟨type, -, size, -, page, -, filter, -, text, asked, criteria, -, response, -, sort, -, rfl⟩ := built
  have same := asked
  simp only [getTextSearchRequest, bind_eq_ok, nonNull_eq_ok, pure, Except.pure, Except.ok.injEq] at same
  obtain ⟨_, -, fuzzy, -, _, -, autoComplete, -, rfl⟩ := same
  exact ⟨_, asked, rfl, rfl⟩

theorem exists_response_of_build (built : build unicode isAssetSearch false context = .ok request)
    (queryMap : QueryMap) :
    ∃ after, addIf (asksFor request "responseFilter") (addResponseFilter request.responseFilterRequest) queryMap =
      .ok after := by
  obtain ⟨body, builtFrom⟩ := builtFrom_of_build built
  obtain ⟨array, filter, asks⟩ := asks_of_built builtFrom
  obtain ⟨response, read, given⟩ := builtFrom.responseFilter
  cases asked : asksFor request "responseFilter" with
  | false => exact ⟨queryMap, rfl⟩
  | true =>
      rw [asks.responseFilter] at asked
      rw [given]
      exact exists_addResponseFilter asks.filter_ asked read queryMap

/-- The text search, the access policy and the response filter, which come
after the criteria. -/
def laterClauses (request : QueryDecoderRequestDTO) (queryMap : QueryMap) : Except Throwable QueryMap := do
  let queryMap ← addIf (asksFor request "textSearch") (addTextSearch request.textSearchRequest) queryMap
  let queryMap ← addAccessPolicy request.accessPolicyRequest queryMap
  addIf (asksFor request "responseFilter") (addResponseFilter request.responseFilterRequest)
    (addExclusions queryMap)

theorem verdict_addTextSearch (truth : Leaf → Bool) (given : context.body = some body)
    (built : build unicode isAssetSearch false context = .ok request) {queryMap : QueryMap}
    (noShould : queryMap.should = []) :
    ∃ after, addIf (asksFor request "textSearch") (addTextSearch request.textSearchRequest) queryMap = .ok after ∧
      after.should = [] ∧ after.verdict truth = queryMap.verdict truth ⊓ textVerdict truth body := by
  obtain ⟨text, read, named, asked⟩ := text_of_build given built
  obtain ⟨_, builtFrom⟩ := builtFrom_of_build built
  obtain rfl := Option.some.inj (given.symm.trans builtFrom.given)
  obtain ⟨array, filter, asks⟩ := asks_of_built builtFrom
  rw [asks.textSearch, asked, textVerdict, read]
  cases asksText : asksForText body with
  | false => exact ⟨queryMap, rfl, noShould, (inf_top_eq _).symm⟩
  | true =>
      obtain ⟨q, given_, filled⟩ := (Option.any_eq_true _ _).mp asksText
      have visible : isBlank q = false := by simpa using filled
      have stored : text.q = some q := named.trans given_
      refine ⟨queryMap.addMust (shouldQuery (textClauses text q) (some 1)), ?_, noShould, ?_⟩
      · simp [addIf, addTextSearch, nonNull, stored, visible, bind, Except.bind, pure, Except.pure]
      · rw [QueryMap.verdict_addMust noShould, if_pos rfl, Verdict.of, stored, Option.elim_some]

theorem verdict_laterClauses (given : context.body = some body)
    (built : build unicode isAssetSearch false context = .ok request) {queryMap : QueryMap}
    (noShould : queryMap.should = []) :
    Verdict.of (laterClauses request queryMap) (QueryMap.verdict truth) =
      queryMap.verdict truth ⊓
        (textVerdict truth body ⊓ accessVerdict truth (getAccessPolicyRequest isAssetSearch context.subject)) := by
  obtain ⟨_, builtFrom⟩ := builtFrom_of_build built
  obtain ⟨after, added, noShould_, verdict⟩ := verdict_addTextSearch truth given built noShould
  obtain ⟨last, filtered⟩ := exists_response_of_build built
    (addExclusions (accessPolicyClause (getAccessPolicyRequest isAssetSearch context.subject) after))
  have unshould : (addExclusions (accessPolicyClause (getAccessPolicyRequest isAssetSearch context.subject)
      after)).should = [] := should_accessPolicyClause.trans noShould_
  simp only [laterClauses, added, addAccessPolicy, builtFrom.access, nonNull, bind, Except.bind, pure, Except.pure,
    filtered, Verdict.of]
  rw [(adds_addIf filtered).verdict_eq unshould, verdict_access _ noShould_, verdict, inf_assoc]

theorem verdict_addSearchCriteria_of_build (given : context.body = some body)
    (built : build unicode isAssetSearch false context = .ok request) {criteria : Option (List Json)}
    (stored : body.get? "searchCriteria" = criteria.map .arr) :
    Verdict.of (addIf (asksFor request "searchCriteria") (addSearchCriteria unicode request.searchCriteriaRequest) {})
        (QueryMap.verdict truth) =
      criteria.elim ⊤ fun items => Verdict.all (items.map (itemVerdict truth unicode)) := by
  obtain ⟨_, builtFrom⟩ := builtFrom_of_build built
  obtain rfl := Option.some.inj (given.symm.trans builtFrom.given)
  obtain ⟨array, filter, asks⟩ := asks_of_built builtFrom
  rw [asks.searchCriteria]
  cases criteria with
  | none =>
      have absent : body.getJsonArray "searchCriteria" = .ok none := by
        rw [JsonObject.getJsonArray, stored]
        rfl
      obtain rfl := Except.ok.inj (absent.symm.trans asks.criteria_)
      exact QueryMap.verdict_empty
  | some items =>
      obtain ⟨nonempty, narrowed, read, named⟩ := getSearchCriteriaRequest_eq_ok stored builtFrom.criteria
      obtain rfl := Except.ok.inj ((JsonObject.getJsonArray_eq_ok.mpr stored).symm.trans asks.criteria_)
      have narrows : narrowed ≠ [] := by
        rw [← List.length_pos_iff] at nonempty ⊢
        rw [← (mapM_eq_ok_iff.mp read).length_eq]
        exact nonempty
      have each := Verdict.of_mapM SearchCriteriaDTO.fromJson (criterionVerdict truth unicode) items
      rw [read] at each
      rw [isFilled_iff.mpr ⟨items, rfl, nonempty⟩, named, addIf, if_pos rfl, verdict_addSearchCriteria narrows rfl,
        QueryMap.verdict_empty, top_inf_eq]
      exact each

theorem should_of_addSearchCriteria {asked : Bool} {queryMap : QueryMap}
    (added : addIf asked (addSearchCriteria unicode request.searchCriteriaRequest) {} = .ok queryMap) :
    queryMap.should = [] := by
  rcases addIf_cases added with ⟨-, added⟩ | ⟨-, rfl⟩
  · rw [should_addSearchCriteria added]
  · rfl

/-- A built request asks for each of its parts. -/
theorem verdict_of_build (given : context.body = some body)
    (built : build unicode isAssetSearch false context = .ok request) {criteria : Option (List Json)}
    (stored : body.get? "searchCriteria" = criteria.map .arr) :
    Verdict.of (getQueryMap unicode request) (QueryMap.verdict truth) =
      (criteria.elim ⊤ fun items => Verdict.all (items.map (itemVerdict truth unicode))) ⊓
        (textVerdict truth body ⊓ accessVerdict truth (getAccessPolicyRequest isAssetSearch context.subject)) := by
  have stages : getQueryMap unicode request =
      addIf (asksFor request "searchCriteria") (addSearchCriteria unicode request.searchCriteriaRequest) {} >>=
        laterClauses request := rfl
  rw [stages, Verdict.of_bind, ← verdict_addSearchCriteria_of_build given built stored, ← Verdict.of_inf]
  exact Verdict.of_congr fun queryMap added => verdict_laterClauses given built (should_of_addSearchCriteria added)

/-- Where a request can be built and its sort order is one, what is sent for it
is the query of its clauses. -/
theorem selection_of_build (built : build unicode isAssetSearch false context = .ok request)
    {fields : List (String × String)} (sorted : sortFields request.sort = .ok fields) :
    selection truth unicode isAssetSearch context =
      Verdict.of (getQueryMap unicode request) (QueryMap.verdict truth) := by
  obtain ⟨body, builtFrom⟩ := builtFrom_of_build built
  obtain ⟨array, filter, asks⟩ := asks_of_built builtFrom
  have ordinary := ordinary_of_build built
  simp only [selection, sentRequest, built, searchModel, sorted, getQueryModel, ordinary, asks.valid, Bool.not_true,
    Bool.false_eq_true, if_false, bind, Except.bind, pure, Except.pure]
  cases getQueryMap unicode request with
  | error cause => rfl
  | ok queryMap =>
      obtain ⟨size, sized⟩ := builtFrom.size
      simp only [sized, searchRequest, Option.getD_none, List.mapM_nil, searchQuery, QueryMap.verdict, verdictOf, bind,
        Except.bind, pure, Except.pure, Verdict.of]
      cases queryMap.getBoolQuery.toElasticsearchQuery with
      | error cause => rfl
      | ok query => rfl

theorem passes_of_sent (given : context.body = some body) {sent : SearchRequest}
    (accepted : sentRequest unicode isAssetSearch context = .ok sent) :
    Passes unicode context body ∧ ∃ request, build unicode isAssetSearch false context = .ok request := by
  simp only [sentRequest, searchModel, bind_eq_ok, pure, Except.pure, Except.ok.injEq] at accepted
  obtain ⟨request, built, _, ⟨_, -, fields, sorted, rfl⟩, -⟩ := accepted
  refine ⟨?_, request, built⟩
  simp only [build, given, bind_eq_ok, nonNull_eq_ok, pure, Except.pure, Except.ok.injEq, Option.some.injEq,
    exists_eq_left'] at built
  obtain ⟨type, named, size, sized, page, paged, filter, listed, text, asked, criteria, -, response, answered, sort,
    ordered, rfl⟩ := built
  simp only [getTextSearchRequest, bind_eq_ok, nonNull_eq_ok, pure, Except.pure, Except.ok.injEq] at asked
  obtain ⟨_, first, fuzzy, rfl, _, second, autoComplete, rfl, -⟩ := asked
  simp only [getResponseFilterRequest, named, bind_eq_ok, nonNull_eq_ok, pure, Except.pure, Except.ok.injEq] at answered
  obtain ⟨-, -, _, attrs, _, rfl, attrNames, attrList, _, names, _, rfl, filterNames, filterList, -⟩ := answered
  simp only [buildSearchType, bind_eq_ok] at named
  obtain ⟨_, -, array, stored, -⟩ := named
  exact ⟨⟨size, sized⟩, ⟨page, paged⟩, ⟨array, stored⟩, ⟨filter, listed⟩, ⟨fuzzy, first⟩, ⟨autoComplete, second⟩,
    ⟨_, attrNames, attrs, attrList⟩, ⟨_, filterNames, names, filterList⟩, ⟨sort, fields, ordered, sorted⟩⟩

theorem exists_build (given : context.body = some body) (passes : Passes unicode context body)
    {criteria : Option (List Json)} (stored : body.get? "searchCriteria" = criteria.map .arr)
    (nonempty : criteria ≠ some []) (asks : criteria.isSome = true ∨ asksForText body = true)
    (parsed : ∀ items, criteria = some items → ∃ narrowed, items.mapM SearchCriteriaDTO.fromJson = .ok narrowed) :
    ∃ request fields, build unicode isAssetSearch false context = .ok request ∧
      sortFields request.sort = .ok fields := by
  obtain ⟨⟨size, sized⟩, ⟨page, paged⟩, ⟨array, listed⟩, ⟨names, filters⟩, ⟨fuzzy, first⟩, ⟨autoComplete, second⟩,
    ⟨attrs, attrNames, attrs_, attrList⟩, ⟨filter, filterNames, filter_, filterList⟩, orders, fields, ordered,
    sorted⟩ := passes
  have criteria_ : body.getJsonArray "searchCriteria" = .ok criteria ∧
      (criteria.isSome = true → isFilled criteria = true) ∧
      ∃ narrowed, getSearchCriteriaRequest body = .ok narrowed := by
    cases criteria with
    | none => simp [JsonObject.getJsonArray, getSearchCriteriaRequest, JsonObject.containsKey, stored]
    | some items =>
        have filled_ : items ≠ [] := fun empty => nonempty (by rw [empty])
        obtain ⟨narrowed, read⟩ := parsed items rfl
        refine ⟨JsonObject.getJsonArray_eq_ok.mpr stored, fun _ => isFilled_iff.mpr ⟨items, rfl, filled_⟩,
          some ⟨some narrowed⟩, ?_⟩
        simp [getSearchCriteriaRequest, JsonObject.containsKey, stored, JsonObject.getJsonArray_eq_ok.mpr stored,
          filled_, read, bind, Except.bind, pure, Except.pure]
  obtain ⟨stored_, filled_, narrowed, narrows⟩ := criteria_
  have asks_ : (isFilled criteria || asksForText body || isFilled array) = true := by
    rcases asks with some_ | text
    · simp [filled_ some_]
    · simp [text]
  obtain ⟨type, named⟩ : ∃ type, buildSearchType body = .ok type := by
    simp only [buildSearchType, stored_, listed, bind, Except.bind, asks_, if_true, pure, Except.pure]
    exact ⟨_, rfl⟩
  have response : getResponseFilterRequest body false =
      .ok ⟨some type, some false, some attrNames, some filterNames⟩ := by
    simp only [getResponseFilterRequest, named, attrs_, attrList, filter_, filterList, nonNull, bind, Except.bind, pure,
      Except.pure]
  have text : getTextSearchRequest body = .ok ⟨body.getString "q", some fuzzy, some autoComplete⟩ := by
    simp only [getTextSearchRequest, first, second, nonNull, bind, Except.bind, pure, Except.pure]
  obtain ⟨request, built, rfl⟩ :
      ∃ request, build unicode isAssetSearch false context = .ok request ∧ request.sort = orders := by
    simp only [build, given, named, sized, paged, filters, text, narrows, response, ordered, nonNull, bind, Except.bind,
      pure, Except.pure]
    exact ⟨_, rfl, rfl⟩
  exact ⟨request, fields, built, sorted⟩

open Classical in
/-- What a request says of a document besides its criteria and its text. -/
noncomputable def restVerdict (truth : Leaf → Bool) (unicode : Unicode) (isAssetSearch : Bool)
    (context : RoutingContext) (body : JsonObject) : Verdict :=
  if Passes unicode context body then accessVerdict truth (getAccessPolicyRequest isAssetSearch context.subject) else ⊥

theorem selection_eq_bot (refused : ∀ sent, sentRequest unicode isAssetSearch context ≠ .ok sent) :
    selection truth unicode isAssetSearch context = ⊥ := by
  cases accepted : sentRequest unicode isAssetSearch context with
  | error cause => rw [selection, accepted, Verdict.of]
  | ok sent => exact absurd accepted (refused sent)

/-- A search says what its criteria, its text and the rest of it say at once. -/
theorem selection_eq (given : context.body = some body) {criteria : Option (List Json)}
    (stored : body.get? "searchCriteria" = criteria.map .arr) (nonempty : criteria ≠ some [])
    (asks : criteria.isSome = true ∨ asksForText body = true) :
    selection truth unicode isAssetSearch context =
      (criteria.elim ⊤ fun items => Verdict.all (items.map (itemVerdict truth unicode))) ⊓
        (textVerdict truth body ⊓ restVerdict truth unicode isAssetSearch context body) := by
  by_cases passes : Passes unicode context body
  · by_cases parsed : ∀ items, criteria = some items → ∃ narrowed, items.mapM SearchCriteriaDTO.fromJson = .ok narrowed
    · obtain ⟨request, fields, built, sorted⟩ := exists_build given passes stored nonempty asks parsed
      rw [selection_of_build built sorted, verdict_of_build given built stored, restVerdict, if_pos passes]
    · -- A criterion that cannot be read refuses the search.
      push Not at parsed
      obtain ⟨items, rfl, unread⟩ := parsed
      have refused : Verdict.all (items.map (itemVerdict truth unicode)) = ⊥ := by
        have each := Verdict.of_mapM SearchCriteriaDTO.fromJson (criterionVerdict truth unicode) items
        cases read : items.mapM SearchCriteriaDTO.fromJson with
        | ok narrowed => exact absurd read (unread narrowed)
        | error cause =>
            rw [read] at each
            exact each.symm
      rw [Option.elim_some, refused, bot_inf_eq]
      refine selection_eq_bot fun sent accepted => ?_
      obtain ⟨-, request, built⟩ := passes_of_sent given accepted
      obtain ⟨_, builtFrom⟩ := builtFrom_of_build built
      obtain rfl := Option.some.inj (given.symm.trans builtFrom.given)
      obtain ⟨-, narrowed, read, -⟩ := getSearchCriteriaRequest_eq_ok stored builtFrom.criteria
      exact unread narrowed read
  · rw [restVerdict, if_neg passes, inf_bot_eq, inf_bot_eq]
    exact selection_eq_bot fun sent accepted => passes (passes_of_sent given accepted).1

theorem textVerdict_congr (same : ∀ key, key ≠ "searchCriteria" → body.get? key = other.get? key) :
    textVerdict truth body = textVerdict truth other := by
  have flag : ∀ key, body.get? key = other.get? key → body.getBooleanOr key false = other.getBooleanOr key false := by
    intro key stored
    rw [JsonObject.getBooleanOr, JsonObject.getBoolean, JsonObject.containsKey, stored]
    rfl
  have q := JsonObject.getString_congr (same "q" (by decide))
  have asks : asksForText body = asksForText other := by rw [asksForText, asksForText, q]
  have text : getTextSearchRequest body = getTextSearchRequest other := by
    rw [getTextSearchRequest, getTextSearchRequest, q, flag "fuzzy" (same "fuzzy" (by decide)),
      flag "autoComplete" (same "autoComplete" (by decide))]
  rw [textVerdict, textVerdict, asks, text]

/-- A request with another body. -/
def asking (context : RoutingContext) (body : JsonObject) : RoutingContext := { context with body := some body }

theorem restVerdict_asking (same : SameRest body other) :
    restVerdict truth unicode isAssetSearch (asking context body) body =
      restVerdict truth unicode isAssetSearch context other := by
  have agree : Passes unicode (asking context body) body ↔ Passes unicode context other := by
    constructor
    · intro passes
      obtain ⟨size, page, array, filters, fuzzy, autoComplete, attrs, filter, sort⟩ := passes.congr same
      exact ⟨size, page, array, filters, fuzzy, autoComplete, attrs, filter, sort⟩
    · intro passes
      obtain ⟨size, page, array, filters, fuzzy, autoComplete, attrs, filter, sort⟩ :=
        passes.congr fun key criteria text => (same key criteria text).symm
      exact ⟨size, page, array, filters, fuzzy, autoComplete, attrs, filter, sort⟩
  by_cases passes : Passes unicode context other
  · rw [restVerdict, restVerdict, if_pos passes, if_pos (agree.mpr passes)]
    rfl
  · rw [restVerdict, restVerdict, if_neg passes, if_neg fun passes_ => passes (agree.mp passes_)]

/-- The search of a body with criteria, given what else is in it. -/
theorem selection_criteria {items : List Json} (nonempty : items ≠ [])
    (stored : other.get? "searchCriteria" = some (.arr items)) (same : SameRest other body) :
    selection truth unicode isAssetSearch (asking context other) =
      Verdict.all (items.map (itemVerdict truth unicode)) ⊓
        (textVerdict truth other ⊓ restVerdict truth unicode isAssetSearch context body) := by
  have some_ : (some items : Option (List Json)) ≠ some [] := fun empty => nonempty (Option.some.inj empty)
  have whole := @selection_eq truth unicode isAssetSearch (asking context other) other rfl (some items) stored some_
    (.inl rfl)
  rwa [Option.elim_some, restVerdict_asking same] at whole

theorem selection_text (absent : other.get? "searchCriteria" = none) (asks : asksForText other = true)
    (same : SameRest other body) :
    selection truth unicode isAssetSearch (asking context other) =
      textVerdict truth other ⊓ restVerdict truth unicode isAssetSearch context body := by
  have whole := @selection_eq truth unicode isAssetSearch (asking context other) other rfl none absent
    (Option.some_ne_none _).symm (.inr asks)
  rwa [Option.elim_none, top_inf_eq, restVerdict_asking same] at whole

theorem textVerdict_none (absent : body.get? "q" = none) : textVerdict truth body = ⊤ := by
  have silent : body.getString "q" = none := by rw [JsonObject.getString, absent]
  rw [textVerdict, asksForText, silent]
  rfl

end

/-- What a search says of a document is what the searches for its criteria one
by one say at once, and what the searches for its criteria and for its text say
at once; it is refused when one of them is. -/
theorem search_composes (truth : Leaf → Bool) (unicode : Unicode) (isAssetSearch : Bool) (context : RoutingContext)
    (body : JsonObject) (items : List Json) (nonempty : items ≠ []) (q : String) (visible : isBlank q = false) :
    selection truth unicode isAssetSearch (asking context (body.put "searchCriteria" (.arr items))) =
        Verdict.all (items.map fun item =>
          selection truth unicode isAssetSearch (asking context (body.put "searchCriteria" (.arr [item])))) ∧
      selection truth unicode isAssetSearch
          (asking context ((body.put "searchCriteria" (.arr items)).put "q" (.str q))) =
        selection truth unicode isAssetSearch
            (asking context ((body.put "searchCriteria" (.arr items)).remove "q")) ⊓
          selection truth unicode isAssetSearch
            (asking context ((body.put "q" (.str q)).remove "searchCriteria")) := by
  have same : ∀ criteria, SameRest (body.put "searchCriteria" criteria) body := by
    intro criteria key other _
    rw [JsonObject.get?_put, if_neg other]
  refine ⟨?each, ?text⟩
  case each =>
    have text : ∀ criteria, textVerdict truth (body.put "searchCriteria" criteria) = textVerdict truth body := by
      intro criteria
      exact textVerdict_congr fun key other => by rw [JsonObject.get?_put, if_neg other]
    have single : ∀ item, selection truth unicode isAssetSearch
        (asking context (body.put "searchCriteria" (.arr [item]))) =
          itemVerdict truth unicode item ⊓
            (textVerdict truth body ⊓ restVerdict truth unicode isAssetSearch context body) := by
      intro item
      rw [selection_criteria (List.cons_ne_nil item []) (by simp) (same _), text, List.map_singleton,
        Verdict.all_singleton]
    simp only [single]
    rw [Verdict.all_map_inf nonempty, selection_criteria nonempty (by simp) (same _), text]
  case text =>
    have both : SameRest ((body.put "searchCriteria" (.arr items)).put "q" (.str q)) body := by
      intro key other other_
      rw [JsonObject.get?_put, if_neg other_, JsonObject.get?_put, if_neg other]
    have criteria : SameRest ((body.put "searchCriteria" (.arr items)).remove "q") body := by
      intro key other other_
      rw [JsonObject.get?_remove, if_neg other_, JsonObject.get?_put, if_neg other]
    have text : SameRest ((body.put "q" (.str q)).remove "searchCriteria") body := by
      intro key other other_
      rw [JsonObject.get?_remove, if_neg other, JsonObject.get?_put, if_neg other_]
    have alike : textVerdict truth ((body.put "searchCriteria" (.arr items)).put "q" (.str q)) =
        textVerdict truth ((body.put "q" (.str q)).remove "searchCriteria") :=
      textVerdict_congr fun key other => by
        rw [JsonObject.get?_remove, if_neg other, JsonObject.get?_put, JsonObject.get?_put, JsonObject.get?_put,
          if_neg other]
    have stored : ((body.put "q" (.str q)).remove "searchCriteria").get? "q" = some (.str q) := by
      rw [JsonObject.get?_remove, if_neg (by decide), JsonObject.get?_put_self]
    have asks : asksForText ((body.put "q" (.str q)).remove "searchCriteria") = true := by
      rw [asksForText, JsonObject.getString_of_get? stored, Option.any_some, visible]
      rfl
    have first : ((body.put "searchCriteria" (.arr items)).put "q" (.str q)).get? "searchCriteria" =
        some (.arr items) := by
      rw [JsonObject.get?_put, if_neg (by decide), JsonObject.get?_put_self]
    have second : ((body.put "searchCriteria" (.arr items)).remove "q").get? "searchCriteria" = some (.arr items) := by
      rw [JsonObject.get?_remove, if_neg (by decide), JsonObject.get?_put_self]
    have silent : ((body.put "searchCriteria" (.arr items)).remove "q").get? "q" = none := by
      rw [JsonObject.get?_remove, if_pos rfl]
    have absent : ((body.put "q" (.str q)).remove "searchCriteria").get? "searchCriteria" = none := by
      rw [JsonObject.get?_remove, if_pos rfl]
    rw [selection_criteria nonempty first both, selection_criteria nonempty second criteria, textVerdict_none silent,
      top_inf_eq, selection_text absent asks text, alike]
    ac_rfl

def rainCriterion : Json :=
  .obj [("searchType", .str "term"), ("field", .str "name"), ("values", .arr [.str "Rain"])]

/-- The search of a document that is tagged "ai". -/
def searchTagged (body : JsonObject) : Verdict :=
  selection (fun leaf => tagTruth leaf .empty) asciiUnicode false (asking (tagRequest []) body)

/-- The document has the tag and not the name; without values there is nothing to ask. -/
example : searchTagged (tagBody []) = ⊤ ∧
    searchTagged ((tagBody []).put "searchCriteria" (.arr (rainCriterion :: tagCriteria))) = .misses ∧
    searchTagged ((tagBody []).put "searchCriteria" (.arr (.obj [] :: tagCriteria))) = ⊥ := by
  decide +kernel

theorem search_composes_tagged :
    searchTagged ((tagBody []).put "searchCriteria" (.arr (rainCriterion :: tagCriteria))) =
        Verdict.all ((rainCriterion :: tagCriteria).map fun item =>
          searchTagged ((tagBody []).put "searchCriteria" (.arr [item]))) ∧
      searchTagged (((tagBody []).put "searchCriteria" (.arr (rainCriterion :: tagCriteria))).put "q" (.str "water")) =
        searchTagged (((tagBody []).put "searchCriteria" (.arr (rainCriterion :: tagCriteria))).remove "q") ⊓
          searchTagged (((tagBody []).put "q" (.str "water")).remove "searchCriteria") :=
  search_composes _ asciiUnicode false (tagRequest []) (tagBody []) (rainCriterion :: tagCriteria)
    (List.cons_ne_nil _ _) "water" (by decide +kernel)

end Tgdex.Properties
