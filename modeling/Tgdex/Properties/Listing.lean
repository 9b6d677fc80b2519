import Tgdex.Query.Meaning
import Tgdex.Search.Listing

namespace Tgdex.Properties

open Tgdex.Data Tgdex.Java Tgdex.Elastic Tgdex.Query Tgdex.Items Tgdex.Search

/-! # Lists that the schema admits -/

/-- A criterion as docs/openapi.yaml means it for lists: a term with some value. -/
def IsTermCriterion (item : Json) : Prop :=
  ∃ fields field values, item = .obj fields ∧ fields.lookup "searchType" = some (.str "term") ∧
    fields.lookup "field" = some (.str field) ∧ fields.lookup "values" = some (.arr values) ∧ values ≠ []

/-- A body of a list that asks for some field, of all documents or of those that
meet some criteria. -/
structure AsksList (body : JsonObject) (names : List String) : Prop where
  admitted : admitsList body = true
  filter : body.get? "filter" = some (.arr (names.map .str))
  some_ : names ≠ []
  criteria : body.get? "searchCriteria" = none ∨ ∃ items, body.get? "searchCriteria" = some (.arr items) ∧ items ≠ [] ∧
    ∀ item ∈ items, IsTermCriterion item

variable {unicode : Unicode} {context : RoutingContext} {body : JsonObject} {names : List String}
  {request : QueryDecoderRequestDTO} {criterion : SearchCriteriaDTO}

theorem texts_of_admitted (asks : AsksList body names) {items : List Json}
    (stored : body.get? "searchCriteria" = some (.arr items)) : ∀ item ∈ items, isListCriteria item = true := by
  obtain ⟨check, named, valid⟩ := closed_lookup asks.admitted stored
  obtain rfl := Option.some.inj named
  obtain ⟨own, same, criteria⟩ := isListOf_iff.mp valid
  rwa [← Json.arr.inj same] at criteria

theorem documented_of_term {item : Json} (term : IsTermCriterion item) (admitted : isListCriteria item = true)
    (read : SearchCriteriaDTO.fromJson item = .ok criterion) : criterion.Documented := by
  obtain ⟨fields, field, values, rfl, type, named, valued, filled⟩ := term
  obtain ⟨check, listed, valid⟩ := closed_lookup admitted valued
  obtain rfl := Option.some.inj listed
  obtain ⟨own, same, texts⟩ := isListOf_iff.mp valid
  obtain rfl := Json.arr.inj same
  have array : JsonObject.getJsonArray ⟨fields⟩ "values" = .ok (some values) := JsonObject.getJsonArray_eq_ok.mpr valued
  have field_ : JsonObject.getString ⟨fields⟩ "field" = some field := JsonObject.getString_of_get? named
  have type_ : JsonObject.getString ⟨fields⟩ "searchType" = some "term" := JsonObject.getString_of_get? type
  simp only [SearchCriteriaDTO.fromJson, array, field_, type_, bind, Except.bind, nonNull, pure, Except.pure,
    Except.ok.injEq] at read
  subst read
  refine ⟨by simp, fun value member null => ?_, .inl ⟨rfl, filled⟩⟩
  have text := texts value member
  rw [null] at text
  cases text

theorem documented_of_built (asks : AsksList body names) (built : build unicode false false context = .ok request)
    (given : context.body = some body) (present : body.get? "searchCriteria" ≠ none) :
    ∃ criteria, criteria ≠ [] ∧ request.searchCriteriaRequest = some ⟨some criteria⟩ ∧
      ∀ criterion ∈ criteria, criterion.Documented := by
  obtain ⟨items, stored, nonempty, terms⟩ := asks.criteria.resolve_left present
  obtain ⟨other, builtFrom⟩ := builtFrom_of_build built
  obtain rfl := Option.some.inj (given.symm.trans builtFrom.given)
  obtain ⟨-, criteria, read, same⟩ := getSearchCriteriaRequest_eq_ok stored builtFrom.criteria
  have mapped := mapM_eq_ok_iff.mp read
  refine ⟨criteria, ?_, same, ?_⟩
  · have lengths := mapped.length_eq
    rw [← List.length_pos_iff] at nonempty ⊢
    omega
  · refine forall_of_forall₂ (fun item member criterion made => ?_) mapped
    exact documented_of_term (terms item member) (texts_of_admitted asks stored item member) made

theorem exists_addInstanceFilter (request : InstanceFilterRequestDTO) (queryMap : QueryMap) :
    ∃ after, addInstanceFilter (some request) queryMap = .ok after := by
  simp only [addInstanceFilter, nonNull, bind, Except.bind]
  split
  · exact ⟨_, rfl⟩
  · exact ⟨_, rfl⟩

/-- With documented criteria the decoder makes a query that can be sent. -/
theorem exists_searchQuery {access : AccessPolicyRequestDTO} {instance_ : InstanceFilterRequestDTO}
    {criteria : List SearchCriteriaDTO} (accessed : request.accessPolicyRequest = some access)
    (instanced : request.instanceFilterRequest = some instance_)
    (narrowed : request.searchCriteriaRequest = some ⟨some criteria⟩) (nonempty : criteria ≠ [])
    (documented : ∀ criterion ∈ criteria, criterion.Documented) :
    ∃ model query, listMultipleItemTypesQuery unicode request = .ok model ∧ searchQuery model = .ok query := by
  obtain ⟨queryMap, added⟩ := @exists_addSearchCriteria unicode (accessPolicyClause access {}) criteria nonempty documented
  obtain ⟨final, filtered⟩ := exists_addInstanceFilter instance_ queryMap
  have adds := adds_addInstanceFilter filtered
  have noShould : (addExclusions final).should = [] :=
    calc (addExclusions final).should
        = final.should := rfl
      _ = queryMap.should := adds.should
      _ = (accessPolicyClause access {}).should := should_addSearchCriteria added
      _ = [] := should_accessPolicyClause
  have builds : (addExclusions final).Builds := by
    rw [builds_addExclusions, adds.builds]
    exact builds_addSearchCriteria added (builds_accessPolicyClause.mpr QueryMap.builds_empty)
      fun criterion member => (documented criterion member).named
  obtain ⟨query, converted⟩ := (QueryMap.convertible_getBoolQuery noShould).mpr builds
  have made : (addExclusions final).getBoolQuery.toElasticsearchQuery = .ok query := converted
  have accessPolicy : addAccessPolicy (some access) {} = .ok (accessPolicyClause access {}) := rfl
  simp only [listMultipleItemTypesQuery, accessed, instanced, narrowed, accessPolicy, added, filtered, bind, Except.bind,
    pure, Except.pure, Except.ok.injEq]
  exact ⟨_, some query, rfl, by simp only [searchQuery, made, Except.map_ok]⟩

theorem not_listed_of_no_criteria (absent : request.searchCriteriaRequest = none) (model : QueryModel) :
    listMultipleItemTypesQuery unicode request ≠ .ok model := by
  intro decoded
  simp only [listMultipleItemTypesQuery, absent, addSearchCriteria, bind_eq_ok, nonNull_eq_ok, reduceCtorEq, false_and,
    exists_false, and_false] at decoded

/-- The handler sends a query: neither building the request nor decoding it throws. -/
def IsServed (unicode : Unicode) (context : RoutingContext) : Prop :=
  ∃ sent, Sends .aggregationList (ListController.handleGetAvailableFilters unicode context) sent

/-- Without criteria the query is about access and the exclusions alone. -/
def FindsAllowed (engine : Engine) (unicode : Unicode) (context : RoutingContext) (body : JsonObject) : Prop :=
  body.get? "searchCriteria" = none →
    ∃ sent, Sends .aggregationList (ListController.handleGetAvailableFilters unicode context) sent ∧
      ∀ document, sent.query.all (engine.matchesQuery document) = true ↔
        Visible (engine.leafHolds document) (getAccessPolicyRequest false context.subject)

theorem isServed_iff (asks : AsksList body names) (given : context.body = some body) (unsized : context.size = none)
    (unpaged : context.page = none) (unsorted : context.sort = none) :
    IsServed unicode context ↔ body.get? "searchCriteria" ≠ none := by
  have readable := readable_of_admitsList asks.admitted
  have sends := fun query => @sends_list_iff unicode context body query names given asks.filter asks.some_
  have served : IsServed unicode context ↔ ∃ query, listedQuery unicode context = .ok query := by
    simp only [← sends, IsServed]
    exact ⟨fun shown => shown.elim fun sent made => ⟨_, sent, made, rfl⟩,
      fun shown => shown.elim fun _ made => made.elim fun sent own => ⟨sent, own.1⟩⟩
  rw [served]
  have buildable : body.get? "searchCriteria" ≠ some (.arr []) → Buildable unicode context body := by
    intro filled
    refine ⟨filled, ?_, by simp [IsInt32, unsized], by simp [IsInt32, unpaged], by simp [IsSort, unsorted]⟩
    simp [hasEntries, asks.filter, asks.some_]
  refine ⟨fun shown absent => ?_, fun present => ?_⟩
  · obtain ⟨query, made⟩ := shown
    simp only [listedQuery, bind_eq_ok] at made
    obtain ⟨request, built, model, decoded, -⟩ := made
    obtain ⟨other, builtFrom⟩ := builtFrom_of_build built
    obtain rfl := Option.some.inj (given.symm.trans builtFrom.given)
    have criteria := builtFrom.criteria
    rw [getSearchCriteriaRequest, JsonObject.containsKey, absent] at criteria
    exact not_listed_of_no_criteria (Except.ok.inj criteria).symm model decoded
  · obtain ⟨items, stored, nonempty, -⟩ := asks.criteria.resolve_left present
    have filled : body.get? "searchCriteria" ≠ some (.arr []) := by simpa [stored] using nonempty
    obtain ⟨request, built⟩ := (@exists_build_iff unicode false false _ _ readable given).mpr (buildable filled)
    obtain ⟨criteria, some_, narrowed, documented⟩ := documented_of_built asks built given present
    obtain ⟨other, builtFrom⟩ := builtFrom_of_build built
    obtain ⟨model, query, decoded, converted⟩ :=
      @exists_searchQuery unicode _ _ _ _ builtFrom.access builtFrom.instance_ narrowed some_ documented
    refine ⟨query, ?_⟩
    simp only [listedQuery, built, decoded, converted, bind, Except.bind]

/-- A list that the schema admits is served as documented exactly when it
brings criteria. -/
theorem list_served_iff (engine : Engine) (unicode : Unicode) (context : RoutingContext) (body : JsonObject)
    (names : List String) (asks : AsksList body names) (given : context.body = some body)
    (unsized : context.size = none) (unpaged : context.page = none) (unsorted : context.sort = none) :
    (IsServed unicode context ∧ FindsAllowed engine unicode context body) ↔ body.get? "searchCriteria" ≠ none := by
  have served := @isServed_iff unicode _ _ _ asks given unsized unpaged unsorted
  refine ⟨fun shown => served.mp shown.1, fun present => ⟨served.mpr present, fun absent => absurd absent present⟩⟩

def appsBody : JsonObject :=
  ⟨[("searchCriteria", .arr [.obj [("searchType", .str "term"), ("field", .str "type"),
      ("values", .arr [.str "adex:Apps"])]]), ("filter", .arr [.str "tags"])]⟩

theorem list_served_apps :
    IsServed asciiUnicode { body := some appsBody } ∧
      FindsAllowed asciiEngine asciiUnicode { body := some appsBody } appsBody := by
  have asks : AsksList appsBody ["tags"] := by
    refine ⟨by decide +kernel, rfl, by simp, .inr ⟨_, rfl, by simp, fun item member => ?_⟩⟩
    obtain rfl := List.mem_singleton.mp member
    exact ⟨_, "type", [.str "adex:Apps"], rfl, rfl, rfl, rfl, by simp⟩
  exact (list_served_iff asciiEngine asciiUnicode { body := some appsBody } appsBody ["tags"] asks rfl rfl rfl rfl).mpr
    (by simp [appsBody, JsonObject.get?])

def allTagsBody : JsonObject := ⟨[("filter", .arr [.str "tags"])]⟩

/-- A list of the tags of all documents is admitted and fails. -/
theorem unnarrowed_list_fails :
    AsksList allTagsBody ["tags"] ∧
      ListController.handleGetAvailableFilters asciiUnicode { body := some allTagsBody } =
        .done [.failed 500 .nullPointer] ∧
      ¬(IsServed asciiUnicode { body := some allTagsBody } ∧
        FindsAllowed asciiEngine asciiUnicode { body := some allTagsBody } allTagsBody) := by
  have failed : ListController.handleGetAvailableFilters asciiUnicode { body := some allTagsBody } =
      .done [.failed 500 .nullPointer] := rfl
  refine ⟨⟨by decide +kernel, rfl, by simp, .inl rfl⟩, failed, fun shown => ?_⟩
  obtain ⟨sent, sends⟩ := shown.1
  rw [failed] at sends
  exact not_sends_done sends

end Tgdex.Properties
