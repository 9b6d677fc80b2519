import Tgdex.Query.Meaning
import Tgdex.Search.Handlers
import Tgdex.Search.RequestBuilder

namespace Tgdex.Properties

open Tgdex.Data Tgdex.Java Tgdex.Elastic Tgdex.Query Tgdex.Search

/-! # What search, count and list select -/

section

variable {unicode : Unicode} {truth : Leaf → Bool} {request : QueryDecoderRequestDTO} {model : QueryModel}
  {queryMap : QueryMap} {access : AccessPolicyRequestDTO}

/-- Whether the query of a decoded model matches; `none` where no query comes
about. -/
def selects (truth : Leaf → Bool) (decoded : Except Throwable QueryModel) : Option Bool :=
  match decoded with
  | .ok model => (searchQuery model).toOption.map fun query => query.all (BoolQuery.holds truth)
  | .error _ => none

def selectedBy (truth : Leaf → Bool) (clauses : Except Throwable QueryMap) : Option Bool :=
  match clauses with
  | .ok queryMap => queryMap.selected truth
  | .error _ => none

/-- The criteria, the access policy and the exclusions, and nothing else. -/
def plainClauses (unicode : Unicode) (criteria : Option SearchCriteriaRequestDTO) (access : AccessPolicyRequestDTO) :
    Except Throwable QueryMap :=
  (fun queryMap => addExclusions (accessPolicyClause access queryMap)) <$> addSearchCriteria unicode criteria {}

theorem selects_ok (given : model.queries = some queryMap.getBoolQuery) :
    selects truth (.ok model) = queryMap.selected truth := by
  simp only [selects, searchQuery, given, QueryMap.selected]
  cases queryMap.getBoolQuery.toElasticsearchQuery with
  | error cause => rfl
  | ok query => rfl

theorem selects_getQueryModel (ordinary : isParentObjectInfo unicode request = false)
    (valid : isValidQuery request = true) :
    selects truth (getQueryModel unicode request) = selectedBy truth (getQueryMap unicode request) := by
  simp only [getQueryModel, ordinary, Bool.false_eq_true, if_false, valid, Bool.not_true, bind, Except.bind]
  cases getQueryMap unicode request with
  | error cause => rfl
  | ok queryMap =>
      simp only
      split
      · exact selects_ok rfl
      · exact selects_ok rfl

theorem selects_listMultipleItemTypesQuery (given : request.accessPolicyRequest = some access)
    (noInstance : request.instanceFilterRequest = some ⟨none⟩) :
    selects truth (listMultipleItemTypesQuery unicode request) =
      selectedBy truth (plainClauses unicode request.searchCriteriaRequest access) := by
  simp only [listMultipleItemTypesQuery, addAccessPolicy, given, nonNull, bind, Except.bind, pure, Except.pure,
    addSearchCriteria_accessPolicyClause, plainClauses]
  cases addSearchCriteria unicode request.searchCriteriaRequest {} with
  | error cause => rfl
  | ok queryMap =>
      simp only [Except.map_ok, addInstanceFilter, noInstance, nonNull, Option.filter_none, bind, Except.bind, pure,
        Except.pure, selectedBy]
      exact selects_ok rfl

theorem should_plainClauses {criteria : Option SearchCriteriaRequestDTO}
    (plain : plainClauses unicode criteria access = .ok queryMap) : queryMap.should = [] := by
  simp only [plainClauses] at plain
  cases added : addSearchCriteria unicode criteria {} with
  | error cause => simp [added] at plain
  | ok before =>
      simp only [added, Except.map_ok, Except.ok.injEq] at plain
      subst plain
      calc (addExclusions (accessPolicyClause access before)).should
          = (accessPolicyClause access before).should := rfl
        _ = before.should := should_accessPolicyClause
        _ = [] := should_addSearchCriteria added

/-- A response filter does not change what is selected. -/
theorem selectedBy_getQueryMap (asksCriteria : asksFor request "searchCriteria" = true)
    (noText : asksFor request "textSearch" = false) (given : request.accessPolicyRequest = some access)
    (accepted : asksFor request "responseFilter" = true →
      ∀ queryMap, ∃ after, addResponseFilter request.responseFilterRequest queryMap = .ok after) :
    selectedBy truth (getQueryMap unicode request) =
      selectedBy truth (plainClauses unicode request.searchCriteriaRequest access) := by
  have stages : getQueryMap unicode request =
      plainClauses unicode request.searchCriteriaRequest access >>=
        addIf (asksFor request "responseFilter") (addResponseFilter request.responseFilterRequest) := by
    simp only [getQueryMap, plainClauses, addIf, asksCriteria, noText, if_true, Bool.false_eq_true, if_false,
      addAccessPolicy, given, nonNull, bind, Except.bind, pure, Except.pure]
    cases addSearchCriteria unicode request.searchCriteriaRequest {} with
    | error cause => rfl
    | ok queryMap => rfl
  rw [stages]
  cases plain : plainClauses unicode request.searchCriteriaRequest access with
  | error cause => rfl
  | ok queryMap =>
      have added : ∃ after, addIf (asksFor request "responseFilter")
          (addResponseFilter request.responseFilterRequest) queryMap = .ok after := by
        cases asked : asksFor request "responseFilter" with
        | true => exact accepted asked queryMap
        | false => exact ⟨queryMap, rfl⟩
      obtain ⟨after, added⟩ := added
      simp only [bind, Except.bind, added, selectedBy]
      exact (adds_addIf added).selected_eq (should_plainClauses plain)

/-- A request with the given criteria, sent by the given caller. -/
structure Carries (criteria : List Json) (caller : Option String) (context : RoutingContext) (body : JsonObject) :
    Prop where
  given : context.body = some body
  criteria : body.get? "searchCriteria" = some (.arr criteria)
  caller : context.subject = caller

/-- What the decoders read of a request with criteria. -/
structure Narrowed (items : List Json) (caller : Option String) (body : JsonObject) (request : QueryDecoderRequestDTO)
    (criteria : List SearchCriteriaDTO) : Prop where
  nonempty : criteria ≠ []
  read : items.mapM SearchCriteriaDTO.fromJson = .ok criteria
  asked : asksFor request "searchCriteria" = true
  given : request.searchCriteriaRequest = some ⟨some criteria⟩
  access : request.accessPolicyRequest = some (getAccessPolicyRequest false caller)

variable {items : List Json} {caller : Option String} {context : RoutingContext} {body : JsonObject}
  {isCountApi : Bool}

theorem narrowed_of_built (carries : Carries items caller context body)
    (built : BuiltFrom false isCountApi context body request) :
    ∃ criteria, Narrowed items caller body request criteria := by
  obtain ⟨given, stored, sent⟩ := carries
  obtain ⟨nonempty, criteria, read, same⟩ := getSearchCriteriaRequest_eq_ok stored built.criteria
  obtain ⟨array, filter, asks⟩ := asks_of_built built
  have array_ : array = some items :=
    Except.ok.inj (asks.criteria_.symm.trans (JsonObject.getJsonArray_eq_ok.mpr stored))
  have lengths : items.length = criteria.length := (mapM_eq_ok_iff.mp read).length_eq
  refine ⟨criteria, ?_, read, ?_, same, ?_⟩
  · rw [← List.length_pos_iff] at nonempty ⊢
    omega
  · rw [asks.searchCriteria]
    exact isFilled_iff.mpr ⟨items, array_, nonempty⟩
  · rw [built.access, sent]

theorem noText_of_built (built : BuiltFrom false isCountApi context body request)
    (noText : body.getString "q" = none) : asksFor request "textSearch" = false := by
  obtain ⟨array, filter, asks⟩ := asks_of_built built
  simp [asks.textSearch, asksForText, noText]

theorem accepted_of_built (built : BuiltFrom false false context body request)
    (asked : asksFor request "responseFilter" = true) (queryMap : QueryMap) :
    ∃ after, addResponseFilter request.responseFilterRequest queryMap = .ok after := by
  obtain ⟨array, filter, asks⟩ := asks_of_built built
  obtain ⟨response, read, given⟩ := built.responseFilter
  rw [asks.responseFilter] at asked
  rw [given]
  exact exists_addResponseFilter asks.filter_ asked read queryMap

theorem noFilter_of_built (built : BuiltFrom false isCountApi context body request)
    (noFilter : body.get? "filter" = none) : asksFor request "responseFilter" = false := by
  obtain ⟨array, filter, asks⟩ := asks_of_built built
  have absent : body.getJsonArray "filter" = .ok none := by simp only [JsonObject.getJsonArray, noFilter]
  obtain rfl : none = filter := Except.ok.inj (absent.symm.trans asks.filter_)
  exact asks.responseFilter

theorem builtFrom_of_carries (built : build unicode false isCountApi context = .ok request)
    (carries : Carries items caller context body) : BuiltFrom false isCountApi context body request := by
  obtain ⟨other, builtFrom⟩ := builtFrom_of_build built
  obtain rfl : body = other := Option.some.inj (carries.given.symm.trans builtFrom.given)
  exact builtFrom

/-- Search and count differ in their response filter only. -/
theorem selects_of_built (built : build unicode false isCountApi context = .ok request)
    (carries : Carries items caller context body) (noText : body.getString "q" = none)
    (noFilter : isCountApi = true → body.get? "filter" = none) :
    selects truth (getQueryModel unicode request) =
      selectedBy truth
        (plainClauses unicode request.searchCriteriaRequest (getAccessPolicyRequest false caller)) := by
  have builtFrom := builtFrom_of_carries built carries
  obtain ⟨criteria, narrowed⟩ := narrowed_of_built carries builtFrom
  obtain ⟨array, filter, asks⟩ := asks_of_built builtFrom
  rw [selects_getQueryModel (ordinary_of_build built) asks.valid]
  apply selectedBy_getQueryMap narrowed.asked (noText_of_built builtFrom noText) narrowed.access
  intro asked
  cases isCountApi with
  | false => exact accepted_of_built builtFrom asked
  | true =>
      rw [noFilter_of_built builtFrom (noFilter rfl)] at asked
      contradiction

theorem selects_of_listed (built : build unicode false false context = .ok request)
    (carries : Carries items caller context body) (noInstance : body.getString "instance" = none) :
    selects truth (listMultipleItemTypesQuery unicode request) =
      selectedBy truth
        (plainClauses unicode request.searchCriteriaRequest (getAccessPolicyRequest false caller)) := by
  have builtFrom := builtFrom_of_carries built carries
  obtain ⟨criteria, narrowed⟩ := narrowed_of_built carries builtFrom
  apply selects_listMultipleItemTypesQuery narrowed.access
  rw [builtFrom.instance_, getInstanceFilterRequest, noInstance]

theorem same_criteria {other : RoutingContext} {otherBody : JsonObject} {otherRequest : QueryDecoderRequestDTO}
    {isCountApi_ : Bool} (built : build unicode false isCountApi context = .ok request)
    (carries : Carries items caller context body)
    (otherBuilt : build unicode false isCountApi_ other = .ok otherRequest)
    (otherCarries : Carries items caller other otherBody) :
    request.searchCriteriaRequest = otherRequest.searchCriteriaRequest := by
  obtain ⟨criteria, narrowed⟩ := narrowed_of_built carries (builtFrom_of_carries built carries)
  obtain ⟨others, narrowed_⟩ := narrowed_of_built otherCarries (builtFrom_of_carries otherBuilt otherCarries)
  obtain rfl : criteria = others := Except.ok.inj (narrowed.read.symm.trans narrowed_.read)
  rw [narrowed.given, narrowed_.given]

theorem isSome_selectedBy (documented : ∀ criterion ∈ criteriaIn request.searchCriteriaRequest, criterion.Documented)
    (built : build unicode false isCountApi context = .ok request) (carries : Carries items caller context body) :
    (selectedBy truth (plainClauses unicode request.searchCriteriaRequest access)).isSome = true := by
  obtain ⟨criteria, narrowed⟩ := narrowed_of_built carries (builtFrom_of_carries built carries)
  rw [narrowed.given] at documented ⊢
  have added : ∃ queryMap, addSearchCriteria unicode (some ⟨some criteria⟩) {} = .ok queryMap :=
    exists_addSearchCriteria narrowed.nonempty documented
  obtain ⟨queryMap, added⟩ := added
  have plain : plainClauses unicode (some ⟨some criteria⟩) access =
      .ok (addExclusions (accessPolicyClause access queryMap)) := by
    rw [plainClauses, added, Except.map_ok]
  have builds : queryMap.Builds :=
    builds_addSearchCriteria added QueryMap.builds_empty fun criterion member => (documented criterion member).named
  have convertible : Convertible (addExclusions (accessPolicyClause access queryMap)).getBoolQuery := by
    rw [QueryMap.convertible_getBoolQuery (should_plainClauses plain), builds_addExclusions,
      builds_accessPolicyClause]
    exact builds
  rw [plain, Option.isSome_iff_exists]
  exact ⟨_, QueryMap.selected_eq_some.mpr ⟨convertible, rfl⟩⟩

/-- With the same criteria and caller, search, count and list match the same
documents, whatever fields, pages and orders they ask for; with documented
criteria each of them sends a query. -/
theorem search_count_list_agree {searching counting listing : RoutingContext}
    {searchBody countBody listBody : JsonObject} {search count list : QueryDecoderRequestDTO}
    (searchCarries : Carries items caller searching searchBody) (searchNoText : searchBody.getString "q" = none)
    (countCarries : Carries items caller counting countBody) (countNoText : countBody.getString "q" = none)
    (countNoFilter : countBody.get? "filter" = none)
    (listCarries : Carries items caller listing listBody) (listNoInstance : listBody.getString "instance" = none)
    (searchBuilt : build unicode false false searching = .ok search)
    (countBuilt : build unicode false true counting = .ok count)
    (listBuilt : build unicode false false listing = .ok list)
    (interpretation : Leaf → JsonObject → Bool) (document : JsonObject) :
    let truth := fun leaf => interpretation leaf document
    selects truth (getQueryModel unicode search) = selects truth (getQueryModel unicode count) ∧
      selects truth (getQueryModel unicode count) = selects truth (listMultipleItemTypesQuery unicode list) ∧
      ((∀ criterion ∈ criteriaIn search.searchCriteriaRequest, criterion.Documented) →
        (selects truth (getQueryModel unicode search)).isSome = true) := by
  intro truth
  rw [selects_of_built searchBuilt searchCarries searchNoText (by simp),
    selects_of_built countBuilt countCarries countNoText fun _ => countNoFilter,
    selects_of_listed listBuilt listCarries listNoInstance,
    same_criteria countBuilt countCarries searchBuilt searchCarries,
    same_criteria listBuilt listCarries searchBuilt searchCarries]
  exact ⟨rfl, rfl, fun documented => isSome_selectedBy documented searchBuilt searchCarries⟩

end

def tagCriteria : List Json :=
  [.obj [("searchType", .str "term"), ("field", .str "tags"), ("values", .arr [.str "ai"])]]

def tagBody (rest : List (String × Json)) : JsonObject := ⟨("searchCriteria", .arr tagCriteria) :: rest⟩

def tagFilter : String × Json := ("filter", .arr [.str "id", .str "tags", .str "type"])

def tagRequest (rest : List (String × Json)) : RoutingContext where
  body := some (tagBody rest)
  size := some "100"
  page := some "1"

def tagTruth (leaf : Leaf) (_ : JsonObject) : Bool := leaf = .matchPhrase "tags" "ai"

theorem carries_tags (rest : List (String × Json)) :
    Carries tagCriteria none (tagRequest rest) (tagBody rest) := ⟨rfl, rfl, rfl⟩

theorem search_count_list_agree_tags :
    ∃ search count list, build asciiUnicode false false (tagRequest [tagFilter]) = .ok search ∧
      build asciiUnicode false true (tagRequest []) = .ok count ∧
      build asciiUnicode false false (tagRequest [tagFilter]) = .ok list ∧
      let truth := fun leaf => tagTruth leaf .empty
      selects truth (getQueryModel asciiUnicode search) = selects truth (getQueryModel asciiUnicode count) ∧
        selects truth (getQueryModel asciiUnicode count) =
          selects truth (listMultipleItemTypesQuery asciiUnicode list) ∧
        ((∀ criterion ∈ criteriaIn search.searchCriteriaRequest, criterion.Documented) →
          (selects truth (getQueryModel asciiUnicode search)).isSome = true) := by
  have search : build asciiUnicode false false (tagRequest [tagFilter]) = .ok _ := rfl
  have count : build asciiUnicode false true (tagRequest []) = .ok _ := rfl
  exact ⟨_, _, _, search, count, search,
    search_count_list_agree (carries_tags _) rfl (carries_tags _) rfl rfl (carries_tags _) rfl search count search
      tagTruth .empty⟩

/-- The request that is sent to Elasticsearch for a search, or a search of the
caller's assets. -/
def sentRequest (unicode : Unicode) (isAssetSearch : Bool) (context : RoutingContext) : Except Throwable SearchRequest := do
  searchRequest (← searchModel unicode (← build unicode isAssetSearch false context)) .sourceOnly

def namedFields (context : RoutingContext) (key : String) : List String :=
  match context.body.bind fun body => body.get? key with
  | some (.arr items) => items.filterMap fun
      | .str text => some text
      | _ => none
  | _ => []

/-- The fields that a request asks for: its 'attrs', or else its 'filter'. -/
def wantedFields (context : RoutingContext) : List String :=
  if namedFields context "attrs" = [] then namedFields context "filter" else namedFields context "attrs"

section

variable {unicode : Unicode} {isAssetSearch : Bool} {context : RoutingContext}
  {request : QueryDecoderRequestDTO} {model : QueryModel} {sent : SearchRequest}

/-- A request with a page size keeps all fields. -/
theorem includeFields_of_size {size : Int} (given : request.size = some size)
    (ordinary : isParentObjectInfo unicode request = false) (decoded : getQueryModel unicode request = .ok model) :
    model.includeFields = none := by
  simp only [getQueryModel, ordinary, Bool.false_eq_true, if_false, given, bind_eq_ok] at decoded
  obtain ⟨queryMap, -, decoded⟩ := decoded
  split at decoded
  · contradiction
  · cases decoded
    rfl

theorem includes_of_searchRequest {options : Options} (built : searchRequest model options = .ok sent) :
    sent.includes = model.includeFields := by
  simp only [searchRequest, bind_eq_ok, pure, Except.pure, Except.ok.injEq] at built
  obtain ⟨aggregations, -, query, -, rfl⟩ := built
  rfl

/-- The builder always sets a page size, so no field filter reaches
Elasticsearch and hits come back whole. -/
theorem fields_never_filtered (asked : namedFields context "filter" ≠ [])
    (accepted : sentRequest unicode isAssetSearch context = .ok sent) :
    wantedFields context ≠ [] ∧ sent.includes ≠ some (wantedFields context) ∧
      ∀ (engine : Engine) (hits : List Hit), ∀ hit ∈ sent.page engine hits, hit ∈ hits := by
  simp only [sentRequest, searchModel, bind_eq_ok, pure, Except.pure, Except.ok.injEq] at accepted
  obtain ⟨request, built, _, ⟨model, decoded, sortFields, -, rfl⟩, accepted⟩ := accepted
  obtain ⟨other, builtFrom⟩ := builtFrom_of_build built
  obtain ⟨size, sized⟩ := builtFrom.size
  have unfiltered : model.includeFields = none := includeFields_of_size sized (ordinary_of_build built) decoded
  have none_ : sent.includes = none := by
    rw [includes_of_searchRequest accepted]
    exact unfiltered
  refine ⟨?_, ?_, ?_⟩
  · simp only [wantedFields]
    split
    · exact asked
    · assumption
  · rw [none_]
    exact (Option.some_ne_none _).symm
  · intro engine hits hit member
    simp only [SearchRequest.page, none_, List.map_id'] at member
    exact List.mem_of_mem_drop (List.mem_of_mem_take member)

end

theorem fields_never_filtered_tags :
    ∃ sent, sentRequest asciiUnicode false (tagRequest [tagFilter]) = .ok sent ∧
      wantedFields (tagRequest [tagFilter]) ≠ [] ∧ sent.includes ≠ some (wantedFields (tagRequest [tagFilter])) ∧
      ∀ (engine : Engine) (hits : List Hit), ∀ hit ∈ sent.page engine hits, hit ∈ hits := by
  have accepted : sentRequest asciiUnicode false (tagRequest [tagFilter]) = .ok _ := rfl
  exact ⟨_, accepted, fields_never_filtered (by decide) accepted⟩

/-- The tag search of the collection names three fields and none is sent. -/
theorem tag_search_keeps_all_fields :
    ∃ sent, sentRequest asciiUnicode false (tagRequest [tagFilter]) = .ok sent ∧
      wantedFields (tagRequest [tagFilter]) = ["id", "tags", "type"] ∧ sent.includes = none :=
  ⟨_, rfl, rfl, rfl⟩

end Tgdex.Properties
