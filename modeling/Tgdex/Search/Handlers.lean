import Tgdex.Data.HashMap
import Tgdex.Items.Controller

namespace Tgdex.Search

open Tgdex.Data Tgdex.Java Tgdex.Effects Tgdex.Elastic Tgdex.Query Tgdex.Items

/-! # SearchServiceImpl, ListServiceImpl and their controllers

Requests are given as the decoder request that the controllers build from the
body and the parameters. -/

/-- `(int) Math.ceil((double) totalHits / size)`. -/
def totalPages (totalHits : Nat) (size : Int) : Int :=
  if size = 0 then if totalHits = 0 then 0 else 0x7FFFFFFF
  else -Int.fdiv (-totalHits) size

def paginationInfo (page size : Int) (totalHits : Nat) : JsonObject :=
  let pages := totalPages totalHits size
  ⟨[("page", .num (toString page)), ("size", .num (toString size)), ("totalCount", .num (toString totalHits)),
    ("totalPages", .num (toString pages)), ("hasNext", .bool (page < pages)), ("hasPrevious", .bool (page > 1))]⟩

def sources (responses : List ElasticsearchResponse) : List Json :=
  responses.map fun response => (response.source.map fun source => Json.obj source.fields).getD .null

/-- `new ResponseModel(results, size, page)` as /search answers with it: the
total is the static hit count. -/
def searchOutcome (request : QueryDecoderRequestDTO) :
    Settled (List ElasticsearchResponse × Statics) → List Outcome
  | .success (responses, statics) =>
      match request.size, request.page with
      | some size, some page =>
          [sendHits (sources responses) statics.totalHits (some (paginationInfo page size statics.totalHits))]
      | _, _ => [.failed 500 .nullPointer]
  | .failure cause => [.failed 500 cause]
  | .pending => []

/-- `new ResponseModel(results)` as /count and /list answer with it: the
results are the static aggregations. -/
def aggregationsOutcome : Settled (List ElasticsearchResponse × Statics) → List Outcome
  | .success (_, statics) =>
      let aggregations := (statics.aggregations.map fun parsed => Json.obj parsed.fields).getD .null
      [send [("results", .arr [aggregations])]]
  | .failure cause => [.failed 500 cause]
  | .pending => []

theorem send_result (result : Json) :
    send [("results", .arr [result])] = .ended 200 ⟨[("type", .str "urn:dx:cat:Success"), ("title", .str "Success"),
      ("results", .arr [result.encoded .nowhere])]⟩ := by
  have below : result.encoded (Stays.nowhere.under "results") = result.encoded .nowhere := rfl
  simp [send, JsonObject.encoded, encodedFields, Json.encoded, encodedItems, Json.omitted, below]

/-- The entries of the map of sort fields.  `toMap` collects into a HashMap and
does not accept a column twice. -/
def sortFields (sort : Option (List OrderBy)) : Except Throwable (List (String × String)) :=
  let puts := (sort.getD []).map fun order => (order.column, order.direction)
  if (puts.map Prod.fst).Nodup then .ok (entrySet puts) else .error .illegalState

section

variable (unicode : Unicode) (request : QueryDecoderRequestDTO)

def searchModel : Except Throwable QueryModel := do
  let model ← getQueryModel unicode request
  return { model with sortFields := ← sortFields request.sort }

def postSearch : Future (List ElasticsearchResponse × Statics) :=
  match searchModel unicode request with
  | .ok model => search model .sourceOnly
  | .error _ => Future.failed (.dxBadRequest "Failed to process search request")

def handleSearch : Handler :=
  (postSearch unicode request).bind fun settled => .done (searchOutcome request settled)

def countModel : Except Throwable QueryModel := do
  return { ← getQueryModel unicode request with aggregations := some [setCountAggregations] }

def postCount : Future (List ElasticsearchResponse × Statics) :=
  match countModel unicode request with
  | .ok model => search model .countAggregationOnly
  | .error _ => Future.failed (.dxBadRequest "Failed to process count request")

def handleCount : Handler :=
  (postCount unicode request).bind fun settled => .done (aggregationsOutcome settled)

def getAvailableFilters : Except Throwable (Future (List ElasticsearchResponse × Statics)) :=
  match filled request.filter with
  | none => .ok (Future.failed (.runtime "Missing or empty 'filter' array"))
  | some _ => do return search (← listMultipleItemTypesQuery unicode request) .aggregationList

def handleGetAvailableFilters : Handler :=
  orFail do
    let filters ← getAvailableFilters unicode request
    return filters.bind fun settled => .done (aggregationsOutcome settled)

end

def AnswersOrSearches (options : Options)
    (outcome : Settled (List ElasticsearchResponse × Statics) → List Outcome) (handler : Handler) : Prop :=
  (∃ outcomes, handler = .done outcomes) ∨
    ∃ model, handler = (search model options).bind fun settled => .done (outcome settled)

/-- The handler asks Elasticsearch for this search. -/
def Sends (options : Options) (handler : Handler) (sent : SearchRequest) : Prop :=
  ∃ next, handler = .await (.search sent options) next

theorem sends_search_iff {model : QueryModel} {options : Options} {sent : SearchRequest}
    {outcome : Settled (List ElasticsearchResponse × Statics) → List Outcome} :
    Sends options ((search model options).bind fun settled => .done (outcome settled)) sent ↔
      searchRequest model options = .ok sent := by
  simp only [Sends, search, executeSearch]
  cases searchRequest model options with
  | error cause => simp [Future.proxied, Future.failed]
  | ok made => simp [Future.proxied]

theorem not_sends_done {options : Options} {sent : SearchRequest} {outcomes : List Outcome} :
    ¬Sends options (.done outcomes) sent := by simp [Sends]

theorem search_of_sends {options : Options} {sent : SearchRequest} {handler : Handler}
    {outcome : Settled (List ElasticsearchResponse × Statics) → List Outcome}
    (comes : AnswersOrSearches options outcome handler) (sends : Sends options handler sent) :
    ∃ model, handler = ((search model options).bind fun settled => .done (outcome settled)) ∧
      searchRequest model options = .ok sent := by
  rcases comes with ⟨outcomes, rfl⟩ | ⟨model, rfl⟩
  · exact absurd sends not_sends_done
  · exact ⟨model, rfl, sends_search_iff.mp sends⟩

section

variable (unicode : Unicode) (request : QueryDecoderRequestDTO)

theorem handleSearch_cases : AnswersOrSearches .sourceOnly (searchOutcome request) (handleSearch unicode request) := by
  simp only [handleSearch, postSearch]
  split
  · exact .inr ⟨_, rfl⟩
  · exact .inl ⟨_, rfl⟩

theorem handleCount_cases : AnswersOrSearches .countAggregationOnly aggregationsOutcome (handleCount unicode request) := by
  simp only [handleCount, postCount]
  split
  · exact .inr ⟨_, rfl⟩
  · exact .inl ⟨_, rfl⟩

theorem handleGetAvailableFilters_cases :
    AnswersOrSearches .aggregationList aggregationsOutcome (handleGetAvailableFilters unicode request) := by
  simp only [handleGetAvailableFilters, getAvailableFilters]
  split
  · exact .inl ⟨_, rfl⟩
  · cases listMultipleItemTypesQuery unicode request with
    | error cause => exact .inl ⟨_, rfl⟩
    | ok model => exact .inr ⟨model, rfl⟩

theorem sends_handleSearch_iff {sent : SearchRequest} :
    Sends .sourceOnly (handleSearch unicode request) sent ↔
      ∃ model, searchModel unicode request = .ok model ∧ searchRequest model .sourceOnly = .ok sent := by
  simp only [handleSearch, postSearch]
  cases searchModel unicode request with
  | error cause => simp [Future.failed, not_sends_done]
  | ok model => simp [sends_search_iff]

theorem sends_handleCount_iff {sent : SearchRequest} :
    Sends .countAggregationOnly (handleCount unicode request) sent ↔
      ∃ model, countModel unicode request = .ok model ∧ searchRequest model .countAggregationOnly = .ok sent := by
  simp only [handleCount, postCount]
  cases countModel unicode request with
  | error cause => simp [Future.failed, not_sends_done]
  | ok model => simp [sends_search_iff]

theorem sends_handleGetAvailableFilters_iff {sent : SearchRequest} :
    Sends .aggregationList (handleGetAvailableFilters unicode request) sent ↔
      filled request.filter ≠ none ∧ ∃ model, listMultipleItemTypesQuery unicode request = .ok model ∧
        searchRequest model .aggregationList = .ok sent := by
  simp only [handleGetAvailableFilters, getAvailableFilters]
  cases filled request.filter with
  | none => simp [orFail, bind, Except.bind, pure, Except.pure, Future.failed, not_sends_done]
  | some names =>
      cases listMultipleItemTypesQuery unicode request with
      | error cause => simp [orFail, bind, Except.bind, not_sends_done]
      | ok model => simp [orFail, bind, Except.bind, pure, Except.pure, sends_search_iff]

end

end Tgdex.Search
