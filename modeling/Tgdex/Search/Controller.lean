import Tgdex.Search.Handlers
import Tgdex.Search.Schema

namespace Tgdex.Search

open Tgdex.Data Tgdex.Java Tgdex.Elastic Tgdex.Query Tgdex.Items

/-! # SearchController and ListController -/

section

variable (unicode : Unicode) (context : RoutingContext)

/-- The common body of handleSearch and handleAsset.  What the builder throws is
only logged. -/
def answerSearch (isAssetSearch : Bool) : Handler :=
  match build unicode isAssetSearch false context with
  | .ok request => handleSearch unicode request
  | .error _ => .done []

def SearchController.handleSearch : Handler := answerSearch unicode context false

def SearchController.handleAsset : Handler := answerSearch unicode context true

def SearchController.handleCount : Handler :=
  orFail do return Search.handleCount unicode (← build unicode false true context)

def ListController.handleGetAvailableFilters : Handler :=
  orFail do return Search.handleGetAvailableFilters unicode (← build unicode false false context)

theorem ListController.handleGetAvailableFilters_cases : AnswersOrSearches .aggregationList aggregationsOutcome
    (ListController.handleGetAvailableFilters unicode context) := by
  simp only [ListController.handleGetAvailableFilters]
  cases build unicode false false context with
  | error cause => exact .inl ⟨_, rfl⟩
  | ok request => exact Search.handleGetAvailableFilters_cases unicode request

theorem SearchController.handleCount_cases : AnswersOrSearches .countAggregationOnly aggregationsOutcome
    (SearchController.handleCount unicode context) := by
  simp only [SearchController.handleCount]
  cases build unicode false true context with
  | error cause => exact .inl ⟨_, rfl⟩
  | ok request => exact Search.handleCount_cases unicode request

end

variable {unicode : Unicode} {isAssetSearch isCountApi : Bool} {context : RoutingContext} {body : JsonObject}

def hasEntries (body : JsonObject) (key : String) : Bool :=
  match body.get? key with
  | some (.arr items) => !items.isEmpty
  | _ => false

def IsInt32 (parameter : Option String) : Prop :=
  ∀ text, parameter = some text → ∃ value, parseInt text = .ok value

/-- A part of a sort parameter that is a field and a direction. -/
def IsSortItem (unicode : Unicode) (item : String) : Prop :=
  ∃ field order, split ':' item = [field, order] ∧
    (unicode.lowerCase (trim order) = "asc" ∨ unicode.lowerCase (trim order) = "desc")

def IsSort (unicode : Unicode) (parameter : Option String) : Prop :=
  ∀ text, parameter = some text → text.isEmpty = false →
    (split ';' text).length ≤ maxSortFields ∧ ∀ item ∈ split ';' text, IsSortItem unicode item

/-- What a search has to bring: criteria if it has the list of them, some part
to search by, and parameters of the right form. -/
structure Buildable (unicode : Unicode) (context : RoutingContext) (body : JsonObject) : Prop where
  criteria : body.get? "searchCriteria" ≠ some (.arr [])
  asks : (hasEntries body "searchCriteria" || asksForText body || hasEntries body "filter") = true
  size : IsInt32 context.size
  page : IsInt32 context.page
  sort : IsSort unicode context.sort

theorem exists_intParameter_iff {fallback : Int} {parameter : Option String} :
    (∃ value, intParameter fallback parameter = .ok value) ↔ IsInt32 parameter := by
  cases parameter with
  | none => simp [intParameter, IsInt32]
  | some text => simp [intParameter, IsInt32]

theorem exists_sortOrder_iff {item : String} :
    (∃ order, sortOrder unicode item = .ok order) ↔ IsSortItem unicode item := by
  simp only [sortOrder, IsSortItem]
  split
  · rename_i field order parts
    rw [parts]
    split
    · rename_i ascending
      simp [ascending]
    · split
      · rename_i descending
        simp [descending]
      · rename_i notAscending notDescending
        simp [notAscending, notDescending]
  · rename_i other
    simp only [reduceCtorEq, exists_false, false_iff, not_exists, not_and]
    exact fun field order parts => absurd parts (other field order)

theorem exists_extractSortOrders_iff {parameter : Option String} :
    (∃ orders, extractSortOrders unicode parameter = .ok orders) ↔ IsSort unicode parameter := by
  cases parameter with
  | none => simp [extractSortOrders, IsSort]
  | some text =>
      cases empty : text.isEmpty with
      | true =>
          have trivially : IsSort unicode (some text) := by
            intro other same filled
            obtain rfl := Option.some.inj same
            rw [empty] at filled
            contradiction
          simp only [extractSortOrders, empty, if_true, Except.ok.injEq, exists_eq', trivially]
      | false =>
          simp only [extractSortOrders, IsSort, empty, Bool.false_eq_true, if_false, Option.some.injEq,
            forall_eq', forall_const]
          by_cases many : (split ';' text).length > maxSortFields
          · simp [many, Nat.not_le.mpr many]
          · have each : (∀ item ∈ split ';' text, IsSortItem unicode item) ↔
                ∃ orders, (split ';' text).mapM (sortOrder unicode) = .ok orders := by
              simp only [exists_mapM_eq_ok_iff, exists_sortOrder_iff]
            rw [each, if_neg many]
            simp [Nat.not_lt.mp many, pure, Except.pure]

theorem getList_texts (names : List String) : getList (names.map .str) = .ok names := by
  rw [getList, mapM_eq_ok_iff, List.forall₂_map_left_iff]
  exact List.forall₂_same.mpr fun _ _ => rfl

section

variable (readable : Readable body)

include readable

theorem criteria_array : body.getJsonArray "searchCriteria" = .ok none ∧ body.get? "searchCriteria" = none ∨
    ∃ items, body.getJsonArray "searchCriteria" = .ok (some items) ∧ body.get? "searchCriteria" = some (.arr items) := by
  rcases readable.criteria with absent | ⟨items, stored, -⟩
  · exact .inl ⟨by rw [JsonObject.getJsonArray, absent], absent⟩
  · exact .inr ⟨items, JsonObject.getJsonArray_eq_ok.mpr stored, stored⟩

theorem filter_array : body.getJsonArray "filter" = .ok none ∧ body.get? "filter" = none ∨
    ∃ names : List String, body.getJsonArray "filter" = .ok (some (names.map .str)) ∧
      body.get? "filter" = some (.arr (names.map .str)) := by
  rcases readable.filter with absent | ⟨names, stored⟩
  · exact .inl ⟨by rw [JsonObject.getJsonArray, absent], absent⟩
  · exact .inr ⟨names, JsonObject.getJsonArray_eq_ok.mpr stored, stored⟩

theorem exists_buildSearchType_iff : (∃ type, buildSearchType body = .ok type) ↔
    (hasEntries body "searchCriteria" || asksForText body || hasEntries body "filter") = true := by
  have filled : ∃ criteria filter, body.getJsonArray "searchCriteria" = .ok criteria ∧
      body.getJsonArray "filter" = .ok filter ∧ isFilled criteria = hasEntries body "searchCriteria" ∧
      isFilled filter = hasEntries body "filter" := by
    rcases criteria_array readable with ⟨criteria, stored⟩ | ⟨items, criteria, stored⟩ <;>
      rcases filter_array readable with ⟨filter, named⟩ | ⟨names, filter, named⟩ <;>
      exact ⟨_, _, criteria, filter, by rw [hasEntries, stored]; rfl, by rw [hasEntries, named]; rfl⟩
  obtain ⟨criteria, filter, first, second, hasCriteria, hasFilter⟩ := filled
  simp only [buildSearchType, first, second, bind, Except.bind, hasCriteria, hasFilter]
  split
  · rename_i some_
    simp [some_, pure, Except.pure]
  · rename_i none_
    simp only [none_, reduceCtorEq, exists_false]

theorem exists_getFilters : ∃ names, getFilters body = .ok names := by
  rcases filter_array readable with ⟨filter, stored⟩ | ⟨names, filter, stored⟩
  · exact ⟨[], by simp [getFilters, JsonObject.containsKey, stored]⟩
  · refine ⟨names, ?_⟩
    simp [getFilters, JsonObject.containsKey, stored, filter, nonNull, bind, Except.bind, getList_texts]

theorem exists_getTextSearchRequest : ∃ text, getTextSearchRequest body = .ok text := by
  have flag : ∀ key, (body.get? key = none ∨ ∃ flag, body.get? key = some (.bool flag)) →
      ∃ flag, body.getBooleanOr key false = .ok (some flag) := by
    intro key given
    rcases given with absent | ⟨flag, stored⟩
    · exact ⟨false, by simp [JsonObject.getBooleanOr, JsonObject.containsKey, absent]⟩
    · exact ⟨flag, by simp [JsonObject.getBooleanOr, JsonObject.containsKey, JsonObject.getBoolean, stored]⟩
  obtain ⟨fuzzy, first⟩ := flag "fuzzy" readable.fuzzy
  obtain ⟨autoComplete, second⟩ := flag "autoComplete" readable.autoComplete
  simp only [getTextSearchRequest, first, second, nonNull, bind, Except.bind, pure, Except.pure]
  exact ⟨_, rfl⟩

theorem exists_getSearchCriteriaRequest_iff : (∃ criteria, getSearchCriteriaRequest body = .ok criteria) ↔
    body.get? "searchCriteria" ≠ some (.arr []) := by
  rcases readable.criteria with absent | ⟨items, stored, criteria, read⟩
  · simp [getSearchCriteriaRequest, JsonObject.containsKey, absent]
  · have array := JsonObject.getJsonArray_eq_ok.mpr stored
    simp only [getSearchCriteriaRequest, JsonObject.containsKey, stored, Option.isSome_some, if_true, array, bind,
      Except.bind, Option.getD_some]
    cases items with
    | nil => simp
    | cons item rest => simp [read, pure, Except.pure]

theorem exists_getResponseFilterRequest_iff (isCountApi : Bool) :
    (∃ filter, getResponseFilterRequest body isCountApi = .ok filter) ↔ ∃ type, buildSearchType body = .ok type := by
  have filter : ∃ names : List String, body.getJsonArrayOr "filter" [] = .ok (some (names.map .str)) := by
    rcases filter_array readable with ⟨-, stored⟩ | ⟨names, filter, stored⟩
    · exact ⟨[], by simp [JsonObject.getJsonArrayOr, JsonObject.containsKey, stored]⟩
    · exact ⟨names, getJsonArrayOr_of_getJsonArray filter⟩
  obtain ⟨names, filter⟩ := filter
  have attrs : body.getJsonArrayOr "attrs" [] = .ok (some []) := by
    simp [JsonObject.getJsonArrayOr, JsonObject.containsKey, readable.attrs]
  have noNames : getList [] = .ok [] := rfl
  simp only [getResponseFilterRequest, attrs, filter, nonNull, bind, Except.bind, noNames, getList_texts, pure,
    Except.pure]
  cases buildSearchType body with
  | error cause => simp
  | ok type => simp

/-- The builder makes a request of a readable body exactly when it brings what
a search needs. -/
theorem exists_build_iff (given : context.body = some body) :
    (∃ request, build unicode isAssetSearch isCountApi context = .ok request) ↔ Buildable unicode context body := by
  simp only [build, given, bind_eq_ok, nonNull_eq_ok, pure, Except.pure, Except.ok.injEq, Option.some.injEq,
    exists_eq_left']
  refine ⟨?_, ?_⟩
  · intro made
    obtain ⟨request, type, named, size, sized, page, paged, -, -, -, -, criteria, narrowed, -, -, sort,
      sorted, -⟩ := made
    exact ⟨(exists_getSearchCriteriaRequest_iff readable).mp ⟨criteria, narrowed⟩,
      (exists_buildSearchType_iff readable).mp ⟨type, named⟩, exists_intParameter_iff.mp ⟨size, sized⟩,
      exists_intParameter_iff.mp ⟨page, paged⟩, exists_extractSortOrders_iff.mp ⟨sort, sorted⟩⟩
  · intro buildable
    obtain ⟨type, named⟩ := (exists_buildSearchType_iff readable).mpr buildable.asks
    obtain ⟨size, sized⟩ := exists_intParameter_iff.mpr buildable.size
    obtain ⟨page, paged⟩ := exists_intParameter_iff.mpr buildable.page
    obtain ⟨filter, listed⟩ := exists_getFilters readable
    obtain ⟨text, asked⟩ := exists_getTextSearchRequest readable
    obtain ⟨criteria, narrowed⟩ := (exists_getSearchCriteriaRequest_iff readable).mpr buildable.criteria
    obtain ⟨response, answered⟩ := (exists_getResponseFilterRequest_iff readable isCountApi).mpr ⟨type, named⟩
    obtain ⟨sort, sorted⟩ := exists_extractSortOrders_iff.mpr buildable.sort
    exact ⟨_, type, named, size, sized, page, paged, filter, listed, text, asked, criteria, narrowed,
      response, answered, sort, sorted, rfl⟩

end

end Tgdex.Search
