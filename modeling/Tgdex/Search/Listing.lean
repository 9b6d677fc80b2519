import Mathlib
import Tgdex.Search.Controller

namespace Tgdex.Search

open Tgdex.Data Tgdex.Java Tgdex.Elastic Tgdex.Query Tgdex.Items

/-! # What lists and counts send -/

variable {unicode : Unicode} {context : RoutingContext} {body : JsonObject} {request : QueryDecoderRequestDTO}
  {model : QueryModel} {options : Options} {sent : SearchRequest} {query : Option Query} {names : List String}

theorem castInteger_printed {parameters : JsonObject} {key : String} {size : Int}
    (stored : parameters.get? key = some (.num (toString size))) : castInteger parameters key = .ok (some size) := by
  have read : (toString size).toInt? = some size := Int.toInt?_repr size
  simp only [castInteger, stored, read]

theorem namedAggregation_filter (size : Int) (name : String) :
    namedAggregation (filterAggregation size name) = .ok (name, ⟨name ++ ".keyword", some size⟩) := by
  have field : requiredText (filterAggregation size name).aggregationParameters "field" = some (name ++ ".keyword") := rfl
  have limit : castInteger (filterAggregation size name).aggregationParameters "size" = .ok (some size) :=
    castInteger_printed rfl
  simp only [namedAggregation, QueryModel.toElasticsearchAggregations, filterAggregation] at field limit ⊢
  simp only [field, limit, bind, Except.bind, pure, Except.pure, Option.getD_some]

theorem aggregations_of_sent {asked : List (String × TermsAggregation)} (made : searchRequest model options = .ok sent)
    (named : (model.aggregations.getD []).mapM namedAggregation = .ok asked) : sent.aggregations = asked := by
  simp only [searchRequest, named, bind_eq_ok, Except.ok.injEq, pure, Except.pure] at made
  obtain ⟨_, rfl, query, -, rfl⟩ := made
  rfl

/-- The query of what is sent for a model is the one the model is converted to. -/
theorem query_of_sent_iff {asked : List (String × TermsAggregation)}
    (named : (model.aggregations.getD []).mapM namedAggregation = .ok asked) :
    (∃ sent, searchRequest model options = .ok sent ∧ sent.query = query) ↔ searchQuery model = .ok query := by
  simp only [searchRequest, named, bind, Except.bind]
  cases searchQuery model with
  | error cause => simp
  | ok own => simp [pure, Except.pure]

theorem mapM_filterAggregation (size : Int) (names : List String) :
    (names.map (filterAggregation size)).mapM namedAggregation =
      .ok (names.map fun name => (name, ⟨name ++ ".keyword", some size⟩)) := by
  rw [mapM_eq_ok_iff, List.forall₂_map_left_iff, List.forall₂_map_right_iff]
  exact List.forall₂_same.mpr fun name _ => namedAggregation_filter size name

/-- The query that a list is decoded to. -/
def listedQuery (unicode : Unicode) (context : RoutingContext) : Except Throwable (Option Query) := do
  searchQuery (← listMultipleItemTypesQuery unicode (← build unicode false false context))

theorem filter_of_built (built : build unicode false false context = .ok request) (given : context.body = some body)
    (listed : body.get? "filter" = some (.arr (names.map .str))) : request.filter = some names := by
  obtain ⟨own, size, page, filter, given_, -, -, named, -, -, hasFilter⟩ := parameters_of_build built
  obtain rfl := Option.some.inj (given.symm.trans given_)
  have array := JsonObject.getJsonArray_eq_ok.mpr listed
  simp only [getFilters, JsonObject.containsKey, listed, Option.isSome_some, if_true, array, bind, Except.bind,
    nonNull, getList_texts] at named
  rw [hasFilter, Except.ok.inj named]

/-- A list without a size asks for a hundred values of each field. -/
theorem aggregations_of_list (given : context.body = some body) (unsized : context.size = none)
    (listed : body.get? "filter" = some (.arr (names.map .str)))
    (sends : Sends .aggregationList (ListController.handleGetAvailableFilters unicode context) sent) :
    sent.aggregations = names.map fun name => (name, ⟨name ++ ".keyword", some 100⟩) := by
  simp only [ListController.handleGetAvailableFilters] at sends
  cases built : build unicode false false context with
  | error cause =>
      rw [built] at sends
      exact absurd sends not_sends_done
  | ok request =>
      rw [built] at sends
      obtain ⟨-, model, decoded, made⟩ := (sends_handleGetAvailableFilters_iff unicode request).mp sends
      have filter := filter_of_built built given listed
      obtain ⟨own, size, page, -, -, sized, -, -, hasSize, -, -⟩ := parameters_of_build built
      obtain rfl : (100 : Int) = size := by
        rw [getSize, unsized] at sized
        exact Except.ok.inj sized
      simp only [listMultipleItemTypesQuery, bind_eq_ok, pure, Except.pure, Except.ok.injEq] at decoded
      obtain ⟨_, -, _, -, _, -, rfl⟩ := decoded
      refine aggregations_of_sent made ?_
      simp only [filter, listSize, hasSize, Option.map_some, Option.getD_some, mapM_filterAggregation]

/-- A list with a filter sends whatever query it is decoded to. -/
theorem sends_list_iff (given : context.body = some body) (listed : body.get? "filter" = some (.arr (names.map .str)))
    (some_ : names ≠ []) :
    (∃ sent, Sends .aggregationList (ListController.handleGetAvailableFilters unicode context) sent ∧
      sent.query = query) ↔ listedQuery unicode context = .ok query := by
  simp only [ListController.handleGetAvailableFilters, listedQuery]
  cases built : build unicode false false context with
  | error cause => simp [orFail, bind, Except.bind, not_sends_done]
  | ok request =>
      have filter := filter_of_built built given listed
      have filled_ : filled request.filter ≠ none := by simp [filter, filled, some_]
      have sends := @sends_handleGetAvailableFilters_iff unicode request
      simp only [orFail, bind, Except.bind, pure, Except.pure, sends, ne_eq, filled_, not_false_eq_true, true_and]
      cases decoded : listMultipleItemTypesQuery unicode request with
      | error cause => simp
      | ok model =>
          have named : (model.aggregations.getD []).mapM namedAggregation =
              .ok (names.map fun name => (name, ⟨name ++ ".keyword", some (listSize request)⟩)) := by
            simp only [listMultipleItemTypesQuery, bind_eq_ok, pure, Except.pure, Except.ok.injEq] at decoded
            obtain ⟨_, -, _, -, _, -, rfl⟩ := decoded
            simp only [filter, Option.map_some, Option.getD_some, mapM_filterAggregation]
          simp only [Except.ok.injEq, exists_eq_left', query_of_sent_iff named]

end Tgdex.Search
