import Tgdex.Elastic.Client
import Tgdex.Elastic.Delivery
import Tgdex.Properties.DecodedQueries
import Tgdex.Search.Listing

namespace Tgdex.Properties

open Tgdex.Data Tgdex.Java Tgdex.Elastic Tgdex.Query Tgdex.Search

/-! # Decoded queries can be converted -/

variable {unicode : Unicode} {request : QueryDecoderRequestDTO} {criterion : SearchCriteriaDTO} {model : QueryModel}
  {before after : QueryMap} {wire : Wire} {options : String}

/-- Every criterion of a list but the terms names its field. -/
def RangesNamed (criteria : List SearchCriteriaDTO) : Prop :=
  ∀ criterion ∈ criteria, criterion.type ≠ "term" → criterion.field ≠ none

/-- Delivered as JSON, the model makes a request, and no node of its tree lacks
a type or a parameter. -/
structure Builds (wire : Wire) (options : String) (model : QueryModel) : Prop where
  request : ∃ sent, Client.buildSearch (deliver wire model) options = .ok sent
  sound : ∀ queries, (deliver wire model).queries = some queries → ∀ node, Node queries node → WellTyped node

/-- The criteria that a decoded search looks at. -/
def searchedCriteria (unicode : Unicode) (request : QueryDecoderRequestDTO) : List SearchCriteriaDTO :=
  if isParentObjectInfo unicode request then [] else criteriaOf request

theorem convertible_of_ranges (built : buildCriterion unicode criterion = .ok model)
    (named : criterion.type ≠ "term" → criterion.field ≠ none) : Convertible model := by
  by_cases term : criterion.type = "term"
  · cases built_of_buildCriterion built with
    | term type built => exact convertible_buildTermQuery built
    | between notTerm type values => exact absurd term notTerm
    | before notTerm notBetween type values => exact absurd term notTerm
    | after notTerm notBetween notBefore type values => exact absurd term notTerm
  · exact convertible_buildCriterion built (named term)

/-- A range without a field is not converted, whether the null travels or not. -/
theorem not_convertible_range (operators : List (String × String)) :
    ¬Convertible (deliver wire (buildRangeQuery none operators)) := by
  rintro ⟨query, converted⟩
  have read := (converts_leaf rfl (by decide)).mp converted
  have missing : printed (wire.carry (buildRangeQuery none operators).queryParameters) "field" = none := by
    rw [printed_carry]
    rfl
  simp only [leafQuery, deliver, buildRangeQuery, Option.bind_eq_bind] at missing read
  rw [missing] at read
  cases read

theorem named_of_convertible (built : buildCriterion unicode criterion = .ok model)
    (convertible : Convertible (deliver wire model)) (range : criterion.type ≠ "term") : criterion.field ≠ none := by
  intro unnamed
  cases built_of_buildCriterion built with
  | term type built => exact range type
  | between notTerm type values => exact not_convertible_range _ (unnamed ▸ convertible)
  | before notTerm notBetween type values => exact not_convertible_range _ (unnamed ▸ convertible)
  | after notTerm notBetween notBefore type values => exact not_convertible_range _ (unnamed ▸ convertible)

theorem builds_addSearchCriteria_of_ranges {criteria : Option SearchCriteriaRequestDTO}
    (added : addSearchCriteria unicode criteria before = .ok after) (builds : before.Builds)
    (named : RangesNamed (criteriaIn criteria)) : after.Builds := by
  rcases addSearchCriteria_cases added with ⟨-, rfl⟩ | ⟨clauses, built, rfl⟩
  · exact builds
  · refine QueryMap.builds_addFilter.mpr ⟨builds, convertible_mustQuery.mpr ?_⟩
    exact forall_of_forall₂ (fun criterion member clause made => convertible_of_ranges made (named criterion member))
      built

theorem filter_accessPolicyClause {access : AccessPolicyRequestDTO} :
    (accessPolicyClause access before).filter = before.filter := by
  simp only [accessPolicyClause]
  split
  · split <;> rfl
  · rfl

theorem filter_addTextSearch {text : Option TextSearchRequestDTO} (added : addTextSearch text before = .ok after) :
    after.filter = before.filter := by
  obtain ⟨_, _, -, -, rfl⟩ := addTextSearch_eq_ok added
  rfl

theorem filter_addInstanceFilter {instanceFilter : Option InstanceFilterRequestDTO}
    (added : addInstanceFilter instanceFilter before = .ok after) : before.filter ⊆ after.filter := by
  simp only [addInstanceFilter, bind_eq_ok] at added
  obtain ⟨given, -, added⟩ := added
  split at added <;> cases added
  · exact List.subset_append_left _ _
  · exact List.Subset.refl _

theorem filter_addResponseFilter {responseFilter : Option ResponseFilterRequestDTO}
    (added : addResponseFilter responseFilter before = .ok after) : before.filter ⊆ after.filter := by
  simp only [addResponseFilter, bind_eq_ok] at added
  obtain ⟨given, -, added⟩ := added
  split at added
  · cases added
    exact List.Subset.refl _
  · split at added
    · contradiction
    · split at added
      · contradiction
      · cases added
        exact List.subset_append_left _ _

theorem filter_of_stages {queryMap : QueryMap} (stages : Stages unicode request queryMap) :
    stages.criteria.filter ⊆ queryMap.filter := by
  have text : stages.text.filter = stages.criteria.filter := by
    rcases addIf_cases stages.addsText with ⟨-, added⟩ | ⟨-, same⟩
    · exact filter_addTextSearch added
    · rw [same]
  have visible : (addExclusions (accessPolicyClause stages.access stages.text)).filter = stages.criteria.filter :=
    filter_accessPolicyClause.trans text
  rw [← visible]
  rcases addIf_cases stages.addsFilter with ⟨-, added⟩ | ⟨-, same⟩
  · exact filter_addResponseFilter added
  · have unchanged := congrArg QueryMap.filter same
    rw [unchanged]
    exact List.Subset.refl _

/-- A query whose delivery is converted holds no range without a field. -/
theorem ranges_of_convertible {criteria : Option SearchCriteriaRequestDTO} {queryMap : QueryMap}
    (added : addSearchCriteria unicode criteria before = .ok after) (kept : after.filter ⊆ queryMap.filter)
    (convertible : Convertible (deliver wire queryMap.getBoolQuery)) : RangesNamed (criteriaIn criteria) := by
  rcases addSearchCriteria_cases added with ⟨none, rfl⟩ | ⟨clauses, built, rfl⟩
  · simp [RangesNamed, none]
  · have inside : Node queryMap.getBoolQuery (mustQuery clauses) := by
      refine Node.self.clause rfl (List.mem_append_right _ (kept ?_))
      simp [QueryMap.addFilter]
    have each : ∀ clause ∈ clauses, Convertible (deliver wire clause) := by
      intro clause member
      have below := inside.clause rfl (by simpa [Elastic.clauses, mustQuery] using member)
      exact convertible_of_node (node_deliver below) convertible
    have agree : RangesNamed (criteriaIn criteria) ↔ ∀ clause ∈ clauses, Convertible (deliver wire clause) := by
      refine forall_iff_of_forall₂ (fun criterion member clause made => ⟨fun named => ?_, ?_⟩) built
      · obtain ⟨query, converted⟩ := convertible_of_ranges made named
        exact ⟨query, converted.deliver⟩
      · exact named_of_convertible made
    exact agree.mpr each

theorem exists_buildSearch_iff :
    (∃ sent, Client.buildSearch model options = .ok sent) ↔ ∃ sent, searchRequest model .sourceOnly = .ok sent := by
  simp only [Client.buildSearch]
  cases searchRequest model .sourceOnly with
  | error cause => simp [bind, Except.bind]
  | ok sent => simp [bind, Except.bind, pure, Except.pure]

theorem queries_deliver {queries : QueryModel} (given : model.queries = some queries) :
    (deliver wire model).queries = some (deliver wire queries) := by
  obtain ⟨_, _, _, _, _, _, _, own⟩ := model
  subst given
  rfl

theorem builds_of_convertible {asked : List (String × TermsAggregation)}
    (named : (model.aggregations.getD []).mapM namedAggregation = .ok asked)
    (convertible : ∀ queries, model.queries = some queries → Convertible queries) : Builds wire options model := by
  have query : ∃ query, searchQuery model = .ok query := by
    simp only [searchQuery]
    cases given : model.queries with
    | none => exact ⟨none, rfl⟩
    | some queries =>
        obtain ⟨query, converted⟩ := convertible queries given
        have built : queries.toElasticsearchQuery = .ok query := converted
        simp only [built]
        exact ⟨some query, rfl⟩
  constructor
  · obtain ⟨query, built⟩ := query
    obtain ⟨sent, made, -⟩ := (@query_of_sent_iff model .sourceOnly _ _ named).mpr built
    exact exists_buildSearch_iff.mpr ⟨sent, searchRequest_deliver made⟩
  · intro queries delivered node inside
    cases given : model.queries with
    | none =>
        obtain ⟨_, _, _, _, _, _, _, own⟩ := model
        subst given
        cases delivered
    | some root =>
        obtain ⟨query, converted⟩ := convertible root given
        obtain rfl := Option.some.inj ((queries_deliver given).symm.trans delivered)
        exact wellTyped_of_convertible (convertible_of_node inside ⟨query, converted.deliver⟩)

theorem convertible_of_request {queries : QueryModel} (given : model.queries = some queries)
    (made : ∃ sent, Client.buildSearch (deliver wire model) options = .ok sent) : Convertible (deliver wire queries) := by
  obtain ⟨sent, made⟩ := exists_buildSearch_iff.mp made
  simp only [searchRequest, bind_eq_ok] at made
  obtain ⟨aggregations, -, query, converted, -⟩ := made
  simp only [searchQuery, queries_deliver given] at converted
  cases built : (deliver wire queries).toElasticsearchQuery with
  | ok own => exact ⟨own, built⟩
  | error cause =>
      rw [built] at converted
      cases converted

theorem aggregations_of_getQueryModel (accepted : getQueryModel unicode request = .ok model) :
    model.aggregations = none := by
  simp only [getQueryModel] at accepted
  split at accepted
  · simp only [buildGetParentObjectInfoQuery, bind_eq_ok, pure, Except.pure, Except.ok.injEq] at accepted
    obtain ⟨id, -, rfl⟩ := accepted
    rfl
  · simp only [bind_eq_ok] at accepted
    obtain ⟨queryMap, -, accepted⟩ := accepted
    split at accepted
    · contradiction
    · split at accepted <;> cases accepted <;> rfl

/-- A request can only be built where the ranges that were looked at name their field. -/
theorem ranges_of_request (accepted : getQueryModel unicode request = .ok model)
    (made : ∃ sent, Client.buildSearch (deliver wire model) options = .ok sent) :
    RangesNamed (searchedCriteria unicode request) := by
  cases parent : isParentObjectInfo unicode request with
  | true => simp [RangesNamed, searchedCriteria, parent]
  | false =>
      obtain ⟨queryMap, decoded, -, given⟩ := getQueryModel_cases accepted parent
      obtain ⟨stages⟩ := stages_of_getQueryMap decoded
      simp only [searchedCriteria, parent, Bool.false_eq_true, if_false, criteriaOf]
      rcases addIf_cases stages.addsCriteria with ⟨asked, added⟩ | ⟨unasked, -⟩
      · rw [asked, if_pos rfl]
        exact ranges_of_convertible added (filter_of_stages stages) (convertible_of_request given made)
      · simp [unasked, RangesNamed]

theorem builds_of_ranges (accepted : getQueryModel unicode request = .ok model)
    (ranges : RangesNamed (searchedCriteria unicode request)) : Builds wire options model := by
  have named : (model.aggregations.getD []).mapM namedAggregation = .ok [] := by
    rw [aggregations_of_getQueryModel accepted]
    rfl
  refine builds_of_convertible named fun queries own => ?_
  cases parent : isParentObjectInfo unicode request with
  | true =>
      simp only [getQueryModel, parent, if_true, buildGetParentObjectInfoQuery, bind_eq_ok, pure, Except.pure,
        Except.ok.injEq] at accepted
      obtain ⟨id, -, rfl⟩ := accepted
      cases own
  | false =>
      obtain ⟨queryMap, decoded, -, given⟩ := getQueryModel_cases accepted parent
      obtain rfl := Option.some.inj (given.symm.trans own)
      obtain ⟨stages⟩ := stages_of_getQueryMap decoded
      apply (QueryMap.convertible_getBoolQuery (noShould_of_getQueryMap decoded)).mpr
      apply stages.rest_adds.builds.mpr
      rcases addIf_cases stages.addsCriteria with ⟨asked, added⟩ | ⟨-, same⟩
      · rw [searchedCriteria, parent, if_neg Bool.false_ne_true, criteriaOf, if_pos asked] at ranges
        exact builds_addSearchCriteria_of_ranges added QueryMap.builds_empty ranges
      · rw [same]
        exact QueryMap.builds_empty

theorem listMultipleItemTypesQuery_builds_iff (accepted : listMultipleItemTypesQuery unicode request = .ok model) :
    Builds wire options model ↔ RangesNamed (criteriaIn request.searchCriteriaRequest) := by
  simp only [listMultipleItemTypesQuery, bind_eq_ok, addAccessPolicy_eq_ok, pure, Except.pure,
    Except.ok.injEq] at accepted
  obtain ⟨_, ⟨access, -, rfl⟩, criteria, addsCriteria, queryMap, addsInstance, rfl⟩ := accepted
  have instanceAdds := adds_addInstanceFilter addsInstance
  have noShould : (addExclusions queryMap).should = [] :=
    calc (addExclusions queryMap).should
        = queryMap.should := rfl
      _ = criteria.should := instanceAdds.should
      _ = (accessPolicyClause access {}).should := should_addSearchCriteria addsCriteria
      _ = [] := should_accessPolicyClause
  refine ⟨fun builds => ?_, fun ranges => ?_⟩
  · have grown := filter_addInstanceFilter addsInstance
    have kept : criteria.filter ⊆ (addExclusions queryMap).filter := grown
    exact ranges_of_convertible addsCriteria kept (convertible_of_request rfl builds.request)
  · have named : ∃ asked, ((request.filter.map fun filters =>
        filters.map (filterAggregation (listSize request))).getD []).mapM namedAggregation = .ok asked := by
      cases request.filter with
      | none => exact ⟨[], rfl⟩
      | some names => exact ⟨_, mapM_filterAggregation (listSize request) names⟩
    obtain ⟨asked, named⟩ := named
    refine builds_of_convertible named fun queries own => ?_
    obtain rfl := Option.some.inj own
    have criteriaBuilds := builds_addSearchCriteria_of_ranges addsCriteria
      (builds_accessPolicyClause.mpr QueryMap.builds_empty) ranges
    apply (QueryMap.convertible_getBoolQuery noShould).mpr
    exact builds_addExclusions.mpr (instanceAdds.builds.mpr criteriaBuilds)

/-- What a request is decoded to can be sent with every option, unless a
criterion that is looked at is a range without a field. -/
theorem decoded_builds_iff (unicode : Unicode) (request : QueryDecoderRequestDTO) (wire : Wire) (options : String) :
    (∀ model, getQueryModel unicode request = .ok model →
        (Builds wire options model ↔ RangesNamed (searchedCriteria unicode request))) ∧
      ∀ model, listMultipleItemTypesQuery unicode request = .ok model →
        (Builds wire options model ↔ RangesNamed (criteriaIn request.searchCriteriaRequest)) :=
  ⟨fun _ accepted => ⟨fun builds => ranges_of_request accepted builds.request, builds_of_ranges accepted⟩,
    fun _ => listMultipleItemTypesQuery_builds_iff⟩

def rangeRequest (field : Option String) : QueryDecoderRequestDTO where
  searchType := some "searchCriteria_"
  searchCriteriaRequest := some ⟨some [⟨field, some "beforeTemporal", [.str "2024-01-01"]⟩]⟩
  accessPolicyRequest := some ⟨none, none⟩

theorem decoded_builds_range :
    ∃ model, getQueryModel asciiUnicode (rangeRequest (some "itemCreatedAt")) = .ok model ∧
      Builds ⟨JsonObject.dropNulls, JsonObject.get?_dropNulls, .nowhere⟩ "SOURCE" model := by
  have decoded : getQueryModel asciiUnicode (rangeRequest (some "itemCreatedAt")) = .ok _ := rfl
  obtain ⟨searched, -⟩ := decoded_builds_iff asciiUnicode (rangeRequest (some "itemCreatedAt"))
    ⟨JsonObject.dropNulls, JsonObject.get?_dropNulls, .nowhere⟩ "SOURCE"
  refine ⟨_, decoded, (searched _ decoded).mpr ?_⟩
  intro criterion member range
  obtain rfl := List.mem_singleton.mp member
  exact Option.some_ne_none _

theorem unnamed_range_not_built :
    ∃ model, getQueryModel asciiUnicode (rangeRequest none) = .ok model ∧
      ∀ wire options sent, Client.buildSearch (deliver wire model) options ≠ .ok sent := by
  have decoded : getQueryModel asciiUnicode (rangeRequest none) = .ok _ := rfl
  refine ⟨_, decoded, fun wire options sent made => ?_⟩
  have ranges := ranges_of_request decoded ⟨sent, made⟩
  exact ranges ⟨none, some "beforeTemporal", [.str "2024-01-01"]⟩ List.mem_cons_self (by decide) rfl

end Tgdex.Properties
