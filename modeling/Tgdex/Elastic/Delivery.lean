import Tgdex.Elastic.Service

namespace Tgdex.Elastic

open Tgdex.Data Tgdex.Java

/-! # Query models as the service proxy delivers them

A model travels to the service as JSON.  The generated converter keeps every
field of every node, and of the parameter maps what the wire carries. -/

section

variable (wire : Wire)

mutual
def deliver : QueryModel → QueryModel
  | { queryType, queryParameters, mustQueries, shouldQueries, mustNotQueries, filterQueries, minimumShouldMatch,
      queries, limit, offset, aggregations, aggregationName, aggregationType, aggregationParameters, includeFields,
      sortFields } =>
      { queryType
        queryParameters := wire.carry queryParameters
        mustQueries := deliverAll mustQueries
        shouldQueries := deliverAll shouldQueries
        mustNotQueries := deliverAll mustNotQueries
        filterQueries := deliverAll filterQueries
        minimumShouldMatch
        queries := deliverOne queries
        limit
        offset
        aggregations := deliverList aggregations
        aggregationName
        aggregationType
        aggregationParameters := wire.carry aggregationParameters
        includeFields
        sortFields }

def deliverAll : List QueryModel → List QueryModel
  | [] => []
  | model :: rest => deliver model :: deliverAll rest

def deliverOne : Option QueryModel → Option QueryModel
  | none => none
  | some model => some (deliver model)

def deliverList : Option (List QueryModel) → Option (List QueryModel)
  | none => none
  | some models => some (deliverAll models)
end

end

variable {wire : Wire} {parameters : JsonObject} {key : String}

theorem deliverAll_eq_map (models : List QueryModel) : deliverAll wire models = models.map (deliver wire) := by
  induction models with
  | nil => rfl
  | cons model rest ih => simp only [deliverAll, ih, List.map_cons]

theorem given?_cases : (wire.carry parameters).get? key = parameters.get? key ∨
    parameters.get? key = some .null ∧ (wire.carry parameters).get? key = none := by
  rw [wire.carry_get?, JsonObject.given?]
  cases parameters.get? key with
  | none => simp
  | some value => cases value <;> simp

theorem castText_carry : castText (wire.carry parameters) key = castText parameters key := by
  rcases @given?_cases wire parameters key with same | ⟨null, gone⟩
  · simp only [castText, same]
  · simp only [castText, null, gone]

theorem requiredText_carry : requiredText (wire.carry parameters) key = requiredText parameters key := by
  simp only [requiredText, castText_carry]

theorem printed_carry : printed (wire.carry parameters) key = printed parameters key := by
  rcases @given?_cases wire parameters key with same | ⟨null, gone⟩
  · simp only [printed, same]
  · simp only [printed, null, gone]
    rfl

theorem textItems_carry : textItems (wire.carry parameters) key = textItems parameters key := by
  rcases @given?_cases wire parameters key with same | ⟨null, gone⟩
  · simp only [textItems, same]
  · simp only [textItems, null, gone]

theorem containsKey_carry (same : (wire.carry parameters).get? key = parameters.get? key) :
    (wire.carry parameters).containsKey key = parameters.containsKey key :=
  congrArg Option.isSome same

/-- A parameter whose presence is looked at is not null when it can be read. -/
theorem printedIfPresent_carry {text : Option String} (read : printedIfPresent parameters key = some text) :
    printedIfPresent (wire.carry parameters) key = some text := by
  rcases @given?_cases wire parameters key with same | ⟨null, gone⟩
  · simpa only [printedIfPresent, containsKey_carry same, printed_carry] using read
  · simp [printedIfPresent, JsonObject.containsKey, printed, null, toText, Except.toOption] at read

theorem leafQuery_carry {type : QueryType} {query : Query} (built : leafQuery parameters type = some query) :
    leafQuery (wire.carry parameters) type = some query := by
  cases type with
  | matchAll => exact built
  | bool => exact built
  | matchPhrase => simpa only [leafQuery, requiredText_carry, printed_carry] using built
  | term => simpa only [leafQuery, requiredText_carry, printed_carry] using built
  | text => simpa only [leafQuery, printed_carry] using built
  | match_ =>
      simp only [leafQuery, Option.bind_eq_bind, Option.bind_eq_some_iff] at built ⊢
      obtain ⟨field, named, text, valued, fuzziness, fuzzy, operator, ⟨own, operated, known⟩, made⟩ := built
      exact ⟨field, by rw [requiredText_carry, named], text, by rw [printed_carry, valued], fuzziness,
        printedIfPresent_carry fuzzy, operator, ⟨own, printedIfPresent_carry operated, known⟩, made⟩
  | wildcard =>
      rcases @given?_cases wire parameters "case_insensitive" with same | ⟨null, gone⟩
      · simpa only [leafQuery, requiredText_carry, castText_carry, same] using built
      · simpa only [leafQuery, requiredText_carry, castText_carry, null, gone] using built
  | multiMatch =>
      rcases @given?_cases wire parameters "boost" with same | ⟨null, gone⟩
      · simpa only [leafQuery, requiredText_carry, castText_carry, textItems_carry, containsKey_carry same]
          using built
      · simp [leafQuery, JsonObject.containsKey, requiredText, castText, null] at built
  | range =>
      simp only [leafQuery, Option.bind_eq_bind, Option.bind_eq_some_iff] at built ⊢
      obtain ⟨field, named, gte, first, lte, second, gt, third, lt, fourth, made⟩ := built
      exact ⟨field, by rw [printed_carry, named], gte, printedIfPresent_carry first, lte,
        printedIfPresent_carry second, gt, printedIfPresent_carry third, lt, printedIfPresent_carry fourth, made⟩

theorem converts_leaf {model : QueryModel} {type : QueryType} (typed : model.queryType = some type)
    (leaf : type ≠ .bool) {query : Query} :
    Converts model query ↔ leafQuery model.queryParameters type = some query := by
  obtain ⟨own, parameters⟩ := model
  subst typed
  cases type with
  | bool => contradiction
  | _ =>
      simp only [Converts, QueryModel.toElasticsearchQuery]
      split <;> simp_all

mutual
/-- Delivery does not change the query of a model that has one. -/
theorem Converts.deliver : (model : QueryModel) → {query : Query} → Converts model query →
    Converts (deliver wire model) query
  | { queryType := none, .. }, _, converted => nomatch converted
  | { queryType := some type, queryParameters, mustQueries, shouldQueries, mustNotQueries, filterQueries, .. },
      query, converted => by
      by_cases bool : type = .bool
      · subst bool
        obtain ⟨must, should, mustNot, filter, musts, shoulds, mustNots, filters, rfl⟩ :=
          (converts_bool rfl).mp converted
        exact (converts_bool rfl).mpr ⟨must, should, mustNot, filter, converts_deliverAll mustQueries musts,
          converts_deliverAll shouldQueries shoulds, converts_deliverAll mustNotQueries mustNots,
          converts_deliverAll filterQueries filters, rfl⟩
      · exact (converts_leaf rfl bool).mpr (leafQuery_carry ((converts_leaf rfl bool).mp converted))

theorem converts_deliverAll : (models : List QueryModel) → {queries : List Query} →
    List.Forall₂ Converts models queries → List.Forall₂ Converts (deliverAll wire models) queries
  | [], _, .nil => .nil
  | model :: rest, _, .cons first others => .cons (Converts.deliver model first) (converts_deliverAll rest others)
end

def clauses (model : QueryModel) : List QueryModel :=
  model.mustQueries ++ model.shouldQueries ++ model.mustNotQueries ++ model.filterQueries

/-- The nodes that a conversion comes to, the root first. -/
inductive Node (root : QueryModel) : QueryModel → Prop
  | self : Node root root
  | clause {parent clause : QueryModel} : Node root parent → parent.queryType = some .bool →
      clause ∈ clauses parent → Node root clause

/-- The node has a type, and its parameters are there and of the right types. -/
def WellTyped (node : QueryModel) : Prop :=
  ∃ type, node.queryType = some type ∧ (type ≠ .bool → ∃ query, leafQuery node.queryParameters type = some query)

variable {root node : QueryModel}

theorem convertible_bool_iff_clauses (bool : node.queryType = some .bool) :
    Convertible node ↔ ∀ clause ∈ clauses node, Convertible clause := by
  rw [convertible_bool bool]
  simp only [clauses, List.forall_mem_append, and_assoc]

theorem convertible_of_node (inside : Node root node) (convertible : Convertible root) : Convertible node := by
  induction inside with
  | self => exact convertible
  | clause inside bool member ih => exact (convertible_bool_iff_clauses bool).mp ih _ member

theorem wellTyped_of_convertible (convertible : Convertible node) : WellTyped node := by
  obtain ⟨query, converted⟩ := convertible
  cases typed : node.queryType with
  | none =>
      obtain ⟨own, parameters⟩ := node
      subst typed
      cases converted
  | some type => exact ⟨type, typed, fun leaf => ⟨query, (converts_leaf typed leaf).mp converted⟩⟩

theorem clauses_deliver (model : QueryModel) : clauses (deliver wire model) = (clauses model).map (deliver wire) := by
  cases model
  simp only [clauses, deliver, deliverAll_eq_map, List.map_append]

theorem queryType_deliver (model : QueryModel) : (deliver wire model).queryType = model.queryType := by
  cases model
  rfl

theorem node_deliver (inside : Node root node) : Node (deliver wire root) (deliver wire node) := by
  induction inside with
  | self => exact .self
  | clause inside bool member ih =>
      refine ih.clause ?_ ?_
      · rw [queryType_deliver, bool]
      · rw [clauses_deliver]
        exact List.mem_map_of_mem member

theorem castInteger_carry : castInteger (wire.carry parameters) key = castInteger parameters key := by
  rcases @given?_cases wire parameters key with same | ⟨null, gone⟩
  · simp only [castInteger, same]
  · simp only [castInteger, null, gone]

theorem namedAggregation_deliver (model : QueryModel) :
    namedAggregation (deliver wire model) = namedAggregation model := by
  cases model with
  | mk =>
      simp only [namedAggregation, deliver, QueryModel.toElasticsearchAggregations, requiredText_carry,
        castInteger_carry]

theorem aggregations_deliver (model : QueryModel) :
    (deliver wire model).aggregations.getD [] = (model.aggregations.getD []).map (deliver wire) := by
  obtain ⟨_, _, _, _, _, _, _, _, _, _, aggregations⟩ := model
  cases aggregations with
  | none => rfl
  | some models => exact deliverAll_eq_map models

theorem searchQuery_deliver {model : QueryModel} {query : Option Query} (built : searchQuery model = .ok query) :
    searchQuery (deliver wire model) = .ok query := by
  obtain ⟨_, _, _, _, _, _, _, queries⟩ := model
  cases queries with
  | none => exact built
  | some root =>
      simp only [searchQuery] at built
      cases converted : root.toElasticsearchQuery with
      | error cause =>
          rw [converted] at built
          cases built
      | ok own =>
          have delivered : (deliver wire root).toElasticsearchQuery = .ok own := Converts.deliver root converted
          simp only [searchQuery, deliver, deliverOne, delivered]
          rwa [converted] at built

/-- A model that a request can be built of is delivered as one with the same request. -/
theorem searchRequest_deliver {model : QueryModel} {options : Options} {sent : SearchRequest}
    (built : searchRequest model options = .ok sent) : searchRequest (deliver wire model) options = .ok sent := by
  simp only [searchRequest, bind_eq_ok] at built ⊢
  obtain ⟨aggregations, named, query, converted, made⟩ := built
  refine ⟨aggregations, ?_, query, searchQuery_deliver converted, ?_⟩
  · rw [aggregations_deliver, List.mapM_map]
    simpa only [Function.comp_def, namedAggregation_deliver] using named
  · cases model
    exact made

end Tgdex.Elastic
