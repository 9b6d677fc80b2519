import Mathlib.Data.List.Forall2
import Tgdex.Data.BoolQuery
import Tgdex.Java

namespace Tgdex.Elastic

open Tgdex.Data Tgdex.Java

/-! # Query models and the queries built from them

Parameter maps hold JSON values, which is what the service proxy hands to the
service: a list given as a parameter arrives as a JSON array.  Where a query is
built, `none` stands for an exception: `toElasticsearchQuery` replaces whatever
is thrown by one exception of its own. -/

/-- The query types that the decoders and services use. -/
inductive QueryType where
  | matchAll
  | match_
  | matchPhrase
  | term
  | bool
  | wildcard
  | text
  | multiMatch
  | range
deriving Repr, DecidableEq

inductive AggregationType where
  | terms
deriving Repr, DecidableEq

/-- `limit`, `offset` and `minimumShouldMatch` are decimal text in the source,
written from and read back as integers. -/
structure QueryModel where
  queryType : Option QueryType := none
  queryParameters : JsonObject := .empty
  mustQueries : List QueryModel := []
  shouldQueries : List QueryModel := []
  mustNotQueries : List QueryModel := []
  filterQueries : List QueryModel := []
  minimumShouldMatch : Option Nat := none
  queries : Option QueryModel := none
  limit : Option Int := none
  offset : Option Int := none
  aggregations : Option (List QueryModel) := none
  aggregationName : Option String := none
  aggregationType : Option AggregationType := none
  aggregationParameters : JsonObject := .empty
  includeFields : Option (List String) := none
  sortFields : List (String × String) := []

inductive Leaf where
  | match_ (field query : String) (fuzziness operator : Option String)
  | matchPhrase (field query : String)
  | term (field value : String)
  | wildcard (field : String) (value : Option String) (caseInsensitive : Bool)
  | queryString (query : String)
  | multiMatch (query : String) (fields : List String) (fuzziness type : Option String) (boost : String)
  | dateRange (field : String) (gte lte gt lt : Option String)
deriving Repr, DecidableEq

abbrev Query := BoolQuery Leaf

/-- `Map.of` with text values. -/
def params (entries : List (String × String)) : JsonObject :=
  ⟨entries.map fun entry => (entry.1, .str entry.2)⟩

/-- `(String) parameters.get(key)`. -/
def castText (parameters : JsonObject) (key : String) : Option (Option String) :=
  match parameters.get? key with
  | none | some .null => some none
  | some (.str text) => some (some text)
  | some _ => none

def requiredText (parameters : JsonObject) (key : String) : Option String :=
  (castText parameters key).join

/-- `parameters.get(key).toString()`. -/
def printed (parameters : JsonObject) (key : String) : Option String :=
  (parameters.get? key).bind fun value => (toText value).toOption

def printedIfPresent (parameters : JsonObject) (key : String) : Option (Option String) :=
  if parameters.containsKey key then (printed parameters key).map some else some none

def textItems (parameters : JsonObject) (key : String) : Option (List String) :=
  match parameters.get? key with
  | some (.arr items) => items.mapM fun | .str text => some text | _ => none
  | _ => none

def operatorNames : List String := ["And", "Or"]

def textQueryTypes : List String :=
  ["BestFields", "MostFields", "CrossFields", "Phrase", "PhrasePrefix", "BoolPrefix"]

def valueOf (names : List String) : Option String → Option (Option String)
  | none => some none
  | some name => if names.contains name then some (some name) else none

def leafQuery (parameters : JsonObject) : QueryType → Option Query
  | .matchAll => some .all
  | .match_ => do
      let field ← requiredText parameters "field"
      let query ← printed parameters "value"
      let fuzziness ← printedIfPresent parameters "fuzzy"
      let operator ← (printedIfPresent parameters "operator").bind (valueOf operatorNames)
      return .leaf (.match_ field query fuzziness operator)
  | .matchPhrase => do
      let field ← requiredText parameters "field"
      let query ← printed parameters "value"
      return .leaf (.matchPhrase field query)
  | .term => do
      let field ← requiredText parameters "field"
      let value ← printed parameters "value"
      return .leaf (.term field value)
  | .wildcard => do
      let field ← requiredText parameters "field"
      let value ← castText parameters "value"
      let caseInsensitive := match parameters.get? "case_insensitive" with
        | some (.bool true) => true
        | _ => false
      return .leaf (.wildcard field value caseInsensitive)
  | .text => do
      let query ← printed parameters "q"
      return .leaf (.queryString query)
  | .multiMatch => do
      let query ← requiredText parameters "query"
      let fields ← textItems parameters "fields"
      let fuzziness ← castText parameters "fuzziness"
      let boost ← if parameters.containsKey "boost" then requiredText parameters "boost" else some "1.0"
      let type ← (castText parameters "type").bind (valueOf textQueryTypes)
      return .leaf (.multiMatch query fields fuzziness type boost)
  | .range => do
      let field ← printed parameters "field"
      let gte ← printedIfPresent parameters "gte"
      let lte ← printedIfPresent parameters "lte"
      let gt ← printedIfPresent parameters "gt"
      let lt ← printedIfPresent parameters "lt"
      return .leaf (.dateRange field gte lte gt lt)
  | .bool => none

def conversionFailure : Throwable := .runtime "Failed to convert QueryModel to Elasticsearch Query"

mutual
def QueryModel.toElasticsearchQuery : QueryModel → Except Throwable Query
  | { queryType := none, .. } => .error (.illegalArgument "Query type cannot be null")
  | { queryType := some .bool, mustQueries, shouldQueries, mustNotQueries, filterQueries,
      minimumShouldMatch, .. } =>
      match toQueries mustQueries, toQueries shouldQueries, toQueries mustNotQueries, toQueries filterQueries with
      | some must, some should, some mustNot, some filter =>
          .ok (.bool must should mustNot filter minimumShouldMatch)
      | _, _, _, _ => .error conversionFailure
  | { queryType := some type, queryParameters, .. } =>
      match leafQuery queryParameters type with
      | some query => .ok query
      | none => .error conversionFailure

def toQueries : List QueryModel → Option (List Query)
  | [] => some []
  | model :: rest =>
      match model.toElasticsearchQuery, toQueries rest with
      | .ok query, some queries => some (query :: queries)
      | _, _ => none
end

def termQuery (field value : String) : QueryModel :=
  { queryType := some .term, queryParameters := params [("field", field), ("value", value)] }

def matchQuery (field value : String) : QueryModel :=
  { queryType := some .match_, queryParameters := params [("field", field), ("value", value)] }

def mustQuery (queries : List QueryModel) : QueryModel :=
  { queryType := some .bool, mustQueries := queries }

def shouldQuery (queries : List QueryModel) (minimum : Option Nat) : QueryModel :=
  { queryType := some .bool, shouldQueries := queries, minimumShouldMatch := minimum }

def Converts (model : QueryModel) (query : Query) : Prop := model.toElasticsearchQuery = .ok query

theorem toQueries_iff {models : List QueryModel} {queries : List Query} :
    toQueries models = some queries ↔ List.Forall₂ Converts models queries := by
  induction models generalizing queries with
  | nil => simp [toQueries, eq_comm]
  | cons model rest ih =>
      rw [List.forall₂_cons_left_iff]
      cases first : model.toElasticsearchQuery with
      | error reason => simp [toQueries, first, Converts]
      | ok query =>
          cases remaining : toQueries rest with
          | none =>
              have stuck : ∀ queries, ¬List.Forall₂ Converts rest queries := fun queries converted => by
                simpa [remaining] using ih.mpr converted
              simp [toQueries, first, remaining, stuck]
          | some converted =>
              have last : List.Forall₂ Converts rest converted := ih.mp remaining
              simp only [toQueries, first, remaining, Option.some.injEq]
              refine ⟨?_, ?_⟩
              · intro same
                subst same
                exact ⟨query, converted, first, last, rfl⟩
              · intro shown
                obtain ⟨other, others, same, tail, rfl⟩ := shown
                have equal : query = other := by simpa [Converts, first] using same
                have equals : converted = others := by simpa [remaining] using ih.mpr tail
                rw [equal, equals]

theorem converts_bool {model : QueryModel} (bool : model.queryType = some .bool) {query : Query} :
    Converts model query ↔ ∃ must should mustNot filter,
      List.Forall₂ Converts model.mustQueries must ∧ List.Forall₂ Converts model.shouldQueries should ∧
      List.Forall₂ Converts model.mustNotQueries mustNot ∧ List.Forall₂ Converts model.filterQueries filter ∧
      query = .bool must should mustNot filter model.minimumShouldMatch := by
  cases model with
  | mk type parameters mustQueries shouldQueries mustNotQueries filterQueries minimum =>
      subst bool
      simp only [← toQueries_iff, Converts, QueryModel.toElasticsearchQuery]
      split
      · rename_i must should mustNot filter mustConverted shouldConverted mustNotConverted filterConverted
        simp [mustConverted, shouldConverted, mustNotConverted, filterConverted, eq_comm]
      · rename_i failed
        refine ⟨?_, ?_⟩
        · intro converted
          cases converted
        · intro shown
          obtain ⟨must, should, mustNot, filter, mustOk, shouldOk, mustNotOk, filterOk, _⟩ := shown
          exact absurd filterOk (failed must should mustNot filter mustOk shouldOk mustNotOk)

theorem converts_termQuery (field value : String) :
    Converts (termQuery field value) (.leaf (.term field value)) := rfl

theorem converts_matchQuery (field value : String) :
    Converts (matchQuery field value) (.leaf (.match_ field value none none)) := rfl

theorem Converts.unique {model : QueryModel} {query other : Query} (first : Converts model query)
    (second : Converts model other) : query = other :=
  Except.ok.inj (first.symm.trans second)

section

variable (truth : Leaf → Bool)

/-- Whether the query of a model holds; a model without one never does. -/
def truthOf (model : QueryModel) : Bool :=
  match model.toElasticsearchQuery with
  | .ok query => query.holds truth
  | .error _ => false

def Convertible (model : QueryModel) : Prop := ∃ query, Converts model query

variable {truth}

theorem truthOf_of_converts {model : QueryModel} {query : Query} (converted : Converts model query) :
    truthOf truth model = query.holds truth := by
  have built : model.toElasticsearchQuery = .ok query := converted
  simp only [truthOf, built]

theorem convertible_of_truthOf {model : QueryModel} (held : truthOf truth model = true) : Convertible model := by
  simp only [truthOf] at held
  split at held
  · rename_i query converted
    exact ⟨query, converted⟩
  · contradiction

theorem forall_truthOf {models : List QueryModel} {queries : List Query} {value : Bool}
    (converted : List.Forall₂ Converts models queries) :
    (∀ query ∈ queries, query.holds truth = value) ↔ ∀ model ∈ models, truthOf truth model = value :=
  (forall_iff_of_forall₂ (fun _ _ _ made => by rw [truthOf_of_converts made]) converted).symm

theorem exists_truthOf {models : List QueryModel} {queries : List Query}
    (converted : List.Forall₂ Converts models queries) :
    (∃ query ∈ queries, query.holds truth = true) ↔ ∃ model ∈ models, truthOf truth model = true :=
  (exists_iff_of_forall₂ (fun _ _ made => by rw [truthOf_of_converts made]) converted).symm

theorem convertible_iff {models : List QueryModel} :
    (∀ model ∈ models, Convertible model) ↔ ∃ queries, List.Forall₂ Converts models queries := by
  induction models with
  | nil => simp
  | cons model rest ih =>
      simp only [List.forall_mem_cons, ih, List.forall₂_cons_left_iff]
      refine ⟨?_, ?_⟩
      · intro shown
        obtain ⟨⟨query, first⟩, queries, tail⟩ := shown
        exact ⟨query :: queries, query, queries, first, tail, rfl⟩
      · intro shown
        obtain ⟨_, query, queries, first, tail, rfl⟩ := shown
        exact ⟨⟨query, first⟩, queries, tail⟩

theorem convertible_bool {model : QueryModel} (bool : model.queryType = some .bool) :
    Convertible model ↔ (∀ clause ∈ model.mustQueries, Convertible clause) ∧
      (∀ clause ∈ model.shouldQueries, Convertible clause) ∧
      (∀ clause ∈ model.mustNotQueries, Convertible clause) ∧
      ∀ clause ∈ model.filterQueries, Convertible clause := by
  rw [convertible_iff, convertible_iff, convertible_iff, convertible_iff]
  simp only [Convertible, converts_bool bool]
  refine ⟨?_, ?_⟩
  · intro shown
    obtain ⟨_, must, should, mustNot, filter, mustOk, shouldOk, mustNotOk, filterOk, rfl⟩ := shown
    exact ⟨⟨must, mustOk⟩, ⟨should, shouldOk⟩, ⟨mustNot, mustNotOk⟩, filter, filterOk⟩
  · intro shown
    obtain ⟨⟨must, mustOk⟩, ⟨should, shouldOk⟩, ⟨mustNot, mustNotOk⟩, filter, filterOk⟩ := shown
    exact ⟨_, must, should, mustNot, filter, mustOk, shouldOk, mustNotOk, filterOk, rfl⟩

theorem truthOf_conjunction {model : QueryModel} (bool : model.queryType = some .bool)
    (noShould : model.shouldQueries = []) (noMinimum : model.minimumShouldMatch = none)
    (convertible : Convertible model) :
    truthOf truth model = true ↔ (∀ clause ∈ model.mustQueries, truthOf truth clause = true) ∧
      (∀ clause ∈ model.filterQueries, truthOf truth clause = true) ∧
      ∀ clause ∈ model.mustNotQueries, truthOf truth clause = false := by
  obtain ⟨query, converted⟩ := convertible
  rw [truthOf_of_converts converted]
  obtain ⟨must, should, mustNot, filter, mustOk, shouldOk, mustNotOk, filterOk, rfl⟩ :=
    (converts_bool bool).mp converted
  rw [noShould] at shouldOk
  cases shouldOk
  rw [noMinimum, BoolQuery.holds_bool_without_should, forall_truthOf mustOk, forall_truthOf filterOk,
    forall_truthOf mustNotOk]

theorem truthOf_mustQuery {models : List QueryModel} (convertible : Convertible (mustQuery models)) :
    truthOf truth (mustQuery models) = true ↔ ∀ clause ∈ models, truthOf truth clause = true := by
  rw [truthOf_conjunction rfl rfl rfl convertible]
  simp [mustQuery]

theorem truthOf_shouldQuery {models : List QueryModel} {minimum : Option Nat}
    (convertible : Convertible (shouldQuery models minimum)) (nonempty : models ≠ [])
    (one : minimum = none ∨ minimum = some 1) :
    truthOf truth (shouldQuery models minimum) = true ↔ ∃ clause ∈ models, truthOf truth clause = true := by
  obtain ⟨query, converted⟩ := convertible
  rw [truthOf_of_converts converted]
  obtain ⟨must, should, mustNot, filter, mustOk, shouldOk, mustNotOk, filterOk, rfl⟩ :=
    (converts_bool rfl).mp converted
  cases mustOk
  cases mustNotOk
  cases filterOk
  have some : should ≠ [] := by
    intro same
    subst same
    cases shouldOk
    exact nonempty rfl
  have holds := BoolQuery.holds_should_iff truth some one
  exact holds.trans (exists_truthOf shouldOk)

end

end Tgdex.Elastic
