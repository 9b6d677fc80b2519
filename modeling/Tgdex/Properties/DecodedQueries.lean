import Tgdex.Query.Meaning

namespace Tgdex.Properties

open Tgdex.Data Tgdex.Java Tgdex.Elastic Tgdex.Query

/-! # The meaning of an accepted search request -/

variable {unicode : Unicode} {request : QueryDecoderRequestDTO} {model : QueryModel}

/-- A document matches the query of an accepted request exactly when it
satisfies the access policy, no exclusion, every criterion and the text search
that the search type names.  The query can be built when the criteria name
their fields. -/
theorem getQueryModel_meaning (accepted : getQueryModel unicode request = .ok model)
    (ordinary : isParentObjectInfo unicode request = false)
    (values : ∀ criterion ∈ criteriaOf request, criterion.HasValues) :
    ∃ queries, model.queries = some queries ∧
      ((∀ criterion ∈ criteriaOf request, criterion.field ≠ none) → Convertible queries) ∧
      ∀ query, Converts queries query →
        ∀ (interpretation : Leaf → JsonObject → Bool) (document : JsonObject),
          query.holds (fun leaf => interpretation leaf document) = true ↔
            RequestHolds (fun leaf => interpretation leaf document) unicode request := by
  obtain ⟨queryMap, decoded, -, given⟩ := getQueryModel_cases accepted ordinary
  have noShould := noShould_of_getQueryMap decoded
  refine ⟨queryMap.getBoolQuery, given, ?_, ?_⟩
  · intro named
    exact (QueryMap.convertible_getBoolQuery noShould).mpr (builds_getQueryMap decoded named)
  · intro query converted interpretation document
    have builds : queryMap.Builds := (QueryMap.convertible_getBoolQuery noShould).mp ⟨query, converted⟩
    rw [← truthOf_of_converts converted, QueryMap.truthOf_getBoolQuery builds]
    exact holds_getQueryMap decoded builds values

def rainRequest (searchType : String) : QueryDecoderRequestDTO where
  searchType := some searchType
  textSearchRequest := some ⟨some "water", none, none⟩
  searchCriteriaRequest := some ⟨some [⟨some "name", some "term", [.str "Rain"]⟩]⟩
  accessPolicyRequest := some ⟨none, none⟩

def rainModel (criteria : List QueryModel) : QueryModel where
  queries := some
    { queryType := some .bool
      filterQueries := criteria
      mustQueries := [shouldQuery [textQuery "water"] (some 1)]
      mustNotQueries := [policyQuery "PRIVATE", buildExclusionForUnpublishedOrUnuploadedItems itemTypeDataBank,
        buildExclusionForUnpublishedOrUnuploadedItems itemTypeAiModel] }

theorem getQueryModel_meaning_rain :
    ∃ queries, (rainModel [mustQuery [shouldQuery [termQuery "name.keyword" "Rain"] none]]).queries = some queries ∧
      ((∀ criterion ∈ criteriaOf (rainRequest "searchCriteria_textSearch_"), criterion.field ≠ none) →
        Convertible queries) ∧
      ∀ query, Converts queries query →
        ∀ (interpretation : Leaf → JsonObject → Bool) (document : JsonObject),
          query.holds (fun leaf => interpretation leaf document) = true ↔
            RequestHolds (fun leaf => interpretation leaf document) asciiUnicode
              (rainRequest "searchCriteria_textSearch_") := by
  have criteria : criteriaOf (rainRequest "searchCriteria_textSearch_") =
      [⟨some "name", some "term", [.str "Rain"]⟩] := rfl
  apply @getQueryModel_meaning asciiUnicode (rainRequest "searchCriteria_textSearch_") _ rfl rfl
  rw [criteria, List.forall_mem_singleton]
  exact fun _ => List.cons_ne_nil _ _

/-- A document that only the text search matches is found although it does not
satisfy the criterion of the request. -/
theorem unnamed_criterion_ignored :
    ∃ queries query, getQueryModel asciiUnicode (rainRequest "textSearch_") = .ok (rainModel []) ∧
      isParentObjectInfo asciiUnicode (rainRequest "textSearch_") = false ∧
      (rainModel []).queries = some queries ∧ Converts queries query ∧
      query.holds (fun leaf => decide (leaf = .queryString "water")) = true ∧
      ∃ criterion ∈ criteriaIn (rainRequest "textSearch_").searchCriteriaRequest,
        criterion.values.length = 1 ∧
          ¬CriterionHolds (fun leaf => decide (leaf = .queryString "water")) asciiUnicode criterion := by
  refine ⟨_, _, rfl, rfl, rfl, rfl, by decide, ⟨some "name", some "term", [.str "Rain"]⟩, ?_, rfl, ?_⟩
  · simp [criteriaIn, rainRequest]
  · intro shown
    obtain ⟨field, named, held⟩ := shown
    obtain rfl := Option.some.inj named
    obtain ⟨value, member, matched⟩ := (if_pos rfl).mp held
    obtain rfl := List.mem_singleton.mp member
    exact absurd matched (by decide)

end Tgdex.Properties
