import Tgdex.Query.Decoder

namespace Tgdex.Query

open Tgdex.Data Tgdex.Java Tgdex.Elastic

/-! # What decoded queries mean

Conditions on a document are stated over a truth value for every leaf, and
each decorator is shown to add its condition to the clauses collected so far. -/

variable {truth : Leaf → Bool}

section

variable (truth)

def AccessHolds (request : AccessPolicyRequestDTO) : Prop :=
  match request.caller with
  | some sub =>
      if request.myAssetsReq = some true then truth (.match_ "ownerUserId" sub none none) = true
      else truth (.match_ "accessPolicy" "OPEN" none none) = true ∨
        truth (.match_ "accessPolicy" "RESTRICTED" none none) = true ∨
        (truth (.match_ "accessPolicy" "PRIVATE" none none) = true ∧
          truth (.match_ "ownerUserId" sub none none) = true)
  | none => truth (.match_ "accessPolicy" "PRIVATE" none none) = false

def Excluded (itemType : String) : Prop :=
  truth (.term "type.keyword" itemType) = true ∧
    (truth (.term "dataUploadStatus" "false") = true ∨ truth (.term "publishStatus.keyword" "PENDING") = true)

def termLeaf (unicode : Unicode) (field value : String) : Leaf :=
  if field = "description" || "location".toList.isPrefixOf field.toList then .match_ field value none none
  else if field = "tags" then .matchPhrase field value
  else if field = "fileFormat" then .wildcard (field ++ ".keyword") (some (unicode.lowerCase value)) true
  else .term (if ".keyword".toList.isSuffixOf field.toList then field else field ++ ".keyword") value

/-- The condition of one criterion, by its type. -/
def CriterionHolds (unicode : Unicode) (criterion : SearchCriteriaDTO) : Prop :=
  ∃ field, criterion.field = some field ∧
    if criterion.type = "term" then
      ∃ value ∈ criterion.values, truth (termLeaf unicode field (javaText value)) = true
    else if isBetween criterion.type then
      ∃ lower upper, criterion.values = [lower, upper] ∧
        truth (.dateRange field (some (javaText lower)) (some (javaText upper)) none none) = true
    else if isBefore criterion.type then
      ∃ bound rest, criterion.values = bound :: rest ∧
        truth (.dateRange field none none none (some (javaText bound))) = true
    else
      ∃ bound rest, criterion.values = bound :: rest ∧
        truth (.dateRange field none none (some (javaText bound)) none) = true

def textLeaves (request : TextSearchRequestDTO) (q : String) : List Leaf :=
  if request.fuzzy = some true then
    [.multiMatch q ["label", "tags", "description"] (some "AUTO") none "1.0",
     .multiMatch q ["label", "tags", "description"] none (some "BoolPrefix") "5.0"]
  else [.queryString q]

def TextHolds (request : TextSearchRequestDTO) : Prop :=
  ∃ q, request.q = some q ∧ ∃ leaf ∈ textLeaves request q, truth leaf = true

end

@[simp] theorem truthOf_matchQuery (field value : String) :
    truthOf truth (matchQuery field value) = truth (.match_ field value none none) := by
  rw [truthOf_of_converts (converts_matchQuery field value), BoolQuery.holds_leaf]

@[simp] theorem truthOf_termQuery (field value : String) :
    truthOf truth (termQuery field value) = truth (.term field value) := by
  rw [truthOf_of_converts (converts_termQuery field value), BoolQuery.holds_leaf]

theorem converts_termValueQuery (unicode : Unicode) (field value : String) :
    Converts (termValueQuery unicode field value) (.leaf (termLeaf unicode field value)) := by
  simp only [termValueQuery, termLeaf]
  split
  · rfl
  · split
    · rfl
    · split
      · rfl
      · exact converts_termQuery _ value

theorem convertible_termQuery (field value : String) : Convertible (termQuery field value) :=
  ⟨_, converts_termQuery field value⟩

theorem convertible_matchQuery (field value : String) : Convertible (matchQuery field value) :=
  ⟨_, converts_matchQuery field value⟩

theorem convertible_mustQuery {models : List QueryModel} :
    Convertible (mustQuery models) ↔ ∀ clause ∈ models, Convertible clause := by
  rw [convertible_bool rfl]
  simp [mustQuery]

theorem convertible_shouldQuery {models : List QueryModel} {minimum : Option Nat} :
    Convertible (shouldQuery models minimum) ↔ ∀ clause ∈ models, Convertible clause := by
  rw [convertible_bool rfl]
  simp [shouldQuery]

theorem toText_eq_ok {value : Json} {text : String} :
    toText value = .ok text ↔ value ≠ .null ∧ javaText value = text := by
  cases value <;> simp [toText]

namespace QueryMap

/-- Every clause holds; there are no should clauses. -/
def Holds (truth : Leaf → Bool) (queryMap : QueryMap) : Prop :=
  (∀ clause ∈ queryMap.must, truthOf truth clause = true) ∧
    (∀ clause ∈ queryMap.filter, truthOf truth clause = true) ∧
    ∀ clause ∈ queryMap.mustNot, truthOf truth clause = false

/-- Every clause can be converted, and there are no should clauses. -/
structure Builds (queryMap : QueryMap) : Prop where
  must : ∀ clause ∈ queryMap.must, Convertible clause
  filter : ∀ clause ∈ queryMap.filter, Convertible clause
  mustNot : ∀ clause ∈ queryMap.mustNot, Convertible clause
  noShould : queryMap.should = []

variable {queryMap : QueryMap} {model : QueryModel}

theorem holds_empty : Holds truth {} := by simp [Holds]

theorem builds_empty : Builds {} := ⟨by simp, by simp, by simp, rfl⟩

theorem holds_addFilter : (queryMap.addFilter model).Holds truth ↔ queryMap.Holds truth ∧ truthOf truth model = true := by
  simp only [Holds, addFilter, List.forall_mem_append, List.forall_mem_singleton]
  tauto

theorem holds_addMust : (queryMap.addMust model).Holds truth ↔ queryMap.Holds truth ∧ truthOf truth model = true := by
  simp only [Holds, addMust, List.forall_mem_append, List.forall_mem_singleton]
  tauto

theorem holds_addMustNot :
    (queryMap.addMustNot model).Holds truth ↔ queryMap.Holds truth ∧ truthOf truth model = false := by
  simp only [Holds, addMustNot, List.forall_mem_append, List.forall_mem_singleton]
  tauto

theorem builds_addFilter : (queryMap.addFilter model).Builds ↔ queryMap.Builds ∧ Convertible model := by
  refine ⟨?_, ?_⟩
  · intro shown
    obtain ⟨must, filter, mustNot, noShould⟩ := shown
    simp only [addFilter, List.forall_mem_append, List.forall_mem_singleton] at filter
    exact ⟨⟨must, filter.1, mustNot, noShould⟩, filter.2⟩
  · intro shown
    obtain ⟨⟨must, filter, mustNot, noShould⟩, convertible⟩ := shown
    exact ⟨must, List.forall_mem_append.mpr ⟨filter, by simpa using convertible⟩, mustNot, noShould⟩

theorem builds_addMust : (queryMap.addMust model).Builds ↔ queryMap.Builds ∧ Convertible model := by
  refine ⟨?_, ?_⟩
  · intro shown
    obtain ⟨must, filter, mustNot, noShould⟩ := shown
    simp only [addMust, List.forall_mem_append, List.forall_mem_singleton] at must
    exact ⟨⟨must.1, filter, mustNot, noShould⟩, must.2⟩
  · intro shown
    obtain ⟨⟨must, filter, mustNot, noShould⟩, convertible⟩ := shown
    exact ⟨List.forall_mem_append.mpr ⟨must, by simpa using convertible⟩, filter, mustNot, noShould⟩

theorem builds_addMustNot : (queryMap.addMustNot model).Builds ↔ queryMap.Builds ∧ Convertible model := by
  refine ⟨?_, ?_⟩
  · intro shown
    obtain ⟨must, filter, mustNot, noShould⟩ := shown
    simp only [addMustNot, List.forall_mem_append, List.forall_mem_singleton] at mustNot
    exact ⟨⟨must, filter, mustNot.1, noShould⟩, mustNot.2⟩
  · intro shown
    obtain ⟨⟨must, filter, mustNot, noShould⟩, convertible⟩ := shown
    exact ⟨must, filter, List.forall_mem_append.mpr ⟨mustNot, by simpa using convertible⟩, noShould⟩

theorem convertible_getBoolQuery (noShould : queryMap.should = []) :
    Convertible queryMap.getBoolQuery ↔ queryMap.Builds := by
  rw [convertible_bool rfl]
  simp only [getBoolQuery, noShould]
  refine ⟨?_, ?_⟩
  · intro shown
    obtain ⟨must, -, mustNot, filter⟩ := shown
    exact ⟨must, filter, mustNot, noShould⟩
  · intro shown
    obtain ⟨must, filter, mustNot, -⟩ := shown
    exact ⟨must, by simp, mustNot, filter⟩

theorem truthOf_getBoolQuery (builds : queryMap.Builds) :
    truthOf truth queryMap.getBoolQuery = true ↔ queryMap.Holds truth :=
  truthOf_conjunction rfl builds.noShould rfl ((convertible_getBoolQuery builds.noShould).mpr builds)

/-- A step adds one condition, made of clauses that can be converted. -/
structure Adds (before after : QueryMap) (condition : (Leaf → Bool) → Prop) : Prop where
  holds : ∀ truth, after.Holds truth ↔ before.Holds truth ∧ condition truth
  builds : after.Builds ↔ before.Builds
  should : after.should = before.should

theorem adds_nothing : Adds queryMap queryMap fun _ => True := ⟨by simp, Iff.rfl, rfl⟩

theorem Adds.trans {first second third : QueryMap} {left right : (Leaf → Bool) → Prop}
    (one : Adds first second left) (two : Adds second third right) :
    Adds first third fun truth => left truth ∧ right truth :=
  ⟨fun truth => by rw [two.holds, one.holds, and_assoc], two.builds.trans one.builds,
    two.should.trans one.should⟩

/-- Whether the query of the clauses holds; `none` where it cannot be built. -/
def selected (truth : Leaf → Bool) (queryMap : QueryMap) : Option Bool :=
  queryMap.getBoolQuery.toElasticsearchQuery.toOption.map (BoolQuery.holds truth)

theorem selected_eq_some {value : Bool} :
    queryMap.selected truth = some value ↔
      Convertible queryMap.getBoolQuery ∧ truthOf truth queryMap.getBoolQuery = value := by
  simp only [selected, truthOf, Convertible, Converts]
  cases queryMap.getBoolQuery.toElasticsearchQuery with
  | error cause => simp [Except.toOption]
  | ok query => simp [Except.toOption]

theorem Adds.selected_eq {before after : QueryMap} (adds : Adds before after fun _ => True)
    (noShould : before.should = []) : after.selected truth = before.selected truth := by
  have noShouldAfter : after.should = [] := adds.should.trans noShould
  apply Option.ext
  intro value
  rw [selected_eq_some, selected_eq_some, convertible_getBoolQuery noShouldAfter,
    convertible_getBoolQuery noShould, adds.builds]
  apply and_congr_right
  intro builds
  have same : truthOf truth after.getBoolQuery = truthOf truth before.getBoolQuery := by
    rw [Bool.eq_iff_iff, truthOf_getBoolQuery builds, truthOf_getBoolQuery (adds.builds.mpr builds), adds.holds,
      and_true]
  rw [same]

end QueryMap

section

variable {request : AccessPolicyRequestDTO} {queryMap : QueryMap}

theorem convertible_accessFilter (sub : String) : Convertible (accessFilter sub) := by
  simp only [accessFilter, convertible_shouldQuery, List.forall_mem_cons, convertible_mustQuery]
  simp [policyQuery, ownerQuery, convertible_matchQuery]

theorem truthOf_accessFilter (sub : String) :
    truthOf truth (accessFilter sub) = true ↔
      truth (.match_ "accessPolicy" "OPEN" none none) = true ∨
      truth (.match_ "accessPolicy" "RESTRICTED" none none) = true ∨
      (truth (.match_ "accessPolicy" "PRIVATE" none none) = true ∧
        truth (.match_ "ownerUserId" sub none none) = true) := by
  have convertible := convertible_accessFilter sub
  have inner : Convertible (mustQuery [policyQuery "PRIVATE", ownerQuery sub]) :=
    convertible_shouldQuery.mp convertible _ (by simp)
  rw [accessFilter, truthOf_shouldQuery convertible (by simp) (.inr rfl)]
  simp only [List.exists_mem_cons_iff, truthOf_mustQuery inner]
  simp [policyQuery, ownerQuery]

theorem holds_accessPolicyClause :
    (accessPolicyClause request queryMap).Holds truth ↔ queryMap.Holds truth ∧ AccessHolds truth request := by
  simp only [accessPolicyClause, AccessHolds]
  cases request.caller with
  | none => simp only [QueryMap.holds_addMustNot, policyQuery, truthOf_matchQuery]
  | some sub =>
      by_cases mine : request.myAssetsReq = some true
      · simp only [mine, beq_self_eq_true, if_true, QueryMap.holds_addMust, ownerQuery, truthOf_matchQuery]
      · simp only [beq_iff_eq, mine, if_false, QueryMap.holds_addMust, truthOf_accessFilter]

theorem builds_accessPolicyClause : (accessPolicyClause request queryMap).Builds ↔ queryMap.Builds := by
  simp only [accessPolicyClause]
  cases request.caller with
  | none => simp [QueryMap.builds_addMustNot, policyQuery, convertible_matchQuery]
  | some sub =>
      by_cases mine : request.myAssetsReq = some true
      · simp [mine, QueryMap.builds_addMust, ownerQuery, convertible_matchQuery]
      · simp [mine, QueryMap.builds_addMust, convertible_accessFilter]

theorem should_accessPolicyClause : (accessPolicyClause request queryMap).should = queryMap.should := by
  simp only [accessPolicyClause]
  split
  · split <;> rfl
  · rfl

theorem accessPolicyClause_addFilter {model : QueryModel} :
    accessPolicyClause request (queryMap.addFilter model) = (accessPolicyClause request queryMap).addFilter model := by
  simp only [accessPolicyClause]
  split
  · split <;> rfl
  · rfl

theorem addAccessPolicy_eq_ok {access : Option AccessPolicyRequestDTO} {after : QueryMap} :
    addAccessPolicy access queryMap = .ok after ↔
      ∃ request, access = some request ∧ after = accessPolicyClause request queryMap := by
  simp only [addAccessPolicy, bind_eq_ok, nonNull_eq_ok, pure, Except.pure, Except.ok.injEq]
  refine ⟨?_, ?_⟩
  · intro shown
    obtain ⟨request, given, rfl⟩ := shown
    exact ⟨request, given, rfl⟩
  · intro shown
    obtain ⟨request, given, rfl⟩ := shown
    exact ⟨request, given, rfl⟩

end

section

variable {queryMap : QueryMap}

theorem convertible_exclusion (itemType : String) :
    Convertible (buildExclusionForUnpublishedOrUnuploadedItems itemType) := ⟨_, rfl⟩

theorem truthOf_exclusion (itemType : String) :
    truthOf truth (buildExclusionForUnpublishedOrUnuploadedItems itemType) = true ↔ Excluded truth itemType := by
  have converted : Converts (buildExclusionForUnpublishedOrUnuploadedItems itemType)
      (.bool [.leaf (.term "type.keyword" itemType),
        .bool [] [.leaf (.term "dataUploadStatus" "false"), .leaf (.term "publishStatus.keyword" "PENDING")]
          [] [] none] [] [] [] none) := rfl
  rw [truthOf_of_converts converted, BoolQuery.holds_must_iff, List.forall_mem_cons, List.forall_mem_singleton,
    BoolQuery.holds_should_iff truth (by simp) (.inl rfl)]
  simp [Excluded]

theorem holds_addExclusions :
    (addExclusions queryMap).Holds truth ↔
      queryMap.Holds truth ∧ ¬Excluded truth itemTypeDataBank ∧ ¬Excluded truth itemTypeAiModel := by
  simp only [addExclusions, QueryMap.holds_addMustNot, ← truthOf_exclusion, Bool.not_eq_true, and_assoc]

theorem builds_addExclusions : (addExclusions queryMap).Builds ↔ queryMap.Builds := by
  simp [addExclusions, QueryMap.builds_addMustNot, convertible_exclusion]

end

section

variable {unicode : Unicode} {criterion : SearchCriteriaDTO} {model : QueryModel} {queryMap after : QueryMap}

theorem termValueClause_eq_ok {field : Option String} {value : Json} :
    termValueClause unicode field value = .ok model ↔
      value ≠ .null ∧ ∃ name, field = some name ∧ model = termValueQuery unicode name (javaText value) := by
  simp only [termValueClause, bind_eq_ok, toText_eq_ok, nonNull_eq_ok, pure, Except.pure, Except.ok.injEq]
  refine ⟨?_, ?_⟩
  · intro shown
    obtain ⟨_, ⟨present, rfl⟩, name, given, rfl⟩ := shown
    exact ⟨present, name, given, rfl⟩
  · intro shown
    obtain ⟨present, name, given, rfl⟩ := shown
    exact ⟨_, ⟨present, rfl⟩, name, given, rfl⟩

theorem buildTermQuery_eq_ok {field : Option String} {values : List Json} :
    buildTermQuery unicode field values = .ok model ↔
      ∃ clauses, List.Forall₂ (fun value clause => termValueClause unicode field value = .ok clause) values clauses ∧
        model = shouldQuery clauses none := by
  simp only [buildTermQuery, bind_eq_ok, mapM_eq_ok_iff, pure, Except.pure, Except.ok.injEq]
  refine ⟨?_, ?_⟩
  · intro shown
    obtain ⟨clauses, built, rfl⟩ := shown
    exact ⟨clauses, built, rfl⟩
  · intro shown
    obtain ⟨clauses, built, rfl⟩ := shown
    exact ⟨clauses, built, rfl⟩

theorem convertible_buildTermQuery {field : Option String} {values : List Json}
    (built : buildTermQuery unicode field values = .ok model) : Convertible model := by
  obtain ⟨clauses, each, rfl⟩ := buildTermQuery_eq_ok.mp built
  refine convertible_shouldQuery.mpr (forall_of_forall₂ ?_ each)
  intro value _ clause made
  obtain ⟨_, name, _, rfl⟩ := termValueClause_eq_ok.mp made
  exact ⟨_, converts_termValueQuery unicode name _⟩

theorem truthOf_buildTermQuery {field : Option String} {values : List Json}
    (built : buildTermQuery unicode field values = .ok model) (nonempty : values ≠ []) :
    truthOf truth model = true ↔
      ∃ name, field = some name ∧ ∃ value ∈ values, truth (termLeaf unicode name (javaText value)) = true := by
  have convertible := convertible_buildTermQuery built
  obtain ⟨clauses, each, rfl⟩ := buildTermQuery_eq_ok.mp built
  have clause : clauses ≠ [] := by
    intro same
    subst same
    cases each
    exact nonempty rfl
  rw [truthOf_shouldQuery convertible clause (.inl rfl)]
  have agree : ∀ value clause, termValueClause unicode field value = .ok clause →
      ((∃ name, field = some name ∧ truth (termLeaf unicode name (javaText value)) = true) ↔
        truthOf truth clause = true) := by
    intro value clause made
    obtain ⟨_, name, given, rfl⟩ := termValueClause_eq_ok.mp made
    rw [truthOf_of_converts (converts_termValueQuery unicode name _), BoolQuery.holds_leaf, given]
    simp
  rw [← exists_iff_of_forall₂ agree each]
  refine ⟨?_, ?_⟩
  · intro shown
    obtain ⟨value, member, name, given, held⟩ := shown
    exact ⟨name, given, value, member, held⟩
  · intro shown
    obtain ⟨name, given, value, member, held⟩ := shown
    exact ⟨value, member, name, given, held⟩

def RangeTruth (truth : Leaf → Bool) (field : Option String) (leaf : String → Leaf) : Prop :=
  ∃ name, field = some name ∧ truth (leaf name) = true

theorem truthOf_between (field : Option String) (lower upper : String) :
    truthOf truth (buildRangeQuery field [("gte", lower), ("lte", upper)]) = true ↔
      RangeTruth truth field fun name => .dateRange name (some lower) (some upper) none none := by
  cases field with
  | none =>
      have fails : truthOf truth (buildRangeQuery none [("gte", lower), ("lte", upper)]) = false := rfl
      simp [RangeTruth, fails]
  | some name =>
      have converted : Converts (buildRangeQuery (some name) [("gte", lower), ("lte", upper)])
          (.leaf (.dateRange name (some lower) (some upper) none none)) := rfl
      simp [RangeTruth, truthOf_of_converts converted]

theorem truthOf_before (field : Option String) (bound : String) :
    truthOf truth (buildRangeQuery field [("lt", bound)]) = true ↔
      RangeTruth truth field fun name => .dateRange name none none none (some bound) := by
  cases field with
  | none =>
      have fails : truthOf truth (buildRangeQuery none [("lt", bound)]) = false := rfl
      simp [RangeTruth, fails]
  | some name =>
      have converted : Converts (buildRangeQuery (some name) [("lt", bound)])
          (.leaf (.dateRange name none none none (some bound))) := rfl
      simp [RangeTruth, truthOf_of_converts converted]

theorem truthOf_after (field : Option String) (bound : String) :
    truthOf truth (buildRangeQuery field [("gt", bound)]) = true ↔
      RangeTruth truth field fun name => .dateRange name none none (some bound) none := by
  cases field with
  | none =>
      have fails : truthOf truth (buildRangeQuery none [("gt", bound)]) = false := rfl
      simp [RangeTruth, fails]
  | some name =>
      have converted : Converts (buildRangeQuery (some name) [("gt", bound)])
          (.leaf (.dateRange name none none (some bound) none)) := rfl
      simp [RangeTruth, truthOf_of_converts converted]

theorem valueText_zero_eq_ok {values : List Json} {text : String} :
    valueText values 0 = .ok text ↔ ∃ bound rest, values = bound :: rest ∧ bound ≠ .null ∧ javaText bound = text := by
  cases values with
  | nil => simp [valueText]
  | cons bound rest => simp [valueText, toText_eq_ok]

inductive BuiltCriterion (unicode : Unicode) (criterion : SearchCriteriaDTO) : QueryModel → Prop
  | term {model : QueryModel} (type : criterion.type = "term")
      (built : buildTermQuery unicode criterion.field criterion.values = .ok model) :
      BuiltCriterion unicode criterion model
  | between {lower upper : Json} (notTerm : criterion.type ≠ "term") (type : isBetween criterion.type = true)
      (values : criterion.values = [lower, upper]) :
      BuiltCriterion unicode criterion
        (buildRangeQuery criterion.field [("gte", javaText lower), ("lte", javaText upper)])
  | before {bound : Json} {rest : List Json} (notTerm : criterion.type ≠ "term")
      (notBetween : isBetween criterion.type = false) (type : isBefore criterion.type = true)
      (values : criterion.values = bound :: rest) :
      BuiltCriterion unicode criterion (buildRangeQuery criterion.field [("lt", javaText bound)])
  | after {bound : Json} {rest : List Json} (notTerm : criterion.type ≠ "term")
      (notBetween : isBetween criterion.type = false) (notBefore : isBefore criterion.type = false)
      (type : isAfter criterion.type = true) (values : criterion.values = bound :: rest) :
      BuiltCriterion unicode criterion (buildRangeQuery criterion.field [("gt", javaText bound)])

theorem built_of_buildCriterion (built : buildCriterion unicode criterion = .ok model) :
    BuiltCriterion unicode criterion model := by
  simp only [buildCriterion] at built
  split at built
  · rename_i term
    exact .term term built
  · rename_i notTerm
    split at built
    · rename_i between
      split at built
      · contradiction
      · rename_i size
        simp only [bind_eq_ok, pure, Except.pure, Except.ok.injEq] at built
        obtain ⟨lower, first, upper, second, rfl⟩ := built
        obtain ⟨low, rest, values, -, rfl⟩ := valueText_zero_eq_ok.mp first
        have two : rest.length = 1 := by simpa [values] using size
        obtain ⟨high, rfl⟩ := List.length_eq_one_iff.mp two
        have printed : high ≠ .null ∧ javaText high = upper := by
          simpa [valueText, values, toText_eq_ok] using second
        rw [← printed.2]
        exact .between notTerm between values
    · rename_i notBetween
      split at built
      · rename_i before
        simp only [bind_eq_ok, pure, Except.pure, Except.ok.injEq] at built
        obtain ⟨text, first, rfl⟩ := built
        obtain ⟨bound, rest, values, -, rfl⟩ := valueText_zero_eq_ok.mp first
        exact .before notTerm (by simpa using notBetween) before values
      · rename_i notBefore
        split at built
        · rename_i isAfter
          simp only [bind_eq_ok, pure, Except.pure, Except.ok.injEq] at built
          obtain ⟨text, first, rfl⟩ := built
          obtain ⟨bound, rest, values, -, rfl⟩ := valueText_zero_eq_ok.mp first
          exact .after notTerm (by simpa using notBetween) (by simpa using notBefore) isAfter values
        · contradiction

theorem truthOf_buildCriterion (built : buildCriterion unicode criterion = .ok model)
    (nonempty : criterion.type = "term" → criterion.values ≠ []) :
    truthOf truth model = true ↔ CriterionHolds truth unicode criterion := by
  cases built_of_buildCriterion built with
  | term type built =>
      rw [truthOf_buildTermQuery built (nonempty type)]
      simp [CriterionHolds, type]
  | between notTerm type values =>
      simp [truthOf_between, RangeTruth, CriterionHolds, notTerm, type, values]
  | before notTerm notBetween type values =>
      simp [truthOf_before, RangeTruth, CriterionHolds, notTerm, notBetween, type, values]
  | after notTerm notBetween notBefore type values =>
      simp [truthOf_after, RangeTruth, CriterionHolds, notTerm, notBetween, notBefore, values]

theorem convertible_buildCriterion (built : buildCriterion unicode criterion = .ok model)
    (named : criterion.field ≠ none) : Convertible model := by
  obtain ⟨field, given⟩ := Option.ne_none_iff_exists'.mp named
  cases built_of_buildCriterion built with
  | term type built => exact convertible_buildTermQuery built
  | between notTerm type values =>
      rw [given]
      exact ⟨.leaf (.dateRange field (some _) (some _) none none), rfl⟩
  | before notTerm notBetween type values =>
      rw [given]
      exact ⟨.leaf (.dateRange field none none none (some _)), rfl⟩
  | after notTerm notBetween notBefore type values =>
      rw [given]
      exact ⟨.leaf (.dateRange field none none (some _) none), rfl⟩

/-- A criterion as docs/openapi.yaml describes it. -/
structure SearchCriteriaDTO.Documented (criterion : SearchCriteriaDTO) : Prop where
  named : criterion.field ≠ none
  present : ∀ value ∈ criterion.values, value ≠ .null
  counted : (criterion.type = "term" ∧ criterion.values ≠ []) ∨
    (isBetween criterion.type = true ∧ criterion.values.length = 2) ∨
    ((isBefore criterion.type = true ∨ isAfter criterion.type = true) ∧ criterion.values.length = 1)

/-- The decoder goes on after the criterion: it is supported and no value that
is read is null or missing, nor the field of a term. -/
def Decodes (criterion : SearchCriteriaDTO) : Prop :=
  if criterion.type = "term" then ∀ value ∈ criterion.values, value ≠ .null ∧ criterion.field ≠ none
  else if isBetween criterion.type then criterion.values.length = 2 ∧ ∀ value ∈ criterion.values, value ≠ .null
  else (isBefore criterion.type || isAfter criterion.type) = true ∧
    ∃ value, criterion.values.head? = some value ∧ value ≠ .null

theorem exists_toText_iff {value : Json} : (∃ text, toText value = .ok text) ↔ value ≠ .null := by
  cases value <;> simp [toText]

theorem exists_bind_ok_iff {α β : Type} {attempt : Except Throwable α} {result : α → β} :
    (∃ value, (do return result (← attempt) : Except Throwable β) = .ok value) ↔ ∃ value, attempt = .ok value := by
  cases attempt <;> simp [bind, Except.bind, pure, Except.pure]

theorem exists_termValueClause_iff {field : Option String} {value : Json} :
    (∃ clause, termValueClause unicode field value = .ok clause) ↔ value ≠ .null ∧ field ≠ none := by
  cases field with
  | none => simp [termValueClause_eq_ok]
  | some name => simp [termValueClause_eq_ok]

theorem exists_valueText_zero_iff {values : List Json} :
    (∃ text, valueText values 0 = .ok text) ↔ ∃ value, values.head? = some value ∧ value ≠ .null := by
  cases values with
  | nil => simp [valueText]
  | cons value rest => simpa [valueText] using exists_toText_iff

theorem exists_buildCriterion_iff :
    (∃ model, buildCriterion unicode criterion = .ok model) ↔ Decodes criterion := by
  simp only [buildCriterion, Decodes]
  split
  · simp only [buildTermQuery, exists_bind_ok_iff, exists_mapM_eq_ok_iff, exists_termValueClause_iff]
  · split
    · rename_i between
      by_cases two : criterion.values.length = 2
      · obtain ⟨low, high, values⟩ := List.length_eq_two.mp two
        cases low <;> cases high <;>
          simp [values, valueText, toText, bind, Except.bind, pure, Except.pure]
      · simp [two]
    · cases isBefore criterion.type with
      | true => simpa using exists_bind_ok_iff.trans exists_valueText_zero_iff
      | false =>
          cases isAfter criterion.type with
          | true => simpa using exists_bind_ok_iff.trans exists_valueText_zero_iff
          | false => simp

theorem SearchCriteriaDTO.Documented.decodes (documented : criterion.Documented) : Decodes criterion := by
  obtain ⟨named, present, counted⟩ := documented
  rcases counted with ⟨term, -⟩ | ⟨between, two⟩ | ⟨oneSided, one⟩
  · rw [Decodes, if_pos term]
    exact fun value member => ⟨present value member, named⟩
  · have notTerm : criterion.type ≠ "term" := by
      intro term
      simp [isBetween, term] at between
    rw [Decodes, if_neg notTerm, if_pos between]
    exact ⟨two, present⟩
  · obtain ⟨bound, values⟩ := List.length_eq_one_iff.mp one
    have notTerm : criterion.type ≠ "term" := by
      intro term
      simp [isBefore, isAfter, term] at oneSided
    have notBetween : ¬isBetween criterion.type = true := by
      simp only [isBefore, isAfter, isBetween] at oneSided ⊢
      grind
    rw [Decodes, if_neg notTerm, if_neg notBetween, Bool.or_eq_true]
    exact ⟨oneSided, bound, by rw [values]; rfl, present bound (by simp [values])⟩

/-- The decoder understands every documented criterion. -/
theorem exists_buildCriterion (documented : criterion.Documented) :
    ∃ model, buildCriterion unicode criterion = .ok model := exists_buildCriterion_iff.mpr documented.decodes

def criteriaIn (request : Option SearchCriteriaRequestDTO) : List SearchCriteriaDTO :=
  (request.bind SearchCriteriaRequestDTO.searchCriteria).getD []

theorem addSearchCriteria_cases {request : Option SearchCriteriaRequestDTO}
    (added : addSearchCriteria unicode request queryMap = .ok after) :
    (criteriaIn request = [] ∧ after = queryMap) ∨
      ∃ clauses, List.Forall₂ (fun criterion clause => buildCriterion unicode criterion = .ok clause)
        (criteriaIn request) clauses ∧ after = queryMap.addFilter (mustQuery clauses) := by
  simp only [addSearchCriteria, bind_eq_ok, nonNull_eq_ok] at added
  obtain ⟨present, rfl, added⟩ := added
  split at added
  · rename_i absent
    cases added
    exact .inl ⟨by simp [criteriaIn, absent], rfl⟩
  · rename_i criteria given
    split at added
    · contradiction
    · simp only [bind_eq_ok, mapM_eq_ok_iff, pure, Except.pure, Except.ok.injEq] at added
      obtain ⟨clauses, built, rfl⟩ := added
      exact .inr ⟨clauses, by simpa [criteriaIn, given] using built, rfl⟩

/-- The criteria and the access policy may be added in either order. -/
theorem addSearchCriteria_accessPolicyClause (request : Option SearchCriteriaRequestDTO)
    (access : AccessPolicyRequestDTO) :
    addSearchCriteria unicode request (accessPolicyClause access queryMap) =
      accessPolicyClause access <$> addSearchCriteria unicode request queryMap := by
  cases request with
  | none => rfl
  | some given =>
      cases criteria : given.searchCriteria with
      | none => simp [addSearchCriteria, nonNull, bind, Except.bind, criteria, pure, Except.pure]
      | some criteria_ =>
          simp only [addSearchCriteria, nonNull, bind, Except.bind, criteria]
          split
          · rfl
          · cases criteria_.mapM (buildCriterion unicode) with
            | error cause => rfl
            | ok clauses => simp [pure, Except.pure, accessPolicyClause_addFilter]

theorem exists_addSearchCriteria {criteria : List SearchCriteriaDTO} (nonempty : criteria ≠ [])
    (documented : ∀ criterion ∈ criteria, criterion.Documented) :
    ∃ after, addSearchCriteria unicode (some ⟨some criteria⟩) queryMap = .ok after := by
  have each : ∀ criterion ∈ criteria, ∃ model, buildCriterion unicode criterion = .ok model := by
    intro criterion member
    exact exists_buildCriterion (documented criterion member)
  obtain ⟨clauses, made⟩ := exists_mapM_eq_ok each
  refine ⟨queryMap.addFilter (mustQuery clauses), ?_⟩
  simp [addSearchCriteria, nonNull, nonempty, made, bind, Except.bind, pure, Except.pure]

theorem should_addSearchCriteria {request : Option SearchCriteriaRequestDTO}
    (added : addSearchCriteria unicode request queryMap = .ok after) : after.should = queryMap.should := by
  rcases addSearchCriteria_cases added with ⟨-, rfl⟩ | ⟨clauses, -, rfl⟩ <;> rfl

theorem holds_of_addSearchCriteria {request : Option SearchCriteriaRequestDTO}
    (added : addSearchCriteria unicode request queryMap = .ok after) (holds : after.Holds truth) :
    queryMap.Holds truth := by
  rcases addSearchCriteria_cases added with ⟨-, rfl⟩ | ⟨clauses, -, rfl⟩
  · exact holds
  · exact (QueryMap.holds_addFilter.mp holds).1

theorem holds_addSearchCriteria {request : Option SearchCriteriaRequestDTO}
    (added : addSearchCriteria unicode request queryMap = .ok after) (builds : after.Builds)
    (nonempty : ∀ criterion ∈ criteriaIn request, criterion.type = "term" → criterion.values ≠ []) :
    after.Holds truth ↔
      queryMap.Holds truth ∧ ∀ criterion ∈ criteriaIn request, CriterionHolds truth unicode criterion := by
  rcases addSearchCriteria_cases added with ⟨none, rfl⟩ | ⟨clauses, built, rfl⟩
  · simp [none]
  · have convertible := (QueryMap.builds_addFilter.mp builds).2
    rw [QueryMap.holds_addFilter, truthOf_mustQuery convertible]
    have agree : (∀ criterion ∈ criteriaIn request, CriterionHolds truth unicode criterion) ↔
        ∀ clause ∈ clauses, truthOf truth clause = true :=
      forall_iff_of_forall₂ (fun criterion member clause made =>
        (truthOf_buildCriterion made (nonempty criterion member)).symm) built
    rw [agree]

theorem builds_addSearchCriteria {request : Option SearchCriteriaRequestDTO}
    (added : addSearchCriteria unicode request queryMap = .ok after) (builds : queryMap.Builds)
    (named : ∀ criterion ∈ criteriaIn request, criterion.field ≠ none) : after.Builds := by
  rcases addSearchCriteria_cases added with ⟨-, rfl⟩ | ⟨clauses, built, rfl⟩
  · exact builds
  · have agree : (∀ criterion ∈ criteriaIn request, criterion.field ≠ none) ↔
        ∀ clause ∈ clauses, Convertible clause :=
      forall_iff_of_forall₂ (fun criterion member clause made =>
        ⟨fun _ => convertible_buildCriterion made (named criterion member), fun _ => named criterion member⟩) built
    exact QueryMap.builds_addFilter.mpr ⟨builds, convertible_mustQuery.mpr (agree.mp named)⟩

end

section

variable {queryMap after : QueryMap} {request : Option TextSearchRequestDTO}

theorem forall₂_textClauses (text : TextSearchRequestDTO) (q : String) :
    List.Forall₂ (fun leaf clause => Converts clause (.leaf leaf)) (textLeaves text q) (textClauses text q) := by
  by_cases fuzzy : text.fuzzy = some true
  · simp only [textLeaves, textClauses, fuzzy]
    exact .cons rfl (.cons rfl .nil)
  · have flag : (text.fuzzy == some true) = false := by simpa using fuzzy
    simp only [textLeaves, textClauses, fuzzy, flag]
    exact .cons rfl .nil

theorem textLeaves_ne_nil (text : TextSearchRequestDTO) (q : String) : textLeaves text q ≠ [] := by
  simp only [textLeaves]
  split <;> simp

theorem convertible_textClauses (text : TextSearchRequestDTO) (q : String) :
    Convertible (shouldQuery (textClauses text q) (some 1)) := by
  apply convertible_shouldQuery.mpr
  exact forall_of_forall₂ (fun _ _ _ made => ⟨_, made⟩) (forall₂_textClauses text q)

theorem truthOf_textClauses (text : TextSearchRequestDTO) (q : String) :
    truthOf truth (shouldQuery (textClauses text q) (some 1)) = true ↔
      ∃ leaf ∈ textLeaves text q, truth leaf = true := by
  have clauses := forall₂_textClauses text q
  have nonempty : textClauses text q ≠ [] := by
    intro empty
    rw [empty] at clauses
    exact textLeaves_ne_nil text q (List.forall₂_nil_right_iff.mp clauses)
  rw [truthOf_shouldQuery (convertible_textClauses text q) nonempty (.inr rfl)]
  refine (exists_iff_of_forall₂ (fun leaf clause made => ?_) clauses).symm
  rw [truthOf_of_converts made, BoolQuery.holds_leaf]

theorem addTextSearch_eq_ok (added : addTextSearch request queryMap = .ok after) :
    ∃ text q, request = some text ∧ text.q = some q ∧
      after = queryMap.addMust (shouldQuery (textClauses text q) (some 1)) := by
  simp only [addTextSearch, bind_eq_ok, nonNull_eq_ok] at added
  obtain ⟨text, rfl, added⟩ := added
  split at added
  · contradiction
  · rename_i q given
    split at added
    · contradiction
    · cases added
      exact ⟨text, q, rfl, given, rfl⟩

theorem adds_addTextSearch (added : addTextSearch request queryMap = .ok after) :
    queryMap.Adds after fun truth => ∀ text, request = some text → TextHolds truth text := by
  obtain ⟨text, q, rfl, given, rfl⟩ := addTextSearch_eq_ok added
  refine ⟨?_, ?_, ?_⟩
  · intro truth
    rw [QueryMap.holds_addMust, truthOf_textClauses]
    simp [TextHolds, given]
  · simp [QueryMap.builds_addMust, convertible_textClauses]
  · rfl

end

section

variable {queryMap after : QueryMap}

def InstanceHolds (truth : Leaf → Bool) (request : Option InstanceFilterRequestDTO) : Prop :=
  ∀ instanceId, (request.bind fun given => given.instance_.filter fun id => !id.isEmpty) = some instanceId →
    truth (.term "instance.keyword" instanceId) = true

theorem adds_addInstanceFilter {request : Option InstanceFilterRequestDTO}
    (added : addInstanceFilter request queryMap = .ok after) :
    queryMap.Adds after fun truth => InstanceHolds truth request := by
  simp only [addInstanceFilter, bind_eq_ok, nonNull_eq_ok] at added
  obtain ⟨given, rfl, added⟩ := added
  split at added
  · rename_i instanceId named
    cases added
    refine ⟨?_, ?_, ?_⟩
    · simp [QueryMap.holds_addFilter, InstanceHolds, named]
    · simp [QueryMap.builds_addFilter, convertible_termQuery]
    · rfl
  · rename_i absent
    cases added
    exact ⟨by simp [InstanceHolds, absent], Iff.rfl, rfl⟩

/-- The marker of the response filter matches every document. -/
theorem adds_addResponseFilter {request : Option ResponseFilterRequestDTO}
    (added : addResponseFilter request queryMap = .ok after) : queryMap.Adds after fun _ => True := by
  simp only [addResponseFilter, bind_eq_ok, nonNull_eq_ok] at added
  obtain ⟨given, rfl, added⟩ := added
  split at added
  · cases added
    exact QueryMap.adds_nothing
  · split at added
    · contradiction
    · split at added
      · contradiction
      · rename_i sourceFilter _
        cases added
        have converted : Converts { queryType := some .bool, includeFields := some sourceFilter }
            (.bool [] [] [] [] none) := rfl
        refine ⟨?_, ?_, ?_⟩
        · simp [QueryMap.holds_addFilter, truthOf_of_converts converted, BoolQuery.holds_bool_empty]
        · rw [QueryMap.builds_addFilter]
          exact and_iff_left ⟨_, converted⟩
        · rfl

end

section

variable {unicode : Unicode} {request : QueryDecoderRequestDTO} {queryMap : QueryMap} {model : QueryModel}

/-- The criteria that count: those of a request whose search type names them. -/
def criteriaOf (request : QueryDecoderRequestDTO) : List SearchCriteriaDTO :=
  if asksFor request "searchCriteria" then criteriaIn request.searchCriteriaRequest else []

def textOf (request : QueryDecoderRequestDTO) : Option TextSearchRequestDTO :=
  if asksFor request "textSearch" then request.textSearchRequest else none

/-- A term criterion offers at least one value; the decoder itself checks the
number of values of the other kinds. -/
def SearchCriteriaDTO.HasValues (criterion : SearchCriteriaDTO) : Prop :=
  criterion.type = "term" → criterion.values ≠ []

/-- What every query requires, whatever else a request asks for. -/
structure Visible (truth : Leaf → Bool) (access : AccessPolicyRequestDTO) : Prop where
  admitted : AccessHolds truth access
  dataBank : ¬Excluded truth itemTypeDataBank
  aiModel : ¬Excluded truth itemTypeAiModel

theorem adds_visible {access : AccessPolicyRequestDTO} :
    queryMap.Adds (addExclusions (accessPolicyClause access queryMap)) fun truth => Visible truth access := by
  refine ⟨?_, ?_, ?_⟩
  · intro truth
    rw [holds_addExclusions, holds_accessPolicyClause]
    refine ⟨?_, ?_⟩
    · intro shown
      obtain ⟨⟨holds, admitted⟩, dataBank, aiModel⟩ := shown
      exact ⟨holds, admitted, dataBank, aiModel⟩
    · intro shown
      obtain ⟨holds, admitted, dataBank, aiModel⟩ := shown
      exact ⟨⟨holds, admitted⟩, dataBank, aiModel⟩
  · exact builds_addExclusions.trans builds_accessPolicyClause
  · exact should_accessPolicyClause

/-- The clause maps that a request is decoded through. -/
structure Stages (unicode : Unicode) (request : QueryDecoderRequestDTO) (queryMap : QueryMap) where
  criteria : QueryMap
  text : QueryMap
  access : AccessPolicyRequestDTO
  addsCriteria :
    addIf (asksFor request "searchCriteria") (addSearchCriteria unicode request.searchCriteriaRequest) {} =
      .ok criteria
  addsText : addIf (asksFor request "textSearch") (addTextSearch request.textSearchRequest) criteria = .ok text
  givesAccess : request.accessPolicyRequest = some access
  addsFilter :
    addIf (asksFor request "responseFilter") (addResponseFilter request.responseFilterRequest)
      (addExclusions (accessPolicyClause access text)) = .ok queryMap

theorem stages_of_getQueryMap (decoded : getQueryMap unicode request = .ok queryMap) :
    Nonempty (Stages unicode request queryMap) := by
  simp only [getQueryMap, bind_eq_ok, addAccessPolicy_eq_ok] at decoded
  obtain ⟨criteria, addsCriteria, text, addsText, _, ⟨access, givesAccess, rfl⟩, addsFilter⟩ := decoded
  exact ⟨⟨criteria, text, access, addsCriteria, addsText, givesAccess, addsFilter⟩⟩

theorem addIf_cases {asked : Bool} {add : QueryMap → Except Throwable QueryMap} {before after : QueryMap}
    (added : addIf asked add before = .ok after) :
    (asked = true ∧ add before = .ok after) ∨ (asked = false ∧ after = before) := by
  cases asked with
  | true => exact .inl ⟨rfl, added⟩
  | false => exact .inr ⟨rfl, (Except.ok.inj added).symm⟩

theorem adds_addIf {asked : Bool} {before after : QueryMap}
    (added : addIf asked (addResponseFilter request.responseFilterRequest) before = .ok after) :
    before.Adds after fun _ => True := by
  rcases addIf_cases added with ⟨-, added⟩ | ⟨-, rfl⟩
  · exact adds_addResponseFilter added
  · exact QueryMap.adds_nothing

namespace Stages

variable (stages : Stages unicode request queryMap)

theorem filter_adds : stages.text.Adds queryMap fun truth => Visible truth stages.access := by
  simpa using adds_visible.trans (adds_addIf stages.addsFilter)

theorem text_adds :
    stages.criteria.Adds stages.text fun truth =>
      ∀ text, textOf request = some text → TextHolds truth text := by
  rcases addIf_cases stages.addsText with ⟨asked, added⟩ | ⟨unasked, same⟩
  · simpa only [textOf, asked, if_true] using adds_addTextSearch added
  · rw [same]
    simpa [textOf, unasked] using QueryMap.adds_nothing

theorem rest_adds :
    stages.criteria.Adds queryMap fun truth =>
      (∀ text, textOf request = some text → TextHolds truth text) ∧ Visible truth stages.access :=
  stages.text_adds.trans stages.filter_adds

theorem criteria_holds (builds : stages.criteria.Builds)
    (values : ∀ criterion ∈ criteriaOf request, criterion.HasValues) :
    stages.criteria.Holds truth ↔ ∀ criterion ∈ criteriaOf request, CriterionHolds truth unicode criterion := by
  rcases addIf_cases stages.addsCriteria with ⟨asked, added⟩ | ⟨unasked, same⟩
  · simp only [criteriaOf, asked, if_true] at values ⊢
    rw [holds_addSearchCriteria added builds values]
    simp [QueryMap.holds_empty]
  · simp [criteriaOf, unasked, same, QueryMap.holds_empty]

theorem criteria_builds (named : ∀ criterion ∈ criteriaOf request, criterion.field ≠ none) :
    stages.criteria.Builds := by
  rcases addIf_cases stages.addsCriteria with ⟨asked, added⟩ | ⟨-, same⟩
  · simp only [criteriaOf, asked, if_true] at named
    exact builds_addSearchCriteria added QueryMap.builds_empty named
  · rw [same]
    exact QueryMap.builds_empty

theorem criteria_should : stages.criteria.should = [] := by
  rcases addIf_cases stages.addsCriteria with ⟨-, added⟩ | ⟨-, same⟩
  · rw [should_addSearchCriteria added]
  · rw [same]

end Stages

/-- The condition that a decoded request puts on a document. -/
structure RequestHolds (truth : Leaf → Bool) (unicode : Unicode) (request : QueryDecoderRequestDTO) : Prop where
  visible : ∀ access, request.accessPolicyRequest = some access → Visible truth access
  criteria : ∀ criterion ∈ criteriaOf request, CriterionHolds truth unicode criterion
  text : ∀ text, textOf request = some text → TextHolds truth text

theorem builds_getQueryMap (decoded : getQueryMap unicode request = .ok queryMap)
    (named : ∀ criterion ∈ criteriaOf request, criterion.field ≠ none) : queryMap.Builds := by
  obtain ⟨stages⟩ := stages_of_getQueryMap decoded
  exact stages.rest_adds.builds.mpr (stages.criteria_builds named)

theorem holds_getQueryMap (decoded : getQueryMap unicode request = .ok queryMap) (builds : queryMap.Builds)
    (values : ∀ criterion ∈ criteriaOf request, criterion.HasValues) :
    queryMap.Holds truth ↔ RequestHolds truth unicode request := by
  obtain ⟨stages⟩ := stages_of_getQueryMap decoded
  rw [stages.rest_adds.holds, stages.criteria_holds (stages.rest_adds.builds.mp builds) values]
  refine ⟨?_, ?_⟩
  · intro shown
    obtain ⟨criteria, text, visible⟩ := shown
    refine ⟨?_, criteria, text⟩
    intro access given
    rwa [← Option.some.inj (stages.givesAccess.symm.trans given)]
  · intro shown
    obtain ⟨visible, criteria, text⟩ := shown
    exact ⟨criteria, text, visible _ stages.givesAccess⟩

theorem visible_of_getQueryMap (decoded : getQueryMap unicode request = .ok queryMap)
    (holds : queryMap.Holds truth) :
    ∃ access, request.accessPolicyRequest = some access ∧ Visible truth access := by
  obtain ⟨stages⟩ := stages_of_getQueryMap decoded
  exact ⟨stages.access, stages.givesAccess, ((stages.rest_adds.holds truth).mp holds).2.2⟩

theorem getQueryModel_cases (accepted : getQueryModel unicode request = .ok model)
    (ordinary : isParentObjectInfo unicode request = false) :
    ∃ queryMap, getQueryMap unicode request = .ok queryMap ∧ isValidQuery request = true ∧
      model.queries = some queryMap.getBoolQuery := by
  simp only [getQueryModel, ordinary, if_false, Bool.false_eq_true, bind_eq_ok] at accepted
  obtain ⟨queryMap, decoded, accepted⟩ := accepted
  split at accepted
  · contradiction
  · rename_i valid
    refine ⟨queryMap, decoded, by simpa using valid, ?_⟩
    split at accepted <;> cases accepted <;> rfl

theorem noShould_of_getQueryMap (decoded : getQueryMap unicode request = .ok queryMap) : queryMap.should = [] := by
  obtain ⟨stages⟩ := stages_of_getQueryMap decoded
  rw [stages.rest_adds.should, stages.criteria_should]

/-- Whatever the criteria are, a decoded query only matches visible documents. -/
theorem visible_of_getQueryModel (accepted : getQueryModel unicode request = .ok model)
    (ordinary : isParentObjectInfo unicode request = false) {queries : QueryModel}
    (given : model.queries = some queries) (matched : truthOf truth queries = true) :
    ∃ access, request.accessPolicyRequest = some access ∧ Visible truth access := by
  obtain ⟨queryMap, decoded, -, same⟩ := getQueryModel_cases accepted ordinary
  obtain rfl := Option.some.inj (given.symm.trans same)
  have builds : queryMap.Builds :=
    (QueryMap.convertible_getBoolQuery (noShould_of_getQueryMap decoded)).mp (convertible_of_truthOf matched)
  exact visible_of_getQueryMap decoded ((QueryMap.truthOf_getBoolQuery builds).mp matched)

theorem visible_of_listMultipleItemTypesQuery (accepted : listMultipleItemTypesQuery unicode request = .ok model)
    {queries : QueryModel} (given : model.queries = some queries) (matched : truthOf truth queries = true) :
    ∃ access, request.accessPolicyRequest = some access ∧ Visible truth access := by
  simp only [listMultipleItemTypesQuery, bind_eq_ok, addAccessPolicy_eq_ok, pure, Except.pure,
    Except.ok.injEq] at accepted
  obtain ⟨_, ⟨access, named, rfl⟩, criteria, addsCriteria, queryMap, addsInstance, rfl⟩ := accepted
  obtain rfl := Option.some.inj given
  have instanceAdds := adds_addInstanceFilter addsInstance
  have noShould : (addExclusions queryMap).should = [] :=
    calc (addExclusions queryMap).should
        = queryMap.should := rfl
      _ = criteria.should := instanceAdds.should
      _ = (accessPolicyClause access {}).should := should_addSearchCriteria addsCriteria
      _ = [] := should_accessPolicyClause
  have builds : (addExclusions queryMap).Builds :=
    (QueryMap.convertible_getBoolQuery noShould).mp (convertible_of_truthOf matched)
  obtain ⟨holds, dataBank, aiModel⟩ := holds_addExclusions.mp ((QueryMap.truthOf_getBoolQuery builds).mp matched)
  have criteriaHolds := ((instanceAdds.holds truth).mp holds).1
  have admitted := holds_accessPolicyClause.mp (holds_of_addSearchCriteria addsCriteria criteriaHolds)
  exact ⟨access, named, admitted.2, dataBank, aiModel⟩

end

end Tgdex.Query
