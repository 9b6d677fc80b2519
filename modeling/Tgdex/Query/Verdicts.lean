import Mathlib.Order.BoundedOrder.Lattice
import Tgdex.Query.Meaning

namespace Tgdex.Query

open Tgdex.Data Tgdex.Java Tgdex.Elastic

/-! # Verdicts

What a search says of a document: it matches, it does not, or there is no query
to ask.  The meet of two verdicts is that of asking for both at once. -/

inductive Verdict where
  | refused
  | misses
  | found
deriving Repr, DecidableEq

namespace Verdict

def ofBool : Bool → Verdict
  | true => .found
  | false => .misses

def meet : Verdict → Verdict → Verdict
  | .refused, _ => .refused
  | .misses, .refused => .refused
  | .misses, _ => .misses
  | .found, other => other

instance : SemilatticeInf Verdict :=
  @SemilatticeInf.mk' Verdict ⟨meet⟩ (fun first second => by cases first <;> cases second <;> rfl)
    (fun first second third => by cases first <;> cases second <;> cases third <;> rfl) fun verdict => by
      cases verdict <;> rfl

instance : OrderTop Verdict where
  top := .found
  le_top verdict := by cases verdict <;> rfl

instance : OrderBot Verdict where
  bot := .refused
  bot_le verdict := by cases verdict <;> rfl

variable {α : Type} {first second verdict : Verdict}

/-- Verdicts agree when they are refused together and match together. -/
theorem ext (refused : first = ⊥ ↔ second = ⊥) (matched : first = ⊤ ↔ second = ⊤) : first = second := by
  cases first with
  | refused => exact (refused.mp rfl).symm
  | found => exact (matched.mp rfl).symm
  | misses =>
      cases second with
      | refused => exact refused.mpr rfl
      | misses => rfl
      | found => exact matched.mpr rfl

theorem inf_eq_bot : first ⊓ second = ⊥ ↔ first = ⊥ ∨ second = ⊥ := by
  cases first <;> cases second <;> decide

def not : Verdict → Verdict
  | .refused => .refused
  | .misses => .found
  | .found => .misses

theorem not_eq_bot : verdict.not = ⊥ ↔ verdict = ⊥ := by
  cases verdict <;> decide

theorem not_eq_top : verdict.not = ⊤ ↔ verdict ≠ ⊥ ∧ verdict ≠ ⊤ := by
  cases verdict <;> decide

theorem ofBool_ne_bot (value : Bool) : ofBool value ≠ ⊥ := by
  cases value <;> decide

theorem ofBool_eq_top {value : Bool} : ofBool value = ⊤ ↔ value = true := by
  cases value <;> decide

def all (verdicts : List Verdict) : Verdict := verdicts.foldr (· ⊓ ·) ⊤

theorem all_cons (verdict : Verdict) (rest : List Verdict) : all (verdict :: rest) = verdict ⊓ all rest := rfl

theorem all_append (verdicts rest : List Verdict) : all (verdicts ++ rest) = all verdicts ⊓ all rest := by
  induction verdicts with
  | nil => exact (top_inf_eq (all rest)).symm
  | cons verdict others ih => rw [List.cons_append, all_cons, ih, all_cons, inf_assoc]

theorem all_singleton (verdict : Verdict) : all [verdict] = verdict := inf_top_eq verdict

theorem all_eq_bot {verdicts : List Verdict} : all verdicts = ⊥ ↔ ⊥ ∈ verdicts := by
  induction verdicts with
  | nil => decide
  | cons verdict rest ih => rw [all_cons, inf_eq_bot, ih, List.mem_cons, eq_comm]

theorem all_eq_top {verdicts : List Verdict} : all verdicts = ⊤ ↔ ∀ verdict ∈ verdicts, verdict = ⊤ := by
  induction verdicts with
  | nil => simp [all]
  | cons verdict rest ih => rw [all_cons, inf_eq_top_iff, ih, List.forall_mem_cons]

/-- A condition that is asked for with every item is asked for once. -/
theorem all_map_inf {items : List α} (nonempty : items ≠ []) (verdict : α → Verdict) (rest : Verdict) :
    all (items.map fun item => verdict item ⊓ rest) = all (items.map verdict) ⊓ rest := by
  induction items with
  | nil => contradiction
  | cons item others ih =>
      cases others with
      | nil => simp [all]
      | cons next more =>
          have tail := ih (List.cons_ne_nil next more)
          rw [List.map_cons, all_cons, tail]
          exact (inf_inf_distrib_right (verdict item) (all ((next :: more).map verdict)) rest).symm

/-- The verdict of what an attempt makes. -/
def of {β : Type} (attempt : Except Throwable β) (verdict : β → Verdict) : Verdict :=
  match attempt with
  | .ok value => verdict value
  | .error _ => ⊥

theorem of_congr {β : Type} {attempt : Except Throwable β} {verdict other : β → Verdict}
    (same : ∀ value, attempt = .ok value → verdict value = other value) : of attempt verdict = of attempt other := by
  cases attempt with
  | error cause => rfl
  | ok value => exact same value rfl

theorem of_inf {β : Type} (attempt : Except Throwable β) (verdict : β → Verdict) (rest : Verdict) :
    (of attempt fun value => verdict value ⊓ rest) = of attempt verdict ⊓ rest := by
  cases attempt with
  | error cause => exact (bot_inf_eq rest).symm
  | ok value => rfl

theorem of_bind {β : Type} (attempt : Except Throwable α) (next : α → Except Throwable β) (verdict : β → Verdict) :
    of (attempt >>= next) verdict = of attempt fun value => of (next value) verdict := by
  cases attempt <;> rfl

theorem of_mapM {β : Type} (step : α → Except Throwable β) (verdict : β → Verdict) (items : List α) :
    of (items.mapM step) (fun values => all (values.map verdict)) =
      all (items.map fun item => of (step item) verdict) := by
  induction items with
  | nil => rfl
  | cons item rest ih =>
      rw [List.map_cons, all_cons, ← ih, List.mapM_cons]
      cases step item with
      | error cause => exact (bot_inf_eq _).symm
      | ok value =>
          cases rest.mapM step with
          | error cause => exact (inf_bot_eq _).symm
          | ok values => rfl

end Verdict

variable {truth : Leaf → Bool} {unicode : Unicode}

def verdictOf (truth : Leaf → Bool) (model : QueryModel) : Verdict :=
  match model.toElasticsearchQuery with
  | .ok query => .ofBool (query.holds truth)
  | .error _ => ⊥

theorem verdictOf_eq_bot {model : QueryModel} : verdictOf truth model = ⊥ ↔ ¬Convertible model := by
  simp only [verdictOf, Convertible, Converts]
  cases model.toElasticsearchQuery with
  | error cause => simp
  | ok query => simp [Verdict.ofBool_ne_bot]

theorem verdictOf_eq_top {model : QueryModel} : verdictOf truth model = ⊤ ↔ truthOf truth model = true := by
  simp only [verdictOf, truthOf]
  cases model.toElasticsearchQuery with
  | error cause => exact ⟨(nomatch ·), (nomatch ·)⟩
  | ok query => exact Verdict.ofBool_eq_top

/-- The verdict of a bool query without should clauses is the meet of those of
its clauses. -/
theorem verdictOf_conjunction {model : QueryModel} (bool : model.queryType = some .bool)
    (noShould : model.shouldQueries = []) (noMinimum : model.minimumShouldMatch = none) :
    verdictOf truth model = Verdict.all (model.mustQueries.map (verdictOf truth)) ⊓
      (Verdict.all (model.filterQueries.map (verdictOf truth)) ⊓
        Verdict.all (model.mustNotQueries.map fun clause => (verdictOf truth clause).not)) := by
  apply Verdict.ext
  · simp only [Verdict.inf_eq_bot, Verdict.all_eq_bot, List.mem_map, Verdict.not_eq_bot, verdictOf_eq_bot,
      convertible_bool bool, noShould]
    grind
  · simp only [inf_eq_top_iff, Verdict.all_eq_top, List.forall_mem_map, Verdict.not_eq_top, verdictOf_eq_top, ne_eq,
      verdictOf_eq_bot, not_not, Bool.not_eq_true]
    constructor
    · intro held
      have convertible := convertible_of_truthOf held
      obtain ⟨must, filter, mustNot⟩ := (truthOf_conjunction bool noShould noMinimum convertible).mp held
      exact ⟨must, filter, fun clause member =>
        ⟨((convertible_bool bool).mp convertible).2.2.1 clause member, mustNot clause member⟩⟩
    · rintro ⟨must, filter, mustNot⟩
      have convertible : Convertible model := (convertible_bool bool).mpr
        ⟨fun clause member => convertible_of_truthOf (must clause member), by simp [noShould],
          fun clause member => (mustNot clause member).1,
          fun clause member => convertible_of_truthOf (filter clause member)⟩
      exact (truthOf_conjunction bool noShould noMinimum convertible).mpr
        ⟨must, filter, fun clause member => (mustNot clause member).2⟩

theorem verdictOf_mustQuery (models : List QueryModel) :
    verdictOf truth (mustQuery models) = Verdict.all (models.map (verdictOf truth)) := by
  rw [verdictOf_conjunction rfl rfl rfl]
  simp [mustQuery, Verdict.all]

namespace QueryMap

variable {queryMap : QueryMap} {model : QueryModel}

def verdict (truth : Leaf → Bool) (queryMap : QueryMap) : Verdict := verdictOf truth queryMap.getBoolQuery

theorem verdict_eq (noShould : queryMap.should = []) :
    queryMap.verdict truth = Verdict.all (queryMap.must.map (verdictOf truth)) ⊓
      (Verdict.all (queryMap.filter.map (verdictOf truth)) ⊓
        Verdict.all (queryMap.mustNot.map fun clause => (verdictOf truth clause).not)) :=
  verdictOf_conjunction rfl noShould rfl

theorem verdict_empty : verdict truth {} = ⊤ := rfl

/-- The clauses of two maps, one after the other. -/
def append (first second : QueryMap) : QueryMap :=
  ⟨first.filter ++ second.filter, first.must ++ second.must, first.mustNot ++ second.mustNot,
    first.should ++ second.should⟩

theorem verdict_append {other : QueryMap} (noShould : queryMap.should = []) (noShould_ : other.should = []) :
    (queryMap.append other).verdict truth = queryMap.verdict truth ⊓ other.verdict truth := by
  have appended : (queryMap.append other).should = [] := by rw [append, noShould, noShould_, List.append_nil]
  rw [verdict_eq noShould, verdict_eq noShould_, verdict_eq appended]
  simp only [append, List.map_append, Verdict.all_append]
  ac_rfl

theorem verdict_addFilter (noShould : queryMap.should = []) :
    (queryMap.addFilter model).verdict truth = queryMap.verdict truth ⊓ verdictOf truth model := by
  have appended : queryMap.addFilter model = queryMap.append { filter := [model] } := by simp [addFilter, append]
  have alone : verdict truth { filter := [model] } = verdictOf truth model := by
    rw [verdict_eq rfl]
    simp [Verdict.all]
  rw [appended, verdict_append noShould rfl, alone]

theorem verdict_addMust (noShould : queryMap.should = []) :
    (queryMap.addMust model).verdict truth = queryMap.verdict truth ⊓ verdictOf truth model := by
  have appended : queryMap.addMust model = queryMap.append { must := [model] } := by simp [addMust, append]
  have alone : verdict truth { must := [model] } = verdictOf truth model := by
    rw [verdict_eq rfl]
    simp [Verdict.all]
  rw [appended, verdict_append noShould rfl, alone]

/-- A step that adds no condition leaves the verdict as it is. -/
theorem Adds.verdict_eq {after : QueryMap} (adds : queryMap.Adds after fun _ => True)
    (noShould : queryMap.should = []) : after.verdict truth = queryMap.verdict truth := by
  have selected : ∀ queryMap : QueryMap,
      queryMap.verdict truth = (queryMap.selected truth).elim ⊥ Verdict.ofBool := by
    intro queryMap
    simp only [verdict, verdictOf, QueryMap.selected]
    cases queryMap.getBoolQuery.toElasticsearchQuery <;> rfl
  rw [selected, selected, adds.selected_eq noShould]

end QueryMap

def criterionVerdict (truth : Leaf → Bool) (unicode : Unicode) (criterion : SearchCriteriaDTO) : Verdict :=
  Verdict.of (buildCriterion unicode criterion) (verdictOf truth)

/-- What the access policy and the exclusions say. -/
def accessVerdict (truth : Leaf → Bool) (access : AccessPolicyRequestDTO) : Verdict :=
  (addExclusions (accessPolicyClause access {})).verdict truth

section

variable {queryMap : QueryMap}

theorem verdict_addSearchCriteria {criteria : List SearchCriteriaDTO} (nonempty : criteria ≠ [])
    (noShould : queryMap.should = []) :
    Verdict.of (addSearchCriteria unicode (some ⟨some criteria⟩) queryMap) (QueryMap.verdict truth) =
      queryMap.verdict truth ⊓ Verdict.all (criteria.map (criterionVerdict truth unicode)) := by
  have each : Verdict.all (criteria.map (criterionVerdict truth unicode)) = _ :=
    (Verdict.of_mapM (buildCriterion unicode) (verdictOf truth) criteria).symm
  have filled_ : criteria.isEmpty = false := by simpa using nonempty
  rw [each]
  simp only [addSearchCriteria, nonNull, filled_, Bool.false_eq_true, if_false, bind, Except.bind, pure, Except.pure]
  cases criteria.mapM (buildCriterion unicode) with
  | error cause => exact (inf_bot_eq _).symm
  | ok clauses => exact (QueryMap.verdict_addFilter noShould).trans (by rw [verdictOf_mustQuery]; rfl)

/-- The access policy and the exclusions append the same clauses to every map. -/
theorem access_append (access : AccessPolicyRequestDTO) (queryMap : QueryMap) :
    addExclusions (accessPolicyClause access queryMap) =
      queryMap.append (addExclusions (accessPolicyClause access {})) := by
  simp only [accessPolicyClause]
  cases access.caller with
  | none => simp [addExclusions, QueryMap.addMustNot, QueryMap.append]
  | some sub =>
      cases access.myAssetsReq == some true <;>
        simp [addExclusions, QueryMap.addMust, QueryMap.addMustNot, QueryMap.append]

theorem verdict_access (access : AccessPolicyRequestDTO) (noShould : queryMap.should = []) :
    (addExclusions (accessPolicyClause access queryMap)).verdict truth =
      queryMap.verdict truth ⊓ accessVerdict truth access := by
  have alone : (addExclusions (accessPolicyClause access {})).should = [] := should_accessPolicyClause
  rw [access_append, QueryMap.verdict_append noShould alone, accessVerdict]

end

end Tgdex.Query
