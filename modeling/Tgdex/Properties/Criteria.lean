import Tgdex.Query.Meaning

namespace Tgdex.Properties

open Tgdex.Data Tgdex.Java Tgdex.Elastic Tgdex.Query

/-! # The number of values of a criterion -/

variable {unicode : Unicode} {criterion : SearchCriteriaDTO} {criteria : List SearchCriteriaDTO} {queryMap : QueryMap}

def Supported (criterion : SearchCriteriaDTO) : Prop :=
  criterion.type = "term" ∨ isBetween criterion.type = true ∨ isBefore criterion.type = true ∨
    isAfter criterion.type = true

/-- The criterion has as many values as docs/openapi.yaml asks for its type. -/
def Counted (criterion : SearchCriteriaDTO) : Prop :=
  (criterion.type = "term" ∧ criterion.values ≠ []) ∨
    (isBetween criterion.type = true ∧ criterion.values.length = 2) ∨
    ((isBefore criterion.type = true ∨ isAfter criterion.type = true) ∧ criterion.values.length = 1)

def Miscounted (criterion : SearchCriteriaDTO) : Prop := Supported criterion ∧ ¬Counted criterion

/-- The decoder raises its own error: it looks at the number of values in one
of its branches only. -/
def Refused (criterion : SearchCriteriaDTO) : Prop :=
  criterion.type ≠ "term" ∧
    if isBetween criterion.type then criterion.values.length ≠ 2
    else (isBefore criterion.type || isAfter criterion.type) = false

theorem bind_eq_error_iff {α β : Type} {attempt : Except Throwable α} {result : α → β} {cause : Throwable} :
    (do return result (← attempt) : Except Throwable β) = .error cause ↔ attempt = .error cause := by
  cases attempt <;> simp [bind, Except.bind, pure, Except.pure]

theorem toText_error {value : Json} {cause : Throwable} (failed : toText value = .error cause) :
    cause = .nullPointer := by
  cases value <;> cases failed
  rfl

theorem termValueClause_error {field : Option String} {value : Json} {cause : Throwable}
    (failed : termValueClause unicode field value = .error cause) : cause = .nullPointer := by
  cases written : toText value with
  | error other =>
      obtain rfl := toText_error written
      simp only [termValueClause, written, bind, Except.bind, Except.error.injEq] at failed
      exact failed.symm
  | ok text =>
      cases field with
      | none =>
          simp only [termValueClause, written, bind, Except.bind, nonNull, Except.error.injEq] at failed
          exact failed.symm
      | some name => simp [termValueClause, written, bind, Except.bind, nonNull, pure, Except.pure] at failed

theorem buildTermQuery_error {field : Option String} {values : List Json} {cause : Throwable}
    (failed : buildTermQuery unicode field values = .error cause) : cause = .nullPointer := by
  obtain ⟨before, value, after, -, -, stopped⟩ := mapM_eq_error_iff.mp (bind_eq_error_iff.mp failed)
  exact termValueClause_error stopped

theorem valueText_error {values : List Json} {index : Nat} {message : String} :
    valueText values index ≠ .error (.dxEs message) := by
  intro failed
  simp only [valueText] at failed
  split at failed
  · cases failed
  · cases toText_error failed

theorem buildCriterion_refused_iff :
    (∃ message, buildCriterion unicode criterion = .error (.dxEs message)) ↔ Refused criterion := by
  by_cases term : criterion.type = "term"
  · refine iff_of_false (fun shown => ?_) fun refused => refused.1 term
    obtain ⟨message, failed⟩ := shown
    rw [buildCriterion, if_pos term] at failed
    cases buildTermQuery_error failed
  · simp only [buildCriterion, Refused, term, if_false, ne_eq, not_false_eq_true, true_and]
    split
    · rename_i between
      by_cases two : criterion.values.length = 2
      · obtain ⟨low, high, values⟩ := List.length_eq_two.mp two
        cases low <;> cases high <;>
          simp [values, valueText, toText, bind, Except.bind, pure, Except.pure]
      · simp [two]
    · have oneSided : ∀ operator, ¬∃ message, (do
          return buildRangeQuery criterion.field [(operator, ← valueText criterion.values 0)] :
            Except Throwable QueryModel) = .error (.dxEs message) := by
        intro operator shown
        obtain ⟨message, failed⟩ := shown
        exact valueText_error (bind_eq_error_iff.mp failed)
      cases isBefore criterion.type with
      | true => simpa using oneSided "lt"
      | false =>
          cases isAfter criterion.type with
          | true => simpa using oneSided "gt"
          | false => simp

/-- The decoder comes to a criterion that it refuses. -/
def ReachesRefused (criteria : List SearchCriteriaDTO) : Prop :=
  ∃ before criterion after, criteria = before ++ criterion :: after ∧ Refused criterion ∧
    ∀ earlier ∈ before, Decodes earlier

theorem exists_addSearchCriteria_iff (nonempty : criteria ≠ []) :
    (∃ after, addSearchCriteria unicode (some ⟨some criteria⟩) queryMap = .ok after) ↔
      ∀ criterion ∈ criteria, Decodes criterion := by
  have filled : criteria.isEmpty = false := by simpa using nonempty
  simp only [addSearchCriteria, nonNull, bind, Except.bind, filled, Bool.false_eq_true, if_false]
  rw [← forall₂_congr fun criterion _ => @exists_buildCriterion_iff unicode criterion, ← exists_mapM_eq_ok_iff]
  exact exists_bind_ok_iff

theorem addSearchCriteria_refused_iff (nonempty : criteria ≠ []) :
    (∃ message, addSearchCriteria unicode (some ⟨some criteria⟩) queryMap = .error (.dxEs message)) ↔
      ReachesRefused criteria := by
  have filled : criteria.isEmpty = false := by simpa using nonempty
  have stops : ∀ cause, addSearchCriteria unicode (some ⟨some criteria⟩) queryMap = .error cause ↔
      criteria.mapM (buildCriterion unicode) = .error cause := by
    intro cause
    simp only [addSearchCriteria, nonNull, bind, Except.bind, filled, Bool.false_eq_true, if_false]
    exact bind_eq_error_iff
  simp only [stops, mapM_eq_error_iff, exists_buildCriterion_iff, ReachesRefused,
    ← @buildCriterion_refused_iff unicode]
  refine ⟨fun shown => ?_, fun shown => ?_⟩
  · obtain ⟨message, before, criterion, after, same, passed, failed⟩ := shown
    exact ⟨before, criterion, after, same, ⟨message, failed⟩, passed⟩
  · obtain ⟨before, criterion, after, same, ⟨message, failed⟩, passed⟩ := shown
    exact ⟨message, before, criterion, after, same, passed, failed⟩

/-- The arity of the criteria is enforced, and lists with documented numbers of
values are accepted, exactly when a miscounted list comes to a criterion that
is refused before any other exception, and nothing that is read in a counted
list is missing. -/
theorem criteria_arity_enforced_iff (unicode : Unicode) (criteria : List SearchCriteriaDTO) (queryMap : QueryMap) :
    let decoded := addSearchCriteria unicode (some ⟨some criteria⟩) queryMap
    (((∃ criterion ∈ criteria, Miscounted criterion) → ∃ message, decoded = .error (.dxEs message)) ∧
      (criteria ≠ [] → (∀ criterion ∈ criteria, Counted criterion) → ∃ after, decoded = .ok after)) ↔
    ((∃ criterion ∈ criteria, Miscounted criterion) → ReachesRefused criteria) ∧
      ((∀ criterion ∈ criteria, Counted criterion) → ∀ criterion ∈ criteria, Decodes criterion) := by
  intro decoded
  by_cases nonempty : criteria = []
  · simp [nonempty]
  · simp only [decoded, addSearchCriteria_refused_iff nonempty, exists_addSearchCriteria_iff nonempty, ne_eq, nonempty,
      not_false_eq_true, true_imp_iff]

/-- A term without values is accepted, as a condition that every document meets. -/
theorem empty_term_accepted :
    Miscounted ⟨some "type", some "term", []⟩ ∧
      addSearchCriteria asciiUnicode (some ⟨some [⟨some "type", some "term", []⟩]⟩) {} =
        .ok (({} : QueryMap).addFilter (mustQuery [shouldQuery [] none])) ∧
      ¬∃ message, addSearchCriteria asciiUnicode (some ⟨some [⟨some "type", some "term", []⟩]⟩) {} =
        .error (.dxEs message) := by
  have accepted : addSearchCriteria asciiUnicode (some ⟨some [⟨some "type", some "term", []⟩]⟩) {} =
      .ok (({} : QueryMap).addFilter (mustQuery [shouldQuery [] none])) := rfl
  refine ⟨⟨.inl rfl, ?_⟩, accepted, ?_⟩
  · simp [Counted, SearchCriteriaDTO.type, isBetween, isBefore, isAfter]
  · simp [accepted]

end Tgdex.Properties
