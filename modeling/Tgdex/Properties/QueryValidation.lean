import Mathlib
import Tgdex.Validator.SearchQuery

namespace Tgdex.Properties

open Tgdex.Data Tgdex.Java Tgdex.Effects Tgdex.Query Tgdex.Validator

/-! # The validation of search queries -/

variable {validators : SchemaValidators} {jvm : Jvm} {request criterion : JsonObject} {element : Json}
  {elements : List Json} {searchType : String}

/-- The first item without `P`, where there is one, has `Q`. -/
def FirstWithout {α : Type} (P Q : α → Prop) : List α → Prop
  | [] => True
  | item :: rest => (P item ∧ FirstWithout P Q rest) ∨ (¬P item ∧ Q item)

theorem firstWithout_cons_of {α : Type} {P Q : α → Prop} {item : α} {rest : List α} (has : P item) :
    FirstWithout P Q (item :: rest) ↔ FirstWithout P Q rest := by
  simp [FirstWithout, has]

theorem firstWithout_cons_of_not {α : Type} {P Q : α → Prop} {item : α} {rest : List α} (without : ¬P item) :
    FirstWithout P Q (item :: rest) ↔ Q item := by
  simp [FirstWithout, without]

def isKnown (searchType : String) : Bool := searchType = "term" || isRange searchType || isTemporal searchType

/-- The element is an object with this search type. -/
def OfType (element : Json) (criterion : JsonObject) (searchType : String) : Prop :=
  objectOf element = .ok criterion ∧ criterion.getString "searchType" = some searchType

def IsObject (element : Json) : Prop := ∃ criterion, objectOf element = .ok criterion

def KnownType (element : Json) : Prop :=
  ∃ criterion searchType, OfType element criterion searchType ∧ isKnown searchType = true

def PassesSchema (validators : SchemaValidators) (element : Json) : Prop :=
  ∃ criterion searchType, OfType element criterion searchType ∧
    schemaValidation validators searchType criterion = some (.ok ())

def countOf (searchType : String) : Nat := if isBetween searchType then 2 else 1

/-- The criterion has as many values as its type takes; a term takes any number. -/
def RightCount (element : Json) : Prop :=
  ∃ criterion searchType, OfType element criterion searchType ∧
    (searchType = "term" ∨ ∃ values, criterion.getJsonArray "values" = .ok (some values) ∧
      values.length = countOf searchType)

/-- The values are also in their order. -/
def RightValues (jvm : Jvm) (element : Json) : Prop :=
  ∃ criterion searchType, OfType element criterion searchType ∧
    (searchType = "term" ∨ ∃ values, criterion.getJsonArray "values" = .ok (some values) ∧
      values.length = countOf searchType ∧
      (searchType = "betweenTemporal" → temporalOrder jvm values = .ok true) ∧
      (searchType = "betweenRange" → rangeOrder jvm values = .ok true))

/-- The values can be counted, and the two values of a between type compared. -/
def Readable (jvm : Jvm) (element : Json) : Prop :=
  ∃ criterion searchType, OfType element criterion searchType ∧
    (searchType = "term" ∨ ∃ values, criterion.getJsonArray "values" = .ok (some values) ∧
      (values.length = 2 → (searchType = "betweenTemporal" → ∃ ordered, temporalOrder jvm values = .ok ordered) ∧
        (searchType = "betweenRange" → ∃ ordered, rangeOrder jvm values = .ok ordered)))

theorem rightCount_of_rightValues (right : RightValues jvm element) : RightCount element := by
  obtain ⟨criterion, searchType, ofType, term | ⟨values, given, count, -⟩⟩ := right
  · exact ⟨criterion, searchType, ofType, .inl term⟩
  · exact ⟨criterion, searchType, ofType, .inr ⟨values, given, count⟩⟩

theorem isKnown_iff : isKnown searchType = true ↔ searchType = "term" ∨ searchType = "betweenTemporal" ∨
    searchType = "betweenRange" ∨ (isBefore searchType || isAfter searchType) = true := by
  simp only [isKnown, isRange, isTemporal, isBefore, isAfter, Bool.or_eq_true, decide_eq_true_eq]
  grind

theorem not_blank_of_isKnown (known : isKnown searchType = true) : isBlank searchType = false := by
  simp only [isKnown, isRange, isTemporal, Bool.or_eq_true, decide_eq_true_eq] at known
  rcases known with (rfl | (rfl | rfl) | rfl) | (rfl | rfl) | rfl <;> decide

theorem schemaValidation_isSome : (schemaValidation validators searchType criterion).isSome = isKnown searchType := by
  simp only [schemaValidation, isKnown]
  split
  · simp [*]
  · split
    · simp [*]
    · split <;> simp [*]

theorem exists_ofType_iff (ofType : OfType element criterion searchType) {P : JsonObject → String → Prop} :
    (∃ criterion searchType, OfType element criterion searchType ∧ P criterion searchType) ↔
      P criterion searchType := by
  refine ⟨?_, fun held => ⟨criterion, searchType, ofType, held⟩⟩
  rintro ⟨other, otherType, ⟨cast, named⟩, held⟩
  obtain rfl := Except.ok.inj (ofType.1.symm.trans cast)
  obtain rfl := Option.some.inj (ofType.2.symm.trans named)
  exact held

/-- The check of the values: their number, and then an order that can be looked at. -/
theorem counted_cases {number : Nat} {values : Except Throwable (Option (List Json))}
    {order : List Json → Except Throwable Bool} {refused : Except Throwable (Option String)} {count disorder : String}
    (given : refused = do
      let values ← nonNull (← values)
      if values.length ≠ number then return some count
      else if ← order values then return none
      else return some disorder) :
    ((∃ own, values = .ok (some own) ∧ own.length = number ∧ order own = .ok true) ∧ refused = .ok none) ∨
      ((¬∃ own, values = .ok (some own) ∧ own.length = number ∧ order own = .ok true) ∧
        (∃ own, values = .ok (some own) ∧ (own.length = number → ∃ ordered, order own = .ok ordered)) ∧
        ∃ message, refused = .ok (some message)) ∨
      ((¬∃ own, values = .ok (some own) ∧ own.length = number ∧ order own = .ok true) ∧
        (¬∃ own, values = .ok (some own) ∧ (own.length = number → ∃ ordered, order own = .ok ordered)) ∧
        ∃ cause, refused = .error cause) := by
  rcases values with cause | none | own
  · exact .inr (.inr ⟨by simp, by simp, cause, given⟩)
  · exact .inr (.inr ⟨by simp, by simp, .nullPointer, given⟩)
  · by_cases right : own.length = number
    · cases looked : order own with
      | error cause =>
          refine .inr (.inr ⟨by simp [looked], by simp [right, looked], cause, ?_⟩)
          simp [given, nonNull, bind, Except.bind, right, looked]
      | ok ordered =>
          cases ordered with
          | true =>
              refine .inl ⟨⟨own, rfl, right, looked⟩, ?_⟩
              simp [given, nonNull, bind, Except.bind, right, looked, pure, Except.pure]
          | false =>
              refine .inr (.inl ⟨by simp [looked], ⟨own, rfl, fun _ => ⟨false, looked⟩⟩, disorder, ?_⟩)
              simp [given, nonNull, bind, Except.bind, right, looked, pure, Except.pure]
    · refine .inr (.inl ⟨by simp [right], ⟨own, rfl, fun same => absurd same right⟩, count, ?_⟩)
      simp [given, nonNull, bind, Except.bind, right, pure, Except.pure]

theorem oneSided_of (given : (isBefore searchType || isAfter searchType) = true) :
    searchType ≠ "term" ∧ searchType ≠ "betweenTemporal" ∧ searchType ≠ "betweenRange" ∧ countOf searchType = 1 := by
  simp only [isBefore, isAfter, Bool.or_eq_true, decide_eq_true_eq] at given
  rcases given with (rfl | rfl) | rfl | rfl <;> decide

/-- What becomes of the values of a criterion whose type is known. -/
theorem valuesRefused_cases (ofType : OfType element criterion searchType) (known : isKnown searchType = true) :
    (RightValues jvm element ∧ valuesRefused jvm criterion = .ok none) ∨
      (¬RightValues jvm element ∧ Readable jvm element ∧
        ∃ message, valuesRefused jvm criterion = .ok (some message)) ∨
      (¬RightValues jvm element ∧ ¬Readable jvm element ∧ ∃ cause, valuesRefused jvm criterion = .error cause) := by
  rw [RightValues, Readable, exists_ofType_iff ofType, exists_ofType_iff ofType]
  obtain ⟨-, named⟩ := ofType
  rcases isKnown_iff.mp known with rfl | rfl | rfl | oneSided
  · exact .inl ⟨.inl rfl, by simp [valuesRefused, named, nonNull, bind, Except.bind, pure, Except.pure]⟩
  · have cases := @counted_cases 2 (criterion.getJsonArray "values") (temporalOrder jvm) (valuesRefused jvm criterion)
      _ _ (by simp only [valuesRefused, named]; rfl)
    simpa [countOf, isBetween] using cases
  · have cases := @counted_cases 2 (criterion.getJsonArray "values") (rangeOrder jvm) (valuesRefused jvm criterion)
      _ _ (by simp only [valuesRefused, named]; rfl)
    simpa [countOf, isBetween] using cases
  · obtain ⟨notTerm, notTemporal, notRange, count⟩ := oneSided_of oneSided
    -- One value is in order with itself.
    have refused : valuesRefused jvm criterion = (do
        let values ← nonNull (← criterion.getJsonArray "values")
        if values.length ≠ 1 then return some ("'" ++ searchType ++ "' must contain exactly one value")
        else if ← (.ok true : Except Throwable Bool) then return none
        else return some "") := by
      simp only [valuesRefused, named, nonNull, bind, Except.bind, notTerm, notTemporal, notRange, oneSided, if_true,
        if_false]
    have cases := @counted_cases 1 (criterion.getJsonArray "values") (fun _ => .ok true) (valuesRefused jvm criterion)
      _ _ refused
    simpa [notTerm, notTemporal, notRange, count] using cases

/-- What the first loop makes of one element. -/
theorem criterionValidation_cases (index : Nat) (element : Json) :
    (KnownType element ∧ ∃ validation,
        (criterionValidation validators index element).runOn .pending = (.ok validation, .pending) ∧
          (validation.toBool = true ↔ PassesSchema validators element)) ∨
      (¬KnownType element ∧ IsObject element ∧ ∃ cause message,
        (criterionValidation validators index element).runOn .pending = (.error cause, .failed message)) ∨
      (¬KnownType element ∧ ¬IsObject element ∧ ∃ cause,
        (criterionValidation validators index element).runOn .pending = (.error cause, .pending)) := by
  cases cast : objectOf element with
  | error cause =>
      have untyped : ∀ criterion searchType, ¬OfType element criterion searchType := fun _ _ ofType => by
        simp [OfType, cast] at ofType
      refine .inr (.inr ⟨?_, by simp [IsObject, cast], cause, ?_⟩)
      · rintro ⟨criterion, searchType, ofType, -⟩
        exact untyped criterion searchType ofType
      · apply Procedure.runOn_bind_of_error
        rw [attempt, Procedure.runOn_attempt, cast]
  | ok criterion =>
      have started : (attempt (objectOf element) : Validation JsonObject JsonObject).runOn .pending =
          (.ok criterion, .pending) := by rw [attempt, Procedure.runOn_attempt, cast]
      rw [criterionValidation, Procedure.runOn_bind_of_ok started]
      have object : IsObject element := ⟨criterion, cast⟩
      cases named : criterion.getString "searchType" with
      | none =>
          refine .inr (.inl ⟨?_, object, .nullPointer, _, rfl⟩)
          rintro ⟨other, searchType, ⟨same, given⟩, -⟩
          obtain rfl := Except.ok.inj (cast.symm.trans same)
          simp [named] at given
      | some searchType =>
          have ofType : OfType element criterion searchType := ⟨cast, named⟩
          rw [KnownType, PassesSchema, exists_ofType_iff ofType, exists_ofType_iff ofType,
            ← @schemaValidation_isSome validators criterion searchType]
          cases validated : schemaValidation validators searchType criterion with
          | some validation =>
              have known : isKnown searchType = true := by
                rw [← @schemaValidation_isSome validators criterion searchType, validated, Option.isSome_some]
              refine .inl ⟨rfl, validation, ?_, ?_⟩
              · simp only [Option.all_some, not_blank_of_isKnown known, Bool.false_eq_true, if_false]
                refine (Procedure.runOn_bind_of_ok rfl).trans ?_
                simp only [validated, Procedure.runOn_pure]
              · cases validation <;> simp [Except.toBool]
          | none =>
              refine .inr (.inl ⟨by simp, object, ?_⟩)
              cases blank : isBlank searchType with
              | true =>
                  refine ⟨.illegalState, failedResponse typeInvalidPropertyValue
                    ("'searchType' is missing or empty in searchCriteria at index " ++ toString index), ?_⟩
                  simp only [Option.all_some, blank, if_true]
                  refine (Procedure.runOn_bind_of_ok Procedure.runOn_settle_pending).trans ?_
                  refine (Procedure.runOn_bind_of_ok Procedure.runOn_attempt).trans ?_
                  simp only [validated]
                  exact Procedure.runOn_bind_of_error (Procedure.runOn_settle_again (by simp))
              | false =>
                  refine ⟨.nullPointer, failedResponse typeInvalidPropertyValue
                    ("Invalid searchType: " ++ searchType), ?_⟩
                  simp only [Option.all_some, blank, Bool.false_eq_true, if_false]
                  refine (Procedure.runOn_bind_of_ok Procedure.runOn_attempt).trans ?_
                  simp only [validated]
                  exact (Procedure.runOn_bind_of_ok Procedure.runOn_settle_pending).trans Procedure.runOn_throw

theorem criteriaValidations_cases (index : Nat) :
    ((∀ element ∈ elements, KnownType element) ∧ ∃ validations,
        (criteriaValidations validators index elements).runOn .pending = (.ok validations, .pending) ∧
          ((validations.all fun validation => validation.toBool) = true ↔
            ∀ element ∈ elements, PassesSchema validators element)) ∨
      ((¬∀ element ∈ elements, KnownType element) ∧ FirstWithout KnownType IsObject elements ∧ ∃ cause message,
        (criteriaValidations validators index elements).runOn .pending = (.error cause, .failed message)) ∨
      ((¬∀ element ∈ elements, KnownType element) ∧ ¬FirstWithout KnownType IsObject elements ∧ ∃ cause,
        (criteriaValidations validators index elements).runOn .pending = (.error cause, .pending)) := by
  induction elements generalizing index with
  | nil =>
      left
      exact ⟨by simp, [], rfl, by simp⟩
  | cons element rest ih =>
      rw [criteriaValidations, List.forall_mem_cons, List.forall_mem_cons]
      rcases @criterionValidation_cases validators index element with
        ⟨known, validation, ran, passes⟩ | ⟨unknown, object, cause, message, ran⟩ | ⟨unknown, other, cause, ran⟩
      · rw [Procedure.runOn_bind_of_ok ran, firstWithout_cons_of known]
        rcases ih (index + 1) with ⟨knownRest, validations, ranRest, passRest⟩ |
          ⟨unknownRest, first, cause, message, ranRest⟩ | ⟨unknownRest, first, cause, ranRest⟩
        · refine .inl ⟨⟨known, knownRest⟩, validation :: validations, ?_, ?_⟩
          · rw [Procedure.runOn_bind_of_ok ranRest, Procedure.runOn_pure]
          · rw [List.all_cons, Bool.and_eq_true, passes, passRest]
        · refine .inr (.inl ⟨fun all => unknownRest all.2, first, cause, message, ?_⟩)
          exact Procedure.runOn_bind_of_error ranRest
        · refine .inr (.inr ⟨fun all => unknownRest all.2, first, cause, ?_⟩)
          exact Procedure.runOn_bind_of_error ranRest
      · rw [Procedure.runOn_bind_of_error ran, firstWithout_cons_of_not unknown]
        exact .inr (.inl ⟨fun all => unknown all.1, object, cause, message, rfl⟩)
      · rw [Procedure.runOn_bind_of_error ran, firstWithout_cons_of_not unknown]
        exact .inr (.inr ⟨fun all => unknown all.1, other, cause, rfl⟩)

/-- The second loop, over criteria whose types are known. -/
theorem handleSearchCriteriaResult_cases (known : ∀ element ∈ elements, KnownType element) :
    ((∀ element ∈ elements, RightValues jvm element) ∧ ∃ value,
        (handleSearchCriteriaResult jvm elements).runOn .pending = (.ok (), .completed value)) ∨
      ((¬∀ element ∈ elements, RightValues jvm element) ∧
        FirstWithout (RightValues jvm) (Readable jvm) elements ∧ ∃ message,
          (handleSearchCriteriaResult jvm elements).runOn .pending = (.ok (), .failed message)) ∨
      ((¬∀ element ∈ elements, RightValues jvm element) ∧
        ¬FirstWithout (RightValues jvm) (Readable jvm) elements ∧ ∃ cause,
          (handleSearchCriteriaResult jvm elements).runOn .pending = (.error cause, .pending)) := by
  induction elements with
  | nil =>
      left
      exact ⟨by simp, ⟨[("title", .str "Success")]⟩, rfl⟩
  | cons element rest ih =>
      obtain ⟨criterion, searchType, ofType, knownType⟩ := known element List.mem_cons_self
      have started : (attempt (objectOf element) : Validation JsonObject JsonObject).runOn .pending =
          (.ok criterion, .pending) := by rw [attempt, Procedure.runOn_attempt, ofType.1]
      have tried {refused : Except Throwable (Option String)} (found : valuesRefused jvm criterion = refused) :
          (attempt (valuesRefused jvm criterion) : Validation JsonObject (Option String)).runOn .pending =
            (refused, .pending) := by rw [attempt, Procedure.runOn_attempt, found]
      rw [handleSearchCriteriaResult, Procedure.runOn_bind_of_ok started, List.forall_mem_cons]
      rcases @valuesRefused_cases jvm _ _ _ ofType knownType with
        ⟨right, found⟩ | ⟨wrong, readable, message, found⟩ | ⟨wrong, unreadable, cause, found⟩
      · rw [Procedure.runOn_bind_of_ok (tried found), firstWithout_cons_of right]
        rcases ih fun other member => known other (List.mem_cons_of_mem _ member) with
          ⟨rightRest, value, ran⟩ | ⟨wrongRest, first, message, ran⟩ | ⟨wrongRest, first, cause, ran⟩
        · exact .inl ⟨⟨right, rightRest⟩, value, ran⟩
        · exact .inr (.inl ⟨fun all => wrongRest all.2, first, message, ran⟩)
        · exact .inr (.inr ⟨fun all => wrongRest all.2, first, cause, ran⟩)
      · rw [Procedure.runOn_bind_of_ok (tried found), firstWithout_cons_of_not wrong]
        exact .inr (.inl ⟨fun all => wrong all.1, readable, _, rfl⟩)
      · rw [Procedure.runOn_bind_of_error (tried found), firstWithout_cons_of_not wrong]
        exact .inr (.inr ⟨fun all => wrong all.1, unreadable, cause, rfl⟩)

/-- The criterion has no known type, fails its schema or has a wrong number of values. -/
def Bad (validators : SchemaValidators) (element : Json) : Prop :=
  ¬KnownType element ∨ ¬PassesSchema validators element ∨ ¬RightCount element

/-- The promise is settled, and failed where there is a bad criterion. -/
def SettlesRight (validators : SchemaValidators) (criteria : List Json) (promise : Promise JsonObject JsonObject) :
    Prop :=
  promise ≠ .pending ∧ ((∃ element ∈ criteria, Bad validators element) → ∃ message, promise = .failed message)

theorem settlesRight_failed {criteria : List Json} {message : JsonObject} :
    SettlesRight validators criteria (.failed message) :=
  ⟨by simp, fun _ => ⟨message, rfl⟩⟩

theorem not_settlesRight_pending {criteria : List Json} : ¬SettlesRight validators criteria .pending :=
  fun right => right.1 rfl

theorem firstWithout_of_forall {α : Type} {P Q : α → Prop} {items : List α} (all : ∀ item ∈ items, P item) :
    FirstWithout P Q items := by
  induction items with
  | nil => trivial
  | cons item rest ih =>
      rw [List.forall_mem_cons] at all
      exact .inl ⟨all.1, ih all.2⟩

theorem validateSearchCriteria_runOn {criteria : List Json}
    (given : request.getJsonArray "searchCriteria" = .ok (some criteria)) :
    (validateSearchCriteria validators jvm request).runOn .pending =
      (do
        let validations ← criteriaValidations validators 0 criteria
        if validations.all fun validation => validation.toBool then
          handleSearchCriteriaResult jvm criteria : Validation JsonObject Unit).runOn .pending := by
  rw [validateSearchCriteria, given]
  rfl

/-- The promise is settled rightly when the first criterion without a known
type is an object, or all have one, pass their schemas, and the values of the
first one with wrong values can be read. -/
theorem validateSearchCriteria_settlesRight_iff {criteria : List Json}
    (given : request.getJsonArray "searchCriteria" = .ok (some criteria)) :
    SettlesRight validators criteria ((validateSearchCriteria validators jvm request).runOn .pending).2 ↔
      ((¬∀ element ∈ criteria, KnownType element) ∧ FirstWithout KnownType IsObject criteria) ∨
        ((∀ element ∈ criteria, KnownType element ∧ PassesSchema validators element) ∧
          FirstWithout (RightValues jvm) (Readable jvm) criteria) := by
  rw [validateSearchCriteria_runOn given]
  rcases @criteriaValidations_cases validators criteria 0 with
    ⟨known, validations, ran, passes⟩ | ⟨unknown, first, cause, message, ran⟩ | ⟨unknown, first, cause, ran⟩
  · rw [Procedure.runOn_bind_of_ok ran]
    by_cases pass : ∀ element ∈ criteria, PassesSchema validators element
    · rw [if_pos (passes.mpr pass)]
      have both : ∀ element ∈ criteria, KnownType element ∧ PassesSchema validators element :=
        fun element member => ⟨known element member, pass element member⟩
      rcases @handleSearchCriteriaResult_cases jvm _ known with
        ⟨right, value, handled⟩ | ⟨wrong, first, message, handled⟩ | ⟨wrong, first, cause, handled⟩
      · rw [handled]
        refine iff_of_true ⟨by simp, ?_⟩ (.inr ⟨both, firstWithout_of_forall right⟩)
        rintro ⟨element, member, unknown | failing | count⟩
        · exact absurd (known element member) unknown
        · exact absurd (pass element member) failing
        · exact absurd (rightCount_of_rightValues (right element member)) count
      · rw [handled]
        exact iff_of_true settlesRight_failed (.inr ⟨both, first⟩)
      · rw [handled]
        refine iff_of_false not_settlesRight_pending ?_
        rintro (⟨unknown, -⟩ | ⟨-, readable⟩)
        · exact unknown known
        · exact first readable
    · rw [if_neg fun all => pass (passes.mp all)]
      refine iff_of_false not_settlesRight_pending ?_
      rintro (⟨unknown, -⟩ | ⟨both, -⟩)
      · exact unknown known
      · exact pass fun element member => (both element member).2
  · rw [Procedure.runOn_bind_of_error ran]
    exact iff_of_true settlesRight_failed (.inl ⟨unknown, first⟩)
  · rw [Procedure.runOn_bind_of_error ran]
    refine iff_of_false not_settlesRight_pending ?_
    rintro (⟨-, object⟩ | ⟨both, -⟩)
    · exact first object
    · exact unknown fun element member => (both element member).1

def exactInteger (request : JsonObject) (key : String) : Option Int :=
  match request.get? key with
  | none => some 0
  | some (.num literal) => literal.toInt?
  | some _ => none

def InWindow (limit offset : Int) : Prop := 0 ≤ limit ∧ 0 ≤ offset ∧ 1 ≤ limit + offset ∧ limit + offset ≤ 10000

/-- Every validation that the search type names succeeds, and the window is right where it is given. -/
structure ValidQuery (validators : SchemaValidators) (jvm : Jvm) (request : JsonObject) (searchType : String) :
    Prop where
  text : contains searchType "textSearch_" = true → validators.textSearch request = .ok ()
  criteria : contains searchType "searchCriteria_" = true →
    ∃ criteria, request.getJsonArray "searchCriteria" = .ok (some criteria) ∧
      ∀ element ∈ criteria, KnownType element ∧ PassesSchema validators element ∧ RightValues jvm element
  filter : contains searchType "responseFilter_" = true → validators.filterSearch request = .ok ()
  window : (request.containsKey "limit" || request.containsKey "offset") = true →
    ∃ limit offset, exactInteger request "limit" = some limit ∧ exactInteger request "offset" = some offset ∧
      InWindow limit offset

theorem firstFailure_append {promises others : List (Promise JsonObject JsonObject)}
    (none : firstFailure promises = none) : firstFailure (promises ++ others) = firstFailure others := by
  induction promises with
  | nil => rfl
  | cons promise rest ih =>
      cases promise with
      | failed message => simp [firstFailure] at none
      | pending => exact ih none
      | completed value => exact ih none

theorem runOn_onNewPromise {validation : Validation JsonObject Unit} {promise : Promise JsonObject JsonObject}
    {outer : Promise JsonObject Unit} (ran : validation.runOn .pending = (.ok (), promise)) :
    (validation.onNewPromise : Validation Unit (Promise JsonObject JsonObject)).runOn outer = (.ok promise, outer) := by
  simp only [Procedure.onNewPromise, ran, Procedure.runOn_pure]

/-- A validation that goes well where it is named leaves nothing to fail the query. -/
theorem validationIf_runs {named : Bool} {validation : Validation JsonObject Unit} {outer : Promise JsonObject Unit}
    (well : named = true → ∃ promise, validation.runOn .pending = (.ok (), promise) ∧ firstFailure [promise] = none) :
    ∃ promises, (validationIf named validation).runOn outer = (.ok promises, outer) ∧ firstFailure promises = none := by
  cases named with
  | false => exact ⟨[], rfl, rfl⟩
  | true =>
      obtain ⟨promise, ran, unfailed⟩ := well rfl
      refine ⟨[promise], ?_, unfailed⟩
      simp only [validationIf, if_true]
      rw [Procedure.runOn_bind_of_ok (runOn_onNewPromise ran), Procedure.runOn_pure]

theorem validateSearchCriteria_completes {criteria : List Json}
    (given : request.getJsonArray "searchCriteria" = .ok (some criteria))
    (valid : ∀ element ∈ criteria, KnownType element ∧ PassesSchema validators element ∧ RightValues jvm element) :
    ∃ value, (validateSearchCriteria validators jvm request).runOn .pending = (.ok (), .completed value) := by
  have known : ∀ element ∈ criteria, KnownType element := fun element member => (valid element member).1
  rw [validateSearchCriteria_runOn given]
  rcases @criteriaValidations_cases validators criteria 0 with
    ⟨-, validations, ran, passes⟩ | ⟨unknown, -⟩ | ⟨unknown, -⟩
  · rw [Procedure.runOn_bind_of_ok ran, if_pos (passes.mpr fun element member => (valid element member).2.1)]
    rcases @handleSearchCriteriaResult_cases jvm _ known with ⟨-, handled⟩ | ⟨wrong, -⟩ | ⟨wrong, -⟩
    · exact handled
    · exact absurd (fun element member => (valid element member).2.2) wrong
    · exact absurd (fun element member => (valid element member).2.2) wrong
  · exact absurd known unknown
  · exact absurd known unknown

theorem getInteger_of_exact {key : String} {value : Int} (exact_ : exactInteger request key = some value)
    (low : 0 ≤ value) (high : value ≤ 10000) : getInteger jvm request key 0 = .ok value := by
  have same : toInt32 value = value := toInt32_of_bounds (by omega) (by omega)
  cases found : request.get? key with
  | none =>
      simp only [exactInteger, found, Option.some.injEq] at exact_
      simp only [getInteger, found, exact_]
  | some given =>
      cases given with
      | num literal =>
          simp only [exactInteger, found] at exact_
          simp only [getInteger, found, intValue, exact_, same]
      | _ => simp [exactInteger, found] at exact_

theorem checkWindow_runs {searchType : String} (valid : ValidQuery validators jvm request searchType) :
    (checkWindow jvm request).runOn .pending = (.ok (), .pending) := by
  rw [checkWindow]
  split
  case isFalse => rfl
  case isTrue given =>
    obtain ⟨limit, offset, isLimit, isOffset, lowLimit, lowOffset, least, most⟩ := valid.window given
    have sum : toInt32 (limit + offset) = limit + offset := toInt32_of_bounds (by omega) (by omega)
    have inside : (toInt32 (limit + offset) ≤ 0 || toInt32 (limit + offset) > maxResultWindow) = false := by
      rw [sum, maxResultWindow, Bool.or_eq_false_iff, decide_eq_false_iff_not, decide_eq_false_iff_not]
      omega
    rw [getInteger_of_exact isLimit lowLimit (by omega), getInteger_of_exact isOffset lowOffset (by omega)]
    refine (Procedure.runOn_bind_of_ok rfl).trans ?_
    refine (Procedure.runOn_bind_of_ok rfl).trans ?_
    simp only [inside, Bool.false_eq_true, if_false, Procedure.runOn_pure]

/-- A valid query is accepted. -/
theorem validateSearchQuery_accepts {searchType : String}
    (given : request.getStringOr "searchType" "" = some searchType)
    (valid : ValidQuery validators jvm request searchType) :
    (validateSearchQuery validators jvm request).runOn .pending = (.ok (), .completed ()) := by
  obtain ⟨text, ranText, wellText⟩ := @validationIf_runs (contains searchType "textSearch_")
    (validateTextSearchQuery validators request) .pending fun named =>
      ⟨.pending, by rw [validateTextSearchQuery, valid.text named]; rfl, rfl⟩
  obtain ⟨criteria, ranCriteria, wellCriteria⟩ := @validationIf_runs (contains searchType "searchCriteria_")
    (validateSearchCriteria validators jvm request) .pending fun named => by
      obtain ⟨elements, isArray, each⟩ := valid.criteria named
      obtain ⟨value, completes⟩ := validateSearchCriteria_completes isArray each
      exact ⟨.completed value, completes, rfl⟩
  obtain ⟨filter, ranFilter, wellFilter⟩ := @validationIf_runs (contains searchType "responseFilter_")
    (validateFilterSearchQuery validators request) .pending fun named =>
      ⟨.pending, by rw [validateFilterSearchQuery, valid.filter named]; rfl, rfl⟩
  have unfailed : firstFailure (text ++ criteria ++ filter) = none := by
    rw [List.append_assoc, firstFailure_append wellText, firstFailure_append wellCriteria, wellFilter]
  rw [validateSearchQuery, given]
  refine (Procedure.runOn_bind_of_ok rfl).trans ?_
  rw [Procedure.runOn_bind_of_ok ranText, Procedure.runOn_bind_of_ok ranCriteria,
    Procedure.runOn_bind_of_ok ranFilter, unfailed]
  refine (Procedure.runOn_bind_of_ok (checkWindow_runs valid)).trans ?_
  rfl

theorem complete_of_ok {before after : Promise JsonObject Unit}
    (ran : (complete () : Validation Unit Unit).runOn before = (.ok (), after)) : after = .completed () := by
  cases before with
  | pending =>
      rw [complete, Procedure.runOn_settle_pending] at ran
      cases ran
      rfl
  | failed message =>
      rw [complete, Procedure.runOn_settle_again (by simp)] at ran
      cases ran
  | completed value =>
      rw [complete, Procedure.runOn_settle_again (by simp)] at ran
      cases ran

theorem complete_of_checkWindow {before after : Promise JsonObject Unit}
    (ran : (checkWindow jvm request >>= fun _ => complete ()).runOn before = (.ok (), after)) :
    after = .completed () := by
  obtain ⟨_, _, -, ran⟩ := Procedure.runOn_bind_eq_ok.mp ran
  exact complete_of_ok ran

/-- A query whose validation returns has a search type and is accepted. -/
theorem accepted_of_returns {promise : Promise JsonObject Unit}
    (ran : (validateSearchQuery validators jvm request).runOn .pending = (.ok (), promise)) :
    (∃ searchType, request.getStringOr "searchType" "" = some searchType) ∧ promise = .completed () := by
  rw [validateSearchQuery] at ran
  obtain ⟨searchType, started, named, ran⟩ := Procedure.runOn_bind_eq_ok.mp ran
  obtain ⟨text, _, -, ran⟩ := Procedure.runOn_bind_eq_ok.mp ran
  obtain ⟨criteria, _, -, ran⟩ := Procedure.runOn_bind_eq_ok.mp ran
  obtain ⟨filter, _, -, ran⟩ := Procedure.runOn_bind_eq_ok.mp ran
  constructor
  · cases given : request.getStringOr "searchType" "" with
    | none => simp [given, nonNull, attempt] at named
    | some searchType => exact ⟨searchType, rfl⟩
  · cases failure : firstFailure (text ++ criteria ++ filter) with
    | none =>
        rw [failure] at ran
        exact complete_of_checkWindow ran
    | some message =>
        rw [failure] at ran
        obtain ⟨_, _, -, ran⟩ := Procedure.runOn_bind_eq_ok.mp ran
        exact complete_of_checkWindow ran

/-- The validation returns, and a settled future succeeds for valid queries only. -/
def AnswersRight (validators : SchemaValidators) (jvm : Jvm) (request : JsonObject) : Prop :=
  ∃ promise, (validateSearchQuery validators jvm request).runOn .pending = (.ok (), promise) ∧ promise ≠ .pending ∧
    (promise = .completed () ↔
      ∃ searchType, request.getStringOr "searchType" "" = some searchType ∧
        ValidQuery validators jvm request searchType)

theorem answersRight_iff :
    AnswersRight validators jvm request ↔
      ∃ searchType, request.getStringOr "searchType" "" = some searchType ∧
        ValidQuery validators jvm request searchType := by
  constructor
  · rintro ⟨promise, ran, -, succeeds⟩
    exact succeeds.mp (accepted_of_returns ran).2
  · rintro ⟨searchType, given, valid⟩
    exact ⟨.completed (), validateSearchQuery_accepts given valid, by simp, fun _ => ⟨searchType, given, valid⟩,
      fun _ => rfl⟩

theorem query_validation_exact (validators : SchemaValidators) (jvm : Jvm) (request : JsonObject)
    (criteria : List Json) :
    (AnswersRight validators jvm request ↔
        ∃ searchType, request.getStringOr "searchType" "" = some searchType ∧
          ValidQuery validators jvm request searchType) ∧
      (request.getJsonArray "searchCriteria" = .ok (some criteria) →
        (SettlesRight validators criteria ((validateSearchCriteria validators jvm request).runOn .pending).2 ↔
          ((¬∀ element ∈ criteria, KnownType element) ∧ FirstWithout KnownType IsObject criteria) ∨
            ((∀ element ∈ criteria, KnownType element ∧ PassesSchema validators element) ∧
              FirstWithout (RightValues jvm) (Readable jvm) criteria))) :=
  ⟨answersRight_iff, validateSearchCriteria_settlesRight_iff⟩

/-- Schema validators with one answer each. -/
def answering (answer : Except String Unit) : SchemaValidators :=
  ⟨fun _ => answer, fun _ => answer, fun _ => answer, fun _ => answer, fun _ => answer⟩

def truncating : Jvm := ⟨fun _ => 0, fun _ => none⟩

def criteriaQuery (criterion : List (String × Json)) : JsonObject :=
  ⟨[("searchType", .str "searchCriteria_"), ("searchCriteria", .arr [.obj criterion])]⟩

def beforeFive : List (String × Json) :=
  [("field", .str "size"), ("searchType", .str "beforeRange"), ("values", .arr [.num "5"])]

theorem query_validation_exact_before :
    AnswersRight (answering (.ok ())) truncating (criteriaQuery beforeFive) ∧
      SettlesRight (answering (.ok ())) [.obj beforeFive]
        ((validateSearchCriteria (answering (.ok ())) truncating (criteriaQuery beforeFive)).runOn .pending).2 := by
  obtain ⟨answers, settles⟩ := query_validation_exact (answering (.ok ())) truncating (criteriaQuery beforeFive)
    [.obj beforeFive]
  have ofType : OfType (.obj beforeFive) ⟨beforeFive⟩ "beforeRange" := ⟨rfl, rfl⟩
  have known : KnownType (.obj beforeFive) := ⟨_, _, ofType, by decide⟩
  have passes : PassesSchema (answering (.ok ())) (.obj beforeFive) := ⟨_, _, ofType, rfl⟩
  have right : RightValues truncating (.obj beforeFive) :=
    ⟨_, _, ofType, .inr ⟨[.num "5"], rfl, by decide, by simp, by simp⟩⟩
  have array : (criteriaQuery beforeFive).getJsonArray "searchCriteria" = .ok (some [.obj beforeFive]) := rfl
  constructor
  · refine answers.mpr ⟨"searchCriteria_", rfl, ?_, fun _ => ⟨_, array, ?_⟩, ?_, ?_⟩
    · exact fun named => absurd named (by decide)
    · simpa using ⟨known, passes, right⟩
    · exact fun named => absurd named (by decide)
    · exact fun windowed => absurd windowed (by decide)
  · refine (settles array).mpr (.inr ⟨by simpa using ⟨known, passes⟩, ?_⟩)
    exact firstWithout_of_forall (by simpa using right)

def termCriterion : List (String × Json) := [("searchType", .str "term")]

def negativeLimit : JsonObject := ⟨[("limit", .num "-5"), ("offset", .num "10")]⟩

theorem negativeLimit_accepted :
    (validateSearchQuery (answering (.ok ())) truncating negativeLimit).runOn .pending = (.ok (), .completed ()) := by
  have limit : getInteger truncating negativeLimit "limit" 0 = .ok (-5) := by
    have written : (-5 : Int).repr = "-5" := by decide
    have read : "-5".toInt? = some (-5) := by rw [← written, Int.toInt?_repr]
    have given : negativeLimit.get? "limit" = some (.num "-5") := rfl
    simp only [getInteger, given, intValue, read]
    rfl
  have offset : getInteger truncating negativeLimit "offset" 0 = .ok 10 := by
    have read : "10".toInt? = some 10 := Int.toInt?_repr 10
    have given : negativeLimit.get? "offset" = some (.num "10") := rfl
    simp only [getInteger, given, intValue, read]
    rfl
  have window : checkWindow truncating negativeLimit = pure () := by
    simp only [checkWindow, limit, offset]
    rfl
  simp only [validateSearchQuery, window]
  rfl

theorem not_passesSchema_term : ¬PassesSchema (answering (.error "failing")) (.obj termCriterion) := by
  rintro ⟨criterion, searchType, ⟨cast, named⟩, passed⟩
  cases cast
  cases named
  cases passed

/-- A criterion that fails its schema leaves its promise pending and the query
accepted; a text search that fails its schema throws; a negative limit is
accepted. -/
theorem failing_criterion_accepted :
    ¬AnswersRight (answering (.error "failing")) truncating (criteriaQuery termCriterion) ∧
      ¬SettlesRight (answering (.error "failing")) [.obj termCriterion]
        ((validateSearchCriteria (answering (.error "failing")) truncating (criteriaQuery termCriterion)).runOn
          .pending).2 ∧
      (validateSearchCriteria (answering (.error "failing")) truncating (criteriaQuery termCriterion)).runOn .pending =
        (.ok (), .pending) ∧
      (validateSearchQuery (answering (.error "failing")) truncating (criteriaQuery termCriterion)).runOn .pending =
        (.ok (), .completed ()) ∧
      ((validateSearchQuery (answering (.error "failing")) truncating ⟨[("searchType", .str "textSearch_")]⟩).runOn
        .pending).1 = .error .illegalState ∧
      (validateSearchQuery (answering (.ok ())) truncating negativeLimit).runOn .pending = (.ok (), .completed ()) := by
  refine ⟨fun right => ?_, not_settlesRight_pending, rfl, rfl, rfl, negativeLimit_accepted⟩
  obtain ⟨searchType, given, valid⟩ := answersRight_iff.mp right
  cases given
  obtain ⟨criteria, array, each⟩ := valid.criteria (by decide)
  cases array
  exact not_passesSchema_term (each _ List.mem_cons_self).2.1

end Tgdex.Properties
