import Mathlib.Data.List.Basic
import Mathlib.Data.List.Count

namespace Tgdex.Data

/-! # Boolean query trees

A query is a tree of boolean clauses over arbitrary leaf conditions.  Its
meaning is relative to a truth value for every leaf, so one query can be read
over any document type. -/

inductive BoolQuery (Leaf : Type) where
  | all
  | leaf (condition : Leaf)
  | bool (must should mustNot filter : List (BoolQuery Leaf)) (minimumShouldMatch : Option Nat)

namespace BoolQuery

variable {Leaf : Type} (truth : Leaf → Bool)

/-- How many should clauses have to hold.  Without an explicit minimum one is
needed only when nothing else is required positively. -/
def requiredShould (must should filter : List (BoolQuery Leaf)) : Option Nat → Nat
  | some minimum => minimum
  | none => if must.isEmpty && filter.isEmpty && !should.isEmpty then 1 else 0

mutual
def holds : BoolQuery Leaf → Bool
  | .all => true
  | .leaf condition => truth condition
  | .bool must should mustNot filter minimum =>
      holdsAll must && holdsAll filter && !holdsAny mustNot &&
        decide (requiredShould must should filter minimum ≤ countHolding should)

def holdsAll : List (BoolQuery Leaf) → Bool
  | [] => true
  | query :: rest => query.holds && holdsAll rest

def holdsAny : List (BoolQuery Leaf) → Bool
  | [] => false
  | query :: rest => query.holds || holdsAny rest

def countHolding : List (BoolQuery Leaf) → Nat
  | [] => 0
  | query :: rest => (if query.holds then 1 else 0) + countHolding rest
end

@[simp] theorem holdsAll_iff (queries : List (BoolQuery Leaf)) :
    holdsAll truth queries = true ↔ ∀ query ∈ queries, query.holds truth = true := by
  induction queries with
  | nil => simp [holdsAll]
  | cons query rest ih => simp [holdsAll, ih]

@[simp] theorem holdsAny_iff (queries : List (BoolQuery Leaf)) :
    holdsAny truth queries = true ↔ ∃ query ∈ queries, query.holds truth = true := by
  induction queries with
  | nil => simp [holdsAny]
  | cons query rest ih => simp [holdsAny, ih]

theorem countHolding_pos_iff (queries : List (BoolQuery Leaf)) :
    1 ≤ countHolding truth queries ↔ ∃ query ∈ queries, query.holds truth = true := by
  induction queries with
  | nil => simp [countHolding]
  | cons query rest ih =>
      cases first : query.holds truth with
      | true => simp [countHolding, first]
      | false => simp [countHolding, first, ih]

@[simp] theorem holds_leaf (condition : Leaf) : (leaf condition).holds truth = truth condition := by
  simp [holds]

theorem holds_bool_iff (must should mustNot filter : List (BoolQuery Leaf)) (minimum : Option Nat) :
    (bool must should mustNot filter minimum).holds truth = true ↔
      (∀ query ∈ must, query.holds truth = true) ∧
      (∀ query ∈ filter, query.holds truth = true) ∧
      (∀ query ∈ mustNot, query.holds truth = false) ∧
      requiredShould must should filter minimum ≤ countHolding truth should := by
  have none : (!holdsAny truth mustNot) = true ↔ ∀ query ∈ mustNot, query.holds truth = false := by
    rw [Bool.not_eq_true', Bool.eq_false_iff]
    simp
  simp [holds, and_assoc, none]

theorem holds_bool_without_should (must mustNot filter : List (BoolQuery Leaf)) :
    (bool must [] mustNot filter none).holds truth = true ↔
      (∀ query ∈ must, query.holds truth = true) ∧
      (∀ query ∈ filter, query.holds truth = true) ∧
      (∀ query ∈ mustNot, query.holds truth = false) := by
  simp [holds_bool_iff, requiredShould]

theorem holds_must_iff (must : List (BoolQuery Leaf)) :
    (bool must [] [] [] none).holds truth = true ↔ ∀ query ∈ must, query.holds truth = true := by
  simp [holds_bool_without_should]

/-- A purely disjunctive query needs one of its clauses, with or without the
explicit minimum of one. -/
theorem holds_should_iff {should : List (BoolQuery Leaf)} {minimum : Option Nat}
    (nonempty : should ≠ []) (one : minimum = none ∨ minimum = some 1) :
    (bool [] should [] [] minimum).holds truth = true ↔
      ∃ query ∈ should, query.holds truth = true := by
  have required : requiredShould [] should [] minimum = 1 := by
    rcases one with rfl | rfl <;> simp [requiredShould, nonempty]
  simp [holds_bool_iff, required, countHolding_pos_iff]

theorem holds_bool_empty : (bool [] [] [] [] none : BoolQuery Leaf).holds truth = true := by
  simp [holds_must_iff]

end BoolQuery

end Tgdex.Data
