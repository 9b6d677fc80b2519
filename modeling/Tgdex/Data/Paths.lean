import Mathlib.Data.List.Forall2
import Tgdex.Data.Json

namespace Tgdex.Data

/-! # What lies where in a JSON value

Two values are compared by what lies at the end of every path, so the order of
the fields of an object makes no difference. -/

inductive Step where
  | key (name : String)
  | index (position : Nat)
deriving Repr, DecidableEq

/-- A value without what lies below it. -/
inductive Shape where
  | null
  | bool (value : Bool)
  | num (literal : String)
  | str (text : String)
  | arr (length : Nat)
  | obj
deriving Repr, DecidableEq

namespace Json

def shape : Json → Shape
  | .null => .null
  | .bool value => .bool value
  | .num literal => .num literal
  | .str text => .str text
  | .arr items => .arr items.length
  | .obj _ => .obj

def child? : Json → Step → Option Json
  | .obj fields, .key name => fields.lookup name
  | .arr items, .index position => items[position]?
  | _, _ => none

def at? : Json → List Step → Option Json
  | value, [] => some value
  | value, step :: rest => (value.child? step).bind fun child => child.at? rest

theorem shape_eq_null {value : Json} : value.shape = .null ↔ value = .null := by
  cases value <;> simp [shape]

/-- The value at the end of a path, null where there is nothing. -/
def valueAt (value : Json) (path : List Step) : Json := (value.at? path).getD .null

def SameUpToNulls (left right : Json) : Prop := ∀ path, (left.valueAt path).shape = (right.valueAt path).shape

theorem valueAt_null (path : List Step) : Json.null.valueAt path = .null := by
  cases path <;> rfl

theorem valueAt_cons (value : Json) (step : Step) (rest : List Step) :
    value.valueAt (step :: rest) = ((value.child? step).getD .null).valueAt rest := by
  simp only [valueAt, at?]
  cases value.child? step with
  | none => exact (valueAt_null rest).symm
  | some child => rfl

theorem SameUpToNulls.refl (value : Json) : SameUpToNulls value value := fun _ => rfl

theorem SameUpToNulls.symm {left right : Json} (same : SameUpToNulls left right) : SameUpToNulls right left :=
  fun path => (same path).symm

theorem SameUpToNulls.trans {left middle right : Json} (first : SameUpToNulls left middle)
    (last : SameUpToNulls middle right) : SameUpToNulls left right :=
  fun path => (first path).trans (last path)

theorem sameUpToNulls_obj {left right : List (String × Json)} :
    SameUpToNulls (.obj left) (.obj right) ↔
      ∀ key, SameUpToNulls ((left.lookup key).getD .null) ((right.lookup key).getD .null) := by
  refine ⟨?_, ?_⟩
  · intro same key path
    have below := same (.key key :: path)
    rw [valueAt_cons, valueAt_cons] at below
    exact below
  · intro each path
    cases path with
    | nil => rfl
    | cons step rest =>
        rw [valueAt_cons, valueAt_cons]
        cases step with
        | key name => exact each name rest
        | index position => rfl

theorem sameUpToNulls_of_lookup {left right : List (String × Json)}
    (each : ∀ key, (left.lookup key).getD .null = (right.lookup key).getD .null) :
    SameUpToNulls (.obj left) (.obj right) :=
  sameUpToNulls_obj.mpr fun key => each key ▸ SameUpToNulls.refl _

theorem sameUpToNulls_null {value : Json} (same : SameUpToNulls value .null) : value = .null :=
  shape_eq_null.mp (same [])

/-- Every entry of the old value is in the new one, with an equal value, and
whatever else is in the new one is null. -/
def ExtendedBy (old new : Json) : Prop :=
  ∀ path, match old.at? path with
    | some value => ∃ other, new.at? path = some other ∧ other.shape = value.shape
    | none => ∀ other, new.at? path = some other → other = .null

def EntryExtended (old new : Option Json) : Prop :=
  match old with
  | some value => ∃ other, new = some other ∧ value.ExtendedBy other
  | none => ∀ other, new = some other → other = .null

theorem ExtendedBy.refl (value : Json) : value.ExtendedBy value := by
  intro path
  split
  · rename_i found here
    exact ⟨found, here, rfl⟩
  · rename_i absent
    intro other here
    rw [absent] at here
    cases here

theorem EntryExtended.refl (entry : Option Json) : EntryExtended entry entry := by
  cases entry with
  | none =>
      intro other here
      cases here
  | some value => exact ⟨value, rfl, .refl value⟩

theorem at?_cons (value : Json) (step : Step) (rest : List Step) :
    value.at? (step :: rest) = (value.child? step).bind fun child => child.at? rest := rfl

/-- One level of an extension. -/
theorem extendedBy_iff {old new : Json} :
    old.ExtendedBy new ↔ new.shape = old.shape ∧ ∀ step, EntryExtended (old.child? step) (new.child? step) := by
  refine ⟨?_, ?_⟩
  · intro extended
    refine ⟨?_, fun step => ?_⟩
    · obtain ⟨other, here, shapes⟩ := extended []
      cases here
      exact shapes
    · cases here : old.child? step with
      | none =>
          intro other there
          have below := extended [step]
          simp only [at?_cons, here, there, Option.bind_none, Option.bind_some] at below
          exact below other rfl
      | some value =>
          have below := extended [step]
          simp only [at?_cons, here, Option.bind_some] at below
          obtain ⟨other, there, -⟩ := below
          cases found : new.child? step with
          | none => simp [found] at there
          | some child =>
              refine ⟨child, rfl, fun rest => ?_⟩
              have deeper := extended (step :: rest)
              simpa only [at?_cons, here, found, Option.bind_some] using deeper
  · intro level path
    cases path with
    | nil => exact ⟨new, rfl, level.1⟩
    | cons step rest =>
        have entry := level.2 step
        rw [at?_cons, at?_cons]
        cases here : old.child? step with
        | none =>
            rw [here] at entry
            intro other there
            obtain ⟨child, found, there⟩ := Option.bind_eq_some_iff.mp there
            obtain rfl := entry child found
            cases rest with
            | nil => exact (Option.some.inj there).symm
            | cons => cases there
        | some value =>
            rw [here] at entry
            obtain ⟨child, found, extended⟩ := entry
            simpa only [found, Option.bind_some] using extended rest

theorem extendedBy_obj {old new : List (String × Json)} :
    ExtendedBy (.obj old) (.obj new) ↔ ∀ key, EntryExtended (old.lookup key) (new.lookup key) := by
  rw [extendedBy_iff]
  refine ⟨fun level key => level.2 (.key key), fun each => ⟨rfl, fun step => ?_⟩⟩
  cases step with
  | key name => exact each name
  | index position => exact .refl none

theorem extendedBy_arr {old new : List Json} :
    ExtendedBy (.arr old) (.arr new) ↔ List.Forall₂ ExtendedBy old new := by
  rw [extendedBy_iff, List.forall₂_iff_get]
  refine ⟨?_, ?_⟩
  · intro level
    have lengths : old.length = new.length := (Shape.arr.inj level.1).symm
    refine ⟨lengths, fun position left right => ?_⟩
    have entry := level.2 (.index position)
    simp only [child?, List.getElem?_eq_getElem left, List.getElem?_eq_getElem right] at entry
    obtain ⟨other, same, extended⟩ := entry
    cases same
    exact extended
  · intro each
    refine ⟨congrArg Shape.arr each.1.symm, fun step => ?_⟩
    cases step with
    | key name => exact .refl none
    | index position =>
        simp only [child?]
        by_cases left : position < old.length
        · have right : position < new.length := each.1 ▸ left
          rw [List.getElem?_eq_getElem left, List.getElem?_eq_getElem right]
          exact ⟨_, rfl, each.2 position left right⟩
        · have right : ¬position < new.length := each.1 ▸ left
          rw [List.getElem?_eq_none (Nat.le_of_not_lt left), List.getElem?_eq_none (Nat.le_of_not_lt right)]
          exact .refl none

end Json

end Tgdex.Data
