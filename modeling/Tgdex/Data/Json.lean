import Mathlib.Data.List.Basic

namespace Tgdex.Data

/-! # JSON values

Objects are field lists read through the first field of a key, which is how a
parsed document with unique keys behaves.  A number keeps its literal, so no
arithmetic on it is implied. -/

inductive Json where
  | null
  | bool (value : Bool)
  | num (literal : String)
  | str (text : String)
  | arr (items : List Json)
  | obj (fields : List (String × Json))
deriving Repr, BEq, Inhabited

def putField (fields : List (String × Json)) (key : String) (value : Json) :
    List (String × Json) :=
  match fields with
  | [] => [(key, value)]
  | (name, old) :: rest =>
      if name = key then (name, value) :: rest
      else (name, old) :: putField rest key value

theorem lookup_putField (fields : List (String × Json)) (key other : String) (value : Json) :
    (putField fields key value).lookup other =
      if other = key then some value else fields.lookup other := by
  induction fields with
  | nil =>
      by_cases same : other = key
      · simp [putField, same]
      · have differs : (other == key) = false := beq_eq_false_iff_ne.mpr same
        simp [putField, List.lookup_cons, same, differs]
  | cons field rest ih =>
      obtain ⟨name, old⟩ := field
      by_cases here : name = key
      · subst here
        by_cases same : other = name
        · simp [putField, same]
        · have differs : (other == name) = false := beq_eq_false_iff_ne.mpr same
          simp [putField, List.lookup_cons, same, differs]
      · by_cases same : other = name
        · subst same
          simp [putField, here]
        · have differs : (other == name) = false := beq_eq_false_iff_ne.mpr same
          simp only [putField, here, if_false, List.lookup_cons, differs, ih]

mutual
/-- Recursive merge of a partial document: objects are merged field by field,
everything else is replaced. -/
def Json.merge : Json → Json → Json
  | .obj old, .obj new => .obj (mergeFields old new)
  | _, new => new

def mergeFields (old : List (String × Json)) : List (String × Json) → List (String × Json)
  | [] => old
  | (key, value) :: rest =>
      putField (mergeFields old rest) key ((old.lookup key).elim value (fun stored => stored.merge value))
end

theorem lookup_mergeFields (old new : List (String × Json)) (key : String) :
    (mergeFields old new).lookup key =
      match new.lookup key with
      | none => old.lookup key
      | some value => some ((old.lookup key).elim value (fun stored => stored.merge value)) := by
  induction new with
  | nil => simp [mergeFields]
  | cons field rest ih =>
      obtain ⟨name, value⟩ := field
      by_cases same : key = name
      · subst same
        simp [mergeFields, lookup_putField]
      · have differs : (key == name) = false := beq_eq_false_iff_ne.mpr same
        simp only [mergeFields, lookup_putField, same, if_false, List.lookup_cons, differs, ih]

def Json.isObject : Json → Bool
  | .obj _ => true
  | _ => false

theorem Json.merge_of_not_object {new : Json} (scalar : new.isObject = false) (old : Json) :
    old.merge new = new := by
  cases new with
  | obj fields => simp [Json.isObject] at scalar
  | _ => cases old <;> simp [Json.merge]

structure JsonObject where
  fields : List (String × Json)
deriving Repr, BEq, Inhabited

namespace JsonObject

variable (object : JsonObject) (key other : String) (value : Json)

def empty : JsonObject := ⟨[]⟩

def get? : Option Json := object.fields.lookup key

def containsKey : Bool := (object.get? key).isSome

/-- The value of a key, unless it is null. -/
def given? : Option Json :=
  match object.get? key with
  | some .null => none
  | found => found

def put : JsonObject := ⟨putField object.fields key value⟩

def remove : JsonObject := ⟨object.fields.filter fun field => field.1 != key⟩

def without (keys : List String) : JsonObject :=
  ⟨object.fields.filter fun field => !keys.contains field.1⟩

/-- Shallow union: the fields of `extra` replace those of the same key. -/
def mergeIn (extra : JsonObject) : JsonObject :=
  ⟨extra.fields.foldr (fun field fields => putField fields field.1 field.2) object.fields⟩

def mergeDeep (partialDoc : JsonObject) : JsonObject :=
  ⟨mergeFields object.fields partialDoc.fields⟩

theorem get?_put :
    (object.put key value).get? other = if other = key then some value else object.get? other :=
  lookup_putField object.fields key other value

@[simp] theorem get?_put_self : (object.put key value).get? key = some value := by
  simp [get?_put]

theorem get?_put_other {key other : String} (differs : other ≠ key) :
    (object.put key value).get? other = object.get? other := by
  simp [get?_put, differs]

private theorem lookup_filter_key (keep : String → Bool) (fields : List (String × Json)) (name : String) :
    (fields.filter fun field => keep field.1).lookup name =
      if keep name then fields.lookup name else none := by
  induction fields with
  | nil => simp
  | cons field rest ih =>
      obtain ⟨first, stored⟩ := field
      by_cases same : name = first
      · subst same
        by_cases kept : keep name <;> simp [kept, ih]
      · have differs : (name == first) = false := beq_eq_false_iff_ne.mpr same
        by_cases kept : keep first <;>
          simp only [List.filter_cons, kept, if_true, if_false, Bool.false_eq_true,
            List.lookup_cons, differs, ih]

theorem get?_remove :
    (object.remove key).get? other = if other = key then none else object.get? other := by
  have filtered : (object.remove key).get? other =
      if other != key then object.fields.lookup other else none :=
    lookup_filter_key (fun name => name != key) object.fields other
  rw [filtered]
  by_cases same : other = key <;> simp [same, get?]

theorem get?_without (keys : List String) :
    (object.without keys).get? key = if keys.contains key then none else object.get? key := by
  have filtered : (object.without keys).get? key =
      if !keys.contains key then object.fields.lookup key else none :=
    lookup_filter_key (fun name => !keys.contains name) object.fields key
  rw [filtered]
  cases keys.contains key <;> simp [get?]

theorem get?_mergeIn (extra : JsonObject) :
    (object.mergeIn extra).get? key = (extra.get? key).or (object.get? key) := by
  obtain ⟨fields⟩ := extra
  induction fields with
  | nil => simp [mergeIn, get?]
  | cons field rest ih =>
      obtain ⟨name, stored⟩ := field
      have step : (object.mergeIn ⟨(name, stored) :: rest⟩).get? key =
          if key = name then some stored else (object.mergeIn ⟨rest⟩).get? key :=
        lookup_putField _ name key stored
      by_cases same : key = name
      · subst same
        rw [step, if_pos rfl]
        simp [get?]
      · have differs : (key == name) = false := beq_eq_false_iff_ne.mpr same
        rw [step, if_neg same, ih]
        simp [get?, List.lookup_cons, differs]

theorem get?_mergeDeep (partialDoc : JsonObject) :
    (object.mergeDeep partialDoc).get? key =
      match partialDoc.get? key with
      | none => object.get? key
      | some value => some ((object.get? key).elim value (fun stored => stored.merge value)) :=
  lookup_mergeFields object.fields partialDoc.fields key

theorem get?_mergeDeep_scalar {partialDoc : JsonObject} {key : String} {value : Json}
    (given : partialDoc.get? key = some value) (scalar : value.isObject = false) :
    (object.mergeDeep partialDoc).get? key = some value := by
  rw [get?_mergeDeep, given]
  cases object.get? key with
  | none => rfl
  | some stored => simp [Json.merge_of_not_object scalar]

theorem given?_eq_some : object.given? key = some value ↔ value ≠ .null ∧ object.get? key = some value := by
  simp only [given?]
  split
  · rename_i null
    simp only [null, reduceCtorEq, Option.some.injEq, false_iff, not_and]
    exact fun proper same => proper same.symm
  · rename_i proper
    refine ⟨fun found => ⟨?_, found⟩, fun found => found.2⟩
    intro same
    subst same
    exact proper found

def dropNulls : JsonObject := ⟨object.fields.filter fun field => (object.given? field.1).isSome⟩

theorem get?_dropNulls : object.dropNulls.get? key = object.given? key := by
  have filtered : object.dropNulls.get? key =
      if (object.given? key).isSome then object.fields.lookup key else none :=
    lookup_filter_key (fun name => (object.given? name).isSome) object.fields key
  rw [filtered]
  cases found : object.given? key with
  | none => rfl
  | some value => exact ((object.given?_eq_some key value).mp found).2

end JsonObject

end Tgdex.Data
