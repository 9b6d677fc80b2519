import Tgdex.Data.Paths

namespace Tgdex.Data

/-! # Encoding without empty entries

A mapper that includes only what is not empty leaves null entries and empty
texts out of every object, and keeps all items of arrays.  An empty array or
object goes as well unless `stays` says of its keys that it stays, as it does
when it is held by a class that is empty for the mapper only when it is null. -/

/-- The places at which an empty array or object stays. -/
abbrev Stays : Type := List String → Bool

def Stays.nowhere : Stays := fun _ => false

def Stays.under (stays : Stays) (key : String) : Stays := fun path => stays (key :: path)

/-- A value that no entry is written for. -/
def Json.omitted (stays : Bool) : Json → Bool
  | .null => true
  | .str text => decide (text = "")
  | .arr [] | .obj [] => !stays
  | _ => false

mutual
def Json.encoded (stays : Stays) : Json → Json
  | .arr items => .arr (encodedItems stays items)
  | .obj fields => .obj (encodedFields stays fields)
  | value => value

def encodedItems (stays : Stays) : List Json → List Json
  | [] => []
  | item :: rest => item.encoded stays :: encodedItems stays rest

/-- An object is empty when every entry of it is left out. -/
def encodedFields (stays : Stays) : List (String × Json) → List (String × Json)
  | [] => []
  | (key, value) :: rest =>
      let others := (encodedFields stays rest).filter fun field => field.1 != key
      let written := value.encoded (stays.under key)
      if written.omitted (stays [key]) then others else (key, written) :: others
end

/-- What is written for the value of a key, if anything. -/
def Stays.entry (stays : Stays) (key : String) (value : Json) : Option Json :=
  let written := value.encoded (stays.under key)
  if written.omitted (stays [key]) then none else some written

theorem lookup_filter_ne (fields : List (String × Json)) (key other : String) :
    (fields.filter fun field => field.1 != key).lookup other = if other = key then none else fields.lookup other := by
  have removed := (JsonObject.mk fields).get?_remove key other
  exact removed

theorem field_mem_of_lookup {fields : List (String × Json)} {key : String} {value : Json}
    (found : fields.lookup key = some value) : (key, value) ∈ fields := by
  obtain ⟨before, after, rfl, -⟩ := List.lookup_eq_some_iff.mp found
  simp

theorem lookup_encodedFields (stays : Stays) (fields : List (String × Json)) (key : String) :
    (encodedFields stays fields).lookup key = (fields.lookup key).bind (stays.entry key) := by
  induction fields with
  | nil => simp [encodedFields]
  | cons field rest ih =>
      obtain ⟨name, value⟩ := field
      by_cases same : key = name
      · subst same
        simp only [encodedFields, Stays.entry, List.lookup_cons_self, Option.bind_some]
        split
        · rw [lookup_filter_ne, if_pos rfl]
        · rw [List.lookup_cons_self]
      · have differs : (key == name) = false := beq_eq_false_iff_ne.mpr same
        simp only [encodedFields]
        split
        · rw [lookup_filter_ne, if_neg same, ih]
          simp only [List.lookup_cons, differs]
        · simp only [List.lookup_cons, differs]
          rw [lookup_filter_ne, if_neg same, ih]

theorem encodedItems_eq_map (stays : Stays) (items : List Json) :
    encodedItems stays items = items.map (Json.encoded stays) := by
  induction items with
  | nil => rfl
  | cons item rest ih => rw [encodedItems, ih, List.map_cons]

/-- Which entries are written does not depend on the others. -/
theorem encodedFields_filter (stays : Stays) (keep : String → Bool) (fields : List (String × Json)) :
    encodedFields stays (fields.filter fun field => keep field.1) =
      (encodedFields stays fields).filter fun field => keep field.1 := by
  induction fields with
  | nil => rfl
  | cons field rest ih =>
      obtain ⟨key, value⟩ := field
      cases kept : keep key with
      | true =>
          simp only [List.filter_cons, kept, if_true, encodedFields, ih]
          split
          · rw [List.filter_comm]
          · rw [List.filter_cons, if_pos kept, List.filter_comm]
      | false =>
          have others : ∀ fields : List (String × Json),
              (fields.filter fun field => field.1 != key).filter (fun field => keep field.1) =
                fields.filter fun field => keep field.1 := by
            intro fields
            rw [List.filter_filter]
            refine List.filter_congr fun field _ => ?_
            by_cases same : field.1 = key
            · simp [same, kept]
            · simp [same]
          simp only [List.filter_cons, kept, Bool.false_eq_true, if_false, encodedFields, ih]
          split
          · rw [others]
          · simp only [List.filter_cons, kept, Bool.false_eq_true, if_false, others]

/-- Fields of distinct keys that are each written as they are. -/
theorem encodedFields_of_kept {stays : Stays} {fields : List (String × Json)} (distinct : (fields.map Prod.fst).Nodup)
    (kept : ∀ field ∈ fields, stays.entry field.1 field.2 = some field.2) : encodedFields stays fields = fields := by
  induction fields with
  | nil => rfl
  | cons field rest ih =>
      obtain ⟨key, value⟩ := field
      obtain ⟨fresh, distinct⟩ := List.nodup_cons.mp distinct
      have tail := ih distinct fun other member => kept other (List.mem_cons_of_mem _ member)
      have others : (rest.filter fun field => field.1 != key) = rest := by
        refine List.filter_eq_self.mpr fun other member => bne_iff_ne.mpr fun same => fresh ?_
        exact List.mem_map.mpr ⟨other, member, same⟩
      have here := kept (key, value) List.mem_cons_self
      simp only [Stays.entry] at here
      split at here
      · cases here
      · rename_i written
        rw [Option.some.inj here] at written
        simp only [encodedFields, tail, others, Option.some.inj here, if_neg written]

namespace Json

/-- Induction over what lies directly below a value. -/
theorem induction_below {motive : Json → Prop} (null : motive .null) (bool : ∀ value, motive (.bool value))
    (num : ∀ literal, motive (.num literal)) (str : ∀ text, motive (.str text))
    (arr : ∀ items : List Json, (∀ item ∈ items, motive item) → motive (.arr items))
    (obj : ∀ fields : List (String × Json), (∀ field ∈ fields, motive field.2) → motive (.obj fields)) :
    ∀ value : Json, motive value
  | .null => null
  | .bool value => bool value
  | .num literal => num literal
  | .str text => str text
  | .arr items => arr items fun item _ => induction_below null bool num str arr obj item
  | .obj fields => obj fields fun field _ => induction_below null bool num str arr obj field.2
termination_by value => sizeOf value
decreasing_by
  · rename_i member
    have smaller := List.sizeOf_lt_of_mem member
    simp only [Json.arr.sizeOf_spec]
    omega
  · rename_i member
    have smaller := List.sizeOf_lt_of_mem member
    obtain ⟨key, value⟩ := field
    simp only [Prod.mk.sizeOf_spec] at smaller
    simp only [Json.obj.sizeOf_spec]
    omega

/-- Nothing is written for an entry with this value when nothing empty stays. -/
def vacant (value : Json) : Bool := (value.encoded .nowhere).omitted false

theorem vacant_of_omitted {value : Json} {stays : Bool} (omitted : value.omitted stays = true) : value.vacant = true := by
  cases value with
  | null => rfl
  | bool value => cases omitted
  | num literal => cases omitted
  | str text => exact omitted
  | arr items =>
      cases items with
      | nil => rfl
      | cons first rest => cases omitted
  | obj fields =>
      cases fields with
      | nil => rfl
      | cons first rest => cases omitted

theorem vacant_of_encoded {value : Json} (null : value.encoded .nowhere = .null) : value.vacant = true := by
  rw [vacant, null]
  rfl

private theorem encodedFields_again {fields : List (String × Json)}
    (each : ∀ field ∈ fields, ∀ stays, (field.2.encoded stays).encoded .nowhere = field.2.encoded .nowhere)
    (stays : Stays) : encodedFields .nowhere (encodedFields stays fields) = encodedFields .nowhere fields := by
  induction fields with
  | nil => rfl
  | cons field rest ih =>
      obtain ⟨key, value⟩ := field
      have again : (value.encoded (stays.under key)).encoded .nowhere = value.encoded .nowhere :=
        each (key, value) List.mem_cons_self (stays.under key)
      have tail := ih fun field member => each field (List.mem_cons_of_mem _ member)
      have others : encodedFields .nowhere ((encodedFields stays rest).filter fun field => field.1 != key) =
          (encodedFields .nowhere rest).filter fun field => field.1 != key := by
        rw [encodedFields_filter .nowhere fun name => name != key, tail]
      have below : (value.encoded (stays.under key)).encoded (Stays.nowhere.under key) =
          value.encoded (Stays.nowhere.under key) := again
      by_cases gone : (value.encoded (stays.under key)).omitted (stays [key]) = true
      · have goes : (value.encoded (Stays.nowhere.under key)).omitted (Stays.nowhere [key]) = true := by
          rw [← below]
          exact vacant_of_omitted gone
        simp only [encodedFields, if_pos gone, others, if_pos goes]
      · simp only [encodedFields, if_neg gone, others, below, List.filter_filter, Bool.and_self]

/-- A first encoding leaves out nothing that would be written where nothing empty stays. -/
theorem encoded_nowhere_encoded (value : Json) (stays : Stays) :
    (value.encoded stays).encoded .nowhere = value.encoded .nowhere := by
  induction value using induction_below generalizing stays with
  | null => rfl
  | bool value => rfl
  | num literal => rfl
  | str text => rfl
  | arr items each =>
      simp only [encoded, encodedItems_eq_map, List.map_map, Json.arr.injEq]
      exact List.map_congr_left fun item member => each item member stays
  | obj fields each => exact congrArg Json.obj (encodedFields_again each stays)

theorem entry_ne_null (stays : Stays) (key : String) (value : Json) : stays.entry key value ≠ some .null := by
  simp only [Stays.entry]
  split
  · simp
  · rename_i written
    intro same
    rw [Option.some.inj same] at written
    exact written rfl

theorem vacant_obj {fields : List (String × Json)} :
    (Json.obj fields).vacant = true ↔ ∀ key, ((encodedFields .nowhere fields).lookup key).getD .null = .null := by
  change ((Json.obj (encodedFields .nowhere fields)).omitted false = true) ↔ _
  cases written : encodedFields .nowhere fields with
  | nil => simp [omitted]
  | cons first rest =>
      refine iff_of_false (by simp [omitted]) fun null => ?_
      obtain ⟨key, value⟩ := first
      have here : (encodedFields .nowhere fields).lookup key = some value := by rw [written, List.lookup_cons_self]
      have value_null := null key
      rw [List.lookup_cons_self, Option.getD_some] at value_null
      rw [lookup_encodedFields, value_null] at here
      obtain ⟨stored, -, entry⟩ := Option.bind_eq_some_iff.mp here
      exact entry_ne_null _ _ _ entry

/-- Whether an entry is written depends on what would be written, up to nulls. -/
theorem vacant_congr {left right : Json}
    (same : SameUpToNulls (left.encoded .nowhere) (right.encoded .nowhere)) : left.vacant = right.vacant := by
  have shapes : (left.encoded .nowhere).shape = (right.encoded .nowhere).shape := same []
  cases left with
  | obj fields =>
      cases right with
      | obj others =>
          have each := sameUpToNulls_obj.mp same
          rw [Bool.eq_iff_iff, vacant_obj, vacant_obj]
          refine ⟨fun null key => ?_, fun null key => ?_⟩
          · have here := (each key).symm
            rw [null key] at here
            exact sameUpToNulls_null here
          · have here := each key
            rw [null key] at here
            exact sameUpToNulls_null here
      | _ => cases shapes
  | arr items =>
      cases right with
      | arr others =>
          have lengths : items.length = others.length := by
            simpa [encoded, encodedItems_eq_map, shape] using shapes
          cases items with
          | nil => rw [List.eq_nil_of_length_eq_zero lengths.symm]
          | cons first rest =>
              cases others with
              | nil => cases lengths
              | cons => rfl
      | _ => cases shapes
  | _ =>
      cases right <;> cases shapes
      rfl

theorem sameUpToNulls_arr {left right : List Json} :
    SameUpToNulls (.arr left) (.arr right) ↔ left.length = right.length ∧
      ∀ position : Nat, SameUpToNulls (left[position]?.getD .null) (right[position]?.getD .null) := by
  refine ⟨?_, ?_⟩
  · intro same
    refine ⟨Shape.arr.inj (same []), fun position path => ?_⟩
    have below := same (.index position :: path)
    rw [valueAt_cons, valueAt_cons] at below
    exact below
  · intro each path
    cases path with
    | nil => exact congrArg Shape.arr each.1
    | cons step rest =>
        rw [valueAt_cons, valueAt_cons]
        cases step with
        | key name => rfl
        | index position => exact each.2 position rest

/-- What is written under a key, null where nothing is. -/
def shown (value : Json) : Json := if value.vacant then .null else value.encoded .nowhere

theorem getD_lookup_encodedFields (fields : List (String × Json)) (key : String) :
    ((encodedFields .nowhere fields).lookup key).getD .null = ((fields.lookup key).getD .null).shown := by
  rw [lookup_encodedFields]
  cases fields.lookup key with
  | none => rfl
  | some value =>
      simp only [Option.bind_some, Stays.entry, shown, Option.getD_some]
      change (if value.vacant = true then none else some (value.encoded .nowhere)).getD .null = _
      split <;> rfl

theorem same_shown {left right : Json} (same : SameUpToNulls (left.encoded .nowhere) (right.encoded .nowhere)) :
    SameUpToNulls left.shown right.shown := by
  rw [shown, shown, vacant_congr same]
  split
  · exact .refl .null
  · exact same

theorem getD_getElem?_encodedItems (items : List Json) (position : Nat) :
    (encodedItems .nowhere items)[position]?.getD .null = (items[position]?.getD .null).encoded .nowhere := by
  rw [encodedItems_eq_map, List.getElem?_map]
  cases items[position]? <;> rfl

/-- Values that are the same up to nulls are written the same way. -/
theorem SameUpToNulls.encoded {left right : Json} (same : SameUpToNulls left right) :
    SameUpToNulls (left.encoded .nowhere) (right.encoded .nowhere) := by
  induction left using induction_below generalizing right with
  | null =>
      rw [sameUpToNulls_null same.symm]
      exact .refl _
  | bool value | num literal | str text =>
      have shapes := same []
      cases right <;> cases shapes
      exact .refl _
  | arr items each =>
      have shapes := same []
      cases right with
      | arr others =>
          obtain ⟨lengths, below⟩ := sameUpToNulls_arr.mp same
          refine sameUpToNulls_arr.mpr ⟨by simpa only [encodedItems_eq_map, List.length_map] using lengths, ?_⟩
          intro position
          have here := below position
          rw [getD_getElem?_encodedItems, getD_getElem?_encodedItems]
          cases found : items[position]? with
          | none =>
              rw [found, Option.getD_none] at here
              rw [sameUpToNulls_null here.symm]
              exact .refl _
          | some item =>
              rw [found] at here
              exact each item (List.mem_of_getElem? found) here
      | _ => cases shapes
  | obj fields each =>
      have shapes := same []
      cases right with
      | obj others =>
          refine sameUpToNulls_obj.mpr fun key => ?_
          have here := sameUpToNulls_obj.mp same key
          rw [getD_lookup_encodedFields, getD_lookup_encodedFields]
          refine same_shown ?_
          cases found : fields.lookup key with
          | none =>
              rw [found, Option.getD_none] at here
              rw [sameUpToNulls_null here.symm]
              exact .refl _
          | some value =>
              rw [found] at here
              exact each (key, value) (field_mem_of_lookup found) here
      | _ => cases shapes

/-- Wherever both values have an object, the new one has every key under which
the old one has something to write. -/
def CoveredBy (old new : Json) : Prop :=
  ∀ (path : List String) (oldFields newFields : List (String × Json)) (key : String),
    old.at? (path.map .key) = some (.obj oldFields) → new.at? (path.map .key) = some (.obj newFields) →
    newFields.lookup key = none → ((oldFields.lookup key).getD .null).vacant = true

theorem coveredBy_of_not_object {old new : Json} (scalar : old.isObject = false ∨ new.isObject = false) :
    old.CoveredBy new := by
  intro path oldFields newFields key oldAt newAt
  cases path with
  | nil =>
      cases oldAt
      cases newAt
      simp [isObject] at scalar
  | cons name rest =>
      rcases scalar with scalar | scalar
      · cases old <;> first | cases oldAt | cases scalar
      · cases new <;> first | cases newAt | cases scalar

/-- One level of covering. -/
theorem coveredBy_obj {old new : List (String × Json)} :
    CoveredBy (.obj old) (.obj new) ↔
      ∀ key, (new.lookup key = none → ((old.lookup key).getD .null).vacant = true) ∧
        ∀ stored, old.lookup key = some stored → ∀ value, new.lookup key = some value → stored.CoveredBy value := by
  refine ⟨?_, ?_⟩
  · intro covered key
    refine ⟨covered [] old new key rfl rfl, fun stored here value there => ?_⟩
    intro path oldFields newFields name oldAt newAt
    refine covered (key :: path) oldFields newFields name ?_ ?_
    · simpa only [List.map_cons, at?, child?, here, Option.bind_some] using oldAt
    · simpa only [List.map_cons, at?, child?, there, Option.bind_some] using newAt
  · intro each path oldFields newFields key oldAt newAt
    cases path with
    | nil =>
        cases oldAt
        cases newAt
        exact (each key).1
    | cons name rest =>
        simp only [List.map_cons, at?, child?, Option.bind_eq_some_iff] at oldAt newAt
        obtain ⟨stored, here, oldAt⟩ := oldAt
        obtain ⟨value, there, newAt⟩ := newAt
        exact (each name).2 stored here value there rest oldFields newFields key oldAt newAt

theorem merge_eq_of_not_object {old new : Json} (scalar : old.isObject = false ∨ new.isObject = false) :
    old.merge new = new := by
  rcases scalar with scalar | scalar
  · cases old <;> simp [merge, isObject] at scalar ⊢
  · exact merge_of_not_object scalar old

theorem objects_or_not (old new : Json) :
    (∃ oldFields newFields, old = .obj oldFields ∧ new = .obj newFields) ∨
      old.isObject = false ∨ new.isObject = false := by
  cases old <;> cases new <;> simp [isObject]

theorem same_shown_obj {left right : List (String × Json)} :
    SameUpToNulls (Json.obj left).shown (Json.obj right).shown ↔
      SameUpToNulls ((Json.obj left).encoded .nowhere) ((Json.obj right).encoded .nowhere) := by
  refine ⟨fun same => ?_, same_shown⟩
  cases empty : (Json.obj left).vacant <;> cases other : (Json.obj right).vacant
  · simpa only [shown, empty, other, Bool.false_eq_true, if_false] using same
  · rw [shown, shown, empty, other] at same
    cases sameUpToNulls_null same
  · rw [shown, shown, empty, other] at same
    cases sameUpToNulls_null same.symm
  · refine sameUpToNulls_obj.mpr fun key => ?_
    rw [vacant_obj.mp empty key, vacant_obj.mp other key]
    exact .refl .null

/-- A merge is written as the new value is exactly when the new value covers the old one. -/
theorem sameUpToNulls_merge_iff {old new : Json} :
    SameUpToNulls ((old.merge new).encoded .nowhere) (new.encoded .nowhere) ↔ old.CoveredBy new := by
  induction new using induction_below generalizing old with
  | null | bool _ | num _ | str _ | arr _ _ =>
      rw [merge_of_not_object rfl]
      exact iff_of_true (.refl _) (coveredBy_of_not_object (.inr rfl))
  | obj news each =>
      rcases objects_or_not old (.obj news) with ⟨olds, _, rfl, -⟩ | scalar
      · refine sameUpToNulls_obj.trans (Iff.trans ?_ coveredBy_obj.symm)
        refine forall_congr' fun key => ?_
        rw [getD_lookup_encodedFields, getD_lookup_encodedFields, lookup_mergeFields]
        cases there : news.lookup key with
        | none =>
            simp only [Option.getD_none, forall_const, reduceCtorEq, false_implies, implies_true, and_true]
            refine ⟨fun same => ?_, fun vacant => ?_⟩
            · by_contra kept
              rw [shown, if_neg kept] at same
              exact kept (vacant_of_encoded (sameUpToNulls_null same))
            · rw [shown, if_pos vacant]
              exact .refl .null
        | some value =>
            cases here : olds.lookup key with
            | none => simp [SameUpToNulls.refl]
            | some stored =>
                simp only [Option.elim_some, Option.getD_some, reduceCtorEq, false_implies, true_and,
                  Option.some.injEq, forall_eq']
                rcases objects_or_not stored value with ⟨inner, others, rfl, rfl⟩ | scalar
                · exact same_shown_obj.trans (@each (key, .obj others) (field_mem_of_lookup there) (.obj inner))
                · rw [merge_eq_of_not_object scalar]
                  exact iff_of_true (.refl _) (coveredBy_of_not_object scalar)
      · rw [merge_eq_of_not_object scalar]
        exact iff_of_true (.refl _) (coveredBy_of_not_object scalar)

end Json

namespace Stays

variable (stays : Stays) (key : String)

@[simp] theorem entry_null : stays.entry key .null = none := rfl

@[simp] theorem entry_bool (value : Bool) : stays.entry key (.bool value) = some (.bool value) := rfl

@[simp] theorem entry_num (literal : String) : stays.entry key (.num literal) = some (.num literal) := rfl

theorem entry_str (text : String) : stays.entry key (.str text) = if text = "" then none else some (.str text) := by
  by_cases empty : text = "" <;> simp [entry, Json.encoded, Json.omitted, empty]

theorem eq_of_entry_str {value : Json} {text : String} (written : stays.entry key value = some (.str text)) :
    value = .str text := by
  simp only [entry] at written
  split at written
  · cases written
  · cases value <;> cases written
    rfl

theorem encodedItems_texts {items : List Json} (texts : ∀ item ∈ items, ∃ text, item = .str text) :
    encodedItems stays items = items := by
  rw [encodedItems_eq_map]
  refine (List.map_congr_left fun item member => ?_).trans (List.map_id items)
  obtain ⟨text, rfl⟩ := texts item member
  rfl

theorem entry_arr_cons (item : Json) (rest : List Json) :
    stays.entry key (.arr (item :: rest)) = some (.arr (encodedItems (stays.under key) (item :: rest))) := rfl

theorem entry_texts {items : List Json} (some_ : items ≠ []) (texts : ∀ item ∈ items, ∃ text, item = .str text) :
    stays.entry key (.arr items) = some (.arr items) := by
  cases items with
  | nil => exact absurd rfl some_
  | cons first rest =>
      simp only [entry, Json.encoded, encodedItems_texts _ texts]
      rfl

end Stays

namespace JsonObject

variable (object : JsonObject) (stays : Stays) (key other : String)

/-- The object as it is written. -/
def encoded : JsonObject := ⟨encodedFields stays object.fields⟩

theorem get?_encoded : (object.encoded stays).get? key = (object.get? key).bind (stays.entry key) :=
  lookup_encodedFields stays object.fields key

theorem encoded_again : (object.encoded stays).encoded .nowhere = object.encoded .nowhere :=
  congrArg JsonObject.mk (Json.obj.inj (Json.encoded_nowhere_encoded (.obj object.fields) stays))

theorem remove_encoded : (object.remove key).encoded stays = (object.encoded stays).remove key :=
  congrArg JsonObject.mk (encodedFields_filter stays (fun name => name != key) object.fields)

end JsonObject

end Tgdex.Data
