import Tgdex.Search.RequestBuilder

namespace Tgdex.Search

open Tgdex.Data Tgdex.Java Tgdex.Query

/-! # The request bodies of searches and lists

The router checks them against docs/openapi.yaml.  These schemas are closed: a
body has no other properties. -/

def isText : Json → Bool
  | .str _ => true
  | _ => false

def isFlag : Json → Bool
  | .bool _ => true
  | _ => false

def isNumber : Json → Bool
  | .num _ => true
  | _ => false

def isOneOf (texts : List String) : Json → Bool
  | .str text => texts.contains text
  | _ => false

def isListOf (item : Json → Bool) : Json → Bool
  | .arr items => items.all item
  | _ => false

abbrev Properties := List (String × (Json → Bool))

def isClosedObject (required : List String) (properties : Properties) : Json → Bool
  | .obj fields =>
      required.all (fun name => (fields.lookup name).isSome) &&
        fields.all fun field => (properties.lookup field.1).any fun check => check field.2
  | _ => false

/-- SearchCriteria -/
def isSearchCriteria : Json → Bool :=
  isClosedObject ["field", "searchType", "values"]
    [("field", isText),
     ("searchType", isOneOf ["term", "betweenTemporal", "beforeTemporal", "afterTemporal", "betweenRange",
       "beforeRange", "afterRange"]),
     ("values", isListOf fun value => isText value || isNumber value)]

/-- TextSearchRequest -/
def textSearchProperties : Properties := [("q", isText), ("fuzzy", isFlag), ("autoComplete", isFlag)]

/-- AutocompleteFuzzyTextSearchRequest -/
def autocompleteProperties : Properties := textSearchProperties ++ [("filter", isListOf isText)]

/-- SearchCriteriaRequest -/
def searchCriteriaProperties : Properties :=
  [("searchCriteria", isListOf isSearchCriteria), ("filter", isListOf isText)]

/-- ComplexSearchRequest -/
def complexSearchProperties : Properties :=
  textSearchProperties ++ [("searchCriteria", isListOf isSearchCriteria)]

/-- The body of /search/myassets, and of /count. -/
def admitsCriteria (body : JsonObject) : Bool :=
  isClosedObject ["searchCriteria"] searchCriteriaProperties (.obj body.fields)

/-- The body of /search: one of four requests. -/
def admitsSearch (body : JsonObject) : Bool :=
  isClosedObject ["q"] textSearchProperties (.obj body.fields) || admitsCriteria body ||
    isClosedObject ["q"] autocompleteProperties (.obj body.fields) ||
    isClosedObject ["q", "searchCriteria"] complexSearchProperties (.obj body.fields)

def isListCriteria : Json → Bool :=
  isClosedObject ["searchType", "field", "values"]
    [("searchType", isText), ("field", isText), ("values", isListOf isText)]

/-- The body of /list. -/
def admitsList (body : JsonObject) : Bool :=
  isClosedObject [] [("searchCriteria", isListOf isListCriteria), ("filter", isListOf isText)] (.obj body.fields)

variable {required : List String} {properties : Properties} {fields : List (String × Json)} {body : JsonObject}

theorem closed_lookup (closed : isClosedObject required properties (.obj fields) = true) {key : String} {value : Json}
    (stored : fields.lookup key = some value) :
    ∃ check, properties.lookup key = some check ∧ check value = true := by
  simp only [isClosedObject, Bool.and_eq_true, List.all_eq_true] at closed
  have member : (key, value) ∈ fields := by
    obtain ⟨before, after, rfl, -⟩ := List.lookup_eq_some_iff.mp stored
    simp
  exact (Option.any_eq_true _ _).mp (closed.2 (key, value) member)

theorem closed_required (closed : isClosedObject required properties (.obj fields) = true) {key : String}
    (member : key ∈ required) : ∃ value, fields.lookup key = some value := by
  simp only [isClosedObject, Bool.and_eq_true, List.all_eq_true] at closed
  exact Option.isSome_iff_exists.mp (closed.1 key member)

/-- The properties of a request, by what its criteria may be. -/
def knownProperties (criterion : Json → Bool) : Properties :=
  [("q", isText), ("fuzzy", isFlag), ("autoComplete", isFlag), ("searchCriteria", isListOf criterion),
   ("filter", isListOf isText)]

/-- A body whose parts the builder can read, if it has them. -/
structure Readable (body : JsonObject) : Prop where
  criteria : body.get? "searchCriteria" = none ∨ ∃ items, body.get? "searchCriteria" = some (.arr items) ∧
    ∃ criteria, items.mapM SearchCriteriaDTO.fromJson = .ok criteria
  filter : body.get? "filter" = none ∨ ∃ names : List String, body.get? "filter" = some (.arr (names.map .str))
  fuzzy : body.get? "fuzzy" = none ∨ ∃ flag, body.get? "fuzzy" = some (.bool flag)
  autoComplete : body.get? "autoComplete" = none ∨ ∃ flag, body.get? "autoComplete" = some (.bool flag)
  attrs : body.get? "attrs" = none

theorem isFlag_iff {value : Json} : isFlag value = true ↔ ∃ flag, value = .bool flag := by
  cases value <;> simp [isFlag]

theorem isListOf_iff {item : Json → Bool} {value : Json} :
    isListOf item value = true ↔ ∃ items, value = .arr items ∧ ∀ entry ∈ items, item entry = true := by
  cases value <;> simp [isListOf]

theorem texts_of_isText {items : List Json} (texts : ∀ item ∈ items, isText item = true) :
    ∃ names : List String, items = names.map .str := by
  induction items with
  | nil => exact ⟨[], rfl⟩
  | cons item rest ih =>
      obtain ⟨first, others⟩ := List.forall_mem_cons.mp texts
      obtain ⟨names, rfl⟩ := ih others
      cases item with
      | str text => exact ⟨text :: names, rfl⟩
      | _ => cases first

theorem exists_fromJson {item : Json} {values : Json → Bool}
    (closed : isClosedObject required properties item = true) (needed : "values" ∈ required)
    (checked : properties.lookup "values" = some (isListOf values)) :
    ∃ criterion, SearchCriteriaDTO.fromJson item = .ok criterion := by
  cases item with
  | obj fields =>
      obtain ⟨value, stored⟩ := closed_required closed needed
      obtain ⟨check, named, valid⟩ := closed_lookup closed stored
      obtain rfl := Option.some.inj (checked.symm.trans named)
      obtain ⟨items, rfl, -⟩ := isListOf_iff.mp valid
      have read : JsonObject.getJsonArray ⟨fields⟩ "values" = .ok (some items) :=
        JsonObject.getJsonArray_eq_ok.mpr stored
      simp only [SearchCriteriaDTO.fromJson, read, bind, Except.bind, nonNull, pure, Except.pure]
      exact ⟨_, rfl⟩
  | _ => cases closed

theorem readable_of_closed (criterion : Json → Bool)
    (closed : isClosedObject required properties (.obj body.fields) = true)
    (known : ∀ property ∈ properties, property ∈ knownProperties criterion)
    (read : ∀ item, criterion item = true → ∃ narrowed, SearchCriteriaDTO.fromJson item = .ok narrowed) :
    Readable body := by
  have checked : ∀ key check, (∀ other, (key, other) ∈ knownProperties criterion → other = check) →
      body.get? key = none ∨ ∃ value, body.get? key = some value ∧ check value = true := by
    intro key check only
    cases stored : body.get? key with
    | none => exact .inl rfl
    | some value =>
        obtain ⟨other, named, valid⟩ := closed_lookup closed stored
        obtain ⟨before, after, rfl, -⟩ := List.lookup_eq_some_iff.mp named
        obtain rfl := only other (known _ (by simp))
        exact .inr ⟨value, rfl, valid⟩
  have flagged : ∀ key, (∀ other, (key, other) ∈ knownProperties criterion → other = isFlag) →
      body.get? key = none ∨ ∃ flag, body.get? key = some (.bool flag) := by
    intro key only
    refine (checked key isFlag only).imp_right fun shown => ?_
    obtain ⟨value, stored, valid⟩ := shown
    obtain ⟨flag, rfl⟩ := isFlag_iff.mp valid
    exact ⟨flag, stored⟩
  refine ⟨?_, ?_, flagged "fuzzy" (by simp [knownProperties]), flagged "autoComplete" (by simp [knownProperties]), ?_⟩
  · refine (checked "searchCriteria" (isListOf criterion) (by simp [knownProperties])).imp_right fun shown => ?_
    obtain ⟨value, stored, valid⟩ := shown
    obtain ⟨items, rfl, criteria⟩ := isListOf_iff.mp valid
    exact ⟨items, stored, exists_mapM_eq_ok fun item inside => read item (criteria item inside)⟩
  · refine (checked "filter" (isListOf isText) (by simp [knownProperties])).imp_right fun shown => ?_
    obtain ⟨value, stored, valid⟩ := shown
    obtain ⟨items, rfl, texts⟩ := isListOf_iff.mp valid
    obtain ⟨names, rfl⟩ := texts_of_isText texts
    exact ⟨names, stored⟩
  · -- No schema names it.
    rcases checked "attrs" (fun _ => false) (by simp [knownProperties]) with absent | ⟨value, -, never⟩
    · exact absent
    · contradiction

theorem exists_fromJson_of_isSearchCriteria (item : Json) (criterion : isSearchCriteria item = true) :
    ∃ narrowed, SearchCriteriaDTO.fromJson item = .ok narrowed :=
  exists_fromJson criterion (by simp) rfl

theorem readable_of_admitsCriteria (admitted : admitsCriteria body = true) : Readable body :=
  readable_of_closed isSearchCriteria admitted (by simp [searchCriteriaProperties, knownProperties])
    exists_fromJson_of_isSearchCriteria

theorem readable_of_admitsSearch (admitted : admitsSearch body = true) : Readable body := by
  have read := exists_fromJson_of_isSearchCriteria
  simp only [admitsSearch, Bool.or_eq_true] at admitted
  rcases admitted with ((text | criteria) | autocomplete) | complex
  · exact readable_of_closed _ text (by simp [textSearchProperties, knownProperties]) read
  · exact readable_of_admitsCriteria criteria
  · exact readable_of_closed _ autocomplete
      (by simp [autocompleteProperties, textSearchProperties, knownProperties]) read
  · exact readable_of_closed _ complex (by simp [complexSearchProperties, textSearchProperties, knownProperties]) read

theorem readable_of_admitsList (admitted : admitsList body = true) : Readable body :=
  readable_of_closed isListCriteria admitted (by simp [knownProperties])
    fun _ criterion => exists_fromJson criterion (by simp) rfl

end Tgdex.Search
