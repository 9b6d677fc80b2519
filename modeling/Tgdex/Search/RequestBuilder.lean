import Tgdex.Query.Decoder

namespace Tgdex.Search

open Tgdex.Data Tgdex.Java Tgdex.Query

/-! # PostSearchRequestBuilder -/

/-- What the builder reads of a routing context: the body, the first value of
each parameter and the subject of the user, if there is one. -/
structure RoutingContext where
  body : Option JsonObject
  size : Option String := none
  page : Option String := none
  sort : Option String := none
  subject : Option String := none

/-- `array.getList()` as a list of texts; the schemas of the bodies admit no
other items. -/
def getList (items : List Json) : Except Throwable (List String) :=
  items.mapM fun
    | .str text => .ok text
    | _ => .error .classCast

def searchTypeName (criteria text filter : Bool) : String :=
  (if criteria then "searchCriteria_" else "") ++ (if text then "textSearch_" else "") ++
    (if filter then "responseFilter_" else "")

def isFilled (array : Option (List Json)) : Bool := array.any fun items => !items.isEmpty

theorem isFilled_iff {array : Option (List Json)} :
    isFilled array = true ↔ ∃ items, array = some items ∧ items ≠ [] := by
  simp [isFilled, Option.any_eq_true]

section

variable (requestBody : JsonObject)

def asksForText : Bool := (requestBody.getString "q").any fun q => !isBlank q

def buildSearchType : Except Throwable String := do
  let criteria := isFilled (← requestBody.getJsonArray "searchCriteria")
  let filter := isFilled (← requestBody.getJsonArray "filter")
  if criteria || asksForText requestBody || filter then
    return searchTypeName criteria (asksForText requestBody) filter
  else .error (.dxBadRequest "Mandatory field(s) not provided")

def getFilters : Except Throwable (List String) :=
  if requestBody.containsKey "filter" then do getList (← nonNull (← requestBody.getJsonArray "filter"))
  else .ok []

def getTextSearchRequest : Except Throwable TextSearchRequestDTO := do
  let fuzzy ← nonNull (← requestBody.getBooleanOr "fuzzy" false)
  let autoComplete ← nonNull (← requestBody.getBooleanOr "autoComplete" false)
  return ⟨requestBody.getString "q", some fuzzy, some autoComplete⟩

def getSearchCriteriaRequest : Except Throwable (Option SearchCriteriaRequestDTO) :=
  if requestBody.containsKey "searchCriteria" then do
    let searchCriteriaArray := (← requestBody.getJsonArray "searchCriteria").getD []
    if searchCriteriaArray.isEmpty then .error (.dxBadRequest "Search criteria cannot be empty")
    else return some ⟨some (← searchCriteriaArray.mapM SearchCriteriaDTO.fromJson)⟩
  else .ok none

def getAccessPolicyRequest (isAssetSearch : Bool) (sub : Option String) : AccessPolicyRequestDTO :=
  ⟨sub, some isAssetSearch⟩

def getInstanceFilterRequest : InstanceFilterRequestDTO := ⟨requestBody.getString "instance"⟩

def getResponseFilterRequest (isCountApi : Bool) : Except Throwable ResponseFilterRequestDTO := do
  let searchType ← buildSearchType requestBody
  let attribute_ ← getList (← nonNull (← requestBody.getJsonArrayOr "attrs" []))
  let filter ← getList (← nonNull (← requestBody.getJsonArrayOr "filter" []))
  return ⟨some searchType, some isCountApi, some attribute_, some filter⟩

end

def intParameter (fallback : Int) : Option String → Except Throwable Int
  | some text => parseInt text
  | none => .ok fallback

def getSize (context : RoutingContext) : Except Throwable Int := intParameter 100 context.size

def getPage (context : RoutingContext) : Except Throwable Int := intParameter 1 context.page

def sortField (unicode : Unicode) (field : String) : String :=
  if ".keyword".toList.isSuffixOf field.toList || equalsIgnoreCase unicode field "itemCreatedAt" then field
  else field ++ ".keyword"

def sortOrder (unicode : Unicode) (item : String) : Except Throwable OrderBy :=
  match split ':' item with
  | [field, order] =>
      let direction := unicode.lowerCase (trim order)
      if direction = "asc" then .ok ⟨sortField unicode (trim field), "ASC"⟩
      else if direction = "desc" then .ok ⟨sortField unicode (trim field), "DESC"⟩
      else .error (.dxBadRequest ("Invalid sort order: " ++ direction))
  | _ => .error (.dxBadRequest ("Invalid sort format: " ++ item ++ ". Expected field:order"))

def maxSortFields : Nat := 3

def extractSortOrders (unicode : Unicode) : Option String → Except Throwable (Option (List OrderBy))
  | none => .ok none
  | some sortParam =>
      if sortParam.isEmpty then .ok (some [⟨"itemCreatedAt", "DESC"⟩])
      else
        let items := split ';' sortParam
        if items.length > maxSortFields then
          .error (.dxBadRequest ("Too many sort fields. Max allowed is " ++ toString maxSortFields))
        else do return some (← items.mapM (sortOrder unicode))

def build (unicode : Unicode) (isAssetSearch isCountApi : Bool) (context : RoutingContext) :
    Except Throwable QueryDecoderRequestDTO := do
  let requestBody ← nonNull context.body
  let searchType ← buildSearchType requestBody
  let size ← getSize context
  let page ← getPage context
  let filter ← getFilters requestBody
  let textSearchRequest ← getTextSearchRequest requestBody
  let searchCriteriaRequest ← getSearchCriteriaRequest requestBody
  let responseFilterRequest ← getResponseFilterRequest requestBody isCountApi
  let sort ← extractSortOrders unicode context.sort
  return {
    searchType := some searchType
    size := some size
    page := some page
    id := requestBody.getString "id"
    filter := some filter
    textSearchRequest := some textSearchRequest
    searchCriteriaRequest
    accessPolicyRequest := some (getAccessPolicyRequest isAssetSearch context.subject)
    instanceFilterRequest := some (getInstanceFilterRequest requestBody)
    responseFilterRequest := some responseFilterRequest
    sort }

section

variable {unicode : Unicode} {isAssetSearch isCountApi : Bool} {context : RoutingContext} {body : JsonObject}
  {request : QueryDecoderRequestDTO}

/-- The parts of a built request that the decoders read. -/
structure BuiltFrom (isAssetSearch isCountApi : Bool) (context : RoutingContext) (body : JsonObject)
    (request : QueryDecoderRequestDTO) : Prop where
  given : context.body = some body
  searchType : ∃ type, buildSearchType body = .ok type ∧ request.searchType = some type
  size : ∃ size, request.size = some size
  criteria : getSearchCriteriaRequest body = .ok request.searchCriteriaRequest
  access : request.accessPolicyRequest = some (getAccessPolicyRequest isAssetSearch context.subject)
  instance_ : request.instanceFilterRequest = some (getInstanceFilterRequest body)
  responseFilter : ∃ filter, getResponseFilterRequest body isCountApi = .ok filter ∧
    request.responseFilterRequest = some filter

theorem builtFrom_of_build (built : build unicode isAssetSearch isCountApi context = .ok request) :
    ∃ body, BuiltFrom isAssetSearch isCountApi context body request := by
  simp only [build, bind_eq_ok, nonNull_eq_ok, pure, Except.pure, Except.ok.injEq] at built
  obtain ⟨body, given, type, named, size, -, page, -, filter, -, text, -, criteria, narrowed, response, answered, sort,
    -, rfl⟩ := built
  exact ⟨body, given, ⟨type, named, rfl⟩, ⟨size, rfl⟩, narrowed, rfl, rfl, response, answered, rfl⟩

theorem parameters_of_build (built : build unicode isAssetSearch isCountApi context = .ok request) :
    ∃ body size page filter, context.body = some body ∧ getSize context = .ok size ∧ getPage context = .ok page ∧
      getFilters body = .ok filter ∧ request.size = some size ∧ request.page = some page ∧
      request.filter = some filter := by
  simp only [build, bind_eq_ok, nonNull_eq_ok, pure, Except.pure, Except.ok.injEq] at built
  obtain ⟨body, given, type, -, size, sized, page, paged, filter, named, -, -, -, -, -, -, -, -, rfl⟩ := built
  exact ⟨body, size, page, filter, given, sized, paged, named, rfl, rfl, rfl⟩

/-- The search type names exactly the parts that the body has. -/
theorem buildSearchType_eq_ok {type : String} (named : buildSearchType body = .ok type) :
    ∃ criteria filter, body.getJsonArray "searchCriteria" = .ok criteria ∧ body.getJsonArray "filter" = .ok filter ∧
      (isFilled criteria || asksForText body || isFilled filter) = true ∧
      type = searchTypeName (isFilled criteria) (asksForText body) (isFilled filter) := by
  simp only [buildSearchType, bind_eq_ok] at named
  obtain ⟨criteria, first, filter, second, named⟩ := named
  split at named
  · rename_i some_
    cases named
    exact ⟨criteria, filter, first, second, some_, rfl⟩
  · contradiction

section

variable (criteria text filter : Bool)

theorem names_searchCriteria : matchesAround "searchCriteria" (searchTypeName criteria text filter) = criteria := by
  cases criteria <;> cases text <;> cases filter <;> rfl

theorem names_textSearch : matchesAround "textSearch" (searchTypeName criteria text filter) = text := by
  cases criteria <;> cases text <;> cases filter <;> rfl

theorem names_responseFilter : matchesAround "responseFilter" (searchTypeName criteria text filter) = filter := by
  cases criteria <;> cases text <;> cases filter <;> rfl

theorem length_searchTypeName : (searchTypeName criteria text filter).toList.length ≠ "getParentObjectInfo".length := by
  cases criteria <;> cases text <;> cases filter <;> decide

end

/-- What the search type of a built request asks for. -/
structure Asks (body : JsonObject) (request : QueryDecoderRequestDTO) (criteria filter : Option (List Json)) :
    Prop where
  criteria_ : body.getJsonArray "searchCriteria" = .ok criteria
  filter_ : body.getJsonArray "filter" = .ok filter
  searchCriteria : asksFor request "searchCriteria" = isFilled criteria
  textSearch : asksFor request "textSearch" = asksForText body
  responseFilter : asksFor request "responseFilter" = isFilled filter
  valid : isValidQuery request = true

theorem asks_of_built (built : BuiltFrom isAssetSearch isCountApi context body request) :
    ∃ criteria filter, Asks body request criteria filter := by
  obtain ⟨type, named, given⟩ := built.searchType
  obtain ⟨criteria, filter, first, second, some_, rfl⟩ := buildSearchType_eq_ok named
  have searchCriteria : asksFor request "searchCriteria" = isFilled criteria := by
    rw [asksFor, given, Option.any_some, names_searchCriteria]
  have textSearch : asksFor request "textSearch" = asksForText body := by
    rw [asksFor, given, Option.any_some, names_textSearch]
  have responseFilter : asksFor request "responseFilter" = isFilled filter := by
    rw [asksFor, given, Option.any_some, names_responseFilter]
  refine ⟨criteria, filter, first, second, searchCriteria, textSearch, responseFilter, ?_⟩
  rw [isValidQuery, searchCriteria, textSearch, responseFilter, some_]

theorem getSearchCriteriaRequest_eq_ok {items : List Json} {criteria : Option SearchCriteriaRequestDTO}
    (given : body.get? "searchCriteria" = some (.arr items)) (read : getSearchCriteriaRequest body = .ok criteria) :
    items ≠ [] ∧ ∃ narrowed, items.mapM SearchCriteriaDTO.fromJson = .ok narrowed ∧ criteria = some ⟨some narrowed⟩ := by
  have array : body.getJsonArray "searchCriteria" = .ok (some items) := JsonObject.getJsonArray_eq_ok.mpr given
  have present : body.containsKey "searchCriteria" = true := by simp [JsonObject.containsKey, given]
  simp only [getSearchCriteriaRequest, present, if_true, array, bind_eq_ok, Except.ok.injEq] at read
  obtain ⟨_, rfl, read⟩ := read
  split at read
  · contradiction
  · rename_i filled
    simp only [bind_eq_ok, pure, Except.pure, Except.ok.injEq] at read
    obtain ⟨narrowed, mapped, rfl⟩ := read
    exact ⟨by simpa using filled, narrowed, mapped, rfl⟩

theorem getList_ne_nil {items : List Json} {texts : List String} (read : getList items = .ok texts)
    (nonempty : items ≠ []) : texts ≠ [] := by
  have lengths : items.length = texts.length := (mapM_eq_ok_iff.mp read).length_eq
  rw [← List.length_pos_iff] at nonempty ⊢
  omega

theorem getJsonArrayOr_of_getJsonArray {key : String} {items fallback : List Json}
    (given : body.getJsonArray key = .ok (some items)) : body.getJsonArrayOr key fallback = .ok (some items) := by
  have present : body.containsKey key = true := by
    simp [JsonObject.containsKey, JsonObject.getJsonArray_eq_ok.mp given]
  rw [JsonObject.getJsonArrayOr, present, if_pos rfl, given]

/-- The decorator accepts the filter list of a request that is not a count. -/
theorem exists_addResponseFilter {filter : Option (List Json)} {response : ResponseFilterRequestDTO}
    (given : body.getJsonArray "filter" = .ok filter) (some_ : isFilled filter = true)
    (read : getResponseFilterRequest body false = .ok response) (queryMap : QueryMap) :
    ∃ after, addResponseFilter (some response) queryMap = .ok after := by
  obtain ⟨items, rfl, nonempty⟩ := isFilled_iff.mp some_
  simp only [getResponseFilterRequest, bind_eq_ok, nonNull_eq_ok, pure, Except.pure, Except.ok.injEq,
    getJsonArrayOr_of_getJsonArray given] at read
  obtain ⟨type, -, _, -, _, rfl, attrs, -, _, rfl, _, same, texts, collected, rfl⟩ := read
  obtain rfl := Option.some.inj same
  have kept : filled (some texts) = some texts := by simp [filled, getList_ne_nil collected nonempty]
  have named : ∃ sourceFilter, (filled (some attrs)).or (filled (some texts)) = some sourceFilter := by
    rw [kept]
    cases filled (some attrs) with
    | none => exact ⟨texts, rfl⟩
    | some fields => exact ⟨fields, rfl⟩
  obtain ⟨sourceFilter, chosen⟩ := named
  simp only [addResponseFilter, nonNull, bind, Except.bind, chosen, pure, Except.pure]
  split
  · exact ⟨_, rfl⟩
  · exact ⟨_, rfl⟩

/-- No built request asks for the fields of a parent. -/
theorem ordinary_of_build (built : build unicode isAssetSearch isCountApi context = .ok request) :
    isParentObjectInfo unicode request = false := by
  obtain ⟨body, builtFrom⟩ := builtFrom_of_build built
  obtain ⟨type, named, given⟩ := builtFrom.searchType
  obtain ⟨criteria, filter, -, -, -, rfl⟩ := buildSearchType_eq_ok named
  rw [isParentObjectInfo, given, Option.any_some, Bool.eq_false_iff]
  intro same
  exact length_searchTypeName _ _ _ (length_of_equalsIgnoreCase same).symm

end

end Tgdex.Search
