import Tgdex.Elastic.QueryModel

namespace Tgdex.Query

open Tgdex.Data Tgdex.Java Tgdex.Elastic

/-! # QueryDecoder and its decorators -/

structure SearchCriteriaDTO where
  field : Option String
  searchType : Option String
  values : List Json

def SearchCriteriaDTO.fromJson : Json → Except Throwable SearchCriteriaDTO
  | .obj fields => do
      let json : JsonObject := ⟨fields⟩
      let values ← nonNull (← json.getJsonArray "values")
      return ⟨json.getString "field", json.getString "searchType", values⟩
  | .null => .error .nullPointer
  | _ => .error .classCast

structure SearchCriteriaRequestDTO where
  searchCriteria : Option (List SearchCriteriaDTO)

structure TextSearchRequestDTO where
  q : Option String
  fuzzy : Option Bool
  autoComplete : Option Bool

structure AccessPolicyRequestDTO where
  sub : Option String
  myAssetsReq : Option Bool

structure InstanceFilterRequestDTO where
  instance_ : Option String

structure ResponseFilterRequestDTO where
  searchType : Option String
  search : Option Bool
  attribute_ : Option (List String)
  filter : Option (List String)

structure OrderBy where
  column : String
  direction : String

structure QueryDecoderRequestDTO where
  searchType : Option String := none
  size : Option Int := none
  page : Option Int := none
  id : Option String := none
  filter : Option (List String) := none
  textSearchRequest : Option TextSearchRequestDTO := none
  searchCriteriaRequest : Option SearchCriteriaRequestDTO := none
  accessPolicyRequest : Option AccessPolicyRequestDTO := none
  instanceFilterRequest : Option InstanceFilterRequestDTO := none
  responseFilterRequest : Option ResponseFilterRequestDTO := none
  sort : Option (List OrderBy) := none

structure QueryMap where
  filter : List QueryModel := []
  must : List QueryModel := []
  mustNot : List QueryModel := []
  should : List QueryModel := []

namespace QueryMap

variable (queryMap : QueryMap) (model : QueryModel)

def addFilter : QueryMap := { queryMap with filter := queryMap.filter ++ [model] }

def addMust : QueryMap := { queryMap with must := queryMap.must ++ [model] }

def addMustNot : QueryMap := { queryMap with mustNot := queryMap.mustNot ++ [model] }

def getBoolQuery : QueryModel where
  queryType := some .bool
  mustQueries := queryMap.must
  shouldQueries := queryMap.should
  mustNotQueries := queryMap.mustNot
  filterQueries := queryMap.filter

end QueryMap

/-- The condition for one value of a term criterion. -/
def termValueQuery (unicode : Unicode) (field value : String) : QueryModel :=
  if field = "description" || "location".toList.isPrefixOf field.toList then matchQuery field value
  else if field = "tags" then
    { queryType := some .matchPhrase, queryParameters := params [("field", field), ("value", value)] }
  else if field = "fileFormat" then
    { queryType := some .wildcard
      queryParameters := ⟨[("field", .str (field ++ ".keyword")), ("value", .str (unicode.lowerCase value)),
        ("case_insensitive", .bool true)]⟩ }
  else
    termQuery (if ".keyword".toList.isSuffixOf field.toList then field else field ++ ".keyword") value

/-- One should clause for a value; a missing field is noticed only here. -/
def termValueClause (unicode : Unicode) (field : Option String) (value : Json) : Except Throwable QueryModel := do
  let text ← toText value
  let name ← nonNull field
  return termValueQuery unicode name text

def buildTermQuery (unicode : Unicode) (field : Option String) (values : List Json) :
    Except Throwable QueryModel := do
  return shouldQuery (← values.mapM (termValueClause unicode field)) none

def buildRangeQuery (field : Option String) (operators : List (String × String)) : QueryModel where
  queryType := some .range
  queryParameters := ⟨("field", nullable field) :: (params operators).fields⟩

def valueText (values : List Json) (index : Nat) : Except Throwable String :=
  match values[index]? with
  | none => .error .indexOutOfBounds
  | some value => toText value

def isBetween (type : String) : Bool := type = "betweenRange" || type = "betweenTemporal"

def isBefore (type : String) : Bool := type = "beforeRange" || type = "beforeTemporal"

def isAfter (type : String) : Bool := type = "afterRange" || type = "afterTemporal"

def SearchCriteriaDTO.type (criterion : SearchCriteriaDTO) : String := criterion.searchType.getD "term"

def buildCriterion (unicode : Unicode) (criterion : SearchCriteriaDTO) : Except Throwable QueryModel :=
  if criterion.type = "term" then buildTermQuery unicode criterion.field criterion.values
  else if isBetween criterion.type then
    if criterion.values.length ≠ 2 then .error (.dxEs "Expected 2 values for between-type search")
    else do
      let lower ← valueText criterion.values 0
      let upper ← valueText criterion.values 1
      return buildRangeQuery criterion.field [("gte", lower), ("lte", upper)]
  else if isBefore criterion.type then do
    return buildRangeQuery criterion.field [("lt", ← valueText criterion.values 0)]
  else if isAfter criterion.type then do
    return buildRangeQuery criterion.field [("gt", ← valueText criterion.values 0)]
  else .error (.dxEs ("Unsupported searchType: " ++ criterion.type))

/-- SearchCriteriaQueryDecorator. -/
def addSearchCriteria (unicode : Unicode) (request : Option SearchCriteriaRequestDTO) (queryMap : QueryMap) :
    Except Throwable QueryMap := do
  let request ← nonNull request
  match request.searchCriteria with
  | none => return queryMap
  | some criteria =>
      if criteria.isEmpty then .error (.dxEs "Invalid Property Value: Empty searchCriteria")
      else return queryMap.addFilter (mustQuery (← criteria.mapM (buildCriterion unicode)))

def multiMatchQuery (entries : List (String × Json)) : QueryModel where
  queryType := some .multiMatch
  queryParameters := ⟨("fields", .arr [.str "label", .str "tags", .str "description"]) :: entries⟩

def fuzzyQuery (q : String) : QueryModel :=
  multiMatchQuery [("query", .str q), ("fuzziness", .str "AUTO"), ("boost", .str "1.0")]

def autoCompleteQuery (q : String) : QueryModel :=
  multiMatchQuery [("query", .str q), ("type", .str "BoolPrefix"), ("boost", .str "5.0")]

def textQuery (q : String) : QueryModel :=
  { queryType := some .text, queryParameters := params [("q", q)] }

/-- Both flags are taken from `fuzzy`. -/
def textClauses (request : TextSearchRequestDTO) (q : String) : List QueryModel :=
  let isFuzzy := request.fuzzy == some true
  let isAutoComplete := request.fuzzy == some true
  (if isFuzzy then [fuzzyQuery q] else []) ++ (if isAutoComplete then [autoCompleteQuery q] else []) ++
    (if !isFuzzy && !isAutoComplete then [textQuery q] else [])

/-- TextSearchQueryDecorator. -/
def addTextSearch (request : Option TextSearchRequestDTO) (queryMap : QueryMap) : Except Throwable QueryMap := do
  let request ← nonNull request
  match request.q with
  | none => .error (.dxEs "bad text query values")
  | some q =>
      if isBlank q then .error (.dxEs "bad text query values")
      else return queryMap.addMust (shouldQuery (textClauses request q) (some 1))

def policyQuery (policy : String) : QueryModel := matchQuery "accessPolicy" policy

def ownerQuery (sub : String) : QueryModel := matchQuery "ownerUserId" sub

def accessFilter (sub : String) : QueryModel :=
  shouldQuery [policyQuery "OPEN", policyQuery "RESTRICTED", mustQuery [policyQuery "PRIVATE", ownerQuery sub]]
    (some 1)

/-- The caller's id, when there is one. -/
def AccessPolicyRequestDTO.caller (request : AccessPolicyRequestDTO) : Option String :=
  request.sub.filter fun sub => !sub.isEmpty

/-- AccessPolicyQueryDecorator, for a request object that is not null. -/
def accessPolicyClause (request : AccessPolicyRequestDTO) (queryMap : QueryMap) : QueryMap :=
  match request.caller with
  | some sub =>
      if request.myAssetsReq == some true then queryMap.addMust (ownerQuery sub)
      else queryMap.addMust (accessFilter sub)
  | none => queryMap.addMustNot (policyQuery "PRIVATE")

def addAccessPolicy (request : Option AccessPolicyRequestDTO) (queryMap : QueryMap) :
    Except Throwable QueryMap := do
  return accessPolicyClause (← nonNull request) queryMap

/-- InstanceFilterQueryDecorator. -/
def addInstanceFilter (request : Option InstanceFilterRequestDTO) (queryMap : QueryMap) :
    Except Throwable QueryMap := do
  let request ← nonNull request
  match request.instance_.filter (fun instanceId => !instanceId.isEmpty) with
  | some instanceId => return queryMap.addFilter (termQuery "instance.keyword" instanceId)
  | none => return queryMap

def filled (fields : Option (List String)) : Option (List String) := fields.filter fun names => !names.isEmpty

/-- ResponseFilterDecorator. -/
def addResponseFilter (request : Option ResponseFilterRequestDTO) (queryMap : QueryMap) :
    Except Throwable QueryMap := do
  let request ← nonNull request
  if !request.searchType.any (matchesAround "responseFilter") then return queryMap
  else if request.search ≠ some false then
    .error (.dxEs "Operation not allowed: 'search' must be true for filtering")
  else
    match (filled request.attribute_).or (filled request.filter) with
    | none => .error (.dxEs "Missing response filter: 'attribute' or 'filter' is required")
    | some sourceFilter =>
        return queryMap.addFilter { queryType := some .bool, includeFields := some sourceFilter }

def itemTypeAiModel : String := "adex:AiModel"

def itemTypeDataBank : String := "adex:DataBank"

def itemTypeApps : String := "adex:Apps"

def buildExclusionForUnpublishedOrUnuploadedItems (itemType : String) : QueryModel :=
  mustQuery
    [termQuery "type.keyword" itemType,
     shouldQuery
      [{ queryType := some .term,
         queryParameters := ⟨[("field", .str "dataUploadStatus"), ("value", .bool false)]⟩ },
       termQuery "publishStatus.keyword" "PENDING"]
      none]

def addExclusions (queryMap : QueryMap) : QueryMap :=
  (queryMap.addMustNot (buildExclusionForUnpublishedOrUnuploadedItems itemTypeDataBank)).addMustNot
    (buildExclusionForUnpublishedOrUnuploadedItems itemTypeAiModel)

def toInt32 (value : Int) : Int := value.bmod 0x100000000

theorem toInt32_of_bounds {value : Int} (low : -0x80000000 ≤ value) (high : value < 0x80000000) :
    toInt32 value = value := by
  simp only [toInt32, Int.bmod]
  omega

def parentObjectInfoFields : List String :=
  ["type", "provider", "ownerUserId", "resourceGroup", "name", "organizationId", "shortDescription",
   "resourceServer", "resourceServerRegURL", "cos", "cos_admin"]

def buildGetParentObjectInfoQuery (request : QueryDecoderRequestDTO) : Except Throwable QueryModel := do
  let id ← nonNull request.id
  return { mustQuery [termQuery "id.keyword" id] with includeFields := some parentObjectInfoFields }

section

variable (unicode : Unicode) (request : QueryDecoderRequestDTO)

def isParentObjectInfo : Bool := request.searchType.any (equalsIgnoreCase unicode "getParentObjectInfo")

def asksFor (part : String) : Bool := request.searchType.any (matchesAround part)

/-- A decorator that is used only for search types that name it. -/
def addIf (asked : Bool) (add : QueryMap → Except Throwable QueryMap) (queryMap : QueryMap) :
    Except Throwable QueryMap :=
  if asked then add queryMap else .ok queryMap

def getQueryMap : Except Throwable QueryMap := do
  let queryMap ← addIf (asksFor request "searchCriteria") (addSearchCriteria unicode request.searchCriteriaRequest) {}
  let queryMap ← addIf (asksFor request "textSearch") (addTextSearch request.textSearchRequest) queryMap
  let queryMap ← addAccessPolicy request.accessPolicyRequest queryMap
  addIf (asksFor request "responseFilter") (addResponseFilter request.responseFilterRequest)
    (addExclusions queryMap)

def isValidQuery : Bool :=
  asksFor request "searchCriteria" || asksFor request "textSearch" || asksFor request "responseFilter"

def includeFieldsOf (filters : List QueryModel) : Option (List String) :=
  (filters.filterMap QueryModel.includeFields).getLast?

def getQueryModel : Except Throwable QueryModel :=
  if isParentObjectInfo unicode request then buildGetParentObjectInfoQuery request
  else do
    let queryMap ← getQueryMap unicode request
    if !isValidQuery request then .error (.dxEs "Invalid search query")
    else
      match request.size with
      | some size =>
          return { queries := some queryMap.getBoolQuery, limit := some size,
                   offset := request.page.map fun page => toInt32 (toInt32 (page - 1) * size) }
      | none => return { queries := some queryMap.getBoolQuery, includeFields := includeFieldsOf queryMap.filter }

def filterPaginationSize : Int := 10000

def listSize : Int := request.size.getD (toInt32 (filterPaginationSize - request.page.getD 1))

def filterAggregation (size : Int) (filter : String) : QueryModel where
  aggregationType := some .terms
  aggregationName := some filter
  aggregationParameters := ⟨[("field", .str (filter ++ ".keyword")), ("size", .num (toString size))]⟩

def listMultipleItemTypesQuery : Except Throwable QueryModel := do
  let queryMap ← addAccessPolicy request.accessPolicyRequest {}
  let queryMap ← addSearchCriteria unicode request.searchCriteriaRequest queryMap
  let queryMap ← addInstanceFilter request.instanceFilterRequest queryMap
  return { queries := some (addExclusions queryMap).getBoolQuery,
           aggregations := request.filter.map fun filters => filters.map (filterAggregation (listSize request)),
           limit := request.page.map fun _ => listSize request }

end

def buildGetItemWithNameExistsQuery (type : String) (name : Option String) : Except Throwable QueryModel := do
  let name ← nonNull name
  return mustQuery [matchQuery "type" type, matchQuery "name.keyword" name]

def getItemQueryModel (id : String) : QueryModel :=
  { queries := some (mustQuery [termQuery "id.keyword" id]) }

def setCountAggregations : QueryModel where
  aggregationType := some .terms
  aggregationName := some "results"
  aggregationParameters := params [("field", "type.keyword")]

end Tgdex.Query
