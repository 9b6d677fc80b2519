import Tgdex.Items.Codec

namespace Tgdex.Items

open Tgdex.Data Tgdex.Java

/-! # The fields of the item classes

The same three classes with a member for each of their fields.  A list keeps
whatever elements the document gave it. -/

/-- The fields that all classes have. -/
structure ItemFields where
  name : Option String
  type : Option (List Json)
  label : Option String
  shortDescription : Option String
  description : Option String
  tags : Option (List Json)
  accessPolicy : Option String
  organizationType : Option String
  organizationId : Option String
  industry : Option String
  department : Option String
  id : Option String
  itemStatus : Option String
  itemCreatedAt : Option String
  context : Option String

def ItemFields.read (json : JsonObject) (type tags : Option (List Json)) : ItemFields where
  name := json.getString "name"
  type
  label := json.getString "label"
  shortDescription := json.getString "shortDescription"
  description := json.getString "description"
  tags
  accessPolicy := json.getString "accessPolicy"
  organizationType := json.getString "organizationType"
  organizationId := json.getString "organizationId"
  industry := json.getString "industry"
  department := json.getString "department"
  id := json.getString "id"
  itemStatus := json.getString "itemStatus"
  itemCreatedAt := json.getString "itemCreatedAt"
  context := json.getString "@context"

def ItemFields.entries (item : ItemFields) : List (String × Json) :=
  [("name", nullable item.name), ("type", arrayOrNull item.type), ("label", nullable item.label),
   ("shortDescription", nullable item.shortDescription), ("description", nullable item.description),
   ("tags", arrayOrNull item.tags), ("accessPolicy", nullable item.accessPolicy),
   ("organizationType", nullable item.organizationType), ("organizationId", nullable item.organizationId),
   ("industry", nullable item.industry), ("department", nullable item.department), ("id", nullable item.id),
   ("itemStatus", nullable item.itemStatus), ("itemCreatedAt", nullable item.itemCreatedAt),
   ("@context", nullable item.context)]

def flagOrNull : Option Bool → Json
  | some value => .bool value
  | none => .null

structure AiModelItem extends ItemFields where
  modelType : Option String
  fileFormat : Option String
  uploadedBy : Option String
  license : Option String
  fileSize : Option String
  dataUploadStatus : Option Bool
  mediaURL : Option String
  additionalFields : JsonObject

namespace AiModelItem

def knownKeys : List String :=
  ["name", "type", "label", "shortDescription", "description", "tags", "accessPolicy", "organizationType",
   "organizationId", "industry", "department", "id", "itemStatus", "itemCreatedAt", "@context", "modelType",
   "fileFormat", "uploadedBy", "license", "fileSize", "dataUploadStatus", "mediaURL"]

def fromJson (json : JsonObject) : Except Throwable AiModelItem := do
  let type ← json.getJsonArray "type"
  let tags ← json.getJsonArray "tags"
  let dataUploadStatus ← json.getBoolean "dataUploadStatus"
  return {
    toItemFields := .read json type tags
    modelType := json.getString "modelType"
    fileFormat := json.getString "fileFormat"
    uploadedBy := json.getString "uploadedBy"
    license := json.getString "license"
    fileSize := json.getString "fileSize"
    dataUploadStatus
    mediaURL := json.getString "mediaURL"
    additionalFields := json.without knownKeys }

def known (item : AiModelItem) : JsonObject :=
  ⟨item.entries ++
    [("modelType", nullable item.modelType), ("fileFormat", nullable item.fileFormat),
     ("uploadedBy", nullable item.uploadedBy), ("license", nullable item.license),
     ("fileSize", nullable item.fileSize), ("dataUploadStatus", flagOrNull item.dataUploadStatus),
     ("mediaURL", nullable item.mediaURL)]⟩

def toJson (item : AiModelItem) : JsonObject := item.known.mergeIn item.additionalFields

end AiModelItem

structure DataBankItem extends ItemFields where
  fileFormat : Option String
  geoCoverage : Option String
  yearRange : Option String
  verifiedBy : Option String
  uploadFrequency : Option String
  license : Option String
  uploadedBy : Option String
  dataUploadStatus : Option Bool
  mediaURL : Option String
  additionalFields : JsonObject

namespace DataBankItem

def knownFields : List String :=
  ["name", "type", "label", "shortDescription", "description", "tags", "accessPolicy", "organizationType",
   "organizationId", "industry", "department", "id", "itemStatus", "itemCreatedAt", "@context", "fileFormat",
   "geoCoverage", "yearRange", "verifiedBy", "uploadFrequency", "license", "uploadedBy", "dataUploadStatus",
   "mediaURL"]

def fromJson (json : JsonObject) : Except Throwable DataBankItem := do
  let type ← json.getJsonArray "type"
  let tags ← json.getJsonArray "tags"
  let dataUploadStatus ← json.getBoolean "dataUploadStatus"
  return {
    toItemFields := .read json type tags
    fileFormat := json.getString "fileFormat"
    geoCoverage := json.getString "geoCoverage"
    yearRange := json.getString "yearRange"
    verifiedBy := json.getString "verifiedBy"
    uploadFrequency := json.getString "uploadFrequency"
    license := json.getString "license"
    uploadedBy := json.getString "uploadedBy"
    dataUploadStatus
    mediaURL := json.getString "mediaURL"
    additionalFields := json.without knownFields }

def known (item : DataBankItem) : JsonObject :=
  ⟨item.entries ++
    [("fileFormat", nullable item.fileFormat), ("geoCoverage", nullable item.geoCoverage),
     ("yearRange", nullable item.yearRange), ("verifiedBy", nullable item.verifiedBy),
     ("uploadFrequency", nullable item.uploadFrequency), ("license", nullable item.license),
     ("uploadedBy", nullable item.uploadedBy), ("dataUploadStatus", flagOrNull item.dataUploadStatus),
     ("mediaURL", nullable item.mediaURL)]⟩

def toJson (item : DataBankItem) : JsonObject := item.known.mergeIn item.additionalFields

end DataBankItem

inductive SubSection where
  | mk (subtitle content : Option String) (points : Option (List Json)) (subsections : Option (List SubSection))

structure Section where
  title : Option String
  content : Option String
  points : Option (List Json)
  subsections : Option (List SubSection)

mutual
def SubSection.toJson : SubSection → Json
  | .mk subtitle content points subsections =>
      .obj ([("subtitle", nullable subtitle), ("content", nullable content), ("points", arrayOrNull points)] ++
        (subsectionsJson subsections).toList.map fun items => ("subsections", .arr items))

def subsectionsJson : Option (List SubSection) → Option (List Json)
  | none => none
  | some list => some (toSubSectionJsonArray list)

def toSubSectionJsonArray : List SubSection → List Json
  | [] => []
  | ss :: rest => ss.toJson :: toSubSectionJsonArray rest
end

def Section.toJson (s : Section) : Json :=
  .obj ([("title", nullable s.title), ("content", nullable s.content), ("points", arrayOrNull s.points)] ++
    (subsectionsJson s.subsections).toList.map fun items => ("subsections", .arr items))

mutual
def parseSubSection : Json → Except Throwable SubSection
  | .obj fields => do
      let json : JsonObject := ⟨fields⟩
      let points ← json.getJsonArray "points"
      let subsections ← subsectionsIn fields
      return .mk (json.getString "subtitle") (json.getString "content") points subsections
  | .null => .error .nullPointer
  | _ => .error .classCast

/-- The value of the first key "subsections", if there is one. -/
def subsectionsIn : List (String × Json) → Except Throwable (Option (List SubSection))
  | [] => .ok none
  | (key, value) :: rest => if key = "subsections" then some <$> subsectionList value else subsectionsIn rest

def subsectionList : Json → Except Throwable (List SubSection)
  | .arr items => parseSubSections items
  | .null => .error .nullPointer
  | _ => .error .classCast

def parseSubSections : List Json → Except Throwable (List SubSection)
  | [] => .ok []
  | item :: rest => do return (← parseSubSection item) :: (← parseSubSections rest)
end

def parseSection : Json → Except Throwable Section
  | .obj fields => do
      let json : JsonObject := ⟨fields⟩
      let points ← json.getJsonArray "points"
      let subsections ← subsectionsIn fields
      return ⟨json.getString "title", json.getString "content", points, subsections⟩
  | .null => .error .nullPointer
  | _ => .error .classCast

def parseSections : Json → Except Throwable (List Section)
  | .arr items => items.mapM parseSection
  | .null => .error .nullPointer
  | _ => .error .classCast

structure AppsItem extends ItemFields where
  sections : Option (List Section)
  additionalProperties : JsonObject

namespace AppsItem

def knownFields : List String :=
  ["name", "type", "label", "shortDescription", "description", "tags", "accessPolicy", "organizationType",
   "organizationId", "industry", "department", "id", "itemStatus", "itemCreatedAt", "@context", "sections"]

def sectionsIn (json : JsonObject) : Except Throwable (Option (List Section)) :=
  match json.get? "sections" with
  | none => .ok none
  | some value => some <$> parseSections value

def fromJson (json : JsonObject) : Except Throwable AppsItem := do
  let type ← nonNull (← json.getJsonArray "type")
  let tags ← nonNull (← json.getJsonArray "tags")
  let sections ← sectionsIn json
  return { toItemFields := .read json (some type) (some tags), sections, additionalProperties := json.without knownFields }

def known (item : AppsItem) : JsonObject :=
  ⟨item.entries ++ item.sections.toList.map fun sections => ("sections", .arr (sections.map Section.toJson))⟩

def toJson (item : AppsItem) : JsonObject := item.known.mergeIn item.additionalProperties

end AppsItem

theorem getJsonArray_arrayOrNull {object : JsonObject} {key : String} {items : Option (List Json)}
    (stored : object.get? key = some (arrayOrNull items)) : object.getJsonArray key = .ok items := by
  cases items <;> simp [JsonObject.getJsonArray, stored, arrayOrNull]

theorem getBoolean_flagOrNull {object : JsonObject} {key : String} {flag : Option Bool}
    (stored : object.get? key = some (flagOrNull flag)) : object.getBoolean key = .ok flag := by
  cases flag <;> simp [JsonObject.getBoolean, stored, flagOrNull]

mutual
theorem parseSubSection_toJson : ∀ ss : SubSection, parseSubSection ss.toJson = .ok ss
  | .mk subtitle content points subsections => by
      have nested := subsectionsIn_toJson subsections
      simp only [SubSection.toJson, parseSubSection, bind_eq_ok]
      refine ⟨points, getJsonArray_arrayOrNull rfl, subsections, ?_, ?_⟩
      · simpa [subsectionsIn] using nested
      · rw [@getString_nullable _ _ subtitle rfl, @getString_nullable _ _ content rfl]
        rfl

theorem subsectionsIn_toJson : ∀ subsections : Option (List SubSection),
    subsectionsIn ((subsectionsJson subsections).toList.map fun items => ("subsections", .arr items)) = .ok subsections
  | none => by simp [subsectionsJson, subsectionsIn]
  | some list => by
      simp [subsectionsJson, subsectionsIn, subsectionList, parseSubSections_toJson list]

theorem parseSubSections_toJson : ∀ list : List SubSection, parseSubSections (toSubSectionJsonArray list) = .ok list
  | [] => rfl
  | ss :: rest => by
      simp [toSubSectionJsonArray, parseSubSections, parseSubSection_toJson ss, parseSubSections_toJson rest, pure,
        Except.pure, bind, Except.bind]
end

theorem parseSection_toJson (s : Section) : parseSection s.toJson = .ok s := by
  have nested := subsectionsIn_toJson s.subsections
  simp only [Section.toJson, parseSection, bind_eq_ok]
  refine ⟨s.points, getJsonArray_arrayOrNull rfl, s.subsections, ?_, ?_⟩
  · simpa [subsectionsIn] using nested
  · rw [@getString_nullable _ _ s.title rfl, @getString_nullable _ _ s.content rfl]
    rfl

theorem parseSections_toJson (sections : List Section) :
    parseSections (.arr (sections.map Section.toJson)) = .ok sections := by
  simp only [parseSections, mapM_eq_ok_iff, List.forall₂_map_left_iff, parseSection_toJson, Except.ok.injEq,
    List.forall₂_eq_eq_eq]

section

variable {known extra : JsonObject} {key : String}

theorem get?_mergeIn_known (unused : extra.get? key = none) : (known.mergeIn extra).get? key = known.get? key := by
  rw [JsonObject.get?_mergeIn, unused, Option.none_or]

theorem get?_mergeIn_extra {keys : List String} (unused : ∀ key ∈ keys, extra.get? key = none)
    (absent : ∀ key, key ∉ keys → known.get? key = none) (key : String) :
    ((known.mergeIn extra).without keys).get? key = extra.get? key := by
  rw [JsonObject.get?_without]
  by_cases used : key ∈ keys
  · rw [if_pos (List.contains_iff_mem.mpr used), unused key used]
  · rw [if_neg (by simpa using used), JsonObject.get?_mergeIn, absent key used, Option.or_none]

end

theorem lookup_absent {entries : List (String × Json)} {key : String} (absent : key ∉ entries.map Prod.fst) :
    entries.lookup key = none := by
  induction entries with
  | nil => rfl
  | cons entry rest ih =>
      obtain ⟨name, value⟩ := entry
      simp only [List.map_cons, List.mem_cons, not_or] at absent
      rw [List.lookup_cons, beq_eq_false_iff_ne.mpr absent.1]
      exact ih absent.2

/-- The object gives the common keys the values that the fields are written as. -/
def ItemFields.WrittenIn (item : ItemFields) (json : JsonObject) : Prop :=
  ∀ key ∈ item.entries.map Prod.fst, json.get? key = item.entries.lookup key

theorem ItemFields.read_eq {item : ItemFields} {json : JsonObject} (written : item.WrittenIn json) :
    .read json item.type item.tags = item := by
  have text : ∀ key text, key ∈ item.entries.map Prod.fst → item.entries.lookup key = some (nullable text) →
      json.getString key = text :=
    fun key text member stored => getString_nullable ((written key member).trans stored)
  simp only [ItemFields.read, text "name" item.name (by simp [entries]) rfl,
    text "label" item.label (by simp [entries]) rfl,
    text "shortDescription" item.shortDescription (by simp [entries]) rfl,
    text "description" item.description (by simp [entries]) rfl,
    text "accessPolicy" item.accessPolicy (by simp [entries]) rfl,
    text "organizationType" item.organizationType (by simp [entries]) rfl,
    text "organizationId" item.organizationId (by simp [entries]) rfl,
    text "industry" item.industry (by simp [entries]) rfl,
    text "department" item.department (by simp [entries]) rfl, text "id" item.id (by simp [entries]) rfl,
    text "itemStatus" item.itemStatus (by simp [entries]) rfl,
    text "itemCreatedAt" item.itemCreatedAt (by simp [entries]) rfl,
    text "@context" item.context (by simp [entries]) rfl]

theorem ItemFields.WrittenIn.types {item : ItemFields} {json : JsonObject} (written : item.WrittenIn json) :
    json.getJsonArray "type" = .ok item.type ∧ json.getJsonArray "tags" = .ok item.tags :=
  ⟨getJsonArray_arrayOrNull ((written "type" (by simp [entries])).trans rfl),
    getJsonArray_arrayOrNull ((written "tags" (by simp [entries])).trans rfl)⟩

/-- An object that is put together of the fields, other entries and extra ones. -/
theorem ItemFields.writtenIn_mergeIn (item : ItemFields) {others : List (String × Json)} {extra : JsonObject}
    (unused : ∀ key ∈ item.entries.map Prod.fst, extra.get? key = none) :
    item.WrittenIn ((JsonObject.mk (item.entries ++ others)).mergeIn extra) := by
  intro key member
  have here : (item.entries.lookup key).isSome = true := by
    simp only [entries, List.map_cons, List.map_nil, List.mem_cons, List.not_mem_nil, or_false] at member
    rcases member with rfl | rfl | rfl | rfl | rfl | rfl | rfl | rfl | rfl | rfl | rfl | rfl | rfl | rfl | rfl <;> rfl
  rw [get?_mergeIn_known (unused key member), JsonObject.get?, List.lookup_append]
  exact Option.or_eq_left_of_isSome here

theorem getString_mergeIn {known extra : JsonObject} {key : String} {text : Option String}
    (unused : extra.get? key = none) (stored : known.get? key = some (nullable text)) :
    (known.mergeIn extra).getString key = text :=
  getString_nullable ((get?_mergeIn_known unused).trans stored)

theorem AiModelItem.fromJson_toJson (item : AiModelItem)
    (unused : ∀ key ∈ AiModelItem.knownKeys, item.additionalFields.get? key = none) :
    AiModelItem.fromJson item.toJson =
      .ok { item with additionalFields := item.toJson.without AiModelItem.knownKeys } := by
  have written : item.WrittenIn item.toJson :=
    item.writtenIn_mergeIn fun key member => unused key (List.mem_append_left _ member)
  have flag : item.toJson.getBoolean "dataUploadStatus" = .ok item.dataUploadStatus :=
    getBoolean_flagOrNull ((get?_mergeIn_known (unused _ (by simp [knownKeys]))).trans rfl)
  have text : ∀ key text, key ∈ knownKeys → item.known.get? key = some (nullable text) →
      item.toJson.getString key = text := fun key text used stored => getString_mergeIn (unused key used) stored
  simp only [fromJson, bind_eq_ok]
  refine ⟨_, written.types.1, _, written.types.2, _, flag, ?_⟩
  simp only [ItemFields.read_eq written, text "modelType" item.modelType (by simp [knownKeys]) rfl,
    text "fileFormat" item.fileFormat (by simp [knownKeys]) rfl,
    text "uploadedBy" item.uploadedBy (by simp [knownKeys]) rfl,
    text "license" item.license (by simp [knownKeys]) rfl,
    text "fileSize" item.fileSize (by simp [knownKeys]) rfl,
    text "mediaURL" item.mediaURL (by simp [knownKeys]) rfl]
  rfl

theorem DataBankItem.fromJson_toJson (item : DataBankItem)
    (unused : ∀ key ∈ DataBankItem.knownFields, item.additionalFields.get? key = none) :
    DataBankItem.fromJson item.toJson =
      .ok { item with additionalFields := item.toJson.without DataBankItem.knownFields } := by
  have written : item.WrittenIn item.toJson :=
    item.writtenIn_mergeIn fun key member => unused key (List.mem_append_left _ member)
  have flag : item.toJson.getBoolean "dataUploadStatus" = .ok item.dataUploadStatus :=
    getBoolean_flagOrNull ((get?_mergeIn_known (unused _ (by simp [knownFields]))).trans rfl)
  have text : ∀ key text, key ∈ knownFields → item.known.get? key = some (nullable text) →
      item.toJson.getString key = text := fun key text used stored => getString_mergeIn (unused key used) stored
  simp only [fromJson, bind_eq_ok]
  refine ⟨_, written.types.1, _, written.types.2, _, flag, ?_⟩
  simp only [ItemFields.read_eq written, text "fileFormat" item.fileFormat (by simp [knownFields]) rfl,
    text "geoCoverage" item.geoCoverage (by simp [knownFields]) rfl,
    text "yearRange" item.yearRange (by simp [knownFields]) rfl,
    text "verifiedBy" item.verifiedBy (by simp [knownFields]) rfl,
    text "uploadFrequency" item.uploadFrequency (by simp [knownFields]) rfl,
    text "license" item.license (by simp [knownFields]) rfl,
    text "uploadedBy" item.uploadedBy (by simp [knownFields]) rfl,
    text "mediaURL" item.mediaURL (by simp [knownFields]) rfl]
  rfl

theorem AppsItem.sectionsIn_toJson (item : AppsItem) (unused : item.additionalProperties.get? "sections" = none) :
    AppsItem.sectionsIn item.toJson = .ok item.sections := by
  have stored : item.toJson.get? "sections" =
      item.sections.map fun sections => .arr (sections.map Section.toJson) := by
    rw [toJson, get?_mergeIn_known unused]
    cases sections : item.sections with
    | none =>
        simp only [known, sections]
        rfl
    | some list =>
        simp only [known, sections]
        rfl
  simp only [sectionsIn, stored]
  cases item.sections with
  | none => rfl
  | some list =>
      simp only [Option.map_some, parseSections_toJson]
      rfl

theorem AppsItem.fromJson_toJson (item : AppsItem) (type : item.type ≠ none) (tags : item.tags ≠ none)
    (unused : ∀ key ∈ AppsItem.knownFields, item.additionalProperties.get? key = none) :
    AppsItem.fromJson item.toJson =
      .ok { item with additionalProperties := item.toJson.without AppsItem.knownFields } := by
  have written : item.WrittenIn item.toJson :=
    item.writtenIn_mergeIn fun key member => unused key (List.mem_append_left _ member)
  obtain ⟨types, typed⟩ := Option.ne_none_iff_exists'.mp type
  obtain ⟨labels, tagged⟩ := Option.ne_none_iff_exists'.mp tags
  have fields := ItemFields.read_eq written
  rw [typed, tagged] at fields
  simp only [fromJson, bind_eq_ok, nonNull_eq_ok]
  refine ⟨_, written.types.1, _, typed, _, written.types.2, _, tagged, _,
    item.sectionsIn_toJson (unused _ (by simp [knownFields])), ?_⟩
  simp only [fields]
  rfl

def AiModelItem.asItem (item : AiModelItem) : Item := ⟨item.known, item.additionalFields⟩

def DataBankItem.asItem (item : DataBankItem) : Item := ⟨item.known, item.additionalFields⟩

def AppsItem.asItem (item : AppsItem) : Item := ⟨item.known, item.additionalProperties⟩

theorem aiModelItem_eq (json : JsonObject) : aiModelItem json = AiModelItem.asItem <$> AiModelItem.fromJson json := by
  simp only [aiModelItem, fromJson, aiModelReaders, commonReaders, List.cons_append, List.nil_append, readAll,
    Reader.read, AiModelItem.fromJson]
  cases json.getJsonArray "type" with
  | error cause => rfl
  | ok type =>
      cases json.getJsonArray "tags" with
      | error cause => rfl
      | ok tags =>
          cases json.getBoolean "dataUploadStatus" with
          | error cause => rfl
          | ok uploaded => cases uploaded <;> rfl

theorem dataBankItem_eq (json : JsonObject) :
    dataBankItem json = DataBankItem.asItem <$> DataBankItem.fromJson json := by
  simp only [dataBankItem, fromJson, dataBankReaders, commonReaders, List.cons_append, List.nil_append, readAll,
    Reader.read, DataBankItem.fromJson]
  cases json.getJsonArray "type" with
  | error cause => rfl
  | ok type =>
      cases json.getJsonArray "tags" with
      | error cause => rfl
      | ok tags =>
          cases json.getBoolean "dataUploadStatus" with
          | error cause => rfl
          | ok uploaded => cases uploaded <;> rfl

mutual
theorem sectionJson_subtitle : ∀ item : Json, sectionJson "subtitle" item = SubSection.toJson <$> parseSubSection item
  | .obj fields => by
      simp only [sectionJson, parseSubSection, subsectionsOf_eq fields]
      cases JsonObject.getJsonArray ⟨fields⟩ "points" with
      | error cause => rfl
      | ok points =>
          cases subsectionsIn fields with
          | error cause => rfl
          | ok subsections => rfl
  | .null | .bool _ | .num _ | .str _ | .arr _ => by simp only [sectionJson, parseSubSection]; rfl

theorem subsectionsOf_eq : ∀ fields : List (String × Json),
    subsectionsOf fields = subsectionsJson <$> subsectionsIn fields
  | [] => rfl
  | (key, value) :: rest => by
      simp only [subsectionsOf, subsectionsIn, sectionList_subtitle value, subsectionsOf_eq rest]
      split
      · cases subsectionList value <;> rfl
      · rfl

theorem sectionList_subtitle : ∀ value : Json,
    sectionList "subtitle" value = toSubSectionJsonArray <$> subsectionList value
  | .arr items => by simp only [sectionList, subsectionList, sectionItems_subtitle items]
  | .null | .bool _ | .num _ | .str _ | .obj _ => by simp only [sectionList, subsectionList]; rfl

theorem sectionItems_subtitle : ∀ items : List Json,
    sectionItems "subtitle" items = toSubSectionJsonArray <$> parseSubSections items
  | [] => rfl
  | item :: rest => by
      simp only [sectionItems, parseSubSections, sectionJson_subtitle item, sectionItems_subtitle rest]
      cases parseSubSection item with
      | error cause => rfl
      | ok ss => cases parseSubSections rest <;> rfl
end

theorem sectionJson_title (item : Json) : sectionJson "title" item = Section.toJson <$> parseSection item := by
  cases item with
  | obj fields =>
      simp only [sectionJson, parseSection, subsectionsOf_eq fields]
      cases JsonObject.getJsonArray ⟨fields⟩ "points" with
      | error cause => rfl
      | ok points => cases subsectionsIn fields <;> rfl
  | _ => simp only [sectionJson, parseSection]; rfl

theorem sectionItems_title (items : List Json) :
    sectionItems "title" items = List.map Section.toJson <$> items.mapM parseSection := by
  induction items with
  | nil => rfl
  | cons item rest ih =>
      simp only [sectionItems, List.mapM_cons, sectionJson_title item, ih]
      cases parseSection item with
      | error cause => rfl
      | ok s => cases rest.mapM parseSection <;> rfl

theorem sectionList_title (value : Json) :
    sectionList "title" value = List.map Section.toJson <$> parseSections value := by
  cases value with
  | arr items => simp only [sectionList, parseSections, sectionItems_title items]
  | _ => simp only [sectionList, parseSections]; rfl

theorem appsItem_eq (json : JsonObject) : appsItem json = AppsItem.asItem <$> AppsItem.fromJson json := by
  simp only [appsItem, fromJson, appsReaders, commonReaders, List.cons_append, List.nil_append, readAll, Reader.read,
    AppsItem.fromJson, AppsItem.sectionsIn]
  cases json.getJsonArray "type" with
  | error cause => rfl
  | ok type =>
      cases type with
      | none => rfl
      | some types =>
          cases json.getJsonArray "tags" with
          | error cause => rfl
          | ok tags =>
              cases tags with
              | none => rfl
              | some labels =>
                  cases json.get? "sections" with
                  | none => rfl
                  | some value =>
                      simp only [sectionList_title value]
                      cases parseSections value <;> rfl

end Tgdex.Items
