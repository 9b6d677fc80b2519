import Tgdex.Elastic.QueryModel

namespace Tgdex.Elastic

open Tgdex.Data

/-! # The shipped index mapping

`cat_mappings.json` is not dynamic: a field or sub-field that is not listed is
not indexed. -/

/-- `special` are the field types whose queries are not interpreted here. -/
inductive FieldKind where
  | text
  | keyword (ignoreAbove : Option Nat)
  | special
deriving Repr, DecidableEq

structure MappedField where
  path : List String
  kind : FieldKind
deriving Repr, DecidableEq

def textWithKeyword (ignoreAbove : Nat) (path : List String) : List (String × MappedField) :=
  let name := ".".intercalate path
  [(name, ⟨path, .text⟩), (name ++ ".keyword", ⟨path, .keyword (some ignoreAbove)⟩)]

def fieldOf (kind : FieldKind) (path : List String) : String × MappedField :=
  (".".intercalate path, ⟨path, kind⟩)

def textKeywordFields : List (List String) :=
  [["@context"], ["COS_UI"], ["COS_URL"], ["accessPolicy"], ["adexResourceAPIs"], ["apd"], ["apdURL"],
   ["apd_url"], ["authControlLevel"], ["cos"], ["cosUI"], ["cosURL"], ["cover"], ["department"],
   ["description"], ["fileFormat"], ["fileSize"], ["geoCoverage"], ["id"], ["id_bck"], ["industry"],
   ["instance"], ["itemStatus"], ["iudxResourceAPIs"], ["label"], ["license"], ["links", "href"],
   ["links", "rel"], ["links", "title"], ["links", "type"], ["location", "address"], ["location", "type"],
   ["mediaURL"], ["modelType"], ["name"], ["organizationId"], ["organizationType"], ["owner"],
   ["ownerUserId"], ["owner_bck"], ["provider"], ["providerKcId"], ["providerUserId"], ["provider_bck"],
   ["randuuid"], ["relatedEntity", "description"], ["relatedEntity", "hasObject"],
   ["relatedEntity", "relationType"], ["resourceAccessModalities", "accessURL"],
   ["resourceAccessModalities", "protocol"], ["resourceAccessModalities", "type"], ["resourceGroup"],
   ["resourceGroup_bck"], ["resourceServer"], ["resourceServerHTTPAccessURL"], ["resourceServerRegURL"],
   ["resourceServerStreamingAccessURL"], ["resourceServerSubdomains", "accessURL"],
   ["resourceServerSubdomains", "protocol"], ["resourceServerURL"], ["resourceServers", "name"],
   ["resourceServers", "resourceServerURL"], ["resourceServers", "subdomains", "accessURL"],
   ["resourceServers", "subdomains", "protocol"], ["resourceType"], ["shortDescription"], ["type"],
   ["uploadFrequency"], ["uploadedBy"], ["verifiedBy"], ["yearRange"]]

def textFields : List (List String) :=
  [["_summary"], ["_geosummary", "_geocoded", "results", "borough"],
   ["_geosummary", "_geocoded", "results", "country"], ["_geosummary", "_geocoded", "results", "county"],
   ["_geosummary", "_geocoded", "results", "locality"], ["_geosummary", "_geocoded", "results", "name"],
   ["_geosummary", "_geocoded", "results", "region"]]

def specialFields : List (List String) :=
  [["_geosummary", "_geocoded", "results", "bbox"], ["_word_vector"], ["dataReadiness"], ["itemCreatedAt"],
   ["itemModifiedAt"], ["location", "geometry"], ["resourceAccessModalities", "port"],
   ["resourceServerSubdomains", "port"], ["resourceServers", "subdomains", "port"]]

/-- Flattened fields also answer queries on the keys below them. -/
def flattenedFields : List String :=
  ["accessObjectInfo", "authServerInfo", "dataDescriptor", "dataSample", "deviceInfo", "providerOrg",
   "resourceServerOrg"]

def mappedFields : List (String × MappedField) :=
  textKeywordFields.flatMap (textWithKeyword 256) ++ textWithKeyword 2000 ["tags"] ++
    textFields.map (fieldOf .text) ++ specialFields.map (fieldOf .special) ++
    [("dataReadiness.keyword", ⟨["dataReadiness"], .keyword none⟩)]

def catMapping (field : String) : Option MappedField :=
  match mappedFields.lookup field with
  | some mapped => some mapped
  | none =>
      if flattenedFields.any fun name => name == field || (name ++ ".").toList.isPrefixOf field.toList then
        some ⟨[field], .special⟩
      else none

@[simp] theorem catMapping_id : catMapping "id.keyword" = some ⟨["id"], .keyword (some 256)⟩ := by decide +kernel

@[simp] theorem catMapping_name : catMapping "name.keyword" = some ⟨["name"], .keyword (some 256)⟩ := by decide +kernel

@[simp] theorem catMapping_type : catMapping "type" = some ⟨["type"], .text⟩ := by decide +kernel

@[simp] theorem catMapping_type_keyword :
    catMapping "type.keyword" = some ⟨["type"], .keyword (some 256)⟩ := by decide +kernel

@[simp] theorem catMapping_accessPolicy : catMapping "accessPolicy" = some ⟨["accessPolicy"], .text⟩ := by
  decide +kernel

@[simp] theorem catMapping_ownerUserId : catMapping "ownerUserId" = some ⟨["ownerUserId"], .text⟩ := by
  decide +kernel

@[simp] theorem catMapping_dataUploadStatus : catMapping "dataUploadStatus" = none := by decide +kernel

@[simp] theorem catMapping_publishStatus : catMapping "publishStatus.keyword" = none := by decide +kernel

mutual
def elements : Json → List Json
  | .arr items => elementsOf items
  | value => [value]

def elementsOf : List Json → List Json
  | [] => []
  | item :: rest => elements item ++ elementsOf rest
end

def scalarText : Json → Option String
  | .str text => some text
  | .num literal => some literal
  | .bool true => some "true"
  | .bool false => some "false"
  | _ => none

def textsAt : List String → Json → List String
  | [], value => (elements value).filterMap scalarText
  | key :: path, value => (elements value).flatMap fun
      | .obj fields => (fields.lookup key).toList.flatMap (textsAt path)
      | _ => []

def fieldTexts (document : JsonObject) (path : List String) : List String :=
  textsAt path (.obj document.fields)

theorem fieldTexts_single (document : JsonObject) (key : String) :
    fieldTexts document [key] = (document.get? key).toList.flatMap (textsAt []) := by
  simp [fieldTexts, textsAt, elements, JsonObject.get?]

theorem fieldTexts_of_text {document : JsonObject} {key text : String}
    (stored : document.get? key = some (.str text)) : fieldTexts document [key] = [text] := by
  simp [fieldTexts_single, stored, textsAt, elements, scalarText]

/-- The length Java gives a string. -/
def utf16Length (text : String) : Nat :=
  text.toList.foldr (fun char units => (if char.toNat < 0x10000 then 1 else 2) + units) 0

theorem utf16Length_le (text : String) : utf16Length text ≤ 2 * text.length := by
  rw [utf16Length, ← String.length_toList]
  induction text.toList with
  | nil => simp
  | cons char rest ih =>
      simp only [List.foldr_cons, List.length_cons]
      split <;> omega

end Tgdex.Elastic
