import Tgdex.Query.Decoder

namespace Tgdex.Items

open Tgdex.Data Tgdex.Java Tgdex.Query

/-! # The item classes and ItemFactory

The three classes read a fixed list of keys and keep every other key of the
document in an object of their own, which `toJson` puts back. -/

/-- How a class reads one key.  A null list is an exception where the class
does not check for it. -/
inductive Reader where
  | text (key : String)
  | list (key : String)
  | requiredList (key : String)
  | flag (key : String)
  | sections
deriving Repr, DecidableEq

def Reader.key : Reader → String
  | .text key | .list key | .requiredList key | .flag key => key
  | .sections => "sections"

/-- The keys that the three classes share, in the order they are read and written. -/
def commonReaders (list : String → Reader) : List Reader :=
  [.text "name", list "type", .text "label", .text "shortDescription", .text "description", list "tags",
   .text "accessPolicy", .text "organizationType", .text "organizationId", .text "industry",
   .text "department", .text "id", .text "itemStatus", .text "itemCreatedAt", .text "@context"]

def aiModelReaders : List Reader :=
  commonReaders .list ++
    [.text "modelType", .text "fileFormat", .text "uploadedBy", .text "license", .text "fileSize",
     .flag "dataUploadStatus", .text "mediaURL"]

def dataBankReaders : List Reader :=
  commonReaders .list ++
    [.text "fileFormat", .text "geoCoverage", .text "yearRange", .text "verifiedBy", .text "uploadFrequency",
     .text "license", .text "uploadedBy", .flag "dataUploadStatus", .text "mediaURL"]

def appsReaders : List Reader := commonReaders .requiredList ++ [.sections]

def arrayOrNull : Option (List Json) → Json
  | some items => .arr items
  | none => .null

mutual
/-- A section read into its class and written back.  Subsections differ from
sections in the name of their title only. -/
def sectionJson (titleKey : String) : Json → Except Throwable Json
  | .obj fields => do
      let object : JsonObject := ⟨fields⟩
      let points ← object.getJsonArray "points"
      let subsections ← subsectionsOf fields
      return .obj ([(titleKey, nullable (object.getString titleKey)),
        ("content", nullable (object.getString "content")), ("points", arrayOrNull points)] ++
        subsections.toList.map fun items => ("subsections", .arr items))
  | .null => .error .nullPointer
  | _ => .error .classCast

def subsectionsOf : List (String × Json) → Except Throwable (Option (List Json))
  | [] => .ok none
  | (key, value) :: rest => if key = "subsections" then some <$> sectionList "subtitle" value else subsectionsOf rest

def sectionList (titleKey : String) : Json → Except Throwable (List Json)
  | .arr items => sectionItems titleKey items
  | .null => .error .nullPointer
  | _ => .error .classCast

def sectionItems (titleKey : String) : List Json → Except Throwable (List Json)
  | [] => .ok []
  | item :: rest => do return (← sectionJson titleKey item) :: (← sectionItems titleKey rest)
end

/-- The keys a class knows, as `toJson` writes them, and the others. -/
structure Item where
  known : JsonObject
  additionalFields : JsonObject

namespace Item

variable (item : Item)

def toJson : JsonObject := item.known.mergeIn item.additionalFields

def getId : Option String := item.known.getString "id"

def getType : Except Throwable (Option (List Json)) := item.known.getJsonArray "type"

end Item

/-- What a class writes for one key it knows: null for a missing value, but
nothing at all for missing sections. -/
def Reader.read (json : JsonObject) : Reader → Except Throwable (Option Json)
  | .text key => .ok (some (nullable (json.getString key)))
  | .list key => do return some (arrayOrNull (← json.getJsonArray key))
  | .requiredList key => do return some (.arr (← nonNull (← json.getJsonArray key)))
  | .flag key => do return some (((← json.getBoolean key).map Json.bool).getD .null)
  | .sections =>
      match json.get? "sections" with
      | none => .ok none
      | some value => do return some (.arr (← sectionList "title" value))

def readAll (json : JsonObject) : List Reader → Except Throwable (List (String × Json))
  | [] => .ok []
  | reader :: rest => do
      let value ← reader.read json
      return (value.toList.map fun value => (reader.key, value)) ++ (← readAll json rest)

def fromJson (readers : List Reader) (json : JsonObject) : Except Throwable Item := do
  return ⟨⟨← readAll json readers⟩, json.without (readers.map Reader.key)⟩

def aiModelItem : JsonObject → Except Throwable Item := fromJson aiModelReaders

def dataBankItem : JsonObject → Except Throwable Item := fromJson dataBankReaders

def appsItem : JsonObject → Except Throwable Item := fromJson appsReaders

def firstText : List Json → Except Throwable (Option String)
  | [] => .error .noSuchElement
  | .str text :: _ => .ok (some text)
  | .null :: _ => .ok none
  | _ :: _ => .error .classCast

/-- ItemFactory.parse. -/
def parse (body : JsonObject) : Except Throwable Item := do
  let types ← nonNull (← body.getJsonArray "type")
  if types.isEmpty then .error (.illegalArgument "Missing 'type' field")
  else do
    let type ← nonNull (← firstText types)
    if type = itemTypeDataBank then dataBankItem body
    else if type = itemTypeApps then appsItem body
    else if type = itemTypeAiModel then aiModelItem body
    else .error (.illegalArgument ("Unsupported type: " ++ type))

def containsText (items : List Json) (text : String) : Bool :=
  items.any fun | .str item => item == text | _ => false

/-- ItemFactory.from. -/
def from_ (json : JsonObject) : Except Throwable Item := do
  let types ← nonNull (← json.getJsonArray "type")
  if containsText types itemTypeAiModel then aiModelItem json
  else if containsText types itemTypeApps then appsItem json
  else if containsText types itemTypeDataBank then dataBankItem json
  else .error (.illegalArgument ("Unknown item type: " ++ javaText (.arr types)))

variable {json body : JsonObject} {readers : List Reader} {item : Item} {key : String}

theorem readAll_absent {entries : List (String × Json)} (read : readAll json readers = .ok entries)
    (unknown : key ∉ readers.map Reader.key) : entries.lookup key = none := by
  induction readers generalizing entries with
  | nil => cases read; rfl
  | cons reader rest ih =>
      simp only [readAll, bind_eq_ok, pure, Except.pure, Except.ok.injEq] at read
      obtain ⟨value, -, others, tail, rfl⟩ := read
      simp only [List.map_cons, List.mem_cons, not_or] at unknown
      have differs : (key == reader.key) = false := beq_eq_false_iff_ne.mpr unknown.1
      cases value <;> simp [List.lookup_cons, differs, ih tail unknown.2]

theorem readAll_found {entries : List (String × Json)} {reader : Reader}
    (read : readAll json readers = .ok entries)
    (found : readers.find? (fun reader => reader.key == key) = some reader) (always : reader ≠ .sections) :
    ∃ value, reader.read json = .ok (some value) ∧ entries.lookup key = some value := by
  induction readers generalizing entries with
  | nil => simp at found
  | cons first rest ih =>
      simp only [readAll, bind_eq_ok, pure, Except.pure, Except.ok.injEq] at read
      obtain ⟨value, head, others, tail, rfl⟩ := read
      by_cases here : first.key = key
      · subst here
        simp only [List.find?_cons, beq_self_eq_true, Option.some.injEq] at found
        subst found
        cases value with
        | some value => exact ⟨value, head, by simp⟩
        | none =>
            cases first with
            | text key => simp [Reader.read] at head
            | sections => exact absurd rfl always
            | list key | requiredList key | flag key => simp [Reader.read, pure, Except.pure] at head
      · have differs : (key == first.key) = false := beq_eq_false_iff_ne.mpr (Ne.symm here)
        simp only [List.find?_cons, beq_eq_false_iff_ne.mpr here] at found
        obtain ⟨stored, reads, lookup⟩ := ih tail found
        refine ⟨stored, reads, ?_⟩
        cases value <;> simp [List.lookup_cons, differs, lookup]

theorem fromJson_eq_ok :
    fromJson readers json = .ok item ↔
      ∃ entries, readAll json readers = .ok entries ∧ item = ⟨⟨entries⟩, json.without (readers.map Reader.key)⟩ := by
  simp only [fromJson, bind_eq_ok, pure, Except.pure, Except.ok.injEq]
  refine ⟨?_, ?_⟩
  · intro shown
    obtain ⟨entries, read, rfl⟩ := shown
    exact ⟨entries, read, rfl⟩
  · intro shown
    obtain ⟨entries, read, rfl⟩ := shown
    exact ⟨entries, read, rfl⟩

theorem toJson_additional (read : fromJson readers json = .ok item) (unknown : key ∉ readers.map Reader.key) :
    item.toJson.get? key = json.get? key := by
  obtain ⟨entries, readers_ok, rfl⟩ := fromJson_eq_ok.mp read
  have absent : (JsonObject.mk entries).get? key = none := readAll_absent readers_ok unknown
  simp [Item.toJson, JsonObject.get?_mergeIn, JsonObject.get?_without, absent, unknown]

theorem toJson_read {reader : Reader} (read : fromJson readers json = .ok item)
    (found : readers.find? (fun reader => reader.key == key) = some reader) (always : reader ≠ .sections) :
    ∃ value, reader.read json = .ok (some value) ∧ item.toJson.get? key = some value ∧
      item.known.get? key = some value := by
  obtain ⟨entries, readers_ok, rfl⟩ := fromJson_eq_ok.mp read
  obtain ⟨value, reads, lookup⟩ := readAll_found readers_ok found always
  have here := List.find?_some found
  have known : key ∈ readers.map Reader.key :=
    List.mem_map.mpr ⟨reader, List.mem_of_find?_eq_some found, by simpa using here⟩
  have stored : (JsonObject.mk entries).get? key = some value := lookup
  refine ⟨value, reads, ?_, stored⟩
  simp [Item.toJson, JsonObject.get?_mergeIn, JsonObject.get?_without, known, stored]

theorem toJson_text (read : fromJson readers json = .ok item)
    (found : readers.find? (fun reader => reader.key == key) = some (.text key)) :
    item.toJson.get? key = some (nullable (json.getString key)) ∧
      item.known.get? key = some (nullable (json.getString key)) := by
  obtain ⟨value, reads, stored⟩ := toJson_read read found (by simp)
  cases reads
  exact stored

def itemClasses : List (List Reader) := [aiModelReaders, dataBankReaders, appsReaders]

theorem class_of_parse (parsed : parse body = .ok item) :
    ∃ readers ∈ itemClasses, fromJson readers body = .ok item := by
  simp only [parse, bind_eq_ok] at parsed
  obtain ⟨_, -, types, -, checked⟩ := parsed
  split at checked
  · contradiction
  · simp only [bind_eq_ok] at checked
    obtain ⟨_, -, type, -, chosen⟩ := checked
    split at chosen
    · exact ⟨dataBankReaders, by simp [itemClasses], chosen⟩
    · split at chosen
      · exact ⟨appsReaders, by simp [itemClasses], chosen⟩
      · split at chosen
        · exact ⟨aiModelReaders, by simp [itemClasses], chosen⟩
        · contradiction

theorem class_of_from (read : from_ json = .ok item) :
    ∃ readers ∈ itemClasses, fromJson readers json = .ok item := by
  simp only [from_, bind_eq_ok] at read
  obtain ⟨_, -, types, -, chosen⟩ := read
  split at chosen
  · exact ⟨aiModelReaders, by simp [itemClasses], chosen⟩
  · split at chosen
    · exact ⟨appsReaders, by simp [itemClasses], chosen⟩
    · split at chosen
      · exact ⟨dataBankReaders, by simp [itemClasses], chosen⟩
      · contradiction

theorem classes_read_text :
    ∀ readers ∈ itemClasses, ∀ key ∈ ["id", "name", "accessPolicy", "organizationId"],
      readers.find? (fun reader => reader.key == key) = some (.text key) := by
  decide

theorem classes_read_type :
    ∀ readers ∈ itemClasses, readers.find? (fun reader => reader.key == "type") = some (.list "type") ∨
      readers.find? (fun reader => reader.key == "type") = some (.requiredList "type") := by
  decide

theorem toJson_type (known : readers ∈ itemClasses) (read : fromJson readers json = .ok item) {types : List Json}
    (stored : json.getJsonArray "type" = .ok (some types)) :
    item.toJson.get? "type" = some (.arr types) ∧ item.known.get? "type" = some (.arr types) := by
  rcases classes_read_type readers known with found | found
  · obtain ⟨value, reads, written⟩ := toJson_read read found (by simp)
    simp only [Reader.read, stored] at reads
    cases reads
    exact written
  · obtain ⟨value, reads, written⟩ := toJson_read read found (by simp)
    simp only [Reader.read, stored] at reads
    cases reads
    exact written

theorem classes_keep :
    ∀ readers ∈ itemClasses,
      ∀ key ∈ ["ownerUserId", "publishStatus", "provider", "resourceGroup", "resourceServer", "cos"],
        key ∉ readers.map Reader.key := by
  decide

theorem getString_nullable {object : JsonObject} {text : Option String}
    (stored : object.get? key = some (nullable text)) : object.getString key = text := by
  cases text <;> simp [JsonObject.getString, stored, nullable, javaText]

theorem getId_of_class (known : readers ∈ itemClasses) (read : fromJson readers json = .ok item) :
    item.getId = json.getString "id" :=
  getString_nullable (toJson_text read (classes_read_text readers known "id" (by simp))).2

end Tgdex.Items
