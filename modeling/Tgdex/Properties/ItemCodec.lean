import Tgdex.Data.Paths
import Tgdex.Items.Classes
import Tgdex.Properties.ItemTypes

namespace Tgdex.Properties

open Tgdex.Data Tgdex.Java Tgdex.Query Tgdex.Items

/-! # What the item classes make of a document and of an item -/

def Unused (keys : List String) (extra : JsonObject) : Prop := ∀ key ∈ keys, extra.get? key = none

def SameFields (extra other : JsonObject) : Prop := ∀ key, extra.get? key = other.get? key

theorem sameFields_without {known extra : JsonObject} {keys : List String} (unused : Unused keys extra)
    (written : ∀ key ∈ known.fields.map Prod.fst, key ∈ keys) :
    SameFields ((known.mergeIn extra).without keys) extra :=
  get?_mergeIn_extra unused fun _ absent => lookup_absent fun member => absent (written _ member)

theorem appsItem_known (item : AppsItem) : ∀ key ∈ item.known.fields.map Prod.fst, key ∈ AppsItem.knownFields := by
  intro key member
  simp only [AppsItem.known, List.map_append, List.mem_append] at member
  rcases member with common | sections
  · exact List.mem_append_left ["sections"] common
  · obtain ⟨entry, listed, rfl⟩ := List.mem_map.mp sections
    obtain ⟨list, -, rfl⟩ := List.mem_map.mp listed
    simp [AppsItem.knownFields]

/-- Every item whose additional fields use none of the known keys is read back
from what it is written as, up to the order of the additional fields. -/
theorem decode_undoes_encode :
    (∀ item : AiModelItem, Unused AiModelItem.knownKeys item.additionalFields →
      ∃ extra, AiModelItem.fromJson item.toJson = .ok { item with additionalFields := extra } ∧
        SameFields extra item.additionalFields) ∧
    (∀ item : DataBankItem, Unused DataBankItem.knownFields item.additionalFields →
      ∃ extra, DataBankItem.fromJson item.toJson = .ok { item with additionalFields := extra } ∧
        SameFields extra item.additionalFields) ∧
    ∀ item : AppsItem, item.type ≠ none → item.tags ≠ none → Unused AppsItem.knownFields item.additionalProperties →
      ∃ extra, AppsItem.fromJson item.toJson = .ok { item with additionalProperties := extra } ∧
        SameFields extra item.additionalProperties := by
  refine ⟨?_, ?_, ?_⟩
  · intro item unused
    exact ⟨_, item.fromJson_toJson unused, sameFields_without unused fun _ member => member⟩
  · intro item unused
    exact ⟨_, item.fromJson_toJson unused, sameFields_without unused fun _ member => member⟩
  · intro item type tags unused
    exact ⟨_, item.fromJson_toJson type tags unused, sameFields_without unused (appsItem_known item)⟩

/-- An app whose subsections are nested, absent and empty. -/
def nestedApp : AppsItem where
  name := some "aim"
  type := some [.str "adex:Apps"]
  label := none
  shortDescription := none
  description := none
  tags := some []
  accessPolicy := none
  organizationType := none
  organizationId := none
  industry := none
  department := none
  id := none
  itemStatus := none
  itemCreatedAt := none
  context := none
  sections := some [⟨some "aim", none, some [],
    some [.mk (some "how") none none (some []), .mk none (some "why") (some [.str "rice"]) (some [.mk none none none none])]⟩]
  additionalProperties := ⟨[("crop", .str "rice")]⟩

theorem decode_undoes_encode_nested :
    ∃ extra, AppsItem.fromJson nestedApp.toJson = .ok { nestedApp with additionalProperties := extra } ∧
      SameFields extra nestedApp.additionalProperties := by
  have others : ∀ key ∈ AppsItem.knownFields, key ∉ ["crop"] := by decide
  exact decode_undoes_encode.2.2 nestedApp (by simp [nestedApp]) (by simp [nestedApp])
    fun key used => lookup_absent (others key used)

def isTextOrNull : Option Json → Bool
  | none | some .null | some (.str _) => true
  | _ => false

def isList : Option Json → Bool
  | some (.arr _) => true
  | _ => false

def isListOrNull : Option Json → Bool
  | none | some .null => true
  | entry => isList entry

def isFlagOrNull : Option Json → Bool
  | none | some .null | some (.bool _) => true
  | _ => false

def sectionKeys (titleKey : String) : List String := [titleKey, "content", "points", "subsections"]

mutual
/-- A section that has no other keys than its class, with values of their types. -/
def keepsSection (titleKey : String) : Json → Bool
  | .obj fields =>
      fields.all (fun field => (sectionKeys titleKey).contains field.1) && isTextOrNull (fields.lookup titleKey) &&
        isTextOrNull (fields.lookup "content") && isListOrNull (fields.lookup "points") && keepsSubsections fields
  | _ => false

def keepsSubsections : List (String × Json) → Bool
  | [] => true
  | (key, value) :: rest => if key = "subsections" then keepsSectionList "subtitle" value else keepsSubsections rest

def keepsSectionList (titleKey : String) : Json → Bool
  | .arr items => keepsSections titleKey items
  | _ => false

def keepsSections (titleKey : String) : List Json → Bool
  | [] => true
  | item :: rest => keepsSection titleKey item && keepsSections titleKey rest
end

/-- The document has a value for the reader that the class gives back. -/
def keeps (json : JsonObject) : Reader → Bool
  | .text key => isTextOrNull (json.get? key)
  | .list key => isListOrNull (json.get? key)
  | .requiredList key => isList (json.get? key)
  | .flag key => isFlagOrNull (json.get? key)
  | .sections =>
      match json.get? "sections" with
      | none => true
      | some value => keepsSectionList "title" value

section

variable {object : JsonObject} {key : String}

theorem entryExtended_null : Json.EntryExtended none (some .null) := by
  intro other same
  exact (Option.some.inj same).symm

theorem shape_of_entry {value other : Json} (entry : Json.EntryExtended (some value) (some other)) :
    other.shape = value.shape := by
  obtain ⟨found, same, extended⟩ := entry
  obtain rfl := Option.some.inj same
  exact (Json.extendedBy_iff.mp extended).1

theorem entryExtended_text :
    Json.EntryExtended (object.get? key) (some (nullable (object.getString key))) ↔
      isTextOrNull (object.get? key) = true := by
  simp only [JsonObject.getString]
  cases object.get? key with
  | none => exact ⟨fun _ => rfl, fun _ => entryExtended_null⟩
  | some value =>
      cases value with
      | null => exact ⟨fun _ => rfl, fun _ => .refl _⟩
      | str text => exact ⟨fun _ => rfl, fun _ => .refl _⟩
      | _ => exact ⟨fun entry => absurd (shape_of_entry entry) (by simp [nullable, Json.shape]), fun text => by cases text⟩

theorem getJsonArray_entry :
    (∃ items, object.getJsonArray key = .ok items ∧
      Json.EntryExtended (object.get? key) (some (arrayOrNull items))) ↔ isListOrNull (object.get? key) = true := by
  simp only [JsonObject.getJsonArray]
  cases object.get? key with
  | none => exact ⟨fun _ => rfl, fun _ => ⟨none, rfl, entryExtended_null⟩⟩
  | some value =>
      cases value with
      | null => exact ⟨fun _ => rfl, fun _ => ⟨none, rfl, .refl _⟩⟩
      | arr items => exact ⟨fun _ => rfl, fun _ => ⟨some items, rfl, .refl _⟩⟩
      | _ => simp [isListOrNull, isList]

end

/-- The fields a section is written as. -/
def sectionFields (titleKey : String) (object : JsonObject) (points subsections : Option (List Json)) :
    List (String × Json) :=
  [(titleKey, nullable (object.getString titleKey)), ("content", nullable (object.getString "content")),
    ("points", arrayOrNull points)] ++ subsections.toList.map fun items => ("subsections", .arr items)

theorem lookup_sectionFields {titleKey : String} (distinct : titleKey ∉ ["content", "points", "subsections"])
    (object : JsonObject) (points subsections : Option (List Json)) :
    let fields := sectionFields titleKey object points subsections
    fields.lookup titleKey = some (nullable (object.getString titleKey)) ∧
      fields.lookup "content" = some (nullable (object.getString "content")) ∧
      fields.lookup "points" = some (arrayOrNull points) ∧
      fields.lookup "subsections" = subsections.map Json.arr ∧
      ∀ key, key ∉ sectionKeys titleKey → fields.lookup key = none := by
  intro fields
  simp only [List.mem_cons, List.not_mem_nil, or_false, not_or] at distinct
  obtain ⟨content, pointed, nested⟩ := distinct
  refine ⟨?_, ?_, ?_, ?_, fun key unknown => ?_⟩
  · simp [fields, sectionFields]
  · simp [fields, sectionFields, List.lookup_cons, beq_eq_false_iff_ne.mpr (Ne.symm content)]
  · simp [fields, sectionFields, List.lookup_cons, beq_eq_false_iff_ne.mpr (Ne.symm pointed)]
  · cases subsections <;>
      simp [fields, sectionFields, List.lookup_cons, beq_eq_false_iff_ne.mpr (Ne.symm nested)]
  · refine lookup_absent fun member => unknown ?_
    cases subsections with
    | none =>
        have first : key ∈ [titleKey, "content", "points"] := member
        exact List.mem_append_left ["subsections"] first
    | some items => exact member

theorem all_known_iff {fields : List (String × Json)} {keys : List String} :
    fields.all (fun field => keys.contains field.1) = true ↔ ∀ key, key ∉ keys → fields.lookup key = none := by
  rw [List.all_eq_true]
  refine ⟨?_, ?_⟩
  · intro all key unknown
    refine lookup_absent fun member => unknown ?_
    obtain ⟨field, listed, rfl⟩ := List.mem_map.mp member
    exact List.contains_iff_mem.mp (all field listed)
  · intro absent field listed
    by_contra unknown
    have none := absent field.1 fun known => unknown (List.contains_iff_mem.mpr known)
    have differs := List.lookup_eq_none_iff.mp none field listed
    simp at differs

theorem extended_section_iff {titleKey : String} (distinct : titleKey ∉ ["content", "points", "subsections"])
    {fields : List (String × Json)} {points subsections : Option (List Json)} :
    Json.ExtendedBy (.obj fields) (.obj (sectionFields titleKey ⟨fields⟩ points subsections)) ↔
      (fields.all (fun field => (sectionKeys titleKey).contains field.1) = true ∧
        isTextOrNull (fields.lookup titleKey) = true ∧ isTextOrNull (fields.lookup "content") = true) ∧
      Json.EntryExtended (fields.lookup "points") (some (arrayOrNull points)) ∧
      Json.EntryExtended (fields.lookup "subsections") (subsections.map Json.arr) := by
  obtain ⟨title, content, pointed, nested, others⟩ := lookup_sectionFields distinct ⟨fields⟩ points subsections
  have titled : Json.EntryExtended (fields.lookup titleKey) (some (nullable (JsonObject.getString ⟨fields⟩ titleKey))) ↔
      isTextOrNull (fields.lookup titleKey) = true := @entryExtended_text ⟨fields⟩ titleKey
  have contained : Json.EntryExtended (fields.lookup "content") (some (nullable (JsonObject.getString ⟨fields⟩ "content"))) ↔
      isTextOrNull (fields.lookup "content") = true := @entryExtended_text ⟨fields⟩ "content"
  rw [Json.extendedBy_obj, all_known_iff, ← titled, ← contained, ← pointed, ← nested, ← title, ← content]
  refine ⟨?_, ?_⟩
  · intro each
    refine ⟨⟨fun key unknown => ?_, each _, each _⟩, each _, each _⟩
    have entry := each key
    rw [others key unknown] at entry
    cases here : fields.lookup key with
    | none => rfl
    | some value =>
        rw [here] at entry
        obtain ⟨other, same, -⟩ := entry
        cases same
  · intro kept key
    obtain ⟨⟨unknown, first, second⟩, third, last⟩ := kept
    by_cases known : key ∈ sectionKeys titleKey
    · simp only [sectionKeys, List.mem_cons, List.not_mem_nil, or_false] at known
      rcases known with rfl | rfl | rfl | rfl
      · exact first
      · exact second
      · exact third
      · exact last
    · rw [unknown key known, others key known]
      exact .refl none

mutual
/-- The reader of a section keeps all of it exactly when it keeps to its class. -/
theorem keepsSection_iff {titleKey : String} (distinct : titleKey ∉ ["content", "points", "subsections"]) :
    ∀ item : Json, keepsSection titleKey item = true ↔
      ∃ written, sectionJson titleKey item = .ok written ∧ item.ExtendedBy written
  | .obj fields => by
      have pointed := @getJsonArray_entry ⟨fields⟩ "points"
      have nested := keepsSubsections_iff fields
      simp only [keepsSection, sectionJson, Bool.and_eq_true, bind_eq_ok, nested]
      change (_ ∧ isListOrNull (JsonObject.get? ⟨fields⟩ "points") = true) ∧ _ ↔ _
      rw [← pointed]
      refine ⟨?_, ?_⟩
      · intro kept
        obtain ⟨⟨⟨⟨known, title⟩, content⟩, points, pointsRead, pointsKept⟩, subsections, read, subsectionsKept⟩ := kept
        exact ⟨_, ⟨points, pointsRead, subsections, read, rfl⟩,
          (extended_section_iff distinct).mpr ⟨⟨known, title, content⟩, pointsKept, subsectionsKept⟩⟩
      · intro shown
        obtain ⟨written, ⟨points, pointsRead, subsections, read, same⟩, extended⟩ := shown
        obtain rfl := Except.ok.inj same
        obtain ⟨⟨known, title, content⟩, pointsKept, subsectionsKept⟩ := (extended_section_iff distinct).mp extended
        exact ⟨⟨⟨⟨known, title⟩, content⟩, points, pointsRead, pointsKept⟩, subsections, read, subsectionsKept⟩
  | .null | .bool _ | .num _ | .str _ | .arr _ => by simp [keepsSection, sectionJson]

theorem keepsSubsections_iff : ∀ fields : List (String × Json), keepsSubsections fields = true ↔
    ∃ subsections, subsectionsOf fields = .ok subsections ∧
      Json.EntryExtended (fields.lookup "subsections") (subsections.map Json.arr)
  | [] => by
      simp only [keepsSubsections, subsectionsOf, true_iff]
      exact ⟨none, rfl, .refl none⟩
  | (key, value) :: rest => by
      have here := keepsSectionList_iff "subtitle" (by decide) value
      have later := keepsSubsections_iff rest
      simp only [keepsSubsections, subsectionsOf, List.lookup_cons]
      by_cases same : key = "subsections"
      · subst same
        simp only [if_true, here, beq_self_eq_true]
        refine ⟨?_, ?_⟩
        · intro shown
          obtain ⟨items, read, extended⟩ := shown
          exact ⟨some items, by rw [read]; rfl, _, rfl, extended⟩
        · intro shown
          obtain ⟨subsections, read, other, written, extended⟩ := shown
          cases list : sectionList "subtitle" value with
          | error cause =>
              rw [list] at read
              cases read
          | ok items =>
              rw [list] at read
              cases read
              cases written
              exact ⟨items, rfl, extended⟩
      · have differs : ("subsections" == key) = false := beq_eq_false_iff_ne.mpr (Ne.symm same)
        simp only [same, if_false, differs, later]

theorem keepsSectionList_iff (titleKey : String) (distinct : titleKey ∉ ["content", "points", "subsections"]) :
    ∀ value : Json, keepsSectionList titleKey value = true ↔
      ∃ items, sectionList titleKey value = .ok items ∧ value.ExtendedBy (.arr items)
  | .arr items => by
      simp only [keepsSectionList, sectionList, keepsSections_iff distinct items, Json.extendedBy_arr]
  | .null | .bool _ | .num _ | .str _ | .obj _ => by simp [keepsSectionList, sectionList]

theorem keepsSections_iff {titleKey : String} (distinct : titleKey ∉ ["content", "points", "subsections"]) :
    ∀ items : List Json, keepsSections titleKey items = true ↔
      ∃ written, sectionItems titleKey items = .ok written ∧ List.Forall₂ Json.ExtendedBy items written
  | [] => by
      simp only [keepsSections, sectionItems, true_iff]
      exact ⟨[], rfl, .nil⟩
  | item :: rest => by
      simp only [keepsSections, sectionItems, Bool.and_eq_true, keepsSection_iff distinct item,
        keepsSections_iff distinct rest, bind_eq_ok]
      refine ⟨?_, ?_⟩
      · intro shown
        obtain ⟨⟨first, read, extended⟩, others, readRest, extendedRest⟩ := shown
        exact ⟨_, ⟨first, read, others, readRest, rfl⟩, .cons extended extendedRest⟩
      · intro shown
        obtain ⟨written, ⟨first, read, others, readRest, same⟩, extended⟩ := shown
        obtain rfl := Except.ok.inj same
        obtain ⟨head, tail⟩ := List.forall₂_cons.mp extended
        exact ⟨⟨first, read, head⟩, others, readRest, tail⟩
end

theorem keeps_iff (json : JsonObject) (reader : Reader) :
    keeps json reader = true ↔
      ∃ value, reader.read json = .ok value ∧ Json.EntryExtended (json.get? reader.key) value := by
  cases reader with
  | text key =>
      simp only [keeps, Reader.read, Reader.key, Except.ok.injEq, exists_eq_left', entryExtended_text]
  | list key =>
      simp only [keeps, Reader.read, Reader.key, ← getJsonArray_entry, bind_eq_ok, pure, Except.pure, Except.ok.injEq]
      refine ⟨?_, ?_⟩
      · intro shown
        obtain ⟨items, read, entry⟩ := shown
        exact ⟨_, ⟨items, read, rfl⟩, entry⟩
      · intro shown
        obtain ⟨value, ⟨items, read, rfl⟩, entry⟩ := shown
        exact ⟨items, read, entry⟩
  | requiredList key =>
      simp only [keeps, Reader.read, Reader.key, bind_eq_ok, nonNull_eq_ok, pure, Except.pure, Except.ok.injEq]
      refine ⟨?_, ?_⟩
      · intro kept
        cases stored : json.get? key with
        | none =>
            rw [stored] at kept
            cases kept
        | some value =>
            rw [stored] at kept
            cases value with
            | arr items =>
                exact ⟨_, ⟨_, JsonObject.getJsonArray_eq_ok.mpr stored, items, rfl, rfl⟩, .refl _⟩
            | _ => cases kept
      · intro shown
        obtain ⟨value, ⟨found, read, items, rfl, rfl⟩, -⟩ := shown
        rw [JsonObject.getJsonArray_eq_ok.mp read]
        rfl
  | flag key =>
      simp only [keeps, Reader.read, Reader.key, JsonObject.getBoolean]
      cases json.get? key with
      | none => exact ⟨fun _ => ⟨_, rfl, entryExtended_null⟩, fun _ => rfl⟩
      | some value =>
          cases value with
          | null => exact ⟨fun _ => ⟨_, rfl, .refl _⟩, fun _ => rfl⟩
          | bool flag => exact ⟨fun _ => ⟨_, rfl, .refl _⟩, fun _ => rfl⟩
          | _ => simp [isFlagOrNull, bind, Except.bind]
  | sections =>
      simp only [keeps, Reader.read, Reader.key]
      cases json.get? "sections" with
      | none => exact ⟨fun _ => ⟨none, rfl, .refl none⟩, fun _ => rfl⟩
      | some value =>
          simp only [keepsSectionList_iff "title" (by decide) value, bind_eq_ok, pure, Except.pure,
            Except.ok.injEq]
          refine ⟨?_, ?_⟩
          · intro shown
            obtain ⟨items, read, extended⟩ := shown
            exact ⟨_, ⟨items, read, rfl⟩, _, rfl, extended⟩
          · intro shown
            obtain ⟨written, ⟨items, read, rfl⟩, other, same, extended⟩ := shown
            cases same
            exact ⟨items, read, extended⟩

section

variable {json : JsonObject} {readers : List Reader}

theorem exists_readAll (each : ∀ reader ∈ readers, ∃ value, reader.read json = .ok value) :
    ∃ entries, readAll json readers = .ok entries := by
  induction readers with
  | nil => exact ⟨[], rfl⟩
  | cons reader rest ih =>
      obtain ⟨value, read⟩ := each reader List.mem_cons_self
      obtain ⟨entries, tail⟩ := ih fun other member => each other (List.mem_cons_of_mem _ member)
      exact ⟨_, by rw [readAll, read, tail]; rfl⟩

theorem readAll_lookup {entries : List (String × Json)} (read : readAll json readers = .ok entries)
    (nodup : (readers.map Reader.key).Nodup) {reader : Reader} (member : reader ∈ readers) :
    ∃ value, reader.read json = .ok value ∧ entries.lookup reader.key = value := by
  induction readers generalizing entries with
  | nil => cases member
  | cons first rest ih =>
      simp only [readAll, bind_eq_ok, pure, Except.pure, Except.ok.injEq] at read
      obtain ⟨value, head, others, tail, rfl⟩ := read
      rw [List.map_cons, List.nodup_cons] at nodup
      rcases List.mem_cons.mp member with rfl | later
      · refine ⟨value, head, ?_⟩
        cases value with
        | none => exact readAll_absent tail nodup.1
        | some value => simp
      · obtain ⟨found, reads, lookup⟩ := ih tail nodup.2 later
        have differs : (reader.key == first.key) = false := by
          rw [beq_eq_false_iff_ne]
          intro same
          exact nodup.1 (same ▸ List.mem_map_of_mem later)
        refine ⟨found, reads, ?_⟩
        cases value <;> simp [List.lookup_cons, differs, lookup]

theorem classes_nodup : ∀ readers ∈ itemClasses, (readers.map Reader.key).Nodup := by decide

theorem extended_iff_keeps (known : readers ∈ itemClasses) :
    (∃ item, fromJson readers json = .ok item ∧ Json.ExtendedBy (.obj json.fields) (.obj item.toJson.fields)) ↔
      ∀ reader ∈ readers, keeps json reader = true := by
  have nodup := classes_nodup readers known
  have at_ : ∀ {entries : List (String × Json)} {reader : Reader}, reader ∈ readers →
      (Item.mk ⟨entries⟩ (json.without (readers.map Reader.key))).toJson.get? reader.key =
        entries.lookup reader.key := by
    intro entries reader member
    exact get?_mergeIn_known (by
      rw [JsonObject.get?_without, if_pos (List.contains_iff_mem.mpr (List.mem_map_of_mem member))])
  simp only [Json.extendedBy_obj]
  refine ⟨?_, ?_⟩
  · intro shown reader member
    obtain ⟨item, read, extended⟩ := shown
    obtain ⟨entries, readers_ok, rfl⟩ := fromJson_eq_ok.mp read
    obtain ⟨value, reads, lookup⟩ := readAll_lookup readers_ok nodup member
    have entry := extended reader.key
    change Json.EntryExtended (json.get? reader.key) ((Item.toJson _).get? reader.key) at entry
    rw [at_ member, lookup] at entry
    exact (keeps_iff json reader).mpr ⟨value, reads, entry⟩
  · intro kept
    have reads := fun reader member => (keeps_iff json reader).mp (kept reader member)
    obtain ⟨entries, readers_ok⟩ := exists_readAll fun reader member => (reads reader member).imp fun _ both => both.1
    have read : fromJson readers json = .ok ⟨⟨entries⟩, json.without (readers.map Reader.key)⟩ :=
      fromJson_eq_ok.mpr ⟨entries, readers_ok, rfl⟩
    refine ⟨_, read, fun key => ?_⟩
    change Json.EntryExtended (json.get? key) ((Item.toJson _).get? key)
    by_cases used : key ∈ readers.map Reader.key
    · obtain ⟨reader, member, rfl⟩ := List.mem_map.mp used
      obtain ⟨value, here, entry⟩ := reads reader member
      obtain ⟨found, there, lookup⟩ := readAll_lookup readers_ok nodup member
      obtain rfl := Except.ok.inj (here.symm.trans there)
      rw [at_ member, lookup]
      exact entry
    · rw [toJson_additional read used]
      exact .refl _

end

/-- What is said of a decoded item may be said of the item as its readers read it. -/
theorem exists_class_iff {Class : Type} {asItem : Class → Item} {read : Except Throwable Class}
    {whole : Except Throwable Item} (same : whole = asItem <$> read) {P : JsonObject → Prop} :
    (∃ item, read = .ok item ∧ P (asItem item).toJson) ↔ ∃ item, whole = .ok item ∧ P item.toJson := by
  subst same
  cases read with
  | error cause => simp
  | ok item => simp

/-- Each class gives back the whole document, with nothing but nulls added,
exactly when the document keeps to what each of the readers expects: texts, lists
and flags where the class has them, and sections with no keys of their own. -/
theorem codec_keeps_document_iff (json : JsonObject) :
    ((∃ item, AiModelItem.fromJson json = .ok item ∧ Json.ExtendedBy (.obj json.fields) (.obj item.toJson.fields)) ↔
      ∀ reader ∈ aiModelReaders, keeps json reader = true) ∧
    ((∃ item, DataBankItem.fromJson json = .ok item ∧ Json.ExtendedBy (.obj json.fields) (.obj item.toJson.fields)) ↔
      ∀ reader ∈ dataBankReaders, keeps json reader = true) ∧
    ((∃ item, AppsItem.fromJson json = .ok item ∧ Json.ExtendedBy (.obj json.fields) (.obj item.toJson.fields)) ↔
      ∀ reader ∈ appsReaders, keeps json reader = true) := by
  refine ⟨?_, ?_, ?_⟩
  · exact (exists_class_iff (aiModelItem_eq json) (P := fun object => Json.ExtendedBy _ (.obj object.fields))).trans
      (extended_iff_keeps (readersOf_mem .aiModel))
  · exact (exists_class_iff (dataBankItem_eq json) (P := fun object => Json.ExtendedBy _ (.obj object.fields))).trans
      (extended_iff_keeps (readersOf_mem .dataBank))
  · exact (exists_class_iff (appsItem_eq json) (P := fun object => Json.ExtendedBy _ (.obj object.fields))).trans
      (extended_iff_keeps (readersOf_mem .apps))

def notedApp : JsonObject :=
  (appBody "aim").put "sections"
    (.arr [.obj [("title", .str "aim"), ("content", .str "to help"), ("note", .str "draft")]])

theorem section_note_lost :
    appsSchema.accepts (fun _ _ => true) (.obj notedApp.fields) = true ∧
      (∃ item, AppsItem.fromJson notedApp = .ok item) ∧
      ¬∃ item, AppsItem.fromJson notedApp = .ok item ∧
        Json.ExtendedBy (.obj notedApp.fields) (.obj item.toJson.fields) := by
  refine ⟨by decide +kernel, ?_, fun shown => ?_⟩
  · have read : (AppsItem.fromJson notedApp).isOk = true := by decide +kernel
    cases decoded : AppsItem.fromJson notedApp with
    | error cause =>
        rw [decoded] at read
        cases read
    | ok item => exact ⟨item, rfl⟩
  · have kept := (extended_iff_keeps (readersOf_mem .apps)).mp ((exists_class_iff (appsItem_eq notedApp)
      (P := fun object => Json.ExtendedBy (.obj notedApp.fields) (.obj object.fields))).mp shown)
    have lost : keeps notedApp .sections = false := by decide +kernel
    exact absurd (kept .sections (by simp [readersOf, appsReaders])) (by simp [lost])

end Tgdex.Properties
