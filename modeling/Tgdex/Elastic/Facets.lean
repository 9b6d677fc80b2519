import Tgdex.Data.Frequency
import Tgdex.Elastic.Service

namespace Tgdex.Elastic

open Tgdex.Data Tgdex.Java

/-! # Terms aggregations -/

def fieldPath (field : String) : List String := (field.toList.splitOn '.').map String.ofList

/-- The terms that an aggregation over a field collects from a document: of a
flattened field the values under a key.  A text field cannot be aggregated. -/
def aggregatedTerms (document : JsonObject) (field : String) : List String :=
  match catMapping field with
  | none | some ⟨_, .text⟩ => []
  | some ⟨path, .keyword none⟩ => fieldTexts document path
  | some ⟨path, .keyword (some ignoreAbove)⟩ =>
      (fieldTexts document path).filter fun text => utf16Length text ≤ ignoreAbove
  | some ⟨_, .special⟩ => fieldTexts document (fieldPath field)

mutual
def scalarTexts : Json → List String
  | .arr items => scalarTextsOf items
  | .obj fields => scalarTextsIn fields
  | value => (scalarText value).toList

def scalarTextsOf : List Json → List String
  | [] => []
  | item :: rest => scalarTexts item ++ scalarTextsOf rest

def scalarTextsIn : List (String × Json) → List String
  | [] => []
  | (_, value) :: rest => scalarTexts value ++ scalarTextsIn rest
end

def textsBelow : List String → Json → List String
  | [], value => scalarTexts value
  | key :: path, value => (elements value).flatMap fun
      | .obj fields => (fields.lookup key).toList.flatMap (textsBelow path)
      | _ => []

/-- The texts, numbers and flags that a document has in a field or below it. -/
def fieldValues (document : JsonObject) (field : String) : List String :=
  textsBelow (fieldPath field) (.obj document.fields)

variable {text : String}

mutual
theorem scalarTexts_of_element {value element : Json} (inside : element ∈ elements value)
    (member : text ∈ scalarTexts element) : text ∈ scalarTexts value := by
  cases value with
  | arr items => exact scalarTextsOf_of_element inside member
  | _ =>
      obtain rfl := List.mem_singleton.mp inside
      exact member

theorem scalarTextsOf_of_element {items : List Json} {element : Json} (inside : element ∈ elementsOf items)
    (member : text ∈ scalarTexts element) : text ∈ scalarTextsOf items := by
  cases items with
  | nil => cases inside
  | cons item rest =>
      rcases List.mem_append.mp inside with first | later
      · exact List.mem_append_left _ (scalarTexts_of_element first member)
      · exact List.mem_append_right _ (scalarTextsOf_of_element later member)
end

theorem scalarTextsIn_of_lookup {fields : List (String × Json)} {key : String} {value : Json}
    (stored : fields.lookup key = some value) (member : text ∈ scalarTexts value) : text ∈ scalarTextsIn fields := by
  induction fields with
  | nil => cases stored
  | cons field rest ih =>
      obtain ⟨name, first⟩ := field
      rw [List.lookup_cons] at stored
      split at stored
      · obtain rfl := Option.some.inj stored
        exact List.mem_append_left _ member
      · exact List.mem_append_right _ (ih stored)

theorem scalarTexts_of_scalarText {element : Json} (read : scalarText element = some text) :
    text ∈ scalarTexts element := by
  cases element with
  | arr items => cases read
  | obj fields => cases read
  | _ => simp [scalarTexts, read]

theorem scalarTexts_of_textsAt {path : List String} {value : Json} (member : text ∈ textsAt path value) :
    text ∈ scalarTexts value := by
  induction path generalizing value with
  | nil =>
      obtain ⟨element, inside, read⟩ := List.mem_filterMap.mp member
      exact scalarTexts_of_element inside (scalarTexts_of_scalarText read)
  | cons key path ih =>
      obtain ⟨element, inside, member⟩ := List.mem_flatMap.mp member
      cases element with
      | obj fields =>
          obtain ⟨found, stored, member⟩ := List.mem_flatMap.mp member
          have below := scalarTextsIn_of_lookup (Option.mem_toList.mp stored) (ih member)
          exact scalarTexts_of_element inside below
      | _ => cases member

/-- What is found under a longer path is found below a shorter one. -/
theorem textsBelow_of_textsAt {path deeper : List String} {value : Json}
    (member : text ∈ textsAt (path ++ deeper) value) : text ∈ textsBelow path value := by
  induction path generalizing value with
  | nil => exact scalarTexts_of_textsAt member
  | cons key path ih =>
      obtain ⟨element, inside, member⟩ := List.mem_flatMap.mp member
      refine List.mem_flatMap.mpr ⟨element, inside, ?_⟩
      cases element with
      | obj fields =>
          obtain ⟨found, stored, member⟩ := List.mem_flatMap.mp member
          exact List.mem_flatMap.mpr ⟨found, stored, ih member⟩
      | _ => cases member

theorem fieldPath_keyword (field : String) : fieldPath (field ++ ".keyword") = fieldPath field ++ ["keyword"] := by
  have parts : (field ++ ".keyword").toList = field.toList ++ '.' :: "keyword".toList := by simp
  have last : ("keyword".toList.splitOn '.').map String.ofList = ["keyword"] := by decide
  rw [fieldPath, parts, List.splitOn, List.splitOnP_append_cons _ _ (by simp), List.map_append]
  exact congrArg _ last

theorem fieldPath_intercalate {path : List String} (some_ : path ≠ []) (plain : ∀ part ∈ path, '.' ∉ part.toList) :
    fieldPath (".".intercalate path) = path := by
  have dot : ".".toList = ['.'] := by decide
  have parts : ∀ chars ∈ path.map String.toList, '.' ∉ chars := by
    intro chars member
    obtain ⟨part, inside, rfl⟩ := List.mem_map.mp member
    exact plain part inside
  rw [fieldPath, String.toList_intercalate, dot, List.splitOn_intercalate '.' parts (by simp [some_]), List.map_map]
  exact List.map_id'' (fun part => String.ofList_toList) path

def MappedField.isKeyword (mapped : MappedField) : Bool :=
  match mapped.kind with
  | .keyword _ => true
  | _ => false

theorem keyword_names : (mappedFields.all fun entry => !entry.2.isKeyword ||
    (entry.1 == ".".intercalate entry.2.path ++ ".keyword" && !entry.2.path.isEmpty &&
      entry.2.path.all fun part => !part.toList.contains '.')) = true := by
  decide +kernel

/-- Every keyword field of the mapping is a sub-field of the field at its path. -/
theorem fieldPath_of_mapped {field : String} {mapped : MappedField} (found : catMapping field = some mapped)
    (keyword : mapped.isKeyword = true) : fieldPath field = mapped.path ++ ["keyword"] := by
  simp only [catMapping] at found
  split at found
  · rename_i listed
    rw [Option.some.inj found] at listed
    obtain ⟨before, after, same, -⟩ := List.lookup_eq_some_iff.mp listed
    have entry := List.all_eq_true.mp keyword_names (field, mapped) (by simp [same])
    have facts : (field = ".".intercalate mapped.path ++ ".keyword" ∧ mapped.path ≠ []) ∧
        ∀ part ∈ mapped.path, '.' ∉ part.toList := by simpa [keyword] using entry
    obtain ⟨⟨named, some_⟩, plain⟩ := facts
    rw [named, fieldPath_keyword, fieldPath_intercalate some_ plain]
  · split at found
    · obtain rfl := Option.some.inj found
      cases keyword
    · cases found

theorem fieldValues_of_aggregatedTerms {document : JsonObject} {field : String}
    (member : text ∈ aggregatedTerms document (field ++ ".keyword")) : text ∈ fieldValues document field := by
  have mapped : ∀ path limit, catMapping (field ++ ".keyword") = some ⟨path, .keyword limit⟩ →
      text ∈ fieldTexts document path → text ∈ fieldValues document field := by
    intro path limit found inside
    have path_ := fieldPath_of_mapped found rfl
    rw [fieldPath_keyword] at path_
    obtain rfl : fieldPath field = path := List.append_cancel_right path_
    refine @textsBelow_of_textsAt text _ [] _ ?_
    rwa [List.append_nil]
  simp only [aggregatedTerms] at member
  split at member
  · cases member
  · cases member
  · rename_i path found
    exact mapped path none found member
  · rename_i path ignoreAbove found
    exact mapped path (some ignoreAbove) found (List.mem_of_mem_filter member)
  · rw [fieldPath_keyword] at member
    exact textsBelow_of_textsAt member

section

variable (engine : Engine) (index : Index) (query : Option Query)

/-- The terms of the matched documents, each as often as documents have it. -/
def matchedTerms (field : String) : List String :=
  (engine.hits query index).flatMap fun hit => (aggregatedTerms hit.source field).dedup

def matchedValues (field : String) : List String :=
  (engine.hits query index).flatMap fun hit => fieldValues hit.source field

end

/-- Elasticsearch's own limit where a request names none. -/
def defaultTermsSize : Int := 10

def bucketJson (bucket : String × Nat) : Json :=
  .obj [("key", .str bucket.1), ("doc_count", .num (toString bucket.2))]

/-- An answer that has the most frequent terms for each aggregation asked for. -/
structure TermsAnswered (engine : Engine) (index : Index) (sent : SearchRequest) (aggregations : JsonObject) : Prop where
  distinct : (aggregations.fields.map Prod.fst).Nodup
  asked : ∀ name ∈ aggregations.fields.map Prod.fst, ∃ aggregation, (name, aggregation) ∈ sent.aggregations
  answered : ∀ name aggregation, (name, aggregation) ∈ sent.aggregations →
    ∃ (fields : List (String × Json)) (buckets : List (String × Nat)),
      aggregations.get? name = some (.obj fields) ∧ fields.lookup "buckets" = some (.arr (buckets.map bucketJson)) ∧
      MostFrequent (aggregation.size.getD defaultTermsSize).toNat
        (matchedTerms engine index sent.query aggregation.field) (buckets.map Prod.fst)

section

variable {fields entries : List (String × Json)} {buckets : List (String × Nat)}

theorem lookup_of_mem (distinct : (fields.map Prod.fst).Nodup) {key : String} {value : Json}
    (member : (key, value) ∈ fields) : fields.lookup key = some value := by
  obtain ⟨before, after, rfl⟩ := List.append_of_mem member
  refine List.lookup_eq_some_iff.mpr ⟨before, after, rfl, fun earlier inside => ?_⟩
  rw [List.map_append, List.nodup_append] at distinct
  have differs := distinct.2.2 earlier.1 (List.mem_map_of_mem inside) key (by simp)
  simpa using Ne.symm differs

theorem putField_of_fresh {key : String} {value : Json} (fresh : key ∉ fields.map Prod.fst) :
    putField fields key value = fields ++ [(key, value)] := by
  induction fields with
  | nil => rfl
  | cons field rest ih =>
      obtain ⟨name, old⟩ := field
      rw [List.map_cons, List.mem_cons, not_or] at fresh
      rw [putField, if_neg (Ne.symm fresh.1), ih fresh.2, List.cons_append]

theorem putAll_of_nodup (distinct : (entries.map Prod.fst).Nodup) : putAll entries = ⟨entries⟩ := by
  have put : ∀ object : JsonObject, ((object.fields ++ entries).map Prod.fst).Nodup →
      entries.foldl (fun object entry => object.put entry.1 entry.2) object = ⟨object.fields ++ entries⟩ := by
    clear distinct
    induction entries with
    | nil => exact fun object _ => by rw [List.append_nil]; rfl
    | cons entry rest ih =>
        intro object distinct
        have fresh : entry.1 ∉ object.fields.map Prod.fst := by
          rw [List.map_append, List.nodup_append] at distinct
          exact fun inside => distinct.2.2 entry.1 inside entry.1 (by simp) rfl
        have next : object.put entry.1 entry.2 = ⟨object.fields ++ [entry]⟩ := by
          rw [JsonObject.put, putField_of_fresh fresh]
        rw [List.foldl_cons, next, ih _ (by simpa using distinct)]
        simp
  simpa [putAll, JsonObject.empty] using put .empty (by simpa [JsonObject.empty] using distinct)

theorem bucketsOf_listed (listed : fields.lookup "buckets" = some (.arr (buckets.map bucketJson))) :
    bucketsOf ⟨fields⟩ =
      .ok (some (buckets.map fun bucket => ⟨[("key", .str bucket.1), ("doc_count", .num (toString bucket.2))]⟩)) := by
  have array : JsonObject.getJsonArray ⟨fields⟩ "buckets" = .ok (some (buckets.map bucketJson)) :=
    JsonObject.getJsonArray_eq_ok.mpr listed
  have present : JsonObject.containsKey ⟨fields⟩ "buckets" = true := by
    simp [JsonObject.containsKey, JsonObject.get?, listed]
  have objects : (buckets.map bucketJson).mapM bucketObject =
      .ok (buckets.map fun bucket => ⟨[("key", .str bucket.1), ("doc_count", .num (toString bucket.2))]⟩) := by
    rw [mapM_eq_ok_iff, List.forall₂_map_left_iff, List.forall₂_map_right_iff]
    exact List.forall₂_same.mpr fun _ _ => rfl
  simp only [bucketsOf, present, if_true, array, bind, Except.bind, nonNull, objects, pure, Except.pure]

theorem listKeys_listed (listed : fields.lookup "buckets" = some (.arr (buckets.map bucketJson))) :
    listKeys (.obj fields) = .ok (.arr ((buckets.map Prod.fst).map .str)) := by
  simp only [listKeys, bucketObject, bind, Except.bind, bucketsOf_listed listed, pure, Except.pure, Option.getD_some,
    List.map_map]
  rfl

end

section

variable {engine : Engine} {index : Index} {sent : SearchRequest} {aggregations : JsonObject}

/-- The list of keys of each aggregation is what its answer keeps. -/
theorem parse_list (answered : TermsAnswered engine index sent aggregations) :
    ∃ parsed, parseAggregations (some aggregations) .aggregationList = .ok parsed ∧
      ∀ name aggregation, (name, aggregation) ∈ sent.aggregations → ∃ kept : List String,
        parsed.get? name = some (.arr (kept.map .str)) ∧
          MostFrequent (aggregation.size.getD defaultTermsSize).toNat
            (matchedTerms engine index sent.query aggregation.field) kept := by
  let read := fun entry : String × Json => (entry.1, (listKeys entry.2).toOption.getD .null)
  have each : ∀ entry ∈ aggregations.fields, (do return (entry.1, ← listKeys entry.2)) = .ok (read entry) := by
    intro entry member
    obtain ⟨aggregation, asked⟩ := answered.asked entry.1 (List.mem_map_of_mem member)
    obtain ⟨fields, buckets, found, listed, -⟩ := answered.answered entry.1 aggregation asked
    have value : entry.2 = .obj fields :=
      Option.some.inj ((lookup_of_mem answered.distinct member).symm.trans found)
    simp only [read, value, listKeys_listed listed, bind, Except.bind, pure, Except.pure, Except.toOption,
      Option.getD_some]
  have names : (aggregations.fields.map read).map Prod.fst = aggregations.fields.map Prod.fst := by
    rw [List.map_map]
    rfl
  have mapped : aggregations.fields.mapM (fun entry => do return (entry.1, ← listKeys entry.2)) =
      (.ok (aggregations.fields.map read) : Except Throwable _) := by
    rw [mapM_eq_ok_iff, List.forall₂_map_right_iff]
    exact List.forall₂_same.mpr each
  have parsed : parseAggregations (some aggregations) .aggregationList = .ok ⟨aggregations.fields.map read⟩ := by
    rw [parseAggregations, mapped]
    simp only [bind, Except.bind, pure, Except.pure, putAll_of_nodup (names ▸ answered.distinct)]
  refine ⟨_, parsed, fun name aggregation asked => ?_⟩
  obtain ⟨fields, buckets, found, listed, most⟩ := answered.answered name aggregation asked
  refine ⟨buckets.map Prod.fst, ?_, most⟩
  obtain ⟨before, after, same, -⟩ := List.lookup_eq_some_iff.mp found
  refine lookup_of_mem (names ▸ answered.distinct) (List.mem_map.mpr ⟨(name, .obj fields), by simp [same], ?_⟩)
  simp only [read, listKeys_listed listed, Except.toOption, Option.getD_some]

/-- The counts are named by what the answer to the aggregation of types keeps. -/
theorem parse_count (answered : TermsAnswered engine index sent aggregations) {aggregation : TermsAggregation}
    (asked : ("results", aggregation) ∈ sent.aggregations) :
    ∃ parsed, parseAggregations (some aggregations) .countAggregationOnly = .ok parsed ∧
      MostFrequent (aggregation.size.getD defaultTermsSize).toNat
        (matchedTerms engine index sent.query aggregation.field) (parsed.fields.map Prod.fst) ∧
      parsed.encoded .nowhere = parsed := by
  obtain ⟨fields, buckets, found, listed, most⟩ := answered.answered "results" aggregation asked
  let entries := buckets.map fun bucket => (bucket.1, Json.num (toString bucket.2))
  have names : entries.map Prod.fst = buckets.map Prod.fst := by
    rw [List.map_map]
    rfl
  have results : aggregations.getJsonObject "results" = .ok (some ⟨fields⟩) := by
    rw [JsonObject.getJsonObject, found]
  have counted : (buckets.map fun bucket =>
      (⟨[("key", .str bucket.1), ("doc_count", .num (toString bucket.2))]⟩ : JsonObject)).mapM countEntry =
        .ok entries := by
    rw [mapM_eq_ok_iff, List.forall₂_map_left_iff, List.forall₂_map_right_iff]
    exact List.forall₂_same.mpr fun _ _ => rfl
  have kept : ∀ field ∈ entries, Stays.nowhere.entry field.1 field.2 = some field.2 := by
    intro field member
    obtain ⟨bucket, -, rfl⟩ := List.mem_map.mp member
    rfl
  refine ⟨⟨entries⟩, ?_, names ▸ most, congrArg JsonObject.mk (encodedFields_of_kept (names ▸ most.distinct) kept)⟩
  simp only [parseAggregations, results, bucketsOf_listed listed, counted, bind, Except.bind, pure, Except.pure,
    Option.getD_some, putAll_of_nodup (names ▸ most.distinct)]

end

end Tgdex.Elastic
