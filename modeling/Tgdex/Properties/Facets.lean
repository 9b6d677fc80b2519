import Tgdex.Elastic.Facets
import Tgdex.Search.Listing

namespace Tgdex.Properties

open Tgdex.Data Tgdex.Java Tgdex.Effects Tgdex.Elastic Tgdex.Query Tgdex.Items Tgdex.Search

/-! # The values that lists and counts report -/

def successBody (results : Json) : JsonObject :=
  ⟨[("type", .str "urn:dx:cat:Success"), ("title", .str "Success"), ("results", .arr [results])]⟩

/-- The values that a list reports for a field. -/
def valuesFor (field : String) : Json → List String
  | .obj fields =>
      match fields.lookup field with
      | some (.arr items) => items.filterMap scalarText
      | _ => []
  | _ => []

/-- The values that a count reports. -/
def valuesCounted : Json → List String
  | .obj fields => fields.map Prod.fst
  | _ => []

/-- As many values as the decoder's own default would ask for. -/
def facetLimit : Nat := 9999

structure ReportsAll (found reported : List String) : Prop where
  complete : (∀ value ∈ found, value ∈ reported) ∨ facetLimit ≤ reported.dedup.length
  sound : ∀ value ∈ reported, value ∈ found

/-- The engine answers the request, with the terms that its aggregations ask for. -/
def Aggregates (engine : Engine) (index : Index) (sent : SearchRequest) (choice : Choice) : Prop :=
  ∃ ranking aggregate generatedId aggregations, choice = .answers ranking aggregate generatedId ∧
    aggregate (engine.hits sent.query index) = some aggregations ∧ TermsAnswered engine index sent aggregations

section

variable (engine : Engine) (index : Index) (statics : Statics) (choices : Nat → Choice) (unicode : Unicode)
  (context : RoutingContext) (sent : SearchRequest)

/-- The list, served alone, reports the values of each field. -/
def ListComplete (names : List String) : Prop :=
  ∃ results, ((ListController.handleGetAvailableFilters unicode context).run engine.backend choices
      ⟨index, statics⟩).1 = [.ended 200 (successBody results)] ∧
    ∀ field ∈ names, ReportsAll (matchedValues engine index sent.query field) (valuesFor field results)

/-- The count, served alone, reports the types. -/
def CountComplete : Prop :=
  ∃ results, ((SearchController.handleCount unicode context).run engine.backend choices
      ⟨index, statics⟩).1 = [.ended 200 (successBody results)] ∧
    ReportsAll (matchedValues engine index sent.query "type") (valuesCounted results)

end

section

variable {engine : Engine} {index : Index} {statics : Statics} {choices : Nat → Choice} {unicode : Unicode}
  {context : RoutingContext} {body : JsonObject} {sent : SearchRequest} {names : List String}
  {request : QueryDecoderRequestDTO} {model : QueryModel} {options : Options} {parsed aggregations : JsonObject}

/-- An empty result leaves the aggregations of an earlier request in place. -/
def remembered (parsed : JsonObject) (statics : Statics) : Json :=
  (((if parsed.fields.isEmpty then none else some parsed).or statics.aggregations).map fun object =>
    Json.obj (object.encoded .nowhere).fields).getD .null

theorem encoded_nullableObject (object : Option JsonObject) :
    ((object.map fun object => Json.obj object.fields).getD .null).encoded .nowhere =
      (object.map fun object => Json.obj (object.encoded .nowhere).fields).getD .null := by
  cases object <;> rfl

theorem run_search (made : searchRequest model options = .ok sent) {ranking : Ranking}
    {aggregate : List Hit → Option JsonObject} {generatedId : String}
    (chosen : choices 0 = .answers ranking aggregate generatedId)
    (computed : aggregate (engine.hits sent.query index) = some aggregations)
    (parses : options.parsesAggregations = true)
    (read : parseAggregations (some aggregations) options = .ok parsed) :
    (((search model options).bind fun settled => .done (aggregationsOutcome settled) : Handler).run engine.backend
      choices ⟨index, statics⟩).1 = [.ended 200 (successBody (remembered parsed statics))] := by
  simp [search, executeSearch, made, Future.proxied, Task.run, Engine.backend, Engine.execute, chosen, receive,
    aggregationsWritten, countWritten, Engine.answer, computed, parses, read, searchResult, Future.delivered, aggregationsOutcome,
    successBody, remembered, send_result, encoded_nullableObject]

/-- A count leaves the number of types to Elasticsearch. -/
theorem aggregations_of_count
    (sends : Sends .countAggregationOnly (SearchController.handleCount unicode context) sent) :
    sent.aggregations = [("results", ⟨"type.keyword", none⟩)] := by
  simp only [SearchController.handleCount] at sends
  cases built : build unicode false true context with
  | error cause =>
      rw [built] at sends
      exact absurd sends not_sends_done
  | ok request =>
      rw [built] at sends
      obtain ⟨model, decoded, made⟩ := (sends_handleCount_iff unicode request).mp sends
      simp only [countModel, bind_eq_ok, pure, Except.pure, Except.ok.injEq] at decoded
      obtain ⟨_, -, rfl⟩ := decoded
      exact aggregations_of_sent made rfl

theorem matchedValues_of_matchedTerms {query : Option Query} {field value : String}
    (member : value ∈ matchedTerms engine index query (field ++ ".keyword")) :
    value ∈ matchedValues engine index query field := by
  obtain ⟨hit, found, inside⟩ := List.mem_flatMap.mp member
  exact List.mem_flatMap.mpr ⟨hit, found, fieldValues_of_aggregatedTerms (List.mem_dedup.mp inside)⟩

/-- Every value of the field is indexed as a term, and there are no more terms
than the limit. -/
structure Fits (engine : Engine) (index : Index) (query : Option Query) (limit : Nat) (field : String) : Prop where
  indexed : ∀ value ∈ matchedValues engine index query field,
    value ∈ matchedTerms engine index query (field ++ ".keyword")
  few : (matchedTerms engine index query (field ++ ".keyword")).dedup.length ≤ limit

theorem reportsAll_iff {query : Option Query} {limit : Nat} {field : String} {kept : List String}
    (small : limit < facetLimit)
    (most : MostFrequent limit (matchedTerms engine index query (field ++ ".keyword")) kept) :
    ReportsAll (matchedValues engine index query field) kept ↔ Fits engine index query limit field := by
  have sound : ∀ value ∈ kept, value ∈ matchedValues engine index query field :=
    fun value member => matchedValues_of_matchedTerms (most.occurs value member)
  have short : ¬facetLimit ≤ kept.dedup.length := by
    have lengths := most.length
    have fewer := (List.dedup_sublist kept).length_le
    omega
  refine ⟨fun reports => ?_, fun fits => ⟨.inl fun value found => ?_, sound⟩⟩
  · have complete := reports.complete.resolve_right short
    refine ⟨fun value found => most.occurs value (complete value found), most.all_kept_iff.mp fun value term => ?_⟩
    exact complete value (matchedValues_of_matchedTerms term)
  · exact most.all_kept_iff.mpr fits.few value (fits.indexed value found)

theorem successBody_inj {results other : Json} : successBody results = successBody other ↔ results = other := by
  simp [successBody]

theorem remembered_of_get? {key : String} {value : Json} (stored : parsed.get? key = some value) :
    remembered parsed statics = .obj (parsed.encoded .nowhere).fields := by
  obtain ⟨fields⟩ := parsed
  cases fields with
  | nil => cases stored
  | cons field rest => rfl

/-- A field without values is not shown, and reads the same. -/
theorem valuesFor_encoded {object : JsonObject} {field : String} {texts : List String}
    (stored : object.get? field = some (.arr (texts.map .str))) :
    valuesFor field (.obj (object.encoded .nowhere).fields) = texts := by
  have found : (object.encoded .nowhere).fields.lookup field =
      Stays.nowhere.entry field (.arr (texts.map .str)) := by
    rw [← JsonObject.get?, object.get?_encoded, stored, Option.bind_some]
  simp only [valuesFor, found]
  cases texts with
  | nil => rfl
  | cons first rest =>
      rw [Stays.entry_texts _ _ (by simp) (by simp)]
      simp [List.filterMap_map, Function.comp_def, scalarText]

/-- A list reports the values of the fields exactly when each of them has at
most a hundred, all of them indexed. -/
theorem list_complete_iff (given : context.body = some body) (unsized : context.size = none)
    (listed : body.get? "filter" = some (.arr (names.map .str)))
    (sends : Sends .aggregationList (ListController.handleGetAvailableFilters unicode context) sent)
    (aggregates : Aggregates engine index sent (choices 0)) :
    ListComplete engine index statics choices unicode context sent names ↔
      ∀ field ∈ names, Fits engine index sent.query 100 field := by
  have asked := aggregations_of_list given unsized listed sends
  obtain ⟨model, same, made⟩ := search_of_sends (ListController.handleGetAvailableFilters_cases unicode context) sends
  obtain ⟨ranking, aggregate, generatedId, aggregations, chosen, computed, answered⟩ := aggregates
  obtain ⟨parsed, read, kept⟩ := parse_list answered
  rw [ListComplete, same, run_search made chosen computed rfl read]
  have values : ∀ field ∈ names, ReportsAll (matchedValues engine index sent.query field)
      (valuesFor field (remembered parsed statics)) ↔ Fits engine index sent.query 100 field := by
    intro field member
    obtain ⟨own, stored, most⟩ := kept field ⟨field ++ ".keyword", some 100⟩ (asked ▸ List.mem_map_of_mem member)
    have reported : valuesFor field (remembered parsed statics) = own := by
      rw [remembered_of_get? stored]
      exact valuesFor_encoded stored
    rw [reported]
    exact reportsAll_iff (by decide) most
  simp only [List.cons.injEq, Outcome.ended.injEq, successBody_inj, and_true, true_and, exists_eq_left']
  exact forall₂_congr values

/-- A count reports the types exactly when there are at most ten, all of them
indexed.  Where none is indexed, what is remembered has to be just the types. -/
theorem count_complete_iff
    (sends : Sends .countAggregationOnly (SearchController.handleCount unicode context) sent)
    (aggregates : Aggregates engine index sent (choices 0)) :
    CountComplete engine index statics choices unicode context sent ↔
      if matchedTerms engine index sent.query "type.keyword" = [] then
        ReportsAll (matchedValues engine index sent.query "type") (valuesCounted (remembered .empty statics))
      else Fits engine index sent.query 10 "type" := by
  obtain ⟨model, same, made⟩ := search_of_sends (SearchController.handleCount_cases unicode context) sends
  obtain ⟨ranking, aggregate, generatedId, aggregations, chosen, computed, answered⟩ := aggregates
  have asked : ("results", ⟨"type.keyword", none⟩) ∈ sent.aggregations := by
    rw [aggregations_of_count sends]
    exact List.mem_singleton_self _
  obtain ⟨parsed, read, most, whole⟩ := parse_count answered asked
  rw [CountComplete, same, run_search made chosen computed rfl read]
  simp only [List.cons.injEq, Outcome.ended.injEq, successBody_inj, and_true, true_and, exists_eq_left']
  have nothing := most.eq_nil_iff (by decide)
  obtain ⟨fields⟩ := parsed
  split
  · rename_i none_
    obtain rfl := List.map_eq_nil_iff.mp (nothing.mpr none_)
    rfl
  · rename_i some_
    cases fields with
    | nil => exact absurd (nothing.mp rfl) some_
    | cons field rest =>
        have shown : valuesCounted (remembered ⟨field :: rest⟩ statics) = (field :: rest).map Prod.fst :=
          congrArg (fun object => object.fields.map Prod.fst) whole
        rw [shown]
        exact reportsAll_iff (by decide) most

end

/-- When lists and counts report all values that the matched documents have,
and no others. -/
theorem facets_complete_iff (engine : Engine) (index : Index) (statics : Statics) (choices : Nat → Choice)
    (unicode : Unicode) (context : RoutingContext) (sent : SearchRequest)
    (aggregates : Aggregates engine index sent (choices 0)) :
    (∀ body names, context.body = some body → context.size = none → body.get? "filter" = some (.arr (names.map .str)) →
      Sends .aggregationList (ListController.handleGetAvailableFilters unicode context) sent →
      (ListComplete engine index statics choices unicode context sent names ↔
        ∀ field ∈ names, Fits engine index sent.query 100 field)) ∧
    (Sends .countAggregationOnly (SearchController.handleCount unicode context) sent →
      (CountComplete engine index statics choices unicode context sent ↔
        if matchedTerms engine index sent.query "type.keyword" = [] then
          ReportsAll (matchedValues engine index sent.query "type") (valuesCounted (remembered .empty statics))
        else Fits engine index sent.query 10 "type")) :=
  ⟨fun _ _ given unsized listed sends => list_complete_iff given unsized listed sends aggregates,
    fun sends => count_complete_iff sends aggregates⟩

def oneBucketEach (name : String) (terms : List String) : Choice :=
  .answers .asStored
    (fun _ => some ⟨[(name, .obj [("buckets", .arr ((terms.map fun term => (term, 1)).map bucketJson))])]⟩) ""

theorem aggregates_oneBucketEach {engine : Engine} {index : Index} {sent : SearchRequest} {name : String}
    {terms : List String} {aggregation : TermsAggregation} (asked : sent.aggregations = [(name, aggregation)])
    (most : MostFrequent (aggregation.size.getD defaultTermsSize).toNat
      (matchedTerms engine index sent.query aggregation.field) terms) :
    Aggregates engine index sent (oneBucketEach name terms) := by
  refine ⟨_, _, _, _, rfl, rfl, ?_, ?_, ?_⟩
  · simp
  · intro own member
    obtain rfl := List.mem_singleton.mp member
    exact ⟨aggregation, asked ▸ List.mem_singleton_self _⟩
  · intro own other member
    rw [asked, List.mem_singleton] at member
    obtain ⟨rfl, rfl⟩ := Prod.mk.inj member
    refine ⟨[("buckets", .arr ((terms.map fun term => (term, 1)).map bucketJson))], terms.map fun term => (term, 1),
      by simp [JsonObject.get?], by simp, ?_⟩
    rw [List.map_map]
    simpa [Function.comp_def] using most

def tagged (tags : List String) : Index :=
  (∅ : Index).insert "2c3d4e5f-aaaa-4bbb-8ccc-0123456789ab"
    ⟨[("type", .arr [.str "adex:Apps"]), ("accessPolicy", .str "OPEN"), ("tags", .arr (tags.map .str))]⟩

def appCriteria : String × Json :=
  ("searchCriteria", .arr [.obj [("searchType", .str "term"), ("field", .str "type"),
    ("values", .arr [.str "adex:Apps"])]])

def listTags : RoutingContext where
  body := some ⟨[appCriteria, ("filter", .arr [.str "tags"])]⟩

def countApps : RoutingContext where
  body := some ⟨[appCriteria]⟩

def sentBy (options : Options) : Handler → Option SearchRequest
  | .await (.search sent own) _ => if own = options then some sent else none
  | _ => none

theorem sends_of_sentBy {options : Options} {handler : Handler} {sent : SearchRequest}
    (made : sentBy options handler = some sent) : Sends options handler sent := by
  cases handler with
  | done outcomes => cases made
  | await call next =>
      cases call with
      | search own asked =>
          simp only [sentBy] at made
          split at made
          · rename_i same
            rw [← Option.some.inj made, same]
            exact ⟨next, rfl⟩
          · cases made
      | _ => cases made

theorem sent_listTags {index : Index} {terms : List String}
    (found : (listedQuery asciiUnicode listTags).toOption.map
      (fun query => matchedTerms asciiEngine index query "tags.keyword") = some terms) :
    ∃ sent, Sends .aggregationList (ListController.handleGetAvailableFilters asciiUnicode listTags) sent ∧
      matchedTerms asciiEngine index sent.query "tags.keyword" = terms ∧
      (terms.Nodup → Aggregates asciiEngine index sent (oneBucketEach "tags" (terms.take 100))) := by
  obtain ⟨query, decoded, matched⟩ := Option.map_eq_some_iff.mp found
  have made : listedQuery asciiUnicode listTags = .ok query := by
    cases attempt : listedQuery asciiUnicode listTags with
    | error cause =>
        rw [attempt] at decoded
        cases decoded
    | ok own =>
        rw [attempt] at decoded
        rw [Option.some.inj decoded]
  obtain ⟨sent, sends, rfl⟩ := (@sends_list_iff _ _ _ _ ["tags"] rfl rfl (by simp)).mpr made
  refine ⟨sent, sends, matched, fun distinct => ?_⟩
  have asked : sent.aggregations = [("tags", ⟨"tags.keyword", some 100⟩)] :=
    @aggregations_of_list _ _ _ _ ["tags"] rfl rfl rfl sends
  refine aggregates_oneBucketEach asked ?_
  rw [matched]
  exact mostFrequent_take distinct 100

theorem sent_countApps {index : Index} {terms : List String}
    (found : (sentBy .countAggregationOnly (SearchController.handleCount asciiUnicode countApps)).map
      (fun sent => matchedTerms asciiEngine index sent.query "type.keyword") = some terms) :
    ∃ sent, Sends .countAggregationOnly (SearchController.handleCount asciiUnicode countApps) sent ∧
      matchedTerms asciiEngine index sent.query "type.keyword" = terms ∧
      (terms.Nodup → Aggregates asciiEngine index sent (oneBucketEach "results" (terms.take 10))) := by
  obtain ⟨sent, made, matched⟩ := Option.map_eq_some_iff.mp found
  have sends := sends_of_sentBy made
  refine ⟨sent, sends, matched, fun distinct => aggregates_oneBucketEach (aggregations_of_count sends) ?_⟩
  rw [matched]
  exact mostFrequent_take distinct 10

theorem facets_complete_one_tag :
    (∃ listed, ListComplete asciiEngine (tagged ["ai"]) {} (fun _ => oneBucketEach "tags" ["ai"]) asciiUnicode listTags
      listed ["tags"] ↔ ∀ field ∈ ["tags"], Fits asciiEngine (tagged ["ai"]) listed.query 100 field) ∧
    ∃ counted, CountComplete asciiEngine (tagged ["ai"]) {} (fun _ => oneBucketEach "results" ["adex:Apps"])
      asciiUnicode countApps counted ↔ Fits asciiEngine (tagged ["ai"]) counted.query 10 "type" := by
  refine ⟨?_, ?_⟩
  · obtain ⟨sent, sends, -, aggregates⟩ := @sent_listTags (tagged ["ai"]) ["ai"] (by decide +kernel)
    have complete := facets_complete_iff asciiEngine (tagged ["ai"]) {} (fun _ => oneBucketEach "tags" ["ai"])
      asciiUnicode listTags sent (aggregates (by decide))
    exact ⟨sent, complete.1 _ ["tags"] rfl rfl rfl sends⟩
  · obtain ⟨sent, sends, terms, aggregates⟩ := @sent_countApps (tagged ["ai"]) ["adex:Apps"] (by decide +kernel)
    have complete := facets_complete_iff asciiEngine (tagged ["ai"]) {} (fun _ => oneBucketEach "results" ["adex:Apps"])
      asciiUnicode countApps sent (aggregates (by decide))
    refine ⟨sent, (complete.2 sends).trans ?_⟩
    rw [if_neg (by rw [terms]; decide)]

def manyTags : List String := (List.range 101).map toString

/-- The last of a hundred and one tags is not listed. -/
theorem last_tag_not_listed :
    ∃ sent, Sends .aggregationList (ListController.handleGetAvailableFilters asciiUnicode listTags) sent ∧
      Aggregates asciiEngine (tagged manyTags) sent (oneBucketEach "tags" (manyTags.take 100)) ∧
      ¬ListComplete asciiEngine (tagged manyTags) {} (fun _ => oneBucketEach "tags" (manyTags.take 100)) asciiUnicode
        listTags sent ["tags"] := by
  obtain ⟨sent, sends, terms, aggregates⟩ := @sent_listTags (tagged manyTags) manyTags (by decide +kernel)
  have distinct : manyTags.Nodup := List.nodup_range.map fun _ _ same => Nat.repr_injective same
  refine ⟨sent, sends, aggregates distinct, fun complete => ?_⟩
  have fits := (list_complete_iff rfl rfl rfl sends (aggregates distinct)).mp complete "tags" (by simp)
  have few : (matchedTerms asciiEngine (tagged manyTags) sent.query "tags.keyword").dedup.length ≤ 100 := fits.few
  rw [terms, distinct.dedup] at few
  revert few
  decide

end Tgdex.Properties
