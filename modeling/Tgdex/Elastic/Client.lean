import Tgdex.Elastic.Service

namespace Tgdex.Elastic.Client

open Tgdex.Data Tgdex.Java Tgdex.Effects Tgdex.Elastic

/-! # ElasticsearchServiceImpl over the asynchronous client

The operations with all their arguments, down to what the client hands to the
completion callbacks.  What the callbacks write to the static fields is
`receive`.  Every run of the service's tasks, over the replies of an index that
answers as Elasticsearch documents it, is one of these operations. -/

structure RawHit where
  id : Option String
  source : Option JsonObject

structure SearchResponse where
  total : Option Nat
  hits : List RawHit
  aggregations : Option JsonObject

structure BulkResponse where
  errors : Bool
  ids : List (Option String)

inductive DeleteResult where
  | created
  | updated
  | deleted
  | notFound
  | noOp
deriving Repr, DecidableEq

structure Script where
  source : String
  lang : String
  params : JsonObject

inductive Request where
  | search (index : String) (request : SearchRequest)
  | count (index : String) (query : Option Query)
  | deleteByQuery (index : String) (query : Query)
  | bulk (index : String) (documents : List (Option String × JsonObject))
  | delete (index id : String)
  | exists_ (index id : String)
  | update (index id : String) (document : JsonObject)
  | updateByQuery (index : String) (query : Query) (script : Option Script)

/-- What the callbacks read of a response. -/
abbrev Response : Request → Type
  | .search _ _ => SearchResponse
  | .count _ _ => Nat
  | .bulk _ _ => BulkResponse
  | .delete _ _ => DeleteResult
  | .exists_ _ _ => Bool
  | .deleteByQuery _ _ | .update _ _ _ | .updateByQuery _ _ _ => Unit

/-- An error comes without a response. -/
abbrev Outcome (request : Request) : Type := Except String (Response request)

abbrev Future (α : Type) : Type := Task Request Outcome Unit (Settled α)

variable {α β : Type}

def failed (cause : Throwable) : Future α := .done (.failure cause)

def compose (first : Future α) (next : Future β) : Future β :=
  first.bind fun
    | .success _ => next
    | .failure cause => failed cause
    | .pending => .done .pending

/-- A function that throws inside `compose` fails the composed future. -/
def orFailed : Except Throwable (Future α) → Future α
  | .ok future => future
  | .error cause => failed cause

/-- A promise that the completion callback of one request is to complete. -/
def whenComplete (request : Request) (callback : Outcome request → Settled α) : Future α :=
  .await request fun outcome _ => .done (callback outcome)

def validateIndex (index : Option String) : Settled Unit :=
  if index.all trimsToEmpty then .failure (.illegalArgument "Index cannot be null or empty") else .success ()

def validateQueryModel {Model : Type} (model : Option Model) : Settled Unit :=
  if model.isNone then .failure (.illegalArgument "QueryModel cannot be null") else .success ()

def validateDocumentModels (models : Option (List QueryModel)) : Settled Unit :=
  if models.all List.isEmpty then .failure (.illegalArgument "DocumentModels list cannot be null or empty")
  else .success ()

def aggregationOnly (options : String) : Bool := "AGGREGATION".toList.isPrefixOf options.toList

def optionsOf (options : String) : Options :=
  if options = "AGGREGATION_LIST" then .aggregationList
  else if options = "COUNT_AGGREGATION" then .countAggregationOnly
  else .sourceOnly

def buildSearch (model : QueryModel) (options : String) : Except Throwable SearchRequest := do
  let request ← searchRequest model .sourceOnly
  return { request with size := if aggregationOnly options then 0 else request.size }

def resultOf (options : String) (hit : RawHit) : ElasticsearchResponse :=
  let source := hit.source.getD .empty
  let result :=
    if options = "DOCIDS" then JsonObject.empty.put "id" (nullable hit.id)
    else if options = "SOURCE_ID" then (JsonObject.empty.put "id" (nullable hit.id)).put "_source" (.obj source.fields)
    else if options = "SOURCE_ID_GEOQUERY" then source.put "doc_id" (nullable hit.id)
    else if options = "SOURCE" then (source.remove "_summary").remove "_word_vector"
    else source
  ⟨hit.id, some result⟩

def parsedAggregations (options : String) (response : SearchResponse) : Except Throwable JsonObject :=
  if aggregationOnly options || options = "COUNT_AGGREGATION" then
    parseAggregations response.aggregations (optionsOf options)
  else .ok .empty

/-- Only this callback catches what it throws. -/
def searchCallback (options : String) : Except String SearchResponse → Settled (List ElasticsearchResponse)
  | .error reason => .failure (.dxInternalServerError reason)
  | .ok response =>
      match parsedAggregations options response with
      | .error _ => .failure (.dxInternalServerError "Failed to parse search result")
      | .ok _ => .success (if aggregationOnly options then [] else response.hits.map (resultOf options))

def search (index : Option String) (model : Option QueryModel) (options : String) :
    Except Throwable (Future (List ElasticsearchResponse)) := do
  let request ← buildSearch (← nonNull model) options
  return whenComplete (.search (index.getD "") request) (searchCallback options)

def maxInt : Nat := 2147483647

def countCallback : Except String Nat → Settled Nat
  | .error _ => .failure (.dxInternalServerError "Elasticsearch cluster is unreachable")
  | .ok count =>
      if count ≤ maxInt then .success count
      else .failure (.dxBadRequest "Count value too large for Integer conversion")

def count (index : Option String) (model : Option QueryModel) : Except Throwable (Future Nat) := do
  let query ← searchQuery (← nonNull model)
  return whenComplete (.count (index.getD "") query) countCallback

/-- A response without a total, a total without a hit and a hit without a
source each end the callback with an exception. -/
def singleCallback : Except String SearchResponse → Settled ElasticsearchResponse
  | .error _ => .failure (.runtime "Search error")
  | .ok response =>
      match response.total with
      | none => .pending
      | some 0 => .success {}
      | some _ =>
          match response.hits.head? with
          | none => .pending
          | some hit =>
              match hit.source with
              | none => .pending
              | some source => .success ⟨hit.id, some (readSource source)⟩

def performSingleSearch (index : String) (model : Option QueryModel) : Except Throwable (Future ElasticsearchResponse) := do
  let query ← (← nonNull model).toElasticsearchQuery
  return whenComplete
    (.search index { query := some query, aggregations := [], size := 1, from_ := some 0, includes := none, sort := [] })
    singleCallback

def getSingleDocument (index : Option String) (model : Option QueryModel) : Future ElasticsearchResponse :=
  compose (.done (validateIndex index)) (orFailed (performSingleSearch (index.getD "") model))

def extractDocumentFromQueryModel (model : QueryModel) : Except Throwable JsonObject := do
  return (← nonNull model.queries).queryParameters

/-- The callback looks at the response only, which is null after an error. -/
def bulkCallback (outcome : Except String BulkResponse) : Settled (List (Option String)) :=
  match outcome.toOption with
  | none => .pending
  | some response => if response.errors then .failure (.runtime "Bulk index error") else .success response.ids

def bulkOperation (stays : Stays) (document : JsonObject) : Option String × JsonObject :=
  (document.getString "id", document.encoded stays)

def executeBulkIndex (stays : Stays) (index : String) (models : List QueryModel) :
    Except Throwable (Future (List (Option String))) := do
  let documents ← models.mapM extractDocumentFromQueryModel
  return whenComplete (.bulk index (documents.map (bulkOperation stays))) bulkCallback

def createDocuments (stays : Stays) (index : Option String) (models : Option (List QueryModel)) :
    Future (List (Option String)) :=
  compose (.done (validateIndex index)) <| compose (.done (validateDocumentModels models)) <|
    orFailed (executeBulkIndex stays (index.getD "") (models.getD []))

def deleteCallback : Except String DeleteResult → Settled Unit
  | .error _ => .failure (.runtime "Delete error")
  | .ok result => if result = .notFound then .failure (.runtime "Document not found") else .success ()

def deleteDocument (index id : Option String) : Future Unit :=
  compose (.done (validateIndex index)) <| compose (.done (validateId id)) <|
    whenComplete (.delete (index.getD "") (id.getD "")) deleteCallback

def existsCallback : Except String Bool → Settled Unit
  | .error _ => .failure (.runtime "Existence check failed")
  | .ok value => if value then .success () else .failure (.runtime "Document not found")

/-- The callbacks that do not look into their response. -/
def plainCallback (message : String) : Except String Unit → Settled Unit
  | .error _ => .failure (.runtime message)
  | .ok () => .success ()

def executeUpdate (stays : Stays) (index id : String) (model : Option QueryModel) : Except Throwable (Future Unit) := do
  let document ← extractDocumentFromQueryModel (← nonNull model)
  return whenComplete (.update index id (document.encoded stays)) (plainCallback "Update error")

def updateDocument (stays : Stays) (index id : Option String) (model : Option QueryModel) : Future Unit :=
  compose (.done (validateIndex index)) <| compose (.done (validateId id)) <|
    compose (.done (validateQueryModel model)) <|
      compose (whenComplete (.exists_ (index.getD "") (id.getD "")) existsCallback)
        (orFailed (executeUpdate stays (index.getD "") (id.getD "") model))

def executeDeleteByQuery (index : String) (model : Option QueryModel) : Except Throwable (Future Unit) := do
  let query ← (← nonNull model).toElasticsearchQuery
  return whenComplete (.deleteByQuery index query) (plainCallback "Failed to execute deleteByQuery")

def deleteByQuery (index : Option String) (model : Option QueryModel) : Future Unit :=
  compose (.done (validateIndex index)) <| compose (.done (validateQueryModel model)) <|
    orFailed (executeDeleteByQuery (index.getD "") model)

/-- A query model with the script that goes with it. -/
structure ScriptModel extends QueryModel where
  scriptSource : Option String := none
  scriptLanguage : Option String := none
  scriptParams : Option JsonObject := none

/-- Collecting the parameters fails on a null value. -/
def toElasticsearchScript (model : ScriptModel) : Except Throwable (Option Script) :=
  match model.scriptSource with
  | none | some "" => .ok none
  | some source => do
      let params ← nonNull model.scriptParams
      let _ ← params.fields.mapM fun entry => toText entry.2
      let lang := match model.scriptLanguage with
        | none | some "" => "painless"
        | some lang => lang
      return some ⟨source, lang, params⟩

def executeUpdateByQuery (index : String) (model : Option ScriptModel) : Except Throwable (Future Unit) := do
  let model ← nonNull model
  let query ← model.toElasticsearchQuery
  let script ← toElasticsearchScript model
  return whenComplete (.updateByQuery index query script) (plainCallback "UpdateByQuery error")

def updateDocumentsByQuery (model : Option ScriptModel) (index : Option String) : Future Unit :=
  compose (.done (validateIndex index)) <| compose (.done (validateQueryModel model)) <|
    orFailed (executeUpdateByQuery (index.getD "") model)

def mapped (read : α → β) : Settled α → Settled β
  | .success value => .success (read value)
  | .failure cause => .failure cause
  | .pending => .pending

/-- Every run of the service's task is a run of the operation over the client. -/
def Covers {γ : Type} (future : Future α) (read : α → γ) (task : Elastic.Future β) (result : β → γ) : Prop :=
  ∀ exchanges settled, task.Trace exchanges settled →
    ∃ others ended, future.Trace others ended ∧ mapped read ended = mapped result settled

def rawAnswer (answer : SearchAnswer) : SearchResponse :=
  ⟨some answer.total, answer.hits.map fun hit => ⟨some hit.id, some hit.source⟩, answer.aggregations⟩

theorem covers_failed {γ : Type} {read : α → γ} {result : β → γ} (cause : Throwable) :
    Covers (failed cause) read (Elastic.Future.failed cause) result := by
  intro exchanges settled traced
  obtain ⟨-, rfl⟩ := traced
  exact ⟨[], _, ⟨rfl, rfl⟩, rfl⟩

theorem covers_await {γ : Type} {read : α → γ} {result : β → γ} {request : Request}
    {callback : Outcome request → Settled α}
    {call : Call} {answered : Reply call → Statics → Settled β}
    (each : ∀ reply statics, ∃ outcome, mapped read (callback outcome) = mapped result (answered reply statics)) :
    Covers (whenComplete request callback) read (.await call fun reply statics => .done (answered reply statics))
      result := by
  intro exchanges settled traced
  obtain ⟨reply, statics, rest, rfl, rfl, rfl⟩ := traced
  obtain ⟨outcome, same⟩ := each reply statics
  exact ⟨[⟨request, outcome⟩], _, ⟨outcome, (), [], rfl, rfl, rfl⟩, same⟩

variable {index : String}

theorem covers_performSingleSearch (model : QueryModel) :
    Covers (orFailed (performSingleSearch index (some model))) id (Elastic.performSingleSearch model) Prod.fst := by
  simp only [performSingleSearch, Elastic.performSingleSearch, nonNull, bind, Except.bind]
  cases model.toElasticsearchQuery with
  | error cause => exact covers_failed cause
  | ok query =>
      refine covers_await fun reply statics => ?_
      cases reply with
      | error reason => exact ⟨.error reason, rfl⟩
      | ok answer =>
          refine ⟨.ok (rawAnswer answer), ?_⟩
          obtain ⟨total, hits, aggregations⟩ := answer
          cases total with
          | zero => rfl
          | succ count => cases hits <;> rfl

theorem buildSearch_text (model : QueryModel) (options : Options) :
    buildSearch model options.text = searchRequest model options := by
  simp only [buildSearch, searchRequest]
  cases (model.aggregations.getD []).mapM namedAggregation with
  | error cause => rfl
  | ok aggregations =>
      cases searchQuery model with
      | error cause => rfl
      | ok query => cases options <;> rfl

theorem parsedAggregations_text (options : Options) (answer : SearchAnswer) :
    parsedAggregations options.text (rawAnswer answer) =
      if options.parsesAggregations then parseAggregations answer.aggregations options else .ok .empty := by
  cases options <;> rfl

theorem resultOf_text (options : Options) (hit : Hit) :
    resultOf options.text ⟨some hit.id, some hit.source⟩ = Elastic.resultOf options hit := by
  cases options <;> rfl

theorem covers_executeSearch (model : QueryModel) (options : Options) :
    Covers (orFailed (search (some index) (some model) options.text)) id (Elastic.executeSearch model options)
      Prod.fst := by
  simp only [search, executeSearch, nonNull, bind, Except.bind, buildSearch_text]
  cases searchRequest model options with
  | error cause => exact covers_failed cause
  | ok request =>
      refine covers_await fun reply statics => ?_
      cases reply with
      | error reason => exact ⟨.error reason, rfl⟩
      | ok answer =>
          refine ⟨.ok (rawAnswer answer), ?_⟩
          have only : aggregationOnly options.text = options.startsWithAggregation := rfl
          have results : (rawAnswer answer).hits.map (resultOf options.text) =
              answer.hits.map (Elastic.resultOf options) := by
            simp only [rawAnswer, List.map_map]
            exact List.map_congr_left fun hit _ => resultOf_text options hit
          have agree := parsedAggregations_text options answer
          cases parsed : parsedAggregations options.text (rawAnswer answer) with
          | error cause =>
              simp only [searchCallback, searchResult, parsed, ← agree]
              rfl
          | ok aggregations =>
              simp only [searchCallback, searchResult, parsed, ← agree, only, results]
              cases options.startsWithAggregation <;> rfl

/-- The document of a query model that createQueryModelFromDocument fills. -/
def documentModel (document : JsonObject) : QueryModel := { queries := some { queryParameters := document } }

theorem covers_executeBulkIndex (stays : Stays) (document : JsonObject) :
    Covers (orFailed (executeBulkIndex stays index [documentModel document])) (fun _ => ())
      (Elastic.executeBulkIndex stays document) id := by
  refine covers_await fun reply statics => ?_
  rcases reply with reason | _ | _
  · exact ⟨.error reason, rfl⟩
  · exact ⟨.ok ⟨false, []⟩, rfl⟩
  · exact ⟨.ok ⟨true, []⟩, rfl⟩

theorem covers_executeDeleteDocument (id : String) :
    Covers (whenComplete (.delete index id) deleteCallback) (fun _ => ()) (Elastic.executeDeleteDocument id)
      fun _ => () := by
  refine covers_await fun reply statics => ?_
  rcases reply with reason | _ | _
  · exact ⟨.error reason, rfl⟩
  · exact ⟨.ok .notFound, rfl⟩
  · exact ⟨.ok .deleted, rfl⟩

theorem covers_executeExistenceCheck (id : String) :
    Covers (whenComplete (.exists_ index id) existsCallback) (fun _ => ()) (Elastic.executeExistenceCheck id)
      fun _ => () := by
  refine covers_await fun reply statics => ⟨reply, ?_⟩
  rcases reply with reason | _ | _ <;> rfl

theorem covers_executeUpdate (stays : Stays) (id : String) (document : JsonObject) :
    Covers (orFailed (executeUpdate stays index id (some (documentModel document)))) (fun _ => ())
      (Elastic.executeUpdate stays id document) fun _ => () := by
  refine covers_await fun reply statics => ⟨reply, ?_⟩
  rcases reply with reason | _ <;> rfl

end Tgdex.Elastic.Client
