import Tgdex.Data.Encoding
import Tgdex.Effects.Pool
import Tgdex.Elastic.Index

namespace Tgdex.Elastic

open Tgdex.Data Tgdex.Java Tgdex.Effects

/-! # ElasticsearchServiceImpl

Operations are tasks over the calls of the client.  The single index has a
configured name, so the checks of the index argument always pass.  Callers use
the operations through the event-bus proxy. -/

/-- The static fields of ElasticsearchResponse. -/
structure Statics where
  totalHits : Nat := 0
  aggregations : Option JsonObject := none
deriving BEq, Inhabited

/-- ElasticsearchResponse without its static fields. -/
structure ElasticsearchResponse where
  docId : Option String := none
  source : Option JsonObject := none
deriving BEq, Inhabited

abbrev Work (α : Type) : Type := Task Call Reply Statics α

/-- How a future ends.  It stays pending when the callback that should complete
its promise throws. -/
inductive Settled (α : Type) where
  | success (value : α)
  | failure (cause : Throwable)
  | pending
deriving BEq

abbrev Future (α : Type) : Type := Work (Settled α)

namespace Future

variable {α β : Type}

def failed (cause : Throwable) : Future α := .done (.failure cause)

def compose (future : Future α) (next : α → Future β) : Future β :=
  future.bind fun
    | .success value => next value
    | .failure cause => failed cause
    | .pending => .done .pending

/-- What the event-bus proxy makes of the outcome of a service operation: a
failure keeps its message, and a reply that never comes times out. -/
def delivered : Settled α → Settled α
  | .success value => .success value
  | .failure cause => .failure (.serviceException cause.getMessage)
  | .pending => .failure .replyTimeout

def proxied (future : Future α) : Future α := future.bind fun settled => .done (delivered settled)

end Future

def Options.text : Options → String
  | .sourceOnly => "SOURCE"
  | .aggregationList => "AGGREGATION_LIST"
  | .countAggregationOnly => "COUNT_AGGREGATION"

/-- `options.startsWith(AGGREGATION_ONLY)`. -/
def Options.startsWithAggregation (options : Options) : Bool :=
  "AGGREGATION".toList.isPrefixOf options.text.toList

def Options.parsesAggregations (options : Options) : Bool :=
  options.startsWithAggregation || options == .countAggregationOnly

def bucketObject : Json → Except Throwable JsonObject
  | .obj fields => .ok ⟨fields⟩
  | .null => .error .nullPointer
  | _ => .error .classCast

def bucketsOf (aggregation : JsonObject) : Except Throwable (Option (List JsonObject)) :=
  if aggregation.containsKey "buckets" then do
    let buckets ← nonNull (← aggregation.getJsonArray "buckets")
    return some (← buckets.mapM bucketObject)
  else return none

def listKeys (aggregation : Json) : Except Throwable Json := do
  let buckets ← bucketsOf (← bucketObject aggregation)
  return .arr ((buckets.getD []).map fun bucket => nullable (bucket.getString "key"))

def docCount (bucket : JsonObject) : Except Throwable Json :=
  match bucket.get? "doc_count" with
  | none | some .null => .ok .null
  | some (.num literal) => .ok (.num literal)
  | some _ => .error .classCast

def countEntry (bucket : JsonObject) : Except Throwable (String × Json) := do
  let key ← nonNull (bucket.getString "key")
  return (key, ← docCount bucket)

def putAll (entries : List (String × Json)) : JsonObject :=
  entries.foldl (fun object entry => object.put entry.1 entry.2) .empty

def parseAggregations (rawAggs : Option JsonObject) : Options → Except Throwable JsonObject
  | .aggregationList =>
      match rawAggs with
      | none => .ok .empty
      | some aggs => do
          let entries ← aggs.fields.mapM fun entry => do return (entry.1, ← listKeys entry.2)
          return putAll entries
  | .countAggregationOnly =>
      match rawAggs with
      | none => .ok .empty
      | some aggs => do
          match ← aggs.getJsonObject "results" with
          | none => return .empty
          | some results =>
              let entries ← ((← bucketsOf results).getD []).mapM countEntry
              return putAll entries
  | .sourceOnly => .ok (rawAggs.getD .empty)

/-- The argument of `setTotalHits`, if it is called. -/
def countWritten : (call : Call) → Reply call → Option Nat
  | .singleSearch _, .ok answer =>
      if answer.total = 0 then some 0 else answer.hits.head?.map fun _ => answer.total
  | .search _ options, .ok answer => if options.startsWithAggregation then none else some answer.total
  | _, _ => none

/-- The argument of `setAggregations`, if it is called: an empty result is not
written. -/
def aggregationsWritten : (call : Call) → Reply call → Option JsonObject
  | .search _ options, .ok answer =>
      if options.parsesAggregations then
        match parseAggregations answer.aggregations options with
        | .ok parsed => if parsed.fields.isEmpty then none else some parsed
        | .error _ => none
      else none
  | _, _ => none

def receive (call : Call) (reply : Reply call) (statics : Statics) : Statics where
  totalHits := (countWritten call reply).getD statics.totalHits
  aggregations := (aggregationsWritten call reply).or statics.aggregations

def Engine.backend (engine : Engine) : Backend Call Reply Statics Index Choice where
  execute := engine.execute
  receive := receive

/-- The source without its summary, encoded once more from plain maps and lists. -/
def readSource (source : JsonObject) : JsonObject := (source.remove "_summary").encoded .nowhere

/-- Encoding what was read changes nothing. -/
theorem encoded_readSource (source : JsonObject) :
    (Json.obj (readSource source).fields).encoded .nowhere = .obj (readSource source).fields :=
  Json.encoded_nowhere_encoded (.obj (source.remove "_summary").fields) .nowhere

theorem get?_readSource (source : JsonObject) {key : String} (other : key ≠ "_summary") :
    (readSource source).get? key = (source.get? key).bind (Stays.nowhere.entry key) := by
  rw [readSource, JsonObject.get?_encoded, JsonObject.get?_remove, if_neg other]

theorem readSource_text {source : JsonObject} {key text : String} (stored : source.get? key = some (.str text))
    (visible : text ≠ "") (other : key ≠ "_summary") : (readSource source).get? key = some (.str text) := by
  rw [get?_readSource source other, stored, Option.bind_some, Stays.entry_str, if_neg visible]

/-- What the callback of a search for one document completes its promise with,
beside the static fields as the waiting handler finds them. -/
def singleResult : Except String SearchAnswer → Statics → Settled (ElasticsearchResponse × Statics)
  | .error _, _ => .failure (.runtime "Search error")
  | .ok answer, statics =>
      if answer.total = 0 then .success ({}, statics)
      else
        match answer.hits.head? with
        | none => .pending
        | some hit => .success (⟨some hit.id, some (readSource hit.source)⟩, statics)

def performSingleSearch (model : QueryModel) : Future (ElasticsearchResponse × Statics) :=
  match model.toElasticsearchQuery with
  | .error cause => Future.failed cause
  | .ok query => .await (.singleSearch query) fun reply statics => .done (singleResult reply statics)

def getSingleDocument (model : QueryModel) : Future (ElasticsearchResponse × Statics) :=
  Future.proxied (performSingleSearch model)

def validateId : Option String → Settled Unit
  | none => .failure (.illegalArgument "Document ID cannot be null or empty")
  | some id =>
      if trimsToEmpty id then .failure (.illegalArgument "Document ID cannot be null or empty") else .success ()

/-- A failed bulk call leaves its callback with a null response. -/
def executeBulkIndex (stays : Stays) (document : JsonObject) : Future Unit :=
  .await (.bulkIndex (document.getString "id") (document.encoded stays)) fun reply _ => .done <|
    match reply with
    | .error _ => .pending
    | .ok true => .failure (.runtime "Bulk index error")
    | .ok false => .success ()

/-- The document travels in the parameters of a query model.  `carry` is what
the generated converter of query models makes of them: it leaves null entries
out.  What arrives is encoded by a mapper that leaves out whatever is empty, and
`stays` tells which arrays and objects are held by a JsonArray or a JsonObject,
which are empty for the mapper only when they are null. -/
structure Wire where
  carry : JsonObject → JsonObject
  carry_get? : ∀ document key, (carry document).get? key = document.given? key
  stays : Stays

namespace Wire

variable (wire : Wire) (document : JsonObject) (key : String)

/-- A document as it is sent to the index. -/
def written : JsonObject := (wire.carry document).encoded wire.stays

theorem get?_written : (wire.written document).get? key = (document.get? key).bind (wire.stays.entry key) := by
  rw [written, JsonObject.get?_encoded, wire.carry_get?, JsonObject.given?]
  split
  · rename_i null
    rw [null]
    rfl
  · rfl

variable {document key}

theorem carry_text {text : String} (stored : document.get? key = some (.str text)) :
    (wire.carry document).get? key = some (.str text) := by
  rw [wire.carry_get?, JsonObject.given?_eq_some]
  exact ⟨by simp, stored⟩

theorem written_text {text : String} (stored : document.get? key = some (.str text)) (visible : text ≠ "") :
    (wire.written document).get? key = some (.str text) := by
  rw [get?_written, stored, Option.bind_some, Stays.entry_str, if_neg visible]

theorem written_nullable {text : Option String} (stored : document.get? key = some (nullable text)) :
    (wire.written document).get? key = (notEmpty text).map .str := by
  rw [get?_written, stored, Option.bind_some]
  cases text with
  | none => rfl
  | some text => by_cases empty : text = "" <;> simp [nullable, Stays.entry_str, notEmpty, Option.filter, empty]

end Wire

def createDocuments (wire : Wire) (document : JsonObject) : Future Unit :=
  Future.proxied (executeBulkIndex wire.stays (wire.carry document))

def executeDeleteDocument (id : String) : Future Unit :=
  .await (.delete id) fun reply _ => .done <|
    match reply with
    | .error _ => .failure (.runtime "Delete error")
    | .ok false => .failure (.runtime "Document not found")
    | .ok true => .success ()

def deleteDocument (id : Option String) : Future Unit :=
  Future.proxied (Future.compose (.done (validateId id)) fun _ => executeDeleteDocument (id.getD ""))

def executeExistenceCheck (id : String) : Future Unit :=
  .await (.exists_ id) fun reply _ => .done <|
    match reply with
    | .error _ => .failure (.runtime "Existence check failed")
    | .ok false => .failure (.runtime "Document not found")
    | .ok true => .success ()

def executeUpdate (stays : Stays) (id : String) (partialDocument : JsonObject) : Future Unit :=
  .await (.update id (partialDocument.encoded stays)) fun reply _ => .done <|
    match reply with
    | .error _ => .failure (.runtime "Update error")
    | .ok () => .success ()

def updateDocument (wire : Wire) (id : String) (document : JsonObject) : Future Unit :=
  Future.proxied <| Future.compose (.done (validateId (some id))) fun _ =>
    Future.compose (executeExistenceCheck id) fun _ => executeUpdate wire.stays id (wire.carry document)

def castInteger (parameters : JsonObject) (key : String) : Except Throwable (Option Int) :=
  match parameters.get? key with
  | none | some .null => .ok none
  | some (.num literal) =>
      match literal.toInt? with
      | some value => .ok (some value)
      | none => .error .classCast
  | some _ => .error .classCast

def QueryModel.toElasticsearchAggregations (model : QueryModel) : Except Throwable TermsAggregation :=
  match model.aggregationType with
  | none => .error (.illegalArgument "Invalid aggregation configuration")
  | some .terms =>
      match requiredText model.aggregationParameters "field" with
      | none => .error .classCast
      | some field => do return ⟨field, ← castInteger model.aggregationParameters "size"⟩

/-- STRING_SIZE. -/
def defaultSize : Int := 100

def parseSize (options : Options) (model : QueryModel) : Int :=
  if options.startsWithAggregation then 0 else model.limit.getD defaultSize

def namedAggregation (model : QueryModel) : Except Throwable (String × TermsAggregation) := do
  return (model.aggregationName.getD "", ← model.toElasticsearchAggregations)

/-- The query that is sent for a model; without one every document is asked for. -/
def searchQuery (model : QueryModel) : Except Throwable (Option Query) :=
  match model.queries with
  | none => .ok none
  | some queries => some <$> queries.toElasticsearchQuery

def searchRequest (model : QueryModel) (options : Options) : Except Throwable SearchRequest := do
  let aggregations ← (model.aggregations.getD []).mapM namedAggregation
  let query ← searchQuery model
  return { query, aggregations, size := parseSize options model, from_ := model.offset,
           includes := model.includeFields, sort := model.sortFields }

def resultOf (options : Options) (hit : Hit) : ElasticsearchResponse :=
  let source := match options with
    | .sourceOnly => (hit.source.remove "_summary").remove "_word_vector"
    | _ => hit.source
  ⟨some hit.id, some source⟩

def searchResult (options : Options) :
    Except String SearchAnswer → Statics → Settled (List ElasticsearchResponse × Statics)
  | .error reason, _ => .failure (.dxInternalServerError reason)
  | .ok answer, statics =>
      let parsed := if options.parsesAggregations then parseAggregations answer.aggregations options else .ok .empty
      match parsed with
      | .error _ => .failure (.dxInternalServerError "Failed to parse search result")
      | .ok _ =>
          let hits := if options.startsWithAggregation then [] else answer.hits
          .success (hits.map (resultOf options), statics)

def executeSearch (model : QueryModel) (options : Options) : Future (List ElasticsearchResponse × Statics) :=
  match searchRequest model options with
  | .error cause => Future.failed cause
  | .ok request => .await (.search request options) fun reply statics => .done (searchResult options reply statics)

def search (model : QueryModel) (options : Options) : Future (List ElasticsearchResponse × Statics) :=
  Future.proxied (executeSearch model options)

end Tgdex.Elastic
