import Tgdex.Elastic.Service
import Tgdex.Items.Codec

namespace Tgdex.Items

open Tgdex.Data Tgdex.Java Tgdex.Effects Tgdex.Elastic Tgdex.Query

/-! # ItemServiceImpl -/

/-- What the service needs to know about its surroundings.  `held` tells which
arrays and objects of an item's JSON are a JsonArray or a JsonObject when the
item is answered with. -/
structure Config where
  unicode : Unicode
  wire : Wire
  held : Stays
  vocContext : String

variable (config : Config)

def idMissing : Throwable := .runtime "ID not present in request"

def createItem (item : Item) : Future Unit :=
  match item.getId with
  | none => Future.failed idMissing
  | some id =>
      if isBlank id then Future.failed idMissing
      else
        Future.compose (getSingleDocument (termQuery "id.keyword" id)) fun (_, statics) =>
          if statics.totalHits > 0 then Future.failed (.runtime "Item with ID already exists")
          else createDocuments config.wire item.toJson

structure ItemResponse where
  source : Option JsonObject
  totalHits : Nat

def ownershipCheck (unicode : Unicode) (source : Option JsonObject) (subId : Option String) :
    Except Throwable Bool := do
  let source ← nonNull source
  if (source.getString "accessPolicy").any (equalsIgnoreCase unicode "private") then do
    let subId ← nonNull subId
    if subId.isEmpty then return false
    else do
      let ownerUserId ← nonNull (source.getString "ownerUserId")
      return equalsIgnoreCase unicode ownerUserId subId
  else return true

/-- What the handler of the found document completes the promise with; an
exception in it leaves the promise open. -/
def getItemResult (unicode : Unicode) (subId : Option String) :
    Settled (ElasticsearchResponse × Statics) → Settled ItemResponse
  | .success (response, statics) =>
      if statics.totalHits = 0 then .success ⟨response.source, 0⟩
      else
        match ownershipCheck unicode response.source subId with
        | .ok true => .success ⟨response.source, statics.totalHits⟩
        | .ok false => .failure (.runtime "Ownership check failed")
        | .error _ => .pending
  | .failure cause => .failure (.runtime ("Failed to retrieve item: " ++ cause.getMessage))
  | .pending => .pending

def getItem (itemId : String) (subId : Option String) : Future ItemResponse :=
  (getSingleDocument ((getItemQueryModel itemId).queries.getD {})).bind fun settled =>
    .done (getItemResult config.unicode subId settled)

def referenceFields : List String := ["resourceGroup", "provider", "resourceServer", "cos"]

def deleteQuery (id : String) : QueryModel :=
  shouldQuery (termQuery "id.keyword" id :: referenceFields.map fun field => termQuery (field ++ ".keyword") id) none

/-- The failure of the last call is worded anew. -/
def deleteResult : Settled Unit → Settled Unit
  | .failure cause => .failure (.runtime ("Failed to delete item: " ++ cause.getMessage))
  | settled => settled

def deleteItem (id : String) : Future Unit :=
  if isBlank id then Future.failed idMissing
  else
    Future.compose (getSingleDocument (deleteQuery id)) fun (result, statics) =>
      if statics.totalHits > 1 then
        Future.failed (.runtime "Item has associated entities and cannot be deleted")
      else if statics.totalHits < 1 then Future.failed (.runtime "Item not found for deletion")
      else (deleteDocument result.docId).bind fun settled => .done (deleteResult settled)

def idOrTypeMissing : Throwable := .runtime "ID or Type missing in update request"

def updateQuery (id type : String) : QueryModel :=
  mustQuery [termQuery "id.keyword" id, matchQuery "type.keyword" type]

def updateItem (item : Item) : Except Throwable (Future Unit) := do
  let types ← nonNull (← item.getType)
  let type ← firstText types
  match item.getId, type with
  | some id, some type =>
      if isBlank id || isBlank type then return Future.failed idOrTypeMissing
      else
        return Future.compose (getSingleDocument (updateQuery id type)) fun (_, statics) =>
          if statics.totalHits = 0 then Future.failed (.runtime "Item not found for update")
          else updateDocument config.wire id item.toJson
  | _, _ => return Future.failed idOrTypeMissing

def detailItemNotFound : String := "Item not found"

def nameLookupResult : Settled (ElasticsearchResponse × Statics) → Settled (Item × Statics)
  | .success (result, statics) =>
      match result.source with
      | none => .failure (.runtime detailItemNotFound)
      | some source =>
          if source.fields.isEmpty then .failure (.runtime detailItemNotFound)
          else
            match from_ source with
            | .ok item => .success (item, statics)
            | .error _ => .failure (.runtime "Fail: Unable to parse existing item")
  | .failure _ => .failure (.runtime "Fail: Error while checking item existence")
  | .pending => .pending

def itemWithTheNameExists (type : String) (name : Option String) : Except Throwable (Future (Item × Statics)) := do
  let queryModel ← buildGetItemWithNameExistsQuery type name
  return (getSingleDocument queryModel).bind fun settled => .done (nameLookupResult settled)

end Tgdex.Items
