import Tgdex.Items.Service

namespace Tgdex.Items

open Tgdex.Data Tgdex.Java Tgdex.Effects Tgdex.Elastic Tgdex.Query

/-! # ItemExistenceValidator -/

inductive Method where
  | post
  | put
deriving Repr, DecidableEq

/-- What a request gets from the clock and the random generator. -/
structure Moment where
  randomUuid : String
  lastUpdated : String
  itemCreatedAt : String
  validUuid : isValidUuid randomUuid = true
  stamped : itemCreatedAt ≠ ""

def setCommonFields (request : JsonObject) (moment : Moment) : JsonObject :=
  ((request.put "itemStatus" (.str "ACTIVE")).put "lastUpdated" (.str moment.lastUpdated)).put "itemCreatedAt"
    (.str moment.itemCreatedAt)

def incorrectId : Throwable := .runtime "validation failed. Incorrect id"

def validateId (request : JsonObject) : Except Throwable (Option Throwable) :=
  if request.containsKey "id" then do
    let id ← nonNull (request.getString "id")
    return if isValidUuid id then none else some incorrectId
  else return none

def addId (request : JsonObject) (moment : Moment) : JsonObject :=
  if request.containsKey "id" then request else request.put "id" (.str moment.randomUuid)

/-- The promise of a request whose id was refused is failed already; whatever
follows cannot complete it again. -/
def settle {α : Type} (refused : Option Throwable) (settled : Settled α) : Settled α :=
  match refused with
  | some cause => .failure cause
  | none => settled

def mediaUrlPresent (request : JsonObject) : Except Throwable Bool :=
  if request.containsKey "mediaURL" then do
    return !isBlank (← nonNull (request.getString "mediaURL"))
  else return false

def extractDataUploadStatusFromES (res : JsonObject) : Bool :=
  match res.getBoolean "dataUploadStatus" with
  | .ok (some uploaded) => uploaded
  | _ => false

def extractMediaUrlFromES (res : JsonObject) : Bool :=
  ((res.getStringOr "mediaURL" "").map fun url => !isBlank url).getD false

def pending : String := "PENDING"

def extractPublishStatusFromES (res : JsonObject) : Option String := res.getStringOr "publishStatus" pending

mutual
/-- Whether the encoded text of a value contains `needle`, for a needle that
needs no escapes and is no number. -/
def mentions (needle : String) : Json → Bool
  | .str text => text.toList.tails.any (needle.toList.isPrefixOf ·)
  | .arr items => itemsMention needle items
  | .obj fields => fieldsMention needle fields
  | _ => false

def itemsMention (needle : String) : List Json → Bool
  | [] => false
  | item :: rest => mentions needle item || itemsMention needle rest

def fieldsMention (needle : String) : List (String × Json) → Bool
  | [] => false
  | (key, value) :: rest =>
      key.toList.tails.any (needle.toList.isPrefixOf ·) || mentions needle value || fieldsMention needle rest
end

/-- `getReturnTypeForValidation(res).contains(itemType)`. -/
def returnTypeContains (res : JsonObject) (itemType : String) : Except Throwable Bool := do
  return itemsMention itemType (← nonNull (← res.getJsonArray "type"))

def putStatus (request : JsonObject) (uploaded : Bool) (publishStatus : Option String) : JsonObject :=
  (request.put "dataUploadStatus" (.bool uploaded)).put "publishStatus" (nullable publishStatus)

def whenNotFound (method : Method) (request : JsonObject) : Except Throwable (Settled JsonObject) :=
  match method with
  | .post => do return .success (putStatus request (← mediaUrlPresent request) (some pending))
  | .put => .ok (.success request)

def whenFound (itemType alreadyExists : String) (method : Method) (request found : JsonObject) :
    Except Throwable (Settled JsonObject) := do
  let sameType ← returnTypeContains found itemType
  match method with
  | .post =>
      if sameType then return .failure (.runtime alreadyExists)
      else return .success (putStatus request (← mediaUrlPresent request) (some pending))
  | .put => do
      let present ← mediaUrlPresent request
      let uploaded := present || (extractDataUploadStatusFromES found && !extractMediaUrlFromES found)
      return .success (putStatus request uploaded (extractPublishStatusFromES found))

/-- An exception in a handler leaves its promise open. -/
def orPending {α : Type} : Except Throwable (Settled α) → Settled α
  | .ok settled => settled
  | .error _ => .pending

def validationFailure : Throwable := .runtime "Validation failed"

def onLookupFailure {α : Type} (cause : Throwable) (notFound : Settled α) : Settled α :=
  if cause.getMessage = detailItemNotFound then notFound else .failure validationFailure

def uploadableResult (itemType alreadyExists : String) (method : Method) (request : JsonObject) :
    Settled (Item × Statics) → Settled JsonObject
  | .success (item, _) => orPending (whenFound itemType alreadyExists method request item.toJson)
  | .failure cause => onLookupFailure cause (orPending (whenNotFound method request))
  | .pending => .pending

/-- The only validator that decides on the static hit count. -/
def appsResult (method : Method) (request : JsonObject) : Settled (Item × Statics) → Settled JsonObject
  | .success (_, statics) =>
      if method = .post ∧ statics.totalHits > 0 then .failure (.runtime "Fail: Apps item already exists")
      else .success request
  | .failure cause => onLookupFailure cause (.success request)
  | .pending => .pending

/-- The common part of the validators.  The id that validateDataBank adds
itself is always there already. -/
def validateNamed (itemType : String) (result : JsonObject → Settled (Item × Statics) → Settled JsonObject)
    (request : JsonObject) (moment : Moment) : Except Throwable (Future JsonObject) := do
  let refused ← validateId request
  let request := setCommonFields (addId request moment) moment
  let lookup ← itemWithTheNameExists itemType (request.getString "name")
  return lookup.bind fun settled => .done (settle refused (result request settled))

section

variable (request : JsonObject) (method : Method) (moment : Moment)

def validateAiModel : Except Throwable (Future JsonObject) :=
  validateNamed itemTypeAiModel (uploadableResult itemTypeAiModel "Fail: AI Model item already exists" method)
    request moment

def validateDataBank : Except Throwable (Future JsonObject) :=
  validateNamed itemTypeDataBank (uploadableResult itemTypeDataBank "Fail: DataBank item already exists" method)
    request moment

def validateApps : Except Throwable (Future JsonObject) :=
  validateNamed itemTypeApps (appsResult method) request moment

end

end Tgdex.Items
