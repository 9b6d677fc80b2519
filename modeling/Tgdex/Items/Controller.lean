import Tgdex.Items.Validator

namespace Tgdex.Items

open Tgdex.Data Tgdex.Java Tgdex.Effects Tgdex.Elastic Tgdex.Query

/-! # ItemController and the handlers in front of it -/

/-- What a handler hands over: a finished response, or a failure for the
router's failure handler. -/
inductive Outcome where
  | ended (status : Nat) (body : JsonObject)
  | failed (status : Nat) (cause : Throwable)
deriving BEq

def Outcome.status : Outcome → Nat
  | .ended status _ | .failed status _ => status

/-- The outcomes of one request.  There is none when a handler leaves the
request to time out. -/
abbrev Handler := Work (List Outcome)

structure Caller where
  token : Option String := none
  user : Option JsonObject := none

/-- An exception that leaves a handler fails the request. -/
def orFail : Except Throwable Handler → Handler
  | .ok handler => handler
  | .error cause => .done [.failed 500 cause]

abbrev Guard := Option Outcome

def guarded (guard : Guard) (handler : Handler) : Handler :=
  match guard with
  | some outcome => .done [outcome]
  | none => handler

def checkIfTokenPresent (caller : Caller) : Guard :=
  if caller.token.all isBlank then some (.failed 500 (.dxUnauthorized "Missing Bearer token")) else none

inductive ItemType where
  | aiModel
  | dataBank
  | apps
deriving Repr, DecidableEq

def ItemType.typeValue : ItemType → String
  | .aiModel => itemTypeAiModel
  | .dataBank => itemTypeDataBank
  | .apps => itemTypeApps

def ItemType.name : ItemType → String
  | .aiModel => "AI_MODEL"
  | .dataBank => "DATA_BANK"
  | .apps => "APPS"

/-- The roles in the order of their enumeration. -/
def dxRoles : List (String × List ItemType) :=
  [("consumer", []), ("provider", [.aiModel, .dataBank]), ("cos_admin", [.apps]), ("org_admin", []),
   ("compute", [])]

section

variable (unicode : Unicode)

def fromTypeValue (value : Option String) : Option ItemType :=
  value.bind fun value =>
    [ItemType.aiModel, .dataBank, .apps].find? fun type => equalsIgnoreCase unicode type.typeValue value

def roleAllows (requested : ItemType) (role : Json) : Except Throwable Bool := do
  let roleName := unicode.lowerCase (← toText role)
  match dxRoles.find? fun role => equalsIgnoreCase unicode role.1 roleName with
  | some role => return role.2.contains requested
  | none => return false

def textOf : Json → Option String
  | .null => none
  | value => some (javaText value)

def verifyItemTypeAndRole (caller : Caller) (body : Option JsonObject) : Except Throwable Guard :=
  match caller.user with
  | none => .ok (some (.failed 500 (.dxUnauthorized "No User Found")))
  | some principal => do
      match ← principal.getJsonObject "realm_access" with
      | none => return some (.failed 500 (.dxForbidden "User don't have any assigned role"))
      | some realmAccess =>
          if !realmAccess.containsKey "roles" then
            return some (.failed 500 (.dxForbidden "User don't have any assigned role"))
          else do
            let types ← nonNull (← (← nonNull body).getJsonArray "type")
            let first ← match types with
              | [] => .error .indexOutOfBounds
              | type :: _ => pure (textOf type)
            let userRoles ← realmAccess.getJsonArray "roles"
            match fromTypeValue unicode first with
            | none =>
                return some (.failed 500 (.dxForbidden ("Unsupported item type: " ++ first.getD "null")))
            | some requested => do
                let allowed ← (← nonNull userRoles).anyM (roleAllows unicode requested)
                if allowed then return none
                else
                  return some (.failed 500
                    (.dxForbidden ("User does not have sufficient role for item type: " ++ requested.name)))

end

/-- RespBuilder.getResponse.  The results are a JsonObject or a JsonArray, which
is never taken for empty. -/
def getResponse (held : Stays) (type title detail : String) (results : Option Json) : JsonObject :=
  let texts : JsonObject := ⟨[("type", .str type), ("title", .str title), ("detail", .str detail)]⟩
  ⟨(texts.encoded .nowhere).fields ++ results.toList.map fun value => ("results", value.encoded held)⟩

theorem results_getResponse (held : Stays) (type title detail : String) (results : Json) :
    (getResponse held type title detail (some results)).get? "results" = some (results.encoded held) := by
  have none_ : (JsonObject.encoded ⟨[("type", .str type), ("title", .str title), ("detail", .str detail)]⟩
      .nowhere).fields.lookup "results" = none := lookup_encodedFields _ _ _
  simp [getResponse, JsonObject.get?, List.lookup_append, none_]

def respond (held : Stays) (status : Nat) (type title detail : String) (results : Option Json) : Outcome :=
  .ended status (getResponse held type title detail results)

def sendError (status : Nat) (type title detail : String) : Outcome := respond .nowhere status type title detail none

def sendSuccess (held : Stays) (status : Nat) (detail : String) (document : JsonObject) : Outcome :=
  respond held status "urn:dx:cat:Success" "Success" detail (some (.obj document.fields))

def handleOperationError (cause : Throwable) : Outcome :=
  sendError 400 "urn:dx:cat:OperationNotAllowed" "Operation not allowed" cause.getMessage

def handleValidationFailure (unicode : Unicode) (cause : Throwable) : Outcome :=
  if equalsIgnoreCase unicode incorrectId.getMessage cause.getMessage then
    sendError 400 "urn:dx:cat:InvalidUUID" "Invalid syntax of uuid" "Syntax of the UUID is incorrect"
  else
    sendError 400 "urn:dx:cat:LinkValidationFailed" "Link Validation Failed" cause.getMessage

/-- A ResponseBuilder response: what is sent is encoded from plain maps and lists. -/
def send (fields : List (String × Json)) : Outcome :=
  .ended 200 (JsonObject.encoded ⟨[("type", .str "urn:dx:cat:Success"), ("title", .str "Success")] ++ fields⟩ .nowhere)

/-- ResponseBuilder.sendSuccess with a total. -/
def sendHits (results : List Json) (totalHits : Nat) (pagination : Option JsonObject) : Outcome :=
  send ([("totalHits", .num (toString totalHits)), ("results", .arr results)] ++
    pagination.toList.map fun info => ("paginationInfo", .obj info.fields))

def itemTypes : List String :=
  ["iudx:Resource", "iudx:ResourceGroup", "iudx:ResourceServer", "iudx:Provider", "iudx:COS", "iudx:Owner",
   itemTypeAiModel, itemTypeDataBank, itemTypeApps]

/-- The known types that the body names, joined; there is no set order. -/
def extractAndValidateItemType (body : JsonObject) : Option String :=
  match body.getJsonArray "type" with
  | .ok (some types) =>
      let known := itemTypes.filter (containsText types)
      if known.isEmpty then none else some (", ".intercalate known)
  | _ => none

def isCatalogueType (itemType : String) : Bool :=
  itemType = itemTypeAiModel || itemType = itemTypeDataBank || itemType = itemTypeApps

def injectKeycloakInfoIfApplicable (caller : Caller) (body : JsonObject) (itemType : String) :
    Except Throwable JsonObject :=
  if isCatalogueType itemType then do
    let principal ← nonNull caller.user
    let kcId := nullable (principal.getString "sub")
    let orgName := nullable (principal.getString "organisation_name")
    return ((body.put "ownerUserId" kcId).put "department" orgName).put "uploadedBy" orgName
  else return body

/-- validateItemExistence: an unsupported type is answered at once and never
completes the promise. -/
def validateItemExistence (itemType : String) (body : JsonObject) (method : Method) (moment : Moment) :
    Except Throwable (Option (Future JsonObject)) :=
  if itemType = itemTypeAiModel then some <$> validateAiModel body method moment
  else if itemType = itemTypeDataBank then some <$> validateDataBank body method moment
  else if itemType = itemTypeApps then some <$> validateApps body method moment
  else .ok none

def invalidSchema (detail : String) : Outcome :=
  sendError 400 "urn:dx:cat:InvalidSchema" "Invalid Schema" detail

def writeOutcome (held : Stays) (status : Nat) (detail : String) (item : Item) : Settled Unit → List Outcome
  | .success () => [sendSuccess held status detail item.toJson]
  | .failure cause => [handleOperationError cause]
  | .pending => []

section

variable (config : Config)

def storeItem (method : Method) (item : Item) : Except Throwable Handler :=
  match method with
  | .post => .ok ((createItem config item).bind fun settled =>
      .done (writeOutcome config.held 201 "Success: Item created" item settled))
  | .put => do
      let update ← updateItem config item
      return update.bind fun settled => .done (writeOutcome config.held 200 "Success: Item updated successfully" item settled)

def processItemCreationOrUpdate (method : Method) (body : JsonObject) : Handler :=
  match parse body >>= storeItem config method with
  | .ok handler => handler
  | .error cause => .done [sendError 400 "urn:dx:cat:InvalidSyntax" "Invalid Syntax" cause.getMessage]

def onValidated (method : Method) : Settled JsonObject → Handler
  | .success body => processItemCreationOrUpdate config method body
  | .failure cause => .done [handleValidationFailure config.unicode cause]
  | .pending => .done []

def handleCreateOrUpdateItem (caller : Caller) (method : Method) (body : Option JsonObject) (moment : Moment) :
    Except Throwable Handler := do
  let body ← nonNull body
  match extractAndValidateItemType body with
  | none => return .done [invalidSchema "Invalid type for item/type not present"]
  | some itemType => do
      let document ← injectKeycloakInfoIfApplicable caller body itemType
      let document := (document.put "@context" (.str config.vocContext)).remove "httpMethod"
      match ← validateItemExistence itemType document method moment with
      | none => return .done [invalidSchema ("Unsupported item type: " ++ itemType)]
      | some validation => return validation.bind (onValidated config method)

/-- The route of POST and PUT. -/
def createOrUpdate (caller : Caller) (method : Method) (body : Option JsonObject) (moment : Moment) : Handler :=
  guarded (checkIfTokenPresent caller) <| orFail do
    let guard ← verifyItemTypeAndRole config.unicode caller body
    return guarded guard (orFail (handleCreateOrUpdateItem config caller method body moment))

def notBlank (id : Option String) : Option String := id.filter fun id => !isBlank id

def getOutcome : Settled ItemResponse → List Outcome
  | .success response =>
      if response.totalHits = 0 then
        [respond .nowhere 404 "urn:dx:cat:ItemNotFound" "error" "doc doesn't exist" (some (.arr []))]
      else
        [sendHits [(response.source.map fun source => Json.obj source.fields).getD .null] response.totalHits none]
  | .failure cause => [.failed 500 cause]
  | .pending => []

def handleGetItem (caller : Caller) (id : Option String) : Handler :=
  match notBlank id with
  | none => .done [.failed 400 (.illegalArgument "Item ID is required")]
  | some itemId =>
      let subId := match caller.user with
        | none => some ""
        | some principal => principal.getString "sub"
      (getItem config itemId subId).bind fun settled => .done (getOutcome settled)

def deleteOutcome (id : String) : Settled Unit → List Outcome
  | .success () =>
      [respond .nowhere 200 "urn:dx:cat:Success" "Success" "Success: Item deleted successfully"
        (some (.arr [.obj [("id", .str id)]]))]
  | .failure cause => [handleOperationError cause]
  | .pending => []

def handleDeleteItem (id : Option String) : Handler :=
  match notBlank id with
  | none => .done [sendError 400 "urn:dx:cat:InvalidSyntax" "Invalid Syntax" "id not present in the request"]
  | some id => (deleteItem id).bind fun settled => .done (deleteOutcome id settled)

def deleteRoute (caller : Caller) (id : Option String) : Handler :=
  guarded (checkIfTokenPresent caller) (handleDeleteItem id)

end

inductive ItemRequest where
  | post (caller : Caller) (body : Option JsonObject) (moment : Moment)
  | put (caller : Caller) (body : Option JsonObject) (moment : Moment)
  | get (caller : Caller) (id : Option String)
  | delete (caller : Caller) (id : Option String)

def ItemRequest.handler (config : Config) : ItemRequest → Handler
  | .post caller body moment => createOrUpdate config caller .post body moment
  | .put caller body moment => createOrUpdate config caller .put body moment
  | .get caller id => handleGetItem config caller id
  | .delete caller id => deleteRoute caller id

end Tgdex.Items
