import Tgdex.Catalogue.Service
import Tgdex.Effects.Promise

namespace Tgdex.Catalogue

open Tgdex.Data Tgdex.Java Tgdex.Effects

/-! # The owners of providers

The lookup of CatalogueServiceImpl for the user who owns a provider, and the
HTTP call of CatalogueClientImpl behind it. -/

namespace Owners

/-- What the body of a response is: missing, not JSON, or a JSON value. -/
inductive Body where
  | missing
  | malformed
  | json (value : Json)

structure HttpResponse where
  statusCode : Nat
  body : Body

/-- A failed result carries no response. -/
inductive AsyncResult where
  | succeeded (response : HttpResponse)
  | failed (cause : String)

def AsyncResult.result : AsyncResult → Option HttpResponse
  | .succeeded response => some response
  | .failed _ => none

/-- What the promises of the lookup are failed with. -/
inductive DxException where
  | notFound (message : String)
  | badRequest (message : String)
  | internalServerError (message : String)
deriving Repr, DecidableEq

def decodeFailure : Throwable := .runtime "Failed to decode"

def bodyAsJsonObject (response : HttpResponse) : Except Throwable (Option JsonObject) :=
  match response.body with
  | .missing | .json .null => .ok none
  | .json (.obj fields) => .ok (some ⟨fields⟩)
  | .malformed | .json _ => .error decodeFailure

abbrev Handler (Value Result : Type) : Type := Procedure Throwable DxException Value Result

def complete {Value : Type} (value : Value) : Handler Value Unit := Procedure.settle .illegalState (.completed value)

def fail {Value : Type} (cause : DxException) : Handler Value Unit := Procedure.settle .illegalState (.failed cause)

def ownerOf (result : Json) : Except Throwable (Option String) := do
  let res ← objectOf result
  return (res.getString "providerUserId").or (res.getString "ownerUserId")

/-- Every element completes the promise, so that the second one throws. -/
def completeWithEach : List Json → Handler (Option String) Unit
  | [] => pure ()
  | result :: rest => do
      complete (← Procedure.attempt (ownerOf result))
      completeWithEach rest

def failureOf (message : String) (catHandler : AsyncResult) : Except Throwable DxException := do
  let response ← nonNull catHandler.result
  return if response.statusCode = 404 then .notFound message
    else if response.statusCode = 400 then .badRequest message
    else .internalServerError message

def responseResults (response : HttpResponse) : Except Throwable (List Json) := do
  let body ← nonNull (← bodyAsJsonObject response)
  nonNull (← body.getJsonArray "results")

/-- The handler of the HTTP call. -/
def ownerHandler (catHandler : AsyncResult) : Handler (Option String) Unit :=
  match catHandler with
  | .succeeded response => do completeWithEach (← Procedure.attempt (responseResults response))
  | .failed cause => do fail (← Procedure.attempt (failureOf cause catHandler))

/-- What it makes of the promise. -/
def getProviderOwnerUserId (catHandler : AsyncResult) : Promise DxException (Option String) :=
  ((ownerHandler catHandler).runOn .pending).2

abbrev OwnerCache := String → Option String

namespace OwnerCache

def put (cache : OwnerCache) (key value : String) : OwnerCache :=
  fun other => if other = key then some value else cache other

def evict (cache : OwnerCache) (key : String) : OwnerCache :=
  fun other => if other = key then none else cache other

end OwnerCache

/-- What the owner of a lookup becomes in the cache, which takes no null. -/
def providerOwnerInfoCache (id : String) (owner : Promise DxException (Option String)) (cache : OwnerCache) :
    OwnerCache :=
  match owner with
  | .completed (some owner) => cache.put id owner
  | _ => cache

def providerOwnerInfoResult (owner : Promise DxException (Option String)) : Promise DxException Unit :=
  match owner with
  | .completed (some _) => .completed ()
  | .completed none | .pending => .pending
  | .failed cause => .failed cause

/-- The calls: a look at the cache, the HTTP call, and the cache's own removal
of an entry that is too old or one too many. -/
inductive OwnerCall where
  | getIfPresent
  | getRelationship (id : String)
  | evict (id : String)

abbrev OwnerReply : OwnerCall → Type
  | .getIfPresent | .evict _ => Unit
  | .getRelationship _ => AsyncResult

abbrev Lookup (α : Type) : Type := Task OwnerCall OwnerReply OwnerCache α

def badRequestError : DxException := .badRequest "Bad Request"

/-- The cache is asked once more for the owner that was there. -/
def cachedOwner (id : String) : Lookup (Promise DxException (Option String)) :=
  .await .getIfPresent fun _ cache => .done (.completed (cache id))

def fromCache (id : String) (cache : OwnerCache) : Lookup (Promise DxException (Option String)) :=
  match cache id with
  | some _ => cachedOwner id
  | none => .done (.failed badRequestError)

def afterOwnerInfo (id : String) (cache : OwnerCache) :
    Promise DxException Unit → Lookup (Promise DxException (Option String))
  | .completed () => fromCache id cache
  | .failed cause => .done (.failed cause)
  | .pending => .done .pending

def getProviderOwnerId (id : String) : Lookup (Promise DxException (Option String)) :=
  .await .getIfPresent fun _ cache =>
    match cache id with
    | some _ => cachedOwner id
    | none =>
        .await (.getRelationship id) fun catHandler cache =>
          afterOwnerInfo id cache (providerOwnerInfoResult (getProviderOwnerUserId catHandler))

inductive OwnerRequest where
  | getProviderOwnerId (id : String)
  | evict (id : String)

inductive OwnerAnswer where
  | owner (id : String) (settled : Promise DxException (Option String))
  | evicted

def lookup : OwnerRequest → Lookup OwnerAnswer
  | .getProviderOwnerId id => (Owners.getProviderOwnerId id).bind fun settled => .done (.owner id settled)
  | .evict id => .await (.evict id) fun _ _ => .done .evicted

/-- The catalogue server may answer anything. -/
def reply (catHandler : AsyncResult) : (call : OwnerCall) → OwnerReply call
  | .getIfPresent | .evict _ => ()
  | .getRelationship _ => catHandler

def receive : (call : OwnerCall) → OwnerReply call → OwnerCache → OwnerCache
  | .getIfPresent, _, cache => cache
  | .getRelationship id, catHandler, cache => providerOwnerInfoCache id (getProviderOwnerUserId catHandler) cache
  | .evict id, _, cache => cache.evict id

def backend : Backend OwnerCall OwnerReply OwnerCache Unit AsyncResult :=
  ⟨fun call catHandler _ => (reply catHandler call, ()), receive⟩

def service : System OwnerCall OwnerReply OwnerCache Unit AsyncResult OwnerRequest OwnerAnswer := .live backend lookup

abbrev Lookups := Pool OwnerCall OwnerReply OwnerCache Unit OwnerAnswer

end Owners

end Tgdex.Catalogue
