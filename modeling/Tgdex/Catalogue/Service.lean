import Tgdex.Effects.Pool
import Tgdex.Elastic.Service

namespace Tgdex.Catalogue

open Tgdex.Data Tgdex.Java Tgdex.Effects Tgdex.Elastic

/-! # CatalogueServiceImpl

The cache is what all operations share.  A callback changes it in one step and
may throw midway; what it has changed until then stays, and its promise is not
completed. -/

/-- The Guava cache, which never evicts here. -/
abbrev Cache := String → Option JsonObject

namespace Cache

def empty : Cache := fun _ => none

def put (cache : Cache) (key : String) (value : JsonObject) : Cache :=
  fun other => if other = key then some value else cache other

end Cache

/-- A reply of the client; `none` is a null array or an empty Optional. -/
abbrev Response := Except Throwable (Option (List Json))

/-- The cast of an element of the response, and the entry that is put for it:
the cache takes neither a null key nor a null value. -/
def objectOf : Json → Except Throwable JsonObject
  | .obj fields => .ok ⟨fields⟩
  | .null => .error .nullPointer
  | _ => .error .classCast

def catalogueEntry (result : Json) : Except Throwable (String × JsonObject) := do
  let res ← objectOf result
  return (← nonNull (res.getString "id"), res)

def idEntry (id : String) (result : Json) : Except Throwable (String × JsonObject) := do
  return (id, ← objectOf result)

section

variable (entry : Json → Except Throwable (String × JsonObject))

/-- What the loop leaves in the cache; the first element without an entry ends it. -/
def putResults : List Json → Cache → Cache
  | [], cache => cache
  | result :: rest, cache =>
      match entry result with
      | .ok (key, value) => putResults rest (cache.put key value)
      | .error _ => cache

/-- The promise is completed after the loop. -/
def completeAfter (results : List Json) : Settled Unit :=
  match results.mapM entry with
  | .ok _ => .success ()
  | .error _ => .pending

end

def refreshCatalogueResult : Response → Settled Unit
  | .ok none => .success ()
  | .ok (some results) => completeAfter catalogueEntry results
  | .error cause => .failure cause

def refreshCatalogueCache (response : Response) (cache : Cache) : Cache :=
  match response with
  | .ok (some results) => putResults catalogueEntry results .empty
  | _ => cache

def badRequest : Throwable := .dxBadRequest "Bad Request"

def idCatalogueInfoResult (id : String) : Response → Settled Unit
  | .ok none => .failure badRequest
  | .ok (some results) => completeAfter (idEntry id) results
  | .error cause => .failure cause

def idCatalogueInfoCache (id : String) (response : Response) (cache : Cache) : Cache :=
  match response with
  | .ok (some results) => putResults (idEntry id) results cache
  | _ => cache

/-- `getIfPresent` is no call of the client: it lets an operation begin with a
look at the cache. -/
inductive Call where
  | getIfPresent
  | fetchCatalogueData
  | getCatalogueInfoForId (id : String)

abbrev Reply : Call → Type
  | .getIfPresent => Unit
  | .fetchCatalogueData | .getCatalogueInfoForId _ => Response

abbrev Operation (α : Type) : Type := Task Call Reply Cache α

def refreshCatalogue : Operation (Settled Unit) :=
  .await .fetchCatalogueData fun response _ => .done (refreshCatalogueResult response)

def idCatalogueInfo {α : Type} (id : String) (handler : Settled Unit → Cache → Operation α) : Operation α :=
  .await (.getCatalogueInfoForId id) fun response cache => handler (idCatalogueInfoResult id response) cache

def fetchCatalogueInfo (id : String) : Operation (Settled JsonObject) :=
  .await .getIfPresent fun _ cache =>
    match cache id with
    | some info => .done (.success info)
    | none =>
        idCatalogueInfo id fun settled cache =>
          match settled with
          | .success () =>
              match cache id with
              | some info => .done (.success info)
              | none => .done (.failure badRequest)
          | .failure cause => .done (.failure cause)
          | .pending => .done .pending

inductive Request where
  | refreshCatalogue
  | fetchCatalogueInfo (id : String)

inductive Answer where
  | refreshed (settled : Settled Unit)
  | fetched (id : String) (settled : Settled JsonObject)

def operation : Request → Operation Answer
  | .refreshCatalogue => Catalogue.refreshCatalogue.bind fun settled => .done (.refreshed settled)
  | .fetchCatalogueInfo id => (Catalogue.fetchCatalogueInfo id).bind fun settled => .done (.fetched id settled)

/-- The catalogue server may answer anything. -/
def reply (response : Response) : (call : Call) → Reply call
  | .getIfPresent => ()
  | .fetchCatalogueData | .getCatalogueInfoForId _ => response

def receive : (call : Call) → Reply call → Cache → Cache
  | .getIfPresent, _, cache => cache
  | .fetchCatalogueData, response, cache => refreshCatalogueCache response cache
  | .getCatalogueInfoForId id, response, cache => idCatalogueInfoCache id response cache

def service : System Call Reply Cache Unit Response Request Answer :=
  .live ⟨fun call response _ => (reply response call, ()), receive⟩ operation

abbrev Requests := Pool Call Reply Cache Unit Answer

end Tgdex.Catalogue
