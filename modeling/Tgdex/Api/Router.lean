import Tgdex.Api.Authentication
import Tgdex.Api.Responses
import Tgdex.Search.Controller
import Tgdex.Server

namespace Tgdex.Api

open Tgdex.Data Tgdex.Java Tgdex.Effects Tgdex.Elastic Tgdex.Query Tgdex.Items Tgdex.Search

/-! # The routes of the API

Every operation has its security handler, the validation of the API description
and then the handlers that its controller registers, the auditing handler last. -/

/-- The operations, by their ids in the API description. -/
inductive Operation where
  | search
  | myAssetsSearch
  | count
  | listAvailableFilters
  | createItem
  | updateItem
  | getItem
  | deleteItem
deriving Repr, DecidableEq

def Operation.security : Operation → Security
  | .search | .count | .listAvailableFilters | .getItem => .optionalAuth
  | .myAssetsSearch | .createItem | .updateItem | .deleteItem => .authorization

/-- A request: the header, the body and the query parameters that handlers
read, and the moment and the random id that it is served with. -/
structure HttpRequest where
  operation : Operation
  authorization : Option String := none
  body : Option JsonObject := none
  id : Option String := none
  size : Option String := none
  page : Option String := none
  sort : Option String := none
  moment : Moment

/-- What a handler of a route leaves: it hands the request on, having registered
an audit at the end of the body or not, or it stops at its outcomes. -/
inductive Reaction where
  | next (audits : Bool)
  | stop (outcomes : List Outcome)

abbrev RouteHandler := Work Reaction

/-- How a request leaves its chain. -/
structure Handled where
  outcomes : List Outcome
  audited : Bool

def runChain : List RouteHandler → Bool → Work Handled
  | [], audited => .done ⟨[], audited⟩
  | handler :: rest, audited =>
      handler.bind fun
        | .next audits => runChain rest (audited || audits)
        | .stop outcomes => .done ⟨outcomes, audited⟩

/-- A handler that fails the request or hands it on. -/
def guardHandler (guard : Guard) : RouteHandler :=
  match guard with
  | some outcome => .done (.stop [outcome])
  | none => .done (.next false)

def verifyHandler : Except Throwable Guard → RouteHandler
  | .ok guard => guardHandler guard
  | .error cause => .done (.stop [.failed 500 cause])

/-- A handler that ends the response or fails, and never calls `next`. -/
def lastHandler (handler : Handler) : RouteHandler := handler.bind fun outcomes => .done (.stop outcomes)

/-- AuditingHandler.handleApiAudit. -/
def handleApiAudit : RouteHandler := .done (.next true)

section

variable (jwtAuth : JwtAuth) (config : Config) (caller : Caller) (request : HttpRequest)

def HttpRequest.context : RoutingContext where
  body := request.body
  size := request.size
  page := request.page
  sort := request.sort
  subject := caller.user.bind jwtAuth.subject

def writeHandlers (method : Method) : List RouteHandler :=
  [guardHandler (checkIfTokenPresent caller), verifyHandler (verifyItemTypeAndRole config.unicode caller request.body),
   lastHandler (orFail (handleCreateOrUpdateItem config caller method request.body request.moment)), handleApiAudit]

/-- The handlers that the controllers register. -/
def HttpRequest.handlers : List RouteHandler :=
  match request.operation with
  | .createItem => writeHandlers config caller request .post
  | .updateItem => writeHandlers config caller request .put
  | .getItem => [lastHandler (handleGetItem config caller request.id), handleApiAudit]
  | .deleteItem =>
      [guardHandler (checkIfTokenPresent caller), lastHandler (handleDeleteItem request.id), handleApiAudit]
  | .search =>
      [lastHandler (SearchController.handleSearch config.unicode (request.context jwtAuth caller)), handleApiAudit]
  | .myAssetsSearch =>
      [guardHandler (checkIfTokenPresent caller),
       lastHandler (SearchController.handleAsset config.unicode (request.context jwtAuth caller)), handleApiAudit]
  | .count =>
      [lastHandler (SearchController.handleCount config.unicode (request.context jwtAuth caller)), handleApiAudit]
  | .listAvailableFilters =>
      [lastHandler (ListController.handleGetAvailableFilters config.unicode (request.context jwtAuth caller)),
       handleApiAudit]

/-- What the handlers of the operation amount to without the chain. -/
def HttpRequest.controller : Handler :=
  match request.operation with
  | .createItem => createOrUpdate config caller .post request.body request.moment
  | .updateItem => createOrUpdate config caller .put request.body request.moment
  | .getItem => handleGetItem config caller request.id
  | .deleteItem => deleteRoute caller request.id
  | .search => SearchController.handleSearch config.unicode (request.context jwtAuth caller)
  | .myAssetsSearch =>
      guarded (checkIfTokenPresent caller)
        (SearchController.handleAsset config.unicode (request.context jwtAuth caller))
  | .count => SearchController.handleCount config.unicode (request.context jwtAuth caller)
  | .listAvailableFilters =>
      ListController.handleGetAvailableFilters config.unicode (request.context jwtAuth caller)

end

/-- The API server.  `validation` is what the validation built of the API
description refuses a request with. -/
structure ApiServer where
  server : Server
  jwtAuth : JwtAuth
  validation : HttpRequest → Option (ExceptionClass × String)

/-- What a request was answered with, and whether the end of its body is audited. -/
structure Served where
  response : Response
  audited : Bool

namespace ApiServer

variable (api : ApiServer)

def route (request : HttpRequest) : Work Served :=
  match authenticated api.jwtAuth request.operation.security request.authorization with
  | .error cause => .done ⟨FailureHandler.handle (.thrown cause), false⟩
  | .ok caller =>
      match api.validation request with
      | some (type, message) => .done ⟨FailureHandler.handle (.validation type message), false⟩
      | none =>
          (runChain (request.handlers api.jwtAuth api.server.config caller) false).bind fun handled =>
            .done ⟨answer handled.outcomes, handled.audited⟩

abbrev Requests := Pool Call Reply Statics Index Served

/-- The API server with any number of requests in flight. -/
def live : System Call Reply Statics Index Choice HttpRequest Served :=
  System.live api.server.engine.backend api.route

end ApiServer

theorem runChain_guard (guard : Guard) (rest : List RouteHandler) (audited : Bool) :
    runChain (guardHandler guard :: rest) audited =
      match guard with
      | some outcome => .done ⟨[outcome], audited⟩
      | none => runChain rest audited := by
  cases guard with
  | some outcome => rfl
  | none => simp only [runChain, guardHandler, Task.done_bind, Bool.or_false]

theorem runChain_last (handler : Handler) (rest : List RouteHandler) (audited : Bool) :
    runChain (lastHandler handler :: rest) audited = handler.bind fun outcomes => .done ⟨outcomes, audited⟩ := by
  simp only [runChain, lastHandler, Task.bind_assoc, Task.done_bind]

theorem runChain_guarded (guard : Guard) (handler : Handler) (rest : List RouteHandler) (audited : Bool) :
    runChain (guardHandler guard :: lastHandler handler :: rest) audited =
      (guarded guard handler).bind fun outcomes => .done ⟨outcomes, audited⟩ := by
  rw [runChain_guard]
  cases guard with
  | some outcome => rfl
  | none => exact runChain_last handler rest audited

theorem runChain_write (config : Config) (caller : Caller) (request : HttpRequest) (method : Method) :
    runChain (writeHandlers config caller request method) false =
      (createOrUpdate config caller method request.body request.moment).bind fun outcomes =>
        .done ⟨outcomes, false⟩ := by
  simp only [writeHandlers, createOrUpdate]
  rw [runChain_guard]
  cases checkIfTokenPresent caller with
  | some outcome => rfl
  | none =>
      simp only [guarded]
      cases verifyItemTypeAndRole config.unicode caller request.body with
      | error cause => rfl
      | ok guard => exact runChain_guarded guard _ _ false

/-- The chain of an operation is its controller: the auditing handler behind it
is never entered. -/
theorem runChain_handlers (jwtAuth : JwtAuth) (config : Config) (caller : Caller) (request : HttpRequest) :
    runChain (request.handlers jwtAuth config caller) false =
      (request.controller jwtAuth config caller).bind fun outcomes => .done ⟨outcomes, false⟩ := by
  simp only [HttpRequest.handlers, HttpRequest.controller]
  cases request.operation with
  | search => exact runChain_last _ _ _
  | myAssetsSearch => exact runChain_guarded _ _ _ _
  | count => exact runChain_last _ _ _
  | listAvailableFilters => exact runChain_last _ _ _
  | createItem => exact runChain_write config caller request .post
  | updateItem => exact runChain_write config caller request .put
  | getItem => exact runChain_last _ _ _
  | deleteItem => exact runChain_guarded _ _ _ _

namespace ApiServer

variable {api : ApiServer} {request : HttpRequest}

/-- A request is refused before any handler of its controller runs, or it is
served by the controller for the caller that was authenticated. -/
theorem route_cases (api : ApiServer) (request : HttpRequest) :
    (∃ failure, api.route request = .done ⟨FailureHandler.handle failure, false⟩) ∨
      ∃ caller, authenticated api.jwtAuth request.operation.security request.authorization = .ok caller ∧
        api.validation request = none ∧
        api.route request = (request.controller api.jwtAuth api.server.config caller).bind fun outcomes =>
          .done ⟨answer outcomes, false⟩ := by
  simp only [route]
  cases passed : authenticated api.jwtAuth request.operation.security request.authorization with
  | error cause => exact .inl ⟨_, rfl⟩
  | ok caller =>
      cases valid : api.validation request with
      | some refused => exact .inl ⟨_, rfl⟩
      | none =>
          refine .inr ⟨caller, rfl, rfl, ?_⟩
          simp only [runChain_handlers, Task.bind_assoc, Task.done_bind]

end ApiServer

end Tgdex.Api
