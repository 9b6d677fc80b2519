import Tgdex.Api.Router
import Tgdex.Items.Commits
import Tgdex.StoredItems

namespace Tgdex.Api

open Tgdex.Data Tgdex.Java Tgdex.Effects Tgdex.Elastic Tgdex.Query Tgdex.Items Tgdex.Search

/-! # What the routes may do -/

theorem HttpStatusCode.failure_value (code : HttpStatusCode) : 400 ≤ code.value := by cases code <;> decide

theorem FailureHandler.failure_handle (failure : Failure) : 400 ≤ (FailureHandler.handle failure).status := by
  rw [status_handle]
  exact (map failure).failure_value

theorem FailureHandler.handle_ne {failure : Failure} {status : Nat} (success : status < 400) :
    (FailureHandler.handle failure).status ≠ status := by
  have failed := failure_handle failure
  omega

/-- What a handler reports is what the client sees. -/
theorem status_of_reports {config : Config} {change : Option Commit} {outcomes : List Outcome}
    (reports : Reports config change outcomes) :
    match change with
    | none => 400 ≤ (answer outcomes).status
    | some commit => Shows config (answer outcomes).status (answer outcomes).body commit := by
  cases change with
  | none =>
      cases outcomes with
      | nil => exact FailureHandler.failure_handle _
      | cons first rest =>
          cases first with
          | ended status body => exact reports _ List.mem_cons_self
          | failed status cause => exact FailureHandler.failure_handle _
  | some commit =>
      obtain ⟨status, body, first, shows_⟩ := reports
      cases outcomes with
      | nil => cases first
      | cons outcome rest =>
          cases first
          exact shows_

def Operation.searches (operation : Operation) : Prop :=
  operation ∈ [.search, .myAssetsSearch, .count, .listAvailableFilters]

namespace HttpRequest

variable (api : ApiServer) (request : HttpRequest)

def caller (principal : JsonObject) : Caller := ⟨extract request.authorization, some principal⟩

/-- The request may store the document under the id: its token was verified, the
role of the principal fits the type of the item, and the document is the
principal's. -/
def MayStore (id : String) (document : JsonObject) : Prop :=
  ∃ principal given, Verified api.jwtAuth request.authorization principal ∧ request.body = some given ∧
    verifyItemTypeAndRole api.server.config.unicode (request.caller principal) (some given) = .ok none ∧
    WrittenFor principal given request.moment id document

def MayDelete : Prop := ∃ principal, Verified api.jwtAuth request.authorization principal

/-- The calls that the request can come to. -/
def Permits : Call → Prop
  | .singleSearch _ => True
  | .search _ _ => request.operation.searches
  | .exists_ _ => request.operation = .updateItem
  | .bulkIndex (some id) document => request.operation = .createItem ∧ request.MayStore api id document
  | .update id partialDocument => request.operation = .updateItem ∧ request.MayStore api id partialDocument
  | .delete _ => request.operation = .deleteItem ∧ request.MayDelete api
  | .bulkIndex none _ => False

end HttpRequest

section

variable {api : ApiServer} {request : HttpRequest} {caller : Caller}

theorem wellFormed_of_permits {call : Call} (permitted : request.Permits api call) : WellFormed call := by
  cases call with
  | bulkIndex id document =>
      cases id with
      | none => exact permitted
      | some id =>
          obtain ⟨-, principal, given, -, -, -, written⟩ := permitted
          exact ⟨written.valid, written.id⟩
  | update id partialDocument =>
      obtain ⟨-, principal, given, -, -, -, written⟩ := permitted
      exact written.id
  | singleSearch query => trivial
  | search asked options => trivial
  | exists_ id => trivial
  | delete id => trivial

/-- A caller whose token is there is the one that it was verified for. -/
theorem verified_of_token (passed : authenticated api.jwtAuth request.operation.security request.authorization =
    .ok caller) (token : checkIfTokenPresent caller = none) :
    ∃ principal, caller = request.caller principal ∧ Verified api.jwtAuth request.authorization principal := by
  obtain ⟨tokenIs, user⟩ := authenticated_cases passed
  obtain ⟨own, principalIs⟩ := caller
  simp only at tokenIs user
  subst tokenIs
  rcases user with ⟨principal, rfl, verified⟩ | ⟨-, -, none⟩
  · exact ⟨principal, rfl, verified⟩
  · simp only [checkIfTokenPresent, presented, Option.filter_eq_none_iff] at token none
    cases given : extract request.authorization with
    | none => simp [given] at token
    | some text =>
        have blank := none text given
        simp only [Bool.not_eq_true', Bool.not_eq_false] at blank
        simp [given, blank] at token

theorem permits_createOrUpdate {method : Method}
    (passed : authenticated api.jwtAuth request.operation.security request.authorization = .ok caller)
    (operation : (method = .post ∧ request.operation = .createItem) ∨ method = .put ∧ request.operation = .updateItem) :
    (createOrUpdate api.server.config caller method request.body request.moment).Always
      (Discreet (request.Permits api)) := by
  rcases createOrUpdate_cases api.server.config caller method request.body request.moment with
    ⟨outcomes, done, -⟩ | ⟨submission, goes⟩
  · rw [done]
    trivial
  rw [goes]
  obtain ⟨principal, same, verified⟩ := verified_of_token passed submission.token
  have user : caller.user = some principal := by rw [same, HttpRequest.caller]
  obtain rfl : submission.principal = principal := Option.some.inj (submission.user.symm.trans user)
  have stores : ∀ id document, WrittenFor submission.principal submission.given request.moment id document →
      request.MayStore api id document := fun id document written =>
    ⟨_, submission.given, verified, submission.hasBody, same ▸ submission.hasBody ▸ submission.role, written⟩
  refine (permitted_submission submission).imp fun call resume discreet => ⟨?_, discreet.2⟩
  obtain ⟨permitted, -⟩ := discreet
  cases call with
  | singleSearch query => trivial
  | search asked options => exact absurd permitted id
  | delete id => exact absurd permitted not_false
  | exists_ id =>
      rcases operation with ⟨rfl, -⟩ | ⟨-, updates⟩
      · cases permitted
      · exact updates
  | bulkIndex id document =>
      cases id with
      | none => exact permitted
      | some id =>
          obtain ⟨rfl, written⟩ := permitted
          rcases operation with ⟨-, creates⟩ | ⟨other, -⟩
          · exact ⟨creates, stores id document written⟩
          · cases other
  | update id partialDocument =>
      obtain ⟨rfl, written⟩ := permitted
      rcases operation with ⟨other, -⟩ | ⟨-, updates⟩
      · cases other
      · exact ⟨updates, stores id partialDocument written⟩

/-- The handler with its outcomes turned into the response. -/
def answered (handler : Handler) : Work Served := handler.bind fun outcomes => .done ⟨answer outcomes, false⟩

/-- Why a search has failed is not shown. -/
theorem permits_of_searches {options : Options}
    {outcome : Settled (List ElasticsearchResponse × Statics) → List Outcome} {handler : Handler}
    (searches : AnswersOrSearches options outcome handler) (reads : request.operation.searches)
    (hides : ∀ reason another, answer (outcome (.failure (.serviceException reason))) =
      answer (outcome (.failure (.serviceException another)))) :
    (answered handler).Always (Discreet (request.Permits api)) := by
  rcases searches with ⟨outcomes, rfl⟩ | ⟨model, rfl⟩
  · trivial
  · rw [answered, Task.bind_assoc]
    refine always_search (fun sent => ⟨reads, blind_of_errors fun reason another statics => ?_⟩) fun settled => trivial
    exact congrArg (fun response => (Task.done ⟨response, false⟩ : Work Served)) (hides reason another)

theorem answerSearch_cases (unicode : Unicode) (context : RoutingContext) (isAssetSearch : Bool) :
    answerSearch unicode context isAssetSearch = .done [] ∨
      ∃ decoded, build unicode isAssetSearch false context = .ok decoded ∧
        answerSearch unicode context isAssetSearch = Search.handleSearch unicode decoded := by
  simp only [answerSearch]
  cases build unicode isAssetSearch false context with
  | error cause => exact .inl rfl
  | ok decoded => exact .inr ⟨decoded, rfl, rfl⟩

theorem permits_answerSearch (unicode : Unicode) (context : RoutingContext) (isAssetSearch : Bool)
    (reads : request.operation.searches) :
    (answered (answerSearch unicode context isAssetSearch)).Always (Discreet (request.Permits api)) := by
  rcases answerSearch_cases unicode context isAssetSearch with refused | ⟨decoded, -, searches⟩
  · rw [refused]
    trivial
  · rw [searches]
    exact permits_of_searches (handleSearch_cases unicode decoded) reads fun _ _ => rfl

theorem permits_controller
    (passed : authenticated api.jwtAuth request.operation.security request.authorization = .ok caller) :
    (answered (request.controller api.jwtAuth api.server.config caller)).Always (Discreet (request.Permits api)) := by
  simp only [HttpRequest.controller]
  split
  · rename_i operation
    exact discreet_map (permits_createOrUpdate passed (.inl ⟨rfl, operation⟩)) _
  · rename_i operation
    exact discreet_map (permits_createOrUpdate passed (.inr ⟨rfl, operation⟩)) _
  · simp only [handleGetItem]
    split
    · trivial
    · simp only [getItem, answered]
      rw [Task.bind_assoc, Task.bind_assoc]
      exact discreet_getSingleDocument (fun _ => trivial) fun settled => trivial
  · rename_i operation
    refine discreet_map (permitted_deleteRoute caller request.id (fun _ => trivial) fun token _ => ⟨operation, ?_⟩) _
    obtain ⟨principal, -, verified⟩ := verified_of_token passed token
    exact ⟨principal, verified⟩
  · rename_i operation
    exact permits_answerSearch _ _ _ (by simp [Operation.searches, operation])
  · rename_i operation
    simp only [guarded]
    split
    · trivial
    · exact permits_answerSearch _ _ _ (by simp [Operation.searches, operation])
  · rename_i operation
    exact permits_of_searches (SearchController.handleCount_cases _ _) (by simp [Operation.searches, operation])
      fun _ _ => rfl
  · rename_i operation
    exact permits_of_searches (ListController.handleGetAvailableFilters_cases _ _)
      (by simp [Operation.searches, operation]) fun _ _ => rfl

theorem discreet_route (api : ApiServer) (request : HttpRequest) :
    (api.route request).Always (Discreet (request.Permits api)) := by
  rcases api.route_cases request with ⟨failure, refused⟩ | ⟨caller, passed, -, served⟩
  · rw [refused]
    trivial
  · rw [served]
    exact permits_controller passed

theorem permits_route (api : ApiServer) (request : HttpRequest) :
    (api.route request).AllCalls (request.Permits api) :=
  (discreet_route api request).imp fun _ _ discreet => discreet.1

theorem wellFormed_route (api : ApiServer) (request : HttpRequest) : (api.live.program request).AllCalls WellFormed :=
  (permits_route api request).imp fun _ _ => wellFormed_of_permits

/-- The operations that change the index. -/
def Operation.writes : Operation → Bool
  | .createItem | .updateItem | .deleteItem => true
  | _ => false

/-- The answer of a write that tells of a success. -/
def Acknowledges (request : HttpRequest) (served : Served) : Prop :=
  request.operation.writes = true ∧ served.response.status < 400

/-- What is right to answer after this change, and after none. -/
def Tells (config : Config) (request : HttpRequest) (change : Option Commit) (served : Served) : Prop :=
  match change with
  | none => ¬Acknowledges request served
  | some commit => Shows config served.response.status served.response.body commit

/-- A call that a request may make changes the index only if the request is a write. -/
theorem writes_of_committed {call : Call} {reply : Reply call} (permitted : request.Permits api call)
    (changed : committed call reply ≠ none) : request.operation.writes = true := by
  have operation : request.operation = .createItem ∨ request.operation = .updateItem ∨
      request.operation = .deleteItem := by
    cases call with
    | bulkIndex id document =>
        cases id with
        | none => exact absurd permitted not_false
        | some id => exact .inl permitted.1
    | update id partialDocument => exact .inr (.inl permitted.1)
    | delete id => exact .inr (.inr permitted.1)
    | singleSearch query => exact absurd rfl changed
    | search asked options => exact absurd rfl changed
    | exists_ id => exact absurd rfl changed
  rcases operation with is | is | is <;> rw [is] <;> rfl

theorem confirming_controller (caller : Caller) (writes : request.operation.writes = true) :
    (request.controller api.jwtAuth api.server.config caller).Confirming committed
      (Reports api.server.config) none := by
  cases operation : request.operation with
  | createItem =>
      simp only [HttpRequest.controller, operation]
      exact confirming_createOrUpdate
  | updateItem =>
      simp only [HttpRequest.controller, operation]
      exact confirming_createOrUpdate
  | deleteItem =>
      simp only [HttpRequest.controller, operation]
      exact confirming_deleteRoute _ caller request.id
  | getItem => cases operation ▸ writes
  | search => cases operation ▸ writes
  | myAssetsSearch => cases operation ▸ writes
  | count => cases operation ▸ writes
  | listAvailableFilters => cases operation ▸ writes

theorem confirming_route (api : ApiServer) (request : HttpRequest) :
    (api.route request).Confirming committed (Tells api.server.config request) none := by
  cases writes : request.operation.writes with
  | false =>
      have quiet : (api.route request).AllCalls fun call => ∀ reply, committed call reply = none := by
        refine (permits_route api request).imp fun call resume permitted reply => ?_
        by_contra changed
        rw [writes_of_committed permitted changed] at writes
        cases writes
      exact Task.confirming_of_allCalls (fun served shown => by cases writes.symm.trans shown.1) quiet
  | true =>
      rcases api.route_cases request with ⟨failure, refused⟩ | ⟨caller, passed, -, served⟩
      · rw [refused]
        exact fun shown => absurd shown.2 (Nat.not_lt.mpr (FailureHandler.failure_handle failure))
      · rw [served]
        refine (confirming_controller caller writes).map fun change outcomes reports => ?_
        have status := status_of_reports reports
        cases change with
        | none => exact fun shown => absurd shown.2 (Nat.not_lt.mpr status)
        | some commit => exact status

end

end Tgdex.Api
