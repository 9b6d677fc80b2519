import Tgdex.Api.Rules
import Tgdex.Effects.Linearization
import Tgdex.Properties.CreateRace

namespace Tgdex.Properties

open Tgdex.Data Tgdex.Java Tgdex.Effects Tgdex.Elastic Tgdex.Query Tgdex.Items Tgdex.Search Tgdex.Api

/-! # What a run has written

Every change of the index belongs to one request, which tells its client of it,
and the changes in their order are all that has happened to the index. -/

variable {api : ApiServer} {store : Index} {statics : Statics} {final : ApiServer.Requests}
  {schedule : List (Label HttpRequest Choice)} {id : Nat} {request : HttpRequest}

def operationOf : Commit → Operation
  | .stored _ _ => .createItem
  | .merged _ _ => .updateItem
  | .removed _ => .deleteItem

theorem operation_of_committed {call : Call} {reply : Reply call} {commit : Commit}
    (permitted : request.Permits api call) (made : committed call reply = some commit) :
    operationOf commit = request.operation := by
  cases call with
  | singleSearch query => cases made
  | search asked options => cases made
  | exists_ id => cases made
  | bulkIndex id document =>
      cases id with
      | none => exact absurd permitted not_false
      | some id =>
          rcases reply with reason | _ | _ <;> cases made
          exact permitted.1.symm
  | update id partialDocument =>
      rcases reply with reason | _ <;> cases made
      exact permitted.1.symm
  | delete id =>
      rcases reply with reason | _ | _ <;> cases made
      exact permitted.1.symm

theorem writes_of_operation {commit : Commit} (same : operationOf commit = request.operation) :
    request.operation.writes = true := by
  rw [← same]
  cases commit <;> rfl

theorem success_of_shows {config : Config} {status : Nat} {body : JsonObject} {commit : Commit}
    (shows_ : Shows config status body commit) : status < 400 := by
  cases commit with
  | stored docId document => exact shows_.1 ▸ (by decide)
  | merged docId partialDocument => exact shows_.1 ▸ (by decide)
  | removed docId => exact shows_ ▸ (by decide)

theorem operation_of_commit (reached : api.live.runs (Pool.initial store statics) schedule = some final)
    (started : .started id request ∈ api.live.events (Pool.initial store statics) schedule) {commit : Commit}
    (member : commit ∈ commitsOf id (api.live.events (Pool.initial store statics) schedule)) :
    operationOf commit = request.operation := by
  obtain ⟨call, reply, called, made⟩ := mem_commitsOf.mp member
  exact operation_of_committed (System.permits_called (permits_route api) reached started called) made

/-- A request that has its answer changed nothing and tells of no success, or
made one change and tells of it. -/
theorem changes_of_result (reached : api.live.runs (Pool.initial store statics) schedule = some final)
    (started : .started id request ∈ api.live.events (Pool.initial store statics) schedule) {served : Served}
    (ended : final.result id = some served) :
    (commitsOf id (api.live.events (Pool.initial store statics) schedule) = [] ∧ ¬Acknowledges request served) ∨
      ∃ commit, commitsOf id (api.live.events (Pool.initial store statics) schedule) = [commit] ∧
        Acknowledges request served ∧
        Shows api.server.config served.response.status served.response.body commit := by
  rcases System.effect_of_result (confirming_route api) reached started ended with ⟨none, silent⟩ | ⟨commit, one, right⟩
  · exact .inl ⟨none, silent⟩
  · have own : commit ∈ commitsOf id (api.live.events (Pool.initial store statics) schedule) := by
      rw [commitsOf, one]
      exact List.mem_singleton_self commit
    have writes := writes_of_operation (operation_of_commit reached started own)
    exact .inr ⟨commit, one, ⟨writes, success_of_shows right⟩, right⟩

/-- In every run a request changes the index at most once and in the way of its
operation.  The client of a create, an update or a delete is told of a success
exactly when it has, and is shown the item that was written. -/
theorem write_acknowledged_iff_committed (api : ApiServer) (store : Index) (statics : Statics)
    (final : ApiServer.Requests) (schedule : List (Label HttpRequest Choice)) (id : Nat) (request : HttpRequest)
    (reached : api.live.runs (Pool.initial store statics) schedule = some final)
    (started : .started id request ∈ api.live.events (Pool.initial store statics) schedule) :
    (commitsOf id (api.live.events (Pool.initial store statics) schedule)).length ≤ 1 ∧
      (∀ commit ∈ commitsOf id (api.live.events (Pool.initial store statics) schedule),
        operationOf commit = request.operation) ∧
      ∀ served, final.result id = some served →
        (Acknowledges request served ↔ commitsOf id (api.live.events (Pool.initial store statics) schedule) ≠ []) ∧
        ∀ commit ∈ commitsOf id (api.live.events (Pool.initial store statics) schedule),
          Shows api.server.config served.response.status served.response.body commit := by
  have once := (System.effects_of_runs (confirming_route api) reached started).1
  refine ⟨once, fun commit member => operation_of_commit reached started member, fun served ended => ?_⟩
  rcases changes_of_result reached started ended with ⟨none, silent⟩ | ⟨commit, one, told, shown⟩
  · rw [none]
    exact ⟨iff_of_false silent fun some => some rfl, by simp⟩
  · rw [one]
    exact ⟨iff_of_true told (List.cons_ne_nil commit []), by simpa using shown⟩

/-- A server whose tokens are the subjects of operators. -/
def asciiApi : ApiServer where
  server := asciiServer
  jwtAuth := ⟨fun token => .ok ((operator token).user.getD .empty), fun principal => principal.getString "sub"⟩
  validation := fun _ => none

def postFrom (sub : String) (body : JsonObject) : HttpRequest where
  operation := .createItem
  authorization := some ("Bearer " ++ sub)
  body := some body
  moment := someMoment

def deleteFrom (sub docId : String) : HttpRequest where
  operation := .deleteItem
  authorization := some ("Bearer " ++ sub)
  id := some docId
  moment := someMoment

/-- Execute the next call of a request, process its reply and run its handler. -/
def turnOf (id : Nat) : List (Label HttpRequest Choice) := [.execute id .plain, .receive id, .handle id]

def firstAppId : String := "2c3d4e5f-aaaa-4bbb-8ccc-0123456789ab"

/-- Both deletes find the item before either of them deletes it. -/
def deletesOverlap : List (Label HttpRequest Choice) :=
  .start 0 (postFrom "first" (appBody "first")) :: turnOf 0 ++ turnOf 0 ++ turnOf 0 ++
    [.start 1 (deleteFrom "first" firstAppId), .start 2 (deleteFrom "second" firstAppId)] ++
    turnOf 1 ++ turnOf 2 ++ turnOf 2 ++ turnOf 1

def statusAt (schedule : List (Label HttpRequest Choice)) (id : Nat) : Option Nat := do
  let final ← asciiApi.live.runs (Pool.initial ∅ {}) schedule
  let served ← final.result id
  return served.response.status

theorem ended_of_status {schedule : List (Label HttpRequest Choice)} {id status : Nat}
    (shown : statusAt schedule id = some status) :
    ∃ final served, asciiApi.live.runs (Pool.initial ∅ {}) schedule = some final ∧ final.result id = some served ∧
      served.response.status = status := by
  obtain ⟨final, reached, shown⟩ := Option.bind_eq_some_iff.mp shown
  obtain ⟨served, ended, same⟩ := Option.bind_eq_some_iff.mp shown
  exact ⟨final, served, reached, ended, Option.some.inj same⟩

example : [0, 1, 2].map (statusAt deletesOverlap) = [some 201, some 400, some 200] := by decide +kernel

theorem runs_deletesOverlap : (asciiApi.live.runs (Pool.initial ∅ {}) deletesOverlap).isSome = true := by
  decide +kernel

theorem write_acknowledged_iff_committed_post :
    ∃ final, asciiApi.live.runs (Pool.initial ∅ {}) deletesOverlap = some final ∧
      (commitsOf 0 (asciiApi.live.events (Pool.initial ∅ {}) deletesOverlap)).length ≤ 1 ∧
      ∀ served, final.result 0 = some served →
        (Acknowledges (postFrom "first" (appBody "first")) served ↔
          commitsOf 0 (asciiApi.live.events (Pool.initial ∅ {}) deletesOverlap) ≠ []) := by
  obtain ⟨final, reached⟩ := Option.isSome_iff_exists.mp runs_deletesOverlap
  obtain ⟨once, -, told⟩ := write_acknowledged_iff_committed asciiApi ∅ {} final deletesOverlap 0
    (postFrom "first" (appBody "first")) reached (System.started_mem_events reached List.mem_cons_self)
  exact ⟨final, reached, once, fun served ended => (told served ended).1⟩

theorem foldl_of_runs (reached : api.live.runs (Pool.initial store statics) schedule = some final) :
    final.store = (commits (api.live.events (Pool.initial store statics) schedule)).foldl Commit.apply store := by
  rw [← foldl_apply_events]
  exact System.store_of_runs (wellFormed_route api)
    (fun call choice index wellFormed => execute_eq_applied wellFormed choice index) reached

end Tgdex.Properties
