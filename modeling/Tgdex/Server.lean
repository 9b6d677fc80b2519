import Tgdex.Search.Handlers

namespace Tgdex

open Tgdex.Data Tgdex.Java Tgdex.Effects Tgdex.Elastic Tgdex.Query Tgdex.Items Tgdex.Search

/-! # The catalogue server

Requests run alone, or interleaved over the one index and the static fields of
the process. -/

inductive Request where
  | item (request : ItemRequest)
  | search (request : QueryDecoderRequestDTO)
  | assets (caller : Caller) (request : QueryDecoderRequestDTO)
  | count (request : QueryDecoderRequestDTO)
  | list (request : QueryDecoderRequestDTO)

namespace Request

variable (config : Config)

/-- The handler of each route.  Asset searches need a token and go on like searches. -/
def handler : Request → Handler
  | .item request => request.handler config
  | .search request => handleSearch config.unicode request
  | .assets caller request => guarded (checkIfTokenPresent caller) (handleSearch config.unicode request)
  | .count request => handleCount config.unicode request
  | .list request => handleGetAvailableFilters config.unicode request

end Request

/-- Everything a run of the server depends on besides the requests. -/
structure Server where
  engine : Engine
  config : Config

namespace Server

variable (server : Server)

abbrev State := World Index Statics

abbrev Requests := Pool Call Reply Statics Index (List Outcome)

def live : System Call Reply Statics Index Choice Request (List Outcome) :=
  System.live server.engine.backend (Request.handler server.config)

/-- The item requests, if every handler saw the hit count of its own lookup. -/
def items : System Call Reply Statics Index Choice ItemRequest (List Outcome) :=
  System.isolated server.engine.backend (ItemRequest.handler server.config)

def initial : State := ⟨∅, {}⟩

def serve (state : State) (request : Request) (choices : Nat → Choice) : List Outcome × State :=
  (request.handler server.config).run server.engine.backend choices state

def serveAll (state : State) : List (Request × (Nat → Choice)) → State
  | [] => state
  | (request, choices) :: rest => serveAll (server.serve state request choices).2 rest

/-- The states that requests served one at a time lead to. -/
def Reachable (state : State) : Prop := ∃ requests, server.serveAll initial requests = state

/-- Every request meets a condition in the state it is served in. -/
def Meets (condition : State → Request → Prop) (state : State) : List (Request × (Nat → Choice)) → Prop
  | [] => True
  | (request, choices) :: rest => condition state request ∧ Meets condition (server.serve state request choices).2 rest

variable {server}

theorem serveAll_preserves {condition : State → Request → Prop} (Inv : State → Prop)
    (kept : ∀ state request, condition state request → Inv state →
      (request.handler server.config).Ensures server.engine.backend state fun _ after => Inv after)
    {state : State} {requests : List (Request × (Nat → Choice))} (meets : server.Meets condition state requests)
    (before : Inv state) : Inv (server.serveAll state requests) := by
  induction requests generalizing state with
  | nil => exact before
  | cons served rest ih =>
      obtain ⟨request, choices⟩ := served
      exact ih meets.2 (Task.ensures_iff_run.mp (kept state request meets.1 before) choices)

variable (server) in
/-- The states that the requests lead to, one after each. -/
def visited (state : State) : List (Request × (Nat → Choice)) → List State
  | [] => []
  | (request, choices) :: rest =>
      (server.serve state request choices).2 :: visited (server.serve state request choices).2 rest

/-- An invariant that may look at the states of the run so far. -/
theorem serveAll_preserves_visited {condition : State → Request → Prop} (Inv : List State → State → Prop)
    (kept : ∀ past state request, condition state request → Inv past state →
      (request.handler server.config).Ensures server.engine.backend state fun _ after => Inv (past ++ [after]) after)
    {past : List State} {state : State} {requests : List (Request × (Nat → Choice))}
    (meets : server.Meets condition state requests) (before : Inv past state) :
    Inv (past ++ server.visited state requests) (server.serveAll state requests) := by
  induction requests generalizing past state with
  | nil =>
      rw [visited, List.append_nil]
      exact before
  | cons served rest ih =>
      obtain ⟨request, choices⟩ := served
      have step := Task.ensures_iff_run.mp (kept past state request meets.1 before) choices
      have later := ih meets.2 step
      rwa [List.append_assoc] at later

theorem meets_of_always {condition : State → Request → Prop} (always : ∀ state request, condition state request)
    (state : State) (requests : List (Request × (Nat → Choice))) : server.Meets condition state requests := by
  induction requests generalizing state with
  | nil => trivial
  | cons served rest ih => exact ⟨always _ _, ih _⟩

variable (server)

theorem live_runs_of_serve (request : Request) (choices : Nat → Choice) {pool : Requests} {id : Nat}
    (fresh : pool.phase id = none) :
    ∃ schedule final, server.live.runs pool schedule = some final ∧
      final.result id = some (server.serve pool.world request choices).1 ∧
      final.world = (server.serve pool.world request choices).2 ∧ pool.MovesOnly id final := by
  have started : server.live.step pool (.start id request) =
      some (pool.setPhase id (.running (request.handler server.config))) := by
    simp only [System.step, fresh]
    rfl
  obtain ⟨final, reached, ended, left, moved⟩ := runs_scheduleOf server.engine.backend (Request.handler server.config) id
    (request.handler server.config) choices (pool.setPhase id (.running (request.handler server.config)))
    (Pool.setPhase_phase_self _ _ _)
  refine ⟨.start id request :: scheduleOf server.engine.backend id (request.handler server.config) choices pool.world,
    final, ?_, ?_, left, ?_⟩
  · rw [System.runs, started, Option.bind_some]
    exact reached
  · rw [Pool.result, ended]
    rfl
  · intro other differs
    rw [moved other differs, Pool.setPhase_phase_other _ _ _ differs]

/-- Requests served one at a time are one schedule of the requests in flight. -/
theorem live_runs_of_serveAll (requests : List (Request × (Nat → Choice))) {pool : Requests} {id : Nat}
    (fresh : ∀ other, id ≤ other → pool.phase other = none) :
    ∃ schedule final, server.live.runs pool schedule = some final ∧
      final.world = server.serveAll pool.world requests := by
  induction requests generalizing pool id with
  | nil => exact ⟨[], pool, rfl, rfl⟩
  | cons served rest ih =>
      obtain ⟨request, choices⟩ := served
      obtain ⟨first, next, reached, -, left, moved⟩ :=
        server.live_runs_of_serve request choices (fresh id (by omega))
      have still : ∀ other, id + 1 ≤ other → next.phase other = none := fun other later => by
        rw [moved other (by omega)]
        exact fresh other (by omega)
      obtain ⟨remaining, final, ended, world⟩ := ih still
      refine ⟨first ++ remaining, final, (System.runs_append _ reached remaining).trans ended, ?_⟩
      rw [world, left]
      rfl

theorem live_runs_of_reachable {state : State} (reachable : server.Reachable state) :
    ∃ schedule final, server.live.runs (Pool.initial initial.store initial.shared) schedule = some final ∧
      final.world = state := by
  obtain ⟨requests, rfl⟩ := reachable
  exact server.live_runs_of_serveAll requests (fun _ _ => rfl : ∀ other, 0 ≤ other → _)

end Server

end Tgdex
