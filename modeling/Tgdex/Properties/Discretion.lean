import Tgdex.Properties.Commitment

namespace Tgdex.Properties

open Tgdex.Data Tgdex.Java Tgdex.Effects Tgdex.Elastic Tgdex.Query Tgdex.Items Tgdex.Search Tgdex.Api

/-! # Why Elasticsearch has failed stays inside -/

/-- Two behaviours of the engine that differ in the reason of a failure at most. -/
def Reworded (choice other : Choice) : Prop :=
  choice = other ∨ ∃ reason another, choice = .fails reason ∧ other = .fails another

theorem Reworded.symm {choice other : Choice} (reworded : Reworded choice other) : Reworded other choice := by
  rcases reworded with rfl | ⟨reason, another, rfl, rfl⟩
  · exact .inl rfl
  · exact .inr ⟨another, reason, rfl, rfl⟩

theorem masks_reworded (engine : Engine) :
    Masks engine.backend (fun _ => True) Eq UpToReason Reworded where
  reply := by
    rintro call choice other store _ - rfl (rfl | ⟨reason, another, rfl, rfl⟩)
    · exact .inl rfl
    · exact .inr ⟨reason, another, rfl, rfl⟩
  store := by
    rintro call choice other store _ - rfl (rfl | ⟨reason, another, rfl, rfl⟩) <;> rfl
  receive := by
    rintro call reply other shared (rfl | ⟨reason, another, rfl, rfl⟩)
    · rfl
    · cases call <;> rfl

theorem unaware_route (api : ApiServer) (request : HttpRequest) :
    (api.route request).Always (Unaware (fun _ => True) UpToReason) :=
  (discreet_route api request).imp fun _ _ discreet => ⟨trivial, discreet.2⟩

/-- What the outside sees of a run: the responses, and the documents that are left. -/
def observed (api : ApiServer) (store : Index) (statics : Statics) (schedule : List (Label HttpRequest Choice)) :
    Option (Index × (Nat → Option Served)) :=
  (api.live.runs (Pool.initial store statics) schedule).map fun final => (final.store, final.result)

theorem observed_of_reworded {api : ApiServer} {store : Index} {statics : Statics}
    {schedule other : List (Label HttpRequest Choice)} {seen : Index × (Nat → Option Served)}
    (reworded : List.Forall₂ (Label.Close Reworded) schedule other)
    (observes : observed api store statics schedule = some seen) : observed api store statics other = some seen := by
  obtain ⟨final, reached, rfl⟩ := Option.map_eq_some_iff.mp observes
  obtain ⟨final_, reached_, same⟩ := System.close_runs (masks_reworded api.server.engine)
    (fun _ request _ => unaware_route api request) (Pool.alike_initial rfl statics) (Pool.initial_always store statics)
    reworded reached
  refine Option.map_eq_some_iff.mpr ⟨final_, reached_, ?_⟩
  rw [same.store, funext same.result]

theorem Label.Close.symm {label other : Label HttpRequest Choice} (close : label.Close Reworded other) :
    other.Close Reworded label := by
  cases close with
  | start id request => exact .start id request
  | execute id choices => exact .execute id choices.symm
  | receive id => exact .receive id
  | handle id => exact .handle id

/-- Two runs in which calls of Elasticsearch fail for different reasons cannot be
told apart: in every interleaving all responses and the index are the same. -/
theorem failure_reasons_hidden (api : ApiServer) (store : Index) (statics : Statics)
    (schedule other : List (Label HttpRequest Choice))
    (reworded : List.Forall₂ (Label.Close Reworded) schedule other) :
    observed api store statics schedule = observed api store statics other := by
  refine Option.ext fun seen => ⟨observed_of_reworded reworded, observed_of_reworded ?_⟩
  exact (reworded.imp fun _ _ => Label.Close.symm).flip

/-- A create whose first lookup fails. -/
def failingPost (reason : String) : List (Label HttpRequest Choice) :=
  [.start 0 (postFrom "first" (appBody "first")), .execute 0 (.fails reason), .receive 0, .handle 0]

example : statusAt (failingPost "circuit breaker") 0 = some 400 := by decide +kernel

theorem failure_reasons_hidden_post :
    observed asciiApi ∅ {} (failingPost "circuit breaker") = observed asciiApi ∅ {} (failingPost "node 10.0.0.7 left") :=
  failure_reasons_hidden asciiApi ∅ {} _ _
    (.cons (.start 0 _) (.cons (.execute 0 (.inr ⟨_, _, rfl, rfl⟩)) (.cons (.receive 0) (.cons (.handle 0) .nil))))

end Tgdex.Properties
