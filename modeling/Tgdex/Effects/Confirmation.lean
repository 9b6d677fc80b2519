import Tgdex.Effects.History

namespace Tgdex.Effects

/-! # Requests that take effect once and say so

`effect` is what a call has changed, going by its reply, and `tells` which
results are right after a change and which after none. -/

variable {Call : Type} {Reply : Call → Type} {Shared Store Choice Request Change α β : Type}
  {effect : (call : Call) → Reply call → Option Change} {tells : Option Change → α → Prop}

/-- At most one of the calls that the task goes on to make has an effect, none
if there was one before, and the result tells of it. -/
def Task.Confirming (effect : (call : Call) → Reply call → Option Change) (tells : Option Change → α → Prop) :
    Option Change → Task Call Reply Shared α → Prop
  | had, .done result => tells had result
  | had, .await call resume => ∀ reply, (effect call reply ≠ none → had = none) ∧
      ∀ shared, (resume reply shared).Confirming effect tells (had.or (effect call reply))

def effects (effect : (call : Call) → Reply call → Option Change) (exchanges : List (Sigma Reply)) : List Change :=
  exchanges.filterMap fun exchange => effect exchange.1 exchange.2

@[simp] theorem effects_nil : effects effect [] = [] := rfl

theorem effects_cons (exchange : Sigma Reply) (rest : List (Sigma Reply)) :
    effects effect (exchange :: rest) = (effect exchange.1 exchange.2).toList ++ effects effect rest := by
  simp only [effects, List.filterMap_cons]
  cases effect exchange.1 exchange.2 <;> rfl

@[simp] theorem effects_append (first rest : List (Sigma Reply)) :
    effects effect (first ++ rest) = effects effect first ++ effects effect rest := List.filterMap_append

theorem Task.Confirming.after {had : Option Change} {task later : Task Call Reply Shared α}
    {exchanges : List (Sigma Reply)} (confirming : task.Confirming effect tells had)
    (goes : task.Reaches exchanges later) :
    (had.toList ++ effects effect exchanges).length ≤ 1 ∧
      later.Confirming effect tells (had.or (effects effect exchanges).head?) := by
  induction exchanges generalizing task had with
  | nil =>
      obtain rfl : later = task := goes
      refine ⟨by cases had <;> simp, ?_⟩
      rw [effects_nil, List.head?_nil, Option.or_none]
      exact confirming
  | cons exchange rest ih =>
      obtain ⟨resume, shared, rfl, onward⟩ := goes
      obtain ⟨only, next⟩ := confirming exchange.2
      obtain ⟨bound, kept⟩ := ih (next shared) onward
      rw [effects_cons]
      cases changed : effect exchange.1 exchange.2 with
      | none =>
          rw [changed, Option.or_none] at bound kept
          exact ⟨bound, kept⟩
      | some change =>
          obtain rfl := only (by rw [changed]; exact Option.some_ne_none change)
          rw [changed, Option.none_or] at bound kept
          exact ⟨bound, kept⟩

theorem Task.Confirming.map {reports : Option Change → β → Prop} {had : Option Change}
    {task : Task Call Reply Shared α} (confirming : task.Confirming effect tells had) {result : α → β}
    (agree : ∀ change value, tells change value → reports change (result value)) :
    (task.bind fun value => .done (result value)).Confirming effect reports had := by
  induction task generalizing had with
  | done value => exact agree had value confirming
  | await call resume ih =>
      exact fun reply => ⟨(confirming reply).1, fun shared => ih reply shared ((confirming reply).2 shared)⟩

theorem Task.Confirming.mapChange {Other : Type} {renamed : (call : Call) → Reply call → Option Other}
    {reports : Option Other → α → Prop} {rename : Change → Other} {had : Option Change}
    {task : Task Call Reply Shared α} (confirming : task.Confirming effect tells had)
    (same : ∀ call reply, renamed call reply = (effect call reply).map rename)
    (agree : ∀ change result, tells change result → reports (change.map rename) result) :
    task.Confirming renamed reports (had.map rename) := by
  induction task generalizing had with
  | done value => exact agree had value confirming
  | await call resume ih =>
      intro reply
      obtain ⟨only, onward⟩ := confirming reply
      rw [same]
      refine ⟨fun changed => ?_, fun shared => ?_⟩
      · rw [only (by simpa using changed)]
        rfl
      · have next := ih reply shared (onward shared)
        cases had <;> exact next

/-- A task none of whose calls has an effect. -/
theorem Task.confirming_of_allCalls {task : Task Call Reply Shared α} (silent : ∀ result, tells none result)
    (quiet : task.AllCalls fun call => ∀ reply, effect call reply = none) : task.Confirming effect tells none := by
  induction task with
  | done value => exact silent value
  | await call resume ih =>
      intro reply
      have none := quiet.1 reply
      refine ⟨fun changed => absurd none changed, fun shared => ?_⟩
      rw [none]
      exact ih reply shared (quiet.2 reply shared)

theorem Phase.confirming_bound {task : Task Call Reply Shared α} {phase : Phase Call Reply Shared α}
    {exchanges : List (Sigma Reply)} (confirming : task.Confirming effect tells none)
    (follows : phase.Follows task exchanges) : (effects effect exchanges).length ≤ 1 := by
  have executed : ∀ {call : Call} {reply : Reply call} {resume : Reply call → Shared → Task Call Reply Shared α},
      (∃ before, exchanges = before ++ [⟨call, reply⟩] ∧ task.Reaches before (.await call resume)) →
        (effects effect exchanges).length ≤ 1 := by
    intro call reply resume shown
    obtain ⟨before, rfl, goes⟩ := shown
    obtain ⟨bound, waits⟩ := confirming.after goes
    have only := (waits reply).1
    rw [Option.none_or] at only
    rw [Option.toList_none, List.nil_append] at bound
    rw [effects_append, effects_cons, effects_nil, List.append_nil, List.length_append]
    cases changed : effect call reply with
    | none => exact bound
    | some change =>
        have first := only (by rw [changed]; exact Option.some_ne_none change)
        rw [List.head?_eq_none_iff] at first
        simp [first]
  cases phase with
  | running later => exact (confirming.after follows).1
  | executed call reply resume => exact executed follows
  | waiting call reply resume => exact executed follows

namespace System

variable {system : System Call Reply Shared Store Choice Request α} {store : Store} {shared : Shared}
  {final : Pool Call Reply Shared Store α} {schedule : List (Label Request Choice)} {id : Nat} {request : Request}
  {tells : Request → Option Change → α → Prop}

/-- In every run each request has at most one effect, and its result, once it
is there, tells of it. -/
theorem effects_of_runs (programs : ∀ request, (system.program request).Confirming effect (tells request) none)
    (reached : system.runs (Pool.initial store shared) schedule = some final)
    (started : .started id request ∈ system.events (Pool.initial store shared) schedule) :
    (effects effect (Event.exchangesOf id (system.events (Pool.initial store shared) schedule))).length ≤ 1 ∧
      ∀ result, final.result id = some result → tells request
        (effects effect (Event.exchangesOf id (system.events (Pool.initial store shared) schedule))).head? result := by
  refine ⟨?_, fun result ended => ?_⟩
  · obtain ⟨phase, follows⟩ := exists_reaches_of_started reached started
    exact phase.confirming_bound (programs request) follows
  · have told := ((programs request).after (reaches_of_result reached started ended)).2
    rwa [Option.none_or] at told

/-- A request that has its result had no effect or one, and the result tells which. -/
theorem effect_of_result (programs : ∀ request, (system.program request).Confirming effect (tells request) none)
    (reached : system.runs (Pool.initial store shared) schedule = some final)
    (started : .started id request ∈ system.events (Pool.initial store shared) schedule) {result : α}
    (ended : final.result id = some result) :
    (effects effect (Event.exchangesOf id (system.events (Pool.initial store shared) schedule)) = [] ∧
        tells request none result) ∨
      ∃ change, effects effect (Event.exchangesOf id (system.events (Pool.initial store shared) schedule)) = [change] ∧
        tells request (some change) result := by
  obtain ⟨once, told⟩ := effects_of_runs programs reached started
  have right := told result ended
  cases changes : effects effect (Event.exchangesOf id (system.events (Pool.initial store shared) schedule)) with
  | nil =>
      rw [changes] at right
      exact .inl ⟨rfl, right⟩
  | cons change rest =>
      rw [changes] at right once
      obtain rfl : rest = [] := List.length_eq_zero_iff.mp (Nat.le_zero.mp (Nat.le_of_succ_le_succ once))
      exact .inr ⟨change, rfl, right⟩

end System

/-- What an event makes of the store, when `applied` says it of each call and its reply. -/
def Event.apply (applied : (call : Call) → Reply call → Store → Store) (store : Store) :
    Event Call Reply Request → Store
  | .started _ _ => store
  | .called _ call reply => applied call reply store

theorem System.store_of_runs {system : System Call Reply Shared Store Choice Request α} {P : Call → Prop}
    {applied : (call : Call) → Reply call → Store → Store} (programs : ∀ request, (system.program request).AllCalls P)
    (acts : ∀ call choice store, P call →
      (system.execute call choice store).2 = applied call (system.execute call choice store).1 store)
    {store : Store} {shared : Shared} {final : Pool Call Reply Shared Store α}
    {schedule : List (Label Request Choice)}
    (reached : system.runs (Pool.initial store shared) schedule = some final) :
    final.store = (system.events (Pool.initial store shared) schedule).foldl (Event.apply applied) store := by
  refine runs_preserves_store (fun past now => now = past.foldl (Event.apply applied) store) programs
    (fun past now id request same => ?_) (fun past now id call choice allowed same => ?_) rfl reached
  · rw [List.foldl_append, ← same]
    rfl
  · rw [List.foldl_append, ← same]
    exact acts call choice now allowed

end Tgdex.Effects
