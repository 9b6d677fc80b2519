import Mathlib.Data.List.Nodup
import Tgdex.Effects.Confirmation

namespace Tgdex.Effects

/-! # Interleavings that come down to a sequence of actions

`effect` is what the reply to a call of a request has done or shown, and `act`
what the actions do to the store when nothing runs beside them. -/

variable {Call : Type} {Reply : Call → Type} {Shared Store Choice Request Action α : Type}
  {effect : Request → (call : Call) → Reply call → Option Action} {act : Action → Store → Store → Prop}

/-- The store that the actions lead to, one after the other. -/
def Replays (act : Action → Store → Store → Prop) : Store → List Action → Store → Prop
  | store, [], final => final = store
  | store, action :: rest, final => ∃ next, act action store next ∧ Replays act next rest final

/-- The store is changed by the action, if there is one, and by nothing else. -/
def Does (act : Action → Store → Store → Prop) (action : Option Action) (store next : Store) : Prop :=
  match action with
  | some action => act action store next
  | none => next = store

theorem Replays.append {store middle final : Store} {first rest : List Action} (replays : Replays act store first middle)
    (onward : Replays act middle rest final) : Replays act store (first ++ rest) final := by
  induction first generalizing store with
  | nil =>
      obtain rfl : middle = store := replays
      exact onward
  | cons action others ih =>
      obtain ⟨next, acts, remaining⟩ := replays
      exact ⟨next, acts, ih remaining⟩

theorem Replays.split {store final : Store} {first rest : List Action} (replays : Replays act store (first ++ rest) final) :
    ∃ middle, Replays act store first middle ∧ Replays act middle rest final := by
  induction first generalizing store with
  | nil => exact ⟨store, rfl, replays⟩
  | cons action others ih =>
      obtain ⟨next, acts, remaining⟩ := replays
      obtain ⟨middle, early, late⟩ := ih remaining
      exact ⟨middle, ⟨next, acts, early⟩, late⟩

namespace Event

/-- The request that came in under the id. -/
def requestOf (id : Nat) (events : List (Event Call Reply Request)) : Option Request :=
  events.findSome? fun
    | .started other request => if other = id then some request else none
    | .called _ _ _ => none

theorem started_of_requestOf {id : Nat} {request : Request} {events : List (Event Call Reply Request)}
    (found : requestOf id events = some request) : .started id request ∈ events := by
  obtain ⟨event, member, same⟩ := List.exists_of_findSome?_eq_some found
  cases event with
  | called other call reply => cases same
  | started other known =>
      simp only at same
      split at same
      · rename_i own
        cases same
        exact own ▸ member
      · cases same

theorem requestOf_isSome {id : Nat} {request : Request} {events : List (Event Call Reply Request)}
    (started : .started id request ∈ events) : (requestOf id events).isSome = true :=
  List.findSome?_isSome_iff.mpr ⟨_, started, by simp⟩

theorem requestOf_append {id : Nat} {first : List (Event Call Reply Request)}
    (known : (requestOf id first).isSome = true) (rest : List (Event Call Reply Request)) :
    requestOf id (first ++ rest) = requestOf id first := by
  simp only [requestOf, List.findSome?_append] at known ⊢
  rw [Option.or_of_isSome known]

/-- Every call is one of a request that has come in. -/
def Introduced (events : List (Event Call Reply Request)) : Prop :=
  ∀ id call reply, .called id call reply ∈ events → (requestOf id events).isSome = true

def action? (effect : Request → (call : Call) → Reply call → Option Action) (requests : Nat → Option Request) :
    Event Call Reply Request → Option (Nat × Action)
  | .started _ _ => none
  | .called id call reply => (requests id).bind fun request => (effect request call reply).map fun action => (id, action)

/-- The actions in the order in which they took effect, with the requests they are of. -/
def log (effect : Request → (call : Call) → Reply call → Option Action) (events : List (Event Call Reply Request)) :
    List (Nat × Action) :=
  events.filterMap (action? effect fun id => requestOf id events)

theorem log_append {first rest : List (Event Call Reply Request)} (introduced : Introduced first) :
    log effect (first ++ rest) =
      log effect first ++ rest.filterMap (action? effect fun id => requestOf id (first ++ rest)) := by
  have same : ∀ event ∈ first, action? effect (fun id => requestOf id (first ++ rest)) event =
      action? effect (fun id => requestOf id first) event := by
    intro event member
    cases event with
    | started id request => rfl
    | called id call reply => simp only [action?, requestOf_append (introduced id call reply member) rest]
  rw [log, List.filterMap_append, log, List.filterMap_congr same]

theorem mem_filterMap_action? {requests : Nat → Option Request} {events : List (Event Call Reply Request)}
    {id : Nat} {action : Action} :
    (id, action) ∈ events.filterMap (action? effect requests) ↔
      ∃ request call reply, requests id = some request ∧ .called id call reply ∈ events ∧
        effect request call reply = some action := by
  simp only [List.mem_filterMap]
  refine ⟨fun shown => ?_, fun shown => ?_⟩
  · obtain ⟨event, member, same⟩ := shown
    cases event with
    | started other request => cases same
    | called other call reply =>
        simp only [action?, Option.bind_eq_some_iff, Option.map_eq_some_iff, Prod.mk.injEq] at same
        obtain ⟨request, known, other, done, rfl, rfl⟩ := same
        exact ⟨request, call, reply, known, member, done⟩
  · obtain ⟨request, call, reply, known, member, done⟩ := shown
    exact ⟨_, member, by simp [action?, known, done]⟩

theorem exchangesOf_cons_self (id : Nat) (call : Call) (reply : Reply call) (rest : List (Event Call Reply Request)) :
    exchangesOf id (.called id call reply :: rest) = ⟨call, reply⟩ :: exchangesOf id rest := by
  simp [exchangesOf, exchange?]

theorem exchangesOf_cons_other {id other : Nat} (differs : other ≠ id) (call : Call) (reply : Reply call)
    (rest : List (Event Call Reply Request)) :
    exchangesOf id (.called other call reply :: rest) = exchangesOf id rest := by
  simp [exchangesOf, exchange?, differs]

theorem count_actions {requests : Nat → Option Request} {id : Nat} {request : Request}
    (known : requests id = some request) (events : List (Event Call Reply Request)) :
    ((events.filterMap (action? effect requests)).map Prod.fst).count id =
      (effects (effect request) (exchangesOf id events)).length := by
  induction events with
  | nil => rfl
  | cons event rest ih =>
      cases event with
      | started other begun => exact ih
      | called other call reply =>
          by_cases own : other = id
          · subst own
            rw [exchangesOf_cons_self, effects_cons, List.filterMap_cons, action?, known, Option.bind_some]
            cases effect request call reply with
            | none => simpa using ih
            | some action => simpa [Nat.add_comm] using ih
          · rw [exchangesOf_cons_other own, List.filterMap_cons]
            cases made : action? effect requests (.called other call reply) with
            | none => exact ih
            | some entry =>
                simp only [action?, Option.bind_eq_some_iff, Option.map_eq_some_iff] at made
                obtain ⟨-, -, action, -, rfl⟩ := made
                rw [List.map_cons, List.count_cons_of_ne own]
                exact ih

theorem lookup_actions {requests : Nat → Option Request} {id : Nat} {request : Request}
    (known : requests id = some request) (events : List (Event Call Reply Request)) :
    (events.filterMap (action? effect requests)).lookup id = (effects (effect request) (exchangesOf id events)).head? := by
  induction events with
  | nil => rfl
  | cons event rest ih =>
      cases event with
      | started other begun => exact ih
      | called other call reply =>
          by_cases own : other = id
          · subst own
            rw [exchangesOf_cons_self, effects_cons, List.filterMap_cons, action?, known, Option.bind_some]
            cases effect request call reply with
            | none => exact ih
            | some action => simp
          · rw [exchangesOf_cons_other own, List.filterMap_cons]
            cases made : action? effect requests (.called other call reply) with
            | none => exact ih
            | some entry =>
                simp only [action?, Option.bind_eq_some_iff, Option.map_eq_some_iff] at made
                obtain ⟨-, -, action, -, rfl⟩ := made
                rw [List.lookup_cons, beq_false_of_ne (Ne.symm own)]
                exact ih

end Event

namespace System

variable {system : System Call Reply Shared Store Choice Request α} {store : Store} {shared : Shared}
  {final : Pool Call Reply Shared Store α} {schedule : List (Label Request Choice)}

theorem Explains.introduced {events : List (Event Call Reply Request)} {pool : Pool Call Reply Shared Store α}
    (explains : system.Explains events pool) : Event.Introduced events := by
  intro id call reply called
  cases present : pool.phase id with
  | none =>
      have made := Event.mem_exchangesOf.mpr called
      rw [(explains.fresh id present).1] at made
      cases made
  | some phase =>
      obtain ⟨request, started, -⟩ := explains.known id phase present
      exact Event.requestOf_isSome started

theorem Explains.requestOf {events : List (Event Call Reply Request)} {pool : Pool Call Reply Shared Store α}
    (explains : system.Explains events pool) {id : Nat} {request : Request} (started : .started id request ∈ events) :
    Event.requestOf id events = some request := by
  obtain ⟨known, found⟩ := Option.isSome_iff_exists.mp (Event.requestOf_isSome started)
  rw [found, explains.once id known request (Event.started_of_requestOf found) started]

theorem log_start {events : List (Event Call Reply Request)} {pool : Pool Call Reply Shared Store α}
    (explains : system.Explains events pool) (id : Nat) (request : Request) :
    Event.log effect (events ++ [.started id request]) = Event.log effect events := by
  rw [Event.log_append explains.introduced]
  exact List.append_nil _

theorem log_called {events : List (Event Call Reply Request)} {pool : Pool Call Reply Shared Store α}
    (explains : system.Explains events pool) {id : Nat} {request : Request} (started : .started id request ∈ events)
    (call : Call) (reply : Reply call) :
    Event.log effect (events ++ [.called id call reply]) =
      Event.log effect events ++ (effect request call reply).toList.map fun action => (id, action) := by
  have known : Event.requestOf id (events ++ [.called id call reply]) = some request := by
    rw [Event.requestOf_append (Event.requestOf_isSome started), explains.requestOf started]
  rw [Event.log_append explains.introduced, List.filterMap_cons, Event.action?, known, Option.bind_some]
  cases effect request call reply <;> rfl

/-- What the calls do to the store is what the actions of the log do, one after the other. -/
theorem replays_of_runs {P : Request → Call → Prop} {Inv : Store → Prop}
    (programs : ∀ request, (system.program request).AllCalls (P request))
    (acts : ∀ request call choice store, P request call → Inv store →
      Inv (system.execute call choice store).2 ∧
        Does act (effect request call (system.execute call choice store).1) store (system.execute call choice store).2)
    (before : Inv store) (reached : system.runs (Pool.initial store shared) schedule = some final) :
    Replays act store ((Event.log effect (system.events (Pool.initial store shared) schedule)).map Prod.snd)
      final.store := by
  have kept : ∀ past pool label next,
      system.Explains past pool ∧ Inv pool.store ∧
        Replays act store ((Event.log effect past).map Prod.snd) pool.store → system.Stepped pool label next →
      system.Explains (past ++ (system.event? pool label).toList) next ∧ Inv next.store ∧
        Replays act store ((Event.log effect (past ++ (system.event? pool label).toList)).map Prod.snd) next.store := by
    intro past pool label next held stepped
    obtain ⟨explains, now, replays⟩ := held
    refine ⟨explains_step explains stepped, ?_⟩
    cases stepped with
    | @start id request fresh =>
        rw [event?, Option.toList_some, log_start explains]
        exact ⟨now, replays⟩
    | receive executed =>
        rw [event?, Option.toList_none, List.append_nil]
        exact ⟨now, replays⟩
    | handle waiting =>
        rw [event?, Option.toList_none, List.append_nil]
        exact ⟨now, replays⟩
    | @execute id choice call resume running =>
        obtain ⟨request, started, goes⟩ := explains.known id _ running
        have permitted : P request call := (Task.Reaches.always goes (programs request)).1
        obtain ⟨good, step⟩ := acts request call choice pool.store permitted now
        refine ⟨good, ?_⟩
        simp only [event?, running, Option.toList_some]
        rw [log_called explains started, List.map_append]
        refine replays.append ?_
        cases done : effect request call (system.execute call choice pool.store).1 with
        | none =>
            rw [done] at step
            exact step
        | some action =>
            rw [done] at step
            exact ⟨_, step, rfl⟩
  have initially : system.Explains [] (Pool.initial store shared) ∧
      Inv (Pool.initial store shared : Pool Call Reply Shared Store α).store ∧
      Replays act store ((Event.log effect ([] : List (Event Call Reply Request))).map Prod.snd)
        (Pool.initial store shared : Pool Call Reply Shared Store α).store :=
    ⟨explains_initial store shared, before, rfl⟩
  exact (runs_preserves_history kept initially reached).2.2

theorem events_append {pool middle : Pool Call Reply Shared Store α} {first : List (Label Request Choice)}
    (reached : system.runs pool first = some middle) (rest : List (Label Request Choice)) :
    system.events pool (first ++ rest) = system.events pool first ++ system.events middle rest := by
  induction first generalizing pool with
  | nil =>
      cases reached
      rfl
  | cons label others ih =>
      obtain ⟨next, taken, remaining⟩ := Option.bind_eq_some_iff.mp reached
      rw [List.cons_append, events_cons taken, events_cons taken, ih remaining, List.append_assoc]

/-- A request that has its result keeps it and makes no more calls. -/
theorem done_of_stepped {pool next : Pool Call Reply Shared Store α} {label : Label Request Choice} {id : Nat}
    {result : α} (ended : pool.phase id = some (.running (.done result))) (stepped : system.Stepped pool label next) :
    next.phase id = some (.running (.done result)) ∧
      ∀ call reply, .called id call reply ∉ (system.event? pool label).toList := by
  cases stepped with
  | @start other request fresh =>
      have differs : id ≠ other := by
        rintro rfl
        cases ended.symm.trans fresh
      exact ⟨by rw [Pool.setPhase_phase_other _ _ _ differs, ended], by simp [event?]⟩
  | @execute other choice made resume running =>
      have differs : id ≠ other := by
        rintro rfl
        cases ended.symm.trans running
      refine ⟨by rw [Pool.setPhase_phase_other _ _ _ differs]; exact ended, fun call reply => ?_⟩
      simp only [event?, running, Option.toList_some, List.mem_singleton, Event.called.injEq, not_and]
      exact fun same => absurd same differs
  | @receive other made answered resume executed =>
      have differs : id ≠ other := by
        rintro rfl
        cases ended.symm.trans executed
      exact ⟨by rw [Pool.setPhase_phase_other _ _ _ differs]; exact ended, by simp [event?]⟩
  | @handle other made answered resume waiting =>
      have differs : id ≠ other := by
        rintro rfl
        cases ended.symm.trans waiting
      exact ⟨by rw [Pool.setPhase_phase_other _ _ _ differs, ended], by simp [event?]⟩

theorem done_of_runs {pool : Pool Call Reply Shared Store α} {id : Nat} {result : α}
    (ended : pool.phase id = some (.running (.done result))) (reached : system.runs pool schedule = some final) :
    final.phase id = some (.running (.done result)) ∧
      ∀ call reply, .called id call reply ∉ system.events pool schedule := by
  induction schedule generalizing pool with
  | nil =>
      cases reached
      exact ⟨ended, fun _ _ => List.not_mem_nil⟩
  | cons label rest ih =>
      obtain ⟨next, taken, remaining⟩ := Option.bind_eq_some_iff.mp reached
      obtain ⟨still, silent⟩ := done_of_stepped ended (system.stepped_of_step taken)
      obtain ⟨last, quiet⟩ := ih still remaining
      refine ⟨last, fun call reply => ?_⟩
      rw [events_cons taken, List.mem_append, not_or]
      exact ⟨silent call reply, quiet call reply⟩

theorem done_of_result {pool : Pool Call Reply Shared Store α} {id : Nat} {result : α}
    (ended : pool.result id = some result) : pool.phase id = some (.running (.done result)) := by
  simp only [Pool.result] at ended
  split at ended
  · rename_i present
    cases ended
    exact present
  · cases ended

theorem result_of_runs {pool : Pool Call Reply Shared Store α} {id : Nat} {result : α}
    (ended : pool.result id = some result) (reached : system.runs pool schedule = some final) :
    final.result id = some result := by
  rw [Pool.result, (done_of_runs (done_of_result ended) reached).1]

/-- At each moment of a run the log divides: what came before has no action of a
request that is still to come in, and what comes after none of a request that
has its result. -/
theorem log_divides {first rest : List (Label Request Choice)} {middle : Pool Call Reply Shared Store α}
    (reachedFirst : system.runs (Pool.initial store shared) first = some middle)
    (reached : system.runs (Pool.initial store shared) (first ++ rest) = some final) :
    ∃ early late, Event.log effect (system.events (Pool.initial store shared) (first ++ rest)) = early ++ late ∧
      (∀ id, middle.phase id = none → id ∉ early.map Prod.fst) ∧
      ∀ id result, middle.result id = some result → id ∉ late.map Prod.fst := by
  have explains := explains_of_runs reachedFirst
  rw [runs_append system reachedFirst] at reached
  rw [events_append reachedFirst, Event.log_append explains.introduced]
  refine ⟨_, _, rfl, fun id fresh member => ?_, fun id result ended member => ?_⟩
  · obtain ⟨⟨_, action⟩, entry, rfl⟩ := List.mem_map.mp member
    obtain ⟨request, call, reply, -, called, -⟩ := Event.mem_filterMap_action?.mp entry
    have made := Event.mem_exchangesOf.mpr called
    rw [(explains.fresh _ fresh).1] at made
    cases made
  · obtain ⟨⟨_, action⟩, entry, rfl⟩ := List.mem_map.mp member
    obtain ⟨request, call, reply, -, called, -⟩ := Event.mem_filterMap_action?.mp entry
    exact (done_of_runs (done_of_result ended) reached).2 call reply called

/-- A sequence of actions that explains a run to its clients.  The actions lead
from the store at the start to the one at the end, no request has two of them,
what a request was told is right after its own, and an action that comes before
another is not one of a request that came in after the other's was answered. -/
structure Linearization (system : System Call Reply Shared Store Choice Request α) (act : Action → Store → Store → Prop)
    (tells : Request → Option Action → α → Prop) (store : Store) (shared : Shared)
    (schedule : List (Label Request Choice)) (final : Pool Call Reply Shared Store α) (log : List (Nat × Action)) :
    Prop where
  replays : Replays act store (log.map Prod.snd) final.store
  once : (log.map Prod.fst).Nodup
  told : ∀ id request result, .started id request ∈ system.events (Pool.initial store shared) schedule →
    final.result id = some result → tells request (log.lookup id) result
  ordered : ∀ first rest middle, schedule = first ++ rest →
    system.runs (Pool.initial store shared) first = some middle →
    ∃ early late, log = early ++ late ∧ (∀ id, middle.phase id = none → id ∉ early.map Prod.fst) ∧
      ∀ id result, middle.result id = some result → id ∉ late.map Prod.fst

theorem lookup_eq_none_of_not_mem {log : List (Nat × Action)} {id : Nat} (absent : id ∉ log.map Prod.fst) :
    log.lookup id = none := by
  rw [List.lookup_eq_none_iff]
  intro entry member
  rw [bne_iff_ne]
  rintro rfl
  exact absent (List.mem_map_of_mem member)

/-- The action of a request that was answered comes before the action of one that came in later. -/
theorem Linearization.precedes {tells : Request → Option Action → α → Prop} {log : List (Nat × Action)}
    (linear : system.Linearization act tells store shared schedule final log) {first rest : List (Label Request Choice)}
    (split : schedule = first ++ rest) {middle : Pool Call Reply Shared Store α}
    (reachedFirst : system.runs (Pool.initial store shared) first = some middle) {earlier later : Nat} {result : α}
    (answered : middle.result earlier = some result) (fresh : middle.phase later = none) {done shown : Action}
    (did : log.lookup earlier = some done) (saw : log.lookup later = some shown) :
    ∃ before between after, log = before ++ (earlier, done) :: between ++ (later, shown) :: after ∧
      earlier ∉ between.map Prod.fst := by
  obtain ⟨early, late, rfl, unborn, quiet⟩ := linear.ordered first rest middle split reachedFirst
  have silent := quiet earlier result answered
  rw [List.lookup_append, lookup_eq_none_of_not_mem silent, Option.or_none, List.lookup_eq_some_iff] at did
  rw [List.lookup_append, lookup_eq_none_of_not_mem (unborn later fresh), Option.none_or,
    List.lookup_eq_some_iff] at saw
  obtain ⟨before, between, rfl, -⟩ := did
  obtain ⟨more, after, rfl, -⟩ := saw
  have once := linear.once
  simp only [List.map_append, List.map_cons, List.append_assoc, List.cons_append] at once
  have alone := (List.nodup_cons.mp (List.nodup_append.mp once).2.1).1
  refine ⟨before, between ++ more, after, by simp, fun member => alone ?_⟩
  rw [List.map_append] at member
  rcases List.mem_append.mp member with near | far
  · exact List.mem_append_left _ near
  · exact List.mem_append_right _ (List.mem_append_left _ far)

/-- Requests that take effect at most once and say so come down to the sequence of their actions. -/
theorem linearization_of_runs {tells : Request → Option Action → α → Prop} {P : Request → Call → Prop}
    {Inv : Store → Prop} (programs : ∀ request, (system.program request).AllCalls (P request))
    (confirming : ∀ request, (system.program request).Confirming (effect request) (tells request) none)
    (acts : ∀ request call choice store, P request call → Inv store →
      Inv (system.execute call choice store).2 ∧
        Does act (effect request call (system.execute call choice store).1) store (system.execute call choice store).2)
    (before : Inv store) (reached : system.runs (Pool.initial store shared) schedule = some final) :
    system.Linearization act tells store shared schedule final
      (Event.log effect (system.events (Pool.initial store shared) schedule)) := by
  have explains := explains_of_runs reached
  refine ⟨replays_of_runs programs acts before reached, ?once, fun id request result started ended => ?told,
    fun first rest middle split reachedFirst => ?ordered⟩
  case once =>
    refine List.nodup_iff_count_le_one.mpr fun id => ?_
    cases found : Event.requestOf id (system.events (Pool.initial store shared) schedule) with
    | some request =>
        rw [Event.log, Event.count_actions found]
        obtain ⟨phase, follows⟩ := exists_reaches_of_started reached (Event.started_of_requestOf found)
        exact phase.confirming_bound (confirming request) follows
    | none =>
        refine Nat.le_trans (Nat.le_of_eq (List.count_eq_zero.mpr fun member => ?_)) (Nat.zero_le 1)
        obtain ⟨⟨_, action⟩, entry, rfl⟩ := List.mem_map.mp member
        obtain ⟨request, -, -, known, -⟩ := Event.mem_filterMap_action?.mp entry
        cases found.symm.trans known
  case told =>
    have told := ((confirming request).after (reaches_of_result reached started ended)).2
    rw [Option.none_or] at told
    rw [Event.log, Event.lookup_actions (explains.requestOf started)]
    exact told
  case ordered =>
    subst split
    exact log_divides reachedFirst reached

end System

end Tgdex.Effects
