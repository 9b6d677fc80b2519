import Tgdex.Effects.Pool

namespace Tgdex.Effects

/-! # What a run does, in order

The events of a run are the requests that come in and the calls that take
effect, with their replies.  Those of one request are a path through its
program. -/

variable {Call : Type} {Reply : Call → Type} {Shared Store Choice Request α β : Type}

inductive Event (Call : Type) (Reply : Call → Type) (Request : Type) where
  | started (id : Nat) (request : Request)
  | called (id : Nat) (call : Call) (reply : Reply call)

namespace Event

def exchange? (id : Nat) : Event Call Reply Request → Option (Sigma Reply)
  | .started _ _ => none
  | .called caller call reply => if caller = id then some ⟨call, reply⟩ else none

/-- The calls that one request has made, with their replies. -/
def exchangesOf (id : Nat) (events : List (Event Call Reply Request)) : List (Sigma Reply) :=
  events.filterMap (exchange? id)

@[simp] theorem exchangesOf_append (id : Nat) (first rest : List (Event Call Reply Request)) :
    exchangesOf id (first ++ rest) = exchangesOf id first ++ exchangesOf id rest :=
  List.filterMap_append

@[simp] theorem exchangesOf_nil (id : Nat) : exchangesOf id ([] : List (Event Call Reply Request)) = [] := rfl

@[simp] theorem exchangesOf_started (id other : Nat) (request : Request) :
    exchangesOf id ([.started other request] : List (Event Call Reply Request)) = [] := rfl

theorem exchangesOf_called_self (id : Nat) (call : Call) (reply : Reply call) :
    exchangesOf id ([.called id call reply] : List (Event Call Reply Request)) = [⟨call, reply⟩] := by
  simp [exchangesOf, exchange?]

theorem exchangesOf_called_other {id other : Nat} (differs : id ≠ other) (call : Call) (reply : Reply call) :
    exchangesOf other ([.called id call reply] : List (Event Call Reply Request)) = [] := by
  simp [exchangesOf, exchange?, differs]

theorem mem_exchangesOf {id : Nat} {call : Call} {reply : Reply call} {events : List (Event Call Reply Request)} :
    ⟨call, reply⟩ ∈ exchangesOf id events ↔ .called id call reply ∈ events := by
  simp only [exchangesOf, List.mem_filterMap]
  refine ⟨fun shown => ?_, fun member => ⟨_, member, by simp [exchange?]⟩⟩
  obtain ⟨event, member, same⟩ := shown
  cases event with
  | started other request => cases same
  | called other made answered =>
      simp only [exchange?] at same
      split at same
      · rename_i own
        cases same
        exact own ▸ member
      · cases same

end Event

namespace System

variable (system : System Call Reply Shared Store Choice Request α)

/-- What an observer sees of one step. -/
def event? (pool : Pool Call Reply Shared Store α) : Label Request Choice → Option (Event Call Reply Request)
  | .start id request => some (.started id request)
  | .execute id choice =>
      match pool.phase id with
      | some (.running (.await call _)) => some (.called id call (system.execute call choice pool.store).1)
      | _ => none
  | .receive _ | .handle _ => none

def events (pool : Pool Call Reply Shared Store α) : List (Label Request Choice) → List (Event Call Reply Request)
  | [] => []
  | label :: rest =>
      match system.step pool label with
      | none => []
      | some next => (system.event? pool label).toList ++ events next rest

variable {system}

theorem events_cons {pool next : Pool Call Reply Shared Store α} {label : Label Request Choice}
    (taken : system.step pool label = some next) (rest : List (Label Request Choice)) :
    system.events pool (label :: rest) = (system.event? pool label).toList ++ system.events next rest := by
  rw [events, taken]

theorem started_mem_events {pool final : Pool Call Reply Shared Store α} {id : Nat} {request : Request}
    {schedule : List (Label Request Choice)} (reached : system.runs pool schedule = some final)
    (starts : .start id request ∈ schedule) : .started id request ∈ system.events pool schedule := by
  induction schedule generalizing pool with
  | nil => cases starts
  | cons label rest ih =>
      obtain ⟨next, taken, remaining⟩ := Option.bind_eq_some_iff.mp reached
      rw [events_cons taken]
      rcases List.mem_cons.mp starts with rfl | later
      · exact List.mem_append_left _ (List.mem_singleton_self _)
      · exact List.mem_append_right _ (ih remaining later)

/-- The induction over guarded runs for invariants that look at the events so far. -/
theorem guarded_preserves_history {Inv : List (Event Call Reply Request) → Pool Call Reply Shared Store α → Prop}
    {ok : Pool Call Reply Shared Store α → Label Request Choice → Prop}
    (kept : ∀ past pool label next, Inv past pool → ok pool label → system.Stepped pool label next →
      Inv (past ++ (system.event? pool label).toList) next)
    {past : List (Event Call Reply Request)} {pool final : Pool Call Reply Shared Store α}
    {schedule : List (Label Request Choice)} (before : Inv past pool) (guarded : system.Guarded ok pool schedule)
    (reached : system.runs pool schedule = some final) : Inv (past ++ system.events pool schedule) final := by
  induction schedule generalizing past pool with
  | nil =>
      cases reached
      rwa [events, List.append_nil]
  | cons label rest ih =>
      obtain ⟨next, taken, remaining⟩ := Option.bind_eq_some_iff.mp reached
      rw [events_cons taken, ← List.append_assoc]
      exact ih (kept past pool label next before guarded.1 (system.stepped_of_step taken)) (guarded.2 next taken)
        remaining

/-- The same for runs without a guard. -/
theorem runs_preserves_history {Inv : List (Event Call Reply Request) → Pool Call Reply Shared Store α → Prop}
    (kept : ∀ past pool label next, Inv past pool → system.Stepped pool label next →
      Inv (past ++ (system.event? pool label).toList) next)
    {past : List (Event Call Reply Request)} {pool final : Pool Call Reply Shared Store α}
    {schedule : List (Label Request Choice)} (before : Inv past pool)
    (reached : system.runs pool schedule = some final) : Inv (past ++ system.events pool schedule) final :=
  guarded_preserves_history (fun past pool label next now _ stepped => kept past pool label next now stepped) before
    (system.guarded_true pool schedule) reached

/-- The same for invariants of the store alone: only calls change it. -/
theorem runs_preserves_store (Inv : List (Event Call Reply Request) → Store → Prop) {P : Call → Prop}
    (programs : ∀ request, (system.program request).AllCalls P)
    (started : ∀ past store id request, Inv past store → Inv (past ++ [.started id request]) store)
    (called : ∀ past store id call choice, P call → Inv past store →
      Inv (past ++ [.called id call (system.execute call choice store).1]) (system.execute call choice store).2)
    {store : Store} {shared : Shared} {final : Pool Call Reply Shared Store α}
    {schedule : List (Label Request Choice)} (before : Inv [] store)
    (reached : system.runs (Pool.initial store shared) schedule = some final) :
    Inv (system.events (Pool.initial store shared) schedule) final.store := by
  have kept : ∀ past pool label next, Inv past pool.store ∧ pool.Always (fun call _ => P call) →
      system.Stepped pool label next →
      Inv (past ++ (system.event? pool label).toList) next.store ∧ next.Always (fun call _ => P call) := by
    intro past pool label next held stepped
    obtain ⟨now, all⟩ := held
    refine ⟨?_, stepped_always programs all stepped⟩
    cases stepped with
    | start fresh => exact started past pool.store _ _ now
    | receive executed => rwa [event?, Option.toList_none, List.append_nil]
    | handle waiting => rwa [event?, Option.toList_none, List.append_nil]
    | @execute id choice call resume running =>
        have allowed : P call := (all id _ running).1
        simp only [event?, running, Option.toList_some]
        exact called past pool.store id call choice allowed now
  have initially : Inv [] (Pool.initial store shared : Pool Call Reply Shared Store α).store ∧
      (Pool.initial store shared : Pool Call Reply Shared Store α).Always fun call _ => P call :=
    ⟨before, Pool.initial_always store shared⟩
  exact (runs_preserves_history kept initially reached).1

/-- A call that took effect did so at one moment of the run. -/
theorem moment_of_called {pool final : Pool Call Reply Shared Store α} {schedule : List (Label Request Choice)}
    {id : Nat} {call : Call} {reply : Reply call} (reached : system.runs pool schedule = some final)
    (called : .called id call reply ∈ system.events pool schedule) :
    ∃ before choice after moment, schedule = before ++ .execute id choice :: after ∧
      system.runs pool before = some moment ∧ reply = (system.execute call choice moment.store).1 := by
  induction schedule generalizing pool with
  | nil => cases called
  | cons label rest ih =>
      obtain ⟨next, taken, remaining⟩ := Option.bind_eq_some_iff.mp reached
      rw [events_cons taken, List.mem_append, Option.mem_toList] at called
      rcases called with here | later
      · cases label with
        | start other request => cases here
        | receive other => cases here
        | handle other => cases here
        | execute other choice =>
            simp only [event?] at here
            split at here
            · cases here
              exact ⟨[], choice, rest, pool, rfl, rfl, rfl⟩
            · cases here
      · obtain ⟨before, choice, after, moment, rfl, reached, replied⟩ := ih remaining later
        exact ⟨label :: before, choice, after, moment, rfl, by rw [runs, taken, Option.bind_some, reached], replied⟩

end System

namespace Task

/-- The task gets to another one by these calls and replies. -/
def Reaches : Task Call Reply Shared α → List (Sigma Reply) → Task Call Reply Shared α → Prop
  | task, [], later => later = task
  | task, ⟨made, reply⟩ :: rest, later =>
      ∃ resume shared, task = .await made resume ∧ (resume reply shared).Reaches rest later

theorem Reaches.handle {task later : Task Call Reply Shared α} {made : Call} {reply : Reply made}
    {resume : Reply made → Shared → Task Call Reply Shared α} {exchanges : List (Sigma Reply)}
    (goes : task.Reaches exchanges (.await made resume)) (shared : Shared) (same : resume reply shared = later) :
    task.Reaches (exchanges ++ [⟨made, reply⟩]) later := by
  induction exchanges generalizing task with
  | nil =>
      obtain rfl : _ = task := goes
      exact ⟨resume, shared, rfl, same.symm⟩
  | cons first rest ih =>
      obtain ⟨between, held, rfl, onward⟩ := goes
      exact ⟨between, held, rfl, ih onward⟩

theorem Reaches.always {P : (call : Call) → (Reply call → Shared → Task Call Reply Shared α) → Prop}
    {task later : Task Call Reply Shared α} {exchanges : List (Sigma Reply)} (goes : task.Reaches exchanges later)
    (all : task.Always P) : later.Always P := by
  induction exchanges generalizing task with
  | nil =>
      obtain rfl : later = task := goes
      exact all
  | cons first rest ih =>
      obtain ⟨resume, shared, rfl, onward⟩ := goes
      exact ih onward (all.2 _ _)

/-- Every call on the path is one of those that the task can come to. -/
theorem Reaches.allCalls {P : Call → Prop} {task later : Task Call Reply Shared α} {exchanges : List (Sigma Reply)}
    (goes : task.Reaches exchanges later) (all : task.AllCalls P) : ∀ exchange ∈ exchanges, P exchange.1 := by
  induction exchanges generalizing task with
  | nil => simp
  | cons first rest ih =>
      obtain ⟨resume, shared, rfl, onward⟩ := goes
      exact List.forall_mem_cons.mpr ⟨all.1, ih onward (all.2 _ _)⟩

end Task

/-- The phase that a request is in after these calls of its program. -/
def Phase.Follows (task : Task Call Reply Shared α) (exchanges : List (Sigma Reply)) :
    Phase Call Reply Shared α → Prop
  | .running later => task.Reaches exchanges later
  | .executed call reply resume | .waiting call reply resume =>
      ∃ before, exchanges = before ++ [⟨call, reply⟩] ∧ task.Reaches before (.await call resume)

theorem Phase.Follows.allCalls {P : Call → Prop} {task : Task Call Reply Shared α}
    {phase : Phase Call Reply Shared α} {exchanges : List (Sigma Reply)} (follows : phase.Follows task exchanges)
    (all : task.AllCalls P) : ∀ exchange ∈ exchanges, P exchange.1 := by
  have executed : ∀ {call : Call} {reply : Reply call} {resume : Reply call → Shared → Task Call Reply Shared α},
      (∃ before, exchanges = before ++ [⟨call, reply⟩] ∧ task.Reaches before (.await call resume)) →
        ∀ exchange ∈ exchanges, P exchange.1 := by
    intro call reply resume shown
    obtain ⟨before, rfl, goes⟩ := shown
    have here : P call := (goes.always all).1
    simpa [or_imp, forall_and, here] using goes.allCalls all
  cases phase with
  | running later => exact Task.Reaches.allCalls follows all
  | executed call reply resume => exact executed follows
  | waiting call reply resume => exact executed follows

namespace System

variable {system : System Call Reply Shared Store Choice Request α}

/-- Every request in flight stands where its own calls have led its program. -/
structure Explains (system : System Call Reply Shared Store Choice Request α)
    (events : List (Event Call Reply Request)) (pool : Pool Call Reply Shared Store α) : Prop where
  known : ∀ id phase, pool.phase id = some phase → ∃ request, .started id request ∈ events ∧
    phase.Follows (system.program request) (Event.exchangesOf id events)
  fresh : ∀ id, pool.phase id = none → Event.exchangesOf id events = [] ∧ ∀ request, .started id request ∉ events
  once : ∀ id request other, .started id request ∈ events → .started id other ∈ events → request = other

theorem explains_initial (store : Store) (shared : Shared) : system.Explains [] (Pool.initial store shared) where
  known := fun _ _ present => nomatch present
  fresh := fun _ _ => ⟨rfl, fun _ member => nomatch member⟩
  once := fun _ _ _ member => nomatch member

theorem Explains.move {events : List (Event Call Reply Request)} {pool next : Pool Call Reply Shared Store α}
    (explains : system.Explains events pool) {id : Nat} {phase before : Phase Call Reply Shared α}
    {more : List (Event Call Reply Request)} (was : pool.phase id = some before)
    (quiet : ∀ other request, .started other request ∉ more)
    (own : ∀ other, other ≠ id → Event.exchangesOf other more = [])
    (moved : next.phase = (pool.setPhase id phase).phase)
    (follows : ∀ request, before.Follows (system.program request) (Event.exchangesOf id events) →
      phase.Follows (system.program request) (Event.exchangesOf id (events ++ more))) :
    system.Explains (events ++ more) next := by
  have kept : ∀ other request, .started other request ∈ events ++ more ↔ .started other request ∈ events := by
    intro other request
    rw [List.mem_append, or_iff_left (quiet other request)]
  refine ⟨fun other now present => ?_, fun other absent => ?_, fun other request again first second => ?_⟩
  · simp only [kept]
    rw [moved] at present
    by_cases same : other = id
    · subst same
      rw [Pool.setPhase_phase_self, Option.some.injEq] at present
      obtain ⟨request, member, stood⟩ := explains.known other before was
      exact ⟨request, member, present ▸ follows request stood⟩
    · rw [Pool.setPhase_phase_other _ _ _ same] at present
      obtain ⟨request, member, stands⟩ := explains.known other now present
      exact ⟨request, member, by rwa [Event.exchangesOf_append, own other same, List.append_nil]⟩
  · simp only [kept]
    rw [moved] at absent
    by_cases same : other = id
    · subst same
      rw [Pool.setPhase_phase_self] at absent
      cases absent
    · rw [Pool.setPhase_phase_other _ _ _ same] at absent
      obtain ⟨silent, unknown⟩ := explains.fresh other absent
      exact ⟨by rw [Event.exchangesOf_append, silent, own other same, List.append_nil], unknown⟩
  · exact explains.once other request again ((kept other request).mp first) ((kept other again).mp second)

theorem Explains.start {events : List (Event Call Reply Request)} {pool : Pool Call Reply Shared Store α}
    (explains : system.Explains events pool) {id : Nat} {request : Request} (fresh : pool.phase id = none) :
    system.Explains (events ++ [.started id request])
      (pool.setPhase id (.running (system.program request))) := by
  obtain ⟨silent, unknown⟩ := explains.fresh id fresh
  refine ⟨fun other now present => ?_, fun other absent => ?_, fun other first second one two => ?_⟩
  · rw [Event.exchangesOf_append, Event.exchangesOf_started, List.append_nil]
    by_cases same : other = id
    · subst same
      rw [Pool.setPhase_phase_self, Option.some.injEq] at present
      subst present
      refine ⟨request, by simp, ?_⟩
      rw [silent]
      rfl
    · rw [Pool.setPhase_phase_other _ _ _ same] at present
      obtain ⟨known, member, stands⟩ := explains.known other now present
      exact ⟨known, List.mem_append_left _ member, stands⟩
  · rw [Event.exchangesOf_append, Event.exchangesOf_started, List.append_nil]
    have differs : other ≠ id := by
      rintro rfl
      simp at absent
    rw [Pool.setPhase_phase_other _ _ _ differs] at absent
    obtain ⟨quiet, others⟩ := explains.fresh other absent
    refine ⟨quiet, fun known member => ?_⟩
    rcases List.mem_append.mp member with earlier | now
    · exact others known earlier
    · cases List.mem_singleton.mp now
      exact differs rfl
  · simp only [List.mem_append, List.mem_singleton, Event.started.injEq] at one two
    rcases one with one | ⟨rfl, rfl⟩
    · rcases two with two | ⟨rfl, rfl⟩
      · exact explains.once other first second one two
      · exact absurd one (unknown first)
    · rcases two with two | ⟨-, rfl⟩
      · exact absurd two (unknown second)
      · rfl

theorem explains_step {events : List (Event Call Reply Request)} {pool next : Pool Call Reply Shared Store α}
    {label : Label Request Choice} (explains : system.Explains events pool)
    (stepped : system.Stepped pool label next) :
    system.Explains (events ++ (system.event? pool label).toList) next := by
  cases stepped with
  | start fresh => exact explains.start fresh
  | @execute id choice call resume running =>
      have seen : system.event? pool (.execute id choice) =
          some (.called id call (system.execute call choice pool.store).1) := by simp only [event?, running]
      rw [seen, Option.toList_some]
      refine explains.move running (by simp) (fun other differs => ?_) rfl fun request goes => ?_
      · exact Event.exchangesOf_called_other (Ne.symm differs) _ _
      · exact ⟨_, by rw [Event.exchangesOf_append, Event.exchangesOf_called_self], goes⟩
  | receive executed =>
      refine explains.move executed (by simp [event?]) (fun _ _ => rfl) rfl fun request goes => ?_
      rw [event?, Option.toList_none, List.append_nil]
      exact goes
  | handle waiting =>
      refine explains.move waiting (by simp [event?]) (fun _ _ => rfl) rfl fun request goes => ?_
      obtain ⟨before, same, goes⟩ := goes
      rw [event?, Option.toList_none, List.append_nil, same]
      exact goes.handle _ rfl

theorem explains_of_runs {store : Store} {shared : Shared} {final : Pool Call Reply Shared Store α}
    {schedule : List (Label Request Choice)}
    (reached : system.runs (Pool.initial store shared) schedule = some final) :
    system.Explains (system.events (Pool.initial store shared) schedule) final :=
  runs_preserves_history (fun _ _ _ _ => explains_step) (explains_initial store shared) reached

/-- A request that has its result got it by the calls that the run shows. -/
theorem reaches_of_result {store : Store} {shared : Shared} {final : Pool Call Reply Shared Store α}
    {schedule : List (Label Request Choice)} {id : Nat} {request : Request} {result : α}
    (reached : system.runs (Pool.initial store shared) schedule = some final)
    (started : .started id request ∈ system.events (Pool.initial store shared) schedule)
    (ended : final.result id = some result) :
    (system.program request).Reaches (Event.exchangesOf id (system.events (Pool.initial store shared) schedule))
      (.done result) := by
  have explains := explains_of_runs reached
  simp only [Pool.result] at ended
  split at ended
  · rename_i present
    cases ended
    obtain ⟨known, member, goes⟩ := explains.known id _ present
    rwa [explains.once id request known started member]
  · cases ended

/-- However far a started request has got, its calls are a path through its program. -/
theorem exists_reaches_of_started {store : Store} {shared : Shared} {final : Pool Call Reply Shared Store α}
    {schedule : List (Label Request Choice)} {id : Nat} {request : Request}
    (reached : system.runs (Pool.initial store shared) schedule = some final)
    (started : .started id request ∈ system.events (Pool.initial store shared) schedule) :
    ∃ phase : Phase Call Reply Shared α, phase.Follows (system.program request)
      (Event.exchangesOf id (system.events (Pool.initial store shared) schedule)) := by
  have explains := explains_of_runs reached
  cases present : final.phase id with
  | none => exact absurd started ((explains.fresh id present).2 request)
  | some phase =>
      obtain ⟨known, member, goes⟩ := explains.known id phase present
      exact ⟨phase, by rwa [explains.once id request known started member]⟩

/-- Every call of a run is one that the program of a started request can come to. -/
theorem started_of_called {P : Request → Call → Prop}
    (programs : ∀ request, (system.program request).AllCalls (P request)) {store : Store} {shared : Shared}
    {final : Pool Call Reply Shared Store α} {schedule : List (Label Request Choice)} {id : Nat} {call : Call}
    {reply : Reply call} (reached : system.runs (Pool.initial store shared) schedule = some final)
    (called : .called id call reply ∈ system.events (Pool.initial store shared) schedule) :
    ∃ request, .started id request ∈ system.events (Pool.initial store shared) schedule ∧ P request call := by
  have explains := explains_of_runs reached
  have made := Event.mem_exchangesOf.mpr called
  cases present : final.phase id with
  | none =>
      rw [(explains.fresh id present).1] at made
      cases made
  | some phase =>
      obtain ⟨request, member, follows⟩ := explains.known id phase present
      exact ⟨request, member, follows.allCalls (programs request) _ made⟩

theorem result_of_done (system : System Call Reply Shared Store Choice Request α) {request : Request} {answer : α}
    (done : system.program request = .done answer) {store : Store} {shared : Shared}
    {final : Pool Call Reply Shared Store α} {schedule : List (Label Request Choice)} {id : Nat} {result : α}
    (reached : system.runs (Pool.initial store shared) schedule = some final)
    (started : .started id request ∈ system.events (Pool.initial store shared) schedule)
    (ended : final.result id = some result) : result = answer := by
  have goes := reaches_of_result reached started ended
  rw [done] at goes
  cases exchanges : Event.exchangesOf id (system.events (Pool.initial store shared) schedule) with
  | nil =>
      rw [exchanges] at goes
      exact Task.done.inj goes
  | cons exchange rest =>
      rw [exchanges] at goes
      obtain ⟨resume, seen, same, -⟩ := goes
      cases same

/-- A request that makes one call got its result from the reply to it, at one
moment of the run. -/
theorem moment_of_single (system : System Call Reply Shared Store Choice Request α) {request : Request} {call : Call}
    {answer : Reply call → Shared → α}
    (single : system.program request = .await call fun reply shared => .done (answer reply shared)) {store : Store}
    {shared : Shared} {final : Pool Call Reply Shared Store α} {schedule : List (Label Request Choice)} {id : Nat}
    {result : α} (reached : system.runs (Pool.initial store shared) schedule = some final)
    (started : .started id request ∈ system.events (Pool.initial store shared) schedule)
    (ended : final.result id = some result) :
    ∃ before choice after moment seen, schedule = before ++ .execute id choice :: after ∧
      system.runs (Pool.initial store shared) before = some moment ∧
      result = answer (system.execute call choice moment.store).1 seen := by
  have goes := reaches_of_result reached started ended
  rw [single] at goes
  cases exchanges : Event.exchangesOf id (system.events (Pool.initial store shared) schedule) with
  | nil =>
      rw [exchanges] at goes
      cases goes
  | cons exchange rest =>
      rw [exchanges] at goes
      obtain ⟨resume, seen, same, onward⟩ := goes
      cases same
      cases rest with
      | cons other more =>
          obtain ⟨_, _, same, -⟩ := onward
          cases same
      | nil =>
          have called : .called id exchange.1 exchange.2 ∈ system.events (Pool.initial store shared) schedule :=
            Event.mem_exchangesOf.mp (by rw [exchanges]; exact List.mem_cons_self)
          obtain ⟨before, choice, after, moment, split, reachedBefore, replied⟩ := moment_of_called reached called
          refine ⟨before, choice, after, moment, seen, split, reachedBefore, ?_⟩
          rw [← replied]
          exact Task.done.inj onward

/-- The calls of a started request are among those of its program. -/
theorem permits_called {P : Request → Call → Prop}
    (programs : ∀ request, (system.program request).AllCalls (P request)) {store : Store} {shared : Shared}
    {final : Pool Call Reply Shared Store α} {schedule : List (Label Request Choice)} {id : Nat} {request : Request}
    {call : Call} {reply : Reply call} (reached : system.runs (Pool.initial store shared) schedule = some final)
    (started : .started id request ∈ system.events (Pool.initial store shared) schedule)
    (called : .called id call reply ∈ system.events (Pool.initial store shared) schedule) : P request call := by
  obtain ⟨other, begun, permitted⟩ := started_of_called programs reached called
  obtain rfl := (explains_of_runs reached).once id other request begun started
  exact permitted

end System

end Tgdex.Effects
