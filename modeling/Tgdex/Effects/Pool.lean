import Tgdex.Effects.Task

namespace Tgdex.Effects

/-! # Interleaved tasks

Any number of requests in flight over one store and one set of shared
variables.  Executing a call, receiving its reply and running the handler that
waits for it are three steps, and steps of other requests may stand between
them. -/

/-- Where a request stands: its reply is first on its way, then received and
waiting for the handler. -/
inductive Phase (Call : Type) (Reply : Call → Type) (Shared α : Type) where
  | running (task : Task Call Reply Shared α)
  | executed (call : Call) (reply : Reply call) (resume : Reply call → Shared → Task Call Reply Shared α)
  | waiting (call : Call) (reply : Reply call) (resume : Reply call → Shared → Task Call Reply Shared α)

/-- `observe` is the part of the shared variables a handler gets to see. -/
structure System (Call : Type) (Reply : Call → Type) (Shared Store Choice Request α : Type)
    extends Backend Call Reply Shared Store Choice where
  observe : (call : Call) → Reply call → Shared → Shared
  program : Request → Task Call Reply Shared α

structure Pool (Call : Type) (Reply : Call → Type) (Shared Store α : Type) where
  store : Store
  shared : Shared
  phase : Nat → Option (Phase Call Reply Shared α)

inductive Label (Request Choice : Type) where
  | start (id : Nat) (request : Request)
  | execute (id : Nat) (choice : Choice)
  | receive (id : Nat)
  | handle (id : Nat)

variable {Call : Type} {Reply : Call → Type} {Shared Store Choice Request α : Type}

namespace Pool

def initial (store : Store) (shared : Shared) : Pool Call Reply Shared Store α :=
  ⟨store, shared, fun _ => none⟩

def result (pool : Pool Call Reply Shared Store α) (id : Nat) : Option α :=
  match pool.phase id with
  | some (.running (.done result)) => some result
  | _ => none

def setPhase (pool : Pool Call Reply Shared Store α) (id : Nat)
    (phase : Phase Call Reply Shared α) : Pool Call Reply Shared Store α :=
  { pool with phase := fun other => if other = id then some phase else pool.phase other }

section

variable (pool : Pool Call Reply Shared Store α) (id : Nat) (phase : Phase Call Reply Shared α)

@[simp] theorem setPhase_phase_self : (pool.setPhase id phase).phase id = some phase := by
  simp [setPhase]

theorem setPhase_phase_other {other : Nat} (differs : other ≠ id) :
    (pool.setPhase id phase).phase other = pool.phase other := by
  simp [setPhase, differs]

end

end Pool

namespace System

/-- Handlers read the shared variables as they are. -/
def live (backend : Backend Call Reply Shared Store Choice)
    (program : Request → Task Call Reply Shared α) : System Call Reply Shared Store Choice Request α :=
  { backend with observe := fun _ _ shared => shared, program }

/-- Handlers read what their own reply wrote. -/
def isolated (backend : Backend Call Reply Shared Store Choice)
    (program : Request → Task Call Reply Shared α) : System Call Reply Shared Store Choice Request α :=
  { backend with observe := backend.receive, program }

variable (system : System Call Reply Shared Store Choice Request α)

def step (pool : Pool Call Reply Shared Store α) :
    Label Request Choice → Option (Pool Call Reply Shared Store α)
  | .start id request =>
      match pool.phase id with
      | none => some (pool.setPhase id (.running (system.program request)))
      | some _ => none
  | .execute id choice =>
      match pool.phase id with
      | some (.running (.await call resume)) =>
          let outcome := system.execute call choice pool.store
          some ({ pool with store := outcome.2 }.setPhase id (.executed call outcome.1 resume))
      | _ => none
  | .receive id =>
      match pool.phase id with
      | some (.executed call reply resume) =>
          some ({ pool with shared := system.receive call reply pool.shared }.setPhase id
            (.waiting call reply resume))
      | _ => none
  | .handle id =>
      match pool.phase id with
      | some (.waiting call reply resume) =>
          some (pool.setPhase id (.running (resume reply (system.observe call reply pool.shared))))
      | _ => none

inductive Stepped (pool : Pool Call Reply Shared Store α) :
    Label Request Choice → Pool Call Reply Shared Store α → Prop
  | start {id : Nat} {request : Request} (fresh : pool.phase id = none) :
      Stepped pool (.start id request) (pool.setPhase id (.running (system.program request)))
  | execute {id : Nat} {choice : Choice} {call : Call}
      {resume : Reply call → Shared → Task Call Reply Shared α}
      (running : pool.phase id = some (.running (.await call resume))) :
      Stepped pool (.execute id choice)
        ({ pool with store := (system.execute call choice pool.store).2 }.setPhase id
          (.executed call (system.execute call choice pool.store).1 resume))
  | receive {id : Nat} {call : Call} {reply : Reply call}
      {resume : Reply call → Shared → Task Call Reply Shared α}
      (executed : pool.phase id = some (.executed call reply resume)) :
      Stepped pool (.receive id)
        ({ pool with shared := system.receive call reply pool.shared }.setPhase id
          (.waiting call reply resume))
  | handle {id : Nat} {call : Call} {reply : Reply call}
      {resume : Reply call → Shared → Task Call Reply Shared α}
      (waiting : pool.phase id = some (.waiting call reply resume)) :
      Stepped pool (.handle id)
        (pool.setPhase id (.running (resume reply (system.observe call reply pool.shared))))

theorem stepped_of_step {pool next : Pool Call Reply Shared Store α} {label : Label Request Choice}
    (taken : system.step pool label = some next) : system.Stepped pool label next := by
  cases label with
  | start id request =>
      simp only [step] at taken
      split at taken
      · rename_i fresh
        cases taken
        exact .start fresh
      · contradiction
  | execute id choice =>
      simp only [step] at taken
      split at taken
      · rename_i running
        cases taken
        exact .execute running
      · contradiction
  | receive id =>
      simp only [step] at taken
      split at taken
      · rename_i executed
        cases taken
        exact .receive executed
      · contradiction
  | handle id =>
      simp only [step] at taken
      split at taken
      · rename_i waiting
        cases taken
        exact .handle waiting
      · contradiction

/-- The state a schedule leads to, when every step of it can be taken. -/
def runs (pool : Pool Call Reply Shared Store α) :
    List (Label Request Choice) → Option (Pool Call Reply Shared Store α)
  | [] => some pool
  | label :: rest => (system.step pool label).bind fun next => runs next rest

def Guarded (ok : Pool Call Reply Shared Store α → Label Request Choice → Prop)
    (pool : Pool Call Reply Shared Store α) : List (Label Request Choice) → Prop
  | [] => True
  | label :: rest =>
      ok pool label ∧ ∀ next, system.step pool label = some next → Guarded ok next rest

theorem guarded_true (pool : Pool Call Reply Shared Store α) (schedule : List (Label Request Choice)) :
    system.Guarded (fun _ _ => True) pool schedule := by
  induction schedule generalizing pool with
  | nil => trivial
  | cons label rest ih => exact ⟨trivial, fun next _ => ih next⟩

theorem guarded_cons_iff {ok : Pool Call Reply Shared Store α → Label Request Choice → Prop}
    {pool next : Pool Call Reply Shared Store α} {label : Label Request Choice} (taken : system.step pool label = some next)
    (rest : List (Label Request Choice)) :
    system.Guarded ok pool (label :: rest) ↔ ok pool label ∧ system.Guarded ok next rest := by
  refine and_congr_right fun _ => ⟨fun all => all next taken, fun onward other reached => ?_⟩
  obtain rfl := Option.some.inj (taken.symm.trans reached)
  exact onward

theorem guarded_cons_of_stuck {ok : Pool Call Reply Shared Store α → Label Request Choice → Prop}
    {pool : Pool Call Reply Shared Store α} {label : Label Request Choice} (stuck : system.step pool label = none)
    (rest : List (Label Request Choice)) : system.Guarded ok pool (label :: rest) ↔ ok pool label :=
  and_iff_left fun _ taken => nomatch stuck.symm.trans taken

instance decidableGuarded {ok : Pool Call Reply Shared Store α → Label Request Choice → Prop}
    [∀ pool label, Decidable (ok pool label)] (pool : Pool Call Reply Shared Store α) :
    (schedule : List (Label Request Choice)) → Decidable (system.Guarded ok pool schedule)
  | [] => isTrue trivial
  | label :: rest =>
      match taken : system.step pool label with
      | some next =>
          have : Decidable (system.Guarded ok next rest) := decidableGuarded next rest
          decidable_of_iff _ (guarded_cons_iff system taken rest).symm
      | none => decidable_of_iff _ (guarded_cons_of_stuck system taken rest).symm

/-- A guard may be replaced by one that it implies wherever the run gets under it. -/
theorem Guarded.imp {Inv : Pool Call Reply Shared Store α → Prop}
    {ok weaker : Pool Call Reply Shared Store α → Label Request Choice → Prop}
    (kept : ∀ pool label next, Inv pool → ok pool label → system.Stepped pool label next → Inv next)
    (implies : ∀ pool label, Inv pool → ok pool label → weaker pool label)
    {pool : Pool Call Reply Shared Store α} {schedule : List (Label Request Choice)} (before : Inv pool)
    (guarded : system.Guarded ok pool schedule) : system.Guarded weaker pool schedule := by
  induction schedule generalizing pool with
  | nil => trivial
  | cons label rest ih =>
      refine ⟨implies pool label before guarded.1, fun next taken => ?_⟩
      exact ih (kept pool label next before guarded.1 (system.stepped_of_step taken)) (guarded.2 next taken)

/-- The induction over schedules: what every admissible step preserves holds
in every state a guarded schedule reaches. -/
theorem runs_preserves {Inv : Pool Call Reply Shared Store α → Prop}
    {ok : Pool Call Reply Shared Store α → Label Request Choice → Prop}
    (kept : ∀ pool label next, Inv pool → ok pool label → system.Stepped pool label next → Inv next)
    {pool final : Pool Call Reply Shared Store α} {schedule : List (Label Request Choice)}
    (before : Inv pool) (guarded : system.Guarded ok pool schedule)
    (reached : system.runs pool schedule = some final) : Inv final := by
  induction schedule generalizing pool with
  | nil => cases reached; exact before
  | cons label rest ih =>
      obtain ⟨next, taken, remaining⟩ := Option.bind_eq_some_iff.mp reached
      exact ih (kept pool label next before guarded.1 (system.stepped_of_step taken))
        (guarded.2 next taken) remaining

end System

def Phase.Always (P : (call : Call) → (Reply call → Shared → Task Call Reply Shared α) → Prop) :
    Phase Call Reply Shared α → Prop
  | .running task => task.Always P
  | .executed call _ resume => (Task.await call resume).Always P
  | .waiting call _ resume => (Task.await call resume).Always P

def Pool.Always (P : (call : Call) → (Reply call → Shared → Task Call Reply Shared α) → Prop)
    (pool : Pool Call Reply Shared Store α) : Prop :=
  ∀ id phase, pool.phase id = some phase → phase.Always P

namespace Pool

variable {P : (call : Call) → (Reply call → Shared → Task Call Reply Shared α) → Prop}

theorem initial_always (store : Store) (shared : Shared) :
    (initial store shared : Pool Call Reply Shared Store α).Always P := by
  intro id phase present
  simp [initial] at present

theorem Always.setPhase {pool : Pool Call Reply Shared Store α} (all : pool.Always P) {id : Nat}
    {phase : Phase Call Reply Shared α} (now : phase.Always P) : (pool.setPhase id phase).Always P := by
  intro other found present
  by_cases same : other = id
  · subst same
    rw [setPhase_phase_self, Option.some.injEq] at present
    exact present ▸ now
  · rw [setPhase_phase_other pool id phase same] at present
    exact all other found present

end Pool

namespace System

variable {system : System Call Reply Shared Store Choice Request α}

theorem stepped_always {P : (call : Call) → (Reply call → Shared → Task Call Reply Shared α) → Prop}
    (programs : ∀ request, (system.program request).Always P)
    {pool next : Pool Call Reply Shared Store α} {label : Label Request Choice} (all : pool.Always P)
    (stepped : system.Stepped pool label next) : next.Always P := by
  cases stepped with
  | start fresh => exact all.setPhase (programs _)
  | execute running =>
      have now := all _ _ running
      exact Pool.Always.setPhase (fun id phase present => all id phase present) now
  | receive executed =>
      have now := all _ _ executed
      exact Pool.Always.setPhase (fun id phase present => all id phase present) now
  | handle waiting => exact all.setPhase ((all _ _ waiting).2 _ _)

theorem runs_always {P : (call : Call) → (Reply call → Shared → Task Call Reply Shared α) → Prop}
    (programs : ∀ request, (system.program request).Always P)
    {pool final : Pool Call Reply Shared Store α} {schedule : List (Label Request Choice)}
    (all : pool.Always P) (reached : system.runs pool schedule = some final) : final.Always P :=
  system.runs_preserves (fun _ _ _ before _ stepped => stepped_always programs before stepped) all
    (system.guarded_true pool schedule) reached

end System

section

variable {Value : Type} (backend : Backend Call Reply Shared Store Choice)
  (written : (call : Call) → Reply call → Option Value) (field : Shared → Value)

/-- The variable still holds what each waiting request's reply wrote. -/
def Pool.Current (pool : Pool Call Reply Shared Store α) : Prop :=
  ∀ id call reply resume value, pool.phase id = some (.waiting call reply resume) →
    written call reply = some value → field pool.shared = value

/-- A reply about to be received is written to the variable, and overwrites
nothing that another waiting request's reply has written. -/
def Pool.Undisturbed (pool : Pool Call Reply Shared Store α) : Label Request Choice → Prop
  | .receive id => ∀ call reply resume, pool.phase id = some (.executed call reply resume) →
      field (backend.receive call reply pool.shared) = (written call reply).getD (field pool.shared) ∧
      ∀ value, written call reply = some value →
        ∀ other otherCall otherReply otherResume kept, other ≠ id →
          pool.phase other = some (.waiting otherCall otherReply otherResume) →
          written otherCall otherReply = some kept → kept = value
  | _ => True

variable {backend written field}

theorem Pool.initial_current (store : Store) (shared : Shared) :
    (Pool.initial store shared : Pool Call Reply Shared Store α).Current written field := by
  intro id call reply resume value present
  simp [Pool.initial] at present

private theorem waiting_of_setPhase {pool : Pool Call Reply Shared Store α} {id other : Nat}
    {phase : Phase Call Reply Shared α} {call : Call} {reply : Reply call}
    {resume : Reply call → Shared → Task Call Reply Shared α}
    (present : (pool.setPhase id phase).phase other = some (.waiting call reply resume))
    (moving : phase ≠ .waiting call reply resume) :
    other ≠ id ∧ pool.phase other = some (.waiting call reply resume) := by
  by_cases same : other = id
  · subst same
    rw [Pool.setPhase_phase_self, Option.some.injEq] at present
    exact absurd present moving
  · rw [Pool.setPhase_phase_other pool id phase same] at present
    exact ⟨same, present⟩

theorem stepped_current (system : System Call Reply Shared Store Choice Request α)
    {pool next : Pool Call Reply Shared Store α} {label : Label Request Choice}
    (current : pool.Current written field)
    (undisturbed : pool.Undisturbed system.toBackend written field label)
    (stepped : system.Stepped pool label next) : next.Current written field := by
  cases stepped with
  | start fresh =>
      intro other call reply resume value present
      exact current other call reply resume value (waiting_of_setPhase present (by simp)).2
  | execute running =>
      intro other call reply resume value present
      exact current other call reply resume value (waiting_of_setPhase present (by simp)).2
  | handle waiting =>
      intro other call reply resume value present
      exact current other call reply resume value (waiting_of_setPhase present (by simp)).2
  | @receive id received itsReply itsResume executed =>
      intro other call reply resume value present wrote
      obtain ⟨effect, keeps⟩ := undisturbed received itsReply itsResume executed
      change field (system.receive received itsReply pool.shared) = value
      rw [effect]
      by_cases same : other = id
      · subst same
        rw [Pool.setPhase_phase_self, Option.some.injEq] at present
        cases present
        rw [wrote, Option.getD_some]
      · rw [Pool.setPhase_phase_other _ _ _ same] at present
        cases own : written received itsReply with
        | none => exact current other call reply resume value present wrote
        | some latest => exact (keeps latest own other call reply resume value same present wrote).symm

theorem runs_current (system : System Call Reply Shared Store Choice Request α)
    {ok : Pool Call Reply Shared Store α → Label Request Choice → Prop}
    (undisturbed : ∀ pool label, ok pool label → pool.Undisturbed system.toBackend written field label)
    {pool final : Pool Call Reply Shared Store α} {schedule : List (Label Request Choice)}
    (current : pool.Current written field) (guarded : system.Guarded ok pool schedule)
    (reached : system.runs pool schedule = some final) : final.Current written field :=
  system.runs_preserves
    (fun before label _ now allowed stepped => stepped_current system now (undisturbed before label allowed) stepped)
    current guarded reached

end

/-- Every reply that was received and waits for its handler is one of these. -/
def Pool.AllWaiting (P : (call : Call) → Reply call → Prop) (pool : Pool Call Reply Shared Store α) : Prop :=
  ∀ id call reply resume, pool.phase id = some (.waiting call reply resume) → P call reply

theorem stepped_allWaiting {P : (call : Call) → Reply call → Prop}
    (system : System Call Reply Shared Store Choice Request α) {pool next : Pool Call Reply Shared Store α}
    {label : Label Request Choice} (all : pool.AllWaiting P)
    (received : ∀ id call reply resume, label = .receive id → pool.phase id = some (.executed call reply resume) →
      P call reply) (stepped : system.Stepped pool label next) : next.AllWaiting P := by
  cases stepped with
  | start fresh =>
      intro other call reply resume present
      exact all other call reply resume (waiting_of_setPhase present (by simp)).2
  | execute running =>
      intro other call reply resume present
      exact all other call reply resume (waiting_of_setPhase present (by simp)).2
  | handle waiting =>
      intro other call reply resume present
      exact all other call reply resume (waiting_of_setPhase present (by simp)).2
  | @receive id own itsReply itsResume executed =>
      intro other call reply resume present
      by_cases same : other = id
      · subst same
        rw [Pool.setPhase_phase_self, Option.some.injEq] at present
        cases present
        exact received other own itsReply itsResume rfl executed
      · rw [Pool.setPhase_phase_other _ _ _ same] at present
        exact all other call reply resume present

theorem runs_allWaiting {P : (call : Call) → Reply call → Prop}
    (system : System Call Reply Shared Store Choice Request α)
    {ok : Pool Call Reply Shared Store α → Label Request Choice → Prop}
    (received : ∀ pool label, ok pool label → ∀ id call reply resume, label = .receive id →
      pool.phase id = some (.executed call reply resume) → P call reply)
    {store : Store} {shared : Shared} {final : Pool Call Reply Shared Store α} {schedule : List (Label Request Choice)}
    (guarded : system.Guarded ok (Pool.initial store shared) schedule)
    (reached : system.runs (Pool.initial store shared) schedule = some final) : final.AllWaiting P := by
  refine system.runs_preserves (fun pool label _ all allowed stepped =>
    stepped_allWaiting system all (received pool label allowed) stepped) ?_ guarded reached
  intro id call reply resume present
  simp [Pool.initial] at present

section

variable {Value : Type} {backend : Backend Call Reply Shared Store Choice}
  {written : (call : Call) → Reply call → Option Value} {field : Shared → Value}
  {program : Request → Task Call Reply Shared α}

/-- Of the shared variables the handler reads one at most, and that only where
its own reply has written it. -/
def ReadsOwn (written : (call : Call) → Reply call → Option Value) (field : Shared → Value) (call : Call)
    (resume : Reply call → Shared → Task Call Reply Shared α) : Prop :=
  ∀ reply shared other,
    (∀ value, written call reply = some value → field shared = value ∧ field other = value) →
      resume reply shared = resume reply other

theorem live_step_eq_isolated (program : Request → Task Call Reply Shared α)
    (writes : ∀ call reply shared,
      field (backend.receive call reply shared) = (written call reply).getD (field shared))
    {pool : Pool Call Reply Shared Store α} (current : pool.Current written field)
    (all : pool.Always (ReadsOwn written field)) (label : Label Request Choice) :
    (System.live backend program).step pool label = (System.isolated backend program).step pool label := by
  cases label with
  | start id request => rfl
  | execute id choice => rfl
  | receive id => rfl
  | handle id =>
      cases present : pool.phase id with
      | none => simp only [System.step, present]
      | some phase =>
          cases phase with
          | running task => simp only [System.step, present]
          | executed call reply resume => simp only [System.step, present]
          | waiting call reply resume =>
              have reads : ReadsOwn written field call resume := (all id _ present).1
              have same : resume reply pool.shared = resume reply (backend.receive call reply pool.shared) := by
                refine reads reply _ _ fun value wrote => ?_
                exact ⟨current id call reply resume value present wrote, by rw [writes, wrote, Option.getD_some]⟩
              simp only [System.step, present, System.live, System.isolated, same]

/-- A schedule in which no reply overwrites another runs as if every handler
saw the variable as its own reply left it. -/
theorem live_runs_eq_isolated
    (writes : ∀ call reply shared,
      field (backend.receive call reply shared) = (written call reply).getD (field shared))
    (programs : ∀ request, (program request).Always (ReadsOwn written field))
    {pool : Pool Call Reply Shared Store α} {schedule : List (Label Request Choice)}
    (current : pool.Current written field) (all : pool.Always (ReadsOwn written field))
    (guarded : (System.live backend program).Guarded (Pool.Undisturbed backend written field) pool schedule) :
    (System.live backend program).runs pool schedule = (System.isolated backend program).runs pool schedule := by
  induction schedule generalizing pool with
  | nil => rfl
  | cons label rest ih =>
      have same := live_step_eq_isolated program writes current all label
      cases taken : (System.live backend program).step pool label with
      | none => simp only [System.runs, ← same, taken, Option.bind_none]
      | some next =>
          have stepped := System.stepped_of_step _ taken
          simp only [System.runs, ← same, taken, Option.bind_some]
          exact ih (stepped_current (System.live backend program) current guarded.1 stepped)
            (System.stepped_always programs all stepped) (guarded.2 next taken)

end

def Pool.world (pool : Pool Call Reply Shared Store α) : World Store Shared := ⟨pool.store, pool.shared⟩

/-- From one pool to the other the request `id` alone has moved on. -/
def Pool.MovesOnly (id : Nat) (pool next : Pool Call Reply Shared Store α) : Prop :=
  ∀ other, other ≠ id → next.phase other = pool.phase other

theorem Pool.movesOnly_setPhase {pool next : Pool Call Reply Shared Store α} {id : Nat}
    {phase : Phase Call Reply Shared α} (moved : pool.MovesOnly id next) :
    pool.MovesOnly id (next.setPhase id phase) := by
  intro other differs
  rw [Pool.setPhase_phase_other _ _ _ differs]
  exact moved other differs

namespace System

theorem runs_append (system : System Call Reply Shared Store Choice Request α)
    {pool next : Pool Call Reply Shared Store α} {first : List (Label Request Choice)}
    (reached : system.runs pool first = some next) (rest : List (Label Request Choice)) :
    system.runs pool (first ++ rest) = system.runs next rest := by
  induction first generalizing pool with
  | nil =>
      cases reached
      rfl
  | cons label remaining ih =>
      obtain ⟨between, taken, reached⟩ := Option.bind_eq_some_iff.mp reached
      rw [List.cons_append, runs, taken, Option.bind_some]
      exact ih reached

end System

section

variable (backend : Backend Call Reply Shared Store Choice) (program : Request → Task Call Reply Shared α)

def scheduleOf (id : Nat) : Task Call Reply Shared α → (Nat → Choice) → World Store Shared →
    List (Label Request Choice)
  | .done _, _, _ => []
  | .await call resume, choices, world =>
      let outcome := backend.execute call (choices 0) world.store
      let shared := backend.receive call outcome.1 world.shared
      .execute id (choices 0) :: .receive id :: .handle id ::
        scheduleOf id (resume outcome.1 shared) (fun index => choices (index + 1)) ⟨outcome.2, shared⟩

/-- Running a task alone is a schedule of the pool: nothing happens between a
reply and its handler. -/
theorem runs_scheduleOf (id : Nat) (task : Task Call Reply Shared α) (choices : Nat → Choice)
    (pool : Pool Call Reply Shared Store α) (running : pool.phase id = some (.running task)) :
    ∃ final, (System.live backend program).runs pool (scheduleOf backend id task choices pool.world) = some final ∧
      final.phase id = some (.running (.done (task.run backend choices pool.world).1)) ∧
      final.world = (task.run backend choices pool.world).2 ∧ pool.MovesOnly id final := by
  induction task generalizing choices pool with
  | done result => exact ⟨pool, rfl, running, rfl, fun _ _ => rfl⟩
  | await call resume ih =>
      let outcome := backend.execute call (choices 0) pool.store
      let executed : Pool Call Reply Shared Store α :=
        { pool with store := outcome.2 }.setPhase id (.executed call outcome.1 resume)
      let received : Pool Call Reply Shared Store α :=
        { executed with shared := backend.receive call outcome.1 pool.shared }.setPhase id
          (.waiting call outcome.1 resume)
      let handled : Pool Call Reply Shared Store α :=
        received.setPhase id (.running (resume outcome.1 received.shared))
      have execute : (System.live backend program).step pool (.execute id (choices 0)) = some executed := by
        simp only [System.step, running]
        rfl
      have receive : (System.live backend program).step executed (.receive id) = some received := by
        have here : executed.phase id = some (.executed call outcome.1 resume) :=
          Pool.setPhase_phase_self _ _ _
        simp only [System.step, here]
        rfl
      have handle : (System.live backend program).step received (.handle id) = some handled := by
        have here : received.phase id = some (.waiting call outcome.1 resume) :=
          Pool.setPhase_phase_self _ _ _
        simp only [System.step, here]
        rfl
      have moved : pool.MovesOnly id handled :=
        Pool.movesOnly_setPhase (Pool.movesOnly_setPhase (Pool.movesOnly_setPhase fun _ _ => rfl))
      obtain ⟨final, reached, ended, left, rest⟩ :=
        ih _ _ (fun index => choices (index + 1)) handled (Pool.setPhase_phase_self _ _ _)
      refine ⟨final, ?_, ended, left, fun other differs => (rest other differs).trans (moved other differs)⟩
      rw [Pool.world, scheduleOf, System.runs, execute, Option.bind_some, System.runs, receive, Option.bind_some,
        System.runs, handle, Option.bind_some]
      exact reached

end

end Tgdex.Effects
