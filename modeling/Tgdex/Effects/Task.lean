namespace Tgdex.Effects

/-! # Callback chains

A task is what a chain of asynchronous callbacks amounts to: it either has its
result or waits for the reply of one call, and goes on from the reply and from
whatever the process-wide shared variables hold when its handler runs. -/

inductive Task (Call : Type) (Reply : Call → Type) (Shared α : Type) where
  | done (result : α)
  | await (call : Call) (resume : Reply call → Shared → Task Call Reply Shared α)

/-- The service behind the calls.  `execute` is atomic on the store; `receive`
is what the callback that gets the reply writes to the shared variables. -/
structure Backend (Call : Type) (Reply : Call → Type) (Shared Store Choice : Type) where
  execute : (call : Call) → Choice → Store → Reply call × Store
  receive : (call : Call) → Reply call → Shared → Shared

structure World (Store Shared : Type) where
  store : Store
  shared : Shared

variable {Call : Type} {Reply : Call → Type} {Shared Store Choice α β γ : Type}

namespace Task

def bind : Task Call Reply Shared α → (α → Task Call Reply Shared β) → Task Call Reply Shared β
  | .done result, next => next result
  | .await call resume, next => .await call fun reply shared => (resume reply shared).bind next

@[simp] theorem done_bind (result : α) (next : α → Task Call Reply Shared β) :
    (done result : Task Call Reply Shared α).bind next = next result := rfl

@[simp] theorem await_bind (made : Call) (resume : Reply made → Shared → Task Call Reply Shared α)
    (next : α → Task Call Reply Shared β) :
    (await made resume).bind next = await made fun reply shared => (resume reply shared).bind next := rfl

theorem bind_assoc (task : Task Call Reply Shared α) (next : α → Task Call Reply Shared β)
    (last : β → Task Call Reply Shared γ) :
    (task.bind next).bind last = task.bind fun result => (next result).bind last := by
  induction task with
  | done result => rfl
  | await made resume ih =>
      simp only [await_bind]
      congr 1
      funext reply shared
      exact ih reply shared

/-- The task comes to this result for some replies. -/
def Ends (result : α) : Task Call Reply Shared α → Prop
  | .done other => other = result
  | .await _ resume => ∃ reply shared, (resume reply shared).Ends result

theorem ends_bind {task : Task Call Reply Shared α} {next : α → Task Call Reply Shared β} {result : β} :
    (task.bind next).Ends result ↔ ∃ between, task.Ends between ∧ (next between).Ends result := by
  induction task with
  | done between => simp [Ends]
  | await made resume ih =>
      simp only [await_bind, Ends, ih]
      refine ⟨?_, ?_⟩
      · intro shown
        obtain ⟨reply, shared, between, ends, goes⟩ := shown
        exact ⟨between, ⟨reply, shared, ends⟩, goes⟩
      · intro shown
        obtain ⟨between, ⟨reply, shared, ends⟩, goes⟩ := shown
        exact ⟨reply, shared, between, ends, goes⟩

/-- The task can make these calls with these replies and come to this result. -/
def Trace : Task Call Reply Shared α → List (Sigma Reply) → α → Prop
  | .done other, exchanges, result => exchanges = [] ∧ result = other
  | .await made resume, exchanges, result =>
      ∃ reply shared rest, exchanges = ⟨made, reply⟩ :: rest ∧ (resume reply shared).Trace rest result

theorem trace_bind {task : Task Call Reply Shared α} {next : α → Task Call Reply Shared β}
    {exchanges : List (Sigma Reply)} {result : β} :
    (task.bind next).Trace exchanges result ↔
      ∃ first rest between,
        exchanges = first ++ rest ∧ task.Trace first between ∧ (next between).Trace rest result := by
  induction task generalizing exchanges with
  | done between =>
      refine ⟨fun goes => ⟨[], exchanges, between, rfl, ⟨rfl, rfl⟩, goes⟩, fun shown => ?_⟩
      obtain ⟨first, rest, other, rfl, ⟨rfl, rfl⟩, goes⟩ := shown
      exact goes
  | await made resume ih =>
      simp only [await_bind, Trace, ih]
      refine ⟨?_, ?_⟩
      · intro shown
        obtain ⟨reply, shared, tail, rfl, first, rest, between, rfl, traced, goes⟩ := shown
        exact ⟨⟨made, reply⟩ :: first, rest, between, rfl, ⟨reply, shared, first, rfl, traced⟩, goes⟩
      · intro shown
        obtain ⟨_, rest, between, rfl, ⟨reply, shared, first, rfl, traced⟩, goes⟩ := shown
        exact ⟨reply, shared, first ++ rest, rfl, first, rest, between, rfl, traced, goes⟩

section

variable (backend : Backend Call Reply Shared Store Choice)

/-- Every call is executed, its reply received and its handler run before
anything else happens. -/
def run : Task Call Reply Shared α → (Nat → Choice) → World Store Shared → α × World Store Shared
  | .done result, _, world => (result, world)
  | .await call resume, choices, world =>
      let outcome := backend.execute call (choices 0) world.store
      let shared := backend.receive call outcome.1 world.shared
      (resume outcome.1 shared).run (fun index => choices (index + 1)) ⟨outcome.2, shared⟩

/-- `post` holds of the result and the world of every run. -/
def Ensures : Task Call Reply Shared α → World Store Shared → (α → World Store Shared → Prop) → Prop
  | .done result, world, post => post result world
  | .await call resume, world, post =>
      ∀ choice,
        let outcome := backend.execute call choice world.store
        let shared := backend.receive call outcome.1 world.shared
        (resume outcome.1 shared).Ensures ⟨outcome.2, shared⟩ post

variable {backend}

/-- What a task run alone comes to is one of the results it can end with. -/
theorem ends_run (task : Task Call Reply Shared α) (choices : Nat → Choice) (world : World Store Shared) :
    task.Ends (task.run backend choices world).1 := by
  induction task generalizing choices world with
  | done result => rfl
  | await call resume ih => exact ⟨_, _, ih _ _ _ _⟩

theorem ensures_iff_run {task : Task Call Reply Shared α} [Nonempty Choice] {world : World Store Shared}
    {post : α → World Store Shared → Prop} :
    task.Ensures backend world post ↔
      ∀ choices, post (task.run backend choices world).1 (task.run backend choices world).2 := by
  induction task generalizing world with
  | done result => simp [Ensures, run]
  | await made resume ih =>
      simp only [Ensures, run, ih]
      refine ⟨?_, ?_⟩
      · intro every choices
        exact every (choices 0) fun index => choices (index + 1)
      · intro every choice rest
        exact every fun index => index.casesOn choice rest

theorem Ensures.imp {task : Task Call Reply Shared α} {world : World Store Shared}
    {post weaker : α → World Store Shared → Prop} (ensured : task.Ensures backend world post)
    (weaken : ∀ result after, post result after → weaker result after) :
    task.Ensures backend world weaker := by
  induction task generalizing world with
  | done result => exact weaken _ _ ensured
  | await made resume ih => exact fun choice => ih _ _ (ensured choice)

theorem Ensures.and {task : Task Call Reply Shared α} {world : World Store Shared}
    {post other : α → World Store Shared → Prop} (ensured : task.Ensures backend world post)
    (too : task.Ensures backend world other) :
    task.Ensures backend world fun result after => post result after ∧ other result after := by
  induction task generalizing world with
  | done result => exact ⟨ensured, too⟩
  | await made resume ih => exact fun choice => ih _ _ (ensured choice) (too choice)

end

/-- Every call the task can come to, with what is done about its reply,
satisfies `P`. -/
def Always (P : (call : Call) → (Reply call → Shared → Task Call Reply Shared α) → Prop) :
    Task Call Reply Shared α → Prop
  | .done _ => True
  | .await call resume => P call resume ∧ ∀ reply shared, (resume reply shared).Always P

def AllCalls (P : Call → Prop) : Task Call Reply Shared α → Prop :=
  Always fun call _ => P call

theorem AllCalls.ensures {backend : Backend Call Reply Shared Store Choice}
    {P : Call → Prop} {task : Task Call Reply Shared α} (all : task.AllCalls P) (Inv : Store → Prop)
    (kept : ∀ call choice store, P call → Inv store → Inv (backend.execute call choice store).2)
    {world : World Store Shared} (before : Inv world.store) :
    task.Ensures backend world fun _ after => Inv after.store := by
  induction task generalizing world with
  | done result => exact before
  | await made resume ih =>
      exact fun choice => ih _ _ (all.2 _ _) (kept made choice world.store all.1 before)

theorem Always.imp {P Q : (call : Call) → (Reply call → Shared → Task Call Reply Shared α) → Prop}
    {task : Task Call Reply Shared α} (all : task.Always P) (weaken : ∀ call resume, P call resume → Q call resume) :
    task.Always Q := by
  induction task with
  | done result => trivial
  | await made resume ih => exact ⟨weaken _ _ all.1, fun reply shared => ih reply shared (all.2 reply shared)⟩

end Task

end Tgdex.Effects
