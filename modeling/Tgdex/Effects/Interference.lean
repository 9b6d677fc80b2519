import Tgdex.Effects.History

namespace Tgdex.Effects

/-! # Handlers beside other handlers

What a handler relies on when it runs has to survive what the callbacks of
other requests write to the shared variables in between. -/

variable {Call : Type} {Reply : Call → Type} {Shared Store Choice Request α : Type}

/-- Replies that can happen keep the shared variables right, and `rely` says what
they make of them.  After its own reply a handler finds what it relies on, and it
still does after those of others. -/
structure Relies (backend : Backend Call Reply Shared Store Choice) (happens : (call : Call) → Reply call → Prop)
    (right : Shared → Prop) (rely : Shared → Shared → Prop) (relied : (call : Call) → Reply call → Shared → Prop) :
    Prop where
  kept : ∀ call reply shared, happens call reply → right shared → right (backend.receive call reply shared)
  own : ∀ call reply shared, happens call reply → right shared → relied call reply (backend.receive call reply shared)
  others : ∀ call reply other answer shared, happens other answer → relied call reply shared →
    relied call reply (backend.receive other answer shared)
  moves : ∀ call reply shared, happens call reply → rely shared (backend.receive call reply shared)
  refl : ∀ shared, rely shared shared
  trans : ∀ first second third, rely first second → rely second third → rely first third

/-- The results are good as long as every handler finds what it relies on.  The
handler that ran last has seen the shared variables as `since`. -/
def Task.Guarantees (happens : (call : Call) → Reply call → Prop) (right : Shared → Prop) (rely : Shared → Shared → Prop)
    (relied : (call : Call) → Reply call → Shared → Prop) (good : α → Prop) : Task Call Reply Shared α → Shared → Prop
  | .done result, _ => good result
  | .await call resume, since => ∀ reply shared, happens call reply → right shared → relied call reply shared →
      rely since shared → (resume reply shared).Guarantees happens right rely relied good shared

variable {happens : (call : Call) → Reply call → Prop} {right : Shared → Prop} {rely : Shared → Shared → Prop}
  {relied : (call : Call) → Reply call → Shared → Prop} {good : α → Prop}

def Phase.task : Phase Call Reply Shared α → Task Call Reply Shared α
  | .running task => task
  | .executed call _ resume | .waiting call _ resume => .await call resume

structure Phase.Guarantees (happens : (call : Call) → Reply call → Prop) (right : Shared → Prop)
    (rely : Shared → Shared → Prop) (relied : (call : Call) → Reply call → Shared → Prop) (good : α → Prop)
    (shared : Shared) (phase : Phase Call Reply Shared α) : Prop where
  goes : ∃ since, rely since shared ∧ phase.task.Guarantees happens right rely relied good since
  executed : ∀ call reply resume, phase = .executed call reply resume → happens call reply
  waiting : ∀ call reply resume, phase = .waiting call reply resume → happens call reply ∧ relied call reply shared

section

variable {shared since : Shared} {call : Call} {reply : Reply call}
  {resume : Reply call → Shared → Task Call Reply Shared α}

theorem Phase.guarantees_running {task : Task Call Reply Shared α} (moved : rely since shared)
    (goes : task.Guarantees happens right rely relied good since) :
    (Phase.running task).Guarantees happens right rely relied good shared := by
  refine ⟨⟨since, moved, goes⟩, ?_, ?_⟩
  · rintro _ _ _ ⟨⟩
  · rintro _ _ _ ⟨⟩

theorem Phase.guarantees_executed (moved : rely since shared)
    (goes : (Task.await call resume).Guarantees happens right rely relied good since) (now : happens call reply) :
    (Phase.executed call reply resume).Guarantees happens right rely relied good shared := by
  refine ⟨⟨since, moved, goes⟩, ?_, ?_⟩
  · rintro _ _ _ ⟨⟩
    exact now
  · rintro _ _ _ ⟨⟩

theorem Phase.guarantees_waiting (moved : rely since shared)
    (goes : (Task.await call resume).Guarantees happens right rely relied good since) (now : happens call reply)
    (found : relied call reply shared) :
    (Phase.waiting call reply resume).Guarantees happens right rely relied good shared := by
  refine ⟨⟨since, moved, goes⟩, ?_, ?_⟩
  · rintro _ _ _ ⟨⟩
  · rintro _ _ _ ⟨⟩
    exact ⟨now, found⟩

end

structure Pool.Guarantees (happens : (call : Call) → Reply call → Prop) (right : Shared → Prop)
    (rely : Shared → Shared → Prop) (relied : (call : Call) → Reply call → Shared → Prop) (good : α → Prop)
    (pool : Pool Call Reply Shared Store α) : Prop where
  shared : right pool.shared
  phases : ∀ id phase, pool.phase id = some phase → phase.Guarantees happens right rely relied good pool.shared

theorem Pool.Guarantees.setPhase {pool : Pool Call Reply Shared Store α}
    (held : pool.Guarantees happens right rely relied good) {id : Nat} {phase : Phase Call Reply Shared α}
    (now : phase.Guarantees happens right rely relied good pool.shared) :
    (pool.setPhase id phase).Guarantees happens right rely relied good := by
  refine ⟨held.shared, fun other found present => ?_⟩
  by_cases same : other = id
  · subst same
    rw [setPhase_phase_self, Option.some.injEq] at present
    exact present ▸ now
  · rw [setPhase_phase_other pool id phase same] at present
    exact held.phases other found present

/-- What the callback of another request writes does not disturb a phase. -/
theorem Phase.Guarantees.receive {backend : Backend Call Reply Shared Store Choice}
    (relies : Relies backend happens right rely relied) {phase : Phase Call Reply Shared α} {shared : Shared}
    (held : phase.Guarantees happens right rely relied good shared) {call : Call} {reply : Reply call}
    (happened : happens call reply) :
    phase.Guarantees happens right rely relied good (backend.receive call reply shared) := by
  obtain ⟨since, moved, goes⟩ := held.goes
  refine ⟨⟨since, relies.trans _ _ _ moved (relies.moves call reply shared happened), goes⟩, held.executed,
    fun other answer resume same => ?_⟩
  obtain ⟨own, found⟩ := held.waiting other answer resume same
  exact ⟨own, relies.others other answer call reply shared happened found⟩

namespace System

variable {backend : Backend Call Reply Shared Store Choice} {program : Request → Task Call Reply Shared α}

theorem guarantees_step (relies : Relies backend happens right rely relied)
    (programs : ∀ request shared, (program request).Guarantees happens right rely relied good shared)
    {pool next : Pool Call Reply Shared Store α} {label : Label Request Choice}
    (happened : ∀ id call reply, (live backend program).event? pool label = some (.called id call reply) →
      happens call reply)
    (held : pool.Guarantees happens right rely relied good) (stepped : (live backend program).Stepped pool label next) :
    next.Guarantees happens right rely relied good := by
  cases stepped with
  | start fresh => exact held.setPhase (Phase.guarantees_running (relies.refl _) (programs _ _))
  | @execute id choice call resume running =>
      have now : happens call (backend.execute call choice pool.store).1 := by
        refine happened id call _ ?_
        simp only [event?, running]
        rfl
      obtain ⟨since, moved, goes⟩ := (held.phases id _ running).goes
      have called : Pool.Guarantees happens right rely relied good
          { pool with store := (backend.execute call choice pool.store).2 } := ⟨held.shared, held.phases⟩
      exact called.setPhase (Phase.guarantees_executed moved goes now)
  | @receive id call reply resume executed =>
      have own := held.phases id _ executed
      have now : happens call reply := own.executed call reply resume rfl
      have received : Pool.Guarantees happens right rely relied good
          { pool with shared := backend.receive call reply pool.shared } :=
        ⟨relies.kept call reply pool.shared now held.shared,
          fun other phase present => (held.phases other phase present).receive relies now⟩
      obtain ⟨since, moved, goes⟩ := (own.receive relies now).goes
      exact received.setPhase
        (Phase.guarantees_waiting moved goes now (relies.own call reply pool.shared now held.shared))
  | @handle id call reply resume waiting =>
      have own := held.phases id _ waiting
      obtain ⟨now, found⟩ := own.waiting call reply resume rfl
      obtain ⟨since, moved, goes⟩ := own.goes
      exact held.setPhase
        (Phase.guarantees_running (relies.refl _) (goes reply pool.shared now held.shared found moved))

/-- In every run the results are good and the shared variables right, when the
replies that happen in it are such that can happen. -/
theorem guarantees_of_runs (relies : Relies backend happens right rely relied)
    (programs : ∀ request shared, (program request).Guarantees happens right rely relied good shared) {store : Store} {shared : Shared}
    (before : right shared) {final : Pool Call Reply Shared Store α} {schedule : List (Label Request Choice)}
    (reached : (live backend program).runs (Pool.initial store shared) schedule = some final)
    (happened : ∀ id call reply,
      .called id call reply ∈ (live backend program).events (Pool.initial store shared) schedule → happens call reply) :
    right final.shared ∧ ∀ id result, final.result id = some result → good result := by
  have kept : ∀ (past : List (Event Call Reply Request)) (pool : Pool Call Reply Shared Store α) label next,
      ((∀ id call reply, .called id call reply ∈ past → happens call reply) →
        pool.Guarantees happens right rely relied good) →
      (live backend program).Stepped pool label next →
      (∀ id call reply, .called id call reply ∈ past ++ ((live backend program).event? pool label).toList →
        happens call reply) → next.Guarantees happens right rely relied good := by
    intro past pool label next held stepped known
    refine guarantees_step relies programs (fun id call reply made => known id call reply ?_)
      (held fun id call reply member => known id call reply (List.mem_append_left _ member)) stepped
    rw [made]
    exact List.mem_append_right _ (List.mem_singleton_self _)
  have initially : (∀ id call reply, .called id call reply ∈ ([] : List (Event Call Reply Request)) →
      happens call reply) → Pool.Guarantees happens right rely relied good
        (Pool.initial store shared : Pool Call Reply Shared Store α) :=
    fun _ => ⟨before, fun _ _ present => nomatch present⟩
  have held := runs_preserves_history kept initially reached happened
  refine ⟨held.shared, fun id result ended => ?_⟩
  simp only [Pool.result] at ended
  split at ended
  · rename_i present
    cases ended
    obtain ⟨since, -, good⟩ := (held.phases id _ present).goes
    exact good
  · cases ended

end System

end Tgdex.Effects
