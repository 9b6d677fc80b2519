import Mathlib.Data.List.Forall2
import Tgdex.Effects.Pool

namespace Tgdex.Effects

/-! # What results do not depend on

`near` relates the stores and `close` the choices that the same call is answered
alike with: the replies differ in a part that no handler looks at. -/

variable {Call : Type} {Reply : Call → Type} {Shared Store Choice Request α β : Type}

/-- The handler goes on in the same way after replies that are alike. -/
def Blind (alike : (call : Call) → Reply call → Reply call → Prop) (call : Call)
    (resume : Reply call → Shared → Task Call Reply Shared α) : Prop :=
  ∀ reply other, alike call reply other → ∀ shared, resume reply shared = resume other shared

/-- The permitted calls keep stores near each other, and replies that are alike
have the same effect on the shared variables. -/
structure Masks (backend : Backend Call Reply Shared Store Choice) (permits : Call → Prop)
    (near : Store → Store → Prop) (alike : (call : Call) → Reply call → Reply call → Prop)
    (close : Choice → Choice → Prop) : Prop where
  reply : ∀ call choice other store store_, permits call → near store store_ → close choice other →
    alike call (backend.execute call choice store).1 (backend.execute call other store_).1
  store : ∀ call choice other store store_, permits call → near store store_ → close choice other →
    near (backend.execute call choice store).2 (backend.execute call other store_).2
  receive : ∀ call reply other shared, alike call reply other →
    backend.receive call reply shared = backend.receive call other shared

/-- A permitted call whose handler does not tell replies that are alike apart. -/
def Unaware (permits : Call → Prop) (alike : (call : Call) → Reply call → Reply call → Prop) (call : Call)
    (resume : Reply call → Shared → Task Call Reply Shared α) : Prop :=
  permits call ∧ Blind alike call resume

variable {permits : Call → Prop} {near : Store → Store → Prop}
  {alike : (call : Call) → Reply call → Reply call → Prop} {close : Choice → Choice → Prop}

inductive Phase.Alike (alike : (call : Call) → Reply call → Reply call → Prop) :
    Phase Call Reply Shared α → Phase Call Reply Shared α → Prop
  | running (task : Task Call Reply Shared α) : Phase.Alike alike (.running task) (.running task)
  | executed {call : Call} {reply other : Reply call} (replies : alike call reply other)
      (resume : Reply call → Shared → Task Call Reply Shared α) :
      Phase.Alike alike (.executed call reply resume) (.executed call other resume)
  | waiting {call : Call} {reply other : Reply call} (replies : alike call reply other)
      (resume : Reply call → Shared → Task Call Reply Shared α) :
      Phase.Alike alike (.waiting call reply resume) (.waiting call other resume)

structure Pool.Alike (near : Store → Store → Prop) (alike : (call : Call) → Reply call → Reply call → Prop)
    (pool other : Pool Call Reply Shared Store α) : Prop where
  store : near pool.store other.store
  shared : pool.shared = other.shared
  phase : ∀ id, Option.Rel (Phase.Alike alike) (pool.phase id) (other.phase id)

inductive Label.Close (close : Choice → Choice → Prop) : Label Request Choice → Label Request Choice → Prop
  | start (id : Nat) (request : Request) : Label.Close close (.start id request) (.start id request)
  | execute (id : Nat) {choice other : Choice} (choices : close choice other) :
      Label.Close close (.execute id choice) (.execute id other)
  | receive (id : Nat) : Label.Close close (.receive id) (.receive id)
  | handle (id : Nat) : Label.Close close (.handle id) (.handle id)

namespace Pool

variable {pool other : Pool Call Reply Shared Store α}

theorem Alike.phase_none (same : pool.Alike near alike other) {id : Nat} (fresh : pool.phase id = none) :
    other.phase id = none := by
  have phases := same.phase id
  rw [fresh] at phases
  cases there : other.phase id with
  | none => rfl
  | some phase =>
      rw [there] at phases
      cases phases

theorem Alike.phase_some (same : pool.Alike near alike other) {id : Nat} {phase : Phase Call Reply Shared α}
    (here : pool.phase id = some phase) : ∃ phase_, other.phase id = some phase_ ∧ phase.Alike alike phase_ := by
  have phases := same.phase id
  rw [here] at phases
  cases there : other.phase id with
  | none =>
      rw [there] at phases
      cases phases
  | some phase_ =>
      rw [there] at phases
      cases phases with
      | some phases => exact ⟨phase_, rfl, phases⟩

theorem Alike.result (same : pool.Alike near alike other) (id : Nat) : pool.result id = other.result id := by
  simp only [Pool.result]
  cases here : pool.phase id with
  | none => rw [same.phase_none here]
  | some phase =>
      obtain ⟨phase_, there, phases⟩ := same.phase_some here
      rw [there]
      cases phases <;> rfl

theorem Alike.setPhase (same : pool.Alike near alike other) {phase phase_ : Phase Call Reply Shared α}
    (phases : phase.Alike alike phase_) (id : Nat) :
    (pool.setPhase id phase).Alike near alike (other.setPhase id phase_) where
  store := same.store
  shared := same.shared
  phase := fun id_ => by
    by_cases here : id_ = id
    · subst here
      rw [setPhase_phase_self, setPhase_phase_self]
      exact .some phases
    · rw [setPhase_phase_other _ _ _ here, setPhase_phase_other _ _ _ here]
      exact same.phase id_

theorem alike_initial {store store_ : Store} (stores : near store store_) (shared : Shared) :
    (Pool.initial store shared : Pool Call Reply Shared Store α).Alike near alike (Pool.initial store_ shared) :=
  ⟨stores, rfl, fun _ => .none⟩

end Pool

namespace System

variable {backend : Backend Call Reply Shared Store Choice} {program : Request → Task Call Reply Shared α}

/-- What one pool can do, a pool that is alike does with a close choice. -/
theorem close_step (masks : Masks backend permits near alike close) {pool other next : Pool Call Reply Shared Store α}
    {label label_ : Label Request Choice} (same : pool.Alike near alike other) (all : pool.Always (Unaware permits alike))
    (labels : label.Close close label_) (stepped : (live backend program).Stepped pool label next) :
    ∃ next_, (live backend program).step other label_ = some next_ ∧ next.Alike near alike next_ := by
  cases stepped with
  | start fresh =>
      cases labels
      simp only [step, same.phase_none fresh]
      exact ⟨_, rfl, same.setPhase (.running _) _⟩
  | @execute id choice call resume running =>
      cases labels with
      | execute _ choices =>
          obtain ⟨_, there, phases⟩ := same.phase_some running
          cases phases
          have permitted : permits call := (all id _ running).1.1
          simp only [step, there]
          have moved : Pool.Alike near alike { pool with store := (backend.execute call choice pool.store).2 }
              { other with store := (backend.execute call _ other.store).2 } :=
            ⟨masks.store call _ _ _ _ permitted same.store choices, same.shared, same.phase⟩
          exact ⟨_, rfl, moved.setPhase (.executed (masks.reply call _ _ _ _ permitted same.store choices) resume) id⟩
  | @receive id call reply resume executed =>
      cases labels
      obtain ⟨_, there, phases⟩ := same.phase_some executed
      cases phases with
      | executed replies =>
          simp only [step, there]
          rw [← same.shared]
          have moved : Pool.Alike near alike { pool with shared := backend.receive call reply pool.shared }
              { other with shared := backend.receive call _ pool.shared } :=
            ⟨same.store, masks.receive call _ _ _ replies, same.phase⟩
          exact ⟨_, rfl, moved.setPhase (.waiting replies resume) id⟩
  | @handle id call reply resume waiting =>
      cases labels
      obtain ⟨_, there, phases⟩ := same.phase_some waiting
      cases phases with
      | waiting replies =>
          have blind : Blind alike call resume := (all id _ waiting).1.2
          simp only [step, there]
          refine ⟨_, rfl, same.setPhase ?_ id⟩
          have shared : (live backend program).observe call reply pool.shared = pool.shared := rfl
          rw [shared, same.shared, blind _ _ replies]
          exact .running _

theorem stepped_always_of_start {system : System Call Reply Shared Store Choice Request α}
    {P : (call : Call) → (Reply call → Shared → Task Call Reply Shared α) → Prop}
    {pool next : Pool Call Reply Shared Store α} {label : Label Request Choice}
    (programs : ∀ id request, label = .start id request → (system.program request).Always P) (all : pool.Always P)
    (stepped : system.Stepped pool label next) : next.Always P := by
  cases stepped with
  | start fresh => exact all.setPhase (programs _ _ rfl)
  | execute running =>
      have now := all _ _ running
      exact Pool.Always.setPhase (fun id phase present => all id phase present) now
  | receive executed =>
      have now := all _ _ executed
      exact Pool.Always.setPhase (fun id phase present => all id phase present) now
  | handle waiting => exact all.setPhase ((all _ _ waiting).2 _ _)

/-- Runs of such requests that differ in the masked part of the stores and the
replies only come to the same results. -/
theorem close_runs (masks : Masks backend permits near alike close)
    {pool other final : Pool Call Reply Shared Store α} {schedule schedule_ : List (Label Request Choice)}
    (programs : ∀ id request, .start id request ∈ schedule → (program request).Always (Unaware permits alike))
    (same : pool.Alike near alike other) (all : pool.Always (Unaware permits alike))
    (labels : List.Forall₂ (Label.Close close) schedule schedule_)
    (reached : (live backend program).runs pool schedule = some final) :
    ∃ final_, (live backend program).runs other schedule_ = some final_ ∧ final.Alike near alike final_ := by
  induction labels generalizing pool other with
  | nil =>
      cases reached
      exact ⟨other, rfl, same⟩
  | @cons label label_ rest rest_ close others ih =>
      obtain ⟨next, taken, remaining⟩ := Option.bind_eq_some_iff.mp reached
      have stepped := stepped_of_step _ taken
      obtain ⟨next_, taken_, nextSame⟩ := close_step masks same all close stepped
      have nextAll : next.Always (Unaware permits alike) := stepped_always_of_start
        (fun id request starts => programs id request (starts ▸ List.mem_cons_self)) all stepped
      obtain ⟨final_, reached_, finalSame⟩ := ih
        (fun id request member => programs id request (List.mem_cons_of_mem label member)) nextSame nextAll remaining
      exact ⟨final_, by rw [runs, taken_, Option.bind_some, reached_], finalSame⟩

end System

end Tgdex.Effects
