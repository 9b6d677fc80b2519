import Tgdex.Effects.Task

namespace Tgdex.Effects

/-! # One call after the other

For each item a call is prepared and made, and the next item has its turn only
when the reply is a success. -/

variable {Call : Type} {Reply : Call → Type} {Shared State Item Stop : Type}

/-- `prepare` makes the call of an item, and `judge` says what stops the work after a reply. -/
structure Turns (Call : Type) (Reply : Call → Type) (State Item Stop : Type) where
  prepare : State → Item → Except Stop (Call × State)
  judge : Item → (call : Call) → Reply call → Except Stop Unit

variable (turns : Turns Call Reply State Item Stop)

def Turns.inTurn : State → List Item → Task Call Reply Shared (Except Stop Unit)
  | _, [] => .done (.ok ())
  | state, item :: rest =>
      match turns.prepare state item with
      | .error stop => .done (.error stop)
      | .ok (call, next) => .await call fun reply _ =>
          match turns.judge item call reply with
          | .error stop => .done (.error stop)
          | .ok () => inTurn next rest

/-- The calls that the items can lead to, and how that ends. -/
inductive Turns.Works : State → List Item → List (Sigma Reply) → Except Stop Unit → Prop
  | finished {state : State} : Works state [] [] (.ok ())
  | unprepared {state : State} {item : Item} {rest : List Item} {stop : Stop}
      (prepared : turns.prepare state item = .error stop) : Works state (item :: rest) [] (.error stop)
  | stopped {state next : State} {item : Item} {rest : List Item} {call : Call} {reply : Reply call} {stop : Stop}
      (prepared : turns.prepare state item = .ok (call, next)) (judged : turns.judge item call reply = .error stop) :
      Works state (item :: rest) [⟨call, reply⟩] (.error stop)
  | worked {state next : State} {item : Item} {rest : List Item} {call : Call} {reply : Reply call}
      {exchanges : List (Sigma Reply)} {result : Except Stop Unit}
      (prepared : turns.prepare state item = .ok (call, next)) (judged : turns.judge item call reply = .ok ())
      (onward : Works next rest exchanges result) : Works state (item :: rest) (⟨call, reply⟩ :: exchanges) result

namespace Turns

variable {turns} {state : State} {items : List Item} {exchanges : List (Sigma Reply)} {result : Except Stop Unit}

theorem trace_inTurn_iff [Nonempty Shared] :
    (turns.inTurn state items : Task Call Reply Shared (Except Stop Unit)).Trace exchanges result ↔
      turns.Works state items exchanges result := by
  induction items generalizing state exchanges with
  | nil =>
      refine ⟨fun goes => ?_, fun works => ?_⟩
      · obtain ⟨rfl, rfl⟩ := goes
        exact .finished
      · cases works
        exact ⟨rfl, rfl⟩
  | cons item rest ih =>
      rw [inTurn]
      cases prepared : turns.prepare state item with
      | error stop =>
          refine ⟨fun goes => ?_, fun works => ?_⟩
          · obtain ⟨rfl, rfl⟩ := goes
            exact .unprepared prepared
          · cases works with
            | unprepared other =>
                cases prepared.symm.trans other
                exact ⟨rfl, rfl⟩
            | stopped other _ => cases prepared.symm.trans other
            | worked other _ _ => cases prepared.symm.trans other
      | ok made =>
          obtain ⟨call, next⟩ := made
          refine ⟨fun goes => ?_, fun works => ?_⟩
          · obtain ⟨reply, shared, tail, rfl, goes⟩ := goes
            simp only at goes
            cases judged : turns.judge item call reply with
            | error stop =>
                rw [judged] at goes
                obtain ⟨rfl, rfl⟩ := goes
                exact .stopped prepared judged
            | ok _ =>
                rw [judged] at goes
                exact .worked prepared judged (ih.mp goes)
          · obtain ⟨shared⟩ := ‹Nonempty Shared›
            cases works with
            | unprepared other => cases prepared.symm.trans other
            | @stopped _ _ _ _ _ reply _ other judged =>
                cases prepared.symm.trans other
                exact ⟨reply, shared, [], rfl, by simp only [judged]; exact ⟨rfl, rfl⟩⟩
            | @worked _ _ _ _ _ reply tail _ other judged onward =>
                cases prepared.symm.trans other
                exact ⟨reply, shared, tail, rfl, by simp only [judged]; exact ih.mpr onward⟩

end Turns

end Tgdex.Effects
