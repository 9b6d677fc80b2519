namespace Tgdex.Effects

/-! # Promises and the procedures that settle them -/

/-- A promise is failed or completed at most once. -/
inductive Promise (Message Value : Type) where
  | pending
  | failed (message : Message)
  | completed (value : Value)
deriving Repr, DecidableEq

/-- Code that works on one promise.  An exception ends it and leaves the promise
as it is by then. -/
abbrev Procedure (Error Message Value Result : Type) : Type :=
  ExceptT Error (StateM (Promise Message Value)) Result

namespace Procedure

variable {Error Message Value Result Other : Type}

def runOn (procedure : Procedure Error Message Value Result) (promise : Promise Message Value) :
    Except Error Result × Promise Message Value :=
  procedure.run promise

/-- Code that has nothing to do with the promise. -/
def attempt : Except Error Result → Procedure Error Message Value Result
  | .ok result => pure result
  | .error cause => throw cause

/-- A settled promise throws when it is settled again. -/
def settle (again : Error) (settled : Promise Message Value) : Procedure Error Message Value Unit := do
  match ← get with
  | .pending => set settled
  | .failed _ | .completed _ => throw again

/-- The procedure works on a promise of its own, which goes on as it leaves it. -/
def onNewPromise {OtherMessage OtherValue : Type} (procedure : Procedure Error OtherMessage OtherValue Unit) :
    Procedure Error Message Value (Promise OtherMessage OtherValue) :=
  match procedure.runOn .pending with
  | (.ok (), promise) => pure promise
  | (.error cause, _) => throw cause

variable {procedure : Procedure Error Message Value Result}
  {next : Result → Procedure Error Message Value Other} {promise after settled : Promise Message Value}
  {again cause : Error} {result : Result}

@[simp] theorem runOn_pure :
    (pure result : Procedure Error Message Value Result).runOn promise = (.ok result, promise) := rfl

@[simp] theorem runOn_throw :
    (throw cause : Procedure Error Message Value Result).runOn promise = (.error cause, promise) := rfl

@[simp] theorem runOn_attempt {attempted : Except Error Result} :
    (attempt attempted).runOn promise = (attempted, promise) := by
  cases attempted <;> rfl

theorem runOn_bind_of_ok (ran : procedure.runOn promise = (.ok result, after)) :
    (procedure >>= next).runOn promise = (next result).runOn after := by
  have step : (procedure >>= next).runOn promise =
      ExceptT.bindCont next (procedure.runOn promise).1 (procedure.runOn promise).2 := rfl
  rw [step, ran]
  rfl

theorem runOn_bind_of_error (ran : procedure.runOn promise = (.error cause, after)) :
    (procedure >>= next).runOn promise = (.error cause, after) := by
  have step : (procedure >>= next).runOn promise =
      ExceptT.bindCont next (procedure.runOn promise).1 (procedure.runOn promise).2 := rfl
  rw [step, ran]
  rfl

@[simp] theorem runOn_settle_pending : (settle again settled).runOn .pending = (.ok (), settled) := rfl

theorem runOn_settle_again (done : promise ≠ .pending) :
    (settle again settled).runOn promise = (.error again, promise) := by
  cases promise with
  | pending => contradiction
  | failed message => rfl
  | completed value => rfl

theorem runOn_bind_eq_ok {finished : Other} {last : Promise Message Value} :
    (procedure >>= next).runOn promise = (.ok finished, last) ↔
      ∃ result after, procedure.runOn promise = (.ok result, after) ∧
        (next result).runOn after = (.ok finished, last) := by
  cases ran : procedure.runOn promise with
  | mk outcome after =>
      cases outcome with
      | ok result =>
          rw [runOn_bind_of_ok ran]
          refine ⟨fun finishes => ⟨result, after, rfl, finishes⟩, fun shown => ?_⟩
          obtain ⟨_, _, same, finishes⟩ := shown
          cases same
          exact finishes
      | error cause =>
          rw [runOn_bind_of_error ran]
          refine ⟨fun finishes => (nomatch finishes), fun shown => ?_⟩
          obtain ⟨_, _, same, -⟩ := shown
          cases same

end Procedure

end Tgdex.Effects
