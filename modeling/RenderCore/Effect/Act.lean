import RenderCore.Effect.Stop

/-!
# Operations on a state

`Act σ α` is an operation that works on a state `σ` and answers an `α` or stops. What was done to
the state before a stop stays done: nothing is rolled back, so a caller that survives the stop
sees how far the operation came. Operations on a part of a state are run on the whole by
`Act.within`.
-/

namespace RenderCore

/-- An operation on a state of type `σ`. -/
abbrev Act (σ : Type) : Type → Type := EStateM Stop σ

namespace Act

variable {σ τ α : Type}

/-- Reports a fault to the caller. -/
def fail (fault : Fault) : Act σ α := throw (.fault fault)

/-- Cuts the operation short. -/
def panic (panic : Panic) : Act σ α := throw (.panic panic)

/-- Runs an operation on the part of the state that `get` reads and `put` writes back. -/
def within (get : σ → τ) (put : τ → σ → σ) (act : Act τ α) : Act σ α := fun s =>
  match act (get s) with
  | .ok a t => .ok a (put t s)
  | .error e t => .error e (put t s)

/-- Runs `cleanup` when `act` panics, and lets the panic go on. A second panic, raised by the
    cleanup itself, gives way to the first. In the program it would end the process; here the run
    goes on, so what is proved of every run covers those that the process survives and more. -/
def onPanic (act : Act σ α) (cleanup : Act σ Unit) : Act σ α := fun s =>
  match act s with
  | .error (.panic p) s =>
    match cleanup s with
    | .ok _ s => .error (.panic p) s
    | .error _ s => .error (.panic p) s
  | .error (.fault f) s => .error (.fault f) s
  | .ok a s => .ok a s

/-- Hands a fault of `act` to `handler`; a panic passes. -/
def onFault (act : Act σ α) (handler : Fault → Act σ α) : Act σ α := fun s =>
  match act s with
  | .error (.fault f) s => handler f s
  | .error (.panic p) s => .error (.panic p) s
  | .ok a s => .ok a s

/-- The answer of an operation, or what stopped it, beside the state it leaves. -/
def outcome (act : Act σ α) (s : σ) : Except Stop α × σ :=
  match act s with
  | .ok a s => (.ok a, s)
  | .error e s => (.error e, s)

end Act

/-- A check that fails cuts the operation short. -/
instance {σ : Type} : MonadLift (Except Panic) (Act σ) where
  monadLift
    | .ok a => pure a
    | .error p => Act.panic p

end RenderCore
