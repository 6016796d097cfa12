import RenderCore.Proofs.Stencil.CoherentStates

/-!
# Runs

A run is the list of the steps that a program has taken on its cache, last one first. Each step has
come to its end, with an answer or with a fault; where an operation is cut short the program ends.
-/

namespace RenderCore

variable {δ : Type}

/-- An operation that came to its end. -/
structure Step (δ : Type) where
  {Answer : Type}
  operation : Operation δ Answer
  before : CacheSession δ
  outcome : Except Fault Answer
  after : CacheSession δ

variable [Backend δ]

/-- The step that an operation takes from a state, with the outcome that it has there. -/
def Step.taken {α : Type} (build : Build) (operation : Operation δ α) (outcome : Except Fault α)
    (before : CacheSession δ) : Step δ :=
  { operation, before, outcome, after := ((operation.act build).outcome before).2 }

/-- The operation has this outcome and leaves this state. -/
def Step.Completes (build : Build) (step : Step δ) : Prop :=
  (step.operation.act build).outcome step.before = (step.outcome.mapError .fault, step.after)

/-- The steps from a first state to a last one. -/
inductive Run (build : Build) (start : CacheSession δ) : List (Step δ) → CacheSession δ → Prop where
  | nil : Run build start [] start
  | cons {step : Step δ} {steps : List (Step δ)} (run : Run build start steps step.before)
      (completes : step.Completes build) : Run build start (step :: steps) step.after

/-- A run goes on with any operation that does not panic. -/
theorem Run.next {build : Build} {start before : CacheSession δ} {steps : List (Step δ)} {α : Type}
    (run : Run build start steps before) (operation : Operation δ α) (outcome : Except Fault α)
    (ended : ((operation.act build).outcome before).1 = outcome.mapError .fault) :
    Run build start (Step.taken build operation outcome before :: steps)
      ((operation.act build).outcome before).2 := by
  have completes : (Step.taken build operation outcome before).Completes build :=
    Prod.ext ended rfl
  exact Run.cons run completes

theorem Step.effect {step : Step δ} (completes : step.Completes .release) :
    step.operation.Effect step.before.holding step.outcome step.after.holding := by
  have ends := step.operation.ends_act step.before
  rw [Act.ends_iff_outcome, show _ = _ from completes] at ends
  cases outcome : step.outcome with
  | ok a =>
    rw [outcome] at ends
    exact ends
  | error f =>
    rw [outcome] at ends
    exact ends

variable {budget : CacheBudget} {session : Session δ} {steps : List (Step δ)}
  {work : CacheSession δ}

theorem Run.reachable {build : Build} (run : Run build ⟨{ budget }, session⟩ steps work) :
    Reachable build budget work := by
  induction run with
  | nil => exact .start session
  | cons run completes ih => exact .step _ ih completes

end RenderCore
