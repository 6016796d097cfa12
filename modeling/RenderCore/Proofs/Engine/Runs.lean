import RenderCore.Proofs.Engine.Plans
import RenderCore.Proofs.Stencil.Reporting

/-!
# Runs of the engine

A program calls the engine and works on caches through the handles that it holds. A run is the list
of what it did, last step first. Unlike a run on a single cache it also goes on after a panic, as a
program does that catches it: every step is recorded with the end that it came to.
-/

namespace RenderCore

namespace Engine

variable {δ α : Type}

/-! ## Work on a cache -/

/-- The cache of a handle, as its holders find it: none behind a poisoned lock. -/
def view (engine : Engine δ) (handle : CacheHandle) : Option StencilCache :=
  (engine.shared? handle).bind (·.cache.open?)

/-- The engine after work on a cache of which `work` is left. -/
def worked (engine : Engine δ) (handle : CacheHandle) (poisoned : Bool) (work : CacheSession δ) :
    Engine δ :=
  { engine.changed handle fun shared =>
      some { shared with cache := { value := work.cache, poisoned } } with
    session := work.session }

variable {engine left : Engine δ} {handle : CacheHandle}

theorem view_of_same (caches : left.caches = engine.caches) (handle : CacheHandle) :
    left.view handle = engine.view handle := by
  rw [view, view, shared?, shared?, caches]

theorem view_changed (engine : Engine δ) (handle other : CacheHandle)
    (change : SharedCache → Option SharedCache) :
    (engine.changed handle change).view other =
      if other = handle then ((engine.shared? handle).bind change).bind (·.cache.open?)
      else engine.view other := by
  unfold view
  rw [shared?_changed]
  split <;> rfl

theorem view_worked {cache : StencilCache} (seen : engine.view handle = some cache)
    (poisoned : Bool) (work : CacheSession δ) :
    (engine.worked handle poisoned work).view handle = if poisoned then none else some work.cache := by
  obtain ⟨shared, live, -⟩ := Option.bind_eq_some_iff.mp seen
  have changed := view_changed engine handle handle fun shared =>
    some { shared with cache := { value := work.cache, poisoned } }
  rw [if_pos rfl, live] at changed
  exact changed

theorem view_worked_of_ne (engine : Engine δ) {other : CacheHandle} (apart : other ≠ handle)
    (poisoned : Bool) (work : CacheSession δ) :
    (engine.worked other poisoned work).view handle = engine.view handle := by
  have changed := view_changed engine other handle fun shared =>
    some { shared with cache := { value := work.cache, poisoned } }
  rw [if_neg apart.symm] at changed
  exact changed

end Engine

/-- Whether an operation was cut short. -/
def panicked {α : Type} : Except Stop α → Bool
  | .error (.panic _) => true
  | _ => false

namespace Engine

variable {δ α : Type}

theorem withCache_outcome_of_closed {engine : Engine δ} {handle : CacheHandle}
    (closed : engine.view handle = none) (act : Act (CacheSession δ) α) :
    (withCache handle act).outcome engine = (.ok none, engine) := by
  unfold withCache
  rw [Act.outcome_get_bind]
  unfold view at closed
  rw [closed]
  rfl

theorem withCache_outcome_of_open {engine : Engine δ} {handle : CacheHandle} {cache : StencilCache}
    (opened : engine.view handle = some cache) (act : Act (CacheSession δ) α) :
    (withCache handle act).outcome engine =
      ((act.outcome ⟨cache, engine.session⟩).1.map some,
        engine.worked handle (panicked (act.outcome ⟨cache, engine.session⟩).1)
          (act.outcome ⟨cache, engine.session⟩).2) := by
  obtain ⟨shared, live, unlocked⟩ := Option.bind_eq_some_iff.mp opened
  rcases ended : act.outcome ⟨cache, engine.session⟩ with ⟨outcome, work⟩
  have put (back : CacheSession δ → Engine δ → Engine δ)
      (same : back work engine = engine.worked handle false work) :
      (Act.within (fun engine : Engine δ => ⟨cache, engine.session⟩) back act).outcome engine =
        (outcome, engine.worked handle false work) :=
    same ▸ Act.outcome_within ended
  unfold withCache
  rw [Act.outcome_get_bind, live, Option.bind_some, unlocked]
  dsimp only
  rw [Act.outcome_bind_pure, Act.outcome_onPanic, put]
  · rcases outcome with (fault | panic) | answer
    · rfl
    · dsimp only
      rw [changeShared_outcome]
      have poisoned := changed_changed engine handle
        (fun shared => some { shared with cache := { value := work.cache } })
        fun shared => some { shared with cache := shared.cache.poison }
      exact congrArg (fun engine : Engine δ =>
        ((.error (.panic panic), { engine with session := work.session }) :
          Except Stop (Option α) × Engine δ)) poisoned
    · rfl
  · rw [live]
    have kept := setShared_of_some live
      fun shared => some { shared with cache := { value := work.cache } }
    exact congrArg (fun engine : Engine δ => { engine with session := work.session }) kept

/-! ## Steps -/

/-- What a program does in one step. The index is the type of the answer. -/
inductive Action (δ : Type) : Type → Type 1 where
  | call {α : Type} (request : Call δ α) : Action δ α
  /-- Works on the cache of a handle; answers none if its lock is poisoned. -/
  | use {α : Type} (handle : CacheHandle) (operation : Operation δ α)
      (discreet : operation.Discreet) : Action δ (Option α)

namespace Action

/-- The handle that an action is done with. -/
def handle? : Action δ α → Option CacheHandle
  | .call (.share handle) => some handle
  | .call (.drop handle) => some handle
  | .use handle _ _ => some handle
  | _ => none

/-- The handles held after an action, by those held before it and by its end. A handle is given up
    even if the report of what is lost with it fails. -/
def holding : Action δ α → Except Stop α → List CacheHandle → List CacheHandle
  | .call .acquireCache, .ok handle, held => handle :: held
  | .call (.share handle), .ok (), held => handle :: held
  | .call (.drop handle), _, held => held.erase handle
  | _, _, held => held

variable [Backend δ]

/-- The action, carried out. -/
def act (build : Build) : Action δ α → Act (Engine δ) α
  | .call request => request.act
  | .use handle operation _ => withCache handle (operation.act build)

end Action

/-- What was done in one step, and how it ended. -/
structure Step (δ : Type) where
  {Answer : Type}
  action : Action δ Answer
  before : Engine δ
  outcome : Except Stop Answer
  after : Engine δ

/-- The handles that a program holds after some steps, last step first. -/
def held : List (Step δ) → List CacheHandle
  | [] => []
  | step :: steps => step.action.holding step.outcome (held steps)

variable [Backend δ]

/-- The step that an action takes from a state, with the outcome that it has there. -/
def Step.taken (build : Build) (action : Action δ α) (outcome : Except Stop α)
    (before : Engine δ) : Step δ :=
  { action, before, outcome, after := ((action.act build).outcome before).2 }

/-- The action has this outcome and leaves this state. -/
def Step.Completes (build : Build) (step : Step δ) : Prop :=
  (step.action.act build).outcome step.before = (step.outcome, step.after)

/-- A call goes as planned. -/
theorem Step.Completes.called {build : Build} {request : Call δ α} {before after : Engine δ}
    {outcome : Except Stop α}
    (completes : (⟨.call request, before, outcome, after⟩ : Step δ).Completes build) :
    outcome = (request.plan before).outcome.1 ∧ after = (request.plan before).outcome.2 :=
  Prod.ext_iff.mp (completes.symm.trans (request.outcome_act before))

/-- Work on a cache is not begun behind a poisoned lock. A panic poisons the lock. -/
theorem Step.Completes.used {build : Build} {handle : CacheHandle} {operation : Operation δ α}
    {discreet : operation.Discreet} {before after : Engine δ} {outcome : Except Stop (Option α)}
    (completes : (⟨.use handle operation discreet, before, outcome, after⟩ : Step δ).Completes
      build) :
    (before.view handle = none ∧ outcome = .ok none ∧ after = before) ∨
      ∃ cache ended left, before.view handle = some cache ∧
        (operation.act build).outcome ⟨cache, before.session⟩ = (ended, left) ∧
        outcome = ended.map some ∧ after = before.worked handle (panicked ended) left := by
  change (withCache handle (operation.act build)).outcome before = (outcome, after) at completes
  cases seen : before.view handle with
  | none =>
    rw [withCache_outcome_of_closed seen] at completes
    cases completes
    exact .inl ⟨rfl, rfl, rfl⟩
  | some cache =>
    rw [withCache_outcome_of_open seen] at completes
    cases completes
    exact .inr ⟨cache, _, _, rfl, rfl, rfl, rfl⟩

/-- The steps of a program from the start of the engine in a session. It works with handles that it
    holds. -/
inductive Run (build : Build) (session : Session δ) : List (Step δ) → Engine δ → Prop where
  | nil : Run build session [] { session }
  | cons {step : Step δ} {steps : List (Step δ)} (run : Run build session steps step.before)
      (owned : ∀ handle, step.action.handle? = some handle → handle ∈ held steps)
      (completes : step.Completes build) : Run build session (step :: steps) step.after

/-- A run goes on with any action for which its handle is held. -/
theorem Run.next {build : Build} {session : Session δ} {steps : List (Step δ)} {engine : Engine δ}
    (run : Run build session steps engine) (action : Action δ α) (outcome : Except Stop α)
    (owned : ∀ handle, action.handle? = some handle → handle ∈ held steps)
    (ended : ((action.act build).outcome engine).1 = outcome) :
    Run build session (Step.taken build action outcome engine :: steps)
      ((action.act build).outcome engine).2 := by
  have completes : (Step.taken build action outcome engine).Completes build := Prod.ext ended rfl
  exact Run.cons run owned completes

section parts

variable {build : Build} {session : Session δ} {steps : List (Step δ)} {engine : Engine δ}
  {step : Step δ}

theorem Run.completes (run : Run build session steps engine) (member : step ∈ steps) :
    step.Completes build := by
  induction run with
  | nil => contradiction
  | cons run owned completes ih =>
    rcases List.mem_cons.mp member with rfl | member
    · exact completes
    · exact ih member

/-- The steps up to some step of a run. -/
theorem Run.upTo {later earlier : List (Step δ)}
    (run : Run build session (later ++ step :: earlier) engine) :
    Run build session earlier step.before ∧ step.Completes build := by
  induction later generalizing engine with
  | nil =>
    cases run with
    | cons run owned completes => exact ⟨run, completes⟩
  | cons last later ih =>
    cases run with
    | cons run owned completes => exact ih run

/-- What holds after some step of a run and is kept by every step holds in the end. -/
theorem Run.since {later earlier : List (Step δ)}
    (run : Run build session (later ++ step :: earlier) engine) (holds : Engine δ → Prop)
    (start : holds step.after)
    (kept : ∀ next : Step δ, next.Completes build → holds next.before → holds next.after) :
    holds engine := by
  induction later generalizing engine with
  | nil =>
    cases run with
    | cons run owned completes => exact start
  | cons last later ih =>
    cases run with
    | cons run owned completes => exact kept last completes (ih run)

end parts

end Engine

end RenderCore
