import RenderCore.Proofs.Engine.Runs
import RenderCore.Proofs.Stencil.CoherentStates

/-!
# How far the panic of a logger reaches

A logger may fail on any entry. Its own lock is only read while it writes, so it can always be
replaced, and the logger in charge is told of everything. The lock of the registration is poisoned
only by a logger that fails while the registration is held for writing; from then on nobody gets to
see the registration, and nothing changes it.
-/

namespace RenderCore

theorem Guarded.poison_of_poisoned {α : Type} {guarded : Guarded α}
    (poisoned : guarded.poisoned = true) : guarded.poison = guarded := by
  rw [poison, ← poisoned]

theorem Guarded.open?_eq_none {α : Type} {guarded : Guarded α} :
    guarded.open? = none ↔ guarded.poisoned = true := by
  unfold open?
  split <;> simp_all

namespace Journal

/-- The journal with another logger in charge, if there is one to be put there. -/
def chargedBy (journal : Journal) : Option Logger → Journal
  | some logger => journal.charged logger
  | none => journal

theorem logger_chargedBy {journal : Journal} {present : Logger}
    (unlocked : journal.logger = { value := present }) (logger? : Option Logger) :
    (journal.chargedBy logger?).logger = { value := logger?.getD present } := by
  cases logger? with
  | none => exact unlocked
  | some logger =>
    rw [chargedBy, charged, unlocked]
    rfl

end Journal

namespace Engine

variable {δ α : Type}

theorem Plan.outcome_of_spoils {plan : Plan δ α} (spoils : plan.spoils = true) :
    plan.outcome.1 = .error (.panic .logger) := by
  have alarmed : plan.left.session.journal.alarmed (plan.losses ++ plan.report) = true := by
    rw [Journal.alarmed_append]
    unfold Plan.spoils at spoils
    revert spoils
    cases plan.left.session.journal.alarmed plan.losses <;> cases plan.exclusive <;> simp
  exact if_pos alarmed

/-! ## Calls -/

namespace Call

/-- The calls that hold the registration for writing. -/
def Exclusive : Call δ α → Prop
  | .createCache _ => True
  | .destroyCache => True
  | .shutDown => True
  | _ => False

/-- The logger that a call puts in charge. -/
def logger? : Call δ α → Option Logger
  | .setLogger logger => some logger
  | _ => none

variable {request : Call δ α} {engine : Engine δ}

/-- Only a call that holds the registration of an engine made ready for writing can poison it. -/
theorem exclusive_of_spoils (spoils : (request.plan engine).spoils = true) :
    request.Exclusive ∧ engine.initialized = true := by
  cases request with
  | shutDown =>
    refine ⟨trivial, ?_⟩
    change engine.shutDownPlan.spoils = true at spoils
    unfold shutDownPlan at spoils
    split at spoils
    · assumption
    · contradiction
  | createCache budget =>
    refine ⟨trivial, ?_⟩
    change (engine.createPlan budget).spoils = true at spoils
    unfold createPlan at spoils
    rcases found : engine.lookUp with fault | _ | handle
    · rw [found] at spoils
      exact (Bool.and_eq_true_iff.mp spoils).1
    · exact (lookUp_eq_ok found).1
    · exact (lookUp_eq_ok found).1
  | acquireCache =>
    change engine.acquirePlan.spoils = true at spoils
    unfold acquirePlan at spoils
    rcases found : engine.lookUp with fault | _ | handle <;> rw [found] at spoils <;> contradiction
  | destroyCache =>
    refine ⟨trivial, ?_⟩
    change engine.destroyPlan.spoils = true at spoils
    unfold destroyPlan at spoils
    rcases found : engine.lookUp with fault | _ | handle
    · rw [found] at spoils
      exact (Bool.and_eq_true_iff.mp spoils).1
    · exact (lookUp_eq_ok found).1
    · exact (lookUp_eq_ok found).1
  | _ => contradiction

/-- Behind a poisoned lock the registration is not to be had. -/
theorem left_of_poisoned (consults : request.Consults)
    (poisoned : engine.registry.poisoned = true) : (request.plan engine).left = engine := by
  have locked := Guarded.open?_eq_none.mpr poisoned
  have refused : ∃ fault, engine.lookUp = .error fault := by
    cases ready : engine.initialized with
    | false => exact ⟨_, lookUp_of_unready ready⟩
    | true => exact ⟨_, lookUp_of_poisoned ready locked⟩
  obtain ⟨fault, refused⟩ := refused
  cases request with
  | shutDown =>
    change engine.shutDownPlan.left = engine
    unfold shutDownPlan
    rw [locked]
    split <;> rfl
  | createCache budget =>
    change (engine.createPlan budget).left = engine
    unfold createPlan
    rw [refused]
    rfl
  | acquireCache =>
    change engine.acquirePlan.left = engine
    unfold acquirePlan
    rw [refused]
    rfl
  | destroyCache =>
    change engine.destroyPlan.left = engine
    unfold destroyPlan
    rw [refused]
    rfl
  | _ => exact consults.elim

theorem registry_of_poisoned (request : Call δ α) (poisoned : engine.registry.poisoned = true) :
    (request.plan engine).left.registry = engine.registry := by
  cases request with
  | shutDown => exact congrArg Engine.registry (left_of_poisoned trivial poisoned)
  | createCache budget => exact congrArg Engine.registry (left_of_poisoned trivial poisoned)
  | acquireCache => exact congrArg Engine.registry (left_of_poisoned trivial poisoned)
  | destroyCache => exact congrArg Engine.registry (left_of_poisoned trivial poisoned)
  | _ => rfl

theorem journal_left (request : Call δ α) (engine : Engine δ) :
    (request.plan engine).left.session.journal =
      engine.session.journal.chargedBy request.logger? := by
  have framed {consulting : Call δ α} (consults : consulting.Consults) :
      (consulting.plan engine).left.session.journal = engine.session.journal :=
    congrArg Session.journal (frame engine consults).1
  cases request with
  | shutDown => exact framed trivial
  | createCache budget => exact framed trivial
  | acquireCache => exact framed trivial
  | destroyCache => exact framed trivial
  | elsewhere change apart => exact apart engine.session
  | _ => rfl

theorem poisoned_left (request : Call δ α) (engine : Engine δ) :
    (request.plan engine).left.registry.poisoned = engine.registry.poisoned := by
  have framed {consulting : Call δ α} (consults : consulting.Consults) :
      (consulting.plan engine).left.registry.poisoned = engine.registry.poisoned :=
    (frame engine consults).2.2
  cases request with
  | shutDown => exact framed trivial
  | createCache budget => exact framed trivial
  | acquireCache => exact framed trivial
  | destroyCache => exact framed trivial
  | _ => rfl

end Call

/-! ## Steps -/

namespace Action

/-- The actions that hold the registration for writing. -/
def Exclusive : Action δ α → Prop
  | .call request => request.Exclusive
  | .use _ _ _ => False

/-- The logger that an action puts in charge. -/
def logger? : Action δ α → Option Logger
  | .call request => request.logger?
  | .use _ _ _ => none

/-- The journal that an action leaves: a call first puts a logger in charge, if it does that, and
    then tells the logger in charge of everything that it reports; work on a cache adds entries and
    does no more. -/
def Tells : Action δ α → Engine δ → Journal → Prop
  | .call request, before, left => left =
    (before.session.journal.chargedBy request.logger?).noted (request.plan before).entries
  | .use _ _ _, before, left => before.session.journal.Grown left

end Action

/-- The logger in charge after some steps, by the one in charge at the start. -/
def loggerAfter (first : Logger) : List (Step δ) → Logger
  | [] => first
  | step :: steps => step.action.logger?.getD (loggerAfter first steps)

variable [Backend δ] {build : Build} {step : Step δ}

theorem Step.tells (completes : step.Completes build) :
    step.action.Tells step.before step.after.session.journal := by
  obtain ⟨action, before, outcome, after⟩ := step
  cases action with
  | call request =>
    obtain ⟨-, rfl⟩ := completes.called
    change (request.plan before).outcome.2.session.journal = _
    rw [Plan.session_outcome, ← request.journal_left]
    rfl
  | use handle operation discreet =>
    change before.session.journal.Grown after.session.journal
    rcases completes.used with ⟨-, -, rfl⟩ | ⟨cache, ended, left, -, ran, -, rfl⟩
    · exact .refl _
    · have start : CacheSession.Reporting before.session.journal ⟨cache, before.session⟩ :=
        .refl before.session.journal
      have reporting := (Operation.keeps_act build discreet).outcome start
      rw [ran] at reporting
      exact reporting

/-- The logger's lock is open after a step if it was before. -/
theorem Step.logger {present : Logger} (completes : step.Completes build)
    (unlocked : step.before.session.journal.logger = { value := present }) :
    step.after.session.journal.logger = { value := step.action.logger?.getD present } := by
  have told := Step.tells completes
  obtain ⟨action, before, outcome, after⟩ := step
  cases action with
  | call request =>
    change after.session.journal = _ at told
    rw [told, Journal.logger_noted]
    exact Journal.logger_chargedBy unlocked request.logger?
  | use handle operation discreet =>
    obtain ⟨entries, grown⟩ := told
    change after.session.journal.logger = _
    rw [grown, Journal.logger_noted]
    exact unlocked

theorem Step.initialized (completes : step.Completes build)
    (ready : step.before.initialized = true) : step.after.initialized = true := by
  obtain ⟨action, before, outcome, after⟩ := step
  cases action with
  | call request =>
    obtain ⟨-, rfl⟩ := completes.called
    exact (Plan.initialized_outcome _).trans (request.initialized_left ready)
  | use handle operation discreet =>
    rcases completes.used with ⟨-, -, rfl⟩ | ⟨cache, ended, left, -, -, -, rfl⟩ <;> exact ready

/-- The lock of the registration is poisoned only by a logger that fails while the registration of
    an engine made ready is held for writing. -/
theorem Step.spoiling (completes : step.Completes build)
    (poisoned : step.after.registry.poisoned = true) :
    step.before.registry.poisoned = true ∨ step.action.Exclusive ∧
      step.before.initialized = true ∧ step.outcome = .error (.panic .logger) := by
  obtain ⟨action, before, outcome, after⟩ := step
  cases action with
  | call request =>
    obtain ⟨rfl, rfl⟩ := completes.called
    change (request.plan before).outcome.2.registry.poisoned = true at poisoned
    rw [Plan.registry_outcome] at poisoned
    split at poisoned
    · rename_i spoils
      obtain ⟨exclusive, ready⟩ := Call.exclusive_of_spoils spoils
      exact .inr ⟨exclusive, ready, Plan.outcome_of_spoils spoils⟩
    · rw [request.poisoned_left] at poisoned
      exact .inl poisoned
  | use handle operation discreet =>
    rcases completes.used with ⟨-, -, rfl⟩ | ⟨cache, ended, left, -, -, -, rfl⟩ <;>
      exact .inl poisoned

/-- Behind a poisoned lock the registration stays as it is. -/
theorem Step.registry_kept (completes : step.Completes build)
    (poisoned : step.before.registry.poisoned = true) :
    step.after.registry = step.before.registry := by
  obtain ⟨action, before, outcome, after⟩ := step
  cases action with
  | call request =>
    obtain ⟨-, rfl⟩ := completes.called
    change (request.plan before).outcome.2.registry = before.registry
    rw [Plan.registry_outcome, request.registry_of_poisoned poisoned,
      Guarded.poison_of_poisoned poisoned, ite_self]
  | use handle operation discreet =>
    rcases completes.used with ⟨-, -, rfl⟩ | ⟨cache, ended, left, -, -, -, rfl⟩ <;> rfl

/-! ## Runs -/

variable {session : Session δ} {steps : List (Step δ)} {engine : Engine δ} {first : Logger}

theorem Run.logger (run : Run build session steps engine)
    (unlocked : session.journal.logger = { value := first }) :
    engine.session.journal.logger = { value := loggerAfter first steps } := by
  induction run with
  | nil => exact unlocked
  | cons run owned completes ih => exact Step.logger completes ih

/-- Only an engine that was made ready can have a poisoned lock. -/
theorem Run.ready_of_poisoned (run : Run build session steps engine)
    (poisoned : engine.registry.poisoned = true) : engine.initialized = true := by
  induction run with
  | nil => contradiction
  | cons run owned completes ih =>
    rcases Step.spoiling completes poisoned with before | ⟨-, ready, -⟩
    · exact Step.initialized completes (ih before)
    · exact Step.initialized completes ready

/-- A poisoned lock is never opened again, and keeps the registration as it was. -/
theorem Run.registry_stays {later earlier : List (Step δ)}
    (run : Run build session (later ++ step :: earlier) engine)
    (poisoned : step.after.registry.poisoned = true) : engine.registry = step.after.registry := by
  refine run.since (·.registry = step.after.registry) rfl fun next completes same => ?_
  rw [← same] at poisoned
  rw [Step.registry_kept completes poisoned, same]

/-- What a call comes to that needs the registration behind the poisoned lock: the lock is reported
    and, unless the logger fails on that, the call is refused. -/
structure LockedOut (act : Act (Engine δ) α) (engine : Engine δ) : Prop where
  ended : (act.outcome engine).1 =
    if engine.session.journal.rings (refusalEntry lockPoisoned) then .error (.panic .logger)
    else .error (.fault lockPoisoned)
  registry : (act.outcome engine).2.registry = engine.registry
  caches : (act.outcome engine).2.caches = engine.caches

omit [Backend δ] in
theorem lockedOut_of_plan {act : Act (Engine δ) α} (exclusive : Bool)
    (planned : act.outcome engine = (engine.refusing lockPoisoned exclusive).outcome)
    (poisoned : engine.registry.poisoned = true) : LockedOut act engine := by
  refine ⟨?_, ?_, ?_⟩
  · rw [planned, outcome_refusing, Journal.heeded_error, Journal.alarmed_singleton]
    split <;> rfl
  · rw [planned, Plan.registry_outcome]
    change (if _ then engine.registry.poison else engine.registry) = engine.registry
    rw [Guarded.poison_of_poisoned poisoned, ite_self]
  · rw [planned, Plan.caches_outcome]
    rfl

/-- What a logger that may fail on any entry can do to an engine, `first` being the logger at the
    start. -/
structure Contained (first : Logger) (steps : List (Step δ)) (engine : Engine δ) : Prop where
  /-- The logger put in charge last is in charge, behind an open lock. -/
  inCharge : engine.session.journal.logger = { value := loggerAfter first steps }
  /-- It can be replaced, which changes nothing else. -/
  replaced : ∀ logger, (Call.setLogger logger).act.outcome engine =
    (.ok (), { engine with
      session := { engine.session with
        journal := { engine.session.journal with logger := { value := logger } } } })
  /-- It receives an entry before it can fail on it. -/
  received : ∀ alarm, loggerAfter first steps = .keeper alarm →
    ∀ entry, (Call.write entry).act.outcome engine =
      (if alarm engine.session.journal.kept entry then .error (.panic .logger) else .ok (),
        { engine with
          session := { engine.session with
            journal := { engine.session.journal with
              kept := engine.session.journal.kept ++ [entry] } } })
  /-- In every step it was told of everything. -/
  told : ∀ step ∈ steps, step.action.Tells step.before step.after.session.journal
  /-- The lock of the registration was poisoned by no other failures. -/
  spoiling : ∀ step ∈ steps, step.after.registry.poisoned = true →
    step.before.registry.poisoned = true ∨ step.action.Exclusive ∧
      step.before.initialized = true ∧ step.outcome = .error (.panic .logger)
  /-- Once poisoned, it stays so, and the registration with it. -/
  stays : ∀ later step earlier, steps = later ++ step :: earlier →
    step.after.registry.poisoned = true → engine.registry = step.after.registry
  createCache : engine.registry.poisoned = true →
    ∀ budget, LockedOut (Engine.createCache budget) engine
  acquireCache : engine.registry.poisoned = true → LockedOut Engine.acquireCache engine
  destroyCache : engine.registry.poisoned = true → LockedOut Engine.destroyCache engine
  shutDown : engine.registry.poisoned = true →
    (Engine.shutDown.outcome engine).2.registry = engine.registry ∧
      (Engine.shutDown.outcome engine).2.caches = engine.caches

/-- A failing logger does not reach beyond the call that it fails in, but for a poisoned
    registration, which is then refused for good. -/
theorem panics_contained (run : Run build session steps engine)
    (unlocked : session.journal.logger = { value := first }) : engine.Contained first steps := by
  have inCharge := run.logger unlocked
  have locked (poisoned : engine.registry.poisoned = true) :
      engine.lookUp = .error lockPoisoned :=
    lookUp_of_poisoned (run.ready_of_poisoned poisoned) (Guarded.open?_eq_none.mpr poisoned)
  refine ⟨inCharge, fun logger => ?_, fun alarm keeps entry => ?_,
    fun step member => Step.tells (run.completes member),
    fun step member => Step.spoiling (run.completes member),
    fun later step earlier split => (split ▸ run).registry_stays, fun poisoned budget => ?_,
    fun poisoned => ?_, fun poisoned => ?_, fun poisoned => ?_⟩
  · rw [Call.outcome_act, Plan.outcome_of_lossless rfl]
    change (_, { engine with session := { engine.session with
      journal := engine.session.journal.charged logger } }) = _
    rw [Journal.charged, inCharge]
    rfl
  · rw [keeps] at inCharge
    obtain ⟨noted, rings⟩ := Journal.note_of_keeper inCharge entry
    rw [Call.outcome_act, Plan.outcome_of_lossless rfl]
    change (engine.session.journal.heeded [entry] (.ok ()), { engine with
      session := { engine.session with journal := engine.session.journal.note entry } }) = _
    rw [Journal.heeded, Journal.alarmed_singleton, noted, rings]
  · refine lockedOut_of_plan engine.initialized ?_ poisoned
    rw [createCache_outcome, createPlan, locked poisoned]
  · refine lockedOut_of_plan false ?_ poisoned
    rw [acquireCache_outcome, acquirePlan, locked poisoned]
  · refine lockedOut_of_plan engine.initialized ?_ poisoned
    rw [destroyCache_outcome, destroyPlan, locked poisoned]
  · have untouched : engine.shutDownPlan.left = engine := Call.left_of_poisoned
      (show (Call.shutDown : Call δ Unit).Consults from trivial) poisoned
    rw [shutDown_outcome, Plan.registry_outcome, Plan.caches_outcome, untouched,
      Guarded.poison_of_poisoned poisoned, ite_self]
    exact ⟨rfl, rfl⟩

/-- A logger that fails on the report of a new cache leaves the cache registered behind a poisoned
    lock. -/
theorem registration_poisoned_by_report :
    let fussy : Logger := .keeper fun _ entry => entry.severity = .info
    let session : Session Software := { Session.software none with journal := .ofLogger fussy }
    ∃ (steps : List (Step Software)) (engine : Engine Software),
      Run .release session steps engine ∧
        engine.registry = { value := some ⟨0⟩, poisoned := true } ∧
        (Engine.acquireCache.outcome engine).1 = .error (.fault lockPoisoned) ∧
        engine.Contained fussy steps := by
  intro fussy session
  have start : Run .release session [] { session } := .nil
  have ready := start.next (.call .setUp) (.ok ()) nofun rfl
  have run := ready.next (.call (.createCache {})) (.error (.panic .logger)) nofun
    (by decide +kernel)
  exact ⟨_, _, run, by decide +kernel, by decide +kernel, panics_contained run rfl⟩

end Engine

end RenderCore
