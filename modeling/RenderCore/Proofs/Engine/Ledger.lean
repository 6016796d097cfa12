import RenderCore.Proofs.Engine.PanicContainment
import RenderCore.Proofs.Engine.Owners
import RenderCore.Proofs.Stencil.Progress

/-!
# The ledger of the engine

The `Ledger` tells what a program has done to the engine: whether it was ever made ready, which
cache was registered last and is not withdrawn, and what the work through any of its handles has
left of each cache. It is kept by the actions and their outcomes alone. With loggers that never fail
the engine follows the ledger.
-/

namespace RenderCore

/-! ## Loggers that never fail -/

/-- The logger fails on no entry. -/
def Logger.Calm : Logger → Prop
  | .console _ => True
  | .keeper alarm => ∀ kept entry, alarm kept entry = false

namespace Journal

variable {journal : Journal}

theorem reliable_of_calm {logger : Logger} (inCharge : journal.logger = { value := logger })
    (calm : logger.Calm) : journal.Reliable := by
  intro alarm opened
  rw [inCharge] at opened
  cases Option.some.inj opened
  exact calm

end Journal

/-- What leaves the journal alone leaves it reliable. -/
theorem Operation.harmless_of_discreet {δ α : Type} {operation : Operation δ α}
    (discreet : operation.Discreet) : operation.Harmless := by
  cases operation with
  | elsewhere change =>
    intro session reliable
    unfold Session.Reliable
    rw [discreet]
    exact reliable
  | _ => trivial

namespace Engine

variable {δ α : Type}

/-! ## The ledger -/

/-- What the steps of a program say about the engine. -/
structure Ledger where
  /-- Whether the engine was made ready. -/
  ready : Bool := false
  registered : Option CacheHandle := none
  /-- Number of caches made. -/
  made : Nat := 0
  /-- What the work on it has left of a cache. -/
  contents : CacheHandle → Option StencilCache := fun _ => none

namespace Ledger

/-- A new cache is registered. -/
def opened (ledger : Ledger) (budget : CacheBudget) : Ledger :=
  { ledger with
    registered := some ⟨ledger.made⟩
    made := ledger.made + 1
    contents := fun handle =>
      if handle = ⟨ledger.made⟩ then some { budget } else ledger.contents handle }

/-- A cache was changed. -/
def edited (ledger : Ledger) (handle : CacheHandle) (change : StencilCache → StencilCache) :
    Ledger :=
  { ledger with
    contents := fun other =>
      if other = handle then (ledger.contents handle).map change else ledger.contents other }

/-- No cache is registered any more. -/
def withdrawn (ledger : Ledger) : Ledger := { ledger with registered := none }

/-- The registered cache has lost its buffers. -/
def emptied (ledger : Ledger) : Ledger :=
  match ledger.registered with
  | some handle => ledger.edited handle StencilCache.abandonAll
  | none => ledger

theorem edited_id (ledger : Ledger) (handle : CacheHandle) : ledger.edited handle id = ledger := by
  have same : (fun other => if other = handle then (ledger.contents handle).map id
      else ledger.contents other) = ledger.contents := by
    funext other
    split
    · rename_i equal
      rw [equal, Option.map_id, id]
    · rfl
  unfold edited
  rw [same]

theorem emptied_withdrawn_of_vacant {ledger : Ledger} (vacant : ledger.registered = none) :
    ledger.emptied.withdrawn = ledger := by
  obtain ⟨ready, registered, made, contents⟩ := ledger
  cases vacant
  rfl

theorem contents_emptied_of_registered {ledger : Ledger} {handle : CacheHandle}
    (registered : ledger.registered = some handle) :
    ledger.emptied.contents handle = (ledger.contents handle).map StencilCache.abandonAll := by
  unfold emptied
  rw [registered]
  exact if_pos rfl

theorem contents_emptied_of_ne {ledger : Ledger} {handle : CacheHandle}
    (apart : ledger.registered ≠ some handle) :
    ledger.emptied.contents handle = ledger.contents handle := by
  unfold emptied
  split
  · rename_i other registered
    refine if_neg fun same => apart ?_
    rw [same, registered]
  · rfl

end Ledger

/-! ## The engine follows the ledger -/

/-- The engine is as the ledger says, its session apart. -/
structure Follows (engine : Engine δ) (ledger : Ledger) : Prop where
  ready : engine.initialized = ledger.ready
  registry : engine.registry = { value := ledger.registered }
  made : engine.nextHandle = ⟨ledger.made⟩
  /-- Only an engine made ready has a cache registered. -/
  used : ∀ handle, ledger.registered = some handle → ledger.ready = true
  /-- It is the one that was made last. -/
  latest : ∀ handle, ledger.registered = some handle → ledger.made = handle.number + 1
  /-- No cache that is still there is behind a poisoned lock. -/
  shows : ∀ handle shared, engine.shared? handle = some shared →
    ∃ cache, shared.cache = { value := cache } ∧ ledger.contents handle = some cache

namespace Follows

variable {engine : Engine δ} {ledger : Ledger} {handle : CacheHandle}

theorem start (session : Session δ) : ({ session } : Engine δ).Follows {} :=
  ⟨rfl, rfl, rfl, nofun, nofun, nofun⟩

theorem of_same {other : Engine δ} (follows : engine.Follows ledger)
    (initialized : other.initialized = engine.initialized)
    (registry : other.registry = engine.registry) (caches : other.caches = engine.caches) :
    other.Follows ledger := by
  refine ⟨initialized.trans follows.ready, registry.trans follows.registry, ?_, follows.used,
    follows.latest, ?_⟩
  · rw [nextHandle, caches]
    exact follows.made
  · intro handle shared live
    rw [shared?, caches] at live
    exact follows.shows handle shared live

theorem changed (follows : engine.Follows ledger) {change : SharedCache → Option SharedCache}
    (edit : StencilCache → StencilCache)
    (edits : ∀ shared shared' cache, engine.shared? handle = some shared →
      shared.cache = { value := cache } → change shared = some shared' →
        shared'.cache = { value := edit cache }) :
    (engine.changed handle change).Follows (ledger.edited handle edit) := by
  refine ⟨follows.ready, follows.registry, ?_, follows.used, follows.latest, ?_⟩
  · rw [nextHandle, Engine.changed, List.length_modify]
    exact follows.made
  · intro other shared' live
    rw [shared?_changed] at live
    by_cases same : other = handle
    · rw [if_pos same] at live
      obtain ⟨shared, before, left⟩ := Option.bind_eq_some_iff.mp live
      obtain ⟨cache, unlocked, contents⟩ := follows.shows handle shared before
      refine ⟨edit cache, edits shared shared' cache before unlocked left, ?_⟩
      change (if other = handle then (ledger.contents handle).map edit else _) = _
      rw [if_pos same, contents]
      rfl
    · rw [if_neg same] at live
      obtain ⟨cache, unlocked, contents⟩ := follows.shows other shared' live
      exact ⟨cache, unlocked, (if_neg same).trans contents⟩

/-- Owners come and go, but the cache stays the same. -/
theorem kept (follows : engine.Follows ledger) {change : SharedCache → Option SharedCache}
    (same : ∀ shared shared', change shared = some shared' → shared'.cache = shared.cache) :
    (engine.changed handle change).Follows ledger := by
  have edited : (engine.changed handle change).Follows (ledger.edited handle id) :=
    follows.changed id fun shared shared' cache _ unlocked left =>
      (same shared shared' left).trans unlocked
  rw [ledger.edited_id] at edited
  exact edited

theorem retained (follows : engine.Follows ledger) : (engine.retained handle).Follows ledger :=
  follows.kept fun shared shared' left => by
    rw [← Option.some.inj left]
    rfl

theorem released (follows : engine.Follows ledger) : (engine.released handle).Follows ledger :=
  follows.kept fun _ _ left => SharedCache.cache_of_released left

theorem unregistered (follows : engine.Follows ledger) :
    (engine.registering none).Follows ledger.withdrawn := by
  refine ⟨follows.ready, ?_, follows.made, nofun, nofun, follows.shows⟩
  rw [registering, follows.registry]
  rfl

/-- A cache that is not registered any more is left to its other owners, or goes away. -/
theorem withdrawn (follows : engine.Follows ledger) :
    ((engine.withdrawn handle).released handle).Follows ledger.withdrawn := by
  rw [Engine.withdrawn, Engine.released, changed_changed]
  refine follows.unregistered.kept fun shared shared' left => ?_
  change shared.forsaken.released = some shared' at left
  rw [SharedCache.cache_of_released left]
  -- A cache that was emptied had one owner only, and is not there any more.
  have several : shared.owners ≠ 1 := fun single => by
    rw [SharedCache.released, SharedCache.owners_forsaken, if_pos (Nat.le_of_eq single)] at left
    contradiction
  rw [SharedCache.forsaken, if_neg several]

theorem abandoned (follows : engine.Follows ledger) (registered : ledger.registered = some handle) :
    ((engine.abandoned handle).released handle).Follows ledger.emptied.withdrawn := by
  have edited : (engine.abandoned handle).Follows
      (ledger.withdrawn.edited handle StencilCache.abandonAll) := by
    refine follows.unregistered.changed _ fun shared shared' cache _ unlocked left => ?_
    rw [← Option.some.inj left, SharedCache.abandoned, unlocked]
    rfl
  have same : ledger.emptied.withdrawn =
      ledger.withdrawn.edited handle StencilCache.abandonAll := by
    unfold Ledger.emptied
    rw [registered]
    rfl
  rw [same]
  exact edited.released

theorem created (follows : engine.Follows ledger) (ready : engine.initialized = true)
    (budget : CacheBudget) : (engine.created budget).Follows (ledger.opened budget) := by
  refine ⟨follows.ready, ?_, ?_, fun _ _ => follows.ready ▸ ready, ?_, ?_⟩
  · rw [Engine.created, follows.registry, follows.made]
    rfl
  · have next := congrArg CacheHandle.number follows.made
    change engine.caches.length = ledger.made at next
    rw [nextHandle, Engine.created, List.length_append, next]
    rfl
  · intro handle registered
    rw [← Option.some.inj registered]
    rfl
  · intro handle shared live
    rw [shared?_created, follows.made] at live
    change ∃ cache, _ ∧ (if handle = ⟨ledger.made⟩ then _ else _) = _
    split at live
    · rename_i new
      rw [if_pos new, ← Option.some.inj live]
      exact ⟨{ budget }, rfl, rfl⟩
    · rename_i old
      rw [if_neg old]
      exact follows.shows handle shared live

theorem opened (follows : engine.Follows ledger) :
    engine.registry.open? = some ledger.registered := by
  rw [follows.registry]
  rfl

theorem lookUp (follows : engine.Follows ledger) :
    engine.lookUp = if ledger.ready then .ok ledger.registered else .error notReady := by
  rw [Engine.lookUp, follows.ready, follows.registry]
  rfl

/-- What is found behind the handle of a cache that is still there. -/
theorem view (follows : engine.Follows ledger) {shared : SharedCache}
    (live : engine.shared? handle = some shared) :
    ∃ cache, ledger.contents handle = some cache ∧ engine.view handle = some cache := by
  obtain ⟨cache, unlocked, contents⟩ := follows.shows handle shared live
  refine ⟨cache, contents, ?_⟩
  rw [Engine.view, live, Option.bind_some, unlocked]
  rfl

/-! Nothing is lost with the end of a registration. -/

theorem lossesAt_abandoned (follows : engine.Follows ledger) (handle : CacheHandle) :
    (engine.abandoned handle).lossesAt handle = [] := by
  unfold lossesAt
  rw [Engine.abandoned, shared?_changed, if_pos rfl]
  change ((engine.shared? handle).bind _).elim [] SharedCache.losses = []
  cases live : engine.shared? handle with
  | none => rfl
  | some shared =>
    obtain ⟨cache, unlocked, -⟩ := follows.shows handle shared live
    exact SharedCache.losses_abandoned unlocked

theorem lossesAt_withdrawn (follows : engine.Follows ledger) {held : List CacheHandle}
    (accounted : engine.Accounted held) (registered : ledger.registered = some handle) :
    (engine.withdrawn handle).lossesAt handle = [] := by
  have owned : engine.registry.value = some handle := by rw [follows.registry, registered]
  obtain ⟨shared, live⟩ := accounted.live_of_registered owned
  have owners := accounted.counted handle
  rw [owners_of_some live, if_pos owned] at owners
  unfold lossesAt
  rw [Engine.withdrawn, shared?_changed, if_pos rfl]
  change ((engine.shared? handle).bind _).elim [] SharedCache.losses = []
  rw [live]
  change shared.forsaken.losses = []
  by_cases alone : shared.owners = 1
  · obtain ⟨cache, unlocked, -⟩ := follows.shows handle shared live
    rw [SharedCache.forsaken, if_pos alone]
    exact SharedCache.losses_abandoned unlocked
  · rw [SharedCache.forsaken, if_neg alone]
    exact if_neg (by omega)

end Follows

/-! ## Calls -/

variable {engine : Engine δ}

/-- What a plan comes to if no logger fails. -/
theorem Plan.outcome_of_calm {plan : Plan δ α}
    (calm : plan.left.session.journal.alarmed (plan.losses ++ plan.report) = false) :
    plan.outcome = (plan.answer.mapError .fault, plan.left.noted (plan.losses ++ plan.report)) := by
  have each := calm
  rw [Journal.alarmed_append, Bool.or_eq_false_iff] at each
  unfold outcome spoils entries Journal.heeded
  rw [calm, each.1, each.2, Bool.and_false]
  rfl

theorem Call.outcome_of_reliable (request : Call δ α) (reliable : engine.session.Reliable) :
    request.act.outcome engine = ((request.plan engine).answer.mapError .fault,
      (request.plan engine).left.noted
        ((request.plan engine).losses ++ (request.plan engine).report)) := by
  rw [request.outcome_act]
  apply Plan.outcome_of_calm
  have journal := request.journal_left engine
  cases request with
  | setLogger logger => rfl
  | _ =>
    rw [journal]
    exact Journal.Reliable.alarmed reliable _

/-- A call is refused by reporting the fault. -/
theorem Call.plan_of_error {request : Call δ α} {fault : Fault}
    (refused : (request.plan engine).answer = .error fault) :
    ∃ exclusive, request.plan engine = engine.refusing fault exclusive := by
  cases request with
  | shutDown =>
    change engine.shutDownPlan.answer = _ at refused
    unfold shutDownPlan at refused
    split at refused
    · split at refused <;> contradiction
    · contradiction
  | createCache budget =>
    change (engine.createPlan budget).answer = _ at refused
    change ∃ exclusive, engine.createPlan budget = _
    unfold createPlan at refused ⊢
    rcases found : engine.lookUp with other | _ | handle <;> rw [found] at refused <;>
      cases refused <;> exact ⟨_, rfl⟩
  | acquireCache =>
    change engine.acquirePlan.answer = _ at refused
    change ∃ exclusive, engine.acquirePlan = _
    unfold acquirePlan at refused ⊢
    rcases found : engine.lookUp with other | _ | handle <;> rw [found] at refused <;>
      cases refused <;> exact ⟨_, rfl⟩
  | destroyCache =>
    change engine.destroyPlan.answer = _ at refused
    change ∃ exclusive, engine.destroyPlan = _
    unfold destroyPlan at refused ⊢
    rcases found : engine.lookUp with other | _ | handle <;> rw [found] at refused <;>
      cases refused
    exact ⟨_, rfl⟩
  | _ => contradiction

/-- No logger that is put in charge ever fails. -/
def Calm : List (Step δ) → Prop
  | [] => True
  | step :: steps =>
    (∀ logger, step.action.logger? = some logger → logger.Calm) ∧ Calm steps

theorem calm_loggerAfter {first : Logger} (start : first.Calm) {steps : List (Step δ)}
    (calm : Calm steps) : (loggerAfter first steps).Calm := by
  induction steps with
  | nil => exact start
  | cons step steps ih =>
    rw [loggerAfter]
    cases charged : step.action.logger? with
    | none => exact ih calm.2
    | some logger => exact calm.1 logger charged

/-! ## Keeping the ledger -/

/-- The action makes the engine ready. -/
def Action.SetsUp : Action δ α → Prop
  | .call .setUp => True
  | _ => False

variable [Backend δ]

/-- The ledger after an action, by the session that it was begun in and its outcome. -/
def Action.record : Action δ α → Session δ → Except Stop α → Ledger → Ledger
  | .call .setUp, _, _, ledger => { ledger with ready := true }
  | .call .shutDown, _, _, ledger => ledger.emptied.withdrawn
  | .call (.createCache budget), _, .ok (), ledger => ledger.opened budget
  | .call .destroyCache, _, .ok (), ledger => ledger.withdrawn
  | .use handle operation _, session, _, ledger =>
    ledger.edited handle fun cache => ((operation.act .release).outcome ⟨cache, session⟩).2.cache
  | _, _, _, ledger => ledger

/-- The ledger after some steps, last step first. -/
def ledger : List (Step δ) → Ledger
  | [] => {}
  | step :: steps => step.action.record step.before.session step.outcome (ledger steps)

theorem Action.ready_record (action : Action δ α) (session : Session δ) (outcome : Except Stop α)
    (ledger : Ledger) :
    (action.record session outcome ledger).ready = true ↔
      action.SetsUp ∨ ledger.ready = true := by
  have kept : ledger.ready = true ↔ False ∨ ledger.ready = true := by rw [false_or]
  cases action with
  | call request =>
    cases request with
    | setUp => exact ⟨fun _ => .inl trivial, fun _ => rfl⟩
    | shutDown =>
      have same : ledger.emptied.ready = ledger.ready := by
        unfold Ledger.emptied
        split <;> rfl
      exact same ▸ kept
    | createCache budget => cases outcome <;> exact kept
    | destroyCache => cases outcome <;> exact kept
    | _ => exact kept
  | use handle operation discreet => exact kept

/-- The engine is ready in the ledger if it was ever made ready. -/
theorem ready_ledger_iff (steps : List (Step δ)) :
    (ledger steps).ready = true ↔ ∃ step ∈ steps, step.action.SetsUp := by
  induction steps with
  | nil => simp [ledger]
  | cons step steps ih =>
    change (step.action.record _ _ (ledger steps)).ready = true ↔ _
    rw [Action.ready_record, ih]
    simp

variable {ledger : Ledger}

theorem Call.follows (request : Call δ α) (follows : engine.Follows ledger) :
    (request.plan engine).left.Follows ((Action.call request).record engine.session
      ((request.plan engine).answer.mapError .fault) ledger) := by
  cases request with
  | setUp =>
    exact ⟨rfl, follows.registry, follows.made, fun _ _ => rfl, follows.latest, follows.shows⟩
  | shutDown =>
    change engine.shutDownPlan.left.Follows ledger.emptied.withdrawn
    unfold shutDownPlan
    rw [follows.ready, follows.opened]
    cases registered : ledger.registered with
    | none =>
      rw [Ledger.emptied_withdrawn_of_vacant registered]
      split <;> exact follows
    | some handle =>
      rw [if_pos (follows.used handle registered)]
      exact follows.abandoned registered
  | createCache budget =>
    change (engine.createPlan budget).left.Follows (Action.record (.call (.createCache budget)) _
      ((engine.createPlan budget).answer.mapError .fault) ledger)
    unfold createPlan
    rcases found : engine.lookUp with fault | _ | handle
    · exact follows
    · exact follows.created (lookUp_eq_ok found).1 budget
    · exact follows
  | acquireCache =>
    change engine.acquirePlan.left.Follows ledger
    unfold acquirePlan
    rcases found : engine.lookUp with fault | _ | handle
    · exact follows
    · exact follows
    · exact follows.retained
  | destroyCache =>
    change engine.destroyPlan.left.Follows (Action.record (.call .destroyCache) _
      (engine.destroyPlan.answer.mapError .fault) ledger)
    unfold destroyPlan
    rcases found : engine.lookUp with fault | _ | handle
    · exact follows
    · exact ⟨follows.ready, (lookUp_eq_ok found).2, follows.made, nofun, nofun, follows.shows⟩
    · exact follows.withdrawn
  | share handle => exact follows.retained
  | drop handle => exact follows.released
  | setLogger logger => exact follows.of_same rfl rfl rfl
  | write entry => exact follows
  | elsewhere change apart => exact follows.of_same rfl rfl rfl

/-! ## Steps and runs -/

/-- Without failing loggers a call answers as planned. -/
theorem Step.Completes.answered {request : Call δ α} {before after : Engine δ}
    {outcome : Except Stop α}
    (completes : (⟨.call request, before, outcome, after⟩ : Step δ).Completes .release)
    (reliable : before.session.Reliable) :
    outcome = (request.plan before).answer.mapError .fault ∧
      after = (request.plan before).left.noted
        ((request.plan before).losses ++ (request.plan before).report) :=
  Prod.ext_iff.mp (completes.symm.trans (request.outcome_of_reliable reliable))

theorem Step.follows {step : Step δ} (backend : Backend.Steady δ)
    (completes : step.Completes .release) (reliable : step.before.session.Reliable)
    (follows : step.before.Follows ledger) :
    step.after.Follows (step.action.record step.before.session step.outcome ledger) := by
  obtain ⟨action, before, outcome, after⟩ := step
  cases action with
  | call request =>
    obtain ⟨rfl, rfl⟩ := completes.answered reliable
    exact (request.follows follows).of_same rfl rfl rfl
  | @use β handle operation discreet =>
    rcases completes.used with ⟨locked, -, rfl⟩ | ⟨cache, ended, left, seen, ran, -, rfl⟩
    · -- Behind an open lock the cache would be seen, so it is not there at all.
      have gone : after.shared? handle = none := by
        rw [← Option.not_isSome_iff_eq_none]
        intro live
        obtain ⟨shared, live⟩ := Option.isSome_iff_exists.mp live
        obtain ⟨cache, -, seen⟩ := follows.view live
        rw [locked] at seen
        contradiction
      have idle : (after.changed handle some).Follows (ledger.edited handle fun cache =>
          ((operation.act .release).outcome ⟨cache, after.session⟩).2.cache) :=
        follows.changed _ fun shared _ _ live => nomatch gone.symm.trans live
      rw [changed_of_none gone] at idle
      exact idle
    · have calm : panicked ended = false := by
        have steady := operation.steady backend (Operation.harmless_of_discreet discreet)
          ⟨cache, before.session⟩ reliable
        rw [Act.ends_iff_outcome, ran] at steady
        rcases ended with (fault | panic) | answer
        · rfl
        · exact steady.elim
        · rfl
      rw [calm]
      have worked : (before.changed handle fun shared =>
          some { shared with cache := { value := left.cache } }).Follows
            (ledger.edited handle fun cache =>
              ((operation.act .release).outcome ⟨cache, before.session⟩).2.cache) := by
        refine follows.changed _ fun shared shared' found live unlocked kept => ?_
        have same : found = cache := by
          rw [Engine.view, live, Option.bind_some, unlocked] at seen
          exact Option.some.inj seen
        rw [← Option.some.inj kept, same, ran]
      exact worked.of_same rfl rfl rfl

variable {session : Session δ} {steps : List (Step δ)} {first : Logger}

theorem Run.reliable (run : Run .release session steps engine)
    (unlocked : session.journal.logger = { value := first }) (start : first.Calm)
    (calm : Calm steps) : engine.session.Reliable :=
  Journal.reliable_of_calm (run.logger unlocked) (calm_loggerAfter start calm)

theorem Run.follows (backend : Backend.Steady δ) (run : Run .release session steps engine)
    (unlocked : session.journal.logger = { value := first }) (start : first.Calm)
    (calm : Calm steps) : engine.Follows (Engine.ledger steps) := by
  induction run with
  | nil => exact .start session
  | cons run owned completes ih =>
    exact Step.follows backend completes (run.reliable unlocked start calm.2) (ih calm.2)

end Engine

end RenderCore
