import RenderCore.Proofs.Engine.Runs

/-!
# Owners of caches

The owners that are counted for a cache are the handles that the program holds and the
registration. So a cache is there exactly as long as it is registered or a handle to it is held.
-/

namespace RenderCore

namespace Engine

variable {δ α : Type}

/-- Number of owners of the cache of a handle; none of a cache that is gone. -/
def owners (engine : Engine δ) (handle : CacheHandle) : Nat :=
  (engine.shared? handle).elim 0 (·.owners)

/-- The owners counted are the handles held and the registration. -/
structure Accounted (engine : Engine δ) (held : List CacheHandle) : Prop where
  counted : ∀ handle, engine.owners handle =
    held.count handle + if engine.registry.value = some handle then 1 else 0
  /-- A cache without owners is not kept. -/
  gone : ∀ handle, engine.owners handle = 0 → engine.shared? handle = none

variable {engine : Engine δ} {held : List CacheHandle} {handle : CacheHandle}

theorem owners_of_none (gone : engine.shared? handle = none) : engine.owners handle = 0 := by
  rw [owners, gone]
  rfl

theorem owners_of_some {shared : SharedCache} (live : engine.shared? handle = some shared) :
    engine.owners handle = shared.owners := by
  rw [owners, live]
  rfl

theorem owners_changed (engine : Engine δ) (handle other : CacheHandle)
    (change : SharedCache → Option SharedCache) :
    (engine.changed handle change).owners other =
      if other = handle then ((engine.shared? handle).bind change).elim 0 (·.owners)
      else engine.owners other := by
  unfold owners
  rw [shared?_changed]
  split <;> rfl

theorem owners_changed_of_same {change : SharedCache → SharedCache}
    (same : ∀ shared, (change shared).owners = shared.owners) (other : CacheHandle) :
    (engine.changed handle fun shared => some (change shared)).owners other =
      engine.owners other := by
  rw [owners_changed]
  split
  · rename_i equal
    rw [equal, owners]
    cases engine.shared? handle with
    | none => rfl
    | some shared => exact same shared
  · rfl

theorem owners_released (engine : Engine δ) (handle other : CacheHandle) :
    (engine.released handle).owners other =
      if other = handle then engine.owners handle - 1 else engine.owners other := by
  rw [released, owners_changed]
  congr 1
  cases live : engine.shared? handle with
  | none => rw [owners_of_none live]; rfl
  | some shared =>
    rw [owners_of_some live, Option.bind_some, SharedCache.released]
    split
    · simp only [Option.elim]
      omega
    · rfl

theorem owners_retained {shared : SharedCache} (live : engine.shared? handle = some shared)
    (other : CacheHandle) :
    (engine.retained handle).owners other =
      if other = handle then engine.owners handle + 1 else engine.owners other := by
  rw [retained, owners_changed, live, owners_of_some live]
  rfl

/-- There is no cache yet under the next handle. -/
theorem shared?_nextHandle (engine : Engine δ) : engine.shared? engine.nextHandle = none := by
  rw [shared?, nextHandle, List.getElem?_eq_none (Nat.le_refl _)]
  rfl

theorem shared?_created (engine : Engine δ) (budget : CacheBudget) (other : CacheHandle) :
    (engine.created budget).shared? other =
      if other = engine.nextHandle then some { cache := { value := { budget } }, owners := 1 }
      else engine.shared? other := by
  unfold shared? created nextHandle
  dsimp only
  rw [List.getElem?_append]
  split
  · rename_i old
    rw [if_neg]
    intro same
    rw [same] at old
    exact Nat.lt_irrefl _ old
  · rename_i new
    by_cases same : other = ⟨engine.caches.length⟩
    · rw [if_pos same, same]
      simp
    · rw [if_neg same, List.getElem?_eq_none (Nat.not_lt.mp new), List.getElem?_eq_none]
      have apart : other.number ≠ engine.caches.length := fun equal =>
        same (congrArg CacheHandle.mk equal)
      rw [List.length_singleton]
      omega

/-! A cache without owners is not kept. -/

theorem gone_changed {change : SharedCache → SharedCache}
    (gone : ∀ other, engine.owners other = 0 → engine.shared? other = none)
    (same : ∀ shared, (change shared).owners = shared.owners) (other : CacheHandle)
    (unowned : (engine.changed handle fun shared => some (change shared)).owners other = 0) :
    (engine.changed handle fun shared => some (change shared)).shared? other = none := by
  rw [owners_changed_of_same same] at unowned
  rw [shared?_changed]
  split
  · rename_i equal
    rw [← equal, gone other unowned]
    rfl
  · exact gone other unowned

theorem gone_released (gone : ∀ other, engine.owners other = 0 → engine.shared? other = none)
    (other : CacheHandle) (unowned : (engine.released handle).owners other = 0) :
    (engine.released handle).shared? other = none := by
  rw [owners_released] at unowned
  rw [released, shared?_changed]
  by_cases same : other = handle
  · rw [if_pos same] at unowned ⊢
    cases live : engine.shared? handle with
    | none => rfl
    | some shared =>
      rw [owners_of_some live] at unowned
      rw [Option.bind_some, SharedCache.released, if_pos (Nat.sub_eq_zero_iff_le.mp unowned)]
  · rw [if_neg same] at unowned ⊢
    exact gone other unowned

namespace Accounted

theorem of_same {other : Engine δ} (accounted : engine.Accounted held)
    (caches : other.caches = engine.caches)
    (registered : other.registry.value = engine.registry.value) : other.Accounted held := by
  have same (handle : CacheHandle) : other.shared? handle = engine.shared? handle := by
    rw [shared?, shared?, caches]
  constructor
  · intro handle
    rw [owners, same, registered]
    exact accounted.counted handle
  · intro handle unowned
    rw [same]
    rw [owners, same] at unowned
    exact accounted.gone handle unowned

theorem start (session : Session δ) : ({ session } : Engine δ).Accounted [] :=
  ⟨fun _ => rfl, fun _ _ => rfl⟩

theorem live_of_owners (owned : 0 < engine.owners handle) :
    ∃ shared, engine.shared? handle = some shared := by
  cases live : engine.shared? handle with
  | none =>
    rw [owners_of_none live] at owned
    contradiction
  | some shared => exact ⟨shared, rfl⟩

/-- A handle that is held has its cache. -/
theorem live_of_held (accounted : engine.Accounted held) (member : handle ∈ held) :
    ∃ shared, engine.shared? handle = some shared := by
  apply live_of_owners
  rw [accounted.counted]
  exact Nat.add_pos_left (List.count_pos_iff.mpr member) _

theorem live_of_registered (accounted : engine.Accounted held)
    (registered : engine.registry.value = some handle) :
    ∃ shared, engine.shared? handle = some shared := by
  apply live_of_owners
  rw [accounted.counted, if_pos registered]
  exact Nat.succ_pos _

theorem change (accounted : engine.Accounted held) {change : SharedCache → SharedCache}
    (same : ∀ shared, (change shared).owners = shared.owners) :
    (engine.changed handle fun shared => some (change shared)).Accounted held := by
  refine ⟨fun other => ?_, gone_changed accounted.gone same⟩
  rw [owners_changed_of_same same]
  exact accounted.counted other

theorem worked (accounted : engine.Accounted held) (handle : CacheHandle) (poisoned : Bool)
    (work : CacheSession δ) : (engine.worked handle poisoned work).Accounted held := by
  have changed : (engine.changed handle fun shared =>
      some { shared with cache := { value := work.cache, poisoned } }).Accounted held :=
    accounted.change fun _ => rfl
  exact changed.of_same rfl rfl

theorem created (accounted : engine.Accounted held) (vacant : engine.registry.value = none)
    (budget : CacheBudget) : (engine.created budget).Accounted held := by
  have new := accounted.counted engine.nextHandle
  rw [owners_of_none engine.shared?_nextHandle, vacant] at new
  constructor
  · intro other
    have before := accounted.counted other
    rw [vacant] at before
    rw [owners, shared?_created]
    change _ = _ + if some engine.nextHandle = some other then 1 else 0
    by_cases same : other = engine.nextHandle
    · rw [if_pos same, if_pos (congrArg some same.symm), same]
      simp at new ⊢
      exact new.symm
    · rw [if_neg same, if_neg fun equal => same (Option.some.inj equal).symm]
      exact before
  · intro other unowned
    rw [owners, shared?_created] at unowned
    rw [shared?_created]
    by_cases same : other = engine.nextHandle
    · rw [if_pos same] at unowned
      contradiction
    · rw [if_neg same] at unowned ⊢
      exact accounted.gone other unowned

theorem retained (accounted : engine.Accounted held) {shared : SharedCache}
    (live : engine.shared? handle = some shared) :
    (engine.retained handle).Accounted (handle :: held) := by
  constructor
  · intro other
    have before := accounted.counted other
    rw [owners_retained live, List.count_cons]
    change _ = _ + if engine.registry.value = some other then 1 else 0
    by_cases same : other = handle
    · subst same
      simp
      omega
    · have apart : (handle == other) = false := beq_false_of_ne (Ne.symm same)
      rw [if_neg same, apart]
      exact before
  · intro other unowned
    rw [owners_retained live] at unowned
    by_cases same : other = handle
    · rw [if_pos same] at unowned
      contradiction
    · rw [if_neg same] at unowned
      rw [Engine.retained, shared?_changed, if_neg same]
      exact accounted.gone other unowned

/-- A handle that is held, given up. -/
theorem released (accounted : engine.Accounted held) (member : handle ∈ held) :
    (engine.released handle).Accounted (held.erase handle) := by
  refine ⟨fun other => ?_, gone_released accounted.gone⟩
  have before := accounted.counted other
  rw [owners_released]
  change _ = _ + if engine.registry.value = some other then 1 else 0
  by_cases same : other = handle
  · subst same
    have once := List.count_pos_iff.mpr member
    rw [if_pos rfl, List.count_erase_self]
    omega
  · rw [if_neg same, List.count_erase_of_ne same]
    exact before

/-- The registration, given up after the cache was changed. -/
theorem unregistered (accounted : engine.Accounted held)
    (registered : engine.registry.value = some handle) {change : SharedCache → SharedCache}
    (same : ∀ shared, (change shared).owners = shared.owners) :
    (((engine.registering none).changed handle fun shared => some (change shared)).released
      handle).Accounted held := by
  refine ⟨fun other => ?_, gone_released (gone_changed accounted.gone same)⟩
  have before := accounted.counted other
  rw [owners_released, owners_changed_of_same same, owners_changed_of_same same]
  change (if other = handle then engine.owners handle - 1 else engine.owners other) = _ + 0
  rw [registered] at before
  by_cases equal : other = handle
  · subst equal
    rw [if_pos rfl] at before ⊢
    omega
  · rw [if_neg equal]
    rw [if_neg fun same => equal (Option.some.inj same).symm] at before
    exact before

end Accounted

/-! ## Steps and runs -/

/-- The handles held after a call are those of its plan: only calls without reports hand them out. -/
theorem Call.holding_outcome (request : Call δ α) (engine : Engine δ) (held : List CacheHandle) :
    (Action.call request).holding (request.plan engine).outcome.1 held =
      (Action.call request).holding ((request.plan engine).answer.mapError .fault) held := by
  cases request with
  | acquireCache =>
    change Action.holding _ engine.acquirePlan.outcome.1 held =
      Action.holding _ (engine.acquirePlan.answer.mapError .fault) held
    unfold acquirePlan
    rcases engine.lookUp with fault | _ | handle
    · dsimp only
      rw [outcome_refusing, Journal.heeded_error]
      rfl
    · dsimp only
      rw [outcome_refusing, Journal.heeded_error]
      rfl
    · rfl
  | _ => rfl

/-- A call accounts for the handles and the registration that it hands out and takes back. -/
theorem Call.accounted {request : Call δ α} (accounted : engine.Accounted held)
    (owned : ∀ handle, (Action.call request).handle? = some handle → handle ∈ held) :
    (request.plan engine).left.Accounted
      ((Action.call request).holding ((request.plan engine).answer.mapError .fault) held) := by
  cases request with
  | setUp => exact accounted.of_same rfl rfl
  | shutDown =>
    change engine.shutDownPlan.left.Accounted held
    unfold shutDownPlan
    split
    · split
      · rename_i handle opened
        have registered := congrArg Guarded.value (Guarded.open?_eq_some.mp opened)
        exact accounted.unregistered registered SharedCache.owners_abandoned
      · exact accounted
    · exact accounted
  | createCache budget =>
    change (engine.createPlan budget).left.Accounted held
    unfold createPlan
    rcases found : engine.lookUp with fault | _ | handle
    · exact accounted
    · have vacant := congrArg Guarded.value (lookUp_eq_ok found).2
      exact accounted.created vacant budget
    · exact accounted
  | acquireCache =>
    change engine.acquirePlan.left.Accounted
      (Action.holding (.call .acquireCache) (engine.acquirePlan.answer.mapError .fault) held)
    unfold acquirePlan
    rcases found : engine.lookUp with fault | _ | handle
    · exact accounted
    · exact accounted
    · have registered := congrArg Guarded.value (lookUp_eq_ok found).2
      obtain ⟨shared, live⟩ := accounted.live_of_registered registered
      exact accounted.retained live
  | destroyCache =>
    change engine.destroyPlan.left.Accounted held
    unfold destroyPlan
    rcases found : engine.lookUp with fault | _ | handle
    · exact accounted
    · exact accounted
    · have registered := congrArg Guarded.value (lookUp_eq_ok found).2
      exact accounted.unregistered registered SharedCache.owners_forsaken
  | share handle =>
    obtain ⟨shared, live⟩ := accounted.live_of_held (owned handle rfl)
    exact accounted.retained live
  | drop handle => exact accounted.released (owned handle rfl)
  | setLogger logger => exact accounted.of_same rfl rfl
  | write entry => exact accounted
  | elsewhere change apart => exact accounted.of_same rfl rfl

variable [Backend δ] {build : Build}

theorem Step.accounted {step : Step δ} (accounted : step.before.Accounted held)
    (owned : ∀ handle, step.action.handle? = some handle → handle ∈ held)
    (completes : step.Completes build) :
    step.after.Accounted (step.action.holding step.outcome held) := by
  obtain ⟨action, before, outcome, after⟩ := step
  cases action with
  | call request =>
    obtain ⟨rfl, rfl⟩ := completes.called
    rw [Call.holding_outcome]
    exact (Call.accounted accounted owned).of_same (Plan.caches_outcome _)
      (Plan.registered_outcome _)
  | use handle operation discreet =>
    rcases completes.used with ⟨-, rfl, rfl⟩ | ⟨cache, ended, left, -, -, rfl, rfl⟩
    · exact accounted
    · exact accounted.worked handle _ _

theorem Run.accounted {session : Session δ} {steps : List (Step δ)}
    (run : Run build session steps engine) : engine.Accounted (Engine.held steps) := by
  induction run with
  | nil => exact .start session
  | cons run owned completes ih => exact Step.accounted ih owned completes

end Engine

end RenderCore
