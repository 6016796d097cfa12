import RenderCore.Proofs.Engine.Owners
import RenderCore.Proofs.Stencil.CoherentStates

/-!
# The last handle of a cache

A cache whose registration was ended lives on until the last handle to it is given up. What it
still holds then is lost: nothing is freed and nothing abandoned, and every buffer whose storage is
still to be freed is reported. Only the end of a registration that was the sole owner abandons the
buffers.
-/

namespace RenderCore

namespace StencilCache

theorem mem_losses {cache : StencilCache} {entry : Entry} :
    entry ∈ cache.losses ↔ ∃ key buffer, cache.find? key = some buffer ∧ buffer.loss? = some entry := by
  rw [losses, List.mem_filterMap]
  constructor
  · intro listed
    obtain ⟨buffer, member, lost⟩ := listed
    obtain ⟨key, found⟩ := mem_buffers.mp member
    exact ⟨key, buffer, found, lost⟩
  · intro kept
    obtain ⟨key, buffer, found, lost⟩ := kept
    exact ⟨buffer, mem_buffers.mpr ⟨key, found⟩, lost⟩

end StencilCache

namespace Engine

variable {δ α : Type}

theorem length_changed (engine : Engine δ) (handle : CacheHandle)
    (change : SharedCache → Option SharedCache) :
    (engine.changed handle change).caches.length = engine.caches.length :=
  List.length_modify _ _ _

/-- The cache of a handle was made, and is no longer registered. -/
structure Unregistered (engine : Engine δ) (handle : CacheHandle) : Prop where
  apart : engine.registry.value ≠ some handle
  made : handle.number < engine.caches.length

variable {engine left : Engine δ} {handle : CacheHandle}

theorem Unregistered.of_same (unregistered : engine.Unregistered handle)
    (registered : left.registry.value = engine.registry.value)
    (length : left.caches.length = engine.caches.length) : left.Unregistered handle :=
  ⟨registered ▸ unregistered.apart, length ▸ unregistered.made⟩

/-- No call registers a cache that was registered before. -/
theorem Unregistered.moved (unregistered : engine.Unregistered handle)
    (moved : engine.Moved left) : left.Unregistered handle := by
  cases moved with
  | kept registry caches =>
    exact unregistered.of_same (congrArg Guarded.value registry) (congrArg List.length caches)
  | created budget vacant =>
    refine ⟨fun same => ?_, ?_⟩
    · have made := unregistered.made
      rw [← Option.some.inj same] at made
      exact Nat.lt_irrefl _ made
    · have made := unregistered.made
      change _ < (engine.caches ++ [_]).length
      rw [List.length_append]
      omega
  | retained other => exact unregistered.of_same rfl (length_changed engine other _)
  | released other => exact unregistered.of_same rfl (length_changed engine other _)
  | @abandoned other registered =>
    refine ⟨fun same => (by cases same), ?_⟩
    rw [released, length_changed, abandoned, length_changed]
    exact unregistered.made
  | @withdrawn other registered =>
    refine ⟨fun same => (by cases same), ?_⟩
    rw [released, length_changed, withdrawn, length_changed]
    exact unregistered.made

variable [Backend δ] {build : Build}

theorem Step.unregistered {step : Step δ} (completes : step.Completes build)
    (unregistered : step.before.Unregistered handle) : step.after.Unregistered handle := by
  obtain ⟨action, before, outcome, after⟩ := step
  cases action with
  | call request =>
    obtain ⟨-, rfl⟩ := completes.called
    exact (unregistered.moved (request.moved before)).of_same (Plan.registered_outcome _)
      (congrArg List.length (Plan.caches_outcome _))
  | use other operation discreet =>
    rcases completes.used with ⟨-, -, rfl⟩ | ⟨cache, ended, left, -, -, -, rfl⟩
    · exact unregistered
    · exact unregistered.of_same rfl (length_changed before other _)

/-- The end of a registration. -/
theorem unregistered_of_destroyed {held : List CacheHandle} {before after : Engine δ}
    (completes : (⟨.call .destroyCache, before, .ok (), after⟩ : Step δ).Completes build)
    (accounted : before.Accounted held) (registered : before.registry.value = some handle) :
    after.Unregistered handle := by
  obtain ⟨answered, rfl⟩ := completes.called
  obtain ⟨shared, live⟩ := accounted.live_of_registered registered
  refine Unregistered.of_same ?_ (Plan.registered_outcome _)
    (congrArg List.length (Plan.caches_outcome _))
  change _ = before.destroyPlan.outcome.1 at answered
  change before.destroyPlan.left.Unregistered handle
  unfold destroyPlan at answered ⊢
  rcases found : before.lookUp with fault | _ | other
  · rw [found] at answered
    dsimp only at answered
    rw [outcome_refusing, Journal.heeded_error] at answered
    contradiction
  · rw [(lookUp_eq_ok found).2] at registered
    contradiction
  · refine ⟨nofun, ?_⟩
    dsimp only
    rw [released, length_changed, withdrawn, length_changed]
    have kept : before.caches[handle.number]? = some (some shared) :=
      Option.join_eq_some_iff.mp live
    exact (List.getElem?_eq_some_iff.mp kept).1

variable {session : Session δ}

/-- When the last handle to a cache is given up whose registration was ended before, every buffer
    whose storage is still to be freed is reported as leaked, in the order of the slots; the GPU is
    not called. The hand-over is silent exactly if no buffer's storage is to be freed. -/
theorem leaks_with_last_handle {later earlier : List (Step δ)} {before after : Engine δ}
    (run : Run build session
      (later ++ ⟨.call .destroyCache, before, .ok (), after⟩ :: earlier) engine)
    (registered : before.registry.value = some handle)
    (last : (held (later ++ ⟨.call .destroyCache, before, .ok (), after⟩ :: earlier)).count
      handle = 1) :
    ∃ shared left, engine.shared? handle = some shared ∧
      (Engine.releaseHandle handle).outcome engine =
        (engine.session.journal.heeded shared.cache.value.losses (.ok ()), left) ∧
      left.shared? handle = none ∧
      (∀ other, other ≠ handle → left.shared? other = engine.shared? other) ∧
      left.registry = engine.registry ∧
      left.session = { engine.session with
        journal := engine.session.journal.noted shared.cache.value.losses } ∧
      (∀ entry, entry ∈ shared.cache.value.losses ↔ ∃ key buffer,
        shared.cache.value.find? key = some buffer ∧ buffer.loss? = some entry) ∧
      (shared.cache.value.losses = [] ↔ ∀ key buffer,
        shared.cache.value.find? key = some buffer → buffer.owed = none) := by
  obtain ⟨earlierRun, completes⟩ := run.upTo
  have ended : engine.Unregistered handle := run.since (·.Unregistered handle)
    (unregistered_of_destroyed completes earlierRun.accounted registered)
    fun next completes unregistered => Step.unregistered completes unregistered
  have owned := run.accounted.counted handle
  rw [last, if_neg ended.apart] at owned
  obtain ⟨shared, live⟩ := Accounted.live_of_owners (by rw [owned]; exact Nat.one_pos)
  rw [owners_of_some live] at owned
  have lost : engine.lossesAt handle = shared.cache.value.losses := by
    rw [lossesAt, live]
    exact if_pos (Nat.le_of_eq owned)
  have dropped := releaseHandle_outcome engine handle
  rw [lost] at dropped
  refine ⟨shared, _, live, dropped, ?_, ?_, rfl, rfl,
    fun entry => StencilCache.mem_losses, StencilCache.losses_eq_nil_iff⟩
  · change (engine.released handle).shared? handle = none
    rw [released, shared?_changed, if_pos rfl, live]
    exact if_pos (Nat.le_of_eq owned)
  · intro other apart
    change (engine.released handle).shared? other = engine.shared? other
    rw [released, shared?_changed, if_neg apart]

/-- Of two handles the one that is given up first takes nothing with it; with the other one the
    buffer is lost that was made after the registration ended. -/
theorem leaks_with_second_handle :
    ∃ (later earlier : List (Step Software)) (before after engine left : Engine Software)
      (shared : SharedCache),
      Run .release (.software none)
        (later ++ ⟨.call .destroyCache, before, .ok (), after⟩ :: earlier) engine ∧
      held earlier = [⟨0⟩, ⟨0⟩] ∧
      engine.shared? ⟨0⟩ = some shared ∧ shared.cache.value.losses.length = 1 ∧
      (Engine.releaseHandle ⟨0⟩).outcome engine =
        (engine.session.journal.heeded shared.cache.value.losses (.ok ()), left) ∧
      left.shared? ⟨0⟩ = none := by
  have start : Run .release (.software none) [] { session := Session.software none } := .nil
  have ready := start.next (.call .setUp) (.ok ()) nofun rfl
  have made := ready.next (.call (.createCache {})) (.ok ()) nofun (by decide +kernel)
  have got := made.next (.call .acquireCache) (.ok ⟨0⟩) nofun (by decide +kernel)
  have both := got.next (.call (.share ⟨0⟩)) (.ok ()) (by decide +kernel) (by decide +kernel)
  have ended := both.next (.call .destroyCache) (.ok ()) nofun (by decide +kernel)
  have filled := ended.next (.use ⟨0⟩ (.findOrCreate ⟨64, 32, 8, 4⟩) trivial) (.ok (some ⟨1, 1⟩))
    (by decide +kernel) (by decide +kernel)
  have one := filled.next (.call (.drop ⟨0⟩)) (.ok ()) (by decide +kernel) (by decide +kernel)
  obtain ⟨later, earlier, before, after, engine, run, registered, both, last, kept⟩ :
      ∃ (later earlier : List (Step Software)) (before after engine : Engine Software),
        Run .release (.software none)
          (later ++ ⟨.call .destroyCache, before, .ok (), after⟩ :: earlier) engine ∧
        before.registry.value = some ⟨0⟩ ∧ held earlier = [⟨0⟩, ⟨0⟩] ∧
        held (later ++ ⟨.call .destroyCache, before, .ok (), after⟩ :: earlier) = [⟨0⟩] ∧
        (engine.shared? ⟨0⟩).map (·.cache.value.losses.length) = some 1 :=
    ⟨[_, _], _, _, _, _, one, by decide +kernel, by decide +kernel, by decide +kernel,
      by decide +kernel⟩
  obtain ⟨shared, left, live, dropped, gone, -⟩ := leaks_with_last_handle run registered
    (last ▸ List.count_singleton_self)
  rw [live] at kept
  exact ⟨later, earlier, before, after, engine, left, shared, run, both, live,
    Option.some.inj kept, dropped, gone⟩

/-- A buffer that is cached when the registration ends is reported as leaked when the only handle
    goes. -/
theorem leak_reported :
    ∃ (earlier : List (Step Software)) (before after : Engine Software),
      Run .release (.software none) (⟨.call .destroyCache, before, .ok (), after⟩ :: earlier)
        after ∧
      before.registry.value = some ⟨0⟩ ∧ held earlier = [⟨0⟩] ∧
        ((Engine.releaseHandle ⟨0⟩).outcome after).2.session.journal.kept =
          after.session.journal.kept ++ [{
            severity := .warn
            source := "canvas2d::StencilBuffer"
            message :=
              "Stencil buffer Some(StencilId(1)) dropped without release, GPU object leaked" }] := by
  have start : Run .release (.software none) [] { session := Session.software none } := .nil
  have ready := start.next (.call .setUp) (.ok ()) nofun rfl
  have made := ready.next (.call (.createCache {})) (.ok ()) nofun (by decide +kernel)
  have got := made.next (.call .acquireCache) (.ok ⟨0⟩) nofun (by decide +kernel)
  have filled := got.next (.use ⟨0⟩ (.findOrCreate ⟨64, 32, 8, 4⟩) trivial) (.ok (some ⟨1, 1⟩))
    (by decide +kernel) (by decide +kernel)
  have ended := filled.next (.call .destroyCache) (.ok ()) nofun (by decide +kernel)
  exact ⟨_, _, _, ended, by decide +kernel, by decide +kernel, by decide +kernel⟩

end Engine

end RenderCore
