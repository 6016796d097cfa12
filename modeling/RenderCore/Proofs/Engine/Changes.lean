import RenderCore.Engine
import RenderCore.Proofs.Stencil.Losses

/-!
# Changes of the engine

The parts that the calls of the engine are made of, as changes of its state: entries are written, a
cache is made, or what is kept for a handle is changed. A handle without a cache is left alone by
all of them.
-/

namespace RenderCore

theorem Guarded.open?_eq_some {α : Type} {guarded : Guarded α} {value : α} :
    guarded.open? = some value ↔ guarded = { value } := by
  obtain ⟨inner, poisoned⟩ := guarded
  cases poisoned <;> simp [open?]

namespace SharedCache

/-- With another owner. -/
def retained (shared : SharedCache) : SharedCache := { shared with owners := shared.owners + 1 }

/-- With one owner less, if there are others. -/
def released (shared : SharedCache) : Option SharedCache :=
  if shared.owners ≤ 1 then none else some { shared with owners := shared.owners - 1 }

/-- What is reported when an owner is gone: with the last one, the storage that is lost. -/
def losses (shared : SharedCache) : List Entry :=
  if shared.owners ≤ 1 then shared.cache.value.losses else []

/-- With its buffers forgotten, unless the cache is behind a poisoned lock. -/
def abandoned (shared : SharedCache) : SharedCache :=
  match shared.cache.open? with
  | some cache => { shared with cache := { value := cache.abandonAll } }
  | none => shared

theorem open?_abandoned (shared : SharedCache) :
    shared.abandoned.cache.open? = shared.cache.open?.map StencilCache.abandonAll := by
  unfold abandoned
  cases opened : shared.cache.open? with
  | none => exact opened
  | some cache => rfl

/-- With its buffers forgotten if there is one owner only. -/
def forsaken (shared : SharedCache) : SharedCache :=
  if shared.owners = 1 then shared.abandoned else shared

/-- Nothing is lost with a cache that has forgotten its buffers. -/
theorem losses_abandoned {shared : SharedCache} {cache : StencilCache}
    (unlocked : shared.cache = { value := cache }) : shared.abandoned.losses = [] := by
  rw [losses, abandoned, unlocked]
  change (if _ then cache.abandonAll.losses else []) = []
  rw [cache.losses_abandonAll, ite_self]

/-- An owner that goes leaves the cache to the others as it is. -/
theorem cache_of_released {shared left : SharedCache} (kept : shared.released = some left) :
    left.cache = shared.cache := by
  unfold released at kept
  split at kept
  · contradiction
  · rw [← Option.some.inj kept]

@[simp] theorem owners_abandoned (shared : SharedCache) :
    shared.abandoned.owners = shared.owners := by
  unfold abandoned
  split <;> rfl

@[simp] theorem owners_forsaken (shared : SharedCache) :
    shared.forsaken.owners = shared.owners := by
  unfold forsaken
  split
  · exact shared.owners_abandoned
  · rfl

end SharedCache

namespace Engine

variable {δ α : Type}

/-! ## Changes -/

/-- The engine after some entries were written. -/
def noted (engine : Engine δ) (entries : List Entry) : Engine δ :=
  { engine with
    session := { engine.session with journal := engine.session.journal.noted entries } }

/-- The engine after a panic that unwound while the registration was held for writing. -/
def spoiled (engine : Engine δ) : Engine δ := { engine with registry := engine.registry.poison }

/-- The engine with another registration. -/
def registering (engine : Engine δ) (handle : Option CacheHandle) : Engine δ :=
  { engine with registry := { engine.registry with value := handle } }

/-- The engine after what is kept for a handle, if it has a cache, was changed. -/
def changed (engine : Engine δ) (handle : CacheHandle)
    (change : SharedCache → Option SharedCache) : Engine δ :=
  { engine with caches := engine.caches.modify handle.number (·.bind change) }

/-- The handle of the cache that is made next. -/
def nextHandle (engine : Engine δ) : CacheHandle := ⟨engine.caches.length⟩

/-- The engine after a cache was made and registered. -/
def created (engine : Engine δ) (budget : CacheBudget) : Engine δ :=
  { engine with
    caches := engine.caches ++ [some { cache := { value := { budget } }, owners := 1 }]
    registry := { engine.registry with value := some engine.nextHandle } }

/-- The engine after a cache got another owner. -/
def retained (engine : Engine δ) (handle : CacheHandle) : Engine δ :=
  engine.changed handle fun shared => some shared.retained

/-- The engine after a cache lost an owner. -/
def released (engine : Engine δ) (handle : CacheHandle) : Engine δ :=
  engine.changed handle SharedCache.released

/-- What is reported when the cache of a handle loses an owner. -/
def lossesAt (engine : Engine δ) (handle : CacheHandle) : List Entry :=
  (engine.shared? handle).elim [] SharedCache.losses

/-- The engine after a cache forgot its buffers and is no longer registered. -/
def abandoned (engine : Engine δ) (handle : CacheHandle) : Engine δ :=
  (engine.registering none).changed handle fun shared => some shared.abandoned

/-- The engine after a cache is no longer registered; without other owners it forgets its buffers. -/
def withdrawn (engine : Engine δ) (handle : CacheHandle) : Engine δ :=
  (engine.registering none).changed handle fun shared => some shared.forsaken

theorem shared?_changed (engine : Engine δ) (handle other : CacheHandle)
    (change : SharedCache → Option SharedCache) :
    (engine.changed handle change).shared? other =
      if other = handle then (engine.shared? handle).bind change else engine.shared? other := by
  unfold shared? changed
  rw [List.getElem?_modify]
  by_cases same : other = handle
  · subst same
    simp only [if_pos]
    cases engine.caches[other.number]? <;> rfl
  · have apart : handle.number ≠ other.number := fun equal =>
      same (congrArg CacheHandle.mk equal.symm)
    simp only [if_neg same, if_neg apart]
    cases engine.caches[other.number]? <;> rfl

/-- To change what is kept for a handle that has a cache is to put it in the place. -/
theorem setShared_of_some {engine : Engine δ} {handle : CacheHandle} {shared : SharedCache}
    (live : engine.shared? handle = some shared) (change : SharedCache → Option SharedCache) :
    engine.setShared handle (change shared) = engine.changed handle change := by
  have kept : engine.caches[handle.number]? = some (some shared) := Option.join_eq_some_iff.mp live
  unfold setShared changed
  congr 1
  rw [List.set_eq_modify]
  apply List.ext_getElem?
  intro number
  rw [List.getElem?_modify, List.getElem?_modify]
  by_cases same : handle.number = number
  · rw [← same, kept]
    simp
  · simp only [if_neg same]

theorem changed_of_same {engine : Engine δ} {handle : CacheHandle}
    {change : SharedCache → Option SharedCache}
    (same : ∀ shared, engine.shared? handle = some shared → change shared = some shared) :
    engine.changed handle change = engine := by
  have unchanged : engine.caches.modify handle.number (·.bind change) = engine.caches := by
    apply List.ext_getElem?
    intro number
    rw [List.getElem?_modify]
    by_cases equal : handle.number = number
    · subst equal
      rcases kept : engine.caches[handle.number]? with _ | _ | shared
      · rfl
      · simp
      · simp [same shared (Option.join_eq_some_iff.mpr kept)]
    · simp only [if_neg equal]
      exact id_map _
  unfold changed
  rw [unchanged]

theorem changed_of_none {engine : Engine δ} {handle : CacheHandle}
    (gone : engine.shared? handle = none) (change : SharedCache → Option SharedCache) :
    engine.changed handle change = engine :=
  changed_of_same fun _ live => nomatch gone.symm.trans live

theorem changed_congr {engine : Engine δ} {handle : CacheHandle}
    {change change' : SharedCache → Option SharedCache}
    (same : ∀ shared, engine.shared? handle = some shared → change shared = change' shared) :
    engine.changed handle change = engine.changed handle change' := by
  cases live : engine.shared? handle with
  | none => rw [changed_of_none live, changed_of_none live]
  | some shared => rw [← setShared_of_some live, ← setShared_of_some live, same shared live]

theorem changed_changed (engine : Engine δ) (handle : CacheHandle)
    (first second : SharedCache → Option SharedCache) :
    (engine.changed handle first).changed handle second =
      engine.changed handle fun shared => (first shared).bind second := by
  unfold changed
  rw [List.modify_modify_eq]
  congr 2
  funext kept
  exact Option.bind_assoc kept first second

end Engine

end RenderCore
