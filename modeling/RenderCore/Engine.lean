import RenderCore.Stencil.CacheSession

/-!
# The engine

The engine shares one stencil cache and one journal among all users. The cache is registered once
and can be replaced; users hold handles to it, which keep it alive when it is no longer registered.
The registration and each cache stand behind locks of their own. A panic while one of them is held
for writing poisons it; looking up the registered cache only reads.
-/

namespace RenderCore

/-- A handle to a shared cache. -/
structure CacheHandle where
  number : Nat
  deriving DecidableEq, Repr

/-- A cache and the number of its owners: the registration and the handles. -/
structure SharedCache where
  cache : Guarded StencilCache
  owners : Nat

/-- The state shared by all users. -/
structure Engine (δ : Type) where
  session : Session δ
  initialized : Bool := false
  /-- The cache that new users get. -/
  registry : Guarded (Option CacheHandle) := { value := none }
  /-- The caches by number; none where the last owner is gone. -/
  caches : List (Option SharedCache) := []

namespace Engine

variable {δ α : Type}

instance : MonadLift (Act (Session δ)) (Act (Engine δ)) where
  monadLift := Act.within (·.session) fun session engine => { engine with session }

/-- The component named in reports. -/
def component : String := "canvas2d::Engine"

/-- Reports a fault of the engine and stops with it. -/
def refuse (fault : Fault) : Act (Engine δ) α := do
  Journal.failure component fault.message
  Act.fail fault

/-! ## Shared caches -/

/-- The cache of a handle, while it has owners. -/
def shared? (engine : Engine δ) (handle : CacheHandle) : Option SharedCache :=
  (engine.caches[handle.number]?).join

/-- Sets what is kept for a handle. -/
def setShared (engine : Engine δ) (handle : CacheHandle) (shared : Option SharedCache) :
    Engine δ :=
  { engine with caches := engine.caches.set handle.number shared }

/-- Changes what is kept for a handle. -/
def changeShared (handle : CacheHandle) (change : SharedCache → SharedCache) :
    Act (Engine δ) Unit :=
  modify fun engine =>
    match engine.shared? handle with
    | some shared => engine.setShared handle (some (change shared))
    | none => engine

/-- Makes a cache with one owner. -/
def addCache (budget : CacheBudget) : Act (Engine δ) CacheHandle :=
  modifyGet fun engine =>
    (⟨engine.caches.length⟩,
      { engine with
        caches := engine.caches ++ [some { cache := { value := { budget } }, owners := 1 }] })

/-- Takes note of another owner. -/
def retain (handle : CacheHandle) : Act (Engine δ) Unit :=
  changeShared handle fun shared => { shared with owners := shared.owners + 1 }

/-- Takes note that an owner is gone. With the last one the cache goes away, and storage that is
    still owed is reported. -/
def releaseHandle (handle : CacheHandle) : Act (Engine δ) Unit := do
  match (← get).shared? handle with
  | none => pure ()
  | some shared =>
    if shared.owners ≤ 1 then
      modify (·.setShared handle none)
      shared.cache.value.drop
    else
      changeShared handle fun shared => { shared with owners := shared.owners - 1 }

/-- Lets the cache of a handle forget its buffers, unless its lock is poisoned. -/
def abandonShared (handle : CacheHandle) : Act (Engine δ) Unit :=
  changeShared handle fun shared =>
    match shared.cache.open? with
    | some cache => { shared with cache := { value := cache.abandonAll } }
    | none => shared

/-- Runs an operation on the cache of a handle while its lock is held. If the lock is poisoned
    nothing is run. -/
def withCache (handle : CacheHandle) (act : Act (CacheSession δ) α) :
    Act (Engine δ) (Option α) := do
  match ((← get).shared? handle).bind (·.cache.open?) with
  | none => return none
  | some cache =>
    let put := fun (work : CacheSession δ) (engine : Engine δ) =>
      match engine.shared? handle with
      | some shared =>
        { engine.setShared handle (some { shared with cache := { value := work.cache } }) with
          session := work.session }
      | none => { engine with session := work.session }
    let answer ← Act.onPanic
      (Act.within (fun engine => { cache, session := engine.session }) put act)
      (changeShared handle fun shared => { shared with cache := shared.cache.poison })
    return some answer

/-! ## Set-up and tear-down -/

/-- Makes the engine ready for use. -/
def setUp : Act (Engine δ) Unit := modify fun engine => { engine with initialized := true }

/-- Refuses to work before the engine was made ready. -/
def requireSetUp : Act (Engine δ) Unit := do
  if !(← get).initialized then
    refuse (.initialization "Engine not initialized. Call Engine::initialize() first.")

/-- The registration. A poisoned lock is refused. -/
def registered : Act (Engine δ) (Option CacheHandle) := do
  match (← get).registry.open? with
  | some handle => return handle
  | none => refuse (.backend "ResourceCache lock poisoned")

/-- Runs an operation while the registration is held for writing. -/
def exclusively (act : Act (Engine δ) α) : Act (Engine δ) α :=
  act.onPanic (modify fun engine => { engine with registry := engine.registry.poison })

/-- Sets the registration. -/
def register (handle : Option CacheHandle) : Act (Engine δ) Unit :=
  modify fun engine => { engine with registry := { engine.registry with value := handle } }

/-- Makes a cache and registers it. There must be none. -/
def createCache (budget : CacheBudget) : Act (Engine δ) Unit := do
  requireSetUp
  exclusively do
    if (← registered).isSome then
      refuse (.initialization
        "ResourceCache already exists. Call Engine::destroy_resource_cache() first.")
    let handle ← addCache budget
    register (some handle)
    Journal.log .info component
      ("ResourceCache singleton created (max " ++ toString budget.maxCount.toNat
        ++ " resources, " ++ toString budget.maxBytes.toNat ++ " bytes)")

/-- A new handle to the registered cache. -/
def acquireCache : Act (Engine δ) CacheHandle := do
  requireSetUp
  match ← registered with
  | some handle =>
    retain handle
    return handle
  | none =>
    refuse (.initialization
      "ResourceCache not created. Call Engine::create_resource_cache() first.")

/-- Ends the registration. A cache without other owners forgets its buffers and goes away. -/
def destroyCache : Act (Engine δ) Unit := do
  requireSetUp
  exclusively do
    match ← registered with
    | some handle =>
      register none
      if ((← get).shared? handle).any (·.owners = 1) then
        abandonShared handle
      releaseHandle handle
    | none => pure ()
    Journal.log .info component "ResourceCache singleton destroyed"

/-- Ends the registration and lets the cache forget its buffers, whoever else owns it. An engine
    that was not made ready has nothing to shut down. -/
def shutDown : Act (Engine δ) Unit := do
  if (← get).initialized then
    exclusively do
      match (← get).registry.open? with
      | some (some handle) =>
        register none
        abandonShared handle
        releaseHandle handle
      | _ => pure ()
    Journal.log .info component "Engine shut down"

/-- The budget of the cache of a handle; the usual one if its lock is poisoned. -/
def budgetOf (engine : Engine δ) (handle : CacheHandle) : CacheBudget :=
  match (engine.shared? handle).bind (·.cache.open?) with
  | some cache => cache.budget
  | none => {}

end Engine

end RenderCore
