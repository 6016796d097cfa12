import RenderCore.Stencil.Cache

/-!
# A cache at work

The operations of a stencil cache that also reach the GPU and the journal.
-/

namespace RenderCore

/-- A cache within a session. -/
structure CacheSession (δ : Type) where
  cache : StencilCache
  session : Session δ

namespace CacheSession

variable {δ : Type}

instance : MonadLift (Act (Session δ)) (Act (CacheSession δ)) where
  monadLift := Act.within (·.session) fun session work => { work with session }

/-- The component named in reports. -/
def component : String := "canvas2d::ResourceCache"

/-- Changes the cache. -/
def edit (change : StencilCache → StencilCache) : Act (CacheSession δ) Unit :=
  modify fun work => { work with cache := change work.cache }

/-- The buffer of a key, which becomes the most recently used one. -/
def access (key : ArenaKey) : Act (CacheSession δ) (Option StencilBuffer) := do
  edit (·.touch key)
  return (← get).cache.find? key

/-- Records the clip that was rendered into the buffer of a key; says whether there is one. -/
def setClip (key : ArenaKey) (clip : ClipRecord) : Act (CacheSession δ) Bool := do
  match ← access key with
  | some buffer =>
    edit (·.store key { buffer with clip })
    return true
  | none => return false

/-- The most recently used buffer with a scratch key, which counts as a use of it. -/
def findScratch (scratch : ScratchKey) : Act (CacheSession δ) (Option ArenaKey) :=
  modifyGet fun work =>
    let (found, cache) := work.cache.findScratch scratch
    (found, { work with cache })

/-- The total with another buffer added. -/
def totalWith (build : Build) (cache : StencilCache) (buffer : StencilBuffer) :
    Except Panic UInt64 := do
  build.add64 cache.totalBytes (← buffer.shape.checkedBytes build)

/-- The total with a buffer taken away. -/
def totalWithout (build : Build) (cache : StencilCache) (buffer : StencilBuffer) :
    Except Panic UInt64 := do
  build.sub64 cache.totalBytes (← buffer.shape.checkedBytes build)

/-- Gives a buffer to the cache. If its storage cannot be counted it is dropped. -/
def insert (build : Build) (buffer : StencilBuffer) : Act (CacheSession δ) ArenaKey := do
  edit (·.tick)
  let cache := (← get).cache
  let total ← Act.onPanic (totalWith build cache buffer) buffer.drop
  modifyGet fun work =>
    let (key, cache) := work.cache.place buffer total
    (key, { work with cache })

variable [Backend δ]

/-- Releases the buffer of a key but leaves it in the cache; says whether there is one. -/
def releaseInPlace (key : ArenaKey) : Act (CacheSession δ) Bool := do
  match ← access key with
  | some buffer =>
    let buffer ← (buffer.release : Act (Session δ) StencilBuffer)
    edit (·.store key buffer)
    return true
  | none => return false

/-- Counts a buffer out that was taken from the cache, and reports the eviction. -/
def countOut (build : Build) (buffer : StencilBuffer) : Act (CacheSession δ) Unit := do
  let total ← totalWithout build (← get).cache buffer
  edit fun cache => { cache with totalBytes := total }
  Journal.log .debug component
    ("Evicting " ++ buffer.shape.sizeText ++ " stencil buffer ResourceId("
      ++ toString buffer.header.id.val ++ ")")

/-- Takes the buffer of a key out of the cache and releases it; says whether there was one. -/
def evict (build : Build) (key : ArenaKey) : Act (CacheSession δ) Bool := do
  match (← get).cache.remove? key with
  | some (buffer, cache) =>
    edit fun _ => cache
    Act.onPanic (countOut build buffer) buffer.drop
    discard (buffer.release : Act (Session δ) StencilBuffer)
    return true
  | none => return false

/-- Evicts the least recently used buffers until the cache is within its budget, sparing the one
    of the key `keep`; gives their number. -/
def purgeSparing (build : Build) (keep : Option ArenaKey) : Act (CacheSession δ) Nat := do
  let victims := (← get).cache.excess keep
  victims.forM fun key => discard (evict build key)
  return victims.length

/-- Evicts the least recently used buffers until the cache is within its budget; gives their
    number. -/
def purge (build : Build) : Act (CacheSession δ) Nat := purgeSparing build none

/-- Evicts all buffers. -/
def purgeAll (build : Build) : Act (CacheSession δ) Unit := do
  (← get).cache.keys.forM fun key => discard (evict build key)

/-- The report of a look-up. -/
def lookupReport (outcome : String) (shape : StencilShape) : String :=
  "Stencil cache " ++ outcome ++ " for " ++ shape.sizeText ++ " ("
    ++ toString shape.samples.toNat ++ " samples)"

/-- A cached buffer of the wanted size and number of samples: the most recently used one there
    is, or else a new one, for which the cache is brought within its budget. -/
def findOrCreate (build : Build) (shape : StencilShape) : Act (CacheSession δ) ArenaKey := do
  let scratch ← ScratchKey.forStencil build shape.width shape.height shape.samples
  match ← findScratch scratch with
  | some key =>
    Journal.log .trace component (lookupReport "hit" shape)
    return key
  | none =>
    Journal.log .debug component (lookupReport "miss" shape)
    let buffer ← (StencilBuffer.allocate build .cached shape : Act (Session δ) StencilBuffer)
    let key ← insert build buffer
    discard (purgeSparing build (some key))
    return key

end CacheSession

end RenderCore
