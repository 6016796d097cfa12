import RenderCore.Stencil.Buffer
import RenderCore.Stencil.Recency
import RenderCore.Stencil.ScratchIndex

/-!
# The stencil cache

A cache owns stencil buffers in an arena and hands out weak keys to them. Buffers with a scratch
key can be looked up by it, so that render targets of one form share a buffer. The buffers are kept
in the order of their last use, and a budget limits their number and their storage. This module
holds the cache itself; the operations that also reach the GPU and the journal are in
`RenderCore.Stencil.CacheSession`.
-/

namespace RenderCore

/-- What a cache may hold after it was purged. -/
structure CacheBudget where
  maxCount : UInt64 := 2048
  maxBytes : UInt64 := 100663296
  deriving DecidableEq, Repr

/-- Whether a number of buffers and of bytes is within the budget. -/
def CacheBudget.allows (budget : CacheBudget) (count : Nat) (bytes : UInt64) : Bool :=
  count ≤ budget.maxCount.toNat && bytes ≤ budget.maxBytes

/-- A buffer and the stamp of its last use. -/
structure CachedBuffer where
  buffer : StencilBuffer
  lastUse : Nat
  deriving DecidableEq, Repr

/-- A cache of stencil buffers. -/
structure StencilCache where
  budget : CacheBudget := {}
  entries : Arena CachedBuffer := {}
  index : ScratchIndex := {}
  recency : Recency := {}
  /-- Storage of the buffers, in bytes; the sum wraps around. -/
  totalBytes : UInt64 := 0
  /-- The stamp of the latest use. The program keeps it in a 64-bit word, so what holds here holds
      there of a cache that has seen fewer than 2^64 uses. -/
  clock : Nat := 0

namespace StencilCache

/-- Number of buffers. -/
def size (cache : StencilCache) : Nat := cache.entries.size

/-- Whether there is no buffer. -/
def isEmpty (cache : StencilCache) : Bool := cache.size = 0

/-- Whether a key still refers to a buffer. -/
def contains (cache : StencilCache) (key : ArenaKey) : Bool := cache.entries.contains key

/-- The buffer that a key refers to. -/
def find? (cache : StencilCache) (key : ArenaKey) : Option StencilBuffer :=
  (cache.entries.find? key).map (·.buffer)

/-- Changes the budget, with effect from the next purge on. -/
def setBudget (cache : StencilCache) (budget : CacheBudget) : StencilCache := { cache with budget }

/-- Lets the clock advance. -/
def tick (cache : StencilCache) : StencilCache := { cache with clock := cache.clock + 1 }

/-- Makes the entry of a key the most recently used one. A stale key only lets the clock
    advance. -/
def touch (cache : StencilCache) (key : ArenaKey) : StencilCache :=
  let cache := cache.tick
  match cache.entries.find? key with
  | some entry =>
    { cache with
      entries := cache.entries.update key fun entry => { entry with lastUse := cache.clock }
      recency := (cache.recency.forget entry.lastUse).note cache.clock key }
  | none => cache

/-- Puts a changed buffer in the place of the one that a key refers to. -/
def store (cache : StencilCache) (key : ArenaKey) (buffer : StencilBuffer) : StencilCache :=
  { cache with entries := cache.entries.update key fun entry => { entry with buffer } }

/-- Puts a buffer into the cache, as used at the present stamp, and sets the new total. -/
def place (cache : StencilCache) (buffer : StencilBuffer) (totalBytes : UInt64) :
    ArenaKey × StencilCache :=
  let (key, entries) := cache.entries.insert { buffer, lastUse := cache.clock }
  let index := match buffer.header.scratchKey with
    | some scratch => cache.index.add scratch key
    | none => cache.index
  (key, { cache with entries, index, totalBytes, recency := cache.recency.note cache.clock key })

/-- Takes the buffer of a key out of the cache. The total is not changed yet. -/
def remove? (cache : StencilCache) (key : ArenaKey) : Option (StencilBuffer × StencilCache) :=
  match cache.entries.remove? key with
  | some (entry, entries) =>
    let index := match entry.buffer.header.scratchKey with
      | some scratch => cache.index.remove scratch key
      | none => cache.index
    some (entry.buffer,
      { cache with entries, index, recency := cache.recency.forget entry.lastUse })
  | none => none

/-- The stamp of the last use of an entry; 0, which is no stamp, if the key is stale. -/
def lastUse (cache : StencilCache) (key : ArenaKey) : Nat :=
  match cache.entries.find? key with
  | some entry => entry.lastUse
  | none => 0

/-- The most recently used of some keys. -/
def mostRecent? (cache : StencilCache) : List ArenaKey → Option ArenaKey
  | [] => none
  | key :: rest =>
    match cache.mostRecent? rest with
    | none => some key
    | some best => if cache.lastUse best < cache.lastUse key then some key else some best

/-- The most recently used buffer with a scratch key, which counts as a use of it. -/
def findScratch (cache : StencilCache) (scratch : ScratchKey) : Option ArenaKey × StencilCache :=
  match (cache.index.find? scratch).bind cache.mostRecent? with
  | some key => (some key, cache.touch key)
  | none => (none, cache)

/-- Storage of the buffer that a key refers to. -/
def bytesOf (cache : StencilCache) (key : ArenaKey) : UInt64 :=
  match cache.find? key with
  | some buffer => buffer.shape.bytes
  | none => 0

/-- The shortest initial part of some keys whose removal brings the cache within its budget, if
    it holds `count` buffers and `bytes` bytes; all of them if that is not enough. -/
def excessOf (cache : StencilCache) (count : Nat) (bytes : UInt64) : List ArenaKey → List ArenaKey
  | [] => []
  | key :: rest =>
    if cache.budget.allows count bytes then []
    else key :: cache.excessOf (count - 1) (bytes - cache.bytesOf key) rest

/-- The buffers to be evicted to bring the cache within its budget, least recently used first.
    The buffer of the key `keep` is spared. -/
def excess (cache : StencilCache) (keep : Option ArenaKey) : List ArenaKey :=
  cache.excessOf cache.size cache.totalBytes
    (cache.recency.oldestFirst.filter fun key => some key ≠ keep)

/-- The keys of all buffers, in the order of their slots. -/
def keys (cache : StencilCache) : List ArenaKey := cache.entries.toList.map (·.1)

/-- All buffers, in the order of their slots. -/
def buffers (cache : StencilCache) : List StencilBuffer :=
  cache.entries.toList.map (·.2.buffer)

/-- Forgets all buffers, which counts as giving them up: the GPU that holds their storage is
    gone. -/
def abandonAll (cache : StencilCache) : StencilCache :=
  { cache with entries := cache.entries.clear, index := {}, recency := {}, totalBytes := 0 }

/-- Gives up all buffers and lets them go. That is what `abandonAll` stands for: a buffer that was
    given up goes away without a report. -/
def giveUpAll (cache : StencilCache) : Act Journal StencilCache := do
  StencilBuffer.dropAll (cache.buffers.map (·.abandon))
  return cache.abandonAll

/-- Reports the storage that is lost when the cache goes away. -/
def drop (cache : StencilCache) : Act Journal Unit := StencilBuffer.dropAll cache.buffers

end StencilCache

end RenderCore
