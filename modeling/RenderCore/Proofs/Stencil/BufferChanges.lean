import RenderCore.Proofs.Stencil.KeyHistory

/-!
# What operations make of buffers

An operation takes a buffer out of the cache or leaves it there. Most leave it as it is; a clip may
be recorded in it, and it may be released where it is.
-/

namespace RenderCore

variable {δ α : Type}

/-- What an operation makes of the buffer of a key that stays in the cache. -/
def Operation.revised : Operation δ α → ArenaKey → StencilBuffer → StencilBuffer
  | .setClip own clip, key, buffer => if key = own then { buffer with clip } else buffer
  | .releaseInPlace own, key, buffer => if key = own then buffer.abandon else buffer
  | .setClipAttached attachment clip, key, buffer =>
    if attachment.key = some key then { buffer with clip } else buffer
  | _, _, buffer => buffer

namespace StencilCache

variable {cache : StencilCache} {key : ArenaKey} {held : StencilBuffer}

theorem find?_lodge_of_live (tidy : cache.entries.Tidy) (live : cache.find? key = some held)
    (buffer : StencilBuffer) : (cache.lodge buffer).2.find? key = some held := by
  have apart : key ≠ (cache.lodge buffer).1 := by
    rintro rfl
    simp [find?_lodge_key tidy] at live
  rw [find?_lodge tidy, if_neg apart, live]

theorem find?_revise_of_live (live : cache.find? key = some held) (own : ArenaKey)
    (change : StencilBuffer → StencilBuffer) :
    ((cache.touch own).revise own change).find? key =
      some (if key = own then change held else held) := by
  rw [find?_revise, find?_touch, find?_touch, live]
  by_cases same : key = own
  · rw [if_pos same, if_pos same, ← same, live, Option.map_some]
  · rw [if_neg same, if_neg same]

theorem find?_clipped_of_live (live : cache.find? key = some held)
    (attachment : StencilAttachment) (clip : ClipRecord) :
    (attachment.clipped clip cache).find? key =
      some (if attachment.key = some key then { held with clip } else held) := by
  obtain ⟨own⟩ := attachment
  cases own with
  | none => exact live
  | some own =>
    cases found : cache.find? own with
    | none =>
      have apart : own ≠ key := by
        rintro rfl
        simp [live] at found
      rw [StencilAttachment.clipped_of_none found, if_neg fun same => apart (Option.some.inj same),
        live]
    | some buffer =>
      rw [StencilAttachment.clipped_of_some found]
      have revised := find?_revise_of_live live own fun buffer => { buffer with clip }
      simpa [StencilCache.revise, find?_touch, found, eq_comm] using revised

end StencilCache

open StencilCache

variable [Backend δ] {held left : Holding δ} {key : ArenaKey} {buffer : StencilBuffer}

theorem Holding.Allocates.keeps {lifeCycle : LifeCycle} {shape : StencilShape}
    {outcome : Except Fault ArenaKey} (allocates : held.Allocates lifeCycle shape outcome left)
    (tidy : held.cache.entries.Tidy) (live : held.cache.find? key = some buffer) :
    left.cache.find? key = some buffer := by
  cases allocates with
  | made given => exact find?_lodge_of_live tidy live _
  | refused given => exact live

theorem Holding.Acquires.keeps {shape : StencilShape} {outcome : Except Fault ArenaKey}
    (acquires : held.Acquires shape outcome left) (tidy : held.cache.entries.Tidy)
    (live : held.cache.find? key = some buffer) :
    left.cache.find? key = none ∨ left.cache.find? key = some buffer := by
  cases acquires with
  | hit found => exact .inr ((find?_touch _ _ _).trans live)
  | miss absent allocated =>
    rw [Holding.cache_evictAll, ← allocated.keeps tidy live]
    exact lost_dischargeAll _ _ _
  | refused absent allocated => exact .inr (allocated.keeps tidy live)

/-- An operation takes the buffer of a key away or makes of it what it makes of one that stays. -/
theorem Operation.Effect.revises {operation : Operation δ α} {outcome : Except Fault α}
    (effect : operation.Effect held outcome left) (tidy : held.cache.entries.Tidy)
    (live : held.cache.find? key = some buffer) :
    left.cache.find? key = none ∨ left.cache.find? key = some (operation.revised key buffer) := by
  have evicted : ∀ keys, left = held.evictAll keys →
      left.cache.find? key = none ∨ left.cache.find? key = some buffer := by
    rintro keys rfl
    rw [Holding.cache_evictAll, ← live]
    exact lost_dischargeAll _ _ _
  cases operation with
  | insert buffer keyed => exact .inr (effect.2 ▸ find?_lodge_of_live tidy live buffer)
  | allocate lifeCycle shape => exact .inr (Holding.Allocates.keeps effect tidy live)
  | findScratch scratch => exact .inr (effect.2 ▸ (find?_findScratch _ scratch key).trans live)
  | findOrCreate shape => exact Holding.Acquires.keeps effect tidy live
  | find own => exact .inr (effect.2 ▸ live)
  | contains own => exact .inr (effect.2 ▸ live)
  | access own => exact .inr (effect.2 ▸ (find?_touch _ own key).trans live)
  | setClip own clip => exact .inr (effect.2 ▸ find?_revise_of_live live own _)
  | releaseInPlace own => exact .inr (effect.2 ▸ find?_revise_of_live live own _)
  | evict own => exact evicted [own] effect.2
  | purge => exact evicted _ effect.2
  | purgeAll => exact evicted _ effect.2
  | abandonAll => exact .inl (effect.2 ▸ find?_abandonAll _ key)
  | setBudget budget => exact .inr (effect.2 ▸ live)
  | attach attachment shape =>
    cases effect with
    | kept fits => exact .inr live
    | acquired unfit acquires => exact acquires.keeps tidy live
    | refused unfit acquires => exact acquires.keeps tidy live
  | resolve attachment => exact .inr (effect.2 ▸ live)
  | accessAttached attachment => exact .inr (effect.2 ▸ (attachment.find?_used _ key).trans live)
  | setClipAttached attachment clip =>
    exact .inr (effect.2 ▸ find?_clipped_of_live live attachment clip)
  | elsewhere change => exact .inr (effect.2.1 ▸ live)

end RenderCore
