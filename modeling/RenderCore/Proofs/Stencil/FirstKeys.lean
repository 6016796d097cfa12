import RenderCore.Proofs.Stencil.KeyHistory

/-!
# First keys

The first key that a cache gives out is the same for all caches. Until then the cache is as it was
made: operations that find no buffer leave the arena alone.
-/

namespace RenderCore

namespace StencilCache

/-- The cache has never held a buffer. -/
def Unused (cache : StencilCache) : Prop := cache.entries = {}

variable {cache : StencilCache}

namespace Unused

theorem find? (unused : cache.Unused) (key : ArenaKey) : cache.find? key = none := by
  have nothing : ({} : Arena CachedBuffer).find? key = none := by
    unfold Arena.find? Arena.locate?
    cases key.slot <;> rfl
  rw [StencilCache.find?, unused, nothing]
  rfl

theorem contains (unused : cache.Unused) (key : ArenaKey) : cache.contains key = false := by
  rw [contains_eq, unused.find? key]
  rfl

theorem lodge_fst (unused : cache.Unused) (buffer : StencilBuffer) :
    (cache.lodge buffer).1 = ⟨1, 1⟩ := by
  change (cache.entries.insert _).1 = _
  rw [unused]
  rfl

theorem touch (unused : cache.Unused) (key : ArenaKey) : (cache.touch key).Unused := by
  rw [touch_of_none (Option.map_eq_none_iff.mp (unused.find? key))]
  exact unused

theorem revise (unused : cache.Unused) (key : ArenaKey) (change : StencilBuffer → StencilBuffer) :
    (cache.revise key change).Unused := by
  unfold StencilCache.revise
  rw [unused.find? key]
  exact unused

theorem dischargeAll (unused : cache.Unused) (keys : List ArenaKey) :
    (keys.foldl discharge cache).Unused := by
  induction keys with
  | nil => exact unused
  | cons key rest ih =>
    rw [List.foldl_cons, discharge_of_none (unused.find? key)]
    exact ih

theorem abandonAll (unused : cache.Unused) : cache.abandonAll.Unused := by
  change cache.entries.clear = {}
  rw [unused]
  simp [Arena.clear, Arena.toList]

theorem findScratch (unused : cache.Unused) (scratch : ScratchKey) :
    (cache.findScratch scratch).2.Unused := by
  cases found : (cache.findScratch scratch).1 with
  | none => rw [findScratch_of_none found]; exact unused
  | some key => rw [findScratch_of_some found]; exact unused.touch key

theorem used (unused : cache.Unused) (attachment : StencilAttachment) :
    (attachment.used cache).Unused := by
  unfold StencilAttachment.used
  split
  · exact unused
  · rw [unused.contains]
    exact unused

theorem clipped (unused : cache.Unused) (attachment : StencilAttachment) (clip : ClipRecord) :
    (attachment.clipped clip cache).Unused := by
  unfold StencilAttachment.clipped
  split
  · exact unused
  · exact (unused.used attachment).revise _ _

end Unused

end StencilCache

variable {δ α : Type} [Backend δ] {held left : Holding δ}

theorem Holding.Allocates.first {lifeCycle : LifeCycle} {shape : StencilShape} {key : ArenaKey}
    (allocates : held.Allocates lifeCycle shape (.ok key) left) (unused : held.cache.Unused) :
    key = ⟨1, 1⟩ := by
  cases allocates with
  | made given => exact unused.lodge_fst _

theorem Holding.Acquires.first {shape : StencilShape} {key : ArenaKey}
    (acquires : held.Acquires shape (.ok key) left) (coherent : held.cache.Coherent)
    (unused : held.cache.Unused) : key = ⟨1, 1⟩ := by
  cases acquires with
  | hit found =>
    have live := coherent.live_of_findScratch found
    rw [unused.contains] at live
    contradiction
  | miss absent allocated => exact allocated.first unused

/-- An operation on a cache that was never used gives out the first key, or leaves the cache
    unused. -/
theorem Operation.Effect.first {operation : Operation δ α} {outcome : Except Fault α}
    (effect : operation.Effect held outcome left) (coherent : held.cache.Coherent)
    (unused : held.cache.Unused) :
    (operation.issued held.cache outcome = [] ∧ left.cache.Unused) ∨
      operation.issued held.cache outcome = [⟨1, 1⟩] := by
  cases operation with
  | insert buffer keyed =>
    obtain ⟨rfl, rfl⟩ := effect
    exact .inr (congrArg ([·]) (unused.lodge_fst buffer))
  | allocate lifeCycle shape =>
    cases outcome with
    | ok key => exact .inr (congrArg ([·]) (Holding.Allocates.first effect unused))
    | error fault => exact .inl ⟨rfl, Holding.Allocates.cache_of_error effect ▸ unused⟩
  | findOrCreate shape =>
    cases outcome with
    | ok key =>
      obtain rfl := Holding.Acquires.first effect coherent unused
      refine .inr (if_neg ?_)
      rw [unused.contains]
      exact Bool.false_ne_true
    | error fault => exact .inl ⟨rfl, Holding.Acquires.cache_of_error effect ▸ unused⟩
  | attach attachment shape =>
    cases effect with
    | @kept key fits =>
      have live := StencilAttachment.live_of_fitting fits
      rw [unused.contains] at live
      contradiction
    | acquired unfit acquires =>
      obtain rfl := acquires.first coherent unused
      refine .inr (if_neg ?_)
      rw [unused.contains]
      exact Bool.false_ne_true
    | refused unfit acquires => exact .inl ⟨rfl, acquires.cache_of_error ▸ unused⟩
  | findScratch scratch =>
    obtain ⟨rfl, rfl⟩ := effect
    exact .inl ⟨rfl, unused.findScratch scratch⟩
  | find key => exact .inl ⟨rfl, effect.2 ▸ unused⟩
  | contains key => exact .inl ⟨rfl, effect.2 ▸ unused⟩
  | access key => exact .inl ⟨rfl, effect.2 ▸ unused.touch key⟩
  | setClip key clip => exact .inl ⟨rfl, effect.2 ▸ (unused.touch key).revise key _⟩
  | releaseInPlace key => exact .inl ⟨rfl, effect.2 ▸ (unused.touch key).revise key _⟩
  | evict key => exact .inl ⟨rfl, effect.2 ▸ unused.dischargeAll [key]⟩
  | purge =>
    refine .inl ⟨rfl, ?_⟩
    rw [effect.2, Holding.cache_evictAll]
    exact unused.dischargeAll _
  | purgeAll =>
    refine .inl ⟨rfl, ?_⟩
    rw [effect.2, Holding.cache_evictAll]
    exact unused.dischargeAll _
  | abandonAll => exact .inl ⟨rfl, effect.2 ▸ unused.abandonAll⟩
  | setBudget budget => exact .inl ⟨rfl, effect.2 ▸ unused⟩
  | resolve attachment => exact .inl ⟨rfl, effect.2 ▸ unused⟩
  | accessAttached attachment => exact .inl ⟨rfl, effect.2 ▸ unused.used attachment⟩
  | setClipAttached attachment clip => exact .inl ⟨rfl, effect.2 ▸ unused.clipped attachment clip⟩
  | elsewhere change => exact .inl ⟨rfl, effect.2.1 ▸ unused⟩

end RenderCore
