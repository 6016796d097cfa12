import RenderCore.Proofs.Stencil.CacheTurnover

/-!
# Caches in order but for the total

Where a debug build stops half way through an operation, a buffer may have left the cache and not
yet have been counted out. Arena, last uses and index agree even there, whatever the byte total is,
and every change that an operation makes to the cache leaves them in agreement.
-/

namespace RenderCore.StencilCache

/-- Arena, last uses and index agree with one another. -/
structure Arranged (cache : StencilCache) : Prop where
  tidy : cache.entries.Tidy
  recent : cache.RecencyAgrees
  indexed : cache.IndexAgrees

variable {cache : StencilCache}

theorem Coherent.arranged (coherent : cache.Coherent) : cache.Arranged :=
  ⟨coherent.tidy, coherent.recent, coherent.indexed⟩

namespace Arranged

/-- What only differs in budget and total is in order as well. -/
theorem recounted (arranged : cache.Arranged) (budget : CacheBudget) (total : UInt64) :
    Arranged { cache with budget, totalBytes := total } where
  tidy := arranged.tidy
  recent := ⟨arranged.recent.noted, arranged.recent.stamped⟩
  indexed := arranged.indexed.alike rfl (alike_of_find?_eq fun _ => rfl)

theorem tick (arranged : cache.Arranged) : cache.tick.Arranged where
  tidy := arranged.tidy
  recent := ⟨arranged.recent.noted, fun key entry found =>
    Nat.le_succ_of_le (arranged.recent.stamped key entry found)⟩
  indexed := arranged.indexed.alike rfl (alike_of_find?_eq fun _ => rfl)

theorem touch (arranged : cache.Arranged) (key : ArenaKey) : (cache.touch key).Arranged where
  tidy := tidy_touch arranged.tidy key
  recent := arranged.recent.touch key
  indexed := arranged.indexed.alike (index_touch cache key) (alike_touch cache key)

theorem revise (arranged : cache.Arranged) (key : ArenaKey) {change : StencilBuffer → StencilBuffer}
    (same : ∀ buffer : StencilBuffer, buffer.Same (change buffer)) :
    (cache.revise key change).Arranged where
  tidy := tidy_revise arranged.tidy key change
  recent := arranged.recent.revise key change
  indexed := arranged.indexed.alike (index_revise cache key change) (alike_revise cache key same)

theorem lodge (arranged : cache.Arranged) {buffer : StencilBuffer} (keyed : buffer.Keyed) :
    (cache.lodge buffer).2.Arranged where
  tidy := Arena.tidy_insert arranged.tidy _
  recent := arranged.recent.lodge arranged.tidy buffer
  indexed := arranged.indexed.lodge arranged.tidy keyed

theorem discharge (arranged : cache.Arranged) (key : ArenaKey) :
    (cache.discharge key).Arranged where
  tidy := tidy_discharge arranged.tidy key
  recent := arranged.recent.discharge key
  indexed := arranged.indexed.discharge key

theorem abandonAll (arranged : cache.Arranged) : cache.abandonAll.Arranged where
  tidy := Arena.tidy_clear arranged.tidy
  recent := ⟨by simp [StencilCache.abandonAll], by simp [StencilCache.abandonAll]⟩
  indexed := ⟨ScratchIndex.distinct_empty, by simp [StencilCache.abandonAll],
    by simp [StencilCache.abandonAll, ScratchIndex.listed],
    by simp [StencilCache.abandonAll, ScratchIndex.listed, find?], by simp⟩

/-- A buffer gets a key that found nothing, with whatever total it is put into the cache. -/
theorem placed (arranged : cache.Arranged) {buffer : StencilBuffer} (keyed : buffer.Keyed)
    (total : UInt64) {key : ArenaKey} {left : StencilCache}
    (placed : cache.tick.place buffer total = (key, left)) :
    left.Arranged ∧ cache.find? key = none ∧
      left.find? = Function.update cache.find? key (some buffer) := by
  obtain rfl : (cache.lodge buffer).1 = key := congrArg Prod.fst placed
  obtain rfl : { (cache.lodge buffer).2 with totalBytes := total } = left :=
    congrArg Prod.snd placed
  refine ⟨(arranged.lodge keyed).recounted _ total, find?_lodge_key arranged.tidy buffer, ?_⟩
  funext other
  rw [Function.update_apply]
  exact find?_lodge arranged.tidy buffer other

/-- Without a buffer that was taken out, and before it was counted out. -/
theorem removed (arranged : cache.Arranged) {key : ArenaKey} {buffer : StencilBuffer}
    {rest : StencilCache} (removed : cache.remove? key = some (buffer, rest)) :
    rest.Arranged ∧ cache.find? key = some buffer ∧
      rest.find? = Function.update cache.find? key none := by
  cases live : cache.find? key with
  | none =>
    rw [remove?_of_none live] at removed
    contradiction
  | some held =>
    obtain ⟨rest', removed', discharged⟩ := remove?_of_some live
    obtain ⟨rfl, rfl⟩ := Prod.mk.inj (Option.some.inj (removed.symm.trans removed'))
    refine ⟨?_, rfl, ?_⟩
    · have counted := discharged ▸ arranged.discharge key
      exact counted.recounted rest.budget rest.totalBytes
    · have found := fun other => find?_discharge cache key other
      rw [discharged] at found
      funext other
      rw [Function.update_apply]
      exact found other

end Arranged

end RenderCore.StencilCache
