import RenderCore.Proofs.Stencil.OperationMoves
import RenderCore.Proofs.Stencil.Sharing

/-!
# Attaching and the order of last use

A buffer that is looked up becomes the most recently used one, and a purge that evicts the most
recently used buffer evicts them all. An attachment that goes to the cache for its buffer has the
same effect. One that finds its own buffer fitting does not go to the cache, and leaves the order of
last use as it is: a buffer that is only ever attached again grows older than one that was looked
up since.
-/

namespace RenderCore

variable {δ : Type}

namespace StencilCache

variable {cache : StencilCache} {key : ArenaKey} {buffer : StencilBuffer}

/-! ## The most recently used buffer -/

/-- The buffer of a key was used later than all others. -/
def MostRecent (cache : StencilCache) (key : ArenaKey) : Prop :=
  ∃ entry, cache.entries.find? key = some entry ∧ ∀ other entry', other ≠ key →
    cache.entries.find? other = some entry' → entry'.lastUse < entry.lastUse

theorem MostRecent.live (recent : cache.MostRecent key) : ∃ buffer, cache.find? key = some buffer :=
  have ⟨entry, found, _⟩ := recent
  ⟨entry.buffer, find?_eq_some.mpr ⟨entry.lastUse, found⟩⟩

theorem MostRecent.lastUse_lt (recent : cache.MostRecent key) {other : ArenaKey}
    (apart : other ≠ key) (live : cache.find? other = some buffer) :
    cache.lastUse other < cache.lastUse key := by
  obtain ⟨entry, found, latest⟩ := recent
  obtain ⟨stamp, found'⟩ := find?_eq_some.mp live
  rw [lastUse, lastUse, found, found']
  exact latest other _ apart found'

theorem RecencyAgrees.mostRecent_touch (agrees : cache.RecencyAgrees)
    (live : cache.find? key = some buffer) : (cache.touch key).MostRecent key := by
  obtain ⟨stamp, found⟩ := find?_eq_some.mp live
  refine ⟨_, by rw [entries_touch, if_pos rfl, found, Option.map_some], ?_⟩
  intro other entry apart found'
  rw [entries_touch, if_neg apart] at found'
  exact Nat.lt_succ_of_le (agrees.stamped other entry found')

theorem Arranged.mostRecent_lodge (arranged : cache.Arranged) (buffer : StencilBuffer) :
    (cache.lodge buffer).2.MostRecent (cache.lodge buffer).1 := by
  refine ⟨_, by rw [entries_lodge arranged.tidy, if_pos rfl], ?_⟩
  intro other entry apart found
  rw [entries_lodge arranged.tidy, if_neg apart] at found
  exact Nat.lt_succ_of_le (arranged.recent.stamped other entry found)

theorem entries_dischargeAll (cache : StencilCache) (keys : List ArenaKey) (other : ArenaKey) :
    (keys.foldl discharge cache).entries.find? other =
      if other ∈ keys then none else cache.entries.find? other := by
  induction keys generalizing cache with
  | nil => simp
  | cons key rest ih =>
    rw [List.foldl_cons, ih, entries_discharge]
    by_cases later : other ∈ rest <;> simp [later]

/-- The most recently used buffer stays that when others are evicted. -/
theorem MostRecent.dischargeAll (recent : cache.MostRecent key) {keys : List ArenaKey}
    (spared : key ∉ keys) : (keys.foldl discharge cache).MostRecent key := by
  obtain ⟨entry, found, latest⟩ := recent
  refine ⟨entry, by rw [entries_dischargeAll, if_neg spared, found], ?_⟩
  intro other entry' apart found'
  rw [entries_dischargeAll] at found'
  split at found'
  · contradiction
  · exact latest other entry' apart found'

/-! ## What a purge evicts first -/

theorem excess_none_prefix (cache : StencilCache) :
    cache.excess none <+: cache.recency.oldestFirst := by
  have all : (cache.recency.oldestFirst.filter fun key => some key ≠ none) =
      cache.recency.oldestFirst := by simp
  rw [excess, all]
  exact cache.excessOf_prefix _ _ _

/-- A buffer that a purge spares was used later than those that it evicts. -/
theorem RecencyAgrees.lastUse_lt_of_spared (agrees : cache.RecencyAgrees) {other : ArenaKey}
    (evicted : key ∈ cache.excess none) (live : cache.find? other = some buffer)
    (spared : other ∉ cache.excess none) : cache.lastUse key < cache.lastUse other := by
  obtain ⟨rest, parts⟩ := cache.excess_none_prefix
  have ordered := agrees.oldestFirst_ordered
  have listed := agrees.mem_oldestFirst_iff.mpr ⟨buffer, live⟩
  rw [← parts] at ordered listed
  have later : other ∈ rest := (List.mem_append.mp listed).resolve_left spared
  exact (List.pairwise_append.mp ordered).2.2 key evicted other later

/-- A purge that evicts the most recently used buffer evicts them all. -/
theorem MostRecent.last_evicted (recent : cache.MostRecent key) (agrees : cache.RecencyAgrees)
    (evicted : key ∈ cache.excess none) (other : ArenaKey) :
    ((cache.excess none).foldl discharge cache).find? other = none := by
  rw [find?_dischargeAll]
  split
  · rfl
  next spared =>
    cases live : cache.find? other with
    | none => rfl
    | some buffer =>
      have apart : other ≠ key := by
        rintro rfl
        exact spared evicted
      have less := agrees.lastUse_lt_of_spared evicted live spared
      exact absurd less (Nat.lt_asymm (recent.lastUse_lt apart live))

end StencilCache

/-! ## Looking up, attaching and purging -/

theorem Holding.Acquires.mostRecent [Backend δ] {held left : Holding δ} {shape : StencilShape}
    {key : ArenaKey} (acquires : held.Acquires shape (.ok key) left)
    (arranged : held.cache.Arranged) : left.cache.MostRecent key := by
  cases acquires with
  | hit found =>
    have live := arranged.indexed.live_of_findScratch found
    rw [StencilCache.contains_eq, Option.isSome_iff_exists] at live
    obtain ⟨buffer, live⟩ := live
    exact arranged.recent.mostRecent_touch live
  | miss absent allocated =>
    rw [Holding.cache_evictAll]
    cases allocated with
    | made given =>
      exact (arranged.mostRecent_lodge _).dischargeAll (StencilCache.not_mem_excess _ _)

variable [backend : Backend δ] {build : Build} {budget : CacheBudget} {work left : CacheSession δ}
  {attachment attached : StencilAttachment} {shape : StencilShape} {key : ArenaKey}

/-- A buffer that is looked up is the most recently used one then. -/
theorem mostRecent_of_findOrCreate (arranged : work.cache.Arranged)
    (found : (CacheSession.findOrCreate build shape).outcome work = (.ok key, left)) :
    left.cache.MostRecent key := by
  have acquires := (CacheSession.stricter_findOrCreate build shape).answered
    (@CacheSession.ends_findOrCreate δ work.holding work (backend.fixed build) rfl shape) found
  exact @Holding.Acquires.mostRecent δ (backend.fixed build) _ _ _ _ acquires arranged

/-- A purge that answers evicts what is in excess. -/
theorem cache_of_purge {count : Nat}
    (purged : (CacheSession.purge build).outcome work = (.ok count, left)) :
    left.cache = (work.cache.excess none).foldl StencilCache.discharge work.cache := by
  have evicted := (CacheSession.stricter_purgeSparing build none).answered
    (@CacheSession.ends_purgeSparing δ work.holding work (backend.fixed build) rfl none) purged
  have cache : left.cache = _ := congrArg Holding.cache evicted.2
  rw [cache, @Holding.cache_evictAll δ (backend.fixed build)]
  rfl

/-- An attachment is answered its own buffer, and nothing is done, or a buffer that was looked up. -/
theorem attach_outcome_cases
    (answered : (attachment.attach build shape).outcome work = (.ok (key, attached), left)) :
    (attachment.fitting? work.cache shape = some key ∧ left = work) ∨
      (attachment.fitting? work.cache shape = none ∧
        (CacheSession.findOrCreate build shape).outcome work = (.ok key, left)) := by
  unfold StencilAttachment.attach at answered
  rw [Act.outcome_get_bind] at answered
  cases fits : attachment.fitting? work.cache shape with
  | some own =>
    rw [fits] at answered
    obtain ⟨rfl, rfl⟩ : own = key ∧ work = left := by cases answered; exact ⟨rfl, rfl⟩
    exact .inl ⟨rfl, rfl⟩
  | none =>
    rw [fits] at answered
    have looked := Act.outcome_bind_pure (CacheSession.findOrCreate build shape)
      (fun key => (key, ({ key := some key } : StencilAttachment))) work
    rw [show _ = _ from answered] at looked
    cases run : (CacheSession.findOrCreate build shape).outcome work with
    | mk outcome t =>
      rw [run] at looked
      cases outcome with
      | error stop => cases looked
      | ok own => cases looked; exact .inr ⟨rfl, rfl⟩

/-- An attachment that is answered a buffer makes it the most recently used one only if it is not
    answered the buffer that it holds, or if that was the most recently used one before. If it does
    not hold a fitting buffer, it does what looking a buffer up does, which always makes that the
    most recently used one. And a buffer that is the most recently used one after it was attached is
    the last one that a purge would evict, for any budget: where it is gone, none is left. -/
theorem attach_refreshes_iff (reached : Reachable build budget work)
    (answered : (attachment.attach build shape).outcome work = (.ok (key, attached), left)) :
    (left.cache.MostRecent key ↔
      attachment.fitting? work.cache shape = none ∨ work.cache.MostRecent key) ∧
    (attachment.fitting? work.cache shape = none →
      (CacheSession.findOrCreate build shape).outcome work = (.ok key, left)) ∧
    (∀ found after, (CacheSession.findOrCreate build shape).outcome work = (.ok found, after) →
      after.cache.MostRecent found) ∧
    (left.cache.MostRecent key → ∀ (limits : CacheBudget) (count : Nat) (purged : CacheSession δ),
      (CacheSession.purge build).outcome { left with cache := left.cache.setBudget limits } =
        (.ok count, purged) →
      purged.cache.find? key = none → ∀ other, purged.cache.find? other = none) := by
  have arranged := reached.arranged
  have next : Reachable build budget left := .step (.attach attachment shape) reached answered
  have cases := attach_outcome_cases answered
  refine ⟨?_, fun unfit => ?_, fun found after => mostRecent_of_findOrCreate arranged, ?_⟩
  · obtain ⟨fits, rfl⟩ | ⟨unfit, found⟩ := cases
    · simp [fits]
    · simp [unfit, mostRecent_of_findOrCreate arranged found]
  · obtain ⟨fits, -⟩ | ⟨-, found⟩ := cases
    · rw [unfit] at fits
      contradiction
    · exact found
  · intro recent limits count purged ended gone other
    -- A new budget changes what is in excess, but not the order in which it is evicted.
    have agrees := (next.arranged.recounted limits left.cache.totalBytes).recent
    have cache := cache_of_purge ended
    have evicted : key ∈ (left.cache.setBudget limits).excess none := by
      by_contra spared
      obtain ⟨buffer, live⟩ := recent.live
      rw [cache, StencilCache.find?_dischargeAll, if_neg spared] at gone
      exact nomatch gone.symm.trans live
    have latest : (left.cache.setBudget limits).MostRecent key := recent
    rw [cache]
    exact latest.last_evicted agrees evicted other

/-- A buffer that is attached for the first time is the most recently used one. -/
theorem attach_refreshes_first :
    ∃ work left : CacheSession Software, Reachable .release {} work ∧
      (StencilAttachment.detached.attach .release ⟨64, 32, 8, 4⟩).outcome work =
        (.ok (⟨1, 1⟩, ⟨some ⟨1, 1⟩⟩), left) ∧
      left.cache.MostRecent ⟨1, 1⟩ ∧ left.cache.find? ⟨1, 1⟩ ≠ none := by
  have start : Reachable .release {} (⟨{ budget := {} }, .software none⟩ : CacheSession Software) :=
    .start _
  obtain ⟨left, answered⟩ : ∃ left, (StencilAttachment.detached.attach .release
      ⟨64, 32, 8, 4⟩).outcome (⟨{ budget := {} }, .software none⟩ : CacheSession Software) =
        (.ok (⟨1, 1⟩, ⟨some ⟨1, 1⟩⟩), left) := ⟨_, Prod.ext (by decide +kernel) rfl⟩
  obtain ⟨iff, -⟩ := attach_refreshes_iff start answered
  have recent := iff.mpr (.inl rfl)
  obtain ⟨buffer, live⟩ := recent.live
  exact ⟨_, left, start, answered, recent, by simp [live]⟩

/-- A buffer that was attached again is not the most recently used one. With room for one buffer, it
    is evicted, and the one that was used before it stays. -/
theorem attached_again_evicted_first :
    ∃ work left purged : CacheSession Software, Reachable .release {} work ∧
      (StencilAttachment.attach .release ⟨some ⟨1, 1⟩⟩ ⟨64, 32, 8, 4⟩).outcome work =
        (.ok (⟨1, 1⟩, ⟨some ⟨1, 1⟩⟩), left) ∧
      ¬ left.cache.MostRecent ⟨1, 1⟩ ∧
      (CacheSession.purge .release).outcome
        { left with cache := left.cache.setBudget { maxCount := 1 } } = (.ok 1, purged) ∧
      purged.cache.find? ⟨1, 1⟩ = none ∧ purged.cache.find? ⟨2, 1⟩ ≠ none := by
  have start : Run .release
      (⟨{ budget := {} }, .software none⟩ : CacheSession Software) [] _ := .nil
  have first := start.next (.attach .detached ⟨64, 32, 8, 4⟩) (.ok (⟨1, 1⟩, ⟨some ⟨1, 1⟩⟩))
    (by decide +kernel)
  have second := first.next (.attach .detached ⟨16, 16, 8, 0⟩) (.ok (⟨2, 1⟩, ⟨some ⟨2, 1⟩⟩))
    (by decide +kernel)
  let again : Act (CacheSession Software) _ :=
    StencilAttachment.attach .release ⟨some ⟨1, 1⟩⟩ ⟨64, 32, 8, 4⟩
  let limited (work : CacheSession Software) : CacheSession Software :=
    { work with cache := work.cache.setBudget { maxCount := 1 } }
  let purged (work : CacheSession Software) := (CacheSession.purge .release).outcome (limited work)
  obtain ⟨work, reached, attached, live, older, count, gone, stays⟩ :
      ∃ work : CacheSession Software, Reachable .release {} work ∧
        (again.outcome work).1 = .ok (⟨1, 1⟩, ⟨some ⟨1, 1⟩⟩) ∧
        ((again.outcome work).2.cache.find? ⟨2, 1⟩).isSome ∧
        ¬ (again.outcome work).2.cache.lastUse ⟨2, 1⟩ < (again.outcome work).2.cache.lastUse ⟨1, 1⟩ ∧
        (purged (again.outcome work).2).1 = .ok 1 ∧
        (purged (again.outcome work).2).2.cache.find? ⟨1, 1⟩ = none ∧
        (purged (again.outcome work).2).2.cache.find? ⟨2, 1⟩ ≠ none :=
    ⟨_, second.reachable, by decide +kernel⟩
  obtain ⟨buffer, live⟩ := Option.isSome_iff_exists.mp live
  exact ⟨work, _, _, reached, Prod.ext attached rfl,
    fun recent => older (recent.lastUse_lt (by decide) live), Prod.ext count rfl, gone, stays⟩

end RenderCore
