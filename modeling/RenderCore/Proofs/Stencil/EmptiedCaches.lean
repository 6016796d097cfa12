import RenderCore.Proofs.Stencil.PurgeRounds
import RenderCore.Proofs.Stencil.ShapePools
import RenderCore.Proofs.Stencil.WeakKeys

/-!
# Emptied caches

All buffers of a cache can be evicted one after the other, or they can be forgotten at once when the
GPU is gone. Storage is freed in the one case and not in the other. Of the cache itself nothing but
the budget is left either way, so that whatever is asked of it later cannot tell which it was.
-/

namespace RenderCore

variable {δ : Type}

namespace StencilCache

variable {cache : StencilCache}

/-- The storage that the buffers own. A buffer owns none if it wraps its storage, was given up, or
    is over none. -/
def ownedStorage (cache : StencilCache) : List StencilId :=
  (cache.buffers.filter fun buffer =>
    buffer.header.lifeCycle ≠ .wrapped ∧ buffer.header.released = false).filterMap (·.origin)

theorem ownedStorage_eq (cache : StencilCache) :
    cache.ownedStorage = cache.buffers.filterMap (·.owed) := by
  rw [ownedStorage, List.filterMap_filter]
  apply List.filterMap_congr
  intro buffer _
  unfold StencilBuffer.owed StencilBuffer.backing
  by_cases wrapped : buffer.header.lifeCycle = .wrapped
  · simp [wrapped]
  · cases buffer.header.released <;> simp [wrapped]

/-- The keys and the buffers of a cache come in the same order. -/
theorem exists_items (cache : StencilCache) :
    ∃ items : List (ArenaKey × StencilBuffer), items.map (·.1) = cache.keys ∧
      items.map (·.2) = cache.buffers ∧
      ∀ item ∈ items, cache.find? item.1 = some item.2 := by
  refine ⟨cache.entries.toList.map fun item => (item.1, item.2.buffer), List.map_map,
    List.map_map, fun item member => ?_⟩
  obtain ⟨⟨key, buffer, stamp⟩, listed, rfl⟩ := List.mem_map.mp member
  exact find?_eq_some.mpr ⟨stamp, Arena.mem_toList.mp listed⟩

/-- There is no buffer in the cache, nothing is noted of one, and nothing is lost with the cache. -/
structure Emptied (cache : StencilCache) : Prop where
  keys : cache.keys = []
  size : cache.size = 0
  index : cache.index = {}
  order : cache.recency.oldestFirst = []
  totalBytes : cache.totalBytes = 0
  losses : cache.losses = []

/-- All that a coherent cache keeps of its buffers goes with the last one. -/
theorem Coherent.emptied (coherent : cache.Coherent) (stale : ∀ key, cache.find? key = none) :
    cache.Emptied := by
  have order : cache.recency.oldestFirst = [] := by
    rw [List.eq_nil_iff_forall_not_mem]
    intro key listed
    obtain ⟨buffer, found⟩ := coherent.recent.mem_oldestFirst_iff.mp listed
    rw [stale] at found
    contradiction
  have unlisted : cache.index.lists = [] := by
    rw [List.eq_nil_iff_forall_not_mem]
    rintro ⟨scratch, keys⟩ member
    have found := (ScratchIndex.find?_eq_some coherent.indexed.distinct).mpr member
    -- A list of the index is never empty, and each key in it finds a buffer.
    cases keys with
    | nil => exact coherent.indexed.inhabited scratch found
    | cons key rest =>
      have listed : key ∈ cache.index.listed scratch := by
        rw [ScratchIndex.listed, found]
        exact List.mem_cons_self
      obtain ⟨buffer, live, -⟩ := (coherent.indexed.listed scratch key).mp listed
      rw [stale] at live
      contradiction
  refine ⟨?_, ?_, congrArg ScratchIndex.mk unlisted, order, ?_, ?_⟩
  · have perm := coherent.recent.perm_keys
    rw [order] at perm
    exact perm.symm.eq_nil
  · rw [coherent.recent.size_eq, order, List.length_nil]
  · rw [coherent.totalBytes_eq, order]
    rfl
  · rw [losses_eq_nil_iff]
    intro key buffer found
    rw [stale] at found
    contradiction

/-- The pool of an emptied cache has no shapes. -/
theorem Coherent.pools (coherent : cache.Coherent) (stale : ∀ key, cache.find? key = none) :
    cache.Pools { budget := cache.budget } where
  coherent := coherent
  sole := ⟨by simp [stale], by simp [stale]⟩
  shown := ⟨{ budget := cache.budget }, ⟨rfl, (coherent.emptied stale).order, by simp [stale]⟩,
    rfl, rfl⟩

end StencilCache

variable [Backend δ]

namespace Session

/-- The session after buffers were evicted one after the other and no logger has failed: their
    evictions are reported, and the storage that is owed is freed. -/
def clearing (session : Session δ) (buffers : List StencilBuffer) : Session δ :=
  ({ session with journal := session.journal.noted (buffers.map (·.evictionEntry)) } :
    Session δ).without (buffers.filterMap (·.owed))

theorem clearing_cons (session : Session δ) (buffer : StencilBuffer) (rest : List StencilBuffer) :
    (session.clearing [buffer]).clearing rest = session.clearing (buffer :: rest) := by
  unfold clearing without
  cases owed : buffer.owed with
  | none => rw [List.filterMap_cons_none owed, List.filterMap_cons_none owed]; rfl
  | some storage => rw [List.filterMap_cons_some owed, List.filterMap_cons_some owed]; rfl

theorem reliable_clearing (session : Session δ) (buffers : List StencilBuffer) :
    (session.clearing buffers).Reliable ↔ session.Reliable :=
  Journal.reliable_noted _

end Session

namespace CacheSession

variable {work : CacheSession δ} {build : Build} {budget : CacheBudget}

/-- Unless a logger fails, an eviction frees what is owed and reports the eviction alone. -/
theorem ends_evict_clearing (accounted : work.cache.Accounted build) {key : ArenaKey}
    {buffer : StencilBuffer} (live : work.cache.find? key = some buffer) :
    (evict build key).Ends work
      (fun _ left => left = ⟨work.cache.discharge key, work.session.clearing [buffer]⟩)
      (fun _ _ => False) fun _ => ¬ work.Reliable := by
  have ended := evict_outcome accounted key
  rw [live] at ended
  dsimp only at ended
  refine (ends_evict_live accounted live).ok fun _ left ok => ?_
  obtain ⟨same, -, -⟩ := ok
  rw [ended, Prod.mk.injEq] at same
  obtain ⟨answer, rfl⟩ := same
  unfold Journal.heeded at answer
  split at answer
  · contradiction
  · next calm =>
    unfold Session.evicting
    rw [if_neg calm]
    cases owed : buffer.owed <;> simp [Session.clearing, owed]

/-- Unless a logger fails, evicting several buffers does to each what evicting it alone does. -/
theorem ends_evictAll_clearing (accounted : work.cache.Accounted build)
    {items : List (ArenaKey × StencilBuffer)} (distinct : (items.map (·.1)).Nodup)
    (live : ∀ item ∈ items, work.cache.find? item.1 = some item.2) :
    ((items.map (·.1)).forM fun key => discard (evict build key) :
        Act (CacheSession δ) PUnit).Ends work
      (fun _ left => left = ⟨(items.map (·.1)).foldl StencilCache.discharge work.cache,
        work.session.clearing (items.map (·.2))⟩)
      (fun _ _ => False) fun _ => ¬ work.Reliable := by
  induction items generalizing work with
  | nil => exact Act.ends_pure rfl
  | cons item rest ih =>
    rw [List.map_cons, List.nodup_cons] at distinct
    have first : (discard (evict build item.1) : Act (CacheSession δ) Unit).Ends work
        (fun _ left => left = ⟨work.cache.discharge item.1, work.session.clearing [item.2]⟩)
        (fun _ _ => False) fun _ => ¬ work.Reliable :=
      (ends_evict_clearing accounted (live item List.mem_cons_self)).discard
    refine first.bind fun _ between same => ?_
    subst same
    -- The other buffers are still there after the first eviction, since they have other keys.
    have onward := @ih ⟨work.cache.discharge item.1, work.session.clearing [item.2]⟩
      (accounted.discharge item.1) distinct.2 fun other member => by
        have apart : other.1 ≠ item.1 := fun same =>
          distinct.1 (same ▸ List.mem_map_of_mem member)
        rw [StencilCache.find?_discharge, if_neg apart]
        exact live other (List.mem_cons_of_mem _ member)
    refine onward.imp (fun _ left ended => ?_) (fun _ _ failed => failed) fun _ cut reliable =>
      cut ((work.session.reliable_clearing [item.2]).mpr reliable)
    rw [ended, Session.clearing_cons]
    rfl

/-- Nothing but the budget of its cache is left of `work`. -/
structure Cleared (work left : CacheSession δ) : Prop where
  emptied : left.cache.Emptied
  budget : left.cache.budget = work.cache.budget
  stale : ∀ build key, left.Stale build key
  /-- Whatever is asked of the cache from now on, in this session or in another, comes to the same as
      on an empty pool, if the backend has memory and no logger fails. -/
  later : ∀ {ε : Type} [Backend ε] (session : Session ε) (requests : List PoolRequest),
    Backend.Generous session.backend →
      (sights requests : Act (CacheSession ε) (List PoolSight)).Ends ⟨left.cache, session⟩
        (fun seen _ => seen = ({ budget := work.cache.budget } : ShapePool).sights requests)
        (fun _ _ => False) fun _ => ¬ session.Reliable

theorem cleared_of_find? {left : CacheSession δ} (coherent : left.cache.Coherent)
    (stale : ∀ key, left.cache.find? key = none)
    (budget : left.cache.budget = work.cache.budget) : work.Cleared left where
  emptied := coherent.emptied stale
  budget := budget
  stale build key := stale_of_find? (stale key)
  later session requests generous := by
    rw [← budget]
    exact ends_sights requests (coherent.pools stale) generous

theorem ends_purgeAll_cleared (reached : Reachable .release budget work) :
    (purgeAll .release : Act (CacheSession δ) Unit).Ends work
      (fun _ left => work.Cleared left ∧ left.session = work.session.clearing work.cache.buffers)
      (fun _ _ => False) fun _ => ¬ work.Reliable := by
  have accounted := reached.accounted
  obtain ⟨items, keys, buffers, live⟩ := work.cache.exists_items
  have distinct : (items.map (·.1)).Nodup := by
    rw [keys]
    exact Arena.nodup_keys_toList work.cache.entries
  have evicted := ends_evictAll_clearing accounted distinct live
  rw [keys, buffers] at evicted
  have gone : ∀ key, (work.cache.keys.foldl StencilCache.discharge work.cache).find? key = none := by
    intro key
    rw [StencilCache.find?_dischargeAll]
    split
    · rfl
    · next unlisted =>
      rw [Option.eq_none_iff_forall_ne_some]
      intro buffer found
      exact unlisted (StencilCache.mem_keys.mpr ⟨buffer, found⟩)
  unfold purgeAll
  refine Act.ends_get_bind (evicted.ok fun _ left same => ?_)
  subst same
  exact ⟨cleared_of_find? (accounted.coherent.dischargeAll _) gone
    (StencilCache.budget_dischargeAll _ _), rfl⟩

/-- Whether the buffers of a cache are evicted or forgotten, nothing but the budget is left, and
    whatever is asked of the cache afterwards comes to the same. An eviction asks the backend to free
    the storage that is owned, piece by piece, and for nothing else; forgetting asks it for nothing.
    Neither reports lost storage, nor do the buffers that were given up when they go away. Only a
    logger that fails can cut an eviction short. -/
theorem emptied_alike (reached : Reachable .release budget work) :
    (purgeAll .release : Act (CacheSession δ) Unit).Ends work
      (fun _ left => work.Cleared left ∧
        left.session = ({ work.session with
          journal := work.session.journal.noted (work.cache.buffers.map (·.evictionEntry)) } :
            Session δ).without work.cache.ownedStorage)
      (fun _ _ => False) (fun _ => ¬ work.Reliable) ∧
    (edit (·.abandonAll) : Act (CacheSession δ) Unit).Ends work
      (fun _ left => work.Cleared left ∧ left.session = work.session)
      (fun _ _ => False) (fun _ => False) ∧
    (∀ entry ∈ work.cache.buffers.map (·.evictionEntry), entry.severity = .debug) ∧
    ∀ journal, (StencilBuffer.dropAll (work.cache.buffers.map (·.abandon))).outcome journal =
      (.ok (), journal) := by
  refine ⟨?_, ?_, ?_, StencilBuffer.dropAll_abandoned_outcome work.cache.buffers⟩
  · refine (ends_purgeAll_cleared reached).ok fun _ left ok => ⟨ok.1, ?_⟩
    rw [StencilCache.ownedStorage_eq]
    exact ok.2
  · have coherent := reached.accounted.coherent.abandonAll
    exact Act.ends_modify ⟨cleared_of_find? coherent work.cache.find?_abandonAll rfl, rfl⟩
  · intro entry listed
    obtain ⟨buffer, -, rfl⟩ := List.mem_map.mp listed
    rfl

/-- Of three buffers one was released before and one wraps its storage. -/
theorem emptied_alike_after_release :
    ∃ work purged abandoned : CacheSession Recorder, Reachable .release {} work ∧
      work.cache.size = 3 ∧
      (purgeAll .release).outcome work = (.ok (), purged) ∧ work.Cleared purged ∧
      purged.session.backend.calls = work.session.backend.calls ++ [.deleteStencil ⟨2⟩] ∧
      (edit (·.abandonAll)).outcome work = (.ok (), abandoned) ∧ work.Cleared abandoned ∧
      abandoned.session = work.session ∧
      ∀ requests, ∃ seen,
        ((sights requests).outcome (⟨purged.cache, work.session⟩ : CacheSession Recorder)).1 =
          .ok seen ∧
        ((sights requests).outcome (⟨abandoned.cache, work.session⟩ : CacheSession Recorder)).1 =
          .ok seen := by
  let session : Session Recorder :=
    { backend := {}, dialect := .standardDesktop, journal := .ofLogger .quiet }
  let wrapped := StencilBuffer.made ⟨9⟩ .wrapped (some ⟨7⟩) ⟨32, 32, 8, 0⟩
  have start : Run .release (⟨{ budget := {} }, session⟩ : CacheSession Recorder) [] _ := .nil
  have first := start.next (.findOrCreate ⟨64, 32, 8, 4⟩) (.ok ⟨1, 1⟩) (by decide +kernel)
  have second := first.next (.findOrCreate ⟨16, 16, 8, 0⟩) (.ok ⟨2, 1⟩) (by decide +kernel)
  have third := second.next (.insert wrapped (StencilBuffer.keyed_made _ _ _ _)) (.ok ⟨3, 1⟩)
    (by decide +kernel)
  have last := third.next (.releaseInPlace ⟨1, 1⟩) (.ok true) (by decide +kernel)
  obtain ⟨work, reached, reliable, size, memory, calls⟩ : ∃ work : CacheSession Recorder,
      Reachable .release {} work ∧ work.Reliable ∧ work.cache.size = 3 ∧
        work.session.backend.outOfMemory = false ∧
        ((purgeAll .release).outcome work).2.session.backend.calls =
          work.session.backend.calls ++ [.deleteStencil ⟨2⟩] := by
    refine ⟨_, last.reachable, ?_, by decide +kernel⟩
    refine last.reliable Recorder.steady (by simp [Step.taken, Operation.Harmless]) ?_
    intro alarm opened kept entry
    cases opened
    rfl
  have calm : ∀ _ : CacheSession Recorder, ¬ ¬ work.Reliable := fun _ => not_not_intro reliable
  obtain ⟨purges, abandons, -, -⟩ := emptied_alike reached
  have purging : ((purgeAll .release).outcome work).1 = .ok () :=
    (purges.ok fun _ _ _ => rfl).answers calm
  have purged : (purgeAll .release).outcome work = (.ok (), _) := Prod.ext purging rfl
  have abandoned : (edit (·.abandonAll)).outcome work = (.ok (), _) := rfl
  obtain ⟨cleared, -⟩ := purges.of_answer purged
  obtain ⟨cleared', session'⟩ := abandons.of_answer abandoned
  refine ⟨work, _, _, reached, size, purged, cleared, calls, abandoned, cleared', session',
    fun requests => ?_⟩
  have generous := Recorder.generous memory
  exact ⟨_, (cleared.later work.session requests generous).answers calm,
    (cleared'.later work.session requests generous).answers calm⟩

end CacheSession

end RenderCore
