import RenderCore.Proofs.Stencil.AccountedStates
import RenderCore.Proofs.Stencil.PurgePlans

/-!
# Purges, round by round

A purge does what a loop does that evicts the least recently used buffer as long as the cache is
over its budget. The loop comes to an end: every key in the order of last use finds a buffer, so that
each round makes the cache smaller, and an empty cache is within every budget, even where totals
have wrapped around on the way.
-/

namespace RenderCore

variable {δ : Type} [backend : Backend δ] {build : Build}

theorem Session.reliable_evicting (session : Session δ) (buffer : StencilBuffer) :
    (session.evicting buffer).Reliable ↔ session.Reliable := by
  unfold Session.evicting Session.Reliable
  split
  · rw [Journal.reliable_noted, Journal.reliable_noted]
  · exact Journal.reliable_noted _

namespace CacheSession

variable {work : CacheSession δ} {key : ArenaKey} {buffer : StencilBuffer}

/-- The rounds of a purge: as long as a buffer has to go, it is evicted. The list has the keys of the
    buffers that went. -/
inductive PurgeRounds (build : Build) (keep : Option ArenaKey) :
    CacheSession δ → List ArenaKey → CacheSession δ → Prop where
  | halt {work : CacheSession δ} (settled : work.cache.victim? keep = none) :
      PurgeRounds build keep work [] work
  | round {work between left : CacheSession δ} {key : ArenaKey} {rest : List ArenaKey}
      {found : Bool} (next : work.cache.victim? keep = some key)
      (evicted : (evict build key).outcome work = (.ok found, between))
      (onward : PurgeRounds build keep between rest left) :
      PurgeRounds build keep work (key :: rest) left

/-- Unless a logger fails, an eviction takes the buffer out of the cache. -/
theorem ends_evict_live (accounted : work.cache.Accounted build)
    (live : work.cache.find? key = some buffer) :
    (evict build key).Ends work
      (fun _ left => (evict build key).outcome work = (.ok true, left) ∧
        left.cache = work.cache.discharge key ∧ (left.Reliable ↔ work.Reliable))
      (fun _ _ => False) fun _ => ¬ work.Reliable := by
  have ended := evict_outcome accounted key
  rw [live] at ended
  rw [Act.ends_iff_outcome]
  dsimp only at ended
  unfold Journal.heeded at ended
  cases alarmed : work.session.journal.alarmed [buffer.evictionEntry] with
  | true =>
    rw [alarmed, if_pos rfl] at ended
    rw [ended]
    intro reliable
    have calm := Journal.Reliable.alarmed reliable [buffer.evictionEntry]
    rw [alarmed] at calm
    contradiction
  | false =>
    rw [alarmed, if_neg Bool.false_ne_true] at ended
    rw [ended]
    exact ⟨rfl, rfl, work.session.reliable_evicting buffer⟩

/-- The evictions that were planned are the rounds of the purge. -/
theorem ends_evictAll_rounds (accounted : work.cache.Accounted build) {keep : Option ArenaKey}
    {keys : List ArenaKey} (plan : work.cache.excess keep = keys) :
    (keys.forM fun key => discard (evict build key) : Act (CacheSession δ) PUnit).Ends work
      (fun _ left => PurgeRounds build keep work keys left ∧
        left.cache = keys.foldl StencilCache.discharge work.cache)
      (fun _ _ => False) fun _ => ¬ work.Reliable := by
  induction keys generalizing work with
  | nil => exact ⟨.halt (accounted.coherent.settled_of_excess plan), rfl⟩
  | cons key rest ih =>
    obtain ⟨next, onward⟩ := accounted.coherent.next_of_excess plan
    obtain ⟨buffer, live⟩ := accounted.coherent.recent.live_of_victim? next
    have evicted : (discard (evict build key) : Act (CacheSession δ) Unit).Ends work
        (fun _ between => (evict build key).outcome work = (.ok true, between) ∧
          between.cache = work.cache.discharge key ∧ (between.Reliable ↔ work.Reliable))
        (fun _ _ => False) fun _ => ¬ work.Reliable :=
      (ends_evict_live accounted live).discard
    refine evicted.bind fun _ between ok => ?_
    obtain ⟨ended, cache, reliable⟩ := ok
    have rounds := @ih between (cache ▸ accounted.discharge key) (cache ▸ onward)
    refine rounds.imp (fun _ left ok => ⟨.round next ended ok.1, ?_⟩) (fun _ _ failed => failed)
      fun _ cut calm => cut (reliable.mpr calm)
    rw [ok.2, cache, List.foldl_cons]

theorem ends_purgeSparing_rounds (accounted : work.cache.Accounted build)
    (keep : Option ArenaKey) :
    (purgeSparing build keep).Ends work
      (fun count left => count = (work.cache.excess keep).length ∧
        PurgeRounds build keep work (work.cache.excess keep) left ∧
        left.cache = (work.cache.excess keep).foldl StencilCache.discharge work.cache)
      (fun _ _ => False) fun _ => ¬ work.Reliable := by
  unfold purgeSparing
  apply Act.ends_get_bind
  exact (ends_evictAll_rounds accounted rfl).bind fun _ _ ok => Act.ends_pure ⟨rfl, ok⟩

/-- A purge of a cache within its budget does nothing. -/
theorem purge_outcome_of_within (coherent : work.cache.Coherent) (within : work.cache.Within) :
    (purge build).outcome work = (.ok 0, work) := by
  have plan := coherent.excess_eq none
  rw [StencilCache.victim?_of_within within] at plan
  unfold purge purgeSparing
  rw [Act.outcome_get_bind, plan]
  rfl

end CacheSession

/-! ## What is kept -/

namespace StencilCache

variable {cache : StencilCache} {key : ArenaKey}

theorem keys_eq_singleton (live : cache.contains key)
    (alone : ∀ other buffer, cache.find? other = some buffer → some key = some other) :
    cache.keys = [key] := by
  have distinct : cache.keys.Nodup := Arena.nodup_keys_toList cache.entries
  have own : ∀ other ∈ cache.keys, other = key := by
    intro other listed
    obtain ⟨buffer, found⟩ := mem_keys.mp listed
    exact (Option.some.inj (alone other buffer found)).symm
  rw [contains_eq, Option.isSome_iff_exists] at live
  have member := mem_keys.mpr live
  cases listed : cache.keys with
  | nil =>
    rw [listed] at member
    contradiction
  | cons first rest =>
    rw [listed] at distinct own
    obtain rfl := own first List.mem_cons_self
    rw [List.nodup_cons] at distinct
    have empty : rest = [] := by
      rw [List.eq_nil_iff_forall_not_mem]
      intro other more
      obtain rfl := own other (List.mem_cons_of_mem first more)
      exact distinct.1 more
    rw [empty]

/-- A purge spares the buffer to keep. It leaves the cache within its budget, or with that buffer
    alone. -/
theorem Coherent.spared (coherent : cache.Coherent) (live : cache.contains key) :
    let left := (cache.excess (some key)).foldl StencilCache.discharge cache
    left.contains key ∧ (left.Within ∨ left.keys = [key]) := by
  intro left
  have stays : left.contains key := by
    rw [contains_eq] at live ⊢
    rw [find?_dischargeAll, if_neg (not_mem_excess cache key)]
    exact live
  refine ⟨stays, ?_⟩
  have settled := coherent.settled_dischargeAll (some key)
  rcases (coherent.dischargeAll _).recent.within_or_alone settled with within | alone
  · exact .inl within
  · exact .inr (keys_eq_singleton stays alone)

end StencilCache

/-- A new buffer is in the cache. -/
theorem Holding.Allocates.contains {held left : Holding δ} {lifeCycle : LifeCycle}
    {shape : StencilShape} {key : ArenaKey} (allocates : held.Allocates lifeCycle shape (.ok key) left)
    (coherent : held.cache.Coherent) : left.cache.contains key := by
  cases allocates with
  | made given =>
    rw [StencilCache.contains_eq, StencilCache.find?_lodge coherent.tidy, if_pos rfl]
    rfl

theorem Holding.Acquires.spared {held left : Holding δ} {shape : StencilShape} {key : ArenaKey}
    (acquires : held.Acquires shape (.ok key) left) (coherent : held.cache.Coherent)
    (absent : (held.cache.findScratch shape.scratchKey).1 = none) :
    left.cache.contains key ∧ (left.cache.Within ∨ left.cache.keys = [key]) := by
  cases acquires with
  | hit found =>
    rw [absent] at found
    contradiction
  | miss _ allocated =>
    rw [cache_evictAll]
    exact (allocated.coherent coherent).spared (allocated.contains coherent)

/-! ## Where purges stop -/

section stops

variable {budget : CacheBudget} {work : CacheSession δ}

open CacheSession

theorem ends_purge_within (accounted : work.cache.Accounted build) :
    (purge build).Ends work
      (fun count left => let evicted := work.cache.recency.oldestFirst.take count
        evicted.length = count ∧ PurgeRounds build none work evicted left ∧
        left.cache.budget = work.cache.budget ∧ left.cache.Within ∧
        (∀ key, left.cache.find? key = if key ∈ evicted then none else work.cache.find? key) ∧
        work.cache.FitsWithout count ∧ (∀ fewer < count, ¬ work.cache.FitsWithout fewer) ∧
        (purge build).outcome left = (.ok 0, left))
      (fun _ _ => False) fun _ => ¬ work.Reliable := by
  have coherent := accounted.coherent
  refine (ends_purgeSparing_rounds accounted none).ok fun count left ok => ?_
  obtain ⟨rfl, rounds, cache⟩ := ok
  obtain ⟨front, fits, shortest⟩ := coherent.excess_shortest
  have after : left.cache.Coherent := cache ▸ coherent.dischargeAll _
  have within : left.cache.Within := by
    apply after.within_of_settled
    rw [cache]
    exact coherent.settled_dischargeAll none
  intro evicted
  have evicted_eq : evicted = work.cache.excess none := front.symm
  rw [evicted_eq]
  refine ⟨rfl, rounds, ?_, within, fun key => ?_, fits, shortest, ?_⟩
  · rw [cache, StencilCache.budget_dischargeAll]
  · rw [cache, StencilCache.find?_dischargeAll]
  · exact purge_outcome_of_within after within

/-- The new buffer of a look-up that missed is spared in the purge that follows. -/
theorem ends_findOrCreate_spared (coherent : work.cache.Coherent) {shape : StencilShape}
    (absent : (work.cache.findScratch shape.scratchKey).1 = none) :
    (findOrCreate build shape).Ends work
      (fun key left => left.cache.contains key ∧
        (left.cache.Within ∨ left.cache.keys = [key])) (fun _ _ => True) fun _ => True := by
  have acquired := (stricter_findOrCreate build shape).ends
    (@ends_findOrCreate δ work.holding work (backend.fixed build) rfl shape)
  refine acquired.imp (fun key left acquires => ?_) (fun _ _ _ => trivial) fun _ _ => trivial
  exact @Holding.Acquires.spared δ (backend.fixed build) _ _ _ _ acquires coherent absent

/-- A purge in any state that a program can reach, with whatever budget and in either build, comes to
    an end unless a logger fails. It does what the rounds do that evict the least recently used buffer
    as long as the cache is over its budget, and leaves the cache within it. What it evicts is the
    shortest part of the order of last use without which the cache is within its budget, and it
    answers how many that are; a second purge has nothing to do. So do the rounds that follow the
    allocation of a buffer. They spare that buffer, and leave the cache within its budget or with
    that buffer alone. -/
theorem purge_stops_within_budget (reached : Reachable build budget work) :
    (purge build).Ends work
      (fun count left => let evicted := work.cache.recency.oldestFirst.take count
        evicted.length = count ∧ PurgeRounds build none work evicted left ∧
        left.cache.budget = work.cache.budget ∧ left.cache.Within ∧
        (∀ key, left.cache.find? key = if key ∈ evicted then none else work.cache.find? key) ∧
        work.cache.FitsWithout count ∧ (∀ fewer < count, ¬ work.cache.FitsWithout fewer) ∧
        (purge build).outcome left = (.ok 0, left))
      (fun _ _ => False) (fun _ => ¬ work.Reliable) ∧
    (∀ (shape : StencilShape) (key : ArenaKey) (between : CacheSession δ),
      (allocate build .cached shape).outcome work = (.ok key, between) →
      (purgeSparing build (some key)).Ends between
        (fun count left => ∃ evicted, evicted.length = count ∧
          PurgeRounds build (some key) between evicted left ∧ left.cache.contains key ∧
          (left.cache.Within ∨ left.cache.keys = [key]))
        (fun _ _ => False) fun _ => ¬ between.Reliable) ∧
    (∀ shape : StencilShape, (work.cache.findScratch shape.scratchKey).1 = none →
      (findOrCreate build shape).Ends work
        (fun key left => left.cache.contains key ∧
          (left.cache.Within ∨ left.cache.keys = [key]))
        (fun _ _ => True) fun _ => True) := by
  have accounted := reached.accounted
  refine ⟨ends_purge_within accounted, fun shape key between made => ?_,
    fun shape absent => ends_findOrCreate_spared accounted.coherent absent⟩
  have next : Reachable build budget between := .step (.allocate .cached shape) reached made
  have allocated := (stricter_allocate build .cached shape).answered
    (@ends_allocate δ work.holding work (backend.fixed build) rfl .cached shape) made
  have live := @Holding.Allocates.contains δ (backend.fixed build) _ _ _ _ _ allocated
    accounted.coherent
  refine (ends_purgeSparing_rounds next.accounted (some key)).ok fun count left ok => ?_
  obtain ⟨rfl, rounds, cache⟩ := ok
  refine ⟨_, rfl, rounds, ?_⟩
  rw [cache]
  exact next.accounted.coherent.spared live

/-- With room for one buffer, a purge evicts the first of two. -/
theorem purge_stops_at_last : ∃ work left : CacheSession Software,
    Reachable .release {} work ∧ (purge .release).outcome work = (.ok 1, left) ∧
      work.cache.recency.oldestFirst = [⟨1, 1⟩, ⟨2, 1⟩] ∧ left.cache.Within ∧
      left.cache.find? ⟨1, 1⟩ = none ∧ left.cache.find? ⟨2, 1⟩ ≠ none ∧
      PurgeRounds .release none work [⟨1, 1⟩] left ∧ ¬ work.cache.FitsWithout 0 := by
  have start : Run .release
      (⟨{ budget := {} }, .software none⟩ : CacheSession Software) [] _ := .nil
  have first := start.next (.findOrCreate ⟨64, 32, 8, 4⟩) (.ok ⟨1, 1⟩) (by decide +kernel)
  have second := first.next (.findOrCreate ⟨16, 16, 8, 0⟩) (.ok ⟨2, 1⟩) (by decide +kernel)
  have limited := second.next (.setBudget { maxCount := 1 }) (.ok ()) rfl
  obtain ⟨work, reached, answered, order, live⟩ : ∃ work : CacheSession Software,
      Reachable .release {} work ∧ ((purge .release).outcome work).1 = .ok 1 ∧
        work.cache.recency.oldestFirst = [⟨1, 1⟩, ⟨2, 1⟩] ∧ work.cache.find? ⟨2, 1⟩ ≠ none :=
    ⟨_, limited.reachable, by decide +kernel⟩
  obtain ⟨ends, -⟩ := purge_stops_within_budget reached
  have ended : (purge .release).outcome work = (.ok 1, _) := Prod.ext answered rfl
  obtain ⟨-, rounds, -, within, found, -, shortest, -⟩ := ends.of_answer ended
  simp only [order] at rounds found
  refine ⟨work, _, reached, ended, order, within, ?_, ?_, rounds, shortest 0 (by decide)⟩
  · rw [found, if_pos (by decide)]
  · rw [found, if_neg (by decide)]
    exact live

end stops

end RenderCore
