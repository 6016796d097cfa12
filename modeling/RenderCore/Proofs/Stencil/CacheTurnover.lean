import RenderCore.Proofs.Stencil.CacheCoherence

/-!
# Buffers coming and going

What an insertion, an eviction and the loss of all buffers do to the cache, and that they keep it
coherent. An inserted buffer gets a key that found nothing before; an evicted one is missed by its
own key only.
-/

namespace RenderCore.StencilCache

/-! ## Insertion -/

/-- Puts a buffer into the cache as the most recently used one, and counts it. -/
def lodge (cache : StencilCache) (buffer : StencilBuffer) : ArenaKey × StencilCache :=
  cache.tick.place buffer (cache.totalBytes + buffer.shape.bytes)

/-- The entry of a buffer that is put into the cache. -/
def newEntry (cache : StencilCache) (buffer : StencilBuffer) : CachedBuffer :=
  { buffer, lastUse := cache.clock + 1 }

section lodge

variable (cache : StencilCache) (buffer : StencilBuffer)

theorem lodge_recency :
    (cache.lodge buffer).2.recency =
      cache.recency.note (cache.clock + 1) (cache.lodge buffer).1 := rfl

theorem lodge_clock : (cache.lodge buffer).2.clock = cache.clock + 1 := rfl

theorem lodge_totalBytes :
    (cache.lodge buffer).2.totalBytes = cache.totalBytes + buffer.shape.bytes := rfl

theorem lodge_index :
    (cache.lodge buffer).2.index =
      match buffer.header.scratchKey with
      | some scratch => cache.index.add scratch (cache.lodge buffer).1
      | none => cache.index := rfl

end lodge

variable {cache : StencilCache} {buffer : StencilBuffer}

theorem find?_entries_lodge_key (tidy : cache.entries.Tidy) (buffer : StencilBuffer) :
    cache.entries.find? (cache.lodge buffer).1 = none :=
  Arena.find?_insert_key tidy _

theorem find?_lodge_key (tidy : cache.entries.Tidy) (buffer : StencilBuffer) :
    cache.find? (cache.lodge buffer).1 = none := by
  rw [find?, find?_entries_lodge_key tidy, Option.map_none]

theorem entries_lodge (tidy : cache.entries.Tidy) (buffer : StencilBuffer) (other : ArenaKey) :
    (cache.lodge buffer).2.entries.find? other =
      if other = (cache.lodge buffer).1 then some (cache.newEntry buffer)
      else cache.entries.find? other :=
  Arena.find?_insert tidy _ other

theorem find?_lodge (tidy : cache.entries.Tidy) (buffer : StencilBuffer) (other : ArenaKey) :
    (cache.lodge buffer).2.find? other =
      if other = (cache.lodge buffer).1 then some buffer else cache.find? other := by
  rw [find?, entries_lodge tidy]
  by_cases same : other = (cache.lodge buffer).1
  · rw [if_pos same, if_pos same]
    rfl
  · rw [if_neg same, if_neg same, find?]

theorem heldBytes_lodge (tidy : cache.entries.Tidy) (buffer : StencilBuffer) :
    (cache.lodge buffer).2.heldBytes = buffer.shape.bytes.toNat + cache.heldBytes := by
  have perm : (cache.lodge buffer).2.buffers.Perm (buffer :: cache.buffers) :=
    (Arena.toList_insert tidy (cache.newEntry buffer)).map
      (fun item : ArenaKey × CachedBuffer => item.2.buffer)
  rw [heldBytes, (perm.map _).sum_nat, List.map_cons, List.sum_cons, heldBytes]

theorem RecencyAgrees.lodge (agrees : cache.RecencyAgrees) (tidy : cache.entries.Tidy)
    (buffer : StencilBuffer) : (cache.lodge buffer).2.RecencyAgrees := by
  refine ⟨fun stamp other => ?_, fun other entry found => ?_⟩
  · rw [lodge_recency, Recency.getElem?_note, entries_lodge tidy]
    by_cases same : other = (cache.lodge buffer).1
    · by_cases latest : cache.clock + 1 = stamp
      · simp [same, latest, newEntry]
      · have unused : cache.recency.byStamp[stamp]? ≠ some (cache.lodge buffer).1 := by
          intro noted
          obtain ⟨entry, found, -⟩ := (agrees.noted stamp _).mp noted
          rw [find?_entries_lodge_key tidy] at found
          contradiction
        simp [same, latest, newEntry, unused]
    · rw [if_neg same]
      by_cases latest : cache.clock + 1 = stamp
      · have early : ∀ entry, cache.entries.find? other = some entry → entry.lastUse ≠ stamp := by
          intro entry found
          have := agrees.stamped other entry found
          omega
        simpa [latest, Ne.symm same] using early
      · rw [if_neg latest, agrees.noted]
  · rw [entries_lodge tidy] at found
    rw [lodge_clock]
    by_cases same : other = (cache.lodge buffer).1
    · rw [if_pos same, Option.some.injEq] at found
      subst found
      exact Nat.le_refl _
    · rw [if_neg same] at found
      exact Nat.le_succ_of_le (agrees.stamped other entry found)

theorem listed_lodge (agrees : cache.IndexAgrees) (buffer : StencilBuffer) (scratch : ScratchKey) :
    (cache.lodge buffer).2.index.listed scratch =
      if buffer.header.scratchKey = some scratch then
        cache.index.listed scratch ++ [(cache.lodge buffer).1]
      else cache.index.listed scratch := by
  rw [lodge_index]
  cases buffer.header.scratchKey with
  | none => simp
  | some own =>
    dsimp only
    rw [ScratchIndex.listed_add agrees.distinct]
    by_cases same : scratch = own
    · simp [same]
    · simp [same, Ne.symm same]

theorem IndexAgrees.lodge (agrees : cache.IndexAgrees) (tidy : cache.entries.Tidy)
    (keyed : buffer.Keyed) : (cache.lodge buffer).2.IndexAgrees := by
  have unlisted : ∀ scratch, (cache.lodge buffer).1 ∉ cache.index.listed scratch := by
    intro scratch member
    obtain ⟨held, found, -⟩ := (agrees.listed scratch _).mp member
    rw [find?_lodge_key tidy] at found
    contradiction
  refine ⟨?_, fun scratch => ?_, fun scratch => ?_, fun scratch other => ?_,
    fun other held found => ?_⟩
  · rw [lodge_index]
    cases buffer.header.scratchKey with
    | none => exact agrees.distinct
    | some scratch => exact ScratchIndex.distinct_add agrees.distinct _ _
  · rw [lodge_index]
    cases buffer.header.scratchKey with
    | none => exact agrees.inhabited scratch
    | some own =>
      dsimp only
      rw [ScratchIndex.find?_add agrees.distinct]
      by_cases same : scratch = own
      · simp [same]
      · simpa [same] using agrees.inhabited scratch
  · rw [listed_lodge agrees]
    split
    · rw [List.nodup_append]
      refine ⟨agrees.nodup scratch, List.nodup_singleton _, ?_⟩
      rintro key member _ last rfl
      obtain rfl := List.mem_singleton.mp last
      exact unlisted scratch member
    · exact agrees.nodup scratch
  · rw [listed_lodge agrees, find?_lodge tidy]
    by_cases same : other = (cache.lodge buffer).1
    · by_cases form : buffer.header.scratchKey = some scratch <;>
        simp [same, form, unlisted scratch]
    · rw [if_neg same, ← agrees.listed]
      by_cases form : buffer.header.scratchKey = some scratch <;> simp [form, same]
  · rw [find?_lodge tidy] at found
    by_cases same : other = (cache.lodge buffer).1
    · rw [if_pos same, Option.some.injEq] at found
      exact found ▸ keyed
    · rw [if_neg same] at found
      exact agrees.keyed other held found

theorem Counted.lodge (counted : cache.Counted) (tidy : cache.entries.Tidy)
    (buffer : StencilBuffer) : (cache.lodge buffer).2.Counted := by
  rw [Counted] at counted ⊢
  rw [heldBytes_lodge tidy, lodge_totalBytes, UInt64.toNat_add]
  omega

theorem Coherent.lodge (coherent : cache.Coherent) (keyed : buffer.Keyed) :
    (cache.lodge buffer).2.Coherent where
  tidy := Arena.tidy_insert coherent.tidy _
  recent := coherent.recent.lodge coherent.tidy buffer
  indexed := coherent.indexed.lodge coherent.tidy keyed
  counted := coherent.counted.lodge coherent.tidy buffer

/-! ## Eviction -/

/-- Takes the buffer of a key out of the cache and counts it out. -/
def discharge (cache : StencilCache) (key : ArenaKey) : StencilCache :=
  match cache.remove? key with
  | some (buffer, rest) => { rest with totalBytes := rest.totalBytes - buffer.shape.bytes }
  | none => cache

theorem remove?_of_none {key : ArenaKey} (stale : cache.find? key = none) :
    cache.remove? key = none := by
  rw [find?, Option.map_eq_none_iff, ← Arena.remove?_eq_none] at stale
  simp [remove?, stale]

theorem discharge_of_none {key : ArenaKey} (stale : cache.find? key = none) :
    cache.discharge key = cache := by
  simp [discharge, remove?_of_none stale]

/-- What an eviction leaves, part by part. -/
theorem discharge_of_some {key : ArenaKey} (live : cache.find? key = some buffer) :
    ∃ stamp entries, cache.entries.remove? key = some (⟨buffer, stamp⟩, entries) ∧
      (∃ rest, cache.remove? key = some (buffer, rest)) ∧
      cache.discharge key =
        { cache with
          entries
          index := match buffer.header.scratchKey with
            | some scratch => cache.index.remove scratch key
            | none => cache.index
          recency := cache.recency.forget stamp
          totalBytes := cache.totalBytes - buffer.shape.bytes } := by
  obtain ⟨stamp, found⟩ := find?_eq_some.mp live
  cases removed : cache.entries.remove? key with
  | none =>
    rw [Arena.remove?_eq_none.mp removed] at found
    contradiction
  | some pair =>
    obtain ⟨entry, entries⟩ := pair
    have same := Arena.find?_of_remove? removed
    rw [found, Option.some.injEq] at same
    subst same
    have taken : cache.remove? key = some (buffer,
        { cache with
          entries
          index := match buffer.header.scratchKey with
            | some scratch => cache.index.remove scratch key
            | none => cache.index
          recency := cache.recency.forget stamp }) := by
      rewrite [remove?, removed]
      rfl
    exact ⟨stamp, entries, rfl, ⟨_, taken⟩, by rw [discharge, taken]⟩

theorem remove?_of_some {key : ArenaKey} (live : cache.find? key = some buffer) :
    ∃ rest, cache.remove? key = some (buffer, rest) ∧
      cache.discharge key = { rest with totalBytes := rest.totalBytes - buffer.shape.bytes } := by
  obtain ⟨_, _, -, ⟨rest, removed⟩, -⟩ := discharge_of_some live
  exact ⟨rest, removed, by rw [discharge, removed]⟩

theorem index_discharge {key : ArenaKey} (live : cache.find? key = some buffer) :
    (cache.discharge key).index =
      match buffer.header.scratchKey with
      | some scratch => cache.index.remove scratch key
      | none => cache.index := by
  obtain ⟨_, _, -, -, left⟩ := discharge_of_some live
  rw [left]

theorem entries_discharge (cache : StencilCache) (key other : ArenaKey) :
    (cache.discharge key).entries.find? other =
      if other = key then none else cache.entries.find? other := by
  cases live : cache.find? key with
  | none =>
    rw [discharge_of_none live]
    by_cases same : other = key
    · rw [if_pos same, same]
      simpa [find?] using live
    · rw [if_neg same]
  | some buffer =>
    obtain ⟨stamp, entries, removed, -, left⟩ := discharge_of_some live
    rw [left]
    exact Arena.find?_remove? removed other

@[simp] theorem find?_discharge (cache : StencilCache) (key other : ArenaKey) :
    (cache.discharge key).find? other = if other = key then none else cache.find? other := by
  rw [find?, entries_discharge]
  by_cases same : other = key <;> simp [same, find?]

@[simp] theorem budget_discharge (cache : StencilCache) (key : ArenaKey) :
    (cache.discharge key).budget = cache.budget := by
  cases live : cache.find? key with
  | none => rw [discharge_of_none live]
  | some buffer =>
    obtain ⟨_, _, -, -, left⟩ := discharge_of_some live
    rw [left]

theorem tidy_discharge (tidy : cache.entries.Tidy) (key : ArenaKey) :
    (cache.discharge key).entries.Tidy := by
  cases live : cache.find? key with
  | none => rwa [discharge_of_none live]
  | some buffer =>
    obtain ⟨stamp, entries, removed, -, left⟩ := discharge_of_some live
    rw [left]
    exact Arena.tidy_remove? tidy removed

theorem RecencyAgrees.discharge (agrees : cache.RecencyAgrees) (key : ArenaKey) :
    (cache.discharge key).RecencyAgrees := by
  have entries := entries_discharge cache key
  cases live : cache.find? key with
  | none => rwa [discharge_of_none live]
  | some buffer =>
    obtain ⟨stamp, rest, removed, -, left⟩ := discharge_of_some live
    have own : cache.entries.find? key = some ⟨buffer, stamp⟩ := Arena.find?_of_remove? removed
    rw [left] at entries ⊢
    refine ⟨fun time other => ?_, fun other entry found => ?_⟩
    · rw [Recency.getElem?_forget, entries]
      by_cases old : stamp = time
      · have others : ∀ entry, cache.entries.find? other = some entry → other ≠ key →
            entry.lastUse ≠ time := by
          intro entry found apart same
          exact apart (agrees.stamp_injective found own (same.trans old.symm))
        by_cases same : other = key
        · simp [old, same]
        · simpa [old, same] using fun entry found => others entry found same
      · rw [if_neg old, agrees.noted]
        by_cases same : other = key
        · simp [same, own, old]
        · rw [if_neg same]
    · rw [entries] at found
      by_cases same : other = key
      · simp [same] at found
      · rw [if_neg same] at found
        exact agrees.stamped other entry found

/-- An eviction takes a key out of the one list that has it. -/
theorem listed_discharge (agrees : cache.IndexAgrees) (key : ArenaKey) (scratch : ScratchKey) :
    (cache.discharge key).index.listed scratch = (cache.index.listed scratch).filter (· ≠ key) := by
  have others : key ∉ cache.index.listed scratch →
      cache.index.listed scratch = (cache.index.listed scratch).filter (· ≠ key) := by
    intro unlisted
    rw [eq_comm, List.filter_eq_self]
    intro other member
    rw [decide_eq_true_eq]
    rintro rfl
    exact unlisted member
  cases live : cache.find? key with
  | none =>
    rw [discharge_of_none live]
    apply others
    rw [agrees.listed, live]
    simp
  | some buffer =>
    rw [index_discharge live]
    have own := agrees.listed scratch key
    simp only [live, Option.some.injEq, exists_eq_left'] at own
    cases form : buffer.header.scratchKey with
    | none =>
      rw [form] at own
      exact others (by simp [own])
    | some held =>
      dsimp only
      rw [ScratchIndex.listed_remove agrees.distinct]
      by_cases same : scratch = held
      · rw [if_pos same, same]
      · rw [if_neg same]
        rw [form, Option.some.injEq] at own
        exact others (by simp [own, Ne.symm same])

theorem IndexAgrees.discharge (agrees : cache.IndexAgrees) (key : ArenaKey) :
    (cache.discharge key).IndexAgrees := by
  cases live : cache.find? key with
  | none => rwa [discharge_of_none live]
  | some buffer =>
    have index := index_discharge live
    refine ⟨?_, fun scratch => ?_, fun scratch => ?_, fun scratch other => ?_,
      fun other held found => ?_⟩
    · rw [index]
      split
      · exact ScratchIndex.distinct_remove agrees.distinct _ _
      · exact agrees.distinct
    · rw [index]
      split
      · rename_i own _
        rw [ScratchIndex.find?_remove agrees.distinct]
        by_cases same : scratch = own
        · simp [same, Option.filter_eq_some_iff]
        · rw [if_neg same]
          exact agrees.inhabited scratch
      · exact agrees.inhabited scratch
    · rw [listed_discharge agrees]
      exact (agrees.nodup scratch).filter _
    · rw [listed_discharge agrees, List.mem_filter, decide_eq_true_eq, agrees.listed,
        find?_discharge]
      by_cases same : other = key <;> simp [same]
    · rw [find?_discharge, Option.ite_none_left_eq_some] at found
      exact agrees.keyed other held found.2

theorem heldBytes_discharge {key : ArenaKey} (live : cache.find? key = some buffer) :
    cache.heldBytes = buffer.shape.bytes.toNat + (cache.discharge key).heldBytes := by
  obtain ⟨stamp, entries, removed, -, left⟩ := discharge_of_some live
  have perm : cache.buffers.Perm (buffer :: (cache.discharge key).buffers) := by
    rw [left]
    exact (Arena.toList_remove? removed).map
      (fun item : ArenaKey × CachedBuffer => item.2.buffer)
  rw [heldBytes, (perm.map _).sum_nat, List.map_cons, List.sum_cons, heldBytes]

theorem Counted.discharge (counted : cache.Counted) (key : ArenaKey) :
    (cache.discharge key).Counted := by
  cases live : cache.find? key with
  | none => rwa [discharge_of_none live]
  | some buffer =>
    obtain ⟨stamp, entries, removed, -, left⟩ := discharge_of_some live
    have held := heldBytes_discharge live
    have small := buffer.shape.bytes.toNat_lt
    rw [Counted, held] at counted
    rw [Counted]
    have total : (cache.discharge key).totalBytes = cache.totalBytes - buffer.shape.bytes := by
      rw [left]
    rw [total, UInt64.toNat_sub]
    omega

theorem Coherent.discharge (coherent : cache.Coherent) (key : ArenaKey) :
    (cache.discharge key).Coherent where
  tidy := tidy_discharge coherent.tidy key
  recent := coherent.recent.discharge key
  indexed := coherent.indexed.discharge key
  counted := coherent.counted.discharge key

/-! ## The loss of all buffers -/

@[simp] theorem find?_abandonAll (cache : StencilCache) (key : ArenaKey) :
    cache.abandonAll.find? key = none := by
  simp [find?, abandonAll]

theorem Coherent.abandonAll (coherent : cache.Coherent) : cache.abandonAll.Coherent where
  tidy := Arena.tidy_clear coherent.tidy
  recent := ⟨by simp [StencilCache.abandonAll], by simp [StencilCache.abandonAll]⟩
  indexed := ⟨ScratchIndex.distinct_empty, by simp [StencilCache.abandonAll],
    by simp [StencilCache.abandonAll, ScratchIndex.listed],
    by simp [StencilCache.abandonAll, ScratchIndex.listed, find?], by simp⟩
  counted := by simp [Counted, heldBytes, buffers, StencilCache.abandonAll]

theorem Coherent.setBudget (coherent : cache.Coherent) (budget : CacheBudget) :
    (cache.setBudget budget).Coherent where
  tidy := coherent.tidy
  recent := ⟨coherent.recent.noted, coherent.recent.stamped⟩
  indexed := coherent.indexed.alike rfl (alike_of_find?_eq fun _ => rfl)
  counted := coherent.counted.alike rfl (alike_of_find?_eq fun _ => rfl)

end RenderCore.StencilCache
