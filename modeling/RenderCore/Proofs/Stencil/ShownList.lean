import RenderCore.Proofs.Stencil.RecentList
import RenderCore.Proofs.Stencil.Runs

/-!
# The list that a cache shows

A cache shows a list of recently used buffers when it has the list's buffers under the list's keys,
in the list's order of use. What an operation does to the cache, it does to the list shown.
-/

namespace RenderCore

/-! ## The order of use -/

theorem Recency.oldestFirst_note {recency : Recency} {stamp : Nat}
    (latest : ∀ use ∈ recency.uses, use.1 < stamp) (key : ArenaKey) :
    (recency.note stamp key).oldestFirst = recency.oldestFirst ++ [key] := by
  rw [oldestFirst, uses_note latest, List.map_append, oldestFirst]
  rfl

namespace StencilCache

variable {cache : StencilCache} {list : RecentList} {key : ArenaKey} {buffer : StencilBuffer}

theorem RecencyAgrees.uses_le (agrees : cache.RecencyAgrees) :
    ∀ use ∈ cache.recency.uses, use.1 < cache.clock + 1 := by
  intro use member
  obtain ⟨entry, found, stamp⟩ := (agrees.noted use.1 use.2).mp (Recency.mem_uses.mp member)
  have := agrees.stamped use.2 entry found
  omega

theorem RecencyAgrees.oldestFirst_forget (agrees : cache.RecencyAgrees) {entry : CachedBuffer}
    (live : cache.entries.find? key = some entry) :
    (cache.recency.forget entry.lastUse).oldestFirst =
      cache.recency.oldestFirst.filter (· ≠ key) := by
  rw [Recency.oldestFirst, Recency.uses_forget, Recency.oldestFirst, List.filter_map]
  congr 1
  apply List.filter_congr
  intro use member
  obtain ⟨entry', found, stamp⟩ := (agrees.noted use.1 use.2).mp (Recency.mem_uses.mp member)
  have same : use.1 = entry.lastUse ↔ use.2 = key := by
    constructor
    · intro same
      exact agrees.stamp_injective found live (stamp.trans same)
    · intro same
      rw [same, live, Option.some.injEq] at found
      rw [← stamp, found]
  simp [same]

/-- Keys come in the order of their stamps. -/
theorem RecencyAgrees.oldestFirst_ordered (agrees : cache.RecencyAgrees) :
    cache.recency.oldestFirst.Pairwise fun key later =>
      cache.lastUse key < cache.lastUse later := by
  have stamped : ∀ use ∈ cache.recency.uses, cache.lastUse use.2 = use.1 := by
    intro use member
    obtain ⟨entry, found, stamp⟩ := (agrees.noted use.1 use.2).mp (Recency.mem_uses.mp member)
    rw [lastUse, found]
    exact stamp
  rw [Recency.oldestFirst, List.pairwise_map]
  refine (Recency.uses_ordered cache.recency).imp_of_mem ?_
  intro use later member member' less
  rw [stamped use member, stamped later member']
  exact less

theorem RecencyAgrees.nodup_oldestFirst (agrees : cache.RecencyAgrees) :
    cache.recency.oldestFirst.Nodup := by
  refine agrees.oldestFirst_ordered.imp ?_
  intro key later less same
  rw [same] at less
  exact Nat.lt_irrefl _ less

/-- The order of last use has the keys that find a buffer. -/
theorem RecencyAgrees.mem_oldestFirst_iff (agrees : cache.RecencyAgrees) :
    key ∈ cache.recency.oldestFirst ↔ ∃ buffer, cache.find? key = some buffer := by
  rw [Recency.oldestFirst, List.mem_map]
  constructor
  · rintro ⟨use, member, rfl⟩
    obtain ⟨entry, found, -⟩ := (agrees.noted use.1 use.2).mp (Recency.mem_uses.mp member)
    exact ⟨entry.buffer, find?_eq_some.mpr ⟨entry.lastUse, found⟩⟩
  · rintro ⟨buffer, live⟩
    obtain ⟨stamp, found⟩ := find?_eq_some.mp live
    exact ⟨(stamp, key), Recency.mem_uses.mpr ((agrees.noted stamp key).mpr ⟨_, found, rfl⟩), rfl⟩

theorem RecencyAgrees.oldestFirst_discharge (agrees : cache.RecencyAgrees) (key : ArenaKey) :
    (cache.discharge key).recency.oldestFirst = cache.recency.oldestFirst.filter (· ≠ key) := by
  cases live : cache.find? key with
  | none =>
    rw [discharge_of_none live, eq_comm, List.filter_eq_self]
    intro other listed
    obtain ⟨buffer, found⟩ := agrees.mem_oldestFirst_iff.mp listed
    rw [decide_eq_true_eq]
    rintro rfl
    rw [live] at found
    contradiction
  | some buffer =>
    obtain ⟨stamp, entries, removed, -, left⟩ := discharge_of_some live
    rw [left]
    exact agrees.oldestFirst_forget (Arena.find?_of_remove? removed)

/-! ## Keys in excess -/

theorem excessOf_prefix (cache : StencilCache) (count : Nat) (bytes : UInt64)
    (keys : List ArenaKey) : cache.excessOf count bytes keys <+: keys := by
  induction keys generalizing count bytes with
  | nil => exact List.nil_prefix
  | cons key rest ih =>
    rw [excessOf]
    split
    · exact List.nil_prefix
    · exact List.prefix_cons_inj key |>.mpr (ih _ _)

/-- The key to keep is not among those to be evicted. -/
theorem not_mem_excess (cache : StencilCache) (key : ArenaKey) :
    key ∉ cache.excess (some key) := by
  intro member
  have listed := (cache.excessOf_prefix _ _ _).subset member
  simp at listed

theorem RecencyAgrees.nodup_excess (agrees : cache.RecencyAgrees) (keep : Option ArenaKey) :
    (cache.excess keep).Nodup :=
  (agrees.nodup_oldestFirst.filter _).sublist (cache.excessOf_prefix _ _ _).sublist

theorem RecencyAgrees.live_of_mem_excess (agrees : cache.RecencyAgrees) {keep : Option ArenaKey}
    (member : key ∈ cache.excess keep) : cache.contains key = true := by
  have listed := (cache.excessOf_prefix _ _ _).subset member
  obtain ⟨buffer, live⟩ := agrees.mem_oldestFirst_iff.mp (List.mem_of_mem_filter listed)
  rw [contains_eq, live]
  rfl

/-! ## Showing a list -/

/-- The cache has the buffers of the list under their keys, in the list's order of use. -/
structure Shows (cache : StencilCache) (list : RecentList) : Prop where
  budget : cache.budget = list.budget
  order : cache.recency.oldestFirst = list.keys
  found : ∀ key buffer, (key, buffer) ∈ list.items ↔ cache.find? key = some buffer

theorem shows_empty (budget : CacheBudget) : Shows { budget } { budget } :=
  ⟨rfl, rfl, by simp [find?]⟩

theorem Shows.lookup (shows : cache.Shows list) : list.lookup = cache.find? := by
  funext key
  rw [RecentList.lookup]
  cases first : list.items.find? (·.1 = key) with
  | none =>
    rw [Option.map_none, eq_comm, Option.eq_none_iff_forall_ne_some]
    intro buffer found
    have member := (shows.found key buffer).mpr found
    simpa using List.find?_eq_none.mp first _ member
  | some item =>
    have member := List.mem_of_find?_eq_some first
    have own := List.find?_some first
    rw [decide_eq_true_eq] at own
    rw [Option.map_some, ← own]
    exact ((shows.found item.1 item.2).mp member).symm

theorem Shows.nodup (shows : cache.Shows list) (agrees : cache.RecencyAgrees) :
    list.keys.Nodup := by
  rw [← shows.order]
  exact agrees.nodup_oldestFirst

theorem Shows.nodup_items (shows : cache.Shows list) (agrees : cache.RecencyAgrees) :
    list.items.Nodup :=
  (shows.nodup agrees).of_map _

/-! ## Uses and changes -/

@[simp] theorem budget_touch (cache : StencilCache) (key : ArenaKey) :
    (cache.touch key).budget = cache.budget := by
  cases live : cache.entries.find? key with
  | none => rw [touch_of_none live]; rfl
  | some entry => rw [touch_of_some live]

theorem Shows.touch (shows : cache.Shows list) (agrees : cache.RecencyAgrees) (key : ArenaKey) :
    (cache.touch key).Shows (list.moveToEnd key) := by
  have lookup := congrFun shows.lookup key
  unfold RecentList.moveToEnd
  cases live : cache.find? key with
  | none =>
    rw [lookup, live]
    have stale : cache.entries.find? key = none := by simpa [find?] using live
    rw [touch_of_none stale]
    exact ⟨shows.budget, shows.order, shows.found⟩
  | some buffer =>
    rw [lookup, live]
    obtain ⟨stamp, held⟩ := find?_eq_some.mp live
    refine ⟨(budget_touch cache key).trans shows.budget, ?_, fun other buffer' => ?_⟩
    · have latest : ∀ use ∈ (cache.recency.forget stamp).uses, use.1 < cache.clock + 1 := by
        intro use member
        rw [Recency.uses_forget] at member
        exact agrees.uses_le use (List.mem_of_mem_filter member)
      have order := agrees.oldestFirst_forget held
      rw [touch_of_some held]
      dsimp only at order ⊢
      rw [Recency.oldestFirst_note latest, order, shows.order]
      simp [RecentList.keys, RecentList.append, RecentList.erase, List.filter_map,
        Function.comp_def]
    · simp only [find?_touch, RecentList.append, RecentList.erase, List.mem_append,
        List.mem_filter, shows.found]
      by_cases same : other = key
      · simp [same, live, eq_comm]
      · simp [same]

theorem Shows.revise (shows : cache.Shows list) (key : ArenaKey)
    (change : StencilBuffer → StencilBuffer) :
    (cache.revise key change).Shows (list.revise key change) := by
  refine ⟨(budget_revise cache key change).trans shows.budget, ?_, fun other buffer => ?_⟩
  · rw [recency_revise, shows.order, RecentList.keys, RecentList.keys, RecentList.revise,
      List.map_map]
    apply List.map_congr_left
    intro item member
    by_cases same : item.1 = key <;> simp [same]
  · rw [find?_revise, RecentList.revise, List.mem_map]
    constructor
    · intro member
      obtain ⟨item, member, changed⟩ := member
      have found := (shows.found item.1 item.2).mp member
      by_cases same : item.1 = key
      · rw [if_pos same, Prod.mk.injEq] at changed
        rw [if_pos changed.1.symm, ← same, found, Option.map_some, changed.2]
      · rw [if_neg same] at changed
        subst changed
        rw [if_neg same, found]
    · intro found
      by_cases same : other = key
      · rw [if_pos same, Option.map_eq_some_iff] at found
        obtain ⟨buffer', found, rfl⟩ := found
        exact ⟨(key, buffer'), (shows.found _ _).mpr found, by simp [same]⟩
      · rw [if_neg same] at found
        exact ⟨(other, buffer), (shows.found _ _).mpr found, by simp [same]⟩

/-! ## Buffers coming and going -/

theorem Shows.lodge (shows : cache.Shows list) (coherent : cache.Coherent)
    (buffer : StencilBuffer) :
    (cache.lodge buffer).2.Shows (list.append (cache.lodge buffer).1 buffer) := by
  refine ⟨shows.budget, ?_, fun other buffer' => ?_⟩
  · rw [lodge_recency, Recency.oldestFirst_note coherent.recent.uses_le, shows.order]
    simp [RecentList.keys, RecentList.append]
  · have fresh := find?_lodge_key coherent.tidy buffer
    rw [find?_lodge coherent.tidy, RecentList.append, List.mem_append, shows.found]
    by_cases same : other = (cache.lodge buffer).1
    · simp [same, fresh, eq_comm]
    · simp [same]

theorem Shows.fresh (shows : cache.Shows list) (coherent : cache.Coherent)
    (buffer : StencilBuffer) : (cache.lodge buffer).1 ∉ list.keys := by
  intro member
  obtain ⟨item, member, same⟩ := List.mem_map.mp member
  have found := (shows.found item.1 item.2).mp member
  rw [same, find?_lodge_key coherent.tidy] at found
  contradiction

theorem Shows.discharge (shows : cache.Shows list) (agrees : cache.RecencyAgrees)
    (key : ArenaKey) : (cache.discharge key).Shows (list.erase key) := by
  refine ⟨(budget_discharge cache key).trans shows.budget, ?_, fun other buffer => ?_⟩
  · have keys : (list.erase key).keys = list.keys.filter (· ≠ key) := by
      simp [RecentList.keys, RecentList.erase, List.filter_map, Function.comp_def]
    rw [keys, ← shows.order, agrees.oldestFirst_discharge]
  · rw [find?_discharge, RecentList.erase, List.mem_filter, shows.found]
    by_cases same : other = key <;> simp [same]

theorem Shows.dischargeAll (shows : cache.Shows list) (coherent : cache.Coherent)
    (keys : List ArenaKey) :
    (keys.foldl StencilCache.discharge cache).Shows
      { list with items := list.items.filter fun item => item.1 ∉ keys } := by
  induction keys generalizing cache list with
  | nil => simpa using shows
  | cons key rest ih =>
    have parts : list.items.filter (fun item => item.1 ∉ key :: rest) =
        (list.erase key).items.filter fun item => item.1 ∉ rest := by
      rw [RecentList.erase, List.filter_filter]
      apply List.filter_congr
      intro item _
      simp [Bool.and_comm]
    rw [List.foldl_cons, parts]
    exact ih (shows.discharge coherent.recent key) (coherent.discharge key)

end StencilCache

end RenderCore
