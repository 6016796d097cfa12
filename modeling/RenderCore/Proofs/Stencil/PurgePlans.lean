import RenderCore.Proofs.Stencil.AttachmentRecency

/-!
# The plan of a purge, one eviction at a time

A purge works out all that it evicts before it evicts anything. It could as well look again after
each eviction whether the cache is within its budget, and evict the least recently used buffer if
not: an eviction takes one buffer from the number and its size from the total, and leaves the order
of the others as it is. The plan is therefore the shortest part of the order of last use, oldest
first, without which the cache is within its budget.
-/

namespace RenderCore.StencilCache

variable {cache : StencilCache} {key : ArenaKey} {buffer : StencilBuffer}

/-- The cache holds no more than its budget allows. -/
def Within (cache : StencilCache) : Prop :=
  cache.budget.allows cache.size cache.totalBytes = true

/-- The buffer that has to go next, if one has to: the least recently used one, but not the one to
    keep. -/
def victim? (cache : StencilCache) (keep : Option ArenaKey) : Option ArenaKey :=
  if cache.budget.allows cache.size cache.totalBytes then none
  else cache.recency.oldestFirst.find? fun key => some key ≠ keep

theorem within_iff : cache.Within ↔
    cache.size ≤ cache.budget.maxCount.toNat ∧ cache.totalBytes ≤ cache.budget.maxBytes := by
  simp [Within, CacheBudget.allows]

/-! ## Number and total -/

theorem map_bytesOf_keys (cache : StencilCache) :
    cache.keys.map cache.bytesOf = cache.buffers.map (·.shape.bytes) := by
  rw [keys, buffers, List.map_map, List.map_map]
  apply List.map_congr_left
  rintro ⟨key, buffer, stamp⟩ member
  have found := find?_eq_some.mpr ⟨stamp, Arena.mem_toList.mp member⟩
  simp [bytesOf, found]

/-- The order of last use has each key of the cache once. -/
theorem RecencyAgrees.perm_keys (agrees : cache.RecencyAgrees) :
    cache.recency.oldestFirst.Perm cache.keys := by
  have distinct : cache.keys.Nodup := Arena.nodup_keys_toList cache.entries
  rw [List.perm_ext_iff_of_nodup agrees.nodup_oldestFirst distinct]
  intro key
  rw [agrees.mem_oldestFirst_iff, mem_keys]

theorem RecencyAgrees.size_eq (agrees : cache.RecencyAgrees) :
    cache.size = cache.recency.oldestFirst.length := by
  rw [agrees.perm_keys.length_eq, keys, List.length_map]
  rfl

theorem Coherent.totalBytes_eq (coherent : cache.Coherent) :
    cache.totalBytes = (cache.recency.oldestFirst.map cache.bytesOf).sum := by
  have perm := coherent.recent.perm_keys.map fun key => (cache.bytesOf key).toNat
  have sizes := congrArg (List.map UInt64.toNat) cache.map_bytesOf_keys
  rw [List.map_map, List.map_map] at sizes
  rw [← UInt64.toNat_inj, toNat_sum, List.map_map, coherent.counted, heldBytes]
  congr 1
  exact (congrArg List.sum sizes).symm.trans perm.sum_nat.symm

/-! ## What an eviction leaves to be evicted -/

theorem filter_ne_head {rest : List ArenaKey} (distinct : (key :: rest).Nodup) :
    (key :: rest).filter (· ≠ key) = rest := by
  have erased := distinct.erase_eq_filter key
  rw [List.erase_cons_head] at erased
  simpa using erased.symm

theorem size_discharge (live : cache.find? key = some buffer) :
    cache.size = (cache.discharge key).size + 1 := by
  obtain ⟨stamp, entries, removed, -, left⟩ := discharge_of_some live
  rw [left]
  exact (Arena.toList_remove? removed).length_eq

theorem totalBytes_discharge (cache : StencilCache) (key : ArenaKey) :
    (cache.discharge key).totalBytes = cache.totalBytes - cache.bytesOf key := by
  cases live : cache.find? key with
  | none => simp [discharge_of_none live, bytesOf, live]
  | some buffer =>
    obtain ⟨_, _, -, -, left⟩ := discharge_of_some live
    simp [left, bytesOf, live]

theorem bytesOf_discharge {other : ArenaKey} (apart : other ≠ key) :
    (cache.discharge key).bytesOf other = cache.bytesOf other := by
  simp [bytesOf, apart]

theorem discharge_setBudget (cache : StencilCache) (budget : CacheBudget) (key : ArenaKey) :
    (cache.setBudget budget).discharge key = (cache.discharge key).setBudget budget := by
  unfold discharge remove? setBudget
  dsimp only
  cases cache.entries.remove? key with
  | none => rfl
  | some pair => rfl

theorem dischargeAll_setBudget (cache : StencilCache) (budget : CacheBudget)
    (keys : List ArenaKey) :
    keys.foldl discharge (cache.setBudget budget) = (keys.foldl discharge cache).setBudget budget := by
  induction keys generalizing cache with
  | nil => rfl
  | cons key rest ih => rw [List.foldl_cons, discharge_setBudget, ih, List.foldl_cons]

@[simp] theorem budget_dischargeAll (cache : StencilCache) (keys : List ArenaKey) :
    (keys.foldl discharge cache).budget = cache.budget := by
  induction keys generalizing cache with
  | nil => rfl
  | cons key rest ih => rw [List.foldl_cons, ih, budget_discharge]

theorem Coherent.dischargeAll (coherent : cache.Coherent) (keys : List ArenaKey) :
    (keys.foldl StencilCache.discharge cache).Coherent := by
  induction keys generalizing cache with
  | nil => exact coherent
  | cons key rest ih => exact ih (coherent.discharge key)

/-! ## The plan as a loop -/

theorem excessOf_congr {other : StencilCache} (budget : other.budget = cache.budget) (count : Nat)
    (bytes : UInt64) {keys : List ArenaKey}
    (sized : ∀ key ∈ keys, other.bytesOf key = cache.bytesOf key) :
    other.excessOf count bytes keys = cache.excessOf count bytes keys := by
  induction keys generalizing count bytes with
  | nil => rfl
  | cons key rest ih =>
    rw [excessOf, excessOf, budget, sized key List.mem_cons_self,
      ih _ _ fun other member => sized other (List.mem_cons_of_mem key member)]

/-- The plan is empty, or it begins with the buffer that has to go next and goes on with the plan
    for what that leaves. -/
theorem Coherent.excess_eq (coherent : cache.Coherent) (keep : Option ArenaKey) :
    cache.excess keep =
      match cache.victim? keep with
      | none => []
      | some key => key :: (cache.discharge key).excess keep := by
  have agrees := coherent.recent
  unfold victim?
  by_cases within : cache.budget.allows cache.size cache.totalBytes
  · rw [if_pos within, excess, excessOf_of_allows within]
  · rw [if_neg within, ← List.head?_filter]
    cases first : (cache.recency.oldestFirst.filter fun key => some key ≠ keep).head? with
    | none => rw [excess, List.head?_eq_none_iff.mp first, excessOf]
    | some key =>
      obtain ⟨rest, parts⟩ := List.head?_eq_some_iff.mp first
      have distinct := agrees.nodup_oldestFirst.filter fun key => some key ≠ keep
      rw [parts] at distinct
      have listed : key ∈ cache.recency.oldestFirst :=
        List.mem_of_mem_filter (parts ▸ List.mem_cons_self)
      obtain ⟨buffer, live⟩ := agrees.mem_oldestFirst_iff.mp listed
      have left : ((cache.discharge key).recency.oldestFirst.filter fun key => some key ≠ keep) =
          rest := by
        rw [agrees.oldestFirst_discharge, List.filter_filter]
        simp only [Bool.and_comm]
        rw [← List.filter_filter, parts, filter_ne_head distinct]
      have size := size_discharge live
      dsimp only
      rw [excess, parts, excessOf, if_neg within, excess, left, totalBytes_discharge,
        show (cache.discharge key).size = cache.size - 1 by omega]
      rw [excessOf_congr (budget_discharge cache key)]
      intro other member
      apply bytesOf_discharge
      rintro rfl
      exact (List.nodup_cons.mp distinct).1 member

theorem Coherent.settled_of_excess (coherent : cache.Coherent) {keep : Option ArenaKey}
    (plan : cache.excess keep = []) : cache.victim? keep = none := by
  rw [coherent.excess_eq] at plan
  cases next : cache.victim? keep with
  | none => rfl
  | some key =>
    rw [next] at plan
    contradiction

theorem Coherent.next_of_excess (coherent : cache.Coherent) {keep : Option ArenaKey}
    {rest : List ArenaKey} (plan : cache.excess keep = key :: rest) :
    cache.victim? keep = some key ∧ (cache.discharge key).excess keep = rest := by
  rw [coherent.excess_eq] at plan
  cases next : cache.victim? keep with
  | none =>
    rw [next] at plan
    contradiction
  | some first =>
    rw [next] at plan
    obtain ⟨rfl, rest⟩ := List.cons.inj plan
    exact ⟨rfl, rest⟩

/-- Once the plan is carried out, no buffer has to go. -/
theorem Coherent.settled_dischargeAll (coherent : cache.Coherent) (keep : Option ArenaKey) :
    ((cache.excess keep).foldl StencilCache.discharge cache).victim? keep = none := by
  generalize plan : cache.excess keep = keys
  induction keys generalizing cache with
  | nil => exact coherent.settled_of_excess plan
  | cons key rest ih => exact ih (coherent.discharge key) (coherent.next_of_excess plan).2

theorem RecencyAgrees.live_of_victim? (agrees : cache.RecencyAgrees) {keep : Option ArenaKey}
    (next : cache.victim? keep = some key) : ∃ buffer, cache.find? key = some buffer := by
  unfold victim? at next
  split at next
  · contradiction
  · exact agrees.mem_oldestFirst_iff.mp (List.mem_of_find?_eq_some next)

/-- No buffer has to go where the budget is kept, or where only the one to keep is left. -/
theorem RecencyAgrees.within_or_alone (agrees : cache.RecencyAgrees) {keep : Option ArenaKey}
    (settled : cache.victim? keep = none) :
    cache.Within ∨ ∀ key buffer, cache.find? key = some buffer → keep = some key := by
  unfold victim? at settled
  by_cases within : cache.budget.allows cache.size cache.totalBytes
  · exact .inl within
  · rw [if_neg within, List.find?_eq_none] at settled
    right
    intro key buffer live
    have kept := settled key (agrees.mem_oldestFirst_iff.mpr ⟨buffer, live⟩)
    rw [decide_eq_true_eq, not_not] at kept
    exact kept.symm

/-- Without any buffer every cache is within its budget. -/
theorem Coherent.within_of_empty (coherent : cache.Coherent)
    (empty : cache.recency.oldestFirst = []) : cache.Within := by
  rw [within_iff, coherent.recent.size_eq, coherent.totalBytes_eq, empty]
  simp

/-- Where none is to be kept, buffers have to go until the cache is within its budget. -/
theorem Coherent.within_of_settled (coherent : cache.Coherent)
    (settled : cache.victim? none = none) : cache.Within := by
  rcases coherent.recent.within_or_alone settled with within | alone
  · exact within
  · apply coherent.within_of_empty
    rw [List.eq_nil_iff_forall_not_mem]
    intro key listed
    obtain ⟨buffer, live⟩ := coherent.recent.mem_oldestFirst_iff.mp listed
    exact nomatch alone key buffer live

theorem victim?_of_within {keep : Option ArenaKey} (within : cache.Within) :
    cache.victim? keep = none :=
  if_pos within

/-! ## The shortest plan -/

/-- The cache would be within its budget without the first `n` buffers in the order of last use. -/
def FitsWithout (cache : StencilCache) (n : Nat) : Prop :=
  cache.budget.allows (cache.recency.oldestFirst.drop n).length
    ((cache.recency.oldestFirst.drop n).map cache.bytesOf).sum = true

theorem Coherent.fitsWithout_zero (coherent : cache.Coherent) :
    cache.FitsWithout 0 ↔ cache.Within := by
  rw [FitsWithout, Within, coherent.recent.size_eq, coherent.totalBytes_eq, List.drop_zero]

theorem RecencyAgrees.oldestFirst_discharge_head (agrees : cache.RecencyAgrees)
    {rest : List ArenaKey} (order : cache.recency.oldestFirst = key :: rest) :
    (cache.discharge key).recency.oldestFirst = rest ∧ key ∉ rest := by
  have distinct := agrees.nodup_oldestFirst
  rw [order] at distinct
  refine ⟨?_, (List.nodup_cons.mp distinct).1⟩
  rw [agrees.oldestFirst_discharge, order, filter_ne_head distinct]

theorem RecencyAgrees.fitsWithout_discharge (agrees : cache.RecencyAgrees) {rest : List ArenaKey}
    (order : cache.recency.oldestFirst = key :: rest) (n : Nat) :
    (cache.discharge key).FitsWithout n ↔ cache.FitsWithout (n + 1) := by
  obtain ⟨left, gone⟩ := agrees.oldestFirst_discharge_head order
  have sized : (rest.drop n).map (cache.discharge key).bytesOf =
      (rest.drop n).map cache.bytesOf := by
    apply List.map_congr_left
    intro other member
    apply bytesOf_discharge
    rintro rfl
    exact gone (List.mem_of_mem_drop member)
  rw [FitsWithout, FitsWithout, left, order, List.drop_succ_cons, sized, budget_discharge]

theorem oldestFirst_of_victim? (next : cache.victim? none = some key) :
    ∃ rest, cache.recency.oldestFirst = key :: rest := by
  unfold victim? at next
  split at next
  · contradiction
  · rw [← List.head?_filter] at next
    simpa [List.head?_eq_some_iff] using next

/-- The plan of a purge is the shortest part of the order of last use, oldest first, without which
    the cache is within its budget. -/
theorem Coherent.excess_shortest (coherent : cache.Coherent) :
    cache.excess none = cache.recency.oldestFirst.take (cache.excess none).length ∧
      cache.FitsWithout (cache.excess none).length ∧
      ∀ fewer < (cache.excess none).length, ¬ cache.FitsWithout fewer := by
  generalize plan : cache.excess none = keys
  induction keys generalizing cache with
  | nil =>
    have within := coherent.within_of_settled (coherent.settled_of_excess plan)
    refine ⟨by simp, coherent.fitsWithout_zero.mpr within, ?_⟩
    intro fewer less
    simp at less
  | cons key keys ih =>
    obtain ⟨next, onward⟩ := coherent.next_of_excess plan
    obtain ⟨rest, order⟩ := oldestFirst_of_victim? next
    obtain ⟨left, -⟩ := coherent.recent.oldestFirst_discharge_head order
    obtain ⟨front, fits, shortest⟩ := ih (coherent.discharge key) onward
    rw [left] at front
    refine ⟨?_, (coherent.recent.fitsWithout_discharge order _).mp fits, ?_⟩
    · rw [order, List.length_cons, List.take_succ_cons, ← front]
    · intro fewer less fits
      cases fewer with
      | zero =>
        have within := coherent.fitsWithout_zero.mp fits
        rw [victim?_of_within within] at next
        contradiction
      | succ n =>
        rw [List.length_cons] at less
        exact shortest n (by omega) ((coherent.recent.fitsWithout_discharge order n).mpr fits)

/-! ## Two budgets -/

section budgets

variable {smaller larger : CacheBudget} (fewer : smaller.maxCount ≤ larger.maxCount)
  (less : smaller.maxBytes ≤ larger.maxBytes)

include fewer less

/-- What has to go under a budget has to go under a smaller one. -/
theorem victim?_of_larger {keep : Option ArenaKey}
    (next : (cache.setBudget larger).victim? keep = some key) :
    (cache.setBudget smaller).victim? keep = some key := by
  unfold victim? at next ⊢
  split at next
  · contradiction
  next exceeded =>
    rw [if_neg]
    · exact next
    · intro within
      apply exceeded
      simp only [CacheBudget.allows, Bool.and_eq_true, decide_eq_true_eq] at within ⊢
      refine ⟨Nat.le_trans within.1 (UInt64.le_iff_toNat_le.mp fewer), ?_⟩
      exact UInt64.le_trans within.2 less

/-- The plan for the smaller of two budgets is the plan for the larger one, and then the plan for the
    smaller one from there. -/
theorem Coherent.excess_setBudget (coherent : cache.Coherent) :
    (cache.setBudget smaller).excess none = (cache.setBudget larger).excess none ++
      ((((cache.setBudget larger).excess none).foldl StencilCache.discharge cache).setBudget
        smaller).excess none := by
  generalize plan : (cache.setBudget larger).excess none = keys
  induction keys generalizing cache with
  | nil => rfl
  | cons key rest ih =>
    obtain ⟨next, onward⟩ := (coherent.setBudget larger).next_of_excess plan
    rw [discharge_setBudget] at onward
    have further := ih (coherent.discharge key) onward
    rw [(coherent.setBudget smaller).excess_eq, victim?_of_larger fewer less next]
    dsimp only
    rw [discharge_setBudget, further, List.foldl_cons, List.cons_append]

end budgets

end RenderCore.StencilCache
