import RenderCore.Proofs.Gpu.SoftwareStorage
import RenderCore.Proofs.Stencil.DebugRuns

/-!
# Who owns the storage

In a program that makes its buffers through the cache and gives them up through the cache, the
buffers in the cache and the stencil storage of the software backend belong together one to one:
nothing leaks, nothing is freed twice or while a buffer in the cache needs it. The invariant names
the buffer behind each piece of storage; what allocations, evictions and changes do to it is shown
one by one.
-/

namespace RenderCore

/-! ## Buffers and storage -/

namespace StencilCache

variable {cache other : StencilCache}

/-- The storage that the buffer of a key has to free, and its shape. -/
def claim (cache : StencilCache) (key : ArenaKey) : Option (Option StencilId × StencilShape) :=
  (cache.find? key).map fun buffer => (buffer.owed, buffer.shape)

/-- What all buffers claim, in the order of their slots. -/
def claims (cache : StencilCache) : List (Option StencilId × StencilShape) :=
  cache.buffers.map fun buffer => (buffer.owed, buffer.shape)

theorem claim_of_find? {key : ArenaKey} {buffer : StencilBuffer}
    (found : cache.find? key = some buffer) :
    cache.claim key = some (buffer.owed, buffer.shape) := by
  rw [claim, found]
  rfl

theorem claim_of_mem {item : ArenaKey × CachedBuffer} (member : item ∈ cache.entries.toList) :
    cache.claim item.1 = some (item.2.buffer.owed, item.2.buffer.shape) :=
  claim_of_find? (find?_eq_some.mpr ⟨item.2.lastUse, Arena.mem_toList.mp member⟩)

theorem claim_eq_none {key : ArenaKey} : cache.claim key = none ↔ cache.find? key = none := by
  rw [claim, Option.map_eq_none_iff]

theorem mem_claims {owed : Option StencilId} {shape : StencilShape} :
    (owed, shape) ∈ cache.claims ↔ ∃ key, cache.claim key = some (owed, shape) := by
  rw [claims, buffers, List.map_map, List.mem_map]
  constructor
  · intro listed
    obtain ⟨item, member, same⟩ := listed
    exact ⟨item.1, (claim_of_mem member).trans (congrArg some same)⟩
  · intro claimed
    obtain ⟨key, claimed⟩ := claimed
    obtain ⟨buffer, found, same⟩ := Option.map_eq_some_iff.mp claimed
    obtain ⟨stamp, found⟩ := find?_eq_some.mp found
    exact ⟨(key, ⟨buffer, stamp⟩), Arena.mem_toList.mpr found, same⟩

theorem claim_touch (cache : StencilCache) (key other : ArenaKey) :
    (cache.touch key).claim other = cache.claim other := by
  rw [claim, find?_touch, claim]

theorem claim_revise (cache : StencilCache) (key : ArenaKey) (clip : ClipRecord)
    (other : ArenaKey) :
    (cache.revise key fun buffer => { buffer with clip }).claim other = cache.claim other := by
  rw [claim, find?_revise, claim]
  by_cases same : other = key
  · rw [if_pos same, same]
    cases cache.find? key <;> rfl
  · rw [if_neg same]

theorem claim_findScratch (cache : StencilCache) (scratch : ScratchKey) (other : ArenaKey) :
    (cache.findScratch scratch).2.claim other = cache.claim other := by
  cases found : (cache.findScratch scratch).1 with
  | none => rw [findScratch_of_none found]
  | some key => rw [findScratch_of_some found, claim_touch]

theorem claim_used (cache : StencilCache) (attachment : StencilAttachment) (other : ArenaKey) :
    (attachment.used cache).claim other = cache.claim other := by
  unfold StencilAttachment.used
  split
  · rfl
  · split
    · exact claim_touch cache _ other
    · rfl

theorem claim_clipped (cache : StencilCache) (attachment : StencilAttachment) (clip : ClipRecord)
    (other : ArenaKey) : (attachment.clipped clip cache).claim other = cache.claim other := by
  unfold StencilAttachment.clipped
  split
  · rfl
  · rw [claim_revise, claim_used]

theorem claim_lodge (tidy : cache.entries.Tidy) (buffer : StencilBuffer) (other : ArenaKey) :
    (cache.lodge buffer).2.claim other =
      if other = (cache.lodge buffer).1 then some (buffer.owed, buffer.shape)
      else cache.claim other := by
  rw [claim, find?_lodge tidy]
  by_cases same : other = (cache.lodge buffer).1
  · rw [if_pos same, if_pos same]
    rfl
  · rw [if_neg same, if_neg same, claim]

theorem claim_discharge (cache : StencilCache) (key other : ArenaKey) :
    (cache.discharge key).claim other = if other = key then none else cache.claim other := by
  rw [claim, find?_discharge]
  by_cases same : other = key
  · rw [if_pos same, if_pos same]
    rfl
  · rw [if_neg same, if_neg same, claim]

end StencilCache

/-- The storage in use and the buffers in the cache belong together one to one. Names of storage
    have been given out up to the last one, each for one allocation. -/
structure Software.Backs (gpu : Software) (cache : StencilCache) : Prop where
  live : ∀ key owed shape, cache.claim key = some (owed, shape) →
    ∃ id, owed = some ⟨id⟩ ∧ gpu.stencils[id]? = some shape
  distinct : ∀ key other owed shape shape', cache.claim key = some (owed, shape) →
    cache.claim other = some (owed, shape') → key = other
  owned : ∀ (id : UInt32) shape, gpu.stencils[id]? = some shape →
    ∃ key, cache.claim key = some (some ⟨id⟩, shape)
  named : ∀ (id : UInt32) shape, gpu.stencils[id]? = some shape → id.toNat ≤ gpu.lastId.toNat
  counted : gpu.lastId.toNat = gpu.allocations

namespace Software

variable {gpu other : Software} {cache next : StencilCache}

theorem backs_empty (budget : CacheBudget) (limit : Option UInt64) :
    Backs { stencilLimit := limit } { budget } :=
  ⟨by simp [StencilCache.claim, StencilCache.find?],
    by simp [StencilCache.claim, StencilCache.find?], by simp, by simp, rfl⟩

/-- What matters of the cache is what its buffers claim, and of the backend its storage. -/
theorem Backs.congr (backs : gpu.Backs cache) (claims : ∀ key, next.claim key = cache.claim key)
    (limit : Option UInt64) : Backs { gpu with stencilLimit := limit } next where
  live key owed shape claimed := backs.live key owed shape (claims key ▸ claimed)
  distinct key other owed shape shape' claimed claimed' :=
    backs.distinct key other owed shape shape' (claims key ▸ claimed) (claims other ▸ claimed')
  owned id shape stored := by
    obtain ⟨key, claimed⟩ := backs.owned id shape stored
    exact ⟨key, (claims key).trans claimed⟩
  named := backs.named
  counted := backs.counted

/-- The name of the next storage is not in use. -/
theorem Backs.unused_name (backs : gpu.Backs cache) (more : gpu.allocations + 1 < 2 ^ 32) :
    (gpu.lastId + 1).toNat = gpu.lastId.toNat + 1 ∧ gpu.stencils[gpu.lastId + 1]? = none := by
  have last : (gpu.lastId + 1).toNat = gpu.lastId.toNat + 1 := by
    rw [UInt32.toNat_add]
    apply Nat.mod_eq_of_lt
    have counted := backs.counted
    have one : (1 : UInt32).toNat = 1 := rfl
    omega
  refine ⟨last, ?_⟩
  rw [Option.eq_none_iff_forall_ne_some]
  intro shape stored
  have := backs.named _ _ stored
  omega

theorem Backs.claim_ne (backs : gpu.Backs cache) {id : UInt32} (unused : gpu.stencils[id]? = none)
    (key : ArenaKey) (shape : StencilShape) : cache.claim key ≠ some (some ⟨id⟩, shape) := by
  intro claimed
  obtain ⟨old, same, stored⟩ := backs.live key _ shape claimed
  rw [Option.some.injEq, StencilId.mk.injEq] at same
  rw [← same, unused] at stored
  contradiction

/-- A key without a buffer gets one, over new storage. -/
theorem Backs.grow (backs : gpu.Backs cache) (more : gpu.allocations + 1 < 2 ^ 32) {new : ArenaKey}
    {shape : StencilShape} (vacant : cache.claim new = none)
    (claims : ∀ other, next.claim other =
      if other = new then some (some ⟨gpu.lastId + 1⟩, shape) else cache.claim other) :
    (gpu.withStencil shape).Backs next := by
  obtain ⟨last, unused⟩ := backs.unused_name more
  have stored : ∀ other : UInt32, (gpu.withStencil shape).stencils[other]? =
      if other = gpu.lastId + 1 then some shape else gpu.stencils[other]? :=
    fun other => getElem?_insert gpu.stencils (gpu.lastId + 1) other shape
  constructor
  case live =>
    intro key owed shape' claimed
    rw [claims] at claimed
    by_cases same : key = new
    · rw [if_pos same, Option.some.injEq, Prod.mk.injEq] at claimed
      obtain ⟨rfl, rfl⟩ := claimed
      exact ⟨gpu.lastId + 1, rfl, by rw [stored, if_pos rfl]⟩
    · rw [if_neg same] at claimed
      obtain ⟨old, rfl, held⟩ := backs.live key owed shape' claimed
      have apart : old ≠ gpu.lastId + 1 := by
        intro same
        rw [same, unused] at held
        contradiction
      exact ⟨old, rfl, by rw [stored, if_neg apart, held]⟩
  case distinct =>
    intro key other owed shape' shape'' claimed claimed'
    rw [claims] at claimed claimed'
    by_cases same : key = new
    · by_cases same' : other = new
      · rw [same, same']
      · rw [if_pos same, Option.some.injEq, Prod.mk.injEq] at claimed
        rw [if_neg same', ← claimed.1] at claimed'
        exact absurd claimed' (backs.claim_ne unused other shape'')
    · by_cases same' : other = new
      · rw [if_pos same', Option.some.injEq, Prod.mk.injEq] at claimed'
        rw [if_neg same, ← claimed'.1] at claimed
        exact absurd claimed (backs.claim_ne unused key shape')
      · rw [if_neg same] at claimed
        rw [if_neg same'] at claimed'
        exact backs.distinct key other owed shape' shape'' claimed claimed'
  case owned =>
    intro name shape' held
    rw [stored] at held
    by_cases same : name = gpu.lastId + 1
    · rw [if_pos same, Option.some.injEq] at held
      exact ⟨new, by rw [claims, if_pos rfl, same, held]⟩
    · rw [if_neg same] at held
      obtain ⟨key, claimed⟩ := backs.owned name shape' held
      have apart : key ≠ new := by
        intro same
        rw [same, vacant] at claimed
        contradiction
      exact ⟨key, by rw [claims, if_neg apart, claimed]⟩
  case named =>
    intro name shape' held
    rw [stored] at held
    show name.toNat ≤ (gpu.lastId + 1).toNat
    by_cases same : name = gpu.lastId + 1
    · exact Nat.le_of_eq (congrArg UInt32.toNat same)
    · rw [if_neg same] at held
      have := backs.named name shape' held
      omega
  case counted =>
    show (gpu.lastId + 1).toNat = gpu.allocations + 1
    rw [last, backs.counted]

/-- The buffer of a key goes away, and its storage is freed. -/
theorem Backs.shrink (backs : gpu.Backs cache) {key : ArenaKey} {id : UInt32}
    {shape : StencilShape} (claimed : cache.claim key = some (some ⟨id⟩, shape))
    (claims : ∀ other, next.claim other = if other = key then none else cache.claim other) :
    Backs { gpu with stencils := gpu.stencils.erase id } next := by
  have claimed_of : ∀ {other owed shape'}, next.claim other = some (owed, shape') →
      other ≠ key ∧ cache.claim other = some (owed, shape') := by
    intro other owed shape' left
    rw [claims, Option.ite_none_left_eq_some] at left
    exact left
  have stored_of : ∀ {name : UInt32} {shape' : StencilShape},
      (gpu.stencils.erase id)[name]? = some shape' →
        name ≠ id ∧ gpu.stencils[name]? = some shape' := by
    intro name shape' left
    rw [getElem?_erase, Option.ite_none_left_eq_some] at left
    exact left
  constructor
  case live =>
    intro other owed shape' left
    obtain ⟨apart, left⟩ := claimed_of left
    obtain ⟨name, rfl, stored⟩ := backs.live other owed shape' left
    have kept : name ≠ id := by
      intro same
      subst same
      exact apart (backs.distinct other key _ _ _ left claimed)
    exact ⟨name, rfl, by rw [getElem?_erase, if_neg kept, stored]⟩
  case distinct =>
    intro other third owed shape' shape'' left left'
    exact backs.distinct other third owed shape' shape'' (claimed_of left).2 (claimed_of left').2
  case owned =>
    intro name shape' left
    obtain ⟨kept, stored⟩ := stored_of left
    obtain ⟨other, claimed'⟩ := backs.owned name shape' stored
    have apart : other ≠ key := by
      intro same
      rw [same, claimed, Option.some.injEq, Prod.mk.injEq, Option.some.injEq] at claimed'
      exact kept (congrArg StencilId.val claimed'.1).symm
    exact ⟨other, by rw [claims, if_neg apart, claimed']⟩
  case named =>
    intro name shape' left
    exact backs.named name shape' (stored_of left).2
  case counted => exact backs.counted

/-- A new buffer over new storage. -/
theorem Backs.lodge (backs : gpu.Backs cache) (tidy : cache.entries.Tidy)
    (more : gpu.allocations + 1 < 2 ^ 32) {lifeCycle : LifeCycle} (owning : lifeCycle ≠ .wrapped)
    (id : ResourceId) (shape : StencilShape) :
    (gpu.withStencil shape).Backs
      (cache.lodge (.made id lifeCycle (some ⟨gpu.lastId + 1⟩) shape)).2 := by
  have owed : (StencilBuffer.made id lifeCycle (some ⟨gpu.lastId + 1⟩) shape).owed =
      some ⟨gpu.lastId + 1⟩ := if_neg owning
  have vacant := StencilCache.claim_eq_none.mpr (StencilCache.find?_lodge_key tidy
    (.made id lifeCycle (some ⟨gpu.lastId + 1⟩) shape))
  refine backs.grow more vacant fun other => ?_
  rw [StencilCache.claim_lodge tidy, owed]
  rfl

/-- An eviction frees the storage of the buffer that it takes out. -/
theorem Backs.evict {held : Holding Software} (backs : held.backend.Backs held.cache)
    (key : ArenaKey) : (held.evict key).backend.Backs (held.evict key).cache := by
  unfold Holding.evict Holding.freed
  cases live : held.cache.find? key with
  | none =>
    refine backs.congr (fun other => ?_) held.backend.stencilLimit
    rw [StencilCache.discharge_of_none live]
  | some buffer =>
    have claimed := StencilCache.claim_of_find? live
    obtain ⟨id, owes, -⟩ := backs.live key _ _ claimed
    have freed : buffer.free held.backend =
        { held.backend with stencils := held.backend.stencils.erase id } := by
      rw [StencilBuffer.free, owes]
      rfl
    rw [owes] at claimed
    dsimp only
    rw [freed]
    exact backs.shrink claimed (StencilCache.claim_discharge held.cache key)

end Software

/-! ## Steps -/

namespace Holding

/-- Storage that belongs to buffers one to one in `held` does so in `left`, as long as names have
    not run out. -/
structure Carries (held left : Holding Software) : Prop where
  allocations : held.backend.allocations ≤ left.backend.allocations
  backs : left.backend.allocations < 2 ^ 32 → held.backend.Backs held.cache →
    left.backend.Backs left.cache

variable {held between left : Holding Software}

theorem Carries.trans (first : held.Carries between) (second : between.Carries left) :
    held.Carries left where
  allocations := Nat.le_trans first.allocations second.allocations
  backs few backs :=
    second.backs few (first.backs (Nat.lt_of_le_of_lt second.allocations few) backs)

theorem carries_of_claims
    (backend : ∃ limit, left.backend = { held.backend with stencilLimit := limit })
    (claims : ∀ key, left.cache.claim key = held.cache.claim key) : held.Carries left := by
  obtain ⟨limit, backend⟩ := backend
  constructor
  · exact Nat.le_of_eq (congrArg Software.allocations backend).symm
  · intro _ backs
    rw [backend]
    exact backs.congr claims limit

/-- A change of the cache alone. -/
theorem carries_of_cache {cache : StencilCache}
    (claims : ∀ key, cache.claim key = held.cache.claim key) :
    held.Carries { held with cache } :=
  carries_of_claims ⟨held.backend.stencilLimit, rfl⟩ claims

theorem carries_evict (held : Holding Software) (key : ArenaKey) :
    held.Carries (held.evict key) where
  allocations := by
    unfold evict freed StencilBuffer.free
    dsimp only
    split
    · split <;> exact Nat.le_refl _
    · exact Nat.le_refl _
  backs _ backs := backs.evict key

theorem carries_evictAll (held : Holding Software) (keys : List ArenaKey) :
    held.Carries (held.evictAll keys) := by
  unfold evictAll
  induction keys generalizing held with
  | nil => exact carries_of_cache fun _ => rfl
  | cons key rest ih => exact (held.carries_evict key).trans (ih _)

theorem Allocates.carries {lifeCycle : LifeCycle} {shape : StencilShape}
    {outcome : Except Fault ArenaKey} (allocates : held.Allocates lifeCycle shape outcome left)
    (coherent : held.cache.Coherent) (owning : lifeCycle ≠ .wrapped) : held.Carries left := by
  have ends := Software.ends_createStencil shape held.backend
  unfold Act.Ends at ends
  cases allocates with
  | made given =>
    rw [given] at ends
    obtain ⟨rfl, rfl⟩ := ends
    exact ⟨Nat.le_succ _, fun few backs => backs.lodge coherent.tidy few owning _ shape⟩
  | refused given =>
    rw [given] at ends
    obtain rfl := ends
    exact carries_of_cache fun _ => rfl

theorem Acquires.carries {shape : StencilShape} {outcome : Except Fault ArenaKey}
    (acquires : held.Acquires shape outcome left) (coherent : held.cache.Coherent) :
    held.Carries left := by
  cases acquires with
  | hit found => exact carries_of_cache (StencilCache.claim_touch _ _)
  | miss absent allocated =>
    exact (allocated.carries coherent (by decide)).trans (carries_evictAll _ _)
  | refused absent allocated => exact allocated.carries coherent (by decide)

end Holding

namespace Operation

variable {α : Type}

/-- The operations of a program that makes its buffers through the cache and gives them up through
    the cache, and otherwise only sets the limit of its backend. -/
def Orderly : Operation Software α → Prop
  | .insert _ _ => False
  | .allocate lifeCycle _ => lifeCycle ≠ .wrapped
  | .releaseInPlace _ => False
  | .abandonAll => False
  | .elsewhere change => ∀ session, ∃ limit,
      (change session).backend = { session.backend with stencilLimit := limit }
  | _ => True

theorem Effect.carries {operation : Operation Software α} {held left : Holding Software}
    {outcome : Except Fault α} (effect : operation.Effect held outcome left)
    (orderly : operation.Orderly) (coherent : held.cache.Coherent) : held.Carries left := by
  cases operation with
  | insert buffer keyed => exact orderly.elim
  | allocate lifeCycle shape => exact Holding.Allocates.carries effect coherent orderly
  | findScratch scratch =>
    obtain ⟨rfl, rfl⟩ := effect
    exact Holding.carries_of_cache (StencilCache.claim_findScratch _ scratch)
  | findOrCreate shape => exact Holding.Acquires.carries effect coherent
  | find key =>
    obtain ⟨rfl, rfl⟩ := effect
    exact Holding.carries_of_cache fun _ => rfl
  | contains key =>
    obtain ⟨rfl, rfl⟩ := effect
    exact Holding.carries_of_cache fun _ => rfl
  | access key =>
    obtain ⟨rfl, rfl⟩ := effect
    exact Holding.carries_of_cache (StencilCache.claim_touch _ key)
  | setClip key clip =>
    obtain ⟨rfl, rfl⟩ := effect
    refine Holding.carries_of_cache fun other => ?_
    rw [StencilCache.claim_revise, StencilCache.claim_touch]
  | releaseInPlace key => exact orderly.elim
  | evict key =>
    obtain ⟨rfl, rfl⟩ := effect
    exact held.carries_evict key
  | purge =>
    obtain ⟨rfl, rfl⟩ := effect
    exact held.carries_evictAll _
  | purgeAll =>
    obtain ⟨rfl, rfl⟩ := effect
    exact held.carries_evictAll _
  | abandonAll => exact orderly.elim
  | setBudget budget =>
    obtain ⟨rfl, rfl⟩ := effect
    exact Holding.carries_of_cache fun _ => rfl
  | attach attachment shape =>
    cases effect with
    | kept fits => exact Holding.carries_of_cache fun _ => rfl
    | acquired unfit acquires => exact acquires.carries coherent
    | refused unfit acquires => exact acquires.carries coherent
  | resolve attachment =>
    obtain ⟨rfl, rfl⟩ := effect
    exact Holding.carries_of_cache fun _ => rfl
  | accessAttached attachment =>
    obtain ⟨rfl, rfl⟩ := effect
    exact Holding.carries_of_cache (StencilCache.claim_used _ attachment)
  | setClipAttached attachment clip =>
    obtain ⟨rfl, rfl⟩ := effect
    exact Holding.carries_of_cache (StencilCache.claim_clipped _ attachment clip)
  | elsewhere change =>
    obtain ⟨-, cache, session, backend, left'⟩ := effect
    obtain ⟨limit, changed⟩ := orderly session
    refine Holding.carries_of_claims ⟨limit, ?_⟩ fun key => ?_
    · rw [left', changed, backend]
    · rw [cache]

end Operation

/-! ## Runs -/

variable {budget : CacheBudget} {session : Session Software} {limit : Option UInt64}
  {steps : List (Step Software)} {work : CacheSession Software}

theorem Run.backs (run : Run .release ⟨{ budget }, session⟩ steps work)
    (unused : session.backend = { stencilLimit := limit })
    (orderly : ∀ step ∈ steps, step.operation.Orderly)
    (few : work.session.backend.allocations < 2 ^ 32) :
    work.session.backend.Backs work.cache := by
  induction run with
  | nil =>
    change session.backend.Backs _
    rw [unused]
    exact Software.backs_empty budget limit
  | @cons step steps run completes ih =>
    have carries := (Step.effect completes).carries (orderly step List.mem_cons_self) run.coherent
    apply carries.backs few
    apply ih
    · intro step member
      exact orderly step (List.mem_cons_of_mem _ member)
    · exact Nat.lt_of_le_of_lt carries.allocations few

namespace Software.Backs

variable {gpu : Software} {cache : StencilCache} {key : ArenaKey} {buffer : StencilBuffer}

theorem backing_eq_owed (backs : gpu.Backs cache) (found : cache.find? key = some buffer) :
    buffer.backing = buffer.owed ∧ ∃ id, buffer.owed = some ⟨id⟩ ∧
      gpu.stencils[id]? = some buffer.shape := by
  obtain ⟨id, owes, stored⟩ := backs.live key _ _ (StencilCache.claim_of_find? found)
  refine ⟨?_, id, owes, stored⟩
  unfold StencilBuffer.owed at owes ⊢
  split at owes
  · contradiction
  · rename_i own
    rw [if_neg own]

theorem nodup_claims (backs : gpu.Backs cache) : cache.claims.Nodup := by
  have keys := Arena.nodup_keys_toList cache.entries
  rw [StencilCache.claims, StencilCache.buffers, List.map_map]
  rw [List.Nodup, List.pairwise_map] at keys ⊢
  refine keys.imp_of_mem ?_
  intro item item' member member' apart same
  have claimed := StencilCache.claim_of_mem member
  have claimed' := StencilCache.claim_of_mem member'
  obtain ⟨owed, -⟩ := Prod.mk.inj same
  rw [← owed] at claimed'
  exact apart (backs.distinct _ _ _ _ _ claimed claimed')

/-- The storage in use is what the buffers in the cache claim. -/
theorem perm_claims (backs : gpu.Backs cache) :
    (gpu.stencils.toList.map fun item => (some (StencilId.mk item.1), item.2)).Perm
      cache.claims := by
  have stored :
      (gpu.stencils.toList.map fun item => (some (StencilId.mk item.1), item.2)).Nodup := by
    rw [List.Nodup, List.pairwise_map]
    refine Std.TreeMap.distinct_keys_toList.imp ?_
    intro item item' apart same
    rw [Prod.mk.injEq, Option.some.injEq, StencilId.mk.injEq] at same
    exact apart (Std.LawfulEqCmp.compare_eq_iff_eq.mpr same.1)
  rw [List.perm_ext_iff_of_nodup stored backs.nodup_claims]
  intro claim
  obtain ⟨owed, shape⟩ := claim
  rw [StencilCache.mem_claims, List.mem_map]
  constructor
  · intro listed
    obtain ⟨⟨id, shape'⟩, member, same⟩ := listed
    obtain ⟨rfl, rfl⟩ := Prod.mk.inj same
    exact backs.owned id shape' (Std.TreeMap.mem_toList_iff_getElem?_eq_some.mp member)
  · intro claimed
    obtain ⟨key, claimed⟩ := claimed
    obtain ⟨id, rfl, stored⟩ := backs.live key owed shape claimed
    exact ⟨(id, shape), Std.TreeMap.mem_toList_iff_getElem?_eq_some.mpr stored, rfl⟩

theorem perm_shapes (backs : gpu.Backs cache) :
    gpu.stencils.values.Perm (cache.buffers.map (·.shape)) := by
  have shapes := backs.perm_claims.map (·.2)
  rw [List.map_map, StencilCache.claims, List.map_map] at shapes
  rw [Software.values_eq]
  exact shapes

end Software.Backs

/-- After every step of an orderly program on an unused software backend, the backings of the
    buffers in the cache are distinct and are the storage in use, each with the shape of its buffer.
    If the sizes fit into words, the cache and the backend count the same bytes. -/
theorem storage_matches_cache (run : Run .release ⟨{ budget }, session⟩ steps work)
    (unused : session.backend = { stencilLimit := limit })
    (orderly : ∀ step ∈ steps, step.operation.Orderly)
    (few : work.session.backend.allocations < 2 ^ 32) :
    (∀ key buffer, work.cache.find? key = some buffer → ∃ storage, buffer.backing = some storage) ∧
    (∀ key other buffer buffer', work.cache.find? key = some buffer →
      work.cache.find? other = some buffer' → buffer.backing = buffer'.backing → key = other) ∧
    (∀ (id : UInt32) shape, work.session.backend.stencils[id]? = some shape ↔
      ∃ key buffer, work.cache.find? key = some buffer ∧ buffer.backing = some ⟨id⟩ ∧
        buffer.shape = shape) ∧
    ((∀ key buffer, work.cache.find? key = some buffer → buffer.shape.FitsWord) →
      work.session.backend.stencilBytes .release = .ok work.cache.totalBytes) := by
  have backs := run.backs unused orderly few
  refine ⟨fun key buffer found => ?_, fun key other buffer buffer' found found' same => ?_,
    fun id shape => ?_, fun fits => ?_⟩
  · obtain ⟨own, id, owes, -⟩ := backs.backing_eq_owed found
    exact ⟨⟨id⟩, own.trans owes⟩
  · obtain ⟨own, -⟩ := backs.backing_eq_owed found
    obtain ⟨own', -⟩ := backs.backing_eq_owed found'
    have claimed' := StencilCache.claim_of_find? found'
    rw [← own', ← same, own] at claimed'
    exact backs.distinct key other _ _ _ (StencilCache.claim_of_find? found) claimed'
  · constructor
    · intro stored
      obtain ⟨key, claimed⟩ := backs.owned id shape stored
      obtain ⟨buffer, found, same⟩ := Option.map_eq_some_iff.mp claimed
      obtain ⟨owes, rfl⟩ := Prod.mk.inj same
      exact ⟨key, buffer, found, (backs.backing_eq_owed found).1.trans owes, rfl⟩
    · intro held
      obtain ⟨key, buffer, found, backed, rfl⟩ := held
      obtain ⟨own, id', owes, stored⟩ := backs.backing_eq_owed found
      rw [own, owes, Option.some.injEq, StencilId.mk.injEq] at backed
      exact backed ▸ stored
  · have held : ∀ buffer ∈ work.cache.buffers, buffer.shape.FitsWord := by
      intro buffer member
      obtain ⟨⟨key, _, stamp⟩, listed, rfl⟩ := List.mem_map.mp member
      exact fits key _ (StencilCache.find?_eq_some.mpr ⟨stamp, Arena.mem_toList.mp listed⟩)
    have counted := (backs.perm_shapes.map fun shape => (Software.wordBytes shape).toNat).sum_nat
    have words : work.cache.buffers.map (fun buffer => (Software.wordBytes buffer.shape).toNat) =
        work.cache.buffers.map fun buffer => buffer.shape.bytes.toNat := by
      apply List.map_congr_left
      intro buffer member
      rw [Software.wordBytes_of_fits (held buffer member)]
    rw [List.map_map] at counted
    rw [Software.stencilBytes_release, Except.ok.injEq, ← UInt64.toNat_inj, toNat_sum,
      run.coherent.counted, List.map_map, StencilCache.heldBytes, ← words]
    exact congrArg (· % 2 ^ 64) counted

/-- An allocation that is refused leaves the storage of the other buffer alone. -/
theorem storage_matches_after_refusal :
    ∃ (steps : List (Step Software)) (work : CacheSession Software),
      Run .release ⟨{ budget := {} }, .software (some 10000)⟩ steps work ∧ steps.length = 2 ∧
        ∃ key buffer, work.cache.find? key = some buffer ∧ buffer.backing = some ⟨1⟩ ∧
          buffer.shape = ⟨64, 32, 8, 4⟩ := by
  have start : Run .release
      (⟨{ budget := {} }, .software (some 10000)⟩ : CacheSession Software) [] _ := .nil
  have granted := start.next (.findOrCreate ⟨64, 32, 8, 4⟩) (.ok ⟨1, 1⟩) (by decide +kernel)
  have refused := granted.next (.findOrCreate ⟨64, 64, 8, 4⟩) (.error .outOfMemory)
    (by decide +kernel)
  obtain ⟨-, -, stored, -⟩ := storage_matches_cache refused rfl
    (by simp [Step.taken, Operation.Orderly]) (by decide +kernel)
  exact ⟨_, _, refused, rfl, (stored 1 _).mp (by decide +kernel)⟩

end RenderCore
