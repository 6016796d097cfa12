import RenderCore.Proofs.Stencil.DebugRuns
import RenderCore.Proofs.Stencil.Progress
import RenderCore.Proofs.Stencil.ShownList

/-!
# The cache as a list of recently used buffers

The stamps, the map of last uses, the index and the plan of a purge together do what the plain list
does: the cache finds the last buffer of a form, and evicts from the front. In every run the cache
and the list answer the same and keep the same buffers.
-/

namespace RenderCore

namespace StencilCache

variable {cache : StencilCache} {list : RecentList}

/-! ## The last buffer of a form -/

theorem mem_of_mostRecent? {keys : List ArenaKey} {best : ArenaKey}
    (found : cache.mostRecent? keys = some best) : best ∈ keys := by
  induction keys with
  | nil => contradiction
  | cons key rest ih =>
    rw [mostRecent?] at found
    cases others : cache.mostRecent? rest with
    | none =>
      rw [others] at found
      obtain rfl := Option.some.inj found
      exact List.mem_cons_self
    | some other =>
      rw [others] at found ih
      dsimp only at found
      split at found
      · obtain rfl := Option.some.inj found
        exact List.mem_cons_self
      · exact List.mem_cons_of_mem key (ih found)

theorem mostRecent?_eq_some {keys : List ArenaKey} {best : ArenaKey} (member : best ∈ keys)
    (latest : ∀ key ∈ keys, key ≠ best → cache.lastUse key < cache.lastUse best) :
    cache.mostRecent? keys = some best := by
  induction keys with
  | nil => contradiction
  | cons key rest ih =>
    rw [mostRecent?]
    by_cases later : best ∈ rest
    · rw [ih later fun other member => latest other (List.mem_cons_of_mem key member)]
      have first : ¬ cache.lastUse best < cache.lastUse key := by
        by_cases same : key = best
        · rw [same]
          exact Nat.lt_irrefl _
        · have := latest key List.mem_cons_self same
          omega
      exact if_neg first
    · obtain rfl : best = key := by
        rcases List.mem_cons.mp member with same | member
        · exact same
        · contradiction
      cases others : cache.mostRecent? rest with
      | none => rfl
      | some other =>
        have listed := mem_of_mostRecent? others
        have less := latest other (List.mem_cons_of_mem best listed) (by rintro rfl; contradiction)
        exact if_pos less

theorem findScratch_fst (cache : StencilCache) (scratch : ScratchKey) :
    (cache.findScratch scratch).1 = cache.mostRecent? (cache.index.listed scratch) := by
  unfold findScratch ScratchIndex.listed
  cases cache.index.find? scratch with
  | none => rfl
  | some keys =>
    rw [Option.bind_some, Option.getD_some]
    cases cache.mostRecent? keys <;> rfl

theorem Shows.ordered (shows : cache.Shows list) (agrees : cache.RecencyAgrees) :
    list.items.Pairwise fun item later => cache.lastUse item.1 < cache.lastUse later.1 := by
  have ordered := agrees.oldestFirst_ordered
  rw [shows.order, RecentList.keys, List.pairwise_map] at ordered
  exact ordered

/-- The most recently used buffer of a form is the last one in the list. -/
theorem Shows.findScratch_fst (shows : cache.Shows list) (coherent : cache.Coherent)
    (scratch : ScratchKey) : (cache.findScratch scratch).1 = list.lastWith scratch := by
  have mem_form : ∀ key buffer,
      (key, buffer) ∈ list.items.filter (·.2.header.scratchKey = some scratch) ↔
        cache.find? key = some buffer ∧ buffer.header.scratchKey = some scratch := by
    intro key buffer
    rw [List.mem_filter, shows.found, decide_eq_true_eq]
  have ordered := (shows.ordered coherent.recent).filter (·.2.header.scratchKey = some scratch)
  have listed := coherent.indexed.listed scratch
  rw [StencilCache.findScratch_fst, RecentList.lastWith]
  generalize list.items.filter (·.2.header.scratchKey = some scratch) = form at mem_form ordered ⊢
  rcases List.eq_nil_or_concat form with rfl | ⟨before, last, rfl⟩
  · have empty : cache.index.listed scratch = [] := by
      rw [List.eq_nil_iff_forall_not_mem]
      intro key member
      obtain ⟨buffer, found⟩ := (listed key).mp member
      simpa using (mem_form key buffer).mpr found
    rw [empty]
    rfl
  · rw [List.concat_eq_append] at mem_form ordered ⊢
    rw [List.getLast?_concat, Option.map_some]
    apply mostRecent?_eq_some
    · exact (listed last.1).mpr ⟨last.2, (mem_form last.1 last.2).mp (by simp)⟩
    · intro key member apart
      obtain ⟨buffer, found⟩ := (listed key).mp member
      rcases List.mem_append.mp ((mem_form key buffer).mpr found) with earlier | same
      · exact (List.pairwise_append.mp ordered).2.2 _ earlier last (by simp)
      · rw [List.mem_singleton] at same
        exact absurd (congrArg Prod.fst same) apart

theorem Shows.findScratch_snd (shows : cache.Shows list) (coherent : cache.Coherent)
    (scratch : ScratchKey) :
    (cache.findScratch scratch).2.Shows
      (match list.lastWith scratch with
        | some key => list.moveToEnd key
        | none => list) := by
  have same := shows.findScratch_fst coherent scratch
  cases found : list.lastWith scratch with
  | none =>
    rw [findScratch_of_none (same.trans found)]
    exact shows
  | some key =>
    rw [findScratch_of_some (same.trans found)]
    exact shows.touch coherent.recent key

/-! ## What a purge leaves -/

theorem Shows.perm (shows : cache.Shows list) (agrees : cache.RecencyAgrees) :
    (cache.entries.toList.map fun item => (item.1, item.2.buffer)).Perm list.items := by
  have nodup : (cache.entries.toList.map fun item => (item.1, item.2.buffer)).Nodup := by
    refine List.Nodup.of_map (·.1) ?_
    rw [List.map_map]
    exact Arena.nodup_keys_toList cache.entries
  rw [List.perm_ext_iff_of_nodup nodup (shows.nodup_items agrees)]
  intro item
  obtain ⟨key, buffer⟩ := item
  rw [shows.found, find?_eq_some, List.mem_map]
  constructor
  · intro listed
    obtain ⟨⟨_, _, stamp⟩, member, same⟩ := listed
    obtain ⟨rfl, rfl⟩ := Prod.mk.inj same
    exact ⟨stamp, Arena.mem_toList.mp member⟩
  · intro found
    obtain ⟨stamp, found⟩ := found
    exact ⟨(key, ⟨buffer, stamp⟩), Arena.mem_toList.mpr found, rfl⟩

theorem Shows.size (shows : cache.Shows list) (agrees : cache.RecencyAgrees) :
    cache.size = list.items.length := by
  rw [← (shows.perm agrees).length_eq, List.length_map]
  rfl

theorem Shows.totalBytes (shows : cache.Shows list) (coherent : cache.Coherent) :
    cache.totalBytes = RecentList.bytes list.items := by
  have held : cache.heldBytes = (list.items.map fun item => item.2.shape.bytes.toNat).sum := by
    rw [heldBytes, buffers, List.map_map, ← ((shows.perm coherent.recent).map _).sum_nat,
      List.map_map]
    rfl
  rw [← UInt64.toNat_inj, coherent.counted, held, RecentList.bytes, toNat_sum, List.map_map]
  rfl

theorem excessOf_of_allows {count : Nat} {bytes : UInt64} (within : cache.budget.allows count bytes)
    (keys : List ArenaKey) : cache.excessOf count bytes keys = [] := by
  cases keys with
  | nil => rfl
  | cons key rest => rw [excessOf, if_pos within]

/-- The plan of a purge is the front of the list that trimming drops. -/
theorem excessOf_eq_front (keep : Option ArenaKey) {items : List (ArenaKey × StencilBuffer)}
    (sized : ∀ item ∈ items, cache.bytesOf item.1 = item.2.shape.bytes)
    (spared : ∀ item ∈ items.dropLast, keep ≠ some item.1) :
    ∃ front, items = front ++ RecentList.trim cache.budget keep items ∧
      cache.excessOf items.length (RecentList.bytes items)
        ((items.map (·.1)).filter fun key => some key ≠ keep) = front.map (·.1) := by
  induction items with
  | nil => exact ⟨[], rfl, rfl⟩
  | cons item rest ih =>
    have first : rest ≠ [] → keep ≠ some item.1 := by
      intro more
      apply spared
      rw [List.dropLast_cons_of_ne_nil more]
      exact List.mem_cons_self
    have others : ∀ item ∈ rest.dropLast, keep ≠ some item.1 := by
      intro other member
      apply spared
      have more : rest ≠ [] := List.ne_nil_of_mem (List.dropLast_subset _ member)
      rw [List.dropLast_cons_of_ne_nil more]
      exact List.mem_cons_of_mem item member
    by_cases within : cache.budget.allows (rest.length + 1) (RecentList.bytes (item :: rest))
    · refine ⟨[], ?_, excessOf_of_allows within _⟩
      rw [RecentList.trim, if_pos (.inl within), List.nil_append]
    · by_cases kept : keep = some item.1
      · obtain rfl : rest = [] := by
          by_contra more
          exact first more kept
        refine ⟨[], ?_, ?_⟩
        · rw [RecentList.trim, if_pos (.inr kept), List.nil_append]
        · rw [kept]
          simp [excessOf]
      · obtain ⟨front, parts, excess⟩ := ih
          (fun other member => sized other (List.mem_cons_of_mem item member)) others
        refine ⟨item :: front, ?_, ?_⟩
        · rw [RecentList.trim, if_neg (not_or.mpr ⟨within, kept⟩), List.cons_append, ← parts]
        · have left : RecentList.bytes (item :: rest) - cache.bytesOf item.1 =
              RecentList.bytes rest := by
            rw [sized item List.mem_cons_self, RecentList.bytes, List.map_cons, List.sum_cons,
              UInt64.add_comm, UInt64.add_sub_cancel]
            rfl
          have listed : decide (some item.1 ≠ keep) = true := by simpa using Ne.symm kept
          rw [List.map_cons, List.filter_cons, if_pos listed, List.length_cons, excessOf,
            if_neg within, left, Nat.add_sub_cancel, excess, List.map_cons]

/-- A purge that spares at most the last key drops items from the front. -/
theorem Shows.purge (shows : cache.Shows list) (coherent : cache.Coherent)
    {keep : Option ArenaKey} (spared : ∀ item ∈ list.items.dropLast, keep ≠ some item.1) :
    ((cache.excess keep).foldl StencilCache.discharge cache).Shows (list.purge keep) ∧
      (cache.excess keep).length = list.items.length - (list.purge keep).items.length := by
  have sized : ∀ item ∈ list.items, cache.bytesOf item.1 = item.2.shape.bytes := by
    intro item member
    rw [bytesOf, (shows.found item.1 item.2).mp member]
  obtain ⟨front, parts, plan⟩ := excessOf_eq_front keep sized spared
  have excess : cache.excess keep = front.map (·.1) := by
    rw [StencilCache.excess, shows.size coherent.recent, shows.totalBytes coherent, shows.order]
    exact plan
  rw [shows.budget] at parts
  have kept : list.items.filter (fun item => item.1 ∉ front.map (·.1)) =
      RecentList.trim list.budget keep list.items := by
    have nodup := shows.nodup coherent.recent
    rw [RecentList.keys, parts, List.map_append, List.nodup_append] at nodup
    rw [parts, List.filter_append]
    have dropped : front.filter (fun item => item.1 ∉ front.map (·.1)) = [] := by
      rw [List.filter_eq_nil_iff]
      intro item member
      simpa using ⟨item.2, member⟩
    have others : (RecentList.trim list.budget keep list.items).filter
        (fun item => item.1 ∉ front.map (·.1)) = RecentList.trim list.budget keep list.items := by
      rw [List.filter_eq_self]
      intro item member
      rw [decide_eq_true_eq]
      intro early
      exact nodup.2.2 _ early _ (List.mem_map_of_mem member) rfl
    rw [dropped, ← parts, others, List.nil_append]
  rw [excess]
  constructor
  · have shown := shows.dischargeAll coherent (front.map (·.1))
    rw [kept] at shown
    exact shown
  · have length := congrArg List.length parts
    rw [List.length_append] at length
    change (front.map (·.1)).length =
      list.items.length - (RecentList.trim list.budget keep list.items).length
    rw [List.length_map]
    omega

/-! ## The rule of the list -/

variable {δ α : Type} [Backend δ] {held left : Holding δ}

/-- A new buffer is appended, or the list stays as it is. -/
theorem Shows.adds (shows : held.cache.Shows list) (coherent : held.cache.Coherent)
    {lifeCycle : LifeCycle} {shape : StencilShape} {outcome : Except Fault ArenaKey}
    (allocates : held.Allocates lifeCycle shape outcome left) :
    ∃ next, list.Adds lifeCycle shape (fun _ grown => grown) outcome next ∧
      left.cache.Shows next := by
  cases allocates with
  | made given =>
    exact ⟨_, .inl ⟨_, _, _, shows.fresh coherent _, rfl, rfl⟩, shows.lodge coherent _⟩
  | refused given => exact ⟨list, .inr ⟨_, rfl, rfl⟩, shows⟩

/-- A buffer of the form is moved to the end, or a new one is added and spared in the purge. -/
theorem Shows.finds (shows : held.cache.Shows list) (coherent : held.cache.Coherent)
    {shape : StencilShape} {outcome : Except Fault ArenaKey}
    (acquires : held.Acquires shape outcome left) :
    ∃ next, list.Finds shape outcome next ∧ left.cache.Shows next := by
  have same := shows.findScratch_fst coherent shape.scratchKey
  unfold RecentList.Finds
  cases acquires with
  | hit found =>
    rw [← same, found]
    exact ⟨_, ⟨rfl, rfl⟩, shows.touch coherent.recent _⟩
  | @miss key between absent allocated =>
    rw [← same, absent]
    obtain ⟨grown, added, shown⟩ := shows.adds coherent allocated
    rcases added with ⟨key', id, storage, fresh, answer, rfl⟩ | ⟨fault, refused, -⟩
    · obtain rfl := Except.ok.inj answer
      refine ⟨_, .inl ⟨key, id, storage, fresh, rfl, rfl⟩, ?_⟩
      rw [Holding.cache_evictAll]
      refine (shown.purge (allocated.coherent coherent) ?_).1
      -- The new key is the last one, and those before it are older.
      intro item member same
      rw [RecentList.append, List.dropLast_concat] at member
      apply fresh
      rw [Option.some.inj same]
      exact List.mem_map_of_mem member
    · contradiction
  | refused absent allocated =>
    rw [← same, absent]
    obtain ⟨grown, added, shown⟩ := shows.adds coherent allocated
    rcases added with ⟨key', id, storage, fresh, answer, -⟩ | ⟨fault, refused, rfl⟩
    · contradiction
    · exact ⟨_, .inr ⟨fault, refused, rfl⟩, shown⟩

theorem Shows.cleared (shows : cache.Shows list) {other : StencilCache}
    (budget : other.budget = cache.budget) (order : other.recency.oldestFirst = [])
    (empty : ∀ key, other.find? key = none) : other.Shows { list with items := [] } := by
  refine ⟨budget.trans shows.budget, order, fun key buffer => ?_⟩
  simp [empty]

theorem Shows.dischargeAll_keys (shows : cache.Shows list) (coherent : cache.Coherent) :
    (cache.keys.foldl StencilCache.discharge cache).Shows { list with items := [] } := by
  have shown := shows.dischargeAll coherent cache.keys
  have none_left : list.items.filter (fun item => item.1 ∉ cache.keys) = [] := by
    rw [List.filter_eq_nil_iff]
    intro item member
    have listed := mem_keys.mpr ⟨item.2, (shows.found item.1 item.2).mp member⟩
    simp [listed]
  rw [none_left] at shown
  exact shown

theorem Shows.used (shows : cache.Shows list) (coherent : cache.Coherent)
    (attachment : StencilAttachment) :
    (attachment.used cache).Shows
      (match attachment.key with
        | some key => list.moveToEnd key
        | none => list) := by
  obtain ⟨key⟩ := attachment
  cases key with
  | none => exact shows
  | some key =>
    cases live : cache.find? key with
    | none =>
      rw [StencilAttachment.used_of_none live]
      have same : list.moveToEnd key = list := by
        rw [RecentList.moveToEnd, shows.lookup, live]
      change cache.Shows (list.moveToEnd key)
      rw [same]
      exact shows
    | some buffer =>
      rw [StencilAttachment.used_of_some live]
      exact shows.touch coherent.recent key

/-- Whatever an operation comes to, the list answers the same and is what the cache shows then. -/
theorem Shows.answers (shows : held.cache.Shows list) (coherent : held.cache.Coherent)
    {operation : Operation δ α} {outcome : Except Fault α}
    (effect : operation.Effect held outcome left) :
    ∃ next, list.Answers operation outcome next ∧ left.cache.Shows next := by
  have lookup := shows.lookup
  have contains : ∀ key, held.cache.contains key = (list.lookup key).isSome := by
    intro key
    rw [contains_eq, lookup]
  cases operation with
  | insert buffer keyed =>
    obtain ⟨rfl, rfl⟩ := effect
    exact ⟨_, ⟨_, shows.fresh coherent buffer, rfl, rfl⟩, shows.lodge coherent buffer⟩
  | allocate lifeCycle shape => exact shows.adds coherent effect
  | findScratch scratch =>
    obtain ⟨rfl, rfl⟩ := effect
    refine ⟨_, ⟨?_, rfl⟩, shows.findScratch_snd coherent scratch⟩
    rw [shows.findScratch_fst coherent]
  | findOrCreate shape => exact shows.finds coherent effect
  | find key =>
    obtain ⟨rfl, rfl⟩ := effect
    exact ⟨list, ⟨by rw [lookup], rfl⟩, shows⟩
  | contains key =>
    obtain ⟨rfl, rfl⟩ := effect
    exact ⟨list, ⟨by rw [contains], rfl⟩, shows⟩
  | access key =>
    obtain ⟨rfl, rfl⟩ := effect
    exact ⟨_, ⟨by rw [lookup], rfl⟩, shows.touch coherent.recent key⟩
  | setClip key clip =>
    obtain ⟨rfl, rfl⟩ := effect
    exact ⟨_, ⟨by rw [contains], rfl⟩, (shows.touch coherent.recent key).revise key _⟩
  | releaseInPlace key =>
    obtain ⟨rfl, rfl⟩ := effect
    exact ⟨_, ⟨by rw [contains], rfl⟩, (shows.touch coherent.recent key).revise key _⟩
  | evict key =>
    obtain ⟨rfl, rfl⟩ := effect
    exact ⟨_, ⟨by rw [contains], rfl⟩, shows.discharge coherent.recent key⟩
  | purge =>
    obtain ⟨rfl, rfl⟩ := effect
    have spared : ∀ item ∈ list.items.dropLast, none ≠ some item.1 := by
      intro item _ same
      contradiction
    obtain ⟨shown, count⟩ := shows.purge coherent spared
    refine ⟨_, ⟨rfl, by rw [count]⟩, ?_⟩
    rw [Holding.cache_evictAll]
    exact shown
  | purgeAll =>
    obtain ⟨rfl, rfl⟩ := effect
    refine ⟨_, ⟨rfl, rfl⟩, ?_⟩
    rw [Holding.cache_evictAll]
    exact shows.dischargeAll_keys coherent
  | abandonAll =>
    obtain ⟨rfl, rfl⟩ := effect
    exact ⟨_, ⟨rfl, rfl⟩, shows.cleared rfl rfl (find?_abandonAll _)⟩
  | setBudget budget =>
    obtain ⟨rfl, rfl⟩ := effect
    exact ⟨_, ⟨rfl, rfl⟩, rfl, shows.order, shows.found⟩
  | attach attachment shape =>
    cases effect with
    | kept fits =>
      refine ⟨list, ?_, shows⟩
      simp only [RecentList.Answers, lookup, fits, and_self]
    | acquired unfit acquires =>
      obtain ⟨next, found, shown⟩ := shows.finds coherent acquires
      refine ⟨next, ?_, shown⟩
      simp only [RecentList.Answers, lookup, unfit]
      exact ⟨_, found, rfl⟩
    | refused unfit acquires =>
      obtain ⟨next, found, shown⟩ := shows.finds coherent acquires
      refine ⟨next, ?_, shown⟩
      simp only [RecentList.Answers, lookup, unfit]
      exact ⟨_, found, rfl⟩
  | resolve attachment =>
    obtain ⟨rfl, rfl⟩ := effect
    exact ⟨list, ⟨by rw [lookup], rfl⟩, shows⟩
  | accessAttached attachment =>
    obtain ⟨rfl, rfl⟩ := effect
    exact ⟨_, ⟨by rw [lookup], rfl⟩, shows.used coherent attachment⟩
  | setClipAttached attachment clip =>
    obtain ⟨rfl, rfl⟩ := effect
    refine ⟨_, ⟨by rw [lookup], rfl⟩, ?_⟩
    obtain ⟨key⟩ := attachment
    cases key with
    | none => exact shows
    | some key => exact (shows.used coherent ⟨some key⟩).revise key _
  | elsewhere change =>
    obtain ⟨rfl, cache, -⟩ := effect
    exact ⟨list, ⟨rfl, rfl⟩, cache ▸ shows⟩

/-- Looking for a buffer that is not there leaves every entry as it is. -/
theorem Shows.entries_of_misses (shows : held.cache.Shows list) (coherent : held.cache.Coherent)
    {operation : Operation δ α} {outcome : Except Fault α}
    (effect : operation.Effect held outcome left) (misses : RecentList.Misses operation list) :
    left.cache.entries = held.cache.entries := by
  have lookup := shows.lookup
  have untouched : ∀ key, held.cache.find? key = none →
      held.cache.touch key = held.cache.tick := by
    intro key stale
    exact touch_of_none (by simpa [find?] using stale)
  have unrevised : ∀ key change, held.cache.find? key = none →
      (held.cache.touch key).revise key change = held.cache.tick := by
    intro key change stale
    rw [StencilCache.revise, find?_touch, stale, untouched key stale]
  cases operation with
  | findScratch scratch =>
    obtain ⟨rfl, rfl⟩ := effect
    rw [findScratch_of_none ((shows.findScratch_fst coherent scratch).trans misses)]
  | access key =>
    obtain ⟨rfl, rfl⟩ := effect
    rw [untouched key (lookup ▸ misses)]
    rfl
  | setClip key clip =>
    obtain ⟨rfl, rfl⟩ := effect
    rw [unrevised key _ (lookup ▸ misses)]
    rfl
  | releaseInPlace key =>
    obtain ⟨rfl, rfl⟩ := effect
    rw [unrevised key _ (lookup ▸ misses)]
    rfl
  | evict key =>
    obtain ⟨rfl, rfl⟩ := effect
    rw [Holding.evict, discharge_of_none (lookup ▸ misses)]
  | accessAttached attachment =>
    obtain ⟨rfl, rfl⟩ := effect
    obtain ⟨key⟩ := attachment
    cases key with
    | none => rfl
    | some key => rw [StencilAttachment.used_of_none (lookup ▸ misses key rfl)]
  | setClipAttached attachment clip =>
    obtain ⟨rfl, rfl⟩ := effect
    obtain ⟨key⟩ := attachment
    cases key with
    | none => rfl
    | some key => rw [StencilAttachment.clipped_of_none (lookup ▸ misses key rfl)]
  | _ => exact misses.elim

end StencilCache

/-! ## Runs -/

variable {δ : Type} [backend : Backend δ] {build : Build}

/-- The list that begins empty and follows the steps of a program by its own rule. Before and after
    each step it is what the cache shows. A step that looks for something that is not in the list
    leaves the entries of the cache as they are, and a step fails only if the backend refuses the
    storage that it asks for. -/
inductive RecentList.Follows (build : Build) (budget : CacheBudget) :
    List (Step δ) → RecentList → Prop where
  | nil : Follows build budget [] { budget }
  | cons {step : Step δ} {steps : List (Step δ)} {list next : RecentList}
      (follows : Follows build budget steps list) (before : step.before.cache.Shows list)
      (answers : RecentList.Answers step.operation list step.outcome next)
      (misses : RecentList.Misses step.operation list →
        step.after.cache.entries = step.before.cache.entries)
      (refused : ∀ fault, step.outcome = .error fault → ∃ shape,
        step.operation.wants = some shape ∧
          Backend.createStencil build shape step.before.session.backend =
            .error (.fault fault) step.after.session.backend)
      (after : step.after.cache.Shows next) : Follows build budget (step :: steps) next

theorem RecentList.exists_follows {budget : CacheBudget} {session : Session δ}
    {steps : List (Step δ)} {work : CacheSession δ}
    (run : Run build ⟨{ budget }, session⟩ steps work) :
    ∃ list, RecentList.Follows build budget steps list ∧ work.cache.Shows list := by
  induction run with
  | nil => exact ⟨_, .nil, StencilCache.shows_empty budget⟩
  | cons run completes ih =>
    obtain ⟨list, follows, shows⟩ := ih
    have effect := Step.effectIn completes
    obtain ⟨next, answers, shown⟩ :=
      @StencilCache.Shows.answers _ δ _ (backend.fixed build) _ _ shows run.coherent _ _ effect
    have misses := @StencilCache.Shows.entries_of_misses _ δ _ (backend.fixed build) _ _ shows
      run.coherent _ _ effect
    refine ⟨next, .cons follows shows answers misses (fun fault failed => ?_) shown, shown⟩
    rw [failed] at effect
    exact @Operation.Effect.refused δ _ (backend.fixed build) _ _ _ _ effect

/-- In every run, of either build, the cache is a list of recently used buffers: with every step the
    list answers what the cache answers, and keeps what the cache keeps. Unless a logger fails or the
    backend panics, a run of a release build goes on with whatever operation comes next. -/
theorem follows_of_run {budget : CacheBudget} {session : Session δ} {steps : List (Step δ)}
    {work : CacheSession δ} (run : Run build ⟨{ budget }, session⟩ steps work) :
    (∃ list, RecentList.Follows build budget steps list ∧ work.cache.Shows list) ∧
      (build = .release → Backend.Steady δ → work.Reliable →
        ∀ (α : Type) (operation : Operation δ α), operation.Harmless →
          ∃ outcome after, after.Reliable ∧
            Run .release ⟨{ budget }, session⟩
              (⟨operation, work, outcome, after⟩ :: steps) after) := by
  constructor
  · exact RecentList.exists_follows run
  · rintro rfl backend reliable α operation harmless
    exact run.extends backend reliable harmless

/-- Of a cache for two buffers, a third one evicts the one that was not used again. -/
theorem follows_of_four_lookups :
    ∃ (steps : List (Step Software)) (work : CacheSession Software) (list : RecentList),
      Run .release ⟨{ budget := { maxCount := 2 } }, .software none⟩ steps work ∧
        steps.length = 4 ∧ RecentList.Follows .release { maxCount := 2 } steps list ∧
        work.cache.Shows list ∧ list.keys = [⟨1, 1⟩, ⟨3, 1⟩] ∧
        ∃ outcome after, Run .release ⟨{ budget := { maxCount := 2 } }, .software none⟩
          (⟨.purgeAll, work, outcome, after⟩ :: steps) after := by
  have start : Run .release (⟨{ budget := { maxCount := 2 } }, .software none⟩ :
      CacheSession Software) [] _ := .nil
  have first := start.next (.findOrCreate ⟨64, 32, 8, 4⟩) (.ok ⟨1, 1⟩) (by decide +kernel)
  have second := first.next (.findOrCreate ⟨16, 16, 8, 0⟩) (.ok ⟨2, 1⟩) (by decide +kernel)
  have again := second.next (.findOrCreate ⟨64, 32, 8, 4⟩) (.ok ⟨1, 1⟩) (by decide +kernel)
  have third := again.next (.findOrCreate ⟨32, 32, 8, 0⟩) (.ok ⟨3, 1⟩) (by decide +kernel)
  obtain ⟨⟨list, follows, shows⟩, goes_on⟩ := follows_of_run third
  have reliable := third.reliable Software.steady (by simp [Step.taken, Operation.Harmless])
    (fun _ opened kept entry => by cases opened; rfl)
  obtain ⟨outcome, after, -, emptied⟩ :=
    goes_on rfl Software.steady reliable Unit .purgeAll trivial
  exact ⟨_, _, list, third, rfl, follows, shows, shows.order.symm.trans (by decide +kernel),
    outcome, after, emptied⟩

end RenderCore
