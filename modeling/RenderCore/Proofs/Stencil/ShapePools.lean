import RenderCore.Proofs.Stencil.GenerousBackends
import RenderCore.Proofs.Stencil.LeastRecentlyUsed
import RenderCore.Proofs.Stencil.Sharing

/-!
# Caches without keys

As long as buffers are only looked up and purged, and the backend has memory, all that can be seen
of a cache, keys and names apart, is settled by the shapes of its buffers in the order of last use.
Such a cache does what a pool of shapes does: a look-up moves the shape of the wanted form to the
end or appends a new one, and a purge drops shapes from the front.
-/

namespace RenderCore

/-! ## Pools -/

instance (shape other : StencilShape) : Decidable (shape.SameForm other) :=
  inferInstanceAs (Decidable (_ ∧ _ ∧ _))

/-- What is asked of a cache that only lends buffers. -/
inductive PoolRequest where
  | lookUp (shape : StencilShape)
  | setBudget (budget : CacheBudget)
  | purge
  deriving DecidableEq, Repr

/-- What comes of a request. -/
inductive PoolAnswer where
  /-- Whether the buffer was there already, and its shape. -/
  | served (hit : Bool) (shape : Option StencilShape)
  | budgeted
  /-- How many buffers were evicted. -/
  | purged (count : Nat)
  deriving DecidableEq, Repr

/-- What is seen after a request. -/
structure PoolSight where
  answer : PoolAnswer
  /-- The shapes of all buffers, least recently used first. -/
  shapes : List StencilShape
  size : Nat
  bytes : UInt64
  deriving DecidableEq, Repr

/-- Shapes, least recently used first, and what a purge may leave of them. -/
structure ShapePool where
  shapes : List StencilShape := []
  budget : CacheBudget
  deriving DecidableEq, Repr

namespace ShapePool

/-- Storage for some shapes, in 64-bit words that wrap around. -/
def bytes (shapes : List StencilShape) : UInt64 := (shapes.map (·.bytes)).sum

/-- What is left when shapes are dropped from the front as long as there is more than a budget
    allows. The last `spared` ones are not dropped. -/
def trim (budget : CacheBudget) (spared : Nat) : List StencilShape → List StencilShape
  | [] => []
  | shape :: rest =>
    if budget.allows (rest.length + 1) (bytes (shape :: rest)) ∨ rest.length < spared then
      shape :: rest
    else trim budget spared rest

/-- What comes of a request, and the pool that is left. -/
def answer (pool : ShapePool) : PoolRequest → PoolAnswer × ShapePool
  | .lookUp shape =>
    match pool.shapes.find? (·.SameForm shape) with
    | some found =>
      let others := pool.shapes.filter fun other => ¬ other.SameForm shape
      (.served true found, { pool with shapes := others ++ [found] })
    | none =>
      (.served false shape, { pool with shapes := trim pool.budget 1 (pool.shapes ++ [shape]) })
  | .setBudget budget => (.budgeted, { pool with budget })
  | .purge =>
    let left := trim pool.budget 0 pool.shapes
    (.purged (pool.shapes.length - left.length), { pool with shapes := left })

/-- What is seen of a pool. -/
def sight (pool : ShapePool) (answer : PoolAnswer) : PoolSight where
  answer := answer
  shapes := pool.shapes
  size := pool.shapes.length
  bytes := bytes pool.shapes

/-- What is seen when requests are made one after the other. -/
def sights (pool : ShapePool) : List PoolRequest → List PoolSight
  | [] => []
  | request :: rest =>
    let (answer, left) := pool.answer request
    left.sight answer :: left.sights rest

end ShapePool

/-! ## Requests of a cache -/

section requests

variable {δ : Type} [Backend δ]

/-- The shapes of all buffers, least recently used first. -/
def StencilCache.recentShapes (cache : StencilCache) : List StencilShape :=
  cache.recency.oldestFirst.filterMap fun key => (cache.find? key).map (·.shape)

/-- What is seen of a cache after a request. -/
def StencilCache.sight (cache : StencilCache) (answer : PoolAnswer) : PoolSight where
  answer := answer
  shapes := cache.recentShapes
  size := cache.size
  bytes := cache.totalBytes

/-- The request, made of a cache in a release build. -/
def PoolRequest.act : PoolRequest → Act (CacheSession δ) PoolAnswer
  | .lookUp shape => do
    let before ← get
    let key ← CacheSession.findOrCreate .release shape
    let after ← get
    return .served (before.cache.contains key) ((after.cache.find? key).map (·.shape))
  | .setBudget budget => do
    CacheSession.edit (·.setBudget budget)
    return .budgeted
  | .purge => do
    let count ← CacheSession.purge .release
    return .purged count

/-- What is seen when requests are made one after the other. -/
def CacheSession.sights : List PoolRequest → Act (CacheSession δ) (List PoolSight)
  | [] => return []
  | request :: rest => do
    let answer ← request.act
    let after ← get
    let later ← sights rest
    return after.cache.sight answer :: later

end requests

/-! ## Lists of buffers and their shapes -/

namespace RecentList

/-- The shapes of the buffers. -/
def shapes (list : RecentList) : List StencilShape := list.items.map (·.2.shape)

theorem bytes_eq (items : List (ArenaKey × StencilBuffer)) :
    bytes items = ShapePool.bytes (items.map (·.2.shape)) := by
  rw [bytes, ShapePool.bytes, List.map_map]
  rfl

/-- Trimming a list trims its shapes, if the buffer to keep is among the last ones that are
    spared, and none of the others. -/
theorem map_shape_trim (budget : CacheBudget) {keep : Option ArenaKey} {spared : Nat}
    {items : List (ArenaKey × StencilBuffer)}
    (last : ∀ front item rest, items = front ++ item :: rest →
      (keep = some item.1 ↔ rest.length < spared)) :
    (trim budget keep items).map (·.2.shape) =
      ShapePool.trim budget spared (items.map (·.2.shape)) := by
  induction items with
  | nil => rfl
  | cons item rest ih =>
    have onward := ih fun front other rest' parts =>
      last (item :: front) other rest' (congrArg (item :: ·) parts)
    have spares := last [] item rest rfl
    simp only [trim, List.map_cons, ShapePool.trim, bytes_eq, List.length_map, spares]
    split
    · rfl
    · exact onward

theorem shapes_purge (list : RecentList) :
    (list.purge none).shapes = ShapePool.trim list.budget 0 list.shapes :=
  map_shape_trim list.budget fun _ _ _ _ => by simp

/-- A new buffer at the end is spared. -/
theorem shapes_purge_append (list : RecentList) {key : ArenaKey} (fresh : key ∉ list.keys)
    (buffer : StencilBuffer) :
    ((list.append key buffer).purge (some key)).shapes =
      ShapePool.trim list.budget 1 (list.shapes ++ [buffer.shape]) := by
  have parts : (list.items ++ [(key, buffer)]).map (·.2.shape) = list.shapes ++ [buffer.shape] :=
    List.map_append
  rw [← parts]
  refine map_shape_trim list.budget fun front item rest parts => ?_
  -- The item with nothing after it is the new one, and its key is none of those before it.
  rcases List.eq_nil_or_concat rest with rfl | ⟨rest, other, rfl⟩
  · obtain ⟨-, same⟩ := List.append_inj' parts rfl
    obtain rfl := List.cons.inj same |>.1
    simp
  · rw [List.concat_eq_append, ← List.cons_append, ← List.append_assoc] at parts
    obtain ⟨old, -⟩ := List.append_inj' parts rfl
    have listed : item.1 ∈ list.keys := by
      rw [keys, old]
      exact List.mem_map_of_mem (List.mem_append_right _ List.mem_cons_self)
    have apart : key ≠ item.1 := fun same => fresh (same ▸ listed)
    simp [apart]

theorem mem_trim_getLast (budget : CacheBudget) {key : ArenaKey} {buffer : StencilBuffer}
    (items : List (ArenaKey × StencilBuffer)) :
    (key, buffer) ∈ trim budget (some key) (items ++ [(key, buffer)]) := by
  induction items with
  | nil => simp [trim]
  | cons item rest ih =>
    rw [List.cons_append, trim]
    split
    · simp
    · exact ih

end RecentList

/-! ## The pool of a cache -/

/-- The cache has one cached buffer for each shape of the pool, in the pool's order of use, and no
    others. -/
structure StencilCache.Pools (cache : StencilCache) (pool : ShapePool) : Prop where
  coherent : cache.Coherent
  sole : cache.Sole
  shown : ∃ list : RecentList, cache.Shows list ∧ list.shapes = pool.shapes ∧
    list.budget = pool.budget

namespace StencilCache

variable {cache : StencilCache} {list : RecentList} {pool : ShapePool} {key : ArenaKey}
  {buffer : StencilBuffer} {shape : StencilShape}

theorem Shows.recentShapes_eq (shows : cache.Shows list) : cache.recentShapes = list.shapes := by
  have found : ∀ item ∈ list.items,
      (cache.find? item.1).map (·.shape) = some item.2.shape := by
    intro item member
    rw [(shows.found item.1 item.2).mp member, Option.map_some]
  rw [recentShapes, shows.order, RecentList.keys, List.filterMap_map, RecentList.shapes,
    ← List.filterMap_eq_map]
  exact List.filterMap_congr found

/-- All that is seen of the cache is what is seen of the pool. -/
theorem Pools.sight_eq (pools : cache.Pools pool) (answer : PoolAnswer) :
    cache.sight answer = pool.sight answer := by
  obtain ⟨list, shows, shapes, -⟩ := pools.shown
  rw [sight, ShapePool.sight, shows.recentShapes_eq, shows.size pools.coherent.recent,
    shows.totalBytes pools.coherent, RecentList.bytes_eq, ← shapes, RecentList.shapes,
    List.length_map]

/-- The buffers of a form are those of its scratch key. -/
theorem Shows.keyed_iff (shows : cache.Shows list) (coherent : cache.Coherent)
    (sole : cache.Sole) {item : ArenaKey × StencilBuffer} (member : item ∈ list.items) :
    item.2.header.scratchKey = some shape.scratchKey ↔ item.2.shape.SameForm shape := by
  have live := (shows.found item.1 item.2).mp member
  rw [(coherent.indexed.keyed item.1 item.2 live).scratchKey_iff,
    and_iff_right (sole.cached item.1 item.2 live)]

/-- Of a form that there is a buffer of there is one buffer, which the list finds last and its
    shapes find first. -/
theorem Shows.find_of_lastWith (shows : cache.Shows list) (coherent : cache.Coherent)
    (sole : cache.Sole) (last : list.lastWith shape.scratchKey = some key) :
    ∃ buffer, (key, buffer) ∈ list.items ∧
      list.shapes.find? (·.SameForm shape) = some buffer.shape ∧
      ∀ item ∈ list.items, item.1 = key ↔ item.2.shape.SameForm shape := by
  rw [RecentList.lastWith, Option.map_eq_some_iff] at last
  obtain ⟨⟨own, buffer⟩, last, same⟩ := last
  obtain rfl : own = key := same
  obtain ⟨member, keyed⟩ := List.mem_filter.mp (List.mem_of_getLast? last)
  have form := (shows.keyed_iff coherent sole member).mp (of_decide_eq_true keyed)
  have live := (shows.found _ _).mp member
  -- There is one buffer of the form at most, so the last of the list is the first of the shapes.
  have same : ∀ item ∈ list.items, item.2.shape.SameForm shape → item = (own, buffer) := by
    intro item listed alike
    have found := (shows.found item.1 item.2).mp listed
    have key := sole.unique _ _ _ _ found live (alike.trans form.symm)
    rw [key, live] at found
    exact Prod.ext key (Option.some.inj found).symm
  have first : (list.items.find? fun item => item.2.shape.SameForm shape) = some (own, buffer) := by
    cases searched : list.items.find? fun item => item.2.shape.SameForm shape with
    | none => exact absurd (decide_eq_true form) (List.find?_eq_none.mp searched _ member)
    | some item =>
      have alike := List.find?_some searched
      rw [same item (List.mem_of_find?_eq_some searched) (of_decide_eq_true alike)]
  refine ⟨buffer, member, ?_, fun item listed => ⟨fun key => ?_, fun alike => ?_⟩⟩
  · rw [RecentList.shapes, List.find?_map]
    exact congrArg (Option.map _) first
  · have found := (shows.found item.1 item.2).mp listed
    rw [key, live] at found
    rw [← Option.some.inj found]
    exact form
  · rw [same item listed alike]

/-- Of a form that there is no buffer of there is no shape. -/
theorem Shows.find_of_absent (shows : cache.Shows list) (coherent : cache.Coherent)
    (sole : cache.Sole) (absent : list.lastWith shape.scratchKey = none) :
    list.shapes.find? (·.SameForm shape) = none := by
  rw [RecentList.lastWith, Option.map_eq_none_iff, List.getLast?_eq_none_iff,
    List.filter_eq_nil_iff] at absent
  rw [RecentList.shapes, List.find?_map, Option.map_eq_none_iff, List.find?_eq_none]
  intro item member same
  have keyed := (shows.keyed_iff coherent sole member).mpr (of_decide_eq_true same)
  exact absent item member (decide_eq_true keyed)

/-- A used buffer takes its shape to the end. -/
theorem Shows.shapes_moveToEnd (shows : cache.Shows list) (member : (key, buffer) ∈ list.items)
    (only : ∀ item ∈ list.items, item.1 = key ↔ item.2.shape.SameForm shape) :
    (list.moveToEnd key).shapes =
      list.shapes.filter (fun other => ¬ other.SameForm shape) ++ [buffer.shape] := by
  have others : list.items.filter (·.1 ≠ key) =
      list.items.filter fun item => ¬ item.2.shape.SameForm shape := by
    apply List.filter_congr
    intro item listed
    rw [decide_eq_decide, ne_eq, only item listed]
  rw [RecentList.moveToEnd, shows.lookup, (shows.found key buffer).mp member]
  dsimp only
  rw [RecentList.append, RecentList.erase, others, RecentList.shapes, List.map_append,
    RecentList.shapes, List.filter_map]
  rfl

variable {δ : Type} [Backend δ] {held left : Holding δ}

/-- A look-up does to the cache what it does to the pool. -/
theorem Pools.finds (pools : held.cache.Pools pool)
    (acquires : held.Acquires shape (.ok key) left) :
    (pool.answer (.lookUp shape)).1 =
        .served (held.cache.contains key) ((left.cache.find? key).map (·.shape)) ∧
      left.cache.Pools (pool.answer (.lookUp shape)).2 := by
  obtain ⟨coherent, sole, list, shows, shapes, budget⟩ := pools
  obtain ⟨next, found, shown⟩ := shows.finds coherent acquires
  have coherent' := acquires.coherent coherent
  have sole' := acquires.sole coherent sole
  unfold RecentList.Finds at found
  rw [ShapePool.answer, ← shapes, contains_eq]
  cases last : list.lastWith shape.scratchKey with
  | some own =>
    rw [last] at found
    obtain ⟨answer, rfl⟩ := found
    obtain rfl := Except.ok.inj answer
    obtain ⟨buffer, member, first, only⟩ := shows.find_of_lastWith coherent sole last
    have live := (shows.found key buffer).mp member
    have moved : list.moveToEnd key = (list.erase key).append key buffer := by
      rw [RecentList.moveToEnd, shows.lookup, live]
    have live' : left.cache.find? key = some buffer := by
      rw [← shown.found, moved]
      exact List.mem_append_right _ (List.mem_singleton_self _)
    rw [first, live, live']
    refine ⟨rfl, coherent', sole', _, shown, shows.shapes_moveToEnd member only, ?_⟩
    rw [moved]
    exact budget
  | none =>
    rw [last] at found
    rw [shows.find_of_absent coherent sole last]
    rcases found with ⟨own, id, storage, fresh, answer, rfl⟩ | ⟨fault, refused, -⟩
    · obtain rfl := Except.ok.inj answer
      have new : held.cache.find? key = none := by
        rw [Option.eq_none_iff_forall_ne_some]
        intro buffer live
        exact fresh (List.mem_map_of_mem ((shows.found key buffer).mpr live))
      have live' : left.cache.find? key = some (.made id .cached (some storage) shape) := by
        rw [← shown.found]
        exact RecentList.mem_trim_getLast _ _
      rw [new, live', ← budget]
      exact ⟨rfl, coherent', sole', _, shown, list.shapes_purge_append fresh _, rfl⟩
    · contradiction

/-- So does a purge. -/
theorem Pools.purged (pools : held.cache.Pools pool) {count : Nat}
    (effect : (Operation.purge : Operation δ Nat).Effect held (.ok count) left) :
    (pool.answer .purge).1 = .purged count ∧ left.cache.Pools (pool.answer .purge).2 := by
  obtain ⟨coherent, sole, list, shows, shapes, budget⟩ := pools
  obtain ⟨_, ⟨rfl, answer⟩, shown⟩ := shows.answers coherent effect
  obtain rfl := Except.ok.inj answer
  have trimmed := list.shapes_purge
  rw [shapes, budget] at trimmed
  refine ⟨?_, effect.coherent coherent, effect.sole coherent not_false sole, _, shown, trimmed,
    budget⟩
  rw [ShapePool.answer, ← trimmed, ← shapes, RecentList.shapes, RecentList.shapes,
    List.length_map, List.length_map]

theorem Pools.setBudget (pools : cache.Pools pool) (budget : CacheBudget) :
    (cache.setBudget budget).Pools { pool with budget } := by
  obtain ⟨coherent, sole, list, shows, shapes, -⟩ := pools
  exact ⟨coherent.setBudget budget, ⟨sole.cached, sole.unique⟩, { list with budget },
    ⟨rfl, shows.order, shows.found⟩, shapes, rfl⟩

end StencilCache

/-! ## Sequences of requests -/

namespace CacheSession

variable {δ : Type} [Backend δ] {work : CacheSession δ} {pool : ShapePool}

/-- An operation that a generous backend lets succeed is cut short by a failing logger only. -/
theorem ends_act_ready {α : Type} (generous : Backend.Generous work.session.backend)
    (operation : Operation δ α) (steady : (operation.act .release).Steady Ready)
    (granted : ∀ fault left, ¬ operation.Effect work.holding (.error fault) left) :
    (operation.act .release).Ends work
      (fun a left => operation.Effect work.holding (.ok a) left.holding ∧
        (work.Reliable → left.Reliable))
      (fun _ _ => False) fun _ => ¬ work.Reliable := by
  refine ((operation.ends_act work).and (steady.ends work)).imp (fun a left ok => ?_)
    (fun _ _ failed => granted _ _ failed.1) fun _ cut reliable => cut.2 ⟨reliable, generous⟩
  exact ⟨ok.1, fun reliable => (ok.2 ⟨reliable, generous⟩).1⟩

/-- A request comes to the same on the cache and on the pool. -/
theorem ends_request (request : PoolRequest) (pools : work.cache.Pools pool)
    (generous : Backend.Generous work.session.backend) :
    (request.act : Act (CacheSession δ) PoolAnswer).Ends work
      (fun answer left => answer = (pool.answer request).1 ∧
        left.cache.Pools (pool.answer request).2 ∧
        Backend.Generous left.session.backend ∧ (work.Reliable → left.Reliable))
      (fun _ _ => False) fun _ => ¬ work.Reliable := by
  cases request with
  | lookUp shape =>
    apply Act.ends_get_bind
    have granted : ∀ fault left,
        ¬ (Operation.findOrCreate shape).Effect work.holding (.error fault) left := by
      intro fault left refused
      obtain ⟨-, key, answered⟩ := Holding.Acquires.generous refused generous
      contradiction
    have looked :=
      ends_act_ready generous (.findOrCreate shape) (steady_findOrCreate_ready shape) granted
    refine looked.bind fun key left ok => Act.ends_get_bind (Act.ends_pure ?_)
    obtain ⟨acquires, reliable⟩ := ok
    have lent : work.holding.cache.Pools pool := pools
    obtain ⟨answer, pools⟩ := lent.finds acquires
    exact ⟨answer.symm, pools, (Holding.Acquires.generous acquires generous).1, reliable⟩
  | setBudget budget =>
    exact Act.ends_modify_bind (Act.ends_pure ⟨rfl, pools.setBudget budget, generous, id⟩)
  | purge =>
    have purged := ends_act_ready generous .purge (steady_purgeSparing_ready none)
      fun _ _ refused => nomatch refused.1
    refine purged.bind fun count left ok => Act.ends_pure ?_
    obtain ⟨effect, reliable⟩ := ok
    have lent : work.holding.cache.Pools pool := pools
    obtain ⟨answer, pools⟩ := lent.purged effect
    have backend : left.session.backend = _ := congrArg Holding.backend effect.2
    refine ⟨answer.symm, pools, ?_, reliable⟩
    rw [backend]
    exact Holding.generous_evictAll generous _

/-- Whatever is asked of the cache, one request after the other, the pool shows the same. -/
theorem ends_sights (requests : List PoolRequest) (pools : work.cache.Pools pool)
    (generous : Backend.Generous work.session.backend) :
    (sights requests : Act (CacheSession δ) (List PoolSight)).Ends work
      (fun seen _ => seen = pool.sights requests) (fun _ _ => False) fun _ => ¬ work.Reliable := by
  -- Each request leaves a cache that has the pool's buffers, and a backend that still grants.
  induction requests generalizing work pool with
  | nil => exact Act.ends_pure rfl
  | cons request rest ih =>
    refine (ends_request request pools generous).bind fun answer left ok => ?_
    obtain ⟨rfl, pools', generous', reliable⟩ := ok
    apply Act.ends_get_bind
    refine Act.Ends.bind ((ih pools' generous').cut fun _ cut calm => cut (reliable calm))
      fun later _ same => Act.ends_pure ?_
    rw [same, pools'.sight_eq]
    rfl

example : (({ budget := { maxCount := 1 } } : ShapePool).sights
    [.lookUp ⟨64, 32, 8, 4⟩, .lookUp ⟨16, 16, 8, 0⟩]).map (·.shapes) =
      [[⟨64, 32, 8, 4⟩], [⟨16, 16, 8, 0⟩]] := by decide +kernel

end CacheSession

end RenderCore
