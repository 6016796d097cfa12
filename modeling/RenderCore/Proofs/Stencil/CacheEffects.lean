import RenderCore.Proofs.Stencil.BufferEffects

/-!
# What the cache's operations do to cache and backend

For each operation of the cache a lemma says what it leaves of cache and backend in a release
build, whether it answers, reports a fault or is cut short by a logger.
-/

namespace RenderCore

variable {δ : Type}

namespace Holding

variable [Backend δ]

/-- The backend after the buffer of a key was released. -/
def freed (held : Holding δ) (key : ArenaKey) : δ :=
  match held.cache.find? key with
  | some buffer => buffer.free held.backend
  | none => held.backend

/-- Cache and backend after an eviction. -/
def evict (held : Holding δ) (key : ArenaKey) : Holding δ :=
  ⟨held.cache.discharge key, held.freed key⟩

/-- Cache and backend after several evictions. -/
def evictAll (held : Holding δ) (keys : List ArenaKey) : Holding δ := keys.foldl evict held

/-- What the attempt to put a new buffer into the cache comes to. -/
inductive Allocates (held : Holding δ) (lifeCycle : LifeCycle) (shape : StencilShape) :
    Except Fault ArenaKey → Holding δ → Prop where
  | made {id : ResourceId} {storage : StencilId} {backend : δ}
      (given : Backend.createStencil .release shape held.backend = .ok storage backend) :
      Allocates held lifeCycle shape
        (.ok (held.cache.lodge (.made id lifeCycle (some storage) shape)).1)
        ⟨(held.cache.lodge (.made id lifeCycle (some storage) shape)).2, backend⟩
  | refused {fault : Fault} {backend : δ}
      (given : Backend.createStencil .release shape held.backend = .error (.fault fault) backend) :
      Allocates held lifeCycle shape (.error fault) ⟨held.cache, backend⟩

/-- What looking a buffer up, or else making one, comes to. -/
inductive Acquires (held : Holding δ) (shape : StencilShape) :
    Except Fault ArenaKey → Holding δ → Prop where
  | hit {key : ArenaKey} (found : (held.cache.findScratch shape.scratchKey).1 = some key) :
      Acquires held shape (.ok key) { held with cache := held.cache.touch key }
  | miss {key : ArenaKey} {between : Holding δ}
      (absent : (held.cache.findScratch shape.scratchKey).1 = none)
      (allocated : held.Allocates .cached shape (.ok key) between) :
      Acquires held shape (.ok key) (between.evictAll (between.cache.excess (some key)))
  | refused {fault : Fault} {between : Holding δ}
      (absent : (held.cache.findScratch shape.scratchKey).1 = none)
      (allocated : held.Allocates .cached shape (.error fault) between) :
      Acquires held shape (.error fault) between

theorem cache_evictAll (held : Holding δ) (keys : List ArenaKey) :
    (held.evictAll keys).cache = keys.foldl StencilCache.discharge held.cache := by
  unfold evictAll
  induction keys generalizing held with
  | nil => rfl
  | cons key rest ih => rw [List.foldl_cons, ih, List.foldl_cons, evict]

theorem coherent_evictAll {held : Holding δ} (coherent : held.cache.Coherent)
    (keys : List ArenaKey) : (held.evictAll keys).cache.Coherent := by
  unfold evictAll
  induction keys generalizing held with
  | nil => exact coherent
  | cons key rest ih => exact ih (coherent.discharge key)

theorem Allocates.coherent {held left : Holding δ} {lifeCycle : LifeCycle} {shape : StencilShape}
    {outcome : Except Fault ArenaKey} (allocates : held.Allocates lifeCycle shape outcome left)
    (coherent : held.cache.Coherent) : left.cache.Coherent := by
  cases allocates with
  | made given => exact coherent.lodge (StencilBuffer.keyed_made _ _ _ _)
  | refused given => exact coherent

theorem Acquires.coherent {held left : Holding δ} {shape : StencilShape}
    {outcome : Except Fault ArenaKey} (acquires : held.Acquires shape outcome left)
    (coherent : held.cache.Coherent) : left.cache.Coherent := by
  cases acquires with
  | hit found => exact coherent.touch _
  | miss absent allocated => exact coherent_evictAll (allocated.coherent coherent) _
  | refused absent allocated => exact allocated.coherent coherent

end Holding

namespace StencilCache

variable {cache : StencilCache} {buffer : StencilBuffer} {scratch : ScratchKey}

theorem findScratch_of_some {key : ArenaKey} (found : (cache.findScratch scratch).1 = some key) :
    (cache.findScratch scratch).2 = cache.touch key := by
  unfold findScratch at found ⊢
  split
  · rename_i key' best
    rw [best] at found
    rw [Option.some.inj found]
  · rename_i absent
    rw [absent] at found
    contradiction

theorem findScratch_of_none (absent : (cache.findScratch scratch).1 = none) :
    (cache.findScratch scratch).2 = cache := by
  unfold findScratch at absent ⊢
  split
  · rename_i key best
    rw [best] at absent
    contradiction
  · rfl

theorem find?_findScratch (cache : StencilCache) (scratch : ScratchKey) (key : ArenaKey) :
    (cache.findScratch scratch).2.find? key = cache.find? key := by
  cases found : (cache.findScratch scratch).1 with
  | none => rw [findScratch_of_none found]
  | some first => rw [findScratch_of_some found, find?_touch]

theorem Coherent.findScratch (coherent : cache.Coherent) (scratch : ScratchKey) :
    (cache.findScratch scratch).2.Coherent := by
  cases found : (cache.findScratch scratch).1 with
  | none =>
    rw [findScratch_of_none found]
    exact coherent
  | some key =>
    rw [findScratch_of_some found]
    exact coherent.touch key

end StencilCache

namespace CacheSession

variable {held : Holding δ} {s : CacheSession δ}

theorem ends_access (begun : s.holding = held) (key : ArenaKey) :
    (access key : Act (CacheSession δ) (Option StencilBuffer)).Ends s
      (fun found t => found = held.cache.find? key ∧
        t.holding = { held with cache := held.cache.touch key })
      (fun _ _ => False) held.Survives := by
  subst begun
  refine ⟨?_, rfl⟩
  exact StencilCache.find?_touch s.cache key key

theorem ends_setClip (begun : s.holding = held) (key : ArenaKey) (clip : ClipRecord) :
    (setClip key clip : Act (CacheSession δ) Bool).Ends s
      (fun found t => found = held.cache.contains key ∧ t.holding =
        { held with cache := (held.cache.touch key).revise key fun buffer => { buffer with clip } })
      (fun _ _ => False) held.Survives := by
  unfold setClip
  refine (ends_access begun key).bind fun found t ok => ?_
  obtain ⟨rfl, left⟩ := ok
  rw [StencilCache.contains_eq]
  have cache : t.cache = held.cache.touch key := congrArg Holding.cache left
  cases live : held.cache.find? key with
  | none =>
    refine Act.ends_pure ⟨rfl, ?_⟩
    rw [StencilCache.revise, StencilCache.find?_touch, live, left]
  | some buffer =>
    have stored : (edit (·.store key { buffer with clip }) : Act (CacheSession δ) Unit).Ends t
        (fun _ u => u.holding = { t.holding with cache := t.cache.store key { buffer with clip } })
        (fun _ _ => False) held.Survives := rfl
    refine stored.bind fun _ u revised => Act.ends_pure ⟨rfl, ?_⟩
    rw [StencilCache.revise, StencilCache.find?_touch, live, revised, left, cache]

theorem ends_findScratch (begun : s.holding = held) (scratch : ScratchKey) :
    (findScratch scratch : Act (CacheSession δ) (Option ArenaKey)).Ends s
      (fun found t => found = (held.cache.findScratch scratch).1 ∧
        t.holding = { held with cache := (held.cache.findScratch scratch).2 })
      (fun _ _ => False) held.Survives := by
  subst begun
  exact ⟨rfl, rfl⟩

@[simp] theorem totalWith_release (cache : StencilCache) (buffer : StencilBuffer) :
    totalWith .release cache buffer = .ok (cache.totalBytes + buffer.shape.bytes) := by
  simp only [totalWith, StencilShape.checkedBytes_release, Build.add64_release]
  rfl

@[simp] theorem totalWithout_release (cache : StencilCache) (buffer : StencilBuffer) :
    totalWithout .release cache buffer = .ok (cache.totalBytes - buffer.shape.bytes) := by
  simp only [totalWithout, StencilShape.checkedBytes_release, Build.sub64_release]
  rfl

theorem ends_insert (begun : s.holding = held) (buffer : StencilBuffer) :
    (insert .release buffer : Act (CacheSession δ) ArenaKey).Ends s
      (fun key t => key = (held.cache.lodge buffer).1 ∧
        t.holding = { held with cache := (held.cache.lodge buffer).2 })
      (fun _ _ => False) held.Survives := by
  subst begun
  unfold insert
  simp only [totalWith_release]
  exact ⟨rfl, rfl⟩

/-- Counting a buffer out is settled before the report that may fail. -/
theorem ends_countOut (buffer : StencilBuffer) {counted : StencilCache}
    (out : { s.cache with totalBytes := s.cache.totalBytes - buffer.shape.bytes } = counted) :
    (Act.onPanic (countOut .release buffer) buffer.drop : Act (CacheSession δ) Unit).Ends s
      (fun _ t => t.holding = ⟨counted, s.session.backend⟩) (fun _ _ => False)
      (fun t => t.cache = counted) := by
  subst out
  unfold countOut
  simp only [totalWithout_release]
  refine Act.Ends.onPanic (ends_log _) fun t left => ?_
  exact (ends_report (buffer.ends_drop t.session.journal)).imp
    (fun _ u same => (congrArg Holding.cache same.2).trans left) (fun _ _ failed => failed.elim)
    fun u same => same.trans left

variable [Backend δ]

theorem ends_releaseInPlace (begun : s.holding = held) (key : ArenaKey) :
    (releaseInPlace key : Act (CacheSession δ) Bool).Ends s
      (fun found t => found = held.cache.contains key ∧
        t.holding = ⟨(held.cache.touch key).revise key .abandon, held.freed key⟩)
      (fun _ _ => False) held.Survives := by
  unfold releaseInPlace
  refine (ends_access begun key).bind fun found t ok => ?_
  obtain ⟨rfl, left⟩ := ok
  rw [StencilCache.contains_eq]
  have cache : t.cache = held.cache.touch key := congrArg Holding.cache left
  have backend : t.session.backend = held.backend := congrArg Holding.backend left
  cases live : held.cache.find? key with
  | none =>
    refine Act.ends_pure ⟨rfl, ?_⟩
    rw [StencilCache.revise, StencilCache.find?_touch, Holding.freed, live, left]
  | some buffer =>
    have released := (ends_session (buffer.ends_release t.session)).imp (fun _ _ ok => ok)
      (fun _ _ failed => failed.2) fun u (same : u.cache = t.cache) =>
        show held.Survives u from fun coherent => same ▸ cache ▸ coherent.touch key
    refine released.bind fun left' u ok => ?_
    obtain ⟨same, rfl, freed⟩ := ok
    have stored : (edit (·.store key buffer.abandon) : Act (CacheSession δ) Unit).Ends u
        (fun _ v => v.holding = ⟨u.cache.store key buffer.abandon, u.session.backend⟩)
        (fun _ _ => False) held.Survives := rfl
    refine stored.bind fun _ v revised => Act.ends_pure ⟨rfl, ?_⟩
    rw [StencilCache.revise, StencilCache.find?_touch, Holding.freed, live, revised, same, cache,
      freed, backend]

/-! ## Evictions -/

theorem ends_evict (begun : s.holding = held) (key : ArenaKey) :
    (evict .release key : Act (CacheSession δ) Bool).Ends s
      (fun found t => found = held.cache.contains key ∧ t.holding = held.evict key)
      (fun _ _ => False) held.Survives := by
  subst begun
  unfold evict
  apply Act.ends_get_bind
  rw [StencilCache.contains_eq]
  cases live : s.cache.find? key with
  | none =>
    rw [StencilCache.remove?_of_none live]
    refine Act.ends_pure ⟨congrArg Option.isSome live.symm, ?_⟩
    rw [Holding.evict, Holding.freed, holding, StencilCache.discharge_of_none live, live]
  | some buffer =>
    obtain ⟨rest, removed, discharged⟩ := StencilCache.remove?_of_some live
    have survives : ∀ t : CacheSession δ, t.cache = s.cache.discharge key →
        s.holding.Survives t := by
      intro t same coherent
      rw [same]
      exact coherent.discharge key
    rw [removed]
    have taken : (edit fun _ => rest : Act (CacheSession δ) Unit).Ends s
        (fun _ t => t.holding = ⟨rest, s.session.backend⟩) (fun _ _ => False)
        s.holding.Survives := rfl
    refine taken.bind fun _ t out => ?_
    have cache : t.cache = rest := congrArg Holding.cache out
    have backend : t.session.backend = s.session.backend := congrArg Holding.backend out
    have counted : { t.cache with totalBytes := t.cache.totalBytes - buffer.shape.bytes } =
        s.cache.discharge key := by rw [cache, discharged]
    refine ((ends_countOut buffer counted).cut survives).bind fun _ u settled => ?_
    have cache' : u.cache = s.cache.discharge key := congrArg Holding.cache settled
    have backend' : u.session.backend = t.session.backend := congrArg Holding.backend settled
    have released : (discard (buffer.release : Act (Session δ) StencilBuffer) :
        Act (CacheSession δ) Unit).Ends u (fun _ v => v.holding = s.holding.evict key)
        (fun _ _ => False) s.holding.Survives := by
      apply Act.Ends.discard
      refine (ends_session (buffer.ends_release u.session)).imp (fun _ v ok => ?_)
        (fun _ _ failed => failed.2) fun v same => survives v ?_
      · obtain ⟨same, -, freed⟩ := ok
        rw [holding, same, freed, cache', backend', backend, Holding.evict, Holding.freed, holding,
          live]
      · rw [same, cache']
    exact released.bind fun _ v left => Act.ends_pure ⟨congrArg Option.isSome live.symm, left⟩

/-- One eviction after the other. -/
theorem ends_evictAll (begun : s.holding = held) (keys : List ArenaKey) :
    (keys.forM fun key => discard (evict .release key) : Act (CacheSession δ) PUnit).Ends s
      (fun _ t => t.holding = held.evictAll keys) (fun _ _ => False) held.Survives := by
  subst begun
  refine (Act.ends_forM (fun rest (t : CacheSession δ) =>
      t.holding.evictAll rest = s.holding.evictAll keys ∧ s.holding.Survives t)
    ⟨rfl, fun coherent => coherent⟩ fun key rest t ok => ?_).ok fun _ _ ok => ok.1
  obtain ⟨left, survives⟩ := ok
  apply Act.Ends.discard
  refine (ends_evict rfl key).imp (fun _ u ok => ⟨?_, fun coherent => ?_⟩)
    (fun _ _ failed => failed) fun u cut coherent => cut (survives coherent)
  · rw [ok.2]
    exact left
  · have cache : u.cache = t.cache.discharge key := congrArg Holding.cache ok.2
    rw [cache]
    exact (survives coherent).discharge key

theorem ends_purgeSparing (begun : s.holding = held) (keep : Option ArenaKey) :
    (purgeSparing .release keep : Act (CacheSession δ) Nat).Ends s
      (fun count t => count = (held.cache.excess keep).length ∧
        t.holding = held.evictAll (held.cache.excess keep))
      (fun _ _ => False) held.Survives := by
  subst begun
  unfold purgeSparing
  apply Act.ends_get_bind
  exact (ends_evictAll rfl _).bind fun _ _ left => Act.ends_pure ⟨rfl, left⟩

theorem ends_purgeAll (begun : s.holding = held) :
    (purgeAll .release : Act (CacheSession δ) Unit).Ends s
      (fun _ t => t.holding = held.evictAll held.cache.keys) (fun _ _ => False) held.Survives := by
  subst begun
  unfold purgeAll
  exact Act.ends_get_bind (ends_evictAll rfl _)

/-! ## New buffers -/

/-- The operation that makes a buffer over new storage and puts it into the cache. -/
def allocate (build : Build) (lifeCycle : LifeCycle) (shape : StencilShape) :
    Act (CacheSession δ) ArenaKey := do
  let buffer ← (StencilBuffer.allocate build lifeCycle shape : Act (Session δ) StencilBuffer)
  insert build buffer

/-- What is done with a new buffer that has been put into the cache. -/
theorem allocate_bind {α : Type} (build : Build) (lifeCycle : LifeCycle) (shape : StencilShape)
    (next : ArenaKey → Act (CacheSession δ) α) :
    allocate build lifeCycle shape >>= next = (do
      let buffer ← (StencilBuffer.allocate build lifeCycle shape : Act (Session δ) StencilBuffer)
      insert build buffer >>= next) := by
  rw [allocate, bind_assoc]

theorem ends_allocate (begun : s.holding = held) (lifeCycle : LifeCycle) (shape : StencilShape) :
    (allocate .release lifeCycle shape : Act (CacheSession δ) ArenaKey).Ends s
      (fun key t => held.Allocates lifeCycle shape (.ok key) t.holding)
      (fun f t => held.Allocates lifeCycle shape (.error f) t.holding) held.Survives := by
  subst begun
  have given := ends_session (StencilBuffer.ends_allocate lifeCycle shape s.session)
  refine Act.Ends.bind (given.imp (fun _ _ ok => ok) (fun f t failed => ?_) fun t same => ?_)
    fun buffer t ok => ?_
  · have left : t.holding = ⟨s.cache, t.session.backend⟩ := by rw [holding, failed.1]
    rw [left]
    exact .refused failed.2
  · exact Holding.survives_of_eq same
  · obtain ⟨same, id, storage, created, rfl⟩ := ok
    have left : t.holding = ⟨s.cache, t.session.backend⟩ := by rw [holding, same]
    refine ((ends_insert left _).imp (fun key u ok => ?_) (fun _ _ failed => failed.elim)
      fun u cut => cut)
    obtain ⟨rfl, done⟩ := ok
    rw [done]
    exact .made created

theorem ends_findOrCreate (begun : s.holding = held) (shape : StencilShape) :
    (findOrCreate .release shape : Act (CacheSession δ) ArenaKey).Ends s
      (fun key t => held.Acquires shape (.ok key) t.holding)
      (fun f t => held.Acquires shape (.error f) t.holding) held.Survives := by
  subst begun
  unfold findOrCreate
  have keyed := ends_report (ScratchKey.ends_forStencil shape s.session.journal)
  have untouched : ∀ t : CacheSession δ, t.cache = s.cache → s.holding.Survives t :=
    fun _ same => Holding.survives_of_eq same
  refine (keyed.cut untouched).unfailing.bind fun scratch t ok => ?_
  obtain ⟨rfl, begun⟩ := ok
  refine ((ends_findScratch begun shape.scratchKey).unfailing).bind fun found u ok => ?_
  obtain ⟨rfl, looked⟩ := ok
  have alone : ∀ v : CacheSession δ, v.cache = u.cache → s.holding.Survives v := by
    intro v same coherent
    have cache : u.cache = _ := congrArg Holding.cache looked
    rw [same, cache]
    exact coherent.findScratch shape.scratchKey
  cases found : (s.holding.cache.findScratch shape.scratchKey).1 with
  | some key =>
    rw [StencilCache.findScratch_of_some found] at looked
    refine (((ends_log u).cut alone).unfailing).bind fun _ v same => Act.ends_pure ?_
    rw [same, looked]
    exact .hit found
  | none =>
    rw [StencilCache.findScratch_of_none found] at looked
    refine (((ends_log u).cut alone).unfailing).bind fun _ v same => ?_
    have begun : v.holding = s.holding := same.trans looked
    rw [← allocate_bind]
    refine Act.Ends.bind ((ends_allocate begun .cached shape).imp (fun _ _ ok => ok)
      (fun _ _ failed => .refused found failed) fun _ cut => cut) fun key w made => ?_
    have purged : (discard (purgeSparing .release (some key)) : Act (CacheSession δ) Unit).Ends w
        (fun _ x => x.holding = w.holding.evictAll (w.cache.excess (some key)))
        (fun f x => s.holding.Acquires shape (.error f) x.holding) s.holding.Survives := by
      apply Act.Ends.discard
      exact (ends_purgeSparing rfl (some key)).imp (fun _ _ ok => ok.2)
        (fun _ _ failed => failed.elim) fun _ cut coherent => cut (made.coherent coherent)
    refine purged.bind fun _ x left => Act.ends_pure ?_
    rw [left]
    exact .miss found made

end CacheSession

end RenderCore
