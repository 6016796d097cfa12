import RenderCore.Proofs.Stencil.ArenaVersions
import RenderCore.Proofs.Stencil.LeastRecentlyUsed

/-!
# What becomes of keys

A step gives out at most one key, and only some steps take buffers away. `StencilCache.Evolves` says
what becomes of all keys from one cache to a later one: a key finds the same buffer as before, or it
was given out in between, or its buffer was taken away.
-/

namespace RenderCore

namespace StencilCache

/-- The cache goes over into `other`: `issued` are the keys given out in between, for buffers as
    `brought` says, and only buffers of keys in `removed` may be taken away. -/
structure Evolves (cache other : StencilCache) (issued : List ArenaKey)
    (brought : StencilBuffer → Prop) (removed : ArenaKey → Prop) : Prop where
  kept : ∀ key buffer, cache.find? key = some buffer →
    (∃ buffer', other.find? key = some buffer' ∧ buffer.Same buffer') ∨
      (other.find? key = none ∧ removed key)
  stale : ∀ key, cache.find? key = none → key ∉ issued → other.find? key = none
  fresh : ∀ key ∈ issued, ∃ buffer buffer', brought buffer ∧ other.find? key = some buffer' ∧
    buffer.Same buffer'
  ledger : ∀ earlier, cache.entries.Ledger earlier → (issued ++ earlier).length < 2 ^ 31 →
    other.entries.Ledger (issued ++ earlier) ∧ ∀ key ∈ issued, key ∉ earlier

variable {cache other : StencilCache} {issued : List ArenaKey}
  {brought : StencilBuffer → Prop} {removed : ArenaKey → Prop}

theorem Evolves.imp (evolves : cache.Evolves other issued brought removed)
    {brought' : StencilBuffer → Prop} {removed' : ArenaKey → Prop}
    (new : ∀ buffer, brought buffer → brought' buffer)
    (more : ∀ key, removed key → removed' key) : cache.Evolves other issued brought' removed' where
  kept key buffer found := by
    rcases evolves.kept key buffer found with kept | ⟨gone, taken⟩
    · exact .inl kept
    · exact .inr ⟨gone, more key taken⟩
  stale := evolves.stale
  fresh key member := by
    obtain ⟨buffer, buffer', origin, found⟩ := evolves.fresh key member
    exact ⟨buffer, buffer', new buffer origin, found⟩
  ledger := evolves.ledger

/-- Caches of the same buffers whose slots have the same versions. -/
theorem evolves_of_alike (alike : cache.Alike other)
    (ledger : ∀ issued, cache.entries.Ledger issued → other.entries.Ledger issued) :
    cache.Evolves other [] brought removed where
  kept key buffer found := .inl (alike.found found)
  stale key stale _ := by
    have related := alike key
    rw [stale] at related
    cases found : other.find? key with
    | none => rfl
    | some buffer =>
      rw [found] at related
      cases related
  fresh := by simp
  ledger earlier before _ := ⟨ledger earlier before, by simp⟩

theorem Evolves.refl (cache : StencilCache) : cache.Evolves cache [] brought removed :=
  evolves_of_alike (alike_of_find?_eq fun _ => rfl) fun _ ledger => ledger

theorem ledger_touch (ledger : cache.entries.Ledger issued) (key : ArenaKey) :
    (cache.touch key).entries.Ledger issued := by
  cases live : cache.entries.find? key with
  | none =>
    rw [touch_of_none live]
    exact ledger
  | some entry =>
    rw [touch_of_some live]
    exact ledger.update key _

theorem evolves_touch (cache : StencilCache) (key : ArenaKey) :
    cache.Evolves (cache.touch key) [] brought removed :=
  evolves_of_alike (alike_touch cache key) fun _ ledger => ledger_touch ledger key

theorem ledger_revise (ledger : cache.entries.Ledger issued) (key : ArenaKey)
    (change : StencilBuffer → StencilBuffer) : (cache.revise key change).entries.Ledger issued := by
  unfold StencilCache.revise
  split
  · exact ledger.update key _
  · exact ledger

theorem evolves_revise (cache : StencilCache) (key : ArenaKey)
    {change : StencilBuffer → StencilBuffer}
    (same : ∀ buffer : StencilBuffer, buffer.Same (change buffer)) :
    cache.Evolves (cache.revise key change) [] brought removed :=
  evolves_of_alike (alike_revise cache key same) fun _ ledger => ledger_revise ledger key change

theorem evolves_lodge (coherent : cache.Coherent) (buffer : StencilBuffer) :
    cache.Evolves (cache.lodge buffer).2 [(cache.lodge buffer).1] (· = buffer) removed where
  kept key held found := by
    refine .inl ⟨held, ?_, .refl held⟩
    have other : key ≠ (cache.lodge buffer).1 := by
      intro same
      rw [same, find?_lodge_key coherent.tidy] at found
      contradiction
    rw [find?_lodge coherent.tidy, if_neg other]
    exact found
  stale key stale unissued := by
    rw [List.mem_singleton] at unissued
    rw [find?_lodge coherent.tidy, if_neg unissued]
    exact stale
  fresh key member := by
    rw [List.mem_singleton] at member
    refine ⟨buffer, buffer, rfl, ?_, .refl buffer⟩
    rw [find?_lodge coherent.tidy, if_pos member]
  ledger earlier before few := by
    have inserted := before.insert coherent.tidy (by simpa [Nat.add_comm] using few)
      (cache.newEntry buffer)
    refine ⟨inserted.2, fun key member => ?_⟩
    rw [List.mem_singleton.mp member]
    exact inserted.1

theorem ledger_discharge (ledger : cache.entries.Ledger issued) (few : issued.length < 2 ^ 31)
    (key : ArenaKey) : (cache.discharge key).entries.Ledger issued := by
  cases live : cache.find? key with
  | none =>
    rw [discharge_of_none live]
    exact ledger
  | some buffer =>
    obtain ⟨stamp, entries, taken, -, left⟩ := discharge_of_some live
    rw [left]
    exact ledger.remove? few taken

theorem ledger_dischargeAll (ledger : cache.entries.Ledger issued) (few : issued.length < 2 ^ 31)
    (keys : List ArenaKey) : (keys.foldl StencilCache.discharge cache).entries.Ledger issued := by
  induction keys generalizing cache with
  | nil => exact ledger
  | cons key rest ih => exact ih (ledger_discharge ledger few key)

/-- Evictions take away the buffers of their keys and no others. -/
theorem find?_dischargeAll (cache : StencilCache) (keys : List ArenaKey) (other : ArenaKey) :
    (keys.foldl StencilCache.discharge cache).find? other =
      if other ∈ keys then none else cache.find? other := by
  induction keys generalizing cache with
  | nil => simp
  | cons key rest ih =>
    rw [List.foldl_cons, ih, find?_discharge]
    by_cases first : other = key
    · simp [first]
    · simp [first]

theorem lost_dischargeAll (cache : StencilCache) (keys : List ArenaKey) (key : ArenaKey) :
    (keys.foldl discharge cache).find? key = none ∨
      (keys.foldl discharge cache).find? key = cache.find? key := by
  rw [find?_dischargeAll]
  split
  · exact .inl rfl
  · exact .inr rfl

theorem evolves_dischargeAll (cache : StencilCache) (keys : List ArenaKey) :
    cache.Evolves (keys.foldl StencilCache.discharge cache) [] brought (· ∈ keys) where
  kept key buffer found := by
    rw [find?_dischargeAll]
    by_cases member : key ∈ keys
    · exact .inr ⟨if_pos member, member⟩
    · refine .inl ⟨buffer, ?_, .refl buffer⟩
      rw [if_neg member]
      exact found
  stale key stale _ := by
    rw [find?_dischargeAll, stale, ite_self]
  fresh := by simp
  ledger earlier before few := by
    exact ⟨ledger_dischargeAll before (by simpa using few) keys, by simp⟩

theorem evolves_abandonAll (cache : StencilCache) :
    cache.Evolves cache.abandonAll [] brought fun _ => True where
  kept key buffer found := .inr ⟨find?_abandonAll cache key, trivial⟩
  stale key stale _ := find?_abandonAll cache key
  fresh := by simp
  ledger earlier before few := ⟨before.clear (by simpa using few), by simp⟩

/-- An evolution that gives out keys, and one after it that gives out none and leaves them alone. -/
theorem Evolves.trans {third : StencilCache} (first : cache.Evolves other issued brought removed)
    (second : other.Evolves third [] brought removed) (spared : ∀ key ∈ issued, ¬ removed key) :
    cache.Evolves third issued brought removed where
  kept key buffer found := by
    rcases first.kept key buffer found with ⟨buffer', found', same⟩ | ⟨gone, taken⟩
    · rcases second.kept key buffer' found' with ⟨buffer'', found'', same'⟩ | gone
      · exact .inl ⟨buffer'', found'', same.trans same'⟩
      · exact .inr gone
    · exact .inr ⟨second.stale key gone (by simp), taken⟩
  stale key stale unissued := second.stale key (first.stale key stale unissued) (by simp)
  fresh key member := by
    obtain ⟨buffer, buffer', new, found, same⟩ := first.fresh key member
    rcases second.kept key buffer' found with ⟨buffer'', found', same'⟩ | ⟨-, taken⟩
    · exact ⟨buffer, buffer'', new, found', same.trans same'⟩
    · exact absurd taken (spared key member)
  ledger earlier before few := by
    obtain ⟨between, new⟩ := first.ledger earlier before few
    exact ⟨(second.ledger _ between few).1, new⟩

theorem evolves_findScratch (cache : StencilCache) (scratch : ScratchKey) :
    cache.Evolves (cache.findScratch scratch).2 [] brought removed := by
  cases found : (cache.findScratch scratch).1 with
  | none =>
    rw [findScratch_of_none found]
    exact .refl cache
  | some key =>
    rw [findScratch_of_some found]
    exact evolves_touch cache key

theorem evolves_used (cache : StencilCache) (attachment : StencilAttachment) :
    cache.Evolves (attachment.used cache) [] brought removed := by
  unfold StencilAttachment.used
  split
  · exact .refl cache
  · split
    · exact evolves_touch cache _
    · exact .refl cache

theorem evolves_clipped (cache : StencilCache) (attachment : StencilAttachment)
    (clip : ClipRecord) : cache.Evolves (attachment.clipped clip cache) [] brought removed := by
  unfold StencilAttachment.clipped
  split
  · exact .refl cache
  · exact (evolves_used cache attachment).trans
      (evolves_revise _ _ fun buffer => buffer.same_clip clip) (by simp)

theorem IndexAgrees.live_of_findScratch (agrees : cache.IndexAgrees) {scratch : ScratchKey}
    {key : ArenaKey} (found : (cache.findScratch scratch).1 = some key) :
    cache.contains key = true := by
  rw [findScratch_fst] at found
  obtain ⟨buffer, live, -⟩ := (agrees.listed scratch key).mp (mem_of_mostRecent? found)
  rw [contains_eq, live]
  rfl

theorem Coherent.live_of_findScratch (coherent : cache.Coherent) {scratch : ScratchKey}
    {key : ArenaKey} (found : (cache.findScratch scratch).1 = some key) :
    cache.contains key = true :=
  coherent.indexed.live_of_findScratch found

end StencilCache

/-! ## Steps -/

variable {δ α : Type}

namespace Operation

/-- The keys that an operation gave out, by the cache before it and its outcome. Looking a buffer up
    gives out a key only if it makes a new buffer. -/
def issued : Operation δ α → StencilCache → Except Fault α → List ArenaKey
  | .insert _ _, _, .ok key => [key]
  | .allocate _ _, _, .ok key => [key]
  | .findOrCreate _, cache, .ok key => if cache.contains key then [] else [key]
  | .attach _ _, cache, .ok (key, _) => if cache.contains key then [] else [key]
  | _, _, _ => []

theorem issued_error (operation : Operation δ α) (cache : StencilCache) (fault : Fault) :
    operation.issued cache (.error fault) = [] := by
  cases operation <;> rfl

/-- The operations that may take the buffer of a key away. Looking a buffer up does so only if it
    makes a new buffer, for which others have to go. -/
def Removes : Operation δ α → List ArenaKey → ArenaKey → Prop
  | .evict other, _, key => other = key
  | .purge, _, _ => True
  | .purgeAll, _, _ => True
  | .abandonAll, _, _ => True
  | .findOrCreate _, issued, key => issued ≠ [] ∧ key ∉ issued
  | .attach _ _, issued, key => issued ≠ [] ∧ key ∉ issued
  | _, _, _ => False

/-- The operations that take the buffer of a key away for certain. -/
def Drops : Operation δ α → ArenaKey → Prop
  | .evict other, key => other = key
  | .purgeAll, _ => True
  | .abandonAll, _ => True
  | _, _ => False

/-- The buffers that an operation may put into the cache. -/
def Brings : Operation δ α → StencilBuffer → Prop
  | .insert inserted _, buffer => buffer = inserted
  | .allocate lifeCycle shape, buffer =>
    ∃ id storage, buffer = .made id lifeCycle (some storage) shape
  | .findOrCreate shape, buffer => ∃ id storage, buffer = .made id .cached (some storage) shape
  | .attach _ shape, buffer => ∃ id storage, buffer = .made id .cached (some storage) shape
  | _, _ => False

end Operation

variable [Backend δ] {held left : Holding δ}

theorem Holding.Allocates.evolves {lifeCycle : LifeCycle} {shape : StencilShape} {key : ArenaKey}
    {removed : ArenaKey → Prop} (allocates : held.Allocates lifeCycle shape (.ok key) left)
    (coherent : held.cache.Coherent) :
    held.cache.contains key = false ∧ held.cache.Evolves left.cache [key]
      (fun buffer => ∃ id storage, buffer = .made id lifeCycle (some storage) shape) removed := by
  cases allocates with
  | made given =>
    refine ⟨?_, (StencilCache.evolves_lodge coherent _).imp ?_ fun _ taken => taken⟩
    · rw [StencilCache.contains_eq, StencilCache.find?_lodge_key coherent.tidy]
      rfl
    · intro buffer made
      exact ⟨_, _, made⟩

theorem Holding.Allocates.cache_of_error {lifeCycle : LifeCycle} {shape : StencilShape}
    {fault : Fault} (allocates : held.Allocates lifeCycle shape (.error fault) left) :
    left.cache = held.cache := by
  cases allocates with
  | refused given => rfl

theorem Holding.Acquires.cache_of_error {shape : StencilShape} {fault : Fault}
    (acquires : held.Acquires shape (.error fault) left) : left.cache = held.cache := by
  cases acquires with
  | refused absent allocated => exact allocated.cache_of_error

theorem StencilAttachment.live_of_fitting {attachment : StencilAttachment} {cache : StencilCache}
    {shape : StencilShape} {key : ArenaKey}
    (fits : attachment.fitting cache.find? shape = some key) : cache.contains key = true := by
  obtain ⟨own, -, fits⟩ := Option.bind_eq_some_iff.mp fits
  obtain ⟨buffer, live, fits⟩ := Option.bind_eq_some_iff.mp fits
  obtain ⟨-, same⟩ := Option.ite_none_right_eq_some.mp fits
  rw [StencilCache.contains_eq, ← Option.some.inj same, live]
  rfl

theorem Holding.Acquires.evolves {shape : StencilShape} {key : ArenaKey}
    (acquires : held.Acquires shape (.ok key) left) (coherent : held.cache.Coherent) :
    held.cache.Evolves left.cache (if held.cache.contains key then [] else [key])
      (fun buffer => ∃ id storage, buffer = .made id .cached (some storage) shape)
      fun other => held.cache.contains key = false ∧ other ≠ key := by
  cases acquires with
  | hit found =>
    rw [if_pos (coherent.live_of_findScratch found)]
    exact StencilCache.evolves_touch held.cache key
  | @miss _ between absent allocated =>
    obtain ⟨new, evolves⟩ := allocated.evolves coherent
    rw [new, if_neg Bool.false_ne_true, Holding.cache_evictAll]
    refine evolves.trans ((StencilCache.evolves_dischargeAll _ _).imp (fun _ new => new) ?_) ?_
    · intro other member
      refine ⟨rfl, fun same => ?_⟩
      rw [same] at member
      exact StencilCache.not_mem_excess _ _ member
    · intro other member taken
      exact taken.2 (List.mem_singleton.mp member)

/-- An operation that drops a key leaves it without a buffer. -/
theorem Operation.Effect.dropped {operation : Operation δ α} {outcome : Except Fault α}
    {key : ArenaKey} (effect : operation.Effect held outcome left) (drops : operation.Drops key) :
    left.cache.find? key = none := by
  cases operation with
  | evict other =>
    obtain ⟨rfl, rfl⟩ := effect
    obtain rfl : other = key := drops
    change (held.cache.discharge other).find? other = none
    rw [StencilCache.find?_discharge, if_pos rfl]
  | purgeAll =>
    obtain ⟨rfl, rfl⟩ := effect
    rw [Holding.cache_evictAll, StencilCache.find?_dischargeAll]
    cases live : held.cache.find? key with
    | none => exact ite_self none
    | some buffer => exact if_pos (StencilCache.mem_keys.mpr ⟨buffer, live⟩)
  | abandonAll =>
    obtain ⟨rfl, rfl⟩ := effect
    exact StencilCache.find?_abandonAll held.cache key
  | _ => exact drops.elim

/-- What becomes of keys in a step. -/
theorem Operation.Effect.evolves {operation : Operation δ α} {outcome : Except Fault α}
    (effect : operation.Effect held outcome left) (coherent : held.cache.Coherent) :
    held.cache.Evolves left.cache (operation.issued held.cache outcome)
      operation.Brings (operation.Removes (operation.issued held.cache outcome)) := by
  have taken : ∀ key other : ArenaKey, held.cache.contains key = false ∧ other ≠ key →
      (if held.cache.contains key then [] else [key]) ≠ [] ∧
        other ∉ (if held.cache.contains key then [] else [key]) := by
    intro key other removed
    simp [removed.1, removed.2]
  cases operation with
  | insert buffer keyed =>
    obtain ⟨rfl, rfl⟩ := effect
    exact StencilCache.evolves_lodge coherent buffer
  | allocate lifeCycle shape =>
    cases outcome with
    | ok key => exact (Holding.Allocates.evolves effect coherent).2
    | error fault =>
      rw [Holding.Allocates.cache_of_error effect]
      exact .refl _
  | findScratch scratch =>
    obtain ⟨rfl, rfl⟩ := effect
    exact StencilCache.evolves_findScratch _ scratch
  | findOrCreate shape =>
    cases outcome with
    | ok key => exact (Holding.Acquires.evolves effect coherent).imp (fun _ new => new) (taken _)
    | error fault =>
      rw [Holding.Acquires.cache_of_error effect]
      exact .refl _
  | find key =>
    obtain ⟨rfl, rfl⟩ := effect
    exact .refl _
  | contains key =>
    obtain ⟨rfl, rfl⟩ := effect
    exact .refl _
  | access key =>
    obtain ⟨rfl, rfl⟩ := effect
    exact StencilCache.evolves_touch _ key
  | setClip key clip =>
    obtain ⟨rfl, rfl⟩ := effect
    exact (StencilCache.evolves_touch _ key).trans
      (StencilCache.evolves_revise _ key fun buffer => buffer.same_clip clip) (by simp)
  | releaseInPlace key =>
    obtain ⟨rfl, rfl⟩ := effect
    exact (StencilCache.evolves_touch _ key).trans
      (StencilCache.evolves_revise _ key StencilBuffer.same_abandon) (by simp)
  | evict key =>
    obtain ⟨rfl, rfl⟩ := effect
    exact (StencilCache.evolves_dischargeAll _ [key]).imp (fun _ new => new) fun other member =>
      (List.mem_singleton.mp member).symm
  | purge =>
    obtain ⟨rfl, rfl⟩ := effect
    rw [Holding.cache_evictAll]
    exact (StencilCache.evolves_dischargeAll _ _).imp (fun _ new => new) fun _ _ => trivial
  | purgeAll =>
    obtain ⟨rfl, rfl⟩ := effect
    rw [Holding.cache_evictAll]
    exact (StencilCache.evolves_dischargeAll _ _).imp (fun _ new => new) fun _ _ => trivial
  | abandonAll =>
    obtain ⟨rfl, rfl⟩ := effect
    exact StencilCache.evolves_abandonAll _
  | setBudget budget =>
    obtain ⟨rfl, rfl⟩ := effect
    exact StencilCache.evolves_of_alike (StencilCache.alike_of_find?_eq fun _ => rfl)
      fun _ ledger => ledger
  | attach attachment shape =>
    cases effect with
    | @kept key fits =>
      have none_new : (Operation.attach attachment shape : Operation δ _).issued held.cache
          (.ok (key, attachment)) = [] := if_pos (StencilAttachment.live_of_fitting fits)
      rw [none_new]
      exact .refl _
    | acquired unfit acquires => exact (acquires.evolves coherent).imp (fun _ new => new) (taken _)
    | refused unfit acquires =>
      rw [acquires.cache_of_error]
      exact .refl _
  | resolve attachment =>
    obtain ⟨rfl, rfl⟩ := effect
    exact .refl _
  | accessAttached attachment =>
    obtain ⟨rfl, rfl⟩ := effect
    exact StencilCache.evolves_used _ attachment
  | setClipAttached attachment clip =>
    obtain ⟨rfl, rfl⟩ := effect
    exact StencilCache.evolves_clipped _ attachment clip
  | elsewhere change =>
    obtain ⟨rfl, cache, -⟩ := effect
    rw [cache]
    exact .refl _

end RenderCore
