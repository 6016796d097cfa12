import RenderCore.Proofs.Stencil.AttachmentEffects

/-!
# The operations of a cache

What a program can do to a cache within a session, as data, so that a program's steps can be put in
a list. `Operation.Effect` says once and for all what each of them comes to in a release build; what
holds of the cache in the course of a program is derived from it.
-/

namespace RenderCore

variable {δ α : Type}

/-- An operation of a program on its cache. The index is the type of the answer. -/
inductive Operation (δ : Type) : Type → Type where
  | insert (buffer : StencilBuffer) (keyed : buffer.Keyed) : Operation δ ArenaKey
  | allocate (lifeCycle : LifeCycle) (shape : StencilShape) : Operation δ ArenaKey
  | findScratch (scratch : ScratchKey) : Operation δ (Option ArenaKey)
  | findOrCreate (shape : StencilShape) : Operation δ ArenaKey
  | find (key : ArenaKey) : Operation δ (Option StencilBuffer)
  | contains (key : ArenaKey) : Operation δ Bool
  | access (key : ArenaKey) : Operation δ (Option StencilBuffer)
  | setClip (key : ArenaKey) (clip : ClipRecord) : Operation δ Bool
  | releaseInPlace (key : ArenaKey) : Operation δ Bool
  | evict (key : ArenaKey) : Operation δ Bool
  | purge : Operation δ Nat
  | purgeAll : Operation δ Unit
  | abandonAll : Operation δ Unit
  | setBudget (budget : CacheBudget) : Operation δ Unit
  | attach (attachment : StencilAttachment) (shape : StencilShape) :
      Operation δ (ArenaKey × StencilAttachment)
  | resolve (attachment : StencilAttachment) :
      Operation δ (Option StencilBuffer × StencilAttachment)
  | accessAttached (attachment : StencilAttachment) :
      Operation δ (Option StencilBuffer × StencilAttachment)
  | setClipAttached (attachment : StencilAttachment) (clip : ClipRecord) :
      Operation δ (Bool × StencilAttachment)
  /-- Whatever else the program does with its session, away from the cache. -/
  | elsewhere (change : Session δ → Session δ) : Operation δ Unit

namespace Operation

variable [Backend δ]

/-- The operation, carried out. -/
def act (build : Build) : Operation δ α → Act (CacheSession δ) α
  | .insert buffer _ => CacheSession.insert build buffer
  | .allocate lifeCycle shape => CacheSession.allocate build lifeCycle shape
  | .findScratch scratch => CacheSession.findScratch scratch
  | .findOrCreate shape => CacheSession.findOrCreate build shape
  | .find key => return (← get).cache.find? key
  | .contains key => return (← get).cache.contains key
  | .access key => CacheSession.access key
  | .setClip key clip => CacheSession.setClip key clip
  | .releaseInPlace key => CacheSession.releaseInPlace key
  | .evict key => CacheSession.evict build key
  | .purge => CacheSession.purge build
  | .purgeAll => CacheSession.purgeAll build
  | .abandonAll => CacheSession.edit (·.abandonAll)
  | .setBudget budget => CacheSession.edit (·.setBudget budget)
  | .attach attachment shape => attachment.attach build shape
  | .resolve attachment => attachment.resolve
  | .accessAttached attachment => attachment.access
  | .setClipAttached attachment clip => attachment.setClip clip
  | .elsewhere change => modify fun work => { work with session := change work.session }

/-- What an operation comes to: cache and backend before it, its outcome, and both after it. -/
def Effect : Operation δ α → Holding δ → Except Fault α → Holding δ → Prop
  | .insert buffer _, held, outcome, left =>
    outcome = .ok (held.cache.lodge buffer).1 ∧
      left = { held with cache := (held.cache.lodge buffer).2 }
  | .allocate lifeCycle shape, held, outcome, left => held.Allocates lifeCycle shape outcome left
  | .findScratch scratch, held, outcome, left =>
    outcome = .ok (held.cache.findScratch scratch).1 ∧
      left = { held with cache := (held.cache.findScratch scratch).2 }
  | .findOrCreate shape, held, outcome, left => held.Acquires shape outcome left
  | .find key, held, outcome, left => outcome = .ok (held.cache.find? key) ∧ left = held
  | .contains key, held, outcome, left => outcome = .ok (held.cache.contains key) ∧ left = held
  | .access key, held, outcome, left =>
    outcome = .ok (held.cache.find? key) ∧ left = { held with cache := held.cache.touch key }
  | .setClip key clip, held, outcome, left =>
    outcome = .ok (held.cache.contains key) ∧ left =
      { held with cache := (held.cache.touch key).revise key fun buffer => { buffer with clip } }
  | .releaseInPlace key, held, outcome, left =>
    outcome = .ok (held.cache.contains key) ∧
      left = ⟨(held.cache.touch key).revise key .abandon, held.freed key⟩
  | .evict key, held, outcome, left =>
    outcome = .ok (held.cache.contains key) ∧ left = held.evict key
  | .purge, held, outcome, left =>
    outcome = .ok (held.cache.excess none).length ∧ left = held.evictAll (held.cache.excess none)
  | .purgeAll, held, outcome, left => outcome = .ok () ∧ left = held.evictAll held.cache.keys
  | .abandonAll, held, outcome, left =>
    outcome = .ok () ∧ left = { held with cache := held.cache.abandonAll }
  | .setBudget budget, held, outcome, left =>
    outcome = .ok () ∧ left = { held with cache := held.cache.setBudget budget }
  | .attach attachment shape, held, outcome, left => attachment.Attaches shape held outcome left
  | .resolve attachment, held, outcome, left =>
    outcome = .ok (attachment.resolved held.cache.find?) ∧ left = held
  | .accessAttached attachment, held, outcome, left =>
    outcome = .ok (attachment.resolved held.cache.find?) ∧
      left = { held with cache := attachment.used held.cache }
  | .setClipAttached attachment clip, held, outcome, left =>
    outcome = .ok ((attachment.resolved held.cache.find?).1.isSome,
        (attachment.resolved held.cache.find?).2) ∧
      left = { held with cache := attachment.clipped clip held.cache }
  | .elsewhere change, held, outcome, left =>
    outcome = .ok () ∧ left.cache = held.cache ∧
      ∃ session, session.backend = held.backend ∧ left.backend = (change session).backend

/-- In a release build every operation comes to its effect. If a logger cuts it short, a coherent
    cache is coherent still. -/
theorem ends_act (operation : Operation δ α) (s : CacheSession δ) :
    (operation.act .release).Ends s (fun a t => operation.Effect s.holding (.ok a) t.holding)
      (fun f t => operation.Effect s.holding (.error f) t.holding) s.holding.Survives := by
  have plain : ∀ {act : Act (CacheSession δ) α} {answer : α} {left : Holding δ},
      act.Ends s (fun a t => a = answer ∧ t.holding = left) (fun _ _ => False)
        s.holding.Survives →
      (∀ t : CacheSession δ, t.holding = left → operation.Effect s.holding (.ok answer) t.holding) →
      act.Ends s (fun a t => operation.Effect s.holding (.ok a) t.holding)
        (fun f t => operation.Effect s.holding (.error f) t.holding) s.holding.Survives := by
    intro act answer left ends effect
    refine ends.unfailing.ok fun a t ok => ?_
    rw [ok.1]
    exact effect t ok.2
  cases operation with
  | insert buffer keyed =>
    exact plain (CacheSession.ends_insert rfl buffer) fun t left => ⟨rfl, left⟩
  | allocate lifeCycle shape => exact CacheSession.ends_allocate rfl lifeCycle shape
  | findScratch scratch =>
    exact plain (CacheSession.ends_findScratch rfl scratch) fun t left => ⟨rfl, left⟩
  | findOrCreate shape => exact CacheSession.ends_findOrCreate rfl shape
  | find key => exact Act.ends_get_bind (Act.ends_pure ⟨rfl, rfl⟩)
  | contains key => exact Act.ends_get_bind (Act.ends_pure ⟨rfl, rfl⟩)
  | access key => exact plain (CacheSession.ends_access rfl key) fun t left => ⟨rfl, left⟩
  | setClip key clip =>
    exact plain (CacheSession.ends_setClip rfl key clip) fun t left => ⟨rfl, left⟩
  | releaseInPlace key =>
    exact plain (CacheSession.ends_releaseInPlace rfl key) fun t left => ⟨rfl, left⟩
  | evict key => exact plain (CacheSession.ends_evict rfl key) fun t left => ⟨rfl, left⟩
  | purge => exact plain (CacheSession.ends_purgeSparing rfl none) fun t left => ⟨rfl, left⟩
  | purgeAll =>
    exact (CacheSession.ends_purgeAll rfl).unfailing.ok fun _ _ left => ⟨rfl, left⟩
  | abandonAll => exact Act.ends_modify ⟨rfl, rfl⟩
  | setBudget budget => exact Act.ends_modify ⟨rfl, rfl⟩
  | attach attachment shape => exact StencilAttachment.ends_attach rfl attachment shape
  | resolve attachment =>
    exact plain (StencilAttachment.ends_resolve rfl attachment) fun t left => ⟨rfl, left⟩
  | accessAttached attachment =>
    exact plain (StencilAttachment.ends_access rfl attachment) fun t left => ⟨rfl, left⟩
  | setClipAttached attachment clip =>
    exact plain (StencilAttachment.ends_setClip rfl attachment clip) fun t left => ⟨rfl, left⟩
  | elsewhere change => exact Act.ends_modify ⟨rfl, rfl, s.session, rfl, rfl⟩

/-- Every operation keeps the cache coherent. -/
theorem Effect.coherent {operation : Operation δ α} {held left : Holding δ}
    {outcome : Except Fault α} (effect : operation.Effect held outcome left)
    (coherent : held.cache.Coherent) : left.cache.Coherent := by
  cases operation with
  | insert buffer keyed => exact effect.2 ▸ coherent.lodge keyed
  | allocate lifeCycle shape => exact Holding.Allocates.coherent effect coherent
  | findScratch scratch => exact effect.2 ▸ coherent.findScratch scratch
  | findOrCreate shape => exact Holding.Acquires.coherent effect coherent
  | find key => exact effect.2 ▸ coherent
  | contains key => exact effect.2 ▸ coherent
  | access key => exact effect.2 ▸ coherent.touch key
  | setClip key clip =>
    exact effect.2 ▸ (coherent.touch key).revise key fun buffer => buffer.same_clip clip
  | releaseInPlace key =>
    exact effect.2 ▸ (coherent.touch key).revise key StencilBuffer.same_abandon
  | evict key => exact effect.2 ▸ coherent.discharge key
  | purge => exact effect.2 ▸ Holding.coherent_evictAll coherent _
  | purgeAll => exact effect.2 ▸ Holding.coherent_evictAll coherent _
  | abandonAll => exact effect.2 ▸ coherent.abandonAll
  | setBudget budget => exact effect.2 ▸ coherent.setBudget budget
  | attach attachment shape => exact StencilAttachment.Attaches.coherent effect coherent
  | resolve attachment => exact effect.2 ▸ coherent
  | accessAttached attachment => exact effect.2 ▸ attachment.coherent_used coherent
  | setClipAttached attachment clip => exact effect.2 ▸ attachment.coherent_clipped clip coherent
  | elsewhere change => exact effect.2.1 ▸ coherent

/-- The shape of the storage that an operation may ask the backend for. -/
def wants : Operation δ α → Option StencilShape
  | .allocate _ shape => some shape
  | .findOrCreate shape => some shape
  | .attach _ shape => some shape
  | _ => none

/-- An operation fails only if the backend refuses the storage that it asks for. -/
theorem Effect.refused {operation : Operation δ α} {held left : Holding δ} {fault : Fault}
    (effect : operation.Effect held (.error fault) left) :
    ∃ shape, operation.wants = some shape ∧
      Backend.createStencil .release shape held.backend =
        .error (.fault fault) left.backend := by
  have acquired : ∀ {shape : StencilShape}, held.Acquires shape (.error fault) left →
      Backend.createStencil .release shape held.backend =
        .error (.fault fault) left.backend := by
    intro shape acquires
    cases acquires with
    | refused absent allocated =>
      cases allocated with
      | refused given => exact given
  cases operation with
  | allocate lifeCycle shape =>
    cases effect with
    | refused given => exact ⟨shape, rfl, given⟩
  | findOrCreate shape => exact ⟨shape, rfl, acquired effect⟩
  | attach attachment shape =>
    cases effect with
    | refused unfit acquires => exact ⟨shape, rfl, acquired acquires⟩
  | _ => exact nomatch effect.1

end Operation

end RenderCore
