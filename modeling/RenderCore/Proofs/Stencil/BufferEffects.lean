import RenderCore.Proofs.Journal.Reports
import RenderCore.Proofs.Stencil.CacheTurnover
import RenderCore.Stencil.Attachment

/-!
# What reports and buffers do to cache and backend

Of all that an operation on a cache within a session changes, two things matter to what the cache
promises: the cache itself and the backend with the storage of its buffers. Together they are a
`Holding`. In a release build reports leave both alone, and what is done to a buffer leaves the
cache alone.
-/

namespace RenderCore

variable {δ α : Type}

/-- A cache and the backend that has the storage of its buffers. -/
structure Holding (δ : Type) where
  cache : StencilCache
  backend : δ

/-- The cache of a session and its backend. -/
def CacheSession.holding (work : CacheSession δ) : Holding δ := ⟨work.cache, work.session.backend⟩

/-- A coherent cache is still coherent in what a panic leaves. -/
def Holding.Survives (held : Holding δ) (left : CacheSession δ) : Prop :=
  held.cache.Coherent → left.cache.Coherent

theorem Holding.survives_of_eq {held : Holding δ} {left : CacheSession δ}
    (same : left.cache = held.cache) : held.Survives left := by
  intro coherent
  rw [same]
  exact coherent

/-! ## Reports -/

theorem StencilBuffer.ends_drop (buffer : StencilBuffer) (journal : Journal) :
    buffer.drop.Ends journal (fun _ _ => True) (fun _ _ => False) (fun _ => True) := by
  unfold StencilBuffer.drop
  split
  · exact Journal.ends_log _ _ _ _
  · exact Act.ends_pure trivial

/-- A scratch key is answered even for an outsized shape, which is only reported. -/
theorem ScratchKey.ends_forStencil (shape : StencilShape) (journal : Journal) :
    (ScratchKey.forStencil .release shape.width shape.height shape.samples).Ends journal
      (fun key _ => key = shape.scratchKey) (fun _ _ => False) (fun _ => True) := by
  unfold ScratchKey.forStencil
  simp only [Build.expect_release, Act.lift_ok, pure_bind]
  split
  · exact (Journal.ends_log _ _ _ _).bind fun _ _ _ => Act.ends_pure rfl
  · exact Act.ends_pure rfl

namespace CacheSession

/-- What happens in the session leaves the cache alone. -/
theorem ends_session {act : Act (Session δ) α} {s : CacheSession δ}
    {answer : α → Session δ → Prop} {fault : Fault → Session δ → Prop}
    (ends : act.Ends s.session answer fault (fun _ => True)) :
    (liftM act : Act (CacheSession δ) α).Ends s (fun a t => t.cache = s.cache ∧ answer a t.session)
      (fun f t => t.cache = s.cache ∧ fault f t.session) (fun t => t.cache = s.cache) := by
  apply Act.Ends.within
  exact ends.imp (fun _ _ answered => ⟨rfl, answered⟩) (fun _ _ failed => ⟨rfl, failed⟩)
    fun _ _ => rfl

/-- A report leaves cache and backend alone. -/
theorem ends_report {act : Act Journal α} {s : CacheSession δ} {answer : α → Prop}
    (ends : act.Ends s.session.journal (fun a _ => answer a) (fun _ _ => False) (fun _ => True)) :
    (liftM act : Act (CacheSession δ) α).Ends s (fun a t => answer a ∧ t.holding = s.holding)
      (fun _ _ => False) (fun t => t.cache = s.cache) := by
  have ended := ends_session (Session.ends_report ends)
  refine ended.imp (fun a t answered => ?_) (fun _ _ failed => failed.2) fun _ same => same
  obtain ⟨cache, answered, backend⟩ := answered
  refine ⟨answered, ?_⟩
  rw [holding, holding, cache, backend]

theorem ends_log {severity : Severity} {source message : String} (s : CacheSession δ) :
    (liftM (Journal.log severity source message) : Act (CacheSession δ) Unit).Ends s
      (fun _ t => t.holding = s.holding) (fun _ _ => False) (fun t => t.cache = s.cache) :=
  (ends_report (Journal.ends_log severity source message s.session.journal)).imp
    (fun _ _ answered => answered.2) (fun _ _ failed => failed) fun _ same => same

end CacheSession

/-! ## Buffers -/

@[simp] theorem StencilShape.checkedBytes_release (shape : StencilShape) :
    shape.checkedBytes .release = .ok shape.bytes := by
  simp only [checkedBytes, Build.mul64_release]
  rfl

namespace StencilBuffer

/-- A new buffer; it has a scratch key if it is cached. -/
def made (id : ResourceId) (lifeCycle : LifeCycle) (origin : Option StencilId)
    (shape : StencilShape) : StencilBuffer :=
  { header :=
      { lifeCycle, id, scratchKey := if lifeCycle = .cached then some shape.scratchKey else none }
    origin
    shape }

theorem keyed_made (id : ResourceId) (lifeCycle : LifeCycle) (origin : Option StencilId)
    (shape : StencilShape) : (made id lifeCycle origin shape).Keyed := rfl

theorem same_abandon (buffer : StencilBuffer) : buffer.Same buffer.abandon :=
  ⟨rfl, rfl, rfl, rfl, rfl⟩

theorem same_clip (buffer : StencilBuffer) (clip : ClipRecord) :
    buffer.Same { buffer with clip } :=
  ⟨rfl, rfl, rfl, rfl, rfl⟩

theorem ends_wrap (lifeCycle : LifeCycle) (origin : Option StencilId) (shape : StencilShape)
    (s : Session δ) :
    (wrap .release lifeCycle origin shape : Act (Session δ) StencilBuffer).Ends s
      (fun buffer t => (∃ id, buffer = made id lifeCycle origin shape) ∧ t.backend = s.backend)
      (fun _ _ => False) (fun _ => True) := by
  have named : (ResourceHeader.create lifeCycle : Act (Session δ) ResourceHeader).Ends s
      (fun header t => (∃ id, header = { lifeCycle, id }) ∧ t.backend = s.backend)
      (fun _ _ => False) (fun _ => True) := ⟨⟨_, rfl⟩, rfl⟩
  unfold wrap
  simp only [Build.expect_release, Act.lift_ok, pure_bind]
  refine named.bind fun header t ok => ?_
  obtain ⟨⟨id, rfl⟩, backend⟩ := ok
  by_cases cached : lifeCycle = .cached
  · rw [if_pos cached]
    refine (Session.ends_report (ScratchKey.ends_forStencil shape t.journal)).bind
      fun key u keyed => ?_
    have header : ResourceHeader.setScratchKey .release key { lifeCycle, id } =
        .ok { lifeCycle, id, scratchKey := some key } := by
      simp only [ResourceHeader.setScratchKey, Build.expect_release]
      rfl
    rw [header, Act.lift_ok, pure_bind]
    refine Act.ends_pure ⟨⟨id, ?_⟩, keyed.2.trans backend⟩
    rw [keyed.1, made, if_pos cached]
  · rw [if_neg cached]
    refine Act.ends_pure ⟨⟨id, ?_⟩, backend⟩
    rw [made, if_neg cached]

variable [Backend δ]

/-- The backend after what a buffer owes it was freed. -/
def free (buffer : StencilBuffer) (backend : δ) : δ :=
  match buffer.owed with
  | some storage => Backend.deleteStencil storage backend
  | none => backend

theorem ends_release (buffer : StencilBuffer) (s : Session δ) :
    (buffer.release : Act (Session δ) StencilBuffer).Ends s
      (fun left t => left = buffer.abandon ∧ t.backend = buffer.free s.backend)
      (fun _ _ => False) (fun _ => True) := by
  unfold release free
  cases buffer.owed with
  | none => exact Act.ends_pure ⟨rfl, rfl⟩
  | some storage =>
    have freed : (Session.deleteStencil storage : Act (Session δ) Unit).Ends s
        (fun _ t => t.backend = Backend.deleteStencil storage s.backend)
        (fun _ _ => False) (fun _ => True) := rfl
    exact freed.bind fun _ _ backend => Act.ends_pure ⟨rfl, backend⟩

/-- An allocation answers a new buffer over the storage that the backend gave, or passes on the
    fault that the backend reported. -/
theorem ends_allocate (lifeCycle : LifeCycle) (shape : StencilShape) (s : Session δ) :
    (allocate .release lifeCycle shape : Act (Session δ) StencilBuffer).Ends s
      (fun buffer t => ∃ id storage,
        Backend.createStencil .release shape s.backend = .ok storage t.backend ∧
          buffer = made id lifeCycle (some storage) shape)
      (fun f t => Backend.createStencil .release shape s.backend = .error (.fault f) t.backend)
      (fun _ => True) := by
  have stored : (Session.createStencil .release shape : Act (Session δ) StencilId).Ends s
      (fun storage t => Backend.createStencil .release shape s.backend = .ok storage t.backend)
      (fun f t => Backend.createStencil .release shape s.backend = .error (.fault f) t.backend)
      (fun _ => True) := by
    unfold Session.createStencil
    have called : (Session.onBackend (Backend.createStencil .release shape)).Ends s
        (fun storage t => Backend.createStencil .release shape s.backend = .ok storage t.backend)
        (fun f t => Backend.createStencil .release shape s.backend = .error (.fault f) t.backend)
        (fun _ => True) := by
      apply Act.Ends.within
      unfold Act.Ends
      split
      · assumption
      · assumption
      · trivial
    refine called.bind fun storage t created => ?_
    exact created
  unfold allocate
  refine stored.bind fun storage t created => ?_
  have noted := Session.ends_report (Journal.ends_log .debug component
    (allocationReport shape storage) t.journal)
  refine noted.unfailing.bind fun _ u logged => ?_
  refine (ends_wrap lifeCycle (some storage) shape u).imp (fun buffer v ok => ?_)
    (fun _ _ failed => failed.elim) fun _ _ => trivial
  obtain ⟨⟨id, rfl⟩, backend⟩ := ok
  refine ⟨id, storage, ?_, rfl⟩
  rw [created, backend, logged.2]

end StencilBuffer

end RenderCore
