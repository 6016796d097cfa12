import RenderCore.Proofs.Gpu.SoftwareStorage
import RenderCore.Proofs.Stencil.Runs

/-!
# Operations come to an end

In a release build only loggers and backends can cut an operation on a cache short. With a logger
that never fails, over a backend that never panics, every operation ends with an answer or with a
fault, so that a run can go on with any operation.
-/

namespace RenderCore

variable {δ α : Type}

/-- Nothing cuts operations on the cache short, the backend apart. -/
def CacheSession.Reliable (work : CacheSession δ) : Prop := work.session.Reliable

/-! ## Reports -/

namespace CacheSession

theorem steady_session {act : Act (Session δ) α} (steady : act.Steady Session.Reliable) :
    (liftM act : Act (CacheSession δ) α).Steady Reliable :=
  steady.within (fun _ ok => ok) fun _ _ _ left => left

theorem steady_report {act : Act Journal α} (steady : act.Steady Journal.Reliable) :
    (liftM act : Act (CacheSession δ) α).Steady Reliable :=
  steady_session (Session.steady_report steady)

theorem steady_log (severity : Severity) (source message : String) :
    (liftM (Journal.log severity source message) : Act (CacheSession δ) Unit).Steady Reliable :=
  steady_report (Journal.steady_log severity source message)

theorem steady_edit (change : StencilCache → StencilCache) :
    (edit change : Act (CacheSession δ) Unit).Steady Reliable :=
  Act.steady_modify fun _ ok => ok

end CacheSession

theorem ScratchKey.steady_forStencil (width height samples : UInt32) :
    (ScratchKey.forStencil .release width height samples).Steady Journal.Reliable := by
  unfold ScratchKey.forStencil
  simp only [Build.expect_release, Act.lift_ok, pure_bind]
  split
  · exact (Journal.steady_log _ _ _).bind fun _ => Act.steady_pure _
  · exact Act.steady_pure _

/-! ## Buffers -/

namespace StencilBuffer

theorem steady_wrap (lifeCycle : LifeCycle) (origin : Option StencilId) (shape : StencilShape) :
    (wrap .release lifeCycle origin shape : Act (Session δ) StencilBuffer).Steady
      Session.Reliable := by
  have named : (ResourceHeader.create lifeCycle : Act (Session δ) ResourceHeader).Steady
      Session.Reliable := fun _ ok => ok
  unfold wrap
  simp only [Build.expect_release, Act.lift_ok, pure_bind]
  refine named.bind fun header => ?_
  split
  · refine (Session.steady_report (ScratchKey.steady_forStencil _ _ _)).bind fun key => ?_
    simp only [ResourceHeader.setScratchKey, Build.expect_release]
    exact Act.steady_pure _
  · exact Act.steady_pure _

end StencilBuffer

/-! ## The cache -/

namespace CacheSession

theorem steady_access (key : ArenaKey) :
    (access key : Act (CacheSession δ) (Option StencilBuffer)).Steady Reliable := by
  unfold access
  exact (steady_edit _).bind fun _ => Act.steady_get_bind fun _ => Act.steady_pure _

theorem steady_setClip (key : ArenaKey) (clip : ClipRecord) :
    (setClip key clip : Act (CacheSession δ) Bool).Steady Reliable := by
  unfold setClip
  refine (steady_access key).bind fun found => ?_
  cases found with
  | none => exact Act.steady_pure _
  | some buffer => exact (steady_edit _).bind fun _ => Act.steady_pure _

theorem steady_findScratch (scratch : ScratchKey) :
    (findScratch scratch : Act (CacheSession δ) (Option ArenaKey)).Steady Reliable :=
  Act.steady_modifyGet fun _ ok => ok

theorem steady_insert (buffer : StencilBuffer) :
    (insert .release buffer : Act (CacheSession δ) ArenaKey).Steady Reliable := by
  unfold insert
  refine (steady_edit _).bind fun _ => Act.steady_get_bind fun work => ?_
  simp only [totalWith_release, Act.lift_ok]
  exact (Act.steady_pure _).onPanic.bind fun _ => Act.steady_modifyGet fun _ ok => ok

theorem steady_countOut (buffer : StencilBuffer) :
    (countOut .release buffer : Act (CacheSession δ) Unit).Steady Reliable := by
  unfold countOut
  refine Act.steady_get_bind fun work => ?_
  simp only [totalWithout_release, Act.lift_ok, pure_bind]
  exact (steady_edit _).bind fun _ => steady_log _ _ _

end CacheSession

namespace StencilAttachment

theorem steady_letGo (key : ArenaKey) :
    (letGo key : Act (CacheSession δ) StencilAttachment).Steady CacheSession.Reliable := by
  unfold letGo
  exact (CacheSession.steady_log _ _ _).bind fun _ => Act.steady_pure _

theorem steady_resolve (attachment : StencilAttachment) :
    (attachment.resolve : Act (CacheSession δ) _).Steady CacheSession.Reliable := by
  unfold resolve
  split
  · exact Act.steady_pure _
  · refine Act.steady_get_bind fun work => ?_
    split
    · exact Act.steady_pure _
    · exact (steady_letGo _).bind fun _ => Act.steady_pure _

theorem steady_access (attachment : StencilAttachment) :
    (attachment.access : Act (CacheSession δ) _).Steady CacheSession.Reliable := by
  unfold access
  split
  · exact Act.steady_pure _
  · refine Act.steady_get_bind fun work => ?_
    split
    · exact (CacheSession.steady_access _).bind fun _ => Act.steady_pure _
    · exact (steady_letGo _).bind fun _ => Act.steady_pure _

theorem steady_setClip (attachment : StencilAttachment) (clip : ClipRecord) :
    (attachment.setClip clip : Act (CacheSession δ) _).Steady CacheSession.Reliable := by
  unfold setClip
  refine (steady_access attachment).bind fun answer => ?_
  dsimp only
  split
  · exact (CacheSession.steady_edit _).bind fun _ => Act.steady_pure _
  · exact Act.steady_pure _

end StencilAttachment

/-! ## The backend -/

variable [Backend δ]

/-- The backend grants or refuses allocations, but never panics. -/
def Backend.Steady (δ : Type) [Backend δ] : Prop :=
  ∀ shape, (Backend.createStencil .release shape : Act δ StencilId).Steady fun _ => True

theorem Software.steady : Backend.Steady Software :=
  fun shape gpu _ => (ends_createStencil shape gpu).imp (fun _ _ _ => trivial)
    (fun _ _ _ => trivial) fun _ cut => cut

namespace StencilBuffer

theorem steady_release (buffer : StencilBuffer) :
    (buffer.release : Act (Session δ) StencilBuffer).Steady Session.Reliable := by
  unfold release
  split
  · exact fun _ ok => ok
  · exact Act.steady_pure _

theorem steady_allocate (backend : Backend.Steady δ) (lifeCycle : LifeCycle)
    (shape : StencilShape) :
    (allocate .release lifeCycle shape : Act (Session δ) StencilBuffer).Steady
      Session.Reliable := by
  have called : (Session.onBackend (Backend.createStencil .release shape)).Steady
      (Session.Reliable (δ := δ)) :=
    (backend shape).within (fun _ _ => trivial) fun _ _ ok _ => ok
  have stored : (Session.createStencil .release shape : Act (Session δ) StencilId).Steady
      Session.Reliable := by
    unfold Session.createStencil
    exact called.bind fun storage _ ok => ok
  unfold allocate
  refine stored.bind fun storage => ?_
  refine (Session.steady_report (Journal.steady_log _ _ _)).bind fun _ => ?_
  exact steady_wrap lifeCycle (some storage) shape

end StencilBuffer

namespace CacheSession

theorem steady_releaseInPlace (key : ArenaKey) :
    (releaseInPlace key : Act (CacheSession δ) Bool).Steady Reliable := by
  unfold releaseInPlace
  refine (steady_access key).bind fun found => ?_
  cases found with
  | none => exact Act.steady_pure _
  | some buffer =>
    refine (steady_session buffer.steady_release).bind fun left => ?_
    exact (steady_edit _).bind fun _ => Act.steady_pure _

theorem steady_evict (key : ArenaKey) :
    (evict .release key : Act (CacheSession δ) Bool).Steady Reliable := by
  unfold evict
  refine Act.steady_get_bind fun work => ?_
  cases work.cache.remove? key with
  | none => exact Act.steady_pure _
  | some pair =>
    refine (steady_edit _).bind fun _ => ?_
    refine (steady_countOut pair.1).onPanic.bind fun _ => ?_
    exact (steady_session pair.1.steady_release).discard.bind fun _ => Act.steady_pure _

theorem steady_evictAll (keys : List ArenaKey) :
    (keys.forM fun key => discard (evict .release key) : Act (CacheSession δ) Unit).Steady
      Reliable :=
  Act.steady_forM fun key => (steady_evict key).discard

theorem steady_purgeSparing (keep : Option ArenaKey) :
    (purgeSparing .release keep : Act (CacheSession δ) Nat).Steady Reliable := by
  unfold purgeSparing
  exact Act.steady_get_bind fun _ => (steady_evictAll _).bind fun _ => Act.steady_pure _

theorem steady_findOrCreate (backend : Backend.Steady δ) (shape : StencilShape) :
    (findOrCreate .release shape : Act (CacheSession δ) ArenaKey).Steady Reliable := by
  unfold findOrCreate
  refine (steady_report (ScratchKey.steady_forStencil _ _ _)).bind fun scratch => ?_
  refine (steady_findScratch scratch).bind fun found => ?_
  cases found with
  | some key => exact (steady_log _ _ _).bind fun _ => Act.steady_pure _
  | none =>
    refine (steady_log _ _ _).bind fun _ => ?_
    refine (steady_session (StencilBuffer.steady_allocate backend _ _)).bind fun buffer => ?_
    refine (steady_insert buffer).bind fun key => ?_
    exact (steady_purgeSparing _).discard.bind fun _ => Act.steady_pure _

end CacheSession

theorem StencilAttachment.steady_attach (backend : Backend.Steady δ)
    (attachment : StencilAttachment) (shape : StencilShape) :
    (attachment.attach .release shape : Act (CacheSession δ) _).Steady CacheSession.Reliable := by
  unfold attach
  refine Act.steady_get_bind fun work => ?_
  split
  · exact Act.steady_pure _
  · exact (CacheSession.steady_findOrCreate backend shape).bind fun _ => Act.steady_pure _

/-! ## Operations and runs -/

namespace Operation

/-- What a program does to its session away from the cache leaves the journal reliable. -/
def Harmless : Operation δ α → Prop
  | .elsewhere change => ∀ session, session.Reliable → (change session).Reliable
  | _ => True

/-- No operation panics. -/
theorem steady (backend : Backend.Steady δ) {operation : Operation δ α}
    (harmless : operation.Harmless) :
    (operation.act .release).Steady CacheSession.Reliable := by
  cases operation with
  | insert buffer keyed => exact CacheSession.steady_insert buffer
  | allocate lifeCycle shape =>
    exact (CacheSession.steady_session (StencilBuffer.steady_allocate backend lifeCycle shape)).bind
      fun buffer => CacheSession.steady_insert buffer
  | findScratch scratch => exact CacheSession.steady_findScratch scratch
  | findOrCreate shape => exact CacheSession.steady_findOrCreate backend shape
  | find key => exact Act.steady_get_bind fun _ => Act.steady_pure _
  | contains key => exact Act.steady_get_bind fun _ => Act.steady_pure _
  | access key => exact CacheSession.steady_access key
  | setClip key clip => exact CacheSession.steady_setClip key clip
  | releaseInPlace key => exact CacheSession.steady_releaseInPlace key
  | evict key => exact CacheSession.steady_evict key
  | purge => exact CacheSession.steady_purgeSparing none
  | purgeAll => exact Act.steady_get_bind fun _ => CacheSession.steady_evictAll _
  | abandonAll => exact CacheSession.steady_edit (·.abandonAll)
  | setBudget budget => exact CacheSession.steady_edit (·.setBudget budget)
  | attach attachment shape => exact StencilAttachment.steady_attach backend attachment shape
  | resolve attachment => exact StencilAttachment.steady_resolve attachment
  | accessAttached attachment => exact StencilAttachment.steady_access attachment
  | setClipAttached attachment clip => exact StencilAttachment.steady_setClip attachment clip
  | elsewhere change => exact Act.steady_modify fun work ok => harmless work.session ok

end Operation

/-- A step keeps the journal reliable. -/
theorem Step.reliable {step : Step δ} (backend : Backend.Steady δ)
    (harmless : step.operation.Harmless) (completes : step.Completes .release)
    (reliable : step.before.Reliable) : step.after.Reliable := by
  have ends := step.operation.steady backend harmless step.before reliable
  rw [Act.ends_iff_outcome, show _ = _ from completes] at ends
  cases outcome : step.outcome with
  | ok a =>
    rw [outcome] at ends
    exact ends
  | error f =>
    rw [outcome] at ends
    exact ends

variable {start work : CacheSession δ} {steps : List (Step δ)}

theorem Run.reliable (backend : Backend.Steady δ) (run : Run .release start steps work)
    (harmless : ∀ step ∈ steps, step.operation.Harmless) (reliable : start.Reliable) :
    work.Reliable := by
  induction run with
  | nil => exact reliable
  | @cons step steps run completes ih =>
    apply Step.reliable backend (harmless step List.mem_cons_self) completes
    apply ih
    intro step member
    exact harmless step (List.mem_cons_of_mem _ member)

/-- Whatever a program asks next is answered, or is refused with a fault. -/
theorem Run.extends (backend : Backend.Steady δ) (run : Run .release start steps work)
    (reliable : work.Reliable) {operation : Operation δ α} (harmless : operation.Harmless) :
    ∃ outcome after, after.Reliable ∧
      Run .release start (⟨operation, work, outcome, after⟩ :: steps) after := by
  have ends := operation.steady backend harmless work reliable
  rw [Act.ends_iff_outcome] at ends
  rcases ended : (operation.act .release).outcome work with ⟨outcome, after⟩
  rw [ended] at ends
  rcases outcome with (f | p) | a
  · exact ⟨.error f, after, ends, .cons run ended⟩
  · exact ends.elim
  · exact ⟨.ok a, after, ends, .cons run ended⟩

end RenderCore
