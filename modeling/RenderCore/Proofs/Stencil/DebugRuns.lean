import RenderCore.Proofs.Effect.Builds
import RenderCore.Proofs.Stencil.Runs

/-!
# Runs in a debug build

What an operation on a cache does in a debug build, unless it panics, it does in a release build
over the same backend. So a run of a debug build is a run of a release build, and what holds of the
runs of release builds over all backends holds of the runs of either build.
-/

namespace RenderCore

variable {δ α : Type}

/-! ## Away from the backend -/

theorem StencilShape.stricter_checkedBytes (build : Build) (shape : StencilShape) :
    Stricter (shape.checkedBytes build) (shape.checkedBytes .release) := by
  unfold checkedBytes
  refine (build.stricter_mul64 _ _).bind fun pixels => ?_
  exact (build.stricter_mul64 _ _).bind fun bits => build.stricter_mul64 _ _

theorem ScratchKey.stricter_forStencil (build : Build) (width height samples : UInt32) :
    (forStencil build width height samples).Stricter
      (forStencil .release width height samples) := by
  unfold forStencil
  split
  · exact (Act.stricter_check (build.stricter_expect _ _)).bind fun _ => .refl _
  · exact .refl _

theorem ResourceHeader.stricter_setScratchKey (build : Build) (key : ScratchKey)
    (header : ResourceHeader) :
    Stricter (header.setScratchKey build key) (header.setScratchKey .release key) := by
  unfold setScratchKey
  refine (build.stricter_expect _ _).bind fun _ => ?_
  exact (build.stricter_expect _ _).bind fun _ => .inl rfl

theorem StencilBuffer.stricter_wrap (build : Build) (lifeCycle : LifeCycle)
    (origin : Option StencilId) (shape : StencilShape) :
    (wrap build lifeCycle origin shape : Act (Session δ) StencilBuffer).Stricter
      (wrap .release lifeCycle origin shape) := by
  unfold wrap
  refine (Act.stricter_check (build.stricter_expect _ _)).bind fun _ => ?_
  refine (Act.stricter_check (build.stricter_expect _ _)).bind fun _ => ?_
  refine (Act.Stricter.refl _).bind fun header => ?_
  split
  · refine (ScratchKey.stricter_forStencil build _ _ _).within.bind fun key => ?_
    exact (Act.stricter_check (header.stricter_setScratchKey build key)).bind fun _ => .refl _
  · exact .refl _

namespace CacheSession

theorem stricter_totalWith (build : Build) (cache : StencilCache) (buffer : StencilBuffer) :
    Stricter (totalWith build cache buffer) (totalWith .release cache buffer) :=
  (buffer.shape.stricter_checkedBytes build).bind fun _ => build.stricter_add64 _ _

theorem stricter_totalWithout (build : Build) (cache : StencilCache) (buffer : StencilBuffer) :
    Stricter (totalWithout build cache buffer) (totalWithout .release cache buffer) :=
  (buffer.shape.stricter_checkedBytes build).bind fun _ => build.stricter_sub64 _ _

theorem stricter_insert (build : Build) (buffer : StencilBuffer) :
    (insert build buffer : Act (CacheSession δ) ArenaKey).Stricter (insert .release buffer) := by
  unfold insert
  refine (Act.Stricter.refl _).bind fun _ => (Act.Stricter.refl _).bind fun work => ?_
  refine Act.Stricter.bind ?_ fun total => .refl _
  exact (Act.stricter_check (stricter_totalWith build work.cache buffer)).onPanic

theorem stricter_countOut (build : Build) (buffer : StencilBuffer) :
    (countOut build buffer : Act (CacheSession δ) Unit).Stricter (countOut .release buffer) := by
  unfold countOut
  refine (Act.Stricter.refl _).bind fun work => ?_
  exact (Act.stricter_check (stricter_totalWithout build work.cache buffer)).bind fun _ => .refl _

end CacheSession

/-! ## Over a backend -/

/-- The backend as it is in one build, which a release build may find it in, too. -/
@[reducible] def Backend.fixed (backend : Backend δ) (build : Build) : Backend δ :=
  { backend with createStencil := fun _ => backend.createStencil build }

variable [backend : Backend δ] (build : Build)

theorem StencilBuffer.stricter_allocate (lifeCycle : LifeCycle) (shape : StencilShape) :
    (allocate build lifeCycle shape : Act (Session δ) StencilBuffer).Stricter
      (@allocate δ (backend.fixed build) .release lifeCycle shape) := by
  unfold allocate
  refine (Act.Stricter.refl _).bind fun storage => (Act.Stricter.refl _).bind fun _ => ?_
  exact stricter_wrap build lifeCycle (some storage) shape

namespace CacheSession

theorem stricter_allocate (lifeCycle : LifeCycle) (shape : StencilShape) :
    (allocate build lifeCycle shape : Act (CacheSession δ) ArenaKey).Stricter
      (@allocate δ (backend.fixed build) .release lifeCycle shape) :=
  (StencilBuffer.stricter_allocate build lifeCycle shape).within.bind fun buffer =>
    stricter_insert build buffer

theorem stricter_evict (key : ArenaKey) :
    (evict build key : Act (CacheSession δ) Bool).Stricter
      (@evict δ (backend.fixed build) .release key) := by
  unfold evict
  refine (Act.Stricter.refl _).bind fun work => ?_
  split
  · refine (Act.Stricter.refl _).bind fun _ => ?_
    exact (stricter_countOut build _).onPanic.bind fun _ => .refl _
  · exact .refl _

theorem stricter_evictAll (keys : List ArenaKey) :
    (keys.forM fun key => discard (evict build key) : Act (CacheSession δ) PUnit).Stricter
      (keys.forM fun key => discard (@evict δ (backend.fixed build) .release key)) :=
  Act.stricter_forM fun key => (stricter_evict build key).discard

theorem stricter_purgeSparing (keep : Option ArenaKey) :
    (purgeSparing build keep : Act (CacheSession δ) Nat).Stricter
      (@purgeSparing δ (backend.fixed build) .release keep) := by
  unfold purgeSparing
  refine (Act.Stricter.refl _).bind fun work => ?_
  exact (stricter_evictAll build _).bind fun _ => .refl _

theorem stricter_purgeAll :
    (purgeAll build : Act (CacheSession δ) Unit).Stricter
      (@purgeAll δ (backend.fixed build) .release) := by
  unfold purgeAll
  exact (Act.Stricter.refl _).bind fun work => stricter_evictAll build _

theorem stricter_findOrCreate (shape : StencilShape) :
    (findOrCreate build shape : Act (CacheSession δ) ArenaKey).Stricter
      (@findOrCreate δ (backend.fixed build) .release shape) := by
  unfold findOrCreate
  refine (ScratchKey.stricter_forStencil build _ _ _).within.within.bind fun scratch => ?_
  refine (Act.Stricter.refl _).bind fun found => ?_
  split
  · exact .refl _
  · refine (Act.Stricter.refl _).bind fun _ => ?_
    refine (StencilBuffer.stricter_allocate build .cached shape).within.bind fun buffer => ?_
    refine (stricter_insert build buffer).bind fun key => ?_
    exact (stricter_purgeSparing build (some key)).discard.bind fun _ => .refl _

end CacheSession

theorem StencilAttachment.stricter_attach (attachment : StencilAttachment)
    (shape : StencilShape) :
    (attachment.attach build shape : Act (CacheSession δ) _).Stricter
      (@attach δ (backend.fixed build) .release attachment shape) := by
  unfold attach
  refine (Act.Stricter.refl _).bind fun work => ?_
  split
  · exact .refl _
  · exact (CacheSession.stricter_findOrCreate build shape).bind fun _ => .refl _

/-! ## Operations and runs -/

/-- Every operation panics in a debug build, or does what it does in a release build. -/
theorem Operation.stricter_act (operation : Operation δ α) :
    (operation.act build).Stricter (@act δ α (backend.fixed build) .release operation) := by
  cases operation with
  | insert buffer keyed => exact CacheSession.stricter_insert build buffer
  | allocate lifeCycle shape => exact CacheSession.stricter_allocate build lifeCycle shape
  | findOrCreate shape => exact CacheSession.stricter_findOrCreate build shape
  | evict key => exact CacheSession.stricter_evict build key
  | purge => exact CacheSession.stricter_purgeSparing build none
  | purgeAll => exact CacheSession.stricter_purgeAll build
  | attach attachment shape => exact attachment.stricter_attach build shape
  | _ => exact .refl _

variable {build}

theorem Step.Completes.inRelease {step : Step δ} (completes : step.Completes build) :
    @Step.Completes δ (backend.fixed build) .release step :=
  (step.operation.stricter_act build).outcome_eq completes

/-- A run of either build is a run of a release build over the backend as it is in that build. -/
theorem Run.inRelease {start work : CacheSession δ} {steps : List (Step δ)}
    (run : Run build start steps work) :
    @Run δ (backend.fixed build) .release start steps work := by
  induction run with
  | nil => exact @Run.nil δ (backend.fixed build) _ _
  | cons run completes ih => exact @Run.cons δ (backend.fixed build) _ _ _ _ ih completes.inRelease

/-- What a step of either build does, it does over the backend as it is in that build. -/
theorem Step.effectIn {step : Step δ} (completes : step.Completes build) :
    @Operation.Effect δ step.Answer (backend.fixed build) step.operation step.before.holding
      step.outcome step.after.holding :=
  @Step.effect δ (backend.fixed build) step completes.inRelease

theorem Run.coherent {budget : CacheBudget} {session : Session δ} {work : CacheSession δ}
    {steps : List (Step δ)} (run : Run build ⟨{ budget }, session⟩ steps work) :
    work.cache.Coherent :=
  @Reachable.coherent δ (backend.fixed build) _ _
    (@Run.reachable δ (backend.fixed build) _ _ _ _ _ run.inRelease)

end RenderCore
