import RenderCore.Gpu.Recorder
import RenderCore.Proofs.Stencil.Progress

/-!
# Backends that grant every allocation

A backend may run out of memory, and what it does then depends on all that was allocated and freed
before. Where it does not, whatever it is asked for, a look-up always answers, unless a logger fails.
-/

namespace RenderCore

variable {δ : Type} [Backend δ]

/-- The backend refuses no allocation of a release build, now or after any others and any
    deletions. -/
def Backend.Generous (gpu : δ) : Prop :=
  ∃ granting : δ → Prop, granting gpu ∧
    (∀ gpu, granting gpu → ∀ shape, ∃ storage left,
      Backend.createStencil .release shape gpu = .ok storage left ∧ granting left) ∧
    ∀ gpu, granting gpu → ∀ storage, granting (Backend.deleteStencil storage gpu)

namespace Backend

variable {gpu : δ}

theorem Generous.created (generous : Generous gpu) (shape : StencilShape) :
    ∃ storage left, Backend.createStencil .release shape gpu = .ok storage left ∧
      Generous left := by
  obtain ⟨granting, now, creates, deletes⟩ := generous
  obtain ⟨storage, left, given, onward⟩ := creates gpu now shape
  exact ⟨storage, left, given, granting, onward, creates, deletes⟩

theorem Generous.deleted (generous : Generous gpu) (storage : StencilId) :
    Generous (Backend.deleteStencil storage gpu) := by
  obtain ⟨granting, now, creates, deletes⟩ := generous
  exact ⟨granting, deletes gpu now storage, creates, deletes⟩

end Backend

omit [Backend δ] in
theorem Recorder.generous {recorder : Recorder} (memory : recorder.outOfMemory = false) :
    Backend.Generous recorder := by
  refine ⟨fun recorder => recorder.outOfMemory = false, memory, fun gpu memory shape => ?_,
    fun gpu memory storage => memory⟩
  have ends : (Backend.createStencil .release shape : Act Recorder StencilId).Ends gpu
      (fun _ left => left.outOfMemory = false) (fun _ _ => False) fun _ => False := by
    simp only [Backend.createStencil]
    apply Act.ends_get_bind
    rw [memory]
    exact memory
  unfold Act.Ends at ends
  split at ends
  · next storage left given => exact ⟨storage, left, given, ends⟩
  · exact ends.elim
  · exact ends.elim

omit [Backend δ] in
theorem Recorder.steady : Backend.Steady Recorder := by
  intro shape recorder _
  simp only [Backend.createStencil]
  apply Act.ends_get_bind
  split <;> trivial

/-! ## Operations that neither panic nor fail -/

/-- Neither a logger nor the backend cuts operations short, and the backend has memory. -/
def Session.Ready (session : Session δ) : Prop :=
  session.Reliable ∧ Backend.Generous session.backend

def CacheSession.Ready (work : CacheSession δ) : Prop := work.session.Ready

/-- What asks nothing of the backend leaves it generous. -/
theorem Session.steady_ready {α : Type} {act : Act (Session δ) α}
    (steady : act.Steady Session.Reliable)
    (kept : ∀ session, act.Ends session (fun _ left => left.backend = session.backend)
      (fun _ _ => False) fun _ => True) : act.Steady Session.Ready :=
  steady.and fun session generous => (kept session).imp (fun _ _ same => same ▸ generous)
    (fun _ _ failed => failed.elim) fun _ _ => trivial

theorem Holding.generous_evictAll {held : Holding δ} (generous : Backend.Generous held.backend)
    (keys : List ArenaKey) : Backend.Generous (held.evictAll keys).backend := by
  unfold evictAll
  induction keys generalizing held with
  | nil => exact generous
  | cons key rest ih =>
    apply ih
    unfold evict freed StencilBuffer.free
    split
    · split
      · exact generous.deleted _
      · exact generous
    · exact generous

theorem Holding.Acquires.generous {held left : Holding δ} {shape : StencilShape}
    {outcome : Except Fault ArenaKey} (acquires : held.Acquires shape outcome left)
    (generous : Backend.Generous held.backend) :
    Backend.Generous left.backend ∧ ∃ key, outcome = .ok key := by
  obtain ⟨storage, gpu, given, onward⟩ := generous.created shape
  cases acquires with
  | hit found => exact ⟨generous, _, rfl⟩
  | miss absent allocated =>
    cases allocated with
    | made given' =>
      rw [given] at given'
      cases given'
      exact ⟨generous_evictAll onward _, _, rfl⟩
  | refused absent allocated =>
    cases allocated with
    | refused given' => exact nomatch given.symm.trans given'

namespace StencilBuffer

theorem steady_allocate_ready (lifeCycle : LifeCycle) (shape : StencilShape) :
    (allocate .release lifeCycle shape : Act (Session δ) StencilBuffer).Steady Session.Ready := by
  have stored : (Session.createStencil .release shape : Act (Session δ) StencilId).Steady
      Session.Ready := by
    intro session ready
    obtain ⟨storage, gpu, given, generous⟩ := ready.2.created shape
    have called : (Session.onBackend (Backend.createStencil .release shape)).Ends session
        (fun _ => Session.Ready) (fun _ => Session.Ready) fun _ => False := by
      apply Act.Ends.within
      unfold Act.Ends
      rw [given]
      exact ⟨ready.1, generous⟩
    unfold Session.createStencil
    exact called.bind fun _ _ ok => ok
  have logged : ∀ storage, (liftM (Journal.log .debug component (allocationReport shape storage)) :
      Act (Session δ) Unit).Steady Session.Ready := fun storage =>
    Session.steady_ready (Session.steady_report (Journal.steady_log _ _ _)) fun session =>
      (Session.ends_report (Journal.ends_log _ _ _ _)).ok fun _ _ ok => ok.2
  have wrapped : ∀ storage, (wrap .release lifeCycle (some storage) shape :
      Act (Session δ) StencilBuffer).Steady Session.Ready := fun storage =>
    Session.steady_ready (steady_wrap lifeCycle (some storage) shape) fun session =>
      (ends_wrap lifeCycle (some storage) shape session).imp (fun _ _ ok => ok.2)
        (fun _ _ failed => failed) fun _ _ => trivial
  unfold allocate
  exact stored.bind fun storage => (logged storage).bind fun _ => wrapped storage

end StencilBuffer

namespace CacheSession

variable {α : Type}

theorem steady_ready {act : Act (CacheSession δ) α} (steady : act.Steady Reliable)
    (kept : ∀ work, act.Ends work (fun _ left => left.session.backend = work.session.backend)
      (fun _ _ => False) fun _ => True) : act.Steady Ready :=
  steady.and fun work generous => (kept work).imp (fun _ _ same => same ▸ generous)
    (fun _ _ failed => failed.elim) fun _ _ => trivial

theorem steady_report_ready {act : Act Journal α} (steady : act.Steady Journal.Reliable)
    (ends : ∀ journal, act.Ends journal (fun _ _ => True) (fun _ _ => False) fun _ => True) :
    (liftM act : Act (CacheSession δ) α).Steady Ready :=
  steady_ready (steady_report steady) fun work =>
    (ends_report (ends work.session.journal)).imp
      (fun _ _ ok => congrArg Holding.backend ok.2) (fun _ _ failed => failed) fun _ _ => trivial

theorem steady_log_ready (severity : Severity) (source message : String) :
    (liftM (Journal.log severity source message) : Act (CacheSession δ) Unit).Steady Ready :=
  steady_report_ready (Journal.steady_log _ _ _) (Journal.ends_log _ _ _)

theorem steady_allocate_ready (lifeCycle : LifeCycle) (shape : StencilShape) :
    (allocate .release lifeCycle shape : Act (CacheSession δ) ArenaKey).Steady Ready := by
  unfold allocate
  have made := StencilBuffer.steady_allocate_ready (δ := δ) lifeCycle shape
  refine (made.within (fun _ ok => ok) fun _ _ _ left => left).bind fun buffer => ?_
  exact steady_ready (steady_insert buffer) fun work =>
    (ends_insert rfl buffer).imp (fun _ _ ok => congrArg Holding.backend ok.2)
      (fun _ _ failed => failed) fun _ _ => trivial

theorem steady_purgeSparing_ready (keep : Option ArenaKey) :
    (purgeSparing .release keep : Act (CacheSession δ) Nat).Steady Ready :=
  (steady_purgeSparing keep).and fun work generous => (ends_purgeSparing rfl keep).imp
    (fun _ left ok => by
      have backend : left.session.backend = _ := congrArg Holding.backend ok.2
      rw [backend]
      exact Holding.generous_evictAll generous _)
    (fun _ _ failed => failed.elim) fun _ _ => trivial

/-- A look-up answers. -/
theorem steady_findOrCreate_ready (shape : StencilShape) :
    (findOrCreate .release shape : Act (CacheSession δ) ArenaKey).Steady Ready := by
  have keyed := steady_report_ready (δ := δ)
    (ScratchKey.steady_forStencil shape.width shape.height shape.samples) fun journal =>
      (ScratchKey.ends_forStencil shape journal).ok fun _ _ _ => trivial
  unfold findOrCreate
  refine keyed.bind fun scratch => ?_
  have looked : (findScratch scratch : Act (CacheSession δ) (Option ArenaKey)).Steady Ready :=
    Act.steady_modifyGet fun _ ok => ok
  refine looked.bind fun found => ?_
  cases found with
  | some key => exact (steady_log_ready _ _ _).bind fun _ => Act.steady_pure _
  | none =>
    refine (steady_log_ready _ _ _).bind fun _ => ?_
    rw [← allocate_bind]
    refine (steady_allocate_ready .cached shape).bind fun key => ?_
    exact (steady_purgeSparing_ready _).discard.bind fun _ => Act.steady_pure _

end CacheSession

end RenderCore
