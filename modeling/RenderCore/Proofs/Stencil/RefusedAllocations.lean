import RenderCore.Gpu.Recorder
import RenderCore.Proofs.Stencil.DebugRuns
import RenderCore.Proofs.Stencil.Reporting

/-!
# Refused allocations

A look-up of a buffer, and an attachment that goes to the cache for one, fail only where the backend
refuses the storage. All that has happened by then is that reports were made: the look-up missed,
which is no use of any buffer, and a buffer is put into the cache, counted and held by the attachment
only after its storage was given.
-/

namespace RenderCore

variable {δ α : Type}

/-! ## Reports alone -/

namespace CacheSession

/-- The session has come to its present state by reports alone. -/
def Noted (work left : CacheSession δ) : Prop :=
  ∃ entries, left =
    { work with session := { work.session with journal := work.session.journal.noted entries } }

theorem Noted.trans {work between left : CacheSession δ} (first : work.Noted between)
    (second : between.Noted left) : work.Noted left := by
  obtain ⟨before, rfl⟩ := first
  obtain ⟨after, rfl⟩ := second
  refine ⟨before ++ after, ?_⟩
  rw [Journal.noted_append]

theorem ends_noted {act : Act Journal α} {s : CacheSession δ} {answer : α → Prop}
    (ends : act.Ends s.session.journal (fun a _ => answer a) (fun _ _ => False) fun _ => True)
    (keeps : act.Keeps s.session.journal.Grown) :
    (liftM act : Act (CacheSession δ) α).Ends s (fun a t => answer a ∧ s.Noted t)
      (fun _ _ => False) fun _ => True := by
  refine Act.Ends.within (Act.Ends.within ?_)
  refine (ends.and (keeps _ (.refl _))).imp (fun a journal ok => ?_) (fun _ _ failed => failed.1)
    fun _ _ => trivial
  obtain ⟨answered, entries, rfl⟩ := ok
  exact ⟨answered, entries, rfl⟩

theorem ends_log_noted {severity : Severity} {source message : String} (s : CacheSession δ) :
    (liftM (Journal.log severity source message) : Act (CacheSession δ) Unit).Ends s
      (fun _ t => s.Noted t) (fun _ _ => False) fun _ => True :=
  (ends_noted (Journal.ends_log severity source message _) (Journal.keeps_log _ _ _)).imp
    (fun _ _ ok => ok.2) (fun _ _ failed => failed) fun _ _ => trivial

end CacheSession

/-! ## Refusals -/

variable [Backend δ] {build : Build} {shape : StencilShape} {fault : Fault}

/-- What the refusal of storage leaves of a session: the backend has refused it with a fault of its
    own, and but for reports nothing else has happened. -/
structure Session.Refused (build : Build) (shape : StencilShape) (session : Session δ)
    (fault : Fault) (left : Session δ) : Prop where
  given : Backend.createStencil build shape session.backend = .error (.fault fault) left.backend
  reported : session.journal.Grown left.journal
  rest : left = { session with backend := left.backend, journal := left.journal }

/-- The refusal of storage leaves the cache as it is. -/
structure CacheSession.Refused (build : Build) (shape : StencilShape) (work : CacheSession δ)
    (fault : Fault) (left : CacheSession δ) : Prop where
  cache : left.cache = work.cache
  session : work.session.Refused build shape fault left.session

theorem CacheSession.Noted.refused {work between left : CacheSession δ}
    (noted : work.Noted between) (refused : between.Refused build shape fault left) :
    work.Refused build shape fault left := by
  obtain ⟨entries, rfl⟩ := noted
  obtain ⟨cache, given, ⟨further, reported⟩, rest⟩ := refused
  refine ⟨cache, given, ⟨entries ++ further, ?_⟩, rest⟩
  rw [reported, Journal.noted_append]

/-- An allocation fails at the backend, before anything else has changed. -/
theorem StencilBuffer.ends_allocate_refused (build : Build) (lifeCycle : LifeCycle)
    (shape : StencilShape) (s : Session δ) :
    (allocate build lifeCycle shape : Act (Session δ) StencilBuffer).Ends s (fun _ _ => True)
      (s.Refused build shape) fun _ => True := by
  have called : (Session.onBackend (Backend.createStencil build shape)).Ends s (fun _ _ => True)
      (s.Refused build shape) fun _ => True := by
    apply Act.Ends.within
    unfold Act.Ends
    split
    · trivial
    · next refused => exact ⟨refused, .refl _, rfl⟩
    · trivial
  have stored : (Session.createStencil build shape : Act (Session δ) StencilId).Ends s
      (fun _ _ => True) (s.Refused build shape) fun _ => True :=
    called.bind fun _ _ _ => trivial
  unfold allocate
  refine stored.bind fun storage t _ => ?_
  have logged := Session.ends_report
    (Journal.ends_log .debug component (allocationReport shape storage) t.journal)
  refine logged.unfailing.bind fun _ u _ => ?_
  have wrapped := (stricter_wrap build lifeCycle (some storage) shape).ends
    (ends_wrap lifeCycle (some storage) shape u)
  exact wrapped.unfailing.imp (fun _ _ _ => trivial) (fun _ _ failed => failed) fun _ _ => trivial

namespace CacheSession

theorem ends_allocate_refused (build : Build) (lifeCycle : LifeCycle) (shape : StencilShape)
    (work : CacheSession δ) :
    (allocate build lifeCycle shape : Act (CacheSession δ) ArenaKey).Ends work (fun _ _ => True)
      (work.Refused build shape) fun _ => True := by
  have allocated : (liftM (StencilBuffer.allocate build lifeCycle shape : Act (Session δ) _) :
      Act (CacheSession δ) StencilBuffer).Ends work (fun _ _ => True) (work.Refused build shape)
      fun _ => True := by
    apply Act.Ends.within
    exact (StencilBuffer.ends_allocate_refused build lifeCycle shape work.session).imp
      (fun _ _ _ => trivial) (fun _ _ refused => ⟨rfl, refused⟩) fun _ _ => trivial
  unfold allocate
  refine allocated.bind fun buffer t _ => ?_
  have inserted := (stricter_insert build buffer).ends (ends_insert (s := t) rfl buffer)
  exact inserted.unfailing.ok fun _ _ _ => trivial

/-- A look-up fails only with a fault of the backend, and then has changed nothing. -/
theorem ends_findOrCreate_refused (build : Build) (shape : StencilShape) (work : CacheSession δ) :
    (findOrCreate build shape : Act (CacheSession δ) ArenaKey).Ends work (fun _ _ => True)
      (work.Refused build shape) fun _ => True := by
  unfold findOrCreate
  have keyed := (ScratchKey.stricter_forStencil build shape.width shape.height shape.samples).ends
    (ScratchKey.ends_forStencil shape work.session.journal)
  refine (ends_noted keyed (ScratchKey.keeps_forStencil _ _ _ _)).unfailing.bind
    fun scratch t ok => ?_
  have looked : (findScratch scratch : Act (CacheSession δ) (Option ArenaKey)).Ends t
      (fun found u => found = none → u = t) (fun _ _ => False) fun _ => True := by
    intro absent
    change (t.cache.findScratch scratch).1 = none at absent
    change { t with cache := (t.cache.findScratch scratch).2 } = t
    rw [StencilCache.findScratch_of_none absent]
  refine looked.unfailing.bind fun found u missed => ?_
  cases found with
  | some key => exact (ends_log_noted u).unfailing.bind fun _ _ _ => Act.ends_pure trivial
  | none =>
    obtain rfl := missed rfl
    refine (ends_log_noted u).unfailing.bind fun _ v logged => ?_
    have noted := ok.2.trans logged
    rw [← allocate_bind]
    have allocated := (ends_allocate_refused build .cached shape v).imp (fun _ _ ok => ok)
      (fun _ _ refused => noted.refused refused) fun _ cut => cut
    refine allocated.bind fun key w _ => ?_
    have purged := (stricter_purgeSparing build (some key)).ends
      (@ends_purgeSparing δ _ w (Backend.fixed ‹_› build) rfl (some key))
    have trimmed : (discard (purgeSparing build (some key)) : Act (CacheSession δ) Unit).Ends w
        (fun _ _ => True) (fun _ _ => False) fun _ => True :=
      Act.Ends.discard (purged.ok fun _ _ _ => trivial)
    exact trimmed.unfailing.bind fun _ _ _ => Act.ends_pure trivial

end CacheSession

/-! ## Attachments -/

/-- An attachment that is held beside the cache it goes to. -/
structure Attached (δ : Type) where
  attachment : StencilAttachment
  work : CacheSession δ

namespace Attached

instance : MonadLift (Act (CacheSession δ)) (Act (Attached δ)) where
  monadLift := Act.within (·.work) fun work here => { here with work }

/-- Attaches a buffer for a render target of the given shape, and holds its key in place of the one
    held before. -/
def attach (build : Build) (shape : StencilShape) : Act (Attached δ) ArenaKey := do
  let here ← get
  match here.attachment.fitting? here.work.cache shape with
  | some key => return key
  | none =>
    let key ← (CacheSession.findOrCreate build shape : Act (CacheSession δ) ArenaKey)
    modify fun here => { here with attachment := { key := some key } }
    return key

/-- Whoever holds an attachment puts the one that is answered in its place, and keeps it if none is
    answered. -/
theorem attach_outcome (build : Build) (shape : StencilShape) (here : Attached δ) :
    (attach build shape).outcome here =
      match (here.attachment.attach build shape).outcome here.work with
      | (.ok (key, attachment), work) => (.ok key, ⟨attachment, work⟩)
      | (.error stop, work) => (.error stop, ⟨here.attachment, work⟩) := by
  unfold attach StencilAttachment.attach
  rw [Act.outcome_get_bind, Act.outcome_get_bind]
  cases here.attachment.fitting? here.work.cache shape with
  | some key => rfl
  | none =>
    dsimp only
    cases looked : (CacheSession.findOrCreate build shape).outcome here.work with
    | mk outcome work =>
      have held : (liftM (CacheSession.findOrCreate build shape : Act (CacheSession δ) _) :
          Act (Attached δ) ArenaKey).outcome here = (outcome, ⟨here.attachment, work⟩) :=
        Act.outcome_within looked
      cases outcome with
      | ok key =>
        rw [Act.outcome_bind_of_ok held, Act.outcome_bind_of_ok looked]
        rfl
      | error stop => rw [Act.outcome_bind_of_error held, Act.outcome_bind_of_error looked]

theorem ends_attach_refused (build : Build) (shape : StencilShape) (here : Attached δ) :
    (attach build shape).Ends here (fun _ _ => True)
      (fun fault left => left.attachment = here.attachment ∧
        here.work.Refused build shape fault left.work) fun _ => True := by
  unfold attach
  apply Act.ends_get_bind
  split
  · exact Act.ends_pure trivial
  · have looked : (liftM (CacheSession.findOrCreate build shape : Act (CacheSession δ) _) :
        Act (Attached δ) ArenaKey).Ends here (fun _ _ => True)
        (fun fault left => left.attachment = here.attachment ∧
          here.work.Refused build shape fault left.work) fun _ => True := by
      apply Act.Ends.within
      exact (CacheSession.ends_findOrCreate_refused build shape here.work).imp
        (fun _ _ _ => trivial) (fun _ _ refused => ⟨rfl, refused⟩) fun _ _ => trivial
    exact looked.bind fun _ _ _ => Act.ends_modify_bind (Act.ends_pure trivial)

end Attached

/-! ## Two backends -/

omit [Backend δ]

/-- The software backend refuses storage for want of memory alone, and leaves everything as it is. -/
theorem Software.eq_of_refused {gpu left : Software}
    (refused : Backend.createStencil build shape gpu = .error (.fault fault) left) :
    fault = .outOfMemory ∧ left = gpu := by
  have ends : (Backend.createStencil build shape : Act Software StencilId).Ends gpu
      (fun _ _ => True) (fun fault left => fault = .outOfMemory ∧ left = gpu) fun _ => True := by
    simp only [Backend.createStencil]
    refine Act.ends_check_bind (fun size _ => Act.ends_get_bind ?_) fun _ _ => trivial
    cases gpu.stencilLimit with
    | none => trivial
    | some limit =>
      dsimp only
      refine Act.ends_check_bind (fun held _ => ?_) fun _ _ => trivial
      split
      · exact ⟨rfl, rfl⟩
      · trivial
  rw [Act.Ends, refused] at ends
  exact ends

theorem Recorder.eq_of_refused {recorder left : Recorder}
    (refused : Backend.createStencil build shape recorder = .error (.fault fault) left) :
    fault = .outOfMemory ∧ left = recorder := by
  have ends : (Backend.createStencil build shape : Act Recorder StencilId).Ends recorder
      (fun _ _ => True) (fun fault left => fault = .outOfMemory ∧ left = recorder)
      fun _ => True := by
    simp only [Backend.createStencil]
    apply Act.ends_get_bind
    split
    · exact ⟨rfl, rfl⟩
    · trivial
  rw [Act.Ends, refused] at ends
  exact ends

/-- A look-up that fails, and an attachment that fails to be given a buffer, in whatever state and in
    either build, fail with the fault of the backend that refused the storage. The cache, the
    counters, and the key that the attachment holds are what they were before, and the backend was
    not asked for anything else. The software backend and the one that records are left as they
    were, so that only reports have been made. -/
theorem refused_changes_nothing [Backend δ] (build : Build) (shape : StencilShape)
    (here : Attached δ) :
    (CacheSession.findOrCreate build shape).Ends here.work (fun _ _ => True)
      (here.work.Refused build shape) (fun _ => True) ∧
    (Attached.attach build shape).Ends here (fun _ _ => True)
      (fun fault left => left.attachment = here.attachment ∧
        here.work.Refused build shape fault left.work) (fun _ => True) ∧
    (∀ (work left : CacheSession δ) (fault : Fault), work.Refused build shape fault left →
      left.cache = work.cache ∧ left.session.stats = work.session.stats ∧
        Backend.createStencil build shape work.session.backend =
          .error (.fault fault) left.session.backend) ∧
    (∀ (work left : CacheSession Software) (fault : Fault), work.Refused build shape fault left →
      fault = .outOfMemory ∧ left.session.backend = work.session.backend ∧ work.Noted left) ∧
    (∀ (work left : CacheSession Recorder) (fault : Fault), work.Refused build shape fault left →
      fault = .outOfMemory ∧ left.session.backend = work.session.backend ∧ work.Noted left) := by
  have noted : ∀ {γ : Type} [Backend γ] {work left : CacheSession γ} {fault : Fault},
      work.Refused build shape fault left → left.session.backend = work.session.backend →
        work.Noted left := by
    intro γ _ work left fault refused backend
    obtain ⟨cache, -, ⟨entries, reported⟩, rest⟩ := refused
    refine ⟨entries, ?_⟩
    rw [backend, reported] at rest
    rw [← cache, ← rest]
  refine ⟨CacheSession.ends_findOrCreate_refused build shape here.work,
    here.ends_attach_refused build shape, fun work left fault refused => ?_,
    fun work left fault refused => ?_, fun work left fault refused => ?_⟩
  · refine ⟨refused.cache, ?_, refused.session.given⟩
    rw [refused.session.rest]
  · obtain ⟨memory, backend⟩ := Software.eq_of_refused refused.session.given
    exact ⟨memory, backend, noted refused backend⟩
  · obtain ⟨memory, backend⟩ := Recorder.eq_of_refused refused.session.given
    exact ⟨memory, backend, noted refused backend⟩

/-- A target that has grown is refused a larger buffer. The one it holds stays in the cache. -/
theorem refused_after_growth : ∃ here left : Attached Software,
    Reachable .release {} here.work ∧ here.attachment = ⟨some ⟨1, 1⟩⟩ ∧
      (Attached.attach .release ⟨256, 256, 8, 0⟩).outcome here =
        (.error (.fault .outOfMemory), left) ∧
      left.attachment = here.attachment ∧ left.work.cache = here.work.cache ∧
      left.work.cache.contains ⟨1, 1⟩ ∧ left.work.session.backend = here.work.session.backend ∧
      left.work.session.stats.stencils = 1 := by
  have start : Run .release
      (⟨{ budget := {} }, .software (some 1024)⟩ : CacheSession Software) [] _ := .nil
  have first := start.next (.attach .detached ⟨16, 8, 8, 0⟩) (.ok (⟨1, 1⟩, ⟨some ⟨1, 1⟩⟩))
    (by decide +kernel)
  obtain ⟨work, reached, failed, live, counted⟩ : ∃ work : CacheSession Software,
      Reachable .release {} work ∧
        ((Attached.attach .release ⟨256, 256, 8, 0⟩).outcome
          (⟨⟨some ⟨1, 1⟩⟩, work⟩ : Attached Software)).1 = .error (.fault .outOfMemory) ∧
        work.cache.contains ⟨1, 1⟩ ∧ work.session.stats.stencils = 1 :=
    ⟨_, first.reachable, by decide +kernel⟩
  obtain ⟨-, ends, unchanged, software, -⟩ := refused_changes_nothing .release ⟨256, 256, 8, 0⟩
    (⟨⟨some ⟨1, 1⟩⟩, work⟩ : Attached Software)
  have ended : (Attached.attach .release ⟨256, 256, 8, 0⟩).outcome
      (⟨⟨some ⟨1, 1⟩⟩, work⟩ : Attached Software) = (.error (.fault .outOfMemory), _) :=
    Prod.ext failed rfl
  rw [Act.ends_iff_outcome, ended] at ends
  obtain ⟨held, refused⟩ := ends
  obtain ⟨cache, stats, -⟩ := unchanged work _ _ refused
  obtain ⟨-, backend, -⟩ := software work _ _ refused
  exact ⟨_, _, reached, rfl, ended, held, cache, cache ▸ live, backend, stats ▸ counted⟩

end RenderCore
