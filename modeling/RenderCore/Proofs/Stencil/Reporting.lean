import RenderCore.Proofs.Journal.Notes
import RenderCore.Proofs.Stencil.Operations

/-!
# Operations report and do no more

In any build, with any logger, an operation on a cache leaves the journal as it is but for the
entries that it reports, however it ends. It never puts another logger in charge.
-/

namespace RenderCore

variable {δ α : Type}

/-! ## Journals with more entries -/

namespace Journal

/-- The journal has come from an earlier one by entries alone. -/
def Grown (earlier journal : Journal) : Prop := ∃ entries, journal = earlier.noted entries

variable {earlier journal : Journal}

theorem Grown.refl (journal : Journal) : journal.Grown journal := ⟨[], rfl⟩

theorem Grown.note (grown : earlier.Grown journal) (entry : Entry) :
    earlier.Grown (journal.note entry) := by
  obtain ⟨entries, rfl⟩ := grown
  exact ⟨entries ++ [entry], (noted_append entries [entry]).symm⟩

theorem keeps_write (entry : Entry) : (write entry).Keeps earlier.Grown := by
  intro journal grown
  rw [Act.ends_iff_outcome, write_outcome]
  unfold heeded
  cases journal.alarmed [entry] <;> exact grown.note entry

theorem keeps_log (severity : Severity) (source message : String) :
    (log severity source message).Keeps earlier.Grown :=
  keeps_write _

end Journal

/-- What comes from an earlier journal by entries alone. -/
def Session.Reporting (earlier : Journal) (session : Session δ) : Prop :=
  earlier.Grown session.journal

def CacheSession.Reporting (earlier : Journal) (work : CacheSession δ) : Prop :=
  work.session.Reporting earlier

variable {earlier : Journal}

theorem Session.keeps_report {act : Act Journal α} (keeps : act.Keeps earlier.Grown) :
    (liftM act : Act (Session δ) α).Keeps (Session.Reporting earlier) :=
  keeps.within (fun _ start => start) fun _ _ _ left => left

theorem Session.keeps_onBackend (call : Act δ α) :
    (onBackend call).Keeps (Session.Reporting earlier) :=
  (Act.keeps_true call).within (fun _ _ => trivial) fun _ _ start _ => start

namespace CacheSession

theorem keeps_session {act : Act (Session δ) α} (keeps : act.Keeps (Session.Reporting earlier)) :
    (liftM act : Act (CacheSession δ) α).Keeps (Reporting earlier) :=
  keeps.within (fun _ start => start) fun _ _ _ left => left

theorem keeps_report {act : Act Journal α} (keeps : act.Keeps earlier.Grown) :
    (liftM act : Act (CacheSession δ) α).Keeps (Reporting earlier) :=
  keeps_session (Session.keeps_report keeps)

theorem keeps_log (severity : Severity) (source message : String) :
    (liftM (Journal.log severity source message) : Act (CacheSession δ) Unit).Keeps
      (Reporting earlier) :=
  keeps_report (Journal.keeps_log severity source message)

theorem keeps_edit (change : StencilCache → StencilCache) :
    (edit change : Act (CacheSession δ) Unit).Keeps (Reporting earlier) :=
  Act.keeps_modify fun _ start => start

end CacheSession

/-! ## Buffers -/

theorem ScratchKey.keeps_forStencil (build : Build) (width height samples : UInt32) :
    (ScratchKey.forStencil build width height samples).Keeps earlier.Grown := by
  unfold ScratchKey.forStencil
  split
  · refine (Act.keeps_check _).bind fun _ => ?_
    exact (Journal.keeps_log _ _ _).bind fun _ => Act.keeps_pure _
  · exact Act.keeps_pure _

namespace StencilBuffer

theorem keeps_drop (buffer : StencilBuffer) : buffer.drop.Keeps earlier.Grown := by
  unfold drop
  split
  · exact Journal.keeps_log _ _ _
  · exact Act.keeps_pure _

theorem keeps_wrap (build : Build) (lifeCycle : LifeCycle) (origin : Option StencilId)
    (shape : StencilShape) :
    (wrap build lifeCycle origin shape : Act (Session δ) StencilBuffer).Keeps
      (Session.Reporting earlier) := by
  have named : (ResourceHeader.create lifeCycle : Act (Session δ) ResourceHeader).Keeps
      (Session.Reporting earlier) := fun _ start => start
  unfold wrap
  refine (Act.keeps_check _).bind fun _ => (Act.keeps_check _).bind fun _ => ?_
  refine named.bind fun header => ?_
  split
  · refine (Session.keeps_report (ScratchKey.keeps_forStencil build _ _ _)).bind fun key => ?_
    exact (Act.keeps_check _).bind fun _ => Act.keeps_pure _
  · exact Act.keeps_pure _

variable [Backend δ]

theorem keeps_allocate (build : Build) (lifeCycle : LifeCycle) (shape : StencilShape) :
    (allocate build lifeCycle shape : Act (Session δ) StencilBuffer).Keeps
      (Session.Reporting earlier) := by
  have stored : (Session.createStencil build shape : Act (Session δ) StencilId).Keeps
      (Session.Reporting earlier) := by
    unfold Session.createStencil
    exact (Session.keeps_onBackend _).bind fun storage _ start => start
  unfold allocate
  refine stored.bind fun storage => ?_
  refine (Session.keeps_report (Journal.keeps_log _ _ _)).bind fun _ => ?_
  exact keeps_wrap build lifeCycle (some storage) shape

theorem keeps_release (buffer : StencilBuffer) :
    (buffer.release : Act (Session δ) StencilBuffer).Keeps (Session.Reporting earlier) := by
  unfold release
  split
  · exact (Session.keeps_onBackend _).bind fun _ => Act.keeps_pure _
  · exact Act.keeps_pure _

end StencilBuffer

/-! ## The cache -/

namespace CacheSession

theorem keeps_access (key : ArenaKey) :
    (access key : Act (CacheSession δ) (Option StencilBuffer)).Keeps (Reporting earlier) := by
  unfold access
  exact (keeps_edit _).bind fun _ => Act.keeps_get_bind fun _ => Act.keeps_pure _

theorem keeps_setClip (key : ArenaKey) (clip : ClipRecord) :
    (setClip key clip : Act (CacheSession δ) Bool).Keeps (Reporting earlier) := by
  unfold setClip
  refine (keeps_access key).bind fun found => ?_
  cases found with
  | none => exact Act.keeps_pure _
  | some buffer => exact (keeps_edit _).bind fun _ => Act.keeps_pure _

theorem keeps_insert (build : Build) (buffer : StencilBuffer) :
    (insert build buffer : Act (CacheSession δ) ArenaKey).Keeps (Reporting earlier) := by
  unfold insert
  refine (keeps_edit _).bind fun _ => Act.keeps_get_bind fun work => ?_
  refine ((Act.keeps_check _).onPanic (keeps_report buffer.keeps_drop)).bind fun _ => ?_
  exact Act.keeps_modifyGet fun _ start => start

theorem keeps_countOut (build : Build) (buffer : StencilBuffer) :
    (countOut build buffer : Act (CacheSession δ) Unit).Keeps (Reporting earlier) := by
  unfold countOut
  refine Act.keeps_get_bind fun work => (Act.keeps_check _).bind fun _ => ?_
  exact (keeps_edit _).bind fun _ => keeps_log _ _ _

end CacheSession

namespace StencilAttachment

theorem keeps_letGo (key : ArenaKey) :
    (letGo key : Act (CacheSession δ) StencilAttachment).Keeps (CacheSession.Reporting earlier) := by
  unfold letGo
  exact (CacheSession.keeps_log _ _ _).bind fun _ => Act.keeps_pure _

theorem keeps_resolve (attachment : StencilAttachment) :
    (attachment.resolve : Act (CacheSession δ) _).Keeps (CacheSession.Reporting earlier) := by
  unfold resolve
  split
  · exact Act.keeps_pure _
  · refine Act.keeps_get_bind fun work => ?_
    split
    · exact Act.keeps_pure _
    · exact (keeps_letGo _).bind fun _ => Act.keeps_pure _

theorem keeps_access (attachment : StencilAttachment) :
    (attachment.access : Act (CacheSession δ) _).Keeps (CacheSession.Reporting earlier) := by
  unfold access
  split
  · exact Act.keeps_pure _
  · refine Act.keeps_get_bind fun work => ?_
    split
    · exact (CacheSession.keeps_access _).bind fun _ => Act.keeps_pure _
    · exact (keeps_letGo _).bind fun _ => Act.keeps_pure _

theorem keeps_setClip (attachment : StencilAttachment) (clip : ClipRecord) :
    (attachment.setClip clip : Act (CacheSession δ) _).Keeps (CacheSession.Reporting earlier) := by
  unfold setClip
  refine (keeps_access attachment).bind fun answer => ?_
  dsimp only
  split
  · exact (CacheSession.keeps_edit _).bind fun _ => Act.keeps_pure _
  · exact Act.keeps_pure _

end StencilAttachment

variable [Backend δ]

namespace CacheSession

theorem keeps_releaseInPlace (key : ArenaKey) :
    (releaseInPlace key : Act (CacheSession δ) Bool).Keeps (Reporting earlier) := by
  unfold releaseInPlace
  refine (keeps_access key).bind fun found => ?_
  cases found with
  | none => exact Act.keeps_pure _
  | some buffer =>
    refine (keeps_session buffer.keeps_release).bind fun left => ?_
    exact (keeps_edit _).bind fun _ => Act.keeps_pure _

theorem keeps_evict (build : Build) (key : ArenaKey) :
    (evict build key : Act (CacheSession δ) Bool).Keeps (Reporting earlier) := by
  unfold evict
  refine Act.keeps_get_bind fun work => ?_
  cases work.cache.remove? key with
  | none => exact Act.keeps_pure _
  | some pair =>
    refine (keeps_edit _).bind fun _ => ?_
    refine ((keeps_countOut build pair.1).onPanic (keeps_report pair.1.keeps_drop)).bind fun _ => ?_
    exact (keeps_session pair.1.keeps_release).discard.bind fun _ => Act.keeps_pure _

theorem keeps_evictAll (build : Build) (keys : List ArenaKey) :
    (keys.forM fun key => discard (evict build key) : Act (CacheSession δ) Unit).Keeps
      (Reporting earlier) :=
  Act.keeps_forM fun key => (keeps_evict build key).discard

theorem keeps_purgeSparing (build : Build) (keep : Option ArenaKey) :
    (purgeSparing build keep : Act (CacheSession δ) Nat).Keeps (Reporting earlier) := by
  unfold purgeSparing
  refine Act.keeps_get_bind fun _ => ?_
  exact (keeps_evictAll build _).bind fun _ => Act.keeps_pure _

theorem keeps_findOrCreate (build : Build) (shape : StencilShape) :
    (findOrCreate build shape : Act (CacheSession δ) ArenaKey).Keeps (Reporting earlier) := by
  have looked (scratch : ScratchKey) : (findScratch scratch : Act (CacheSession δ) _).Keeps
      (Reporting earlier) := Act.keeps_modifyGet fun _ start => start
  unfold findOrCreate
  refine (keeps_report (ScratchKey.keeps_forStencil build _ _ _)).bind fun scratch => ?_
  refine (looked scratch).bind fun found => ?_
  cases found with
  | some key => exact (keeps_log _ _ _).bind fun _ => Act.keeps_pure _
  | none =>
    refine (keeps_log _ _ _).bind fun _ => ?_
    refine (keeps_session (StencilBuffer.keeps_allocate build _ _)).bind fun buffer => ?_
    refine (keeps_insert build buffer).bind fun key => ?_
    exact (keeps_purgeSparing build _).discard.bind fun _ => Act.keeps_pure _

end CacheSession

theorem StencilAttachment.keeps_attach (build : Build) (attachment : StencilAttachment)
    (shape : StencilShape) :
    (attachment.attach build shape : Act (CacheSession δ) _).Keeps
      (CacheSession.Reporting earlier) := by
  unfold attach
  refine Act.keeps_get_bind fun work => ?_
  split
  · exact Act.keeps_pure _
  · exact (CacheSession.keeps_findOrCreate build shape).bind fun _ => Act.keeps_pure _

namespace Operation

/-- What a program does to its session away from the cache leaves the journal alone. -/
def Discreet : Operation δ α → Prop
  | .elsewhere change => ∀ session, (change session).journal = session.journal
  | _ => True

/-- Operations report and do no more to the journal. -/
theorem keeps_act (build : Build) {operation : Operation δ α} (discreet : operation.Discreet) :
    (operation.act build).Keeps (CacheSession.Reporting earlier) := by
  cases operation with
  | insert buffer keyed => exact CacheSession.keeps_insert build buffer
  | allocate lifeCycle shape =>
    refine (CacheSession.keeps_session (StencilBuffer.keeps_allocate build lifeCycle shape)).bind ?_
    exact fun buffer => CacheSession.keeps_insert build buffer
  | findScratch scratch => exact Act.keeps_modifyGet fun _ start => start
  | findOrCreate shape => exact CacheSession.keeps_findOrCreate build shape
  | find key => exact Act.keeps_get_bind fun _ => Act.keeps_pure _
  | contains key => exact Act.keeps_get_bind fun _ => Act.keeps_pure _
  | access key => exact CacheSession.keeps_access key
  | setClip key clip => exact CacheSession.keeps_setClip key clip
  | releaseInPlace key => exact CacheSession.keeps_releaseInPlace key
  | evict key => exact CacheSession.keeps_evict build key
  | purge => exact CacheSession.keeps_purgeSparing build none
  | purgeAll => exact Act.keeps_get_bind fun _ => CacheSession.keeps_evictAll build _
  | abandonAll => exact CacheSession.keeps_edit (·.abandonAll)
  | setBudget budget => exact CacheSession.keeps_edit (·.setBudget budget)
  | attach attachment shape => exact StencilAttachment.keeps_attach build attachment shape
  | resolve attachment => exact StencilAttachment.keeps_resolve attachment
  | accessAttached attachment => exact StencilAttachment.keeps_access attachment
  | setClipAttached attachment clip => exact StencilAttachment.keeps_setClip attachment clip
  | elsewhere change =>
    refine Act.keeps_modify fun work start => ?_
    unfold CacheSession.Reporting Session.Reporting
    rw [discreet]
    exact start

end Operation

end RenderCore
