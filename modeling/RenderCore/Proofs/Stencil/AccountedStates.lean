import RenderCore.Proofs.Stencil.ByteAccounts

/-!
# Bytes stay accounted for

However an operation ends, in either build, it leaves the bytes of the cache accounted for. So they
are in every state that a program can reach, also where an operation was cut short before.
-/

namespace RenderCore

variable {δ α : Type} {build : Build}

/-- The cache of the session is coherent, and what a debug build checks about its bytes holds. -/
def CacheSession.Accounted (build : Build) (work : CacheSession δ) : Prop :=
  work.cache.Accounted build

namespace CacheSession

/-! ## Steps -/

theorem keeps_session_accounted (act : Act (Session δ) α) :
    (liftM act : Act (CacheSession δ) α).Keeps (Accounted build) :=
  (Act.keeps_true act).within (fun _ _ => trivial) fun _ _ accounted _ => accounted

theorem keeps_edit_accounted {change : StencilCache → StencilCache}
    (kept : ∀ cache : StencilCache, cache.Accounted build → (change cache).Accounted build) :
    (edit change : Act (CacheSession δ) Unit).Keeps (Accounted build) :=
  Act.keeps_modify fun _ accounted => kept _ accounted

theorem keeps_access_accounted (key : ArenaKey) :
    (access key : Act (CacheSession δ) (Option StencilBuffer)).Keeps (Accounted build) := by
  unfold access
  refine (keeps_edit_accounted fun cache accounted => accounted.touch key).bind fun _ => ?_
  exact Act.keeps_get_bind fun _ => Act.keeps_pure _

theorem keeps_findScratch_accounted (scratch : ScratchKey) :
    (findScratch scratch : Act (CacheSession δ) (Option ArenaKey)).Keeps (Accounted build) :=
  Act.keeps_modifyGet fun _ accounted => StencilCache.Accounted.findScratch accounted scratch

/-- A buffer is only counted in where its size can be counted out again. -/
theorem keeps_insert_accounted {buffer : StencilBuffer} (keyed : buffer.Keyed) :
    (insert build buffer : Act (CacheSession δ) ArenaKey).Keeps (Accounted build) := by
  intro work accounted
  unfold insert
  refine Act.ends_modify_bind (Act.ends_get_bind ?_)
  have ticked : Accounted build { work with cache := work.cache.tick } := accounted.tick
  have counted : (liftM (totalWith build work.cache.tick buffer) : Act (CacheSession δ) UInt64).Ends
      { work with cache := work.cache.tick }
      (fun total t => totalWith build work.cache.tick buffer = .ok total ∧
        t = { work with cache := work.cache.tick })
      (fun _ => Accounted build) (Accounted build) := by
    cases totalWith build work.cache.tick buffer with
    | ok total => exact ⟨rfl, rfl⟩
    | error panic => exact ticked
  refine (counted.onPanic fun t left => keeps_session_accounted _ t left).bind fun total t ok => ?_
  obtain ⟨counted, rfl⟩ := ok
  exact StencilCache.Accounted.placed accounted keyed counted

variable [Backend δ]

theorem keeps_handle_accounted (key : ArenaKey) (handling : Handling) :
    (handle key handling : Act (CacheSession δ) Bool).Keeps (Accounted build) := by
  refine Act.keeps_of_outcome fun work accounted => ?_
  have touched : (work.cache.touch key).Accounted build := accounted.touch key
  rw [handle_outcome]
  cases work.cache.find? key with
  | none => exact touched
  | some buffer => exact touched.revise key handling.same_after

theorem keeps_evict_accounted (key : ArenaKey) :
    (evict build key : Act (CacheSession δ) Bool).Keeps (Accounted build) := by
  refine Act.keeps_of_outcome fun work accounted => ?_
  rw [evict_outcome accounted]
  cases work.cache.find? key with
  | none => exact accounted
  | some buffer => exact StencilCache.Accounted.discharge accounted key

theorem keeps_evictAll_accounted (keys : List ArenaKey) :
    (keys.forM fun key => discard (evict build key) : Act (CacheSession δ) PUnit).Keeps
      (Accounted build) :=
  Act.keeps_forM fun key => (keeps_evict_accounted key).discard

theorem keeps_purgeSparing_accounted (keep : Option ArenaKey) :
    (purgeSparing build keep : Act (CacheSession δ) Nat).Keeps (Accounted build) := by
  unfold purgeSparing
  refine Act.keeps_get_bind fun _ => ?_
  exact (keeps_evictAll_accounted _).bind fun _ => Act.keeps_pure _

theorem keeps_allocate_accounted (lifeCycle : LifeCycle) (shape : StencilShape) :
    (allocate build lifeCycle shape : Act (CacheSession δ) ArenaKey).Keeps (Accounted build) := by
  intro work accounted
  have allocated := (StencilBuffer.stricter_allocate build lifeCycle shape).ends
    (@StencilBuffer.ends_allocate δ (Backend.fixed ‹_› build) lifeCycle shape work.session)
  have made : (liftM (StencilBuffer.allocate build lifeCycle shape :
      Act (Session δ) StencilBuffer) : Act (CacheSession δ) StencilBuffer).Ends work
      (fun buffer t => buffer.Keyed ∧ Accounted build t) (fun _ => Accounted build)
      (Accounted build) := by
    apply Act.Ends.within
    refine allocated.imp (fun buffer t ok => ⟨?_, accounted⟩) (fun _ _ _ => accounted)
      fun _ _ => accounted
    obtain ⟨id, storage, -, rfl⟩ := ok
    exact StencilBuffer.keyed_made id lifeCycle (some storage) shape
  unfold allocate
  exact made.bind fun buffer t ok => keeps_insert_accounted ok.1 t ok.2

theorem keeps_findOrCreate_accounted (shape : StencilShape) :
    (findOrCreate build shape : Act (CacheSession δ) ArenaKey).Keeps (Accounted build) := by
  unfold findOrCreate
  refine (keeps_session_accounted _).bind fun scratch => ?_
  refine (keeps_findScratch_accounted scratch).bind fun found => ?_
  cases found with
  | some key => exact (keeps_session_accounted _).bind fun _ => Act.keeps_pure _
  | none =>
    refine (keeps_session_accounted _).bind fun _ => ?_
    rw [← allocate_bind]
    refine (keeps_allocate_accounted .cached shape).bind fun key => ?_
    exact (keeps_purgeSparing_accounted _).discard.bind fun _ => Act.keeps_pure _

end CacheSession

/-! ## Attachments -/

namespace StencilAttachment

open CacheSession

theorem keeps_letGo_accounted (key : ArenaKey) :
    (letGo key : Act (CacheSession δ) StencilAttachment).Keeps (Accounted build) := by
  unfold letGo
  exact (keeps_session_accounted _).bind fun _ => Act.keeps_pure _

theorem keeps_resolve_accounted (attachment : StencilAttachment) :
    (attachment.resolve : Act (CacheSession δ) _).Keeps (Accounted build) := by
  unfold resolve
  split
  · exact Act.keeps_pure _
  · refine Act.keeps_get_bind fun work => ?_
    split
    · exact Act.keeps_pure _
    · exact (keeps_letGo_accounted _).bind fun _ => Act.keeps_pure _

theorem keeps_access_accounted (attachment : StencilAttachment) :
    (attachment.access : Act (CacheSession δ) _).Keeps (Accounted build) := by
  unfold access
  split
  · exact Act.keeps_pure _
  · refine Act.keeps_get_bind fun work => ?_
    split
    · exact (CacheSession.keeps_access_accounted _).bind fun _ => Act.keeps_pure _
    · exact (keeps_letGo_accounted _).bind fun _ => Act.keeps_pure _

theorem keeps_setClip_accounted (attachment : StencilAttachment) (clip : ClipRecord) :
    (attachment.setClip clip : Act (CacheSession δ) _).Keeps (Accounted build) := by
  intro work accounted
  unfold setClip
  have accessed := (attachment.keeps_access_accounted work accounted).and (ends_access rfl attachment)
  refine (accessed.imp (fun _ _ ok => ok) (fun _ _ failed => failed.1) fun _ cut => cut.1).bind
    fun answer t ok => ?_
  obtain ⟨left, rfl, holding⟩ := ok
  obtain ⟨key⟩ := attachment
  cases key with
  | none => exact left
  | some key =>
    have cache : t.cache = used ⟨some key⟩ work.cache := congrArg Holding.cache holding
    rw [show work.holding.cache = work.cache from rfl]
    cases live : work.cache.find? key with
    | none =>
      rw [resolved_of_none live]
      exact left
    | some buffer =>
      have found : t.cache.find? key = some buffer := by rw [cache, find?_used, live]
      have recorded := StencilCache.Accounted.revise left key fun buffer => buffer.same_clip clip
      rw [StencilCache.revise, found] at recorded
      rw [resolved_of_some live]
      exact recorded

theorem keeps_attach_accounted [Backend δ] (attachment : StencilAttachment)
    (shape : StencilShape) :
    (attachment.attach build shape : Act (CacheSession δ) _).Keeps (Accounted build) := by
  unfold attach
  refine Act.keeps_get_bind fun work => ?_
  split
  · exact Act.keeps_pure _
  · exact (keeps_findOrCreate_accounted shape).bind fun _ => Act.keeps_pure _

end StencilAttachment

/-! ## Programs -/

variable [Backend δ]

/-- However an operation ends, the bytes stay accounted for. -/
theorem Operation.keeps_act_accounted (operation : Operation δ α) :
    (operation.act build).Keeps (CacheSession.Accounted build) := by
  cases operation with
  | insert buffer keyed => exact CacheSession.keeps_insert_accounted keyed
  | allocate lifeCycle shape => exact CacheSession.keeps_allocate_accounted lifeCycle shape
  | findScratch scratch => exact CacheSession.keeps_findScratch_accounted scratch
  | findOrCreate shape => exact CacheSession.keeps_findOrCreate_accounted shape
  | find key => exact Act.keeps_get_bind fun _ => Act.keeps_pure _
  | contains key => exact Act.keeps_get_bind fun _ => Act.keeps_pure _
  | access key => exact CacheSession.keeps_access_accounted key
  | setClip key clip =>
    rw [act, ← CacheSession.handle_record]
    exact CacheSession.keeps_handle_accounted key (.record clip)
  | releaseInPlace key =>
    rw [act, ← CacheSession.handle_release]
    exact CacheSession.keeps_handle_accounted key .release
  | evict key => exact CacheSession.keeps_evict_accounted key
  | purge => exact CacheSession.keeps_purgeSparing_accounted none
  | purgeAll => exact Act.keeps_get_bind fun _ => CacheSession.keeps_evictAll_accounted _
  | abandonAll => exact CacheSession.keeps_edit_accounted fun _ accounted => accounted.abandonAll
  | setBudget budget =>
    exact CacheSession.keeps_edit_accounted fun _ accounted => accounted.setBudget budget
  | attach attachment shape => exact attachment.keeps_attach_accounted shape
  | resolve attachment => exact attachment.keeps_resolve_accounted
  | accessAttached attachment => exact attachment.keeps_access_accounted
  | setClipAttached attachment clip => exact attachment.keeps_setClip_accounted clip
  | elsewhere change => exact Act.keeps_modify fun _ accounted => accounted

/-- In every state of a program the bytes of the cache are accounted for. -/
theorem Reachable.accounted {budget : CacheBudget} {work : CacheSession δ}
    (reached : Reachable build budget work) : work.cache.Accounted build := by
  induction reached with
  | start session => exact StencilCache.accounted_empty build budget
  | step operation reached ended ih =>
    have left := operation.keeps_act_accounted.outcome ih
    rw [ended] at left
    exact left

end RenderCore
