import RenderCore.Proofs.Stencil.ArrangedCaches
import RenderCore.Proofs.Stencil.KeyHistory
import RenderCore.Proofs.Stencil.Moves

/-!
# The cache's operations as moves

In either build, and however it ends, each operation of a cache within a session comes to moves:
reports, requests for storage, buffers that come, are handled and leave. A state is reached when
moves of a permitted kind lead to it from a first scene, and the cache is in order there. What an
operation answers tells which events are among its moves; where it panics, no event but the last is
left half done.
-/

namespace RenderCore

variable {δ α : Type}

theorem StencilBuffer.lossEntry_ne {entry : Entry} (mild : entry.severity ≠ .warn)
    (storage : StencilId) : entry ≠ lossEntry storage := by
  rintro rfl
  exact mild rfl

variable [backend : Backend δ] {build : Build} {may : Move δ → Prop} {events : List Event}
  {first : Scene δ}

/-- Permitted moves lead to the journal of a session and to the buffers and the backend given. -/
def Journal.Reached (build : Build) (may : Move δ → Prop) (events : List Event) (first : Scene δ)
    (find : ArenaKey → Option StencilBuffer) (backend : δ) (journal : Journal) : Prop :=
  Reaches build may events first ⟨find, backend, journal⟩

/-- Permitted moves lead to the backend and the journal of a session and to the buffers given. -/
def Session.Reached (build : Build) (may : Move δ → Prop) (events : List Event) (first : Scene δ)
    (find : ArenaKey → Option StencilBuffer) (session : Session δ) : Prop :=
  session.journal.Reached build may events first find session.backend

/-- Permitted moves lead to the present scene in the course of some events, none of which is left
    half done, and the cache is in order. -/
structure CacheSession.Reached (build : Build) (may : Move δ → Prop) (events : List Event)
    (first : Scene δ) (work : CacheSession δ) : Prop where
  arranged : work.cache.Arranged
  reached : work.session.Reached build may events first work.cache.find?
  whole : ∀ event ∈ events, event.Whole

/-- Permitted moves lead to where an operation was cut short, which only the last event may show. -/
structure CacheSession.CutShort (build : Build) (may : Move δ → Prop) (first : Scene δ)
    (work : CacheSession δ) : Prop where
  arranged : work.cache.Arranged
  reached : ∃ events, work.session.Reached build may events first work.cache.find? ∧
    ∀ event ∈ events.dropLast, event.Whole

theorem CacheSession.Reached.cutShort {work : CacheSession δ}
    (reached : Reached build may events first work) : CutShort build may first work where
  arranged := reached.arranged
  reached := ⟨events, reached.reached, fun event member =>
    reached.whole event (List.dropLast_subset _ member)⟩

section reports

variable (reports : ∀ entry, may (.report entry)) {find : ArenaKey → Option StencilBuffer}

/-! ## Reports -/

namespace Journal

include reports in
theorem keeps_write_reached {backend : δ} {entry : Entry}
    (other : ∀ storage, entry ≠ StencilBuffer.lossEntry storage) :
    (write entry).Keeps (Reached build may events first find backend) := by
  refine Act.keeps_of_outcome fun journal start => ?_
  rw [write_outcome]
  exact start.aside (.report other) (reports entry) rfl

include reports in
theorem keeps_log_reached {backend : δ} {severity : Severity} (mild : severity ≠ .warn)
    (source message : String) :
    (log severity source message).Keeps (Reached build may events first find backend) :=
  keeps_write_reached reports (StencilBuffer.lossEntry_ne mild)

end Journal

include reports in
theorem ScratchKey.keeps_forStencil_reached {backend : δ} (width height samples : UInt32) :
    (ScratchKey.forStencil build width height samples).Keeps
      (Journal.Reached build may events first find backend) := by
  -- The report of an outsized shape is a warning about a stencil buffer as well.
  have other : ∀ (size : String) (storage : StencilId),
      ({ severity := .warn, source := "canvas2d::StencilBuffer",
         message := "Stencil size " ++ size ++ " exceeds 16 bits, using an unpacked key" } :
        Entry) ≠ StencilBuffer.lossEntry storage := by
    intro size storage same
    have text := congrArg (fun entry : Entry => entry.message.toList[8]?) same
    simp [StencilBuffer.lossEntry, String.toList_append] at text
  unfold forStencil
  split
  · refine (Act.keeps_check _).bind fun _ => ?_
    exact (Journal.keeps_write_reached reports (other _)).bind fun _ => Act.keeps_pure _
  · exact Act.keeps_pure _

/-! ## The session -/

namespace Session

theorem keeps_report_reached {act : Act Journal α}
    (keeps : ∀ backend, act.Keeps (Journal.Reached build may events first find backend)) :
    (liftM act : Act (Session δ) α).Keeps (Reached build may events first find) :=
  fun session start => Act.Ends.within <| (keeps session.backend session.journal start).imp
    (fun _ _ left => left) (fun _ _ left => left) fun _ left => left

theorem keeps_createStencil_reached {shape : StencilShape} (asks : may (.ask shape)) :
    (createStencil build shape : Act (Session δ) StencilId).Keeps
      (Reached build may events first find) := by
  have called : (onBackend (Backend.createStencil build shape)).Keeps
      (Reached build may events first find) := by
    refine Act.keeps_of_outcome fun session start => ?_
    rw [show (onBackend (Backend.createStencil build shape)).outcome session = _ from
      Act.outcome_within rfl]
    exact start.aside .ask asks rfl
  unfold createStencil
  exact called.bind fun storage _ start => start

end Session

namespace StencilBuffer

include reports in
theorem keeps_wrap_reached (lifeCycle : LifeCycle) (origin : Option StencilId)
    (shape : StencilShape) :
    (wrap build lifeCycle origin shape : Act (Session δ) StencilBuffer).Keeps
      (Session.Reached build may events first find) := by
  have named : (ResourceHeader.create lifeCycle : Act (Session δ) ResourceHeader).Keeps
      (Session.Reached build may events first find) := fun _ start => start
  have keyed : ∀ width height samples, (liftM (ScratchKey.forStencil build width height samples) :
      Act (Session δ) ScratchKey).Keeps (Session.Reached build may events first find) :=
    fun width height samples => Session.keeps_report_reached fun _ =>
      ScratchKey.keeps_forStencil_reached reports width height samples
  unfold wrap
  refine (Act.keeps_check _).bind fun _ => (Act.keeps_check _).bind fun _ => ?_
  refine named.bind fun header => ?_
  split
  · refine (keyed _ _ _).bind fun key => ?_
    exact (Act.keeps_check _).bind fun _ => Act.keeps_pure _
  · exact Act.keeps_pure _

include reports in
/-- An allocation answers a new buffer. -/
theorem ends_allocate_reached (lifeCycle : LifeCycle) {shape : StencilShape}
    (asks : may (.ask shape)) {session : Session δ}
    (start : session.Reached build may events first find) :
    (allocate build lifeCycle shape : Act (Session δ) StencilBuffer).Ends session
      (fun buffer t => t.Reached build may events first find ∧
        ∃ id storage, buffer = .made id lifeCycle (some storage) shape)
      (fun _ t => t.Reached build may events first find)
      fun t => t.Reached build may events first find := by
  have keeps : (allocate build lifeCycle shape : Act (Session δ) StencilBuffer).Keeps
      (Session.Reached build may events first find) := by
    unfold allocate
    refine (Session.keeps_createStencil_reached asks).bind fun storage => ?_
    refine (Session.keeps_report_reached fun _ =>
      Journal.keeps_log_reached reports (by decide) _ _).bind fun _ => ?_
    exact keeps_wrap_reached reports lifeCycle (some storage) shape
  have made := (stricter_allocate build lifeCycle shape).ends
    (@ends_allocate δ (backend.fixed build) lifeCycle shape session)
  refine ((keeps session start).and made).imp (fun buffer t ok => ?_) (fun _ _ ok => ok.1)
    fun _ ok => ok.1
  obtain ⟨left, id, storage, -, same⟩ := ok
  exact ⟨left, id, storage, same⟩

end StencilBuffer

/-! ## The cache -/

/-- All buffers leave that a cache has, in the order of their slots. -/
theorem Reaches.emptied {cache : StencilCache} {backend : δ} {journal : Journal}
    {how : Leaving} (idle : ∀ buffer : StencilBuffer, buffer.freedBy how.handlings = [])
    (leaves : ∀ key freed lost, may (.leave key how freed lost))
    (reached : Reaches build may events first ⟨cache.find?, backend, journal⟩) :
    Reaches build may (events ++ cache.keys.map (.leave · how)) first
      ⟨fun _ => none, backend, journal.noted <|
        cache.buffers.filterMap fun buffer => (buffer.handled how.handlings).loss?⟩ := by
  have live : ∀ key ∈ cache.keys, (cache.find? key).isSome := by
    intro key member
    obtain ⟨buffer, found⟩ := StencilCache.mem_keys.mp member
    rw [found]
    rfl
  have emptied := reached.allLeave idle leaves cache.keys
    (Arena.nodup_keys_toList cache.entries) live
  have find : (fun key => if key ∈ cache.keys then none else cache.find? key) = fun _ => none := by
    funext key
    split
    · rfl
    · next absent =>
      rw [StencilCache.mem_keys, not_exists] at absent
      exact Option.eq_none_iff_forall_ne_some.mpr absent
  have losses : (cache.keys.filterMap fun key => (cache.find? key).bind fun buffer =>
      (buffer.handled how.handlings).loss?) =
      cache.buffers.filterMap fun buffer => (buffer.handled how.handlings).loss? := by
    rw [StencilCache.keys, StencilCache.buffers, List.filterMap_map, List.filterMap_map]
    refine List.filterMap_congr fun item member => ?_
    have found : cache.find? item.1 = some item.2.buffer :=
      StencilCache.find?_eq_some.mpr ⟨item.2.lastUse, Arena.mem_toList.mp member⟩
    rw [Function.comp_apply, found]
    rfl
  rw [← find, ← losses]
  exact emptied

namespace StencilCache

/-- An operation on the buffer of a key says whether there is one, and is one event then. -/
def Tells (before : StencilCache) (key : ArenaKey) (event : Event) (found : Bool)
    (events : List Event) : Prop :=
  found = before.contains key ∧ events = if found then [event] else []

/-- A look-up that answers a key from before is no event. Otherwise the buffer of the key comes, and
    those are evicted that are not there any more afterwards. -/
def Acquired (before : StencilCache) (key : ArenaKey) (after : StencilCache)
    (events : List Event) : Prop :=
  if before.contains key then events = []
  else ∃ evicted : List ArenaKey, events = .come key :: evicted.map (.leave · .evicted) ∧
    evicted.Nodup ∧ ∀ other, other ∈ evicted ↔
      before.contains other = true ∧ after.contains other = false

end StencilCache

namespace CacheSession

variable {work : CacheSession δ}

/-- An operation on the session leaves the cache alone. -/
theorem ends_session_reached {act : Act (Session δ) α}
    (keeps : ∀ find, act.Keeps (Session.Reached build may events first find))
    (start : Reached build may events first work) :
    (liftM act : Act (CacheSession δ) α).Ends work
      (fun _ t => t.cache = work.cache ∧ Reached build may events first t)
      (fun _ => Reached build may events first) (Reached build may events first) :=
  Act.Ends.within <| (keeps _ work.session start.reached).imp
    (fun _ _ left => ⟨rfl, start.arranged, left, start.whole⟩)
    (fun _ _ left => ⟨start.arranged, left, start.whole⟩)
    fun _ left => ⟨start.arranged, left, start.whole⟩

theorem ends_report_reached {act : Act Journal α}
    (keeps : ∀ find backend, act.Keeps (Journal.Reached build may events first find backend))
    (start : Reached build may events first work) :
    (liftM act : Act (CacheSession δ) α).Ends work
      (fun _ t => t.cache = work.cache ∧ Reached build may events first t)
      (fun _ => Reached build may events first) (Reached build may events first) :=
  ends_session_reached (fun find => Session.keeps_report_reached (keeps find)) start

include reports in
theorem ends_log_reached {severity : Severity} (mild : severity ≠ .warn) (source message : String)
    (start : Reached build may events first work) :
    (liftM (Journal.log severity source message) : Act (CacheSession δ) Unit).Ends work
      (fun _ t => t.cache = work.cache ∧ Reached build may events first t)
      (fun _ => Reached build may events first) (Reached build may events first) :=
  ends_report_reached (fun _ _ => Journal.keeps_log_reached reports mild source message) start

include reports in
theorem keeps_log_reached {severity : Severity} (mild : severity ≠ .warn)
    (source message : String) :
    (liftM (Journal.log severity source message) : Act (CacheSession δ) Unit).Keeps
      (Reached build may events first) :=
  fun _ start => (ends_log_reached reports mild source message start).ok fun _ _ ok => ok.2

/-- A change of the cache that leaves its buffers alone. -/
theorem keeps_edit_reached {change : StencilCache → StencilCache}
    (arranged : ∀ cache : StencilCache, cache.Arranged → (change cache).Arranged)
    (found : ∀ cache : StencilCache, (change cache).find? = cache.find?) :
    (edit change : Act (CacheSession δ) Unit).Keeps (Reached build may events first) := by
  refine Act.keeps_modify fun work start => ⟨arranged _ start.arranged, ?_, start.whole⟩
  rw [found]
  exact start.reached

theorem keeps_access_reached (key : ArenaKey) :
    (access key : Act (CacheSession δ) (Option StencilBuffer)).Keeps
      (Reached build may events first) := by
  unfold access
  refine (keeps_edit_reached (fun cache arranged => arranged.touch key) fun cache => ?_).bind
    fun _ => Act.keeps_get_bind fun _ => Act.keeps_pure _
  exact funext (StencilCache.find?_touch cache key)

theorem Reached.findScratch (start : Reached build may events first work) (scratch : ScratchKey) :
    Reached build may events first { work with cache := (work.cache.findScratch scratch).2 } := by
  refine ⟨?_, (funext (StencilCache.find?_findScratch work.cache scratch)).symm ▸ start.reached,
    start.whole⟩
  dsimp only
  cases found : (work.cache.findScratch scratch).1 with
  | none =>
    rw [StencilCache.findScratch_of_none found]
    exact start.arranged
  | some key =>
    rw [StencilCache.findScratch_of_some found]
    exact start.arranged.touch key

/-- A buffer that goes away before it was put into the cache never comes. -/
theorem ends_drop_wasted {buffer : StencilBuffer} (wasted : may (.waste buffer buffer.loss?))
    (start : Reached build may events first work) :
    (liftM buffer.drop : Act (CacheSession δ) Unit).Ends work (fun _ => CutShort build may first)
      (fun _ => CutShort build may first) (CutShort build may first) := by
  have dropped : (liftM buffer.drop : Act (CacheSession δ) Unit).outcome work = _ :=
    Act.outcome_within (Act.outcome_within (buffer.drop_outcome work.session.journal))
  apply Act.ends_of_outcome
  rw [dropped]
  refine ⟨start.arranged, _, start.reached.next .waste wasted rfl, ?_⟩
  rw [List.dropLast_concat]
  exact start.whole

theorem ends_insert_reached {buffer : StencilBuffer} (keyed : buffer.Keyed)
    (comes : ∀ key, may (.come key buffer)) (wasted : may (.waste buffer buffer.loss?))
    (start : Reached build may events first work) :
    (insert build buffer : Act (CacheSession δ) ArenaKey).Ends work
      (fun key t => work.cache.find? key = none ∧
        t.cache.find? = Function.update work.cache.find? key (some buffer) ∧
        Reached build may (events ++ [.come key]) first t)
      (fun _ _ => False) (CutShort build may first) := by
  unfold insert
  -- The clock has advanced by the time the buffer is counted, and by then only the total can be
  -- out of order.
  refine Act.ends_modify_bind (Act.ends_get_bind ?_)
  have early : Reached build may events first { work with cache := work.cache.tick } :=
    ⟨start.arranged.tick, start.reached, start.whole⟩
  have checked : (liftM (totalWith build work.cache.tick buffer) :
      Act (CacheSession δ) UInt64).Ends { work with cache := work.cache.tick }
      (fun _ t => t = { work with cache := work.cache.tick }) (fun _ _ => False)
      (fun t => t = { work with cache := work.cache.tick }) := by
    cases totalWith build work.cache.tick buffer with
    | ok total => exact rfl
    | error panic => exact rfl
  have counted : (Act.onPanic (liftM (totalWith build work.cache.tick buffer)) buffer.drop :
      Act (CacheSession δ) UInt64).Ends { work with cache := work.cache.tick }
      (fun _ t => t = { work with cache := work.cache.tick }) (fun _ _ => False)
      (CutShort build may first) := by
    refine checked.onPanic fun t same => ?_
    subst same
    exact ends_drop_wasted wasted early
  refine counted.bind fun total t same => ?_
  subst same
  obtain ⟨arranged, absent, found⟩ := start.arranged.placed keyed total rfl
  refine ⟨absent, found, arranged, ?_, ?_⟩
  · have came := start.reached.next (.come absent) (comes _) rfl
    rw [Scene.put, ← found] at came
    exact came
  · exact List.forall_mem_append.mpr ⟨start.whole, by simp [Event.Whole]⟩

/-- Handles the buffer of a key, which becomes the most recently used one, and leaves it in the
    cache; says whether there is one. -/
def handle (key : ArenaKey) (handling : Handling) : Act (CacheSession δ) Bool := do
  match ← access key with
  | some buffer =>
    let buffer ← (handling.act buffer : Act (Session δ) StencilBuffer)
    edit (·.store key buffer)
    return true
  | none => return false

theorem handle_record (key : ArenaKey) (clip : ClipRecord) :
    (handle key (.record clip) : Act (CacheSession δ) Bool) = setClip key clip := rfl

theorem handle_release (key : ArenaKey) :
    (handle key .release : Act (CacheSession δ) Bool) = releaseInPlace key := rfl

theorem handle_outcome (key : ArenaKey) (handling : Handling) (work : CacheSession δ) :
    (handle key handling).outcome work =
      match work.cache.find? key with
      | some buffer => (.ok true, ⟨(work.cache.touch key).revise key handling.after,
          work.session.without (handling.freed buffer)⟩)
      | none => (.ok false, { work with cache := work.cache.touch key }) := by
  have accessed : (access key : Act (CacheSession δ) (Option StencilBuffer)).outcome work =
      (.ok (work.cache.find? key), { work with cache := work.cache.touch key }) :=
    congrArg (fun found => (Except.ok found, _)) (StencilCache.find?_touch work.cache key key)
  unfold handle
  rw [Act.outcome_bind_of_ok accessed]
  cases live : work.cache.find? key with
  | none => rfl
  | some buffer =>
    have handled : (liftM (handling.act buffer : Act (Session δ) StencilBuffer) :
        Act (CacheSession δ) StencilBuffer).outcome { work with cache := work.cache.touch key } =
        _ := Act.outcome_within (handling.act_outcome buffer work.session)
    dsimp only
    rw [Act.outcome_bind_of_ok handled, StencilCache.revise, StencilCache.find?_touch, live]
    rfl

/-- A buffer is handled in its place. -/
theorem Reached.handled (reached : Reached build may events first work)
    {key : ArenaKey} {buffer : StencilBuffer} (live : work.cache.find? key = some buffer)
    {handling : Handling} (handles : ∀ freed, may (.handle key handling freed)) :
    Reached build may (events ++ [.handle key handling]) first
      ⟨work.cache.revise key handling.after, work.session.without (handling.freed buffer)⟩ := by
  refine ⟨reached.arranged.revise key handling.same_after, ?_,
    List.forall_mem_append.mpr ⟨reached.whole, by simp [Event.Whole]⟩⟩
  have found : (work.cache.revise key handling.after).find? =
      Function.update work.cache.find? key (some (handling.after buffer)) := by
    funext other
    rw [StencilCache.find?_revise, live, Function.update_apply]
    rfl
  have handled := reached.reached.next (.handle live) (handles _) rfl
  rw [Scene.put, Scene.settle, ← found] at handled
  exact handled

theorem ends_handle_reached (key : ArenaKey) (handling : Handling)
    (handles : ∀ freed, may (.handle key handling freed))
    (start : Reached build may events first work) :
    (handle key handling : Act (CacheSession δ) Bool).Ends work
      (fun found t => ∃ news, work.cache.Tells key (.handle key handling) found news ∧
        Reached build may (events ++ news) first t)
      (fun _ _ => False) fun _ => False := by
  have touched : Reached build may events first { work with cache := work.cache.touch key } :=
    (keeps_access_reached key).outcome start
  rw [Act.ends_iff_outcome, handle_outcome]
  cases live : work.cache.find? key with
  | none =>
    refine ⟨[], ⟨?_, rfl⟩, by rwa [List.append_nil]⟩
    rw [StencilCache.contains_eq, live]
    rfl
  | some buffer =>
    refine ⟨_, ⟨?_, rfl⟩, touched.handled ((StencilCache.find?_touch _ _ _).trans live) handles⟩
    rw [StencilCache.contains_eq, live]
    rfl

/-! ## Evictions -/

/-- A buffer has been taken out of the cache and is still to go away. -/
structure Departing (build : Build) (may : Move δ → Prop) (events : List Event) (first : Scene δ)
    (key : ArenaKey) (buffer : StencilBuffer) (find : ArenaKey → Option StencilBuffer)
    (work : CacheSession δ) : Prop where
  arranged : work.cache.Arranged
  held : find key = some buffer
  gone : work.cache.find? = Function.update find key none
  reached : work.session.Reached build may events first find

theorem Departing.leave {key : ArenaKey} {buffer : StencilBuffer}
    (departing : Departing build may events first key buffer find work) {how : Leaving}
    (leaves : ∀ freed lost, may (.leave key how freed lost)) {session : Session δ}
    (backend : session.backend =
      (work.session.without (buffer.freedBy how.handlings)).backend)
    (journal : session.journal =
      work.session.journal.noted (buffer.handled how.handlings).loss?.toList) :
    session.Reached build may (events ++ [.leave key how]) first work.cache.find? := by
  have left := departing.reached.next (.leave departing.held) (leaves _ _) rfl
  unfold Session.Reached Journal.Reached
  rw [departing.gone, backend, journal]
  exact left

include reports in
theorem keeps_countOut_departing {key : ArenaKey} {buffer : StencilBuffer} :
    (countOut build buffer : Act (CacheSession δ) Unit).Keeps
      (Departing build may events first key buffer find) := by
  have counted : ∀ total, (edit fun cache => { cache with totalBytes := total } :
      Act (CacheSession δ) Unit).Keeps (Departing build may events first key buffer find) :=
    fun total => Act.keeps_modify fun work departing =>
      ⟨departing.arranged.recounted _ total, departing.held, departing.gone, departing.reached⟩
  have logged : ∀ source message, (liftM (Journal.log .debug source message) :
      Act (CacheSession δ) Unit).Keeps (Departing build may events first key buffer find) :=
    fun source message work departing => Act.Ends.within <|
      (Session.keeps_report_reached (fun _ => Journal.keeps_log_reached reports (by decide) source
        message) work.session departing.reached).imp
        (fun _ _ left => ⟨departing.arranged, departing.held, departing.gone, left⟩)
        (fun _ _ left => ⟨departing.arranged, departing.held, departing.gone, left⟩)
        fun _ left => ⟨departing.arranged, departing.held, departing.gone, left⟩
  unfold countOut
  refine Act.keeps_get_bind fun work => (Act.keeps_check _).bind fun total => ?_
  exact (counted total).bind fun _ => logged _ _

/-- A buffer that goes away while it is evicted has been taken by what cut the eviction short. -/
theorem ends_drop_departing {key : ArenaKey} {buffer : StencilBuffer}
    (departing : Departing build may events first key buffer find work)
    (leaves : ∀ freed lost, may (.leave key .cutShort freed lost))
    (whole : ∀ event ∈ events, event.Whole) :
    (liftM buffer.drop : Act (CacheSession δ) Unit).Ends work (fun _ => CutShort build may first)
      (fun _ => CutShort build may first) (CutShort build may first) := by
  have dropped : (liftM buffer.drop : Act (CacheSession δ) Unit).outcome work = _ :=
    Act.outcome_within (Act.outcome_within (buffer.drop_outcome work.session.journal))
  apply Act.ends_of_outcome
  rw [dropped]
  refine ⟨departing.arranged, _, departing.leave leaves rfl rfl, ?_⟩
  rw [List.dropLast_concat]
  exact whole

theorem ends_release_departing {key : ArenaKey} {buffer : StencilBuffer}
    (departing : Departing build may events first key buffer find work)
    (leaves : ∀ freed lost, may (.leave key .evicted freed lost))
    (whole : ∀ event ∈ events, event.Whole) :
    (discard (buffer.release : Act (Session δ) StencilBuffer) : Act (CacheSession δ) Unit).Ends work
      (fun _ t => t.cache.find? = Function.update find key none ∧
        Reached build may (events ++ [.leave key .evicted]) first t)
      (fun _ _ => False) (CutShort build may first) := by
  have released : (liftM (buffer.release : Act (Session δ) StencilBuffer) :
      Act (CacheSession δ) StencilBuffer).outcome work = _ :=
    Act.outcome_within (Handling.release.act_outcome buffer work.session)
  have settled : (buffer.handled Leaving.evicted.handlings).loss? = none :=
    StencilBuffer.loss?_of_released rfl
  apply Act.Ends.discard
  rw [Act.ends_iff_outcome, released]
  refine ⟨departing.gone, departing.arranged, departing.leave leaves ?_ ?_,
    List.forall_mem_append.mpr ⟨whole, by simp [Event.Whole]⟩⟩
  · rw [Leaving.handlings, StencilBuffer.freedBy, StencilBuffer.freedBy, List.append_nil]
  · rw [settled]
    rfl

include reports in
theorem ends_countOut_departing {key : ArenaKey} {buffer : StencilBuffer}
    (departing : Departing build may events first key buffer find work)
    (leaves : ∀ freed lost, may (.leave key .cutShort freed lost))
    (whole : ∀ event ∈ events, event.Whole) :
    (Act.onPanic (countOut build buffer) buffer.drop : Act (CacheSession δ) Unit).Ends work
      (fun _ => Departing build may events first key buffer find) (fun _ _ => False)
      (CutShort build may first) := by
  have counted : (Act.onPanic (countOut build buffer) buffer.drop : Act (CacheSession δ) Unit).Ends
      work (fun _ => Departing build may events first key buffer find)
      (fun _ => Departing build may events first key buffer find) (CutShort build may first) :=
    (keeps_countOut_departing reports work departing).onPanic
      fun _ departing => ends_drop_departing departing leaves whole
  -- That counting reports no fault is known of release builds, and so of debug builds.
  have unfailing := ((stricter_countOut build buffer).onPanic).ends
    (ends_countOut (s := work) buffer rfl)
  exact (counted.and unfailing).imp (fun _ _ ok => ok.1) (fun _ _ failed => failed.2)
    fun _ cut => cut.1

include reports in
/-- A buffer that is evicted is released, unless the eviction is cut short. -/
theorem ends_evict_reached (key : ArenaKey)
    (leaves : ∀ how ∈ [Leaving.evicted, .cutShort], ∀ freed lost, may (.leave key how freed lost))
    (start : Reached build may events first work) :
    (evict build key : Act (CacheSession δ) Bool).Ends work
      (fun found t => t.cache.find? = Function.update work.cache.find? key none ∧
        ∃ news, work.cache.Tells key (.leave key .evicted) found news ∧
          Reached build may (events ++ news) first t)
      (fun _ _ => False) (CutShort build may first) := by
  unfold evict
  apply Act.ends_get_bind
  cases removed : work.cache.remove? key with
  | none =>
    have stale : work.cache.find? key = none := by
      rw [Option.eq_none_iff_forall_ne_some]
      intro buffer live
      obtain ⟨rest, taken, -⟩ := StencilCache.remove?_of_some live
      rw [removed] at taken
      contradiction
    refine Act.ends_pure ⟨?_, [], ⟨?_, rfl⟩, by rwa [List.append_nil]⟩
    · rw [← stale, Function.update_eq_self]
    · rw [StencilCache.contains_eq, stale]
      rfl
  | some pair =>
    obtain ⟨buffer, rest⟩ := pair
    obtain ⟨arranged, held, gone⟩ := start.arranged.removed removed
    have taken : (edit fun _ => rest : Act (CacheSession δ) Unit).Ends work
        (fun _ => Departing build may events first key buffer work.cache.find?)
        (fun _ _ => False) (CutShort build may first) := ⟨arranged, held, gone, start.reached⟩
    refine taken.bind fun _ t departing => ?_
    refine (ends_countOut_departing reports departing (leaves .cutShort (by simp))
      start.whole).bind fun _ u departing => ?_
    refine (ends_release_departing departing (leaves .evicted (by simp)) start.whole).bind
      fun _ v left => Act.ends_pure ⟨left.1, _, ⟨?_, rfl⟩, left.2⟩
    rw [StencilCache.contains_eq, held]
    rfl

section evictions

variable (leaves : ∀ key, ∀ how ∈ [Leaving.evicted, .cutShort], ∀ freed lost,
  may (.leave key how freed lost))

include reports leaves

/-- One after the other, the buffers leave that have some keys. -/
theorem ends_evictAll_reached (keys : List ArenaKey) (distinct : keys.Nodup)
    (live : ∀ key ∈ keys, work.cache.contains key = true)
    (start : Reached build may events first work) :
    (keys.forM fun key => discard (evict build key) : Act (CacheSession δ) PUnit).Ends work
      (fun _ t => (∀ other, t.cache.find? other =
          if other ∈ keys then none else work.cache.find? other) ∧
        Reached build may (events ++ keys.map (.leave · .evicted)) first t)
      (fun _ _ => False) (CutShort build may first) := by
  induction keys generalizing work events with
  | nil => exact Act.ends_pure ⟨fun _ => rfl, by rwa [List.map_nil, List.append_nil]⟩
  | cons key rest ih =>
    obtain ⟨apart, distinct⟩ := List.nodup_cons.mp distinct
    have evicted : (discard (evict build key) : Act (CacheSession δ) Unit).Ends work
        (fun _ t => t.cache.find? = Function.update work.cache.find? key none ∧
          Reached build may (events ++ [.leave key .evicted]) first t)
        (fun _ _ => False) (CutShort build may first) := by
      apply Act.Ends.discard
      refine (ends_evict_reached reports key (leaves key) start).ok fun found t ok => ?_
      obtain ⟨gone, news, ⟨rfl, rfl⟩, left⟩ := ok
      rw [live key List.mem_cons_self] at left
      exact ⟨gone, left⟩
    show (discard (evict build key) >>= fun _ => rest.forM _ : Act (CacheSession δ) PUnit).Ends _ _
      _ _
    refine evicted.bind fun _ t ok => ?_
    obtain ⟨gone, left⟩ := ok
    have others : ∀ other ∈ rest, t.cache.contains other = true := by
      intro other member
      have different : other ≠ key := fun same => apart (same ▸ member)
      rw [StencilCache.contains_eq, gone, Function.update_of_ne different,
        ← StencilCache.contains_eq]
      exact live other (List.mem_cons_of_mem key member)
    refine (ih distinct others left).ok fun _ u ok => ⟨fun other => ?_, ?_⟩
    · rw [ok.1, gone, Function.update_apply]
      by_cases same : other = key
      · simp [same]
      · simp [same]
    · rw [List.map_cons, List.append_cons]
      exact ok.2

theorem ends_purgeSparing_reached (keep : Option ArenaKey)
    (start : Reached build may events first work) :
    (purgeSparing build keep : Act (CacheSession δ) Nat).Ends work
      (fun count t => count = (work.cache.excess keep).length ∧
        (∀ other, t.cache.find? other =
          if other ∈ work.cache.excess keep then none else work.cache.find? other) ∧
        Reached build may (events ++ (work.cache.excess keep).map (.leave · .evicted)) first t)
      (fun _ _ => False) (CutShort build may first) := by
  unfold purgeSparing
  apply Act.ends_get_bind
  have agrees := start.arranged.recent
  refine (ends_evictAll_reached reports leaves _ (agrees.nodup_excess keep)
    (fun _ member => agrees.live_of_mem_excess member) start).bind fun _ _ ok => ?_
  exact Act.ends_pure ⟨rfl, ok⟩

theorem ends_purgeAll_reached (start : Reached build may events first work) :
    (purgeAll build : Act (CacheSession δ) Unit).Ends work
      (fun _ => Reached build may (events ++ work.cache.keys.map (.leave · .evicted)) first)
      (fun _ _ => False) (CutShort build may first) := by
  have live : ∀ key ∈ work.cache.keys, work.cache.contains key = true := by
    intro key member
    obtain ⟨buffer, found⟩ := StencilCache.mem_keys.mp member
    rw [StencilCache.contains_eq, found]
    rfl
  unfold purgeAll
  apply Act.ends_get_bind
  exact (ends_evictAll_reached reports leaves _ (Arena.nodup_keys_toList work.cache.entries) live
    start).ok fun _ _ ok => ok.2

end evictions

/-! ## New buffers -/

section making

variable {lifeCycle : LifeCycle} {shape : StencilShape} (asks : may (.ask shape))
  (comes : ∀ id storage key, may (.come key (.made id lifeCycle (some storage) shape)))
  (wasted : ∀ id storage lost, may (.waste (.made id lifeCycle (some storage) shape) lost))

include reports asks comes wasted

theorem ends_allocate_reached (start : Reached build may events first work) :
    (allocate build lifeCycle shape : Act (CacheSession δ) ArenaKey).Ends work
      (fun key t => work.cache.find? key = none ∧
        (∃ buffer, t.cache.find? = Function.update work.cache.find? key (some buffer)) ∧
        Reached build may (events ++ [.come key]) first t)
      (fun _ => Reached build may events first) (CutShort build may first) := by
  unfold allocate
  have made : (liftM (StencilBuffer.allocate build lifeCycle shape :
      Act (Session δ) StencilBuffer) : Act (CacheSession δ) StencilBuffer).Ends work
      (fun buffer t => t.cache = work.cache ∧ Reached build may events first t ∧
        ∃ id storage, buffer = .made id lifeCycle (some storage) shape)
      (fun _ => Reached build may events first) (CutShort build may first) := by
    apply Act.Ends.within
    exact (StencilBuffer.ends_allocate_reached reports lifeCycle asks start.reached).imp
      (fun _ _ ok => ⟨rfl, ⟨start.arranged, ok.1, start.whole⟩, ok.2⟩)
      (fun _ _ left => ⟨start.arranged, left, start.whole⟩)
      fun _ left => Reached.cutShort ⟨start.arranged, left, start.whole⟩
  refine made.bind fun buffer t ok => ?_
  obtain ⟨same, left, id, storage, rfl⟩ := ok
  rw [← same]
  exact (ends_insert_reached (StencilBuffer.keyed_made _ _ _ _) (comes id storage)
    (wasted id storage _) left).unfailing.ok fun _ _ ok => ⟨ok.1, ⟨_, ok.2.1⟩, ok.2.2⟩

end making

section acquiring

variable {shape : StencilShape} (asks : may (.ask shape))
  (comes : ∀ id storage key, may (.come key (.made id .cached (some storage) shape)))
  (wasted : ∀ id storage lost, may (.waste (.made id .cached (some storage) shape) lost))
  (leaves : ∀ key, ∀ how ∈ [Leaving.evicted, .cutShort], ∀ freed lost,
    may (.leave key how freed lost))

include reports asks comes wasted leaves

/-- A new buffer comes, and others have to go for it. -/
theorem ends_make_reached (start : Reached build may events first work) :
    (do let key ← allocate build .cached shape
        discard (purgeSparing build (some key))
        return key : Act (CacheSession δ) ArenaKey).Ends work
      (fun key t => ∃ news, work.cache.Acquired key t.cache news ∧
        Reached build may (events ++ news) first t)
      (fun _ => Reached build may events first) (CutShort build may first) := by
  refine (ends_allocate_reached reports asks comes wasted start).bind fun key t ok => ?_
  obtain ⟨absent, ⟨buffer, found⟩, left⟩ := ok
  have purged : (discard (purgeSparing build (some key)) : Act (CacheSession δ) Unit).Ends t
      (fun _ u => (∀ other, u.cache.find? other =
          if other ∈ t.cache.excess (some key) then none else t.cache.find? other) ∧
        Reached build may (events ++ [.come key] ++
          (t.cache.excess (some key)).map (.leave · .evicted)) first u)
      (fun _ => Reached build may events first) (CutShort build may first) := by
    apply Act.Ends.discard
    exact (ends_purgeSparing_reached reports leaves (some key) left).unfailing.ok fun _ _ ok => ok.2
  refine purged.bind fun _ u ok => Act.ends_pure ?_
  obtain ⟨gone, left'⟩ := ok
  refine ⟨_, ?_, by rwa [List.append_assoc] at left'⟩
  have agrees := left.arranged.recent
  have new : ¬ work.cache.contains key = true := by simp [StencilCache.contains_eq, absent]
  rw [StencilCache.Acquired, if_neg new]
  refine ⟨_, rfl, agrees.nodup_excess _, fun other => ?_⟩
  have after : u.cache.contains other = false ↔
      other ∈ t.cache.excess (some key) ∨ t.cache.contains other = false := by
    rw [StencilCache.contains_eq, StencilCache.contains_eq, gone]
    split <;> simp_all
  rw [after]
  by_cases same : other = key
  · subst same
    simp [new, StencilCache.not_mem_excess]
  · have before : t.cache.contains other = work.cache.contains other := by
      rw [StencilCache.contains_eq, found, Function.update_of_ne same, ← StencilCache.contains_eq]
    rw [before]
    constructor
    · intro member
      exact ⟨before ▸ agrees.live_of_mem_excess member, .inl member⟩
    · rintro ⟨live, member | missing⟩
      · exact member
      · rw [live] at missing
        contradiction

theorem ends_findOrCreate_reached (start : Reached build may events first work) :
    (findOrCreate build shape : Act (CacheSession δ) ArenaKey).Ends work
      (fun key t => ∃ news, work.cache.Acquired key t.cache news ∧
        Reached build may (events ++ news) first t)
      (fun _ => Reached build may events first) (CutShort build may first) := by
  unfold findOrCreate
  refine ((ends_report_reached (fun _ _ => ScratchKey.keeps_forStencil_reached reports _ _ _)
    start).cut fun _ cut => cut.cutShort).bind fun scratch t ok => ?_
  obtain ⟨same, left⟩ := ok
  have looked : (findScratch scratch : Act (CacheSession δ) (Option ArenaKey)).Ends t
      (fun found u => found = (t.cache.findScratch scratch).1 ∧
        u.cache = (t.cache.findScratch scratch).2 ∧ Reached build may events first u)
      (fun _ => Reached build may events first) (CutShort build may first) :=
    ⟨rfl, rfl, left.findScratch scratch⟩
  refine looked.bind fun found u ok => ?_
  obtain ⟨rfl, cache, left⟩ := ok
  rw [same] at cache ⊢
  cases found : (work.cache.findScratch scratch).1 with
  | some key =>
    refine ((ends_log_reached reports (by decide) _ _ left).cut fun _ cut =>
      cut.cutShort).bind fun _ v ok => Act.ends_pure ⟨[], ?_, ?_⟩
    · rw [StencilCache.Acquired, if_pos (start.arranged.indexed.live_of_findScratch found)]
    · rw [List.append_nil]
      exact ok.2
  | none =>
    rw [StencilCache.findScratch_of_none found] at cache
    refine ((ends_log_reached reports (by decide) _ _ left).cut fun _ cut =>
      cut.cutShort).bind fun _ v ok => ?_
    have cache' : v.cache = work.cache := ok.1.trans cache
    rw [← allocate_bind, ← cache']
    exact ends_make_reached reports asks comes wasted leaves ok.2

end acquiring

/-- All buffers are abandoned and leave. -/
theorem Reached.abandonAll (start : Reached build may events first work)
    (leaves : ∀ key freed lost, may (.leave key .forgotten freed lost)) :
    Reached build may (events ++ work.cache.keys.map (.leave · .forgotten)) first
      { work with cache := work.cache.abandonAll } := by
  refine ⟨start.arranged.abandonAll, ?_, List.forall_mem_append.mpr ⟨start.whole, ?_⟩⟩
  · have emptied := Reaches.emptied (fun _ => rfl) leaves start.reached
    have silent : work.cache.buffers.filterMap (fun buffer =>
        (buffer.handled Leaving.forgotten.handlings).loss?) = [] := by
      rw [List.filterMap_eq_nil_iff]
      exact fun buffer _ => StencilBuffer.loss?_of_released rfl
    rw [silent] at emptied
    rw [funext (StencilCache.find?_abandonAll work.cache)]
    exact emptied
  · simp [Event.Whole]

end CacheSession

end reports

end RenderCore
