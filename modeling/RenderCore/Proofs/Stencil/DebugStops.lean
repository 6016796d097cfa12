import RenderCore.Proofs.Stencil.ByteOverflows
import RenderCore.Proofs.Stencil.Progress
import RenderCore.Proofs.Stencil.PurgeRounds
import RenderCore.Proofs.Stencil.RefusedAllocations

/-!
# Where a debug build stops

A debug build stops at a new buffer that is empty, at a length that does not fit into a scratch key,
and at a size that cannot be counted. All of this is checked before a buffer is in the cache. What is
done with the buffers that are there, in whatever state of a program, is only cut short by a logger.
-/

namespace RenderCore

variable {δ α : Type}

theorem Build.expect_debug (holds : Bool) (text : String) :
    Build.debug.expect holds text = if holds then .ok () else .error (.expectation text) := by
  cases holds <;> rfl

/-! ## New buffers -/

namespace StencilShape

/-- Both lengths fit into half a word of a scratch key. -/
def Narrow (shape : StencilShape) : Prop := shape.width ≤ 65535 ∧ shape.height ≤ 65535

/-- A buffer of the shape has something to hold. -/
structure Inhabited (shape : StencilShape) : Prop where
  bits : 0 < shape.bits
  width : 0 < shape.width
  height : 0 < shape.height

/-- A debug build makes buffers of the shape for the use that is meant. -/
structure Allows (shape : StencilShape) (lifeCycle : LifeCycle) : Prop where
  inhabited : shape.Inhabited
  keyed : lifeCycle = .cached → shape.Narrow

theorem narrow_iff (shape : StencilShape) :
    shape.Narrow ↔
      (ScratchKey.fitsHalf shape.width && ScratchKey.fitsHalf shape.height) = true := by
  simp [Narrow, ScratchKey.fitsHalf]

end StencilShape

/-- A debug build makes no scratch key for a length that does not fit, and has nothing to report for
    one that does. -/
theorem ScratchKey.ends_forStencil_debug (shape : StencilShape) (journal : Journal) :
    (forStencil .debug shape.width shape.height shape.samples).Ends journal
      (fun key left => shape.Narrow ∧ key = shape.scratchKey ∧ left = journal)
      (fun _ _ => False) fun _ => ¬ shape.Narrow := by
  unfold forStencil
  by_cases narrow : shape.Narrow
  · have fits := shape.narrow_iff.mp narrow
    rw [fits]
    exact ⟨narrow, rfl, rfl⟩
  · have wide : (fitsHalf shape.width && fitsHalf shape.height) = false := by
      rw [← Bool.not_eq_true, ← shape.narrow_iff]
      exact narrow
    rw [wide]
    exact narrow

namespace StencilBuffer

theorem ends_wrap_debug (lifeCycle : LifeCycle) (origin : Option StencilId) (shape : StencilShape)
    (session : Session δ) :
    (wrap .debug lifeCycle origin shape : Act (Session δ) StencilBuffer).Ends session
      (fun _ left => shape.Allows lifeCycle ∧ left.journal = session.journal)
      (fun _ _ => False) fun _ => ¬ shape.Allows lifeCycle := by
  have named : (ResourceHeader.create lifeCycle : Act (Session δ) ResourceHeader).Ends session
      (fun header left => (∃ id, header = { lifeCycle, id }) ∧ left.journal = session.journal)
      (fun _ _ => False) fun _ => ¬ shape.Allows lifeCycle := ⟨⟨_, rfl⟩, rfl⟩
  unfold wrap
  rw [Build.expect_debug, Build.expect_debug]
  by_cases bits : 0 < shape.bits
  case neg =>
    rw [decide_eq_false bits]
    exact fun allows => bits allows.inhabited.bits
  by_cases lengths : 0 < shape.width ∧ 0 < shape.height
  case neg =>
    rw [decide_eq_true bits, ← Bool.decide_and, decide_eq_false lengths]
    exact fun allows => lengths ⟨allows.inhabited.width, allows.inhabited.height⟩
  have inhabited : shape.Inhabited := ⟨bits, lengths.1, lengths.2⟩
  rw [decide_eq_true bits, ← Bool.decide_and, decide_eq_true lengths, if_pos rfl, if_pos rfl,
    Act.lift_ok, pure_bind, pure_bind]
  refine named.bind fun header between ok => ?_
  obtain ⟨⟨id, rfl⟩, journal⟩ := ok
  by_cases cached : lifeCycle = .cached
  · rw [if_pos cached]
    have keyed : (liftM (ScratchKey.forStencil .debug shape.width shape.height shape.samples) :
        Act (Session δ) ScratchKey).Ends between
        (fun _ left => shape.Allows lifeCycle ∧ left.journal = session.journal)
        (fun _ _ => False) fun _ => ¬ shape.Allows lifeCycle := by
      refine Act.Ends.within ((ScratchKey.ends_forStencil_debug shape between.journal).imp
        (fun key left ok => ?_) (fun _ _ failed => failed) fun _ wide allows =>
          wide (allows.keyed cached))
      obtain ⟨narrow, -, rfl⟩ := ok
      exact ⟨⟨inhabited, fun _ => narrow⟩, journal⟩
    refine keyed.bind fun key left ok => ?_
    subst cached
    exact ok
  · rw [if_neg cached]
    exact ⟨⟨inhabited, fun same => absurd same cached⟩, journal⟩

end StencilBuffer

/-! ## What is checked -/

namespace StencilCache

/-- A debug build makes a buffer of the shape and counts it into the cache. -/
structure Welcomes (cache : StencilCache) (lifeCycle : LifeCycle) (shape : StencilShape) : Prop where
  allowed : shape.Allows lifeCycle
  admitted : cache.Admits shape

/-- A debug build looks a buffer of the shape up, and makes one if there is none. -/
structure Supplies (cache : StencilCache) (shape : StencilShape) : Prop where
  narrow : shape.Narrow
  made : (cache.findScratch shape.scratchKey).1 = none → cache.Welcomes .cached shape

end StencilCache

namespace Operation

/-- The operation may put a buffer into the cache. -/
def adds : Operation δ α → Bool
  | .insert _ _ | .allocate _ _ | .findOrCreate _ | .attach _ _ => true
  | _ => false

/-- What a debug build checks in the course of an operation on a cache. -/
def Checks (cache : StencilCache) : Operation δ α → Prop
  | .insert buffer _ => cache.Admits buffer.shape
  | .allocate lifeCycle shape => cache.Welcomes lifeCycle shape
  | .findOrCreate shape => cache.Supplies shape
  | .attach attachment shape => attachment.fitting? cache shape = none → cache.Supplies shape
  | _ => True

/-- An operation that puts nothing into the cache asks for no storage and has nothing to check. -/
theorem unchecked_of_adds {operation : Operation δ α} (leaves : operation.adds = false)
    (cache : StencilCache) : operation.wants = none ∧ operation.Checks cache := by
  cases operation with
  | insert | allocate | findOrCreate | attach => cases leaves
  | _ => exact ⟨rfl, trivial⟩

end Operation

/-! ## Insertions -/

namespace CacheSession

variable {work : CacheSession δ}

/-- A debug build puts a buffer into the cache exactly if there is room for it. -/
theorem ends_insert_debug (accounted : work.cache.Accounted .debug) (buffer : StencilBuffer) :
    (insert .debug buffer : Act (CacheSession δ) ArenaKey).Ends work
      (fun _ left => work.cache.Admits buffer.shape ∧ left.session = work.session)
      (fun _ _ => False) fun _ => ¬ work.cache.Admits buffer.shape := by
  unfold insert
  refine Act.ends_modify_bind (Act.ends_get_bind ?_)
  have room : (∃ total, totalWith .debug work.cache.tick buffer = .ok total) ↔
      work.cache.Admits buffer.shape :=
    accounted.tick.totalWith_ok_iff.trans StencilCache.admits_tick
  have counted : (liftM (totalWith .debug work.cache.tick buffer) : Act (CacheSession δ) UInt64).Ends
      { work with cache := work.cache.tick }
      (fun _ left => work.cache.Admits buffer.shape ∧ left.session = work.session)
      (fun _ _ => False) fun _ => ¬ work.cache.Admits buffer.shape := by
    cases total : totalWith .debug work.cache.tick buffer with
    | ok total => exact ⟨room.mp ⟨_, total⟩, rfl⟩
    | error panic =>
      intro admits
      obtain ⟨_, other⟩ := room.mpr admits
      rw [total] at other
      contradiction
  refine (counted.onPanic fun left full => ?_).bind fun total left ok => ok
  exact (Act.keeps_true _ left trivial).imp (fun _ _ _ => full) (fun _ _ _ => full) fun _ _ => full

end CacheSession

/-! ## Over a backend -/

variable [Backend δ]

/-- The backend panics when it is asked for storage of a shape. -/
def Backend.Panics (backend : δ) (shape : StencilShape) : Prop :=
  ∃ panic left, Backend.createStencil .debug shape backend = .error (.panic panic) left

/-- What may cut an operation short in a debug build, if it asks the backend for storage of the wanted
    shape and depends on some checks. -/
inductive Session.Stops (session : Session δ) (wanted : Option StencilShape) (checks : Prop) :
    Prop where
  | logger (unreliable : ¬ session.Reliable)
  | backend {shape : StencilShape} (asked : wanted = some shape)
      (panics : Backend.Panics session.backend shape)
  | check (failed : ¬ checks)

/-- More checks are no less likely to fail. -/
theorem Session.Stops.imp {session : Session δ} {wanted : Option StencilShape} {checks more : Prop}
    (stops : session.Stops wanted checks) (among : more → checks) : session.Stops wanted more := by
  cases stops with
  | logger unreliable => exact .logger unreliable
  | backend asked panics => exact .backend asked panics
  | check failed => exact .check (failed ∘ among)

/-- A debug build makes a buffer of a shape that it allows, and leaves the logger in charge. -/
theorem StencilBuffer.ends_allocate_debug (lifeCycle : LifeCycle) (shape : StencilShape)
    (session : Session δ) :
    (allocate .debug lifeCycle shape : Act (Session δ) StencilBuffer).Ends session
      (fun _ left => shape.Allows lifeCycle ∧ (session.Reliable → left.Reliable))
      (fun _ _ => True) fun _ => session.Stops (some shape) (shape.Allows lifeCycle) := by
  have called : (Session.onBackend (Backend.createStencil .debug shape)).Ends session
      (fun _ left => left.journal = session.journal) (fun _ _ => True)
      fun _ => Backend.Panics session.backend shape := by
    apply Act.Ends.within
    unfold Act.Ends
    split
    · rfl
    · trivial
    · next panicked => exact ⟨_, _, panicked⟩
  have stored : (Session.createStencil .debug shape : Act (Session δ) StencilId).Ends session
      (fun _ left => left.journal = session.journal) (fun _ _ => True)
      fun _ => Backend.Panics session.backend shape := by
    unfold Session.createStencil
    exact called.bind fun _ _ same => same
  have logged (storage : StencilId) (between : Session δ) :
      (liftM (Journal.log .debug component (allocationReport shape storage)) :
        Act (Session δ) Unit).Ends between
        (fun _ left => between.Reliable → left.Reliable) (fun _ _ => True)
        fun _ => ¬ between.Reliable :=
    Act.Steady.ends (Session.steady_report (Journal.steady_log _ _ _)) between
  unfold allocate
  refine (stored.cut fun _ cut => .backend rfl cut).bind fun storage between journal => ?_
  have same : between.Reliable ↔ session.Reliable := by
    unfold Session.Reliable
    rw [journal]
  refine ((logged storage between).cut fun _ cut => .logger (cut ∘ same.mpr)).bind
    fun _ noted reliable => ?_
  have wrapped := ends_wrap_debug lifeCycle (some storage) shape noted
  refine wrapped.imp (fun _ left ok => ⟨ok.1, fun calm => ?_⟩) (fun _ _ _ => trivial)
    fun _ refused => .check refused
  have kept := reliable (same.mpr calm)
  unfold Session.Reliable at kept ⊢
  rwa [ok.2]

namespace CacheSession

variable {work : CacheSession δ}

/-- A debug build puts a new buffer into the cache exactly if the backend grants the storage, the
    shape is allowed and there is room for it. -/
theorem ends_allocate_debug (accounted : work.cache.Accounted .debug) (lifeCycle : LifeCycle)
    (shape : StencilShape) :
    (allocate .debug lifeCycle shape : Act (CacheSession δ) ArenaKey).Ends work
      (fun _ left => work.cache.Welcomes lifeCycle shape ∧ left.cache.Accounted .debug ∧
        (work.Reliable → left.Reliable))
      (fun _ _ => True)
      fun _ => work.session.Stops (some shape) (work.cache.Welcomes lifeCycle shape) := by
  have named := (StencilBuffer.stricter_allocate .debug lifeCycle shape).ends
    (@StencilBuffer.ends_allocate δ (Backend.fixed ‹_› .debug) lifeCycle shape work.session)
  have made : (liftM (StencilBuffer.allocate .debug lifeCycle shape :
      Act (Session δ) StencilBuffer) : Act (CacheSession δ) StencilBuffer).Ends work
      (fun buffer left => buffer.shape = shape ∧ shape.Allows lifeCycle ∧
        left.cache = work.cache ∧ (work.Reliable → left.Reliable))
      (fun _ _ => True)
      fun _ => work.session.Stops (some shape) (work.cache.Welcomes lifeCycle shape) := by
    apply Act.Ends.within
    refine ((StencilBuffer.ends_allocate_debug lifeCycle shape work.session).and named).imp
      (fun buffer left ok => ?_) (fun _ _ _ => trivial)
      fun _ cut => cut.1.imp fun welcomes => welcomes.allowed
    obtain ⟨⟨allows, reliable⟩, id, storage, -, rfl⟩ := ok
    exact ⟨rfl, allows, rfl, reliable⟩
  have allocated : (allocate .debug lifeCycle shape : Act (CacheSession δ) ArenaKey).Ends work
      (fun _ left => work.cache.Welcomes lifeCycle shape ∧ (work.Reliable → left.Reliable))
      (fun _ _ => True)
      fun _ => work.session.Stops (some shape) (work.cache.Welcomes lifeCycle shape) := by
    unfold allocate
    refine made.bind fun buffer between ok => ?_
    obtain ⟨rfl, allows, cache, reliable⟩ := ok
    have inserted := ends_insert_debug (cache ▸ accounted : between.cache.Accounted .debug) buffer
    rw [cache] at inserted
    refine inserted.imp (fun _ left ok => ⟨⟨allows, ok.1⟩, fun calm => ?_⟩) (fun _ _ _ => trivial)
      fun _ full => .check fun welcomes => full welcomes.admitted
    have kept := reliable calm
    unfold Reliable at kept ⊢
    rwa [ok.2]
  exact (allocated.and (keeps_allocate_accounted lifeCycle shape work accounted)).imp
    (fun _ _ ok => ⟨ok.1.1, ok.2, ok.1.2⟩) (fun _ _ _ => trivial) fun _ cut => cut.1

/-- The purge that follows an allocation is not cut short but by a logger. -/
theorem ends_allocate_purged_debug (accounted : work.cache.Accounted .debug) (shape : StencilShape) :
    (allocate .debug .cached shape >>= fun key =>
      discard (purgeSparing .debug (some key)) >>= fun _ => pure key).Ends work
      (fun _ _ => work.cache.Welcomes .cached shape) (fun _ _ => True)
      fun _ => work.session.Stops (some shape) (work.cache.Welcomes .cached shape) := by
  refine (ends_allocate_debug accounted .cached shape).bind fun key between ok => ?_
  obtain ⟨welcomes, counted, reliable⟩ := ok
  have purged : (discard (purgeSparing .debug (some key)) : Act (CacheSession δ) Unit).Ends between
      (fun _ _ => True) (fun _ _ => True)
      fun _ => work.session.Stops (some shape) (work.cache.Welcomes .cached shape) :=
    Act.Ends.discard ((ends_purgeSparing_rounds counted (some key)).imp (fun _ _ _ => trivial)
      (fun _ _ _ => trivial) fun _ cut => .logger fun calm => cut (reliable calm))
  exact purged.bind fun _ _ _ => Act.ends_pure welcomes

/-- A debug build finds a buffer, or makes one and purges the others. -/
theorem ends_findOrCreate_debug (accounted : work.cache.Accounted .debug) (shape : StencilShape) :
    (findOrCreate .debug shape : Act (CacheSession δ) ArenaKey).Ends work
      (fun _ _ => work.cache.Supplies shape) (fun _ _ => True)
      fun _ => work.session.Stops (some shape) (work.cache.Supplies shape) := by
  have keyed : (liftM (ScratchKey.forStencil .debug shape.width shape.height shape.samples) :
      Act (CacheSession δ) ScratchKey).Ends work
      (fun key left => shape.Narrow ∧ key = shape.scratchKey ∧ left = work) (fun _ _ => True)
      fun _ => work.session.Stops (some shape) (work.cache.Supplies shape) := by
    refine Act.Ends.within (Act.Ends.within ?_)
    refine (ScratchKey.ends_forStencil_debug shape work.session.journal).imp (fun key left ok => ?_)
      (fun _ _ _ => trivial) fun _ wide => .check fun supplies => wide supplies.narrow
    obtain ⟨narrow, key, rfl⟩ := ok
    exact ⟨narrow, key, rfl⟩
  have looked : (findScratch shape.scratchKey : Act (CacheSession δ) (Option ArenaKey)).Ends work
      (fun found left => found = (work.cache.findScratch shape.scratchKey).1 ∧
        left = { work with cache := (work.cache.findScratch shape.scratchKey).2 })
      (fun _ _ => True)
      fun _ => work.session.Stops (some shape) (work.cache.Supplies shape) := ⟨rfl, rfl⟩
  have logged (severity : Severity) (message : String) (between : CacheSession δ)
      (same : between.session = work.session) :
      (liftM (Journal.log severity component message) : Act (CacheSession δ) Unit).Ends between
        (fun _ left => between.Noted left) (fun _ _ => True)
        fun _ => work.session.Stops (some shape) (work.cache.Supplies shape) :=
    ((ends_log_noted between).unfit (steady_log _ _ _)).imp (fun _ _ noted => noted)
      (fun _ _ _ => trivial) fun _ cut => .logger (same ▸ cut.2)
  unfold findOrCreate
  refine keyed.bind fun scratch between ok => ?_
  obtain ⟨narrow, rfl, same⟩ := ok
  subst between
  refine looked.bind fun found between ok => ?_
  obtain ⟨answer, rfl⟩ := ok
  cases found with
  | some key =>
    have supplies : work.cache.Supplies shape := by
      refine ⟨narrow, fun absent => ?_⟩
      rw [absent] at answer
      contradiction
    have hit := logged .trace (lookupReport "hit" shape)
      { work with cache := (work.cache.findScratch shape.scratchKey).2 } rfl
    exact hit.bind fun _ _ _ => supplies
  | none =>
    rw [StencilCache.findScratch_of_none answer.symm]
    refine (logged _ _ work rfl).bind fun _ noted ok => ?_
    obtain ⟨entries, rfl⟩ := ok
    rw [← allocate_bind]
    let before : CacheSession δ :=
      { work with session.journal := work.session.journal.noted entries }
    have accounted' : before.cache.Accounted .debug := accounted
    refine (ends_allocate_purged_debug accounted' shape).imp
      (fun _ _ welcomes => ⟨narrow, fun _ => welcomes⟩) (fun _ _ _ => trivial) fun _ cut => ?_
    -- The report of the miss leaves the logger in charge and the backend.
    cases cut with
    | logger unreliable => exact .logger (unreliable ∘ (Journal.reliable_noted entries).mpr)
    | backend asked panics => exact .backend asked panics
    | check failed => exact .check fun supplies => failed (supplies.made answer.symm)

/-! ## Evictions -/

/-- The bytes are accounted for, and no logger fails. -/
def Orderly (build : Build) (work : CacheSession δ) : Prop := work.Accounted build ∧ work.Reliable

variable {build : Build}

theorem steady_evict_orderly (key : ArenaKey) :
    (evict build key : Act (CacheSession δ) Bool).Steady (Orderly build) := by
  intro left orderly
  cases live : left.cache.find? key with
  | none =>
    have ended := evict_outcome orderly.1 key
    rw [live] at ended
    rw [Act.ends_iff_outcome, ended]
    exact orderly
  | some buffer =>
    have evicted := (ends_evict_live orderly.1 live).and (keeps_evict_accounted key left orderly.1)
    exact evicted.imp (fun _ _ ok => ⟨ok.2, ok.1.2.2.mpr orderly.2⟩)
      (fun _ _ failed => failed.1.elim) fun _ cut => cut.1 orderly.2

theorem steady_evictAll_orderly (keys : List ArenaKey) :
    (keys.forM fun key => discard (evict build key) : Act (CacheSession δ) PUnit).Steady
      (Orderly build) :=
  Act.steady_forM fun key => (steady_evict_orderly key).discard

theorem steady_purgeSparing_orderly (keep : Option ArenaKey) :
    (purgeSparing build keep : Act (CacheSession δ) Nat).Steady (Orderly build) := by
  unfold purgeSparing
  exact Act.steady_get_bind fun _ => (steady_evictAll_orderly _).bind fun _ => Act.steady_pure _

theorem steady_purgeAll_orderly :
    (purgeAll build : Act (CacheSession δ) Unit).Steady (Orderly build) := by
  unfold purgeAll
  exact Act.steady_get_bind fun _ => steady_evictAll_orderly _

end CacheSession

/-- An attachment goes to the cache if the buffer it holds does not fit. -/
theorem StencilAttachment.ends_attach_debug {work : CacheSession δ} (attachment : StencilAttachment)
    (accounted : work.cache.Accounted .debug) (shape : StencilShape) :
    let checks := attachment.fitting? work.cache shape = none → work.cache.Supplies shape
    (attachment.attach .debug shape : Act (CacheSession δ) _).Ends work (fun _ _ => checks)
      (fun _ _ => True) fun _ => work.session.Stops (some shape) checks := by
  intro checks
  unfold attach
  apply Act.ends_get_bind
  cases fit : attachment.fitting? work.cache shape with
  | some key =>
    refine Act.ends_pure fun unfit => ?_
    rw [fit] at unfit
    contradiction
  | none =>
    have acquired := CacheSession.ends_findOrCreate_debug accounted shape
    refine (acquired.imp (fun _ _ supplies => ?_) (fun _ _ _ => trivial) fun _ cut => ?_).bind
      fun _ _ ok => ok
    · exact fun _ => supplies
    · exact cut.imp fun passed => passed fit

/-! ## Operations -/

namespace Operation

variable {work : CacheSession δ}

/-- An operation without checks of its own that is steady where the bytes are accounted for. -/
theorem ends_of_steady {act : Act (CacheSession δ) α} {fit : CacheSession δ → Prop}
    (steady : act.Steady fit) (ready : work.Reliable → fit work) (wanted : Option StencilShape) :
    act.Ends work (fun _ _ => True) (fun _ _ => True) fun _ => work.session.Stops wanted True :=
  (steady.ends work).imp (fun _ _ _ => trivial) (fun _ _ _ => trivial)
    fun _ cut => .logger (cut ∘ ready)

/-- An operation on a cache is cut short in a debug build by a logger, by the backend or by a check;
    what it answers has passed its checks. -/
theorem ends_act_debug (accounted : work.cache.Accounted .debug) (operation : Operation δ α) :
    (operation.act .debug).Ends work (fun _ _ => operation.Checks work.cache) (fun _ _ => True)
      fun _ => work.session.Stops operation.wants (operation.Checks work.cache) := by
  have orderly (reliable : work.Reliable) : work.Orderly .debug := ⟨accounted, reliable⟩
  cases operation with
  | insert buffer keyed =>
    exact (CacheSession.ends_insert_debug accounted buffer).imp (fun _ _ ok => ok.1)
      (fun _ _ _ => trivial) fun _ full => .check full
  | allocate lifeCycle shape =>
    exact (CacheSession.ends_allocate_debug accounted lifeCycle shape).imp (fun _ _ ok => ok.1)
      (fun _ _ _ => trivial) fun _ cut => cut
  | findOrCreate shape => exact CacheSession.ends_findOrCreate_debug accounted shape
  | attach attachment shape =>
    exact attachment.ends_attach_debug accounted shape
  | findScratch scratch => exact ends_of_steady (CacheSession.steady_findScratch scratch) id _
  | find key => exact Act.ends_get_bind (Act.ends_pure trivial)
  | contains key => exact Act.ends_get_bind (Act.ends_pure trivial)
  | access key => exact ends_of_steady (CacheSession.steady_access key) id _
  | setClip key clip => exact ends_of_steady (CacheSession.steady_setClip key clip) id _
  | releaseInPlace key => exact ends_of_steady (CacheSession.steady_releaseInPlace key) id _
  | evict key => exact ends_of_steady (CacheSession.steady_evict_orderly key) orderly _
  | purge => exact ends_of_steady (CacheSession.steady_purgeSparing_orderly none) orderly _
  | purgeAll => exact ends_of_steady CacheSession.steady_purgeAll_orderly orderly _
  | abandonAll => exact Act.ends_modify trivial
  | setBudget budget => exact Act.ends_modify trivial
  | resolve attachment => exact ends_of_steady attachment.steady_resolve id _
  | accessAttached attachment => exact ends_of_steady attachment.steady_access id _
  | setClipAttached attachment clip => exact ends_of_steady (attachment.steady_setClip clip) id _
  | elsewhere change => exact Act.ends_modify trivial

end Operation

variable {budget : CacheBudget} {work : CacheSession δ}

/-- In a debug build, in whatever state of a program, the total of a cache is the exact sum of the
    sizes of its buffers. An operation that puts nothing into the cache is not cut short, whatever it
    is applied to, unless a logger fails. An operation that puts a buffer into it is cut short by a
    logger, by the backend or by a check: that the buffer is not empty, that its lengths fit into a
    scratch key if it gets one, and that its size and the new total fit into words. If it answers, the
    checks were passed. -/
theorem debug_stops_at_checks (reached : Reachable .debug budget work) :
    work.cache.totalBytes.toNat =
        (work.cache.buffers.map fun buffer => buffer.shape.exactBytes).sum ∧
      (∀ {β : Type} (operation : Operation δ β), operation.adds = false → work.Reliable →
        (operation.act .debug).Ends work (fun _ _ => True) (fun _ _ => True) fun _ => False) ∧
      ∀ {β : Type} (operation : Operation δ β),
        (operation.act .debug).Ends work (fun _ _ => operation.Checks work.cache) (fun _ _ => True)
          fun _ => work.session.Stops operation.wants (operation.Checks work.cache) := by
  have accounted := reached.accounted
  refine ⟨accounted.totalBytes_exact, fun operation leaves reliable => ?_,
    fun operation => operation.ends_act_debug accounted⟩
  obtain ⟨wanted, checks⟩ := Operation.unchecked_of_adds leaves work.cache
  have ends := operation.ends_act_debug accounted
  rw [wanted] at ends
  refine ends.imp (fun _ _ _ => trivial) (fun _ _ _ => trivial) fun _ cut => ?_
  cases cut with
  | logger unreliable => exact unreliable reliable
  | backend asked panics => cases asked
  | check failed => exact failed checks

/-- After a look-up the buffer can be evicted, and a buffer whose bits cannot be counted cannot be
    put beside it. -/
theorem debug_stops_at_uncountable :
    let huge := StencilBuffer.made ⟨9⟩ .uncached none ⟨4294967295, 4294967295, 8, 0⟩
    ∃ work : CacheSession Software, Reachable .debug {} work ∧
      work.cache.totalBytes = 8192 ∧
      (work.cache.buffers.map fun buffer => buffer.shape.exactBytes).sum = 8192 ∧
      (CacheSession.evict .debug ⟨1, 1⟩).Ends work (fun _ _ => True) (fun _ _ => True)
        (fun _ => False) ∧
      ∀ key left, (CacheSession.insert .debug huge).outcome work ≠ (.ok key, left) := by
  intro huge
  have keyed : huge.Keyed := StencilBuffer.keyed_made _ _ _ _
  have large : ¬ huge.shape.sampleBits < 2 ^ 64 := by decide
  clear_value huge
  let lookup : Operation Software ArenaKey := .findOrCreate ⟨64, 32, 8, 4⟩
  obtain ⟨work, reached, ⟨entries, journal⟩, total⟩ : ∃ work : CacheSession Software,
      Reachable .debug {} work ∧ work.Reporting (Session.software none).journal ∧
        work.cache.totalBytes = 8192 := by
    have reporting : (lookup.act .debug).Keeps
        (CacheSession.Reporting (Session.software none).journal) := Operation.keeps_act .debug trivial
    have start : CacheSession.Reporting (Session.software none).journal
        ⟨{ budget := {} }, .software none⟩ := Journal.Grown.refl _
    exact ⟨((lookup.act .debug).outcome ⟨{ budget := {} }, .software none⟩).2,
      .step lookup (.start (.software none)) rfl, reporting.outcome start, by decide +kernel⟩
  have reliable : work.Reliable := by
    have calm : (Session.software none).journal.Reliable := by
      intro alarm opened kept entry
      cases opened
      rfl
    unfold CacheSession.Reliable Session.Reliable
    rw [journal]
    exact (Journal.reliable_noted entries).mpr calm
  obtain ⟨sum, steady, checked⟩ := debug_stops_at_checks reached
  refine ⟨work, reached, total, ?_, steady (.evict ⟨1, 1⟩) rfl reliable, fun key left answered => ?_⟩
  · rw [← sum, total]
    rfl
  · have admits : work.cache.Admits huge.shape := (checked (.insert huge keyed)).of_answer answered
    exact large admits.countable.bits

end RenderCore
