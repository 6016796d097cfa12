import RenderCore.Proofs.Stencil.CacheMoves

/-!
# What a program does, as moves

However it ends, what a program does to a cache comes to moves that are due to it: only what asks
for a buffer asks the backend for storage, only what evicts lets buffers leave, and so on. And what
is answered has been done: the answer and the cache tell which events there were, each of them
whole.
-/

namespace RenderCore

variable {δ α : Type}

/-! ## Attachments -/

namespace StencilAttachment

section reports

variable [Backend δ] {build : Build} {may : Move δ → Prop} {events : List Event} {first : Scene δ}
  {work : CacheSession δ} (reports : ∀ entry, may (.report entry))

include reports in
theorem keeps_letGo_reached (key : ArenaKey) :
    (letGo key : Act (CacheSession δ) StencilAttachment).Keeps
      (CacheSession.Reached build may events first) := by
  unfold letGo
  exact (CacheSession.keeps_log_reached reports (by decide) _ _).bind fun _ => Act.keeps_pure _

include reports in
theorem keeps_resolve_reached (attachment : StencilAttachment) :
    (attachment.resolve : Act (CacheSession δ) _).Keeps
      (CacheSession.Reached build may events first) := by
  unfold resolve
  split
  · exact Act.keeps_pure _
  · refine Act.keeps_get_bind fun work => ?_
    split
    · exact Act.keeps_pure _
    · exact (keeps_letGo_reached reports _).bind fun _ => Act.keeps_pure _

include reports in
theorem keeps_access_reached (attachment : StencilAttachment) :
    (attachment.access : Act (CacheSession δ) _).Keeps
      (CacheSession.Reached build may events first) := by
  unfold access
  split
  · exact Act.keeps_pure _
  · refine Act.keeps_get_bind fun work => ?_
    split
    · exact (CacheSession.keeps_access_reached _).bind fun _ => Act.keeps_pure _
    · exact (keeps_letGo_reached reports _).bind fun _ => Act.keeps_pure _

/-- Recording a clip through an attachment is recording it under the key that is held. -/
def Tells (attachment : StencilAttachment) (clip : ClipRecord) (before : StencilCache)
    (found : Bool) (events : List Event) : Prop :=
  match attachment.key with
  | some key => before.Tells key (.handle key (.record clip)) found events
  | none => found = false ∧ events = []

include reports in
theorem ends_setClip_reached (attachment : StencilAttachment) (clip : ClipRecord)
    (handles : ∀ key freed, attachment.key = some key → may (.handle key (.record clip) freed))
    (start : CacheSession.Reached build may events first work) :
    (attachment.setClip clip : Act (CacheSession δ) _).Ends work
      (fun answer t => ∃ news, attachment.Tells clip work.cache answer.1 news ∧
        CacheSession.Reached build may (events ++ news) first t)
      (fun _ _ => False) (CacheSession.CutShort build may first) := by
  unfold setClip
  refine ((keeps_access_reached reports attachment work start).and
    (ends_access rfl attachment)).imp (fun _ _ ok => ok) (fun _ _ failed => failed.2)
    (fun _ cut => cut.1.cutShort) |>.bind fun answer t ok => ?_
  obtain ⟨left, rfl, holding⟩ := ok
  obtain ⟨key⟩ := attachment
  have idle : CacheSession.Reached build may (events ++ []) first t := by rwa [List.append_nil]
  cases key with
  | none => exact ⟨[], ⟨rfl, rfl⟩, idle⟩
  | some key =>
    have cache : t.cache = used ⟨some key⟩ work.cache := congrArg Holding.cache holding
    have contains := StencilCache.contains_eq work.cache key
    cases live : work.cache.find? key with
    | none =>
      rw [show work.holding.cache = work.cache from rfl, resolved_of_none live]
      rw [live] at contains
      exact ⟨[], ⟨contains.symm, rfl⟩, idle⟩
    | some buffer =>
      have found : t.cache.find? key = some buffer := by rw [cache, find?_used, live]
      have recorded := left.handled found (handles key · rfl)
      rw [StencilCache.revise, found] at recorded
      rw [show work.holding.cache = work.cache from rfl, resolved_of_some live]
      rw [live] at contains
      exact ⟨_, ⟨contains.symm, rfl⟩, recorded⟩

include reports in
theorem ends_attach_reached (attachment : StencilAttachment) {shape : StencilShape}
    (asks : may (.ask shape))
    (comes : ∀ id storage key, may (.come key (.made id .cached (some storage) shape)))
    (wasted : ∀ id storage lost, may (.waste (.made id .cached (some storage) shape) lost))
    (leaves : ∀ key, ∀ how ∈ [Leaving.evicted, .cutShort], ∀ freed lost,
      may (.leave key how freed lost))
    (start : CacheSession.Reached build may events first work) :
    (attachment.attach build shape : Act (CacheSession δ) _).Ends work
      (fun answer t => ∃ news, work.cache.Acquired answer.1 t.cache news ∧
        CacheSession.Reached build may (events ++ news) first t)
      (fun _ => CacheSession.Reached build may events first)
      (CacheSession.CutShort build may first) := by
  unfold attach
  apply Act.ends_get_bind
  have seen : attachment.fitting? work.cache shape = attachment.fitting work.cache.find? shape := rfl
  rw [seen]
  cases fits : attachment.fitting work.cache.find? shape with
  | some key =>
    refine Act.ends_pure ⟨[], ?_, by rwa [List.append_nil]⟩
    rw [StencilCache.Acquired, if_pos (live_of_fitting fits)]
  | none =>
    exact (CacheSession.ends_findOrCreate_reached reports asks comes wasted leaves start).bind
      fun _ _ ok => Act.ends_pure ok

end reports

end StencilAttachment

/-! ## What a program does -/

namespace Operation

/-- The buffers that an operation may evict, by their keys. -/
def Evicts : Operation δ α → ArenaKey → Prop
  | .evict own, key => key = own
  | .findOrCreate _, _ => True
  | .attach _ _, _ => True
  | .purge, _ => True
  | .purgeAll, _ => True
  | _, _ => False

/-- How an operation handles a buffer that it leaves in the cache. -/
def handles? : Operation δ α → Option (ArenaKey × Handling)
  | .setClip key clip => some (key, .record clip)
  | .releaseInPlace key => some (key, .release)
  | .setClipAttached attachment clip => attachment.key.map fun key => (key, .record clip)
  | _ => none

/-- What an operation does to the session away from the cache. -/
def aside? : Operation δ α → Option (Session δ → Session δ)
  | .elsewhere change => some change
  | _ => none

/-- Whether an operation makes the cache forget its buffers. -/
def Forgets : Operation δ α → Prop
  | .abandonAll => True
  | _ => False

/-- The moves that are due to an operation. -/
def May (operation : Operation δ α) : Move δ → Prop
  | .report _ => True
  | .ask shape => operation.wants = some shape
  | .come _ buffer => operation.Brings buffer
  | .waste buffer _ => operation.Brings buffer
  | .handle key handling _ => operation.handles? = some (key, handling)
  | .leave key how _ _ =>
    match how with
    | .evicted => operation.Evicts key
    | .cutShort => operation.Evicts key
    | .forgotten => operation.Forgets
    | .dropped => False
  | .elsewhere change => operation.aside? = some change

theorem may_leave {operation : Operation δ α} {key : ArenaKey} (evicts : operation.Evicts key) :
    ∀ how ∈ [Leaving.evicted, .cutShort], ∀ freed lost,
      operation.May (.leave key how freed lost) := by
  intro how member freed lost
  simp only [List.mem_cons, List.not_mem_nil, or_false] at member
  obtain rfl | rfl := member <;> exact evicts

/-- The events among the moves of an operation that is answered, by the cache before it, its answer
    and the cache after it. -/
def Course : Operation δ α → StencilCache → α → StencilCache → List Event → Prop
  | .insert _ _, before, key, _, events => before.find? key = none ∧ events = [.come key]
  | .allocate _ _, before, key, _, events => before.find? key = none ∧ events = [.come key]
  | .findOrCreate _, before, key, after, events => before.Acquired key after events
  | .attach _ _, before, answer, after, events => before.Acquired answer.1 after events
  | .setClip key clip, before, found, _, events =>
    before.Tells key (.handle key (.record clip)) found events
  | .setClipAttached attachment clip, before, answer, _, events =>
    attachment.Tells clip before answer.1 events
  | .releaseInPlace key, before, found, _, events =>
    before.Tells key (.handle key .release) found events
  | .evict key, before, found, _, events => before.Tells key (.leave key .evicted) found events
  | .purge, before, count, _, events =>
    events = (before.excess none).map (.leave · .evicted) ∧ count = events.length
  | .purgeAll, before, _, _, events => events = before.keys.map (.leave · .evicted)
  | .abandonAll, before, _, _, events => events = before.keys.map (.leave · .forgotten)
  | _, _, _, _, events => events = []

variable [Backend δ] {build : Build} {work : CacheSession δ}

/-- An operation that concerns no buffer. -/
theorem ends_of_keeps (operation : Operation δ α)
    (idle : ∀ before answer after, operation.Course before answer after [])
    (keeps : (operation.act build).Keeps
      (CacheSession.Reached build operation.May [] work.scene))
    (start : CacheSession.Reached build operation.May [] work.scene work) :
    (operation.act build).Ends work
      (fun answer t => ∃ events, operation.Course work.cache answer t.cache events ∧
        CacheSession.Reached build operation.May events work.scene t)
      (fun _ => CacheSession.Reached build operation.May [] work.scene)
      (CacheSession.CutShort build operation.May work.scene) :=
  (keeps work start).imp (fun _ _ left => ⟨[], idle _ _ _, left⟩) (fun _ _ failed => failed)
    fun _ cut => cut.cutShort

/-- However an operation ends, it comes to moves that are due to it. If it is answered, the events
    among them are in accord with the answer; if it reports a fault, there are none. -/
theorem ends_act_reached (operation : Operation δ α) (arranged : work.cache.Arranged) :
    (operation.act build).Ends work
      (fun answer t => ∃ events, operation.Course work.cache answer t.cache events ∧
        CacheSession.Reached build operation.May events work.scene t)
      (fun _ => CacheSession.Reached build operation.May [] work.scene)
      (CacheSession.CutShort build operation.May work.scene) := by
  have reports : ∀ entry, operation.May (.report entry) := fun _ => trivial
  have start : CacheSession.Reached build operation.May [] work.scene work :=
    ⟨arranged, .refl work.scene, by simp⟩
  cases operation with
  | insert buffer keyed =>
    refine (CacheSession.ends_insert_reached keyed ?_ ?_ start).unfailing.ok
      fun key _ ok => ⟨[.come key], ⟨ok.1, rfl⟩, ok.2.2⟩
    · exact fun _ => rfl
    · exact rfl
  | allocate lifeCycle shape =>
    exact (CacheSession.ends_allocate_reached reports rfl (fun id storage _ => ⟨id, storage, rfl⟩)
      (fun id storage _ => ⟨id, storage, rfl⟩) start).ok
      fun key _ ok => ⟨[.come key], ⟨ok.1, rfl⟩, ok.2.2⟩
  | findScratch scratch =>
    exact ends_of_keeps _ (fun _ _ _ => rfl)
      (Act.keeps_modifyGet fun _ start => start.findScratch scratch) start
  | findOrCreate shape =>
    exact CacheSession.ends_findOrCreate_reached reports rfl
      (fun id storage _ => ⟨id, storage, rfl⟩) (fun id storage _ => ⟨id, storage, rfl⟩)
      (fun key => Operation.may_leave trivial) start
  | find key =>
    exact ends_of_keeps _ (fun _ _ _ => rfl) (Act.keeps_get_bind fun _ => Act.keeps_pure _) start
  | contains key =>
    exact ends_of_keeps _ (fun _ _ _ => rfl) (Act.keeps_get_bind fun _ => Act.keeps_pure _) start
  | access key =>
    exact ends_of_keeps _ (fun _ _ _ => rfl) (CacheSession.keeps_access_reached key) start
  | setClip key clip =>
    rw [Operation.act, ← CacheSession.handle_record]
    exact (CacheSession.ends_handle_reached key (.record clip) (fun _ => rfl) start).certain
  | releaseInPlace key =>
    rw [Operation.act, ← CacheSession.handle_release]
    exact (CacheSession.ends_handle_reached key .release (fun _ => rfl) start).certain
  | evict key =>
    exact (CacheSession.ends_evict_reached reports key (Operation.may_leave rfl) start).unfailing.ok
      fun _ _ ok => ok.2
  | purge =>
    refine (CacheSession.ends_purgeSparing_reached reports
      (fun key => Operation.may_leave trivial) none start).unfailing.ok fun count _ ok => ?_
    obtain ⟨rfl, -, left⟩ := ok
    exact ⟨_, ⟨rfl, (List.length_map _).symm⟩, left⟩
  | purgeAll =>
    exact (CacheSession.ends_purgeAll_reached reports (fun key => Operation.may_leave trivial)
      start).unfailing.ok fun _ _ left => ⟨_, rfl, left⟩
  | abandonAll => exact Act.ends_modify ⟨_, rfl, start.abandonAll fun _ _ _ => trivial⟩
  | setBudget budget =>
    refine ends_of_keeps _ (fun _ _ _ => rfl) ?_ start
    exact CacheSession.keeps_edit_reached (fun cache arranged => arranged.recounted budget _)
      fun _ => rfl
  | attach attachment shape =>
    exact StencilAttachment.ends_attach_reached reports attachment rfl
      (fun id storage _ => ⟨id, storage, rfl⟩) (fun id storage _ => ⟨id, storage, rfl⟩)
      (fun key => Operation.may_leave trivial) start
  | resolve attachment =>
    exact ends_of_keeps _ (fun _ _ _ => rfl)
      (StencilAttachment.keeps_resolve_reached reports attachment) start
  | accessAttached attachment =>
    exact ends_of_keeps _ (fun _ _ _ => rfl)
      (StencilAttachment.keeps_access_reached reports attachment) start
  | setClipAttached attachment clip =>
    refine (StencilAttachment.ends_setClip_reached reports attachment clip (fun key _ held => ?_)
      start).unfailing
    simp [Operation.May, Operation.handles?, held]
  | elsewhere change =>
    refine Act.ends_modify ⟨[], rfl, start.arranged, ?_, by simp⟩
    exact start.reached.aside (.elsewhere rfl rfl) rfl rfl

end Operation

/-- What a program does to a cache: it carries out an operation, or handles a buffer in its
    place. -/
inductive Deed (δ : Type) where
  | operate {α : Type} (operation : Operation δ α)
  | handle (key : ArenaKey) (handling : Handling)

namespace Deed

/-- The moves that are due to a deed. -/
def May : Deed δ → Move δ → Prop
  | .operate operation, move => operation.May move
  | .handle _ _, .report _ => True
  | .handle own what, .handle key handling _ => key = own ∧ handling = what
  | .handle _ _, _ => False

/-- What a deed answers. -/
def Answer : Deed δ → Type
  | @operate _ α _ => α
  | .handle _ _ => Bool

/-- The events among the moves of a deed that is answered. -/
def Course : (deed : Deed δ) → StencilCache → deed.Answer → StencilCache → List Event → Prop
  | .operate operation => operation.Course
  | .handle key handling => fun before found _ events =>
    before.Tells key (.handle key handling) found events

/-- The events among the moves of a deed, by the end that it came to. A deed that reports a fault
    has none; where one panics, only the last event may be what the panic left of it. -/
def Ended (deed : Deed δ) (before : StencilCache) (outcome : Except Stop deed.Answer)
    (after : StencilCache) (events : List Event) : Prop :=
  match outcome with
  | .ok answer => deed.Course before answer after events ∧ ∀ event ∈ events, event.Whole
  | .error (.fault _) => events = []
  | .error (.panic _) => ∀ event ∈ events.dropLast, event.Whole

theorem Ended.course {operation : Operation δ α} {before after : StencilCache} {answer : α}
    {outcome : Except Stop (operate operation).Answer} {events : List Event}
    (ended : (operate operation).Ended before outcome after events)
    (answered : outcome = .ok answer) : operation.Course before answer after events := by
  subst answered
  exact ended.1

variable [Backend δ] (build : Build) {work : CacheSession δ}

/-- A deed, done. -/
def act : (deed : Deed δ) → Act (CacheSession δ) deed.Answer
  | .operate operation => operation.act build
  | .handle key handling => CacheSession.handle key handling

theorem ends_act_reached (deed : Deed δ) (arranged : work.cache.Arranged) :
    (deed.act build).Ends work
      (fun answer t => ∃ events, deed.Course work.cache answer t.cache events ∧
        CacheSession.Reached build deed.May events work.scene t)
      (fun _ => CacheSession.Reached build deed.May [] work.scene)
      (CacheSession.CutShort build deed.May work.scene) := by
  cases deed with
  | handle key handling =>
    have start : CacheSession.Reached build (Deed.handle key handling : Deed δ).May [] work.scene
        work := ⟨arranged, .refl work.scene, by simp⟩
    exact (CacheSession.ends_handle_reached key handling (fun _ => ⟨rfl, rfl⟩) start).certain
  | operate operation => exact operation.ends_act_reached arranged

/-- However a deed ends, it comes to moves that are due to it and in accord with its end. -/
theorem exists_moves (deed : Deed δ) (arranged : work.cache.Arranged) :
    ((deed.act build).outcome work).2.cache.Arranged ∧
      ∃ moves, Moves build work.scene moves ((deed.act build).outcome work).2.scene ∧
        (∀ move ∈ moves, deed.May move) ∧
        deed.Ended work.cache ((deed.act build).outcome work).1
          ((deed.act build).outcome work).2.cache (moves.filterMap Move.event?) := by
  have ends := deed.ends_act_reached build arranged
  rw [Act.ends_iff_outcome] at ends
  split at ends <;> rename_i outcome <;> rw [outcome]
  · obtain ⟨events, course, arranged, ⟨moves, made, due, rfl⟩, whole⟩ := ends
    exact ⟨arranged, moves, made, due, course, whole⟩
  · obtain ⟨arranged, ⟨moves, made, due, none⟩, -⟩ := ends
    exact ⟨arranged, moves, made, due, none⟩
  · obtain ⟨arranged, events, ⟨moves, made, due, rfl⟩, whole⟩ := ends
    exact ⟨arranged, moves, made, due, whole⟩

end Deed

/-- In every state that a program can reach, also in a debug build and after a panic, the cache is in
    order but for the total. -/
theorem Reachable.arranged [Backend δ] {build : Build} {budget : CacheBudget}
    {work : CacheSession δ} (reached : Reachable build budget work) : work.cache.Arranged := by
  induction reached with
  | start session => exact (StencilCache.coherent_empty budget).arranged
  | @step before after α operation outcome reached ended ih =>
    obtain ⟨left, -⟩ := (Deed.operate operation).exists_moves build ih
    change ((operation.act build).outcome before).2.cache.Arranged at left
    rw [ended] at left
    exact left

end RenderCore
