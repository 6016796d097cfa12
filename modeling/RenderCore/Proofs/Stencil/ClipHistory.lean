import RenderCore.Proofs.Clip.Coverage
import RenderCore.Proofs.Stencil.DebugRuns
import RenderCore.Proofs.Stencil.KeyHistory

/-!
# Which clip a buffer holds

A clip need not be rendered into a buffer again if the buffer holds it. What a buffer holds is the
record that was made last since the buffer was created, whatever else happened in between.
-/

namespace RenderCore

variable {δ α : Type}

/-- The clip that was recorded in a buffer. A blank record is not told from none: neither serves any
    clip. -/
def StencilBuffer.record? (buffer : StencilBuffer) : Option ClipRecord :=
  if buffer.clip = .blank then none else some buffer.clip

theorem StencilBuffer.getD_record? (buffer : StencilBuffer) :
    buffer.record?.getD .blank = buffer.clip := by
  unfold record?
  split
  · next blank => exact blank.symm
  · rfl

theorem StencilBuffer.clip_of_wrap {build : Build} {lifeCycle : LifeCycle}
    {origin : Option StencilId} {shape : StencilShape} {s t : Session δ} {fresh : StencilBuffer}
    (wrapped : (wrap build lifeCycle origin shape).outcome s = (.ok fresh, t)) :
    fresh.clip = .blank := by
  obtain ⟨⟨id, rfl⟩, -⟩ := (stricter_wrap build lifeCycle origin shape).answered
    (ends_wrap lifeCycle origin shape s) wrapped
  rfl

/-- The clip that an operation recorded in the buffer of a key, by its outcome. A buffer that was
    made elsewhere comes with the clip that was recorded in it before. -/
def Operation.recorded : Operation δ α → Except Fault α → ArenaKey → Option ClipRecord
  | .insert buffer _, .ok own, key => if key = own then buffer.record? else none
  | .setClip own clip, .ok true, key => if key = own then some clip else none
  | .setClipAttached attachment clip, .ok (true, _), key =>
    if attachment.key = some key then some clip else none
  | _, _, _ => none

/-! ## Clips recorded in steps -/

/-- The clip that a step recorded in the buffer of a key. -/
def Step.recorded (step : Step δ) (key : ArenaKey) : Option ClipRecord :=
  step.operation.recorded step.outcome key

/-- The clip that was recorded last in the buffer of a key, in some steps. -/
def lastRecord (steps : List (Step δ)) (key : ArenaKey) : Option ClipRecord :=
  steps.findSome? (·.recorded key)

theorem getD_lastRecord_cons (step : Step δ) (steps : List (Step δ)) (key : ArenaKey)
    (clip : ClipRecord) : (lastRecord (step :: steps) key).getD clip =
      (step.recorded key).getD ((lastRecord steps key).getD clip) := by
  rw [lastRecord, List.findSome?_cons]
  cases step.recorded key <;> rfl

/-- The steps since a buffer is in the cache under a key, last one first: in the first of them it
    came, and all others found it there. -/
structure HeldFor (key : ArenaKey) (created : StencilBuffer) (since : List (Step δ)) : Prop where
  came : ∃ later coming, since = later ++ [coming] ∧ coming.before.cache.find? key = none ∧
    coming.operation.Brings created ∧ ∀ step ∈ later,
      ∃ held, step.before.cache.find? key = some held ∧ created.Same held

theorem HeldFor.next {key : ArenaKey} {created held : StencilBuffer} {since : List (Step δ)}
    (heldFor : HeldFor key created since) {step : Step δ}
    (live : step.before.cache.find? key = some held) (same : created.Same held) :
    HeldFor key created (step :: since) := by
  obtain ⟨later, coming, rfl, absent, brings, kept⟩ := heldFor.came
  refine ⟨step :: later, coming, rfl, absent, brings, fun other member => ?_⟩
  rcases List.mem_cons.mp member with rfl | member
  · exact ⟨held, live, same⟩
  · exact kept other member

/-! ## One operation -/

namespace StencilCache

variable {cache other : StencilCache} {records : ArenaKey → Option ClipRecord}
  {brought : StencilBuffer → Prop}

/-- The cache goes over into `other`: buffers that are in both have the clip that was recorded in
    between, or else the one they had. Those that came in between are as `brought` says. -/
structure HandsOn (cache other : StencilCache) (records : ArenaKey → Option ClipRecord)
    (brought : StencilBuffer → Prop) : Prop where
  kept : ∀ key buffer after, cache.find? key = some buffer → other.find? key = some after →
    buffer.Same after ∧ after.clip = (records key).getD buffer.clip
  new : ∀ key after, cache.find? key = none → other.find? key = some after →
    brought after ∧ after.clip = (records key).getD .blank

/-- At most, buffers were taken away. -/
theorem handsOn_of_lost
    (lost : ∀ key, other.find? key = none ∨ other.find? key = cache.find? key)
    (silent : ∀ key, records key = none) : cache.HandsOn other records brought where
  kept key buffer after before found := by
    have same : other.find? key = cache.find? key := (lost key).resolve_left (by simp [found])
    obtain rfl : buffer = after := by simpa [before, found] using same.symm
    exact ⟨.refl buffer, by rw [silent, Option.getD_none]⟩
  new key after before found := by
    rcases lost key with gone | same
    · simp [found] at gone
    · simp [found, before] at same

/-- A buffer came in, and others may have been taken away for it. -/
theorem handsOn_of_lodged {buffer : StencilBuffer} (coherent : cache.Coherent)
    (lost : ∀ key, other.find? key = none ∨ other.find? key = (cache.lodge buffer).2.find? key)
    (comes : brought buffer)
    (recorded : buffer.clip = (records (cache.lodge buffer).1).getD .blank)
    (silent : ∀ key ≠ (cache.lodge buffer).1, records key = none) :
    cache.HandsOn other records brought where
  kept key held after before found := by
    have elsewhere : key ≠ (cache.lodge buffer).1 := by
      rintro rfl
      simp [find?_lodge_key coherent.tidy] at before
    have same := (lost key).resolve_left (by simp [found])
    rw [find?_lodge coherent.tidy, if_neg elsewhere, found, before] at same
    obtain rfl := Option.some.inj same
    exact ⟨.refl after, by rw [silent key elsewhere, Option.getD_none]⟩
  new key after before found := by
    have same := (lost key).resolve_left (by simp [found])
    rw [find?_lodge coherent.tidy, found, before] at same
    by_cases own : key = (cache.lodge buffer).1
    · rw [if_pos own] at same
      obtain rfl := Option.some.inj same
      exact ⟨comes, own ▸ recorded⟩
    · simp [own] at same

/-- The buffer of one key was changed. -/
theorem handsOn_of_revised (own : ArenaKey) {change : StencilBuffer → StencilBuffer}
    (same : ∀ buffer : StencilBuffer, buffer.Same (change buffer))
    (found : ∀ key, other.find? key = ((cache.touch own).revise own change).find? key)
    (recorded : ∀ buffer, cache.find? own = some buffer →
      (change buffer).clip = (records own).getD buffer.clip)
    (silent : ∀ key ≠ own, records key = none) : cache.HandsOn other records brought where
  kept key buffer after before live := by
    rw [found, find?_revise, find?_touch, find?_touch, before] at live
    by_cases this : key = own
    · subst this
      rw [if_pos rfl, before] at live
      obtain rfl := Option.some.inj live
      exact ⟨same buffer, recorded buffer before⟩
    · rw [if_neg this] at live
      obtain rfl := Option.some.inj live
      exact ⟨.refl buffer, by rw [silent key this, Option.getD_none]⟩
  new key after before live := by
    rw [found, find?_revise, find?_touch, find?_touch, before] at live
    by_cases this : key = own
    · simp [← this, before] at live
    · simp [this] at live

end StencilCache

open StencilCache

variable [backend : Backend δ] {held left : Holding δ}

theorem StencilBuffer.clip_of_allocate {build : Build} {lifeCycle : LifeCycle}
    {shape : StencilShape} {s t : Session δ} {fresh : StencilBuffer}
    (allocated : (allocate build lifeCycle shape).outcome s = (.ok fresh, t)) :
    fresh.clip = .blank := by
  obtain ⟨id, storage, -, rfl⟩ := (stricter_allocate build lifeCycle shape).answered
    (@ends_allocate δ (backend.fixed build) lifeCycle shape s) allocated
  rfl

theorem Holding.Allocates.handsOn {lifeCycle : LifeCycle} {shape : StencilShape}
    {outcome : Except Fault ArenaKey} {brought : StencilBuffer → Prop}
    (allocates : held.Allocates lifeCycle shape outcome left) (coherent : held.cache.Coherent)
    (comes : ∀ id storage, brought (.made id lifeCycle (some storage) shape)) :
    held.cache.HandsOn left.cache (fun _ => none) brought := by
  cases allocates with
  | made given =>
    exact handsOn_of_lodged coherent (fun _ => .inr rfl) (comes _ _) rfl fun _ _ => rfl
  | refused given => exact handsOn_of_lost (fun _ => .inr rfl) fun _ => rfl

theorem Holding.Acquires.handsOn {shape : StencilShape} {outcome : Except Fault ArenaKey}
    {brought : StencilBuffer → Prop} (acquires : held.Acquires shape outcome left)
    (coherent : held.cache.Coherent)
    (comes : ∀ id storage, brought (.made id .cached (some storage) shape)) :
    held.cache.HandsOn left.cache (fun _ => none) brought := by
  cases acquires with
  | hit found => exact handsOn_of_lost (fun key => .inr (find?_touch _ _ key)) fun _ => rfl
  | miss absent allocated =>
    rw [Holding.cache_evictAll]
    cases allocated with
    | made given =>
      exact handsOn_of_lodged coherent (lost_dischargeAll _ _) (comes _ _) rfl fun _ _ => rfl
  | refused absent allocated => exact allocated.handsOn coherent comes

/-- What becomes of the clips that the buffers hold. -/
theorem Operation.Effect.handsOn {operation : Operation δ α} {outcome : Except Fault α}
    (effect : operation.Effect held outcome left) (coherent : held.cache.Coherent) :
    held.cache.HandsOn left.cache (operation.recorded outcome) operation.Brings := by
  cases operation with
  | insert buffer keyed =>
    obtain ⟨rfl, rfl⟩ := effect
    refine handsOn_of_lodged coherent (fun _ => .inr rfl) rfl ?_ fun key other => if_neg other
    exact (congrArg (Option.getD · _) (if_pos rfl)).trans buffer.getD_record? |>.symm
  | allocate lifeCycle shape =>
    exact Holding.Allocates.handsOn effect coherent fun id storage => ⟨id, storage, rfl⟩
  | findScratch scratch =>
    exact effect.2 ▸ handsOn_of_lost (fun key => .inr (find?_findScratch _ scratch key))
      fun _ => rfl
  | findOrCreate shape =>
    exact Holding.Acquires.handsOn effect coherent fun id storage => ⟨id, storage, rfl⟩
  | find key => exact effect.2 ▸ handsOn_of_lost (fun _ => .inr rfl) fun _ => rfl
  | contains key => exact effect.2 ▸ handsOn_of_lost (fun _ => .inr rfl) fun _ => rfl
  | access own =>
    exact effect.2 ▸ handsOn_of_lost (fun key => .inr (find?_touch _ own key)) fun _ => rfl
  | setClip own clip =>
    obtain ⟨rfl, rfl⟩ := effect
    refine handsOn_of_revised own (fun buffer => buffer.same_clip clip) (fun _ => rfl) ?_ ?_
    · intro buffer live
      rw [contains_eq, live]
      exact (congrArg (Option.getD · _) (if_pos rfl : _ = some clip)).symm
    · intro key other
      cases held.cache.contains own with
      | true => exact if_neg other
      | false => rfl
  | releaseInPlace own =>
    exact effect.2 ▸ handsOn_of_revised own StencilBuffer.same_abandon (fun _ => rfl)
      (fun _ _ => rfl) fun _ _ => rfl
  | evict own =>
    exact effect.2 ▸ handsOn_of_lost (lost_dischargeAll _ [own]) fun _ => rfl
  | purge =>
    obtain ⟨rfl, rfl⟩ := effect
    rw [Holding.cache_evictAll]
    exact handsOn_of_lost (lost_dischargeAll _ _) fun _ => rfl
  | purgeAll =>
    obtain ⟨rfl, rfl⟩ := effect
    rw [Holding.cache_evictAll]
    exact handsOn_of_lost (lost_dischargeAll _ _) fun _ => rfl
  | abandonAll =>
    exact effect.2 ▸ handsOn_of_lost (fun key => .inl (find?_abandonAll _ key)) fun _ => rfl
  | setBudget budget => exact effect.2 ▸ handsOn_of_lost (fun _ => .inr rfl) fun _ => rfl
  | attach attachment shape =>
    cases effect with
    | kept fits => exact handsOn_of_lost (fun _ => .inr rfl) fun _ => rfl
    | acquired unfit acquires =>
      exact acquires.handsOn coherent fun id storage => ⟨id, storage, rfl⟩
    | refused unfit acquires =>
      exact acquires.handsOn coherent fun id storage => ⟨id, storage, rfl⟩
  | resolve attachment => exact effect.2 ▸ handsOn_of_lost (fun _ => .inr rfl) fun _ => rfl
  | accessAttached attachment =>
    exact effect.2 ▸ handsOn_of_lost (fun key => .inr (attachment.find?_used _ key)) fun _ => rfl
  | setClipAttached attachment clip =>
    obtain ⟨rfl, rfl⟩ := effect
    obtain ⟨own⟩ := attachment
    cases own with
    | none => exact handsOn_of_lost (fun _ => .inr rfl) fun _ => rfl
    | some own =>
      cases live : held.cache.find? own with
      | none =>
        rw [StencilAttachment.resolved_of_none live, StencilAttachment.clipped_of_none live]
        exact handsOn_of_lost (fun _ => .inr rfl) fun _ => rfl
      | some buffer =>
        rw [StencilAttachment.resolved_of_some live]
        refine handsOn_of_revised own (fun buffer => buffer.same_clip clip) ?_ ?_ ?_
        · intro key
          rw [StencilAttachment.clipped_of_some live, StencilCache.revise, find?_touch, live]
        · intro buffer _
          exact (congrArg (Option.getD · _) (if_pos rfl : _ = some clip)).symm
        · intro key other
          exact if_neg fun same => other (Option.some.inj same).symm
  | elsewhere change => exact handsOn_of_lost (fun key => .inr (by rw [effect.2.1])) fun _ => rfl

/-! ## Runs -/

variable {budget : CacheBudget} {session : Session δ} {work : CacheSession δ}
  {steps : List (Step δ)}

theorem Step.handsOn {step : Step δ} (coherent : step.before.cache.Coherent)
    (completes : step.Completes .release) :
    step.before.cache.HandsOn step.after.cache step.recorded step.operation.Brings :=
  (Step.effect completes).handsOn coherent

/-- What holds of a buffer when it has come into the cache, and goes on to hold in every step that
    leaves it there, holds as long as it is there. -/
theorem Run.exists_heldFor {key : ArenaKey} {buffer : StencilBuffer}
    (run : Run .release ⟨{ budget }, session⟩ steps work)
    (history : List (Step δ) → StencilBuffer → StencilBuffer → Prop)
    (live : work.cache.find? key = some buffer)
    (comes : ∀ (step : Step δ) (fresh : StencilBuffer), step.before.cache.Coherent →
      step.Completes .release → step.before.cache.find? key = none →
      step.after.cache.find? key = some fresh → history [step] fresh fresh)
    (stays : ∀ (step : Step δ) (since : List (Step δ)) (created held left : StencilBuffer),
      step.before.cache.Coherent → step.Completes .release →
      step.before.cache.find? key = some held → step.after.cache.find? key = some left →
      history since created held → history (step :: since) created left) :
    ∃ since earlier created, steps = since ++ earlier ∧ HeldFor key created since ∧
      created.Same buffer ∧ history since created buffer := by
  induction run generalizing buffer with
  | nil => simp [StencilCache.find?] at live
  | @cons step steps run completes ih =>
    have handsOn := Step.handsOn run.coherent completes
    cases before : step.before.cache.find? key with
    | none =>
      -- The buffer came with this step, which is its whole history.
      obtain ⟨brings, -⟩ := handsOn.new key buffer before live
      exact ⟨[step], steps, buffer, rfl, ⟨[], step, rfl, before, brings, by simp⟩,
        .refl buffer, comes step buffer run.coherent completes before live⟩
    | some held =>
      obtain ⟨since, earlier, created, rfl, heldFor, same, known⟩ := ih before
      obtain ⟨same', -⟩ := handsOn.kept key held buffer before live
      exact ⟨step :: since, earlier, created, rfl, heldFor.next before same, same.trans same',
        stays step since created held buffer run.coherent completes before live known⟩

/-- A buffer in the cache holds the clip that was recorded last since it came. -/
theorem Run.holds_lastRecord {key : ArenaKey} {buffer : StencilBuffer}
    (run : Run .release ⟨{ budget }, session⟩ steps work)
    (live : work.cache.find? key = some buffer) :
    ∃ since earlier created, steps = since ++ earlier ∧ HeldFor key created since ∧
      created.Same buffer ∧ buffer.clip = (lastRecord since key).getD .blank := by
  refine run.exists_heldFor (fun since _ buffer => buffer.clip = (lastRecord since key).getD .blank)
    live ?_ ?_
  · intro step fresh coherent completes absent found
    obtain ⟨-, clip⟩ := (Step.handsOn coherent completes).new key fresh absent found
    exact clip.trans (getD_lastRecord_cons step [] key .blank).symm
  · intro step since created held left coherent completes before found clip
    obtain ⟨-, clip'⟩ := (Step.handsOn coherent completes).kept key held left before found
    rw [clip', clip, getD_lastRecord_cons]

/-- In a run of either build, a clip need not be rendered into a buffer of the cache exactly if the
    record that was made last since the buffer was created has the generation and the displacement
    that are wanted, and covers every pixel of the wanted rectangle, of which there is one. A step
    that records nothing in the buffer, and leaves it in the cache, changes none of these answers;
    and every clip has to be rendered into a new buffer. -/
theorem needless_iff_recorded {build : Build} {key : ArenaKey} {buffer : StencilBuffer}
    (run : Run build ⟨{ budget }, session⟩ steps work)
    (live : work.cache.find? key = some buffer) :
    (∃ since earlier created, steps = since ++ earlier ∧ HeldFor key created since ∧
      created.Same buffer ∧ ∀ wanted : ClipRecord, buffer.clip.mustRender wanted = false ↔
        ∃ clip, lastRecord since key = some clip ∧ clip.generation = wanted.generation ∧
          clip.offset = wanted.offset ∧ wanted.rect.Fills clip.rect) ∧
      (∀ step : Step δ, step.before = work → step.Completes build → step.recorded key = none →
        ∀ after, step.after.cache.find? key = some after →
          ∀ wanted, after.clip.mustRender wanted = buffer.clip.mustRender wanted) ∧
      ∀ (lifeCycle : LifeCycle) (origin : Option StencilId) (shape : StencilShape)
        (s t : Session δ) (fresh : StencilBuffer),
        (StencilBuffer.wrap build lifeCycle origin shape).outcome s = (.ok fresh, t) ∨
            (StencilBuffer.allocate build lifeCycle shape).outcome s = (.ok fresh, t) →
          ∀ wanted, fresh.clip.mustRender wanted = true := by
  have released := run.inRelease
  refine ⟨?_, ?_, ?_⟩
  · obtain ⟨since, earlier, created, parts, heldFor, same, clip⟩ :=
      @Run.holds_lastRecord δ (backend.fixed build) _ _ _ _ _ _ released live
    refine ⟨since, earlier, created, parts, heldFor, same, fun wanted => ?_⟩
    rw [clip, ClipRecord.mustRender_getD_eq_false_iff]
  · rintro step rfl completes silent after found wanted
    have handsOn :=
      @Step.handsOn δ (backend.fixed build) step run.coherent completes.inRelease
    rw [(handsOn.kept key buffer after live found).2, silent, Option.getD_none]
  · rintro lifeCycle origin shape s t fresh (wrapped | allocated) wanted
    · rw [StencilBuffer.clip_of_wrap wrapped, ClipRecord.mustRender_blank]
    · rw [StencilBuffer.clip_of_allocate allocated, ClipRecord.mustRender_blank]

/-- A clip recorded in a buffer serves a smaller rectangle afterwards, and no rectangle without
    pixels. -/
theorem needless_after_setClip :
    ∃ (steps : List (Step Software)) (work : CacheSession Software) (buffer : StencilBuffer),
      Run .release ⟨{ budget := {} }, .software none⟩ steps work ∧
        work.cache.find? ⟨1, 1⟩ = some buffer ∧
        (∃ (since : List (Step Software)) (created : StencilBuffer) (clip : ClipRecord),
          HeldFor ⟨1, 1⟩ created since ∧ lastRecord since ⟨1, 1⟩ = some clip ∧
            (⟨0, 0, 16, 8⟩ : Rect).Fills clip.rect) ∧
        buffer.clip.mustRender ⟨⟨7⟩, ⟨0, 0, 0, 8⟩, .zero⟩ = true := by
  have start : Run .release
      (⟨{ budget := {} }, .software none⟩ : CacheSession Software) [] _ := .nil
  have created := start.next (.findOrCreate ⟨64, 32, 8, 4⟩) (.ok ⟨1, 1⟩) (by decide +kernel)
  obtain ⟨steps, work, run, answers⟩ : ∃ steps work,
      Run .release (⟨{ budget := {} }, .software none⟩ : CacheSession Software) steps work ∧
        (work.cache.find? ⟨1, 1⟩).any (fun buffer =>
          !buffer.clip.mustRender ⟨⟨7⟩, ⟨0, 0, 16, 8⟩, .zero⟩ &&
            buffer.clip.mustRender ⟨⟨7⟩, ⟨0, 0, 0, 8⟩, .zero⟩) = true :=
    ⟨_, _, created.next (.setClip ⟨1, 1⟩ ⟨⟨7⟩, ⟨0, 0, 32, 32⟩, .zero⟩) (.ok true)
      (by decide +kernel), by decide +kernel⟩
  obtain ⟨buffer, live, answers⟩ := (Option.any_eq_true _ _).mp answers
  rw [Bool.and_eq_true, Bool.not_eq_true'] at answers
  obtain ⟨⟨since, earlier, first, -, heldFor, -, iff⟩, -⟩ := needless_iff_recorded run live
  obtain ⟨clip, last, -, -, fills⟩ := (iff _).mp answers.1
  exact ⟨steps, work, buffer, run, live, ⟨since, first, clip, heldFor, last, fills⟩, answers.2⟩

end RenderCore
