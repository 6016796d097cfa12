import RenderCore.Proofs.Stencil.BufferChanges
import RenderCore.Proofs.Stencil.ClipHistory
import RenderCore.Proofs.Stencil.Sharing

/-!
# Buffers that are handed out again

Looking a buffer up, or attaching one, may answer the key of a buffer that is in the cache already.
Whether such a buffer still has its storage is decided by its history: a buffer that was released
where it is stays listed, and is handed out like any other.
-/

namespace RenderCore

variable {δ α : Type}

namespace Operation

/-- The operation answered the key of a buffer to render into. -/
def Answers : Operation δ α → Except Fault α → ArenaKey → Prop
  | .findOrCreate _, .ok own, key => own = key
  | .attach _ _, .ok (own, _), key => own = key
  | _, _, _ => False

/-- The operation releases the buffer of a key where it is. -/
def Releases : Operation δ α → ArenaKey → Prop
  | .releaseInPlace own, key => own = key
  | _, _ => False

/-- The operation puts no cached buffer into the cache that was made over no storage. -/
def Backed : Operation δ α → Prop
  | .insert buffer _ => buffer.header.lifeCycle = .cached → ∃ storage, buffer.origin = some storage
  | _ => True

theorem released_revised (operation : Operation δ α) (key : ArenaKey) (buffer : StencilBuffer) :
    (operation.revised key buffer).header.released = true ↔
      buffer.header.released = true ∨ operation.Releases key := by
  cases operation with
  | releaseInPlace own =>
    by_cases same : key = own
    · simp [revised, Releases, same, StencilBuffer.abandon, ResourceHeader.markReleased]
    · simp [revised, Releases, same, Ne.symm same]
  | setClip own clip => simp only [revised, Releases, or_false]; split <;> rfl
  | setClipAttached attachment clip => simp only [revised, Releases, or_false]; split <;> rfl
  | _ => simp [revised, Releases]

theorem not_releases_of_brings {operation : Operation δ α} {buffer : StencilBuffer}
    (brings : operation.Brings buffer) (key : ArenaKey) : ¬ operation.Releases key := by
  cases operation with
  | releaseInPlace own => exact brings.elim
  | _ => exact id

theorem origin_of_brings {operation : Operation δ α} {buffer : StencilBuffer}
    (backed : operation.Backed) (brings : operation.Brings buffer)
    (cached : buffer.header.lifeCycle = .cached) : ∃ storage, buffer.origin = some storage := by
  cases operation with
  | insert inserted keyed =>
    obtain rfl : buffer = inserted := brings
    exact backed cached
  | allocate lifeCycle shape =>
    obtain ⟨id, storage, rfl⟩ := brings
    exact ⟨storage, rfl⟩
  | findOrCreate shape =>
    obtain ⟨id, storage, rfl⟩ := brings
    exact ⟨storage, rfl⟩
  | attach attachment shape =>
    obtain ⟨id, storage, rfl⟩ := brings
    exact ⟨storage, rfl⟩
  | _ => exact brings.elim

end Operation

theorem StencilBuffer.backed_iff {buffer : StencilBuffer} :
    (∃ storage, buffer.backing = some storage) ↔
      buffer.header.released = false ∧ ∃ storage, buffer.origin = some storage := by
  unfold backing
  cases buffer.header.released <;> simp

/-- Of the steps since a buffer is in the cache, one brought it. -/
theorem HeldFor.exists_brings {key : ArenaKey} {created : StencilBuffer} {since : List (Step δ)}
    (heldFor : HeldFor key created since) :
    ∃ coming ∈ since, coming.operation.Brings created := by
  obtain ⟨later, coming, rfl, -, brings, -⟩ := heldFor.came
  exact ⟨coming, List.mem_append_right _ (List.mem_singleton_self _), brings⟩

variable [backend : Backend δ] {held left : Holding δ} {key : ArenaKey} {build : Build}
  {budget : CacheBudget} {session : Session δ} {work : CacheSession δ} {step : Step δ}
  {steps : List (Step δ)}

/-- The key that was answered finds a buffer, and it is a cached one unless it was held by the
    attachment already. -/
theorem Operation.Effect.live_of_answers {operation : Operation δ α} {outcome : Except Fault α}
    (effect : operation.Effect held outcome left) (coherent : held.cache.Coherent)
    (answers : operation.Answers outcome key) :
    ∃ buffer, left.cache.find? key = some buffer ∧
      (buffer.header.lifeCycle = .cached ∨ ¬ operation.Grants outcome key ∧ left = held) := by
  cases outcome with
  | error fault => cases operation <;> exact answers.elim
  | ok answer =>
    cases operation with
    | findOrCreate shape =>
      obtain rfl : answer = key := answers
      obtain ⟨buffer, live, cached, -⟩ := Holding.Acquires.serves effect coherent
      exact ⟨buffer, live, .inl cached⟩
    | attach attachment shape =>
      obtain rfl : answer.1 = key := answers
      rcases StencilAttachment.Attaches.answers effect coherent with
        ⟨buffer, live, cached, -⟩ | ⟨own, rfl, buffer, live, -⟩
      · exact ⟨buffer, live, .inl cached⟩
      · exact ⟨buffer, live, .inr ⟨fun grants => grants.2 own, rfl⟩⟩
    | _ => exact answers.elim

/-- A buffer in the cache is released if it was when it came, or if it was released there since. -/
theorem Run.released_iff {buffer : StencilBuffer}
    (run : Run .release ⟨{ budget }, session⟩ steps work)
    (live : work.cache.find? key = some buffer) :
    ∃ since earlier created, steps = since ++ earlier ∧ HeldFor key created since ∧
      created.Same buffer ∧ (buffer.header.released = true ↔
        created.header.released = true ∨ ∃ step ∈ since, step.operation.Releases key) := by
  refine run.exists_heldFor (fun since created buffer => buffer.header.released = true ↔
    created.header.released = true ∨ ∃ step ∈ since, step.operation.Releases key) live ?_ ?_
  · intro step fresh coherent completes absent found
    obtain ⟨brings, -⟩ := (Step.handsOn coherent completes).new key fresh absent found
    simp [Operation.not_releases_of_brings brings key]
  · intro step since created held left coherent completes before found released
    have revised : step.after.cache.find? key = some (step.operation.revised key held) :=
      ((Step.effect completes).revises coherent.tidy before).resolve_left
        fun gone => nomatch gone.symm.trans found
    obtain rfl := Option.some.inj (revised.symm.trans found)
    rw [Operation.released_revised, released, List.exists_mem_cons_iff, or_assoc,
      or_comm (a := step.operation.Releases key)]

/-- The key that the last step of a run answered finds a buffer, and it is a cached one if the key
    was answered by a look-up of this cache, now or before, and not given out again since. -/
theorem Run.live_of_answers (run : Run .release ⟨{ budget }, session⟩ (step :: steps) work)
    (answers : step.operation.Answers step.outcome key) :
    ∃ buffer, work.cache.find? key = some buffer ∧
      (step.operation.Grants step.outcome key ∨ Granted steps key →
        buffer.header.lifeCycle = .cached) := by
  cases run with
  | cons run completes =>
    obtain ⟨buffer, live, cached⟩ :=
      (Step.effect completes).live_of_answers run.coherent answers
    refine ⟨buffer, live, fun granted => ?_⟩
    rcases cached with cached | ⟨held, same⟩
    · exact cached
    · have before : step.before.cache.find? key = some buffer :=
        (congrArg (·.cache.find? key) same).symm.trans live
      exact run.cached_of_granted (granted.resolve_left held) before

/-- The key that the last step of a run answered finds a buffer, which has its storage exactly if it
    was made over storage, was not given up before it came into the cache, and was not released in
    the cache since. If all cached buffers that were inserted were made over storage, and the key
    was answered by a look-up of this cache, now or before, and not given out again since, the
    buffer was made over storage. -/
theorem answered_live_iff (run : Run build ⟨{ budget }, session⟩ (step :: steps) work)
    (backed : ∀ other ∈ step :: steps, other.operation.Backed)
    (answers : step.operation.Answers step.outcome key) :
    ∃ buffer since earlier created, work.cache.find? key = some buffer ∧
      step :: steps = since ++ earlier ∧ HeldFor key created since ∧ created.Same buffer ∧
      ((buffer.header.released = false ∧ ∃ storage, buffer.backing = some storage) ↔
        (∃ storage, created.origin = some storage) ∧ created.header.released = false ∧
          ∀ other ∈ since, ¬ other.operation.Releases key) ∧
      (step.operation.Grants step.outcome key ∨ Granted steps key →
        ∃ storage, created.origin = some storage) := by
  have released := run.inRelease
  obtain ⟨buffer, live, cached⟩ := @Run.live_of_answers δ (backend.fixed build) _ _ _ _ _ _
    released answers
  obtain ⟨since, earlier, created, parts, heldFor, same, given⟩ :=
    @Run.released_iff δ (backend.fixed build) _ _ _ _ _ _ released live
  refine ⟨buffer, since, earlier, created, live, parts, heldFor, same, ?_, fun granted => ?_⟩
  · rw [StencilBuffer.backed_iff, ← same.origin, and_iff_right_of_imp And.left, and_comm,
      ← Bool.not_eq_true, given, ← Bool.not_eq_true]
    simp only [not_or, not_exists, not_and]
  · obtain ⟨coming, member, brings⟩ := heldFor.exists_brings
    have member : coming ∈ step :: steps := parts ▸ List.mem_append_left _ member
    exact Operation.origin_of_brings (backed coming member) brings
      (same.lifeCycle.symm.trans (cached granted))

/-- A buffer that is looked up again has its storage. -/
theorem answered_live_again :
    ∃ (steps : List (Step Software)) (work : CacheSession Software) (buffer : StencilBuffer),
      Run .release ⟨{ budget := {} }, .software none⟩ steps work ∧ steps.length = 2 ∧
        work.cache.find? ⟨1, 1⟩ = some buffer ∧ buffer.header.released = false ∧
        ∃ storage, buffer.backing = some storage := by
  have start : Run .release
      (⟨{ budget := {} }, .software none⟩ : CacheSession Software) [] _ := .nil
  have first := start.next (.findOrCreate ⟨64, 32, 8, 4⟩) (.ok ⟨1, 1⟩) (by decide +kernel)
  have again := first.next (.findOrCreate ⟨64, 32, 8, 4⟩) (.ok ⟨1, 1⟩) (by decide +kernel)
  have answers : (Operation.findOrCreate ⟨64, 32, 8, 4⟩ : Operation Software _).Answers
      (.ok ⟨1, 1⟩) ⟨1, 1⟩ := rfl
  obtain ⟨buffer, since, earlier, created, live, parts, heldFor, -, iff, origin⟩ :=
    answered_live_iff again (by simp [Step.taken, Operation.Backed]) answers
  have lookedUp : ∀ other ∈ since, ∃ outcome before,
      other = Step.taken .release (.findOrCreate ⟨64, 32, 8, 4⟩) outcome before := by
    intro other member
    have listed := parts ▸ List.mem_append_left earlier member
    simp only [List.mem_cons, List.not_mem_nil, or_false] at listed
    rcases listed with rfl | rfl
    · exact ⟨_, _, rfl⟩
    · exact ⟨_, _, rfl⟩
  obtain ⟨coming, member, brings⟩ := heldFor.exists_brings
  obtain ⟨_, _, rfl⟩ := lookedUp coming member
  obtain ⟨id, storage, rfl⟩ := brings
  refine ⟨_, _, buffer, again, rfl, live, iff.mpr ⟨origin (.inl rfl), rfl, fun other member => ?_⟩⟩
  obtain ⟨_, _, rfl⟩ := lookedUp other member
  exact not_false

/-- A buffer that was released where it is is looked up without its storage. -/
theorem released_buffer_reused :
    ∃ (step : Step Software) (steps : List (Step Software)) (work : CacheSession Software)
      (buffer : StencilBuffer),
      Run .release ⟨{ budget := {} }, .software none⟩ (step :: steps) work ∧
        (∀ other ∈ step :: steps, other.operation.Backed) ∧
        step.operation.Answers step.outcome ⟨1, 1⟩ ∧ work.cache.find? ⟨1, 1⟩ = some buffer ∧
        buffer.header.released = true ∧ buffer.backing = none := by
  have start : Run .release
      (⟨{ budget := {} }, .software none⟩ : CacheSession Software) [] _ := .nil
  have made := start.next (.findOrCreate ⟨64, 32, 8, 4⟩) (.ok ⟨1, 1⟩) (by decide +kernel)
  have released := made.next (.releaseInPlace ⟨1, 1⟩) (.ok true) (by decide +kernel)
  obtain ⟨step, steps, work, run, backed, answers, live⟩ :
      ∃ (step : Step Software) (steps : List (Step Software)) (work : CacheSession Software),
        Run .release ⟨{ budget := {} }, .software none⟩ (step :: steps) work ∧
          (∀ other ∈ step :: steps, other.operation.Backed) ∧
          step.operation.Answers step.outcome ⟨1, 1⟩ ∧
          (work.cache.find? ⟨1, 1⟩).any (·.header.released) = true :=
    ⟨_, _, _, released.next (.findOrCreate ⟨64, 32, 8, 4⟩) (.ok ⟨1, 1⟩) (by decide +kernel),
      by simp [Step.taken, Operation.Backed], rfl, by decide +kernel⟩
  obtain ⟨buffer, live, gone⟩ := (Option.any_eq_true _ _).mp live
  exact ⟨step, steps, work, buffer, run, backed, answers, live, gone, if_pos gone⟩

end RenderCore
