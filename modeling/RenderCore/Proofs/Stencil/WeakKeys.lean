import RenderCore.Proofs.Stencil.KeyHistory
import RenderCore.Proofs.Stencil.Progress

/-!
# Weak keys are never recycled

A key that a run gave out refers to one buffer, from the step that gave it out to the step that
takes the buffer away, and to nothing ever after. The invariant behind this relates the slots of the
arena to the keys given out in the whole run.
-/

namespace RenderCore

variable {δ : Type}

/-- The keys given out in a step. -/
def Step.issued (step : Step δ) : List ArenaKey :=
  step.operation.issued step.before.cache step.outcome

/-- Whether the step may take the buffer of a key away. -/
def Step.Removes (step : Step δ) (key : ArenaKey) : Prop := step.operation.Removes step.issued key

/-- Whether the step takes the buffer of a key away, if there is one. -/
def Step.Drops (step : Step δ) (key : ArenaKey) : Prop := step.operation.Drops key

/-- The keys given out in a run, last one first. -/
def issuedKeys (steps : List (Step δ)) : List ArenaKey := steps.flatMap Step.issued

theorem issuedKeys_cons (step : Step δ) (steps : List (Step δ)) :
    issuedKeys (step :: steps) = step.issued ++ issuedKeys steps := rfl

/-- The key refers to a buffer, which may have got another clip since or have been given up. -/
def CacheSession.Keeps (work : CacheSession δ) (key : ArenaKey) (buffer : StencilBuffer) : Prop :=
  work.cache.contains key = true ∧ ∃ held, work.cache.find? key = some held ∧ buffer.Same held

theorem CacheSession.keeps_iff {work : CacheSession δ} {key : ArenaKey} {buffer : StencilBuffer} :
    work.Keeps key buffer ↔ ∃ held, work.cache.find? key = some held ∧ buffer.Same held := by
  constructor
  · intro keeps
    exact keeps.2
  · intro found
    obtain ⟨held, live, same⟩ := found
    refine ⟨?_, held, live, same⟩
    rw [StencilCache.contains_eq, live]
    rfl

variable [backend : Backend δ] {build : Build}

/-- What a key comes to that refers to nothing: it finds nothing, using it changes no entry, it
    cannot be evicted, and attachments that hold it let it go, unless a logger fails. -/
structure CacheSession.Stale (build : Build) (work : CacheSession δ) (key : ArenaKey) : Prop where
  contains : work.cache.contains key = false
  find : work.cache.find? key = none
  access : (access key).outcome work = (.ok none, { work with cache := work.cache.tick })
  evict : (evict build key).outcome work = (.ok false, work)
  resolve : ∀ attachment : StencilAttachment, attachment.key = some key →
    attachment.resolve.Ends work
      (fun answer left => answer = (none, .detached) ∧ left.cache = work.cache)
      (fun _ _ => False) (fun left => left.cache = work.cache ∧ ¬ work.Reliable)
  resolveToChange : ∀ attachment : StencilAttachment, attachment.key = some key →
    attachment.access.Ends work
      (fun answer left => answer = (none, .detached) ∧ left.cache = work.cache)
      (fun _ _ => False) (fun left => left.cache = work.cache ∧ ¬ work.Reliable)

theorem CacheSession.stale_of_find? {work : CacheSession δ} {key : ArenaKey}
    (stale : work.cache.find? key = none) : work.Stale build key := by
  have contains : work.cache.contains key = false := by
    rw [StencilCache.contains_eq, stale]
    rfl
  have letGo : (StencilAttachment.letGo key : Act (CacheSession δ) StencilAttachment).Ends work
      (fun left t => left = .detached ∧ t.cache = work.cache) (fun _ _ => False)
      (fun left => left.cache = work.cache) := by
    unfold StencilAttachment.letGo
    exact (ends_log work).bind fun _ t same => Act.ends_pure ⟨rfl, congrArg Holding.cache same⟩
  refine ⟨contains, stale, ?_, ?_, fun attachment own => ?_, fun attachment own => ?_⟩
  · have untouched : work.cache.touch key = work.cache.tick :=
      StencilCache.touch_of_none (by simpa [StencilCache.find?] using stale)
    have found : (work.cache.touch key).find? key = none := by
      rw [StencilCache.find?_touch, stale]
    change (Except.ok ((work.cache.touch key).find? key),
      { work with cache := work.cache.touch key }) =
        ((.ok none, _) : Except Stop _ × CacheSession δ)
    rw [found, untouched]
  · unfold CacheSession.evict
    rw [Act.outcome_get_bind, StencilCache.remove?_of_none stale]
    rfl
  · refine Act.Ends.unfit ?_ attachment.steady_resolve
    unfold StencilAttachment.resolve
    rw [own]
    apply Act.ends_get_bind
    rw [stale]
    refine letGo.bind fun left t ok => Act.ends_pure ?_
    rw [ok.1]
    exact ⟨rfl, ok.2⟩
  · refine Act.Ends.unfit ?_ attachment.steady_access
    unfold StencilAttachment.access
    rw [own]
    apply Act.ends_get_bind
    rw [contains]
    refine letGo.bind fun left t ok => Act.ends_pure ?_
    rw [ok.1]
    exact ⟨rfl, ok.2⟩

/-! ## Runs -/

theorem Step.dropped {step : Step δ} {key : ArenaKey} (completes : step.Completes build)
    (drops : step.Drops key) : step.after.cache.find? key = none :=
  @Operation.Effect.dropped δ _ (backend.fixed build) _ _ _ _ _ (Step.effectIn completes) drops

theorem Step.evolves {step : Step δ} (coherent : step.before.cache.Coherent)
    (completes : step.Completes build) :
    step.before.cache.Evolves step.after.cache step.issued step.operation.Brings step.Removes :=
  @Operation.Effect.evolves δ _ (backend.fixed build) _ _ _ _ (Step.effectIn completes) coherent

variable {budget : CacheBudget} {session : Session δ} {work : CacheSession δ}

/-- The slots of the arena are those of an arena that gave out the keys of the run. -/
theorem Run.ledger {steps : List (Step δ)} (run : Run build ⟨{ budget }, session⟩ steps work)
    (few : (issuedKeys steps).length < 2 ^ 31) : work.cache.entries.Ledger (issuedKeys steps) := by
  induction run with
  | nil => exact Arena.ledger_empty
  | @cons step steps run completes ih =>
    rw [issuedKeys_cons] at few ⊢
    have fewer : (issuedKeys steps).length < 2 ^ 31 := by
      rw [List.length_append] at few
      omega
    exact ((Step.evolves run.coherent completes).ledger _ (ih fewer) few).1

/-- The steps up to some step of a run. -/
theorem Run.upTo {start : CacheSession δ} {later earlier : List (Step δ)}
    {step : Step δ} (run : Run build start (later ++ step :: earlier) work) :
    Run build start earlier step.before ∧ step.Completes build := by
  induction later generalizing work with
  | nil =>
    cases run with
    | cons run completes => exact ⟨run, completes⟩
  | cons last later ih =>
    cases run with
    | cons run completes => exact ih run

/-- After a key was given out, its buffer stays until a step takes it away, and from then on the key
    refers to nothing. -/
theorem Run.keeps_until_removed {later earlier : List (Step δ)} {step : Step δ} {key : ArenaKey}
    {buffer : StencilBuffer}
    (run : Run build ⟨{ budget }, session⟩ (later ++ step :: earlier) work)
    (few : (issuedKeys (later ++ step :: earlier)).length < 2 ^ 31)
    (issued : key ∈ step.issued) (live : step.after.Keeps key buffer) :
    ∃ gone kept, later = gone ++ kept ∧
      (∀ between ∈ kept, between.after.Keeps key buffer ∧ ¬ between.Drops key) ∧
      (∀ taking ∈ gone.getLast?, taking.Removes key) ∧
      (∀ between ∈ gone, between.after.Stale build key) ∧
      if gone = [] then work.Keeps key buffer else work.cache.find? key = none := by
  induction later generalizing work with
  | nil =>
    cases run with
    | cons run completes => exact ⟨[], [], rfl, by simp, by simp, by simp, live⟩
  | cons last later ih =>
    cases run with
    | cons run completes =>
      rw [List.cons_append, issuedKeys_cons] at few
      have fewer : (issuedKeys (later ++ step :: earlier)).length < 2 ^ 31 := by
        rw [List.length_append] at few
        omega
      have evolves := Step.evolves run.coherent completes
      have new := (evolves.ledger _ (run.ledger fewer) few).2
      have now : key ∈ issuedKeys (later ++ step :: earlier) :=
        List.mem_flatMap.mpr ⟨step, by simp, issued⟩
      obtain ⟨gone, kept, rfl, keeps, taken, stale, held⟩ := ih run fewer
      by_cases none_gone : gone = []
      · rw [if_pos none_gone] at held
        obtain ⟨-, held, found, same⟩ := held
        subst none_gone
        rcases evolves.kept key held found with ⟨held', found', same'⟩ | ⟨missing, removes⟩
        · have kept_on : last.after.Keeps key buffer :=
            CacheSession.keeps_iff.mpr ⟨held', found', same.trans same'⟩
          refine ⟨[], last :: kept, rfl, ?_, by simp, by simp, kept_on⟩
          intro between member
          rcases List.mem_cons.mp member with rfl | member
          · refine ⟨kept_on, fun drops => ?_⟩
            rw [Step.dropped completes drops] at found'
            contradiction
          · exact keeps between member
        · refine ⟨[last], kept, rfl, keeps, by simpa using removes, ?_, missing⟩
          intro between member
          rw [List.mem_singleton.mp member]
          exact CacheSession.stale_of_find? missing
      · rw [if_neg none_gone] at held
        have missing : last.after.cache.find? key = none :=
          evolves.stale key held fun again => new key again now
        refine ⟨last :: gone, kept, rfl, keeps, ?_, ?_, missing⟩
        · rw [List.getLast?_cons_of_ne_nil none_gone]
          exact taken
        · intro between member
          rcases List.mem_cons.mp member with rfl | member
          · exact CacheSession.stale_of_find? missing
          · exact stale between member

/-- Fewer than 2³¹ keys are given out in a run of either build. Then a key given out in a step was
    not given out before; it refers to the buffer that came with the step until a later step takes
    that away, by an eviction, a purge or the loss of all buffers; and from then on it refers to
    nothing. -/
theorem key_never_recycled {later earlier : List (Step δ)} {step : Step δ} {key : ArenaKey}
    (run : Run build ⟨{ budget }, session⟩ (later ++ step :: earlier) work)
    (few : (issuedKeys (later ++ step :: earlier)).length < 2 ^ 31) (issued : key ∈ step.issued) :
    key ∉ issuedKeys earlier ∧
      ∃ buffer, step.operation.Brings buffer ∧ step.after.Keeps key buffer ∧
        ∃ gone kept, later = gone ++ kept ∧
          (∀ between ∈ kept, between.after.Keeps key buffer ∧ ¬ between.Drops key) ∧
          (∀ taking ∈ gone.getLast?, taking.Removes key) ∧
          ∀ between ∈ gone, between.after.Stale build key := by
  obtain ⟨before, completes⟩ := run.upTo
  have evolves := Step.evolves before.coherent completes
  have fewer : (step.issued ++ issuedKeys earlier).length < 2 ^ 31 := by
    rw [issuedKeys, List.flatMap_append, List.length_append] at few
    rw [← issuedKeys_cons, issuedKeys]
    omega
  have ledger := before.ledger (by rw [List.length_append] at fewer; omega)
  obtain ⟨buffer, held, brought, found, same⟩ := evolves.fresh key issued
  have live : step.after.Keeps key buffer := CacheSession.keeps_iff.mpr ⟨held, found, same⟩
  obtain ⟨gone, kept, parts, keeps, taken, stale, -⟩ := run.keeps_until_removed few issued live
  exact ⟨(evolves.ledger _ ledger fewer).2 key issued, buffer, brought, live, gone, kept, parts,
    keeps, taken, stale⟩

/-- The slot of a buffer that was evicted is filled again, under another key. -/
theorem key_stale_after_eviction :
    ∃ (first : Step Software) (later : List (Step Software)) (work : CacheSession Software),
      Run .release ⟨{ budget := {} }, .software none⟩ (later ++ [first]) work ∧
        issuedKeys (later ++ [first]) = [⟨1, 3⟩, ⟨1, 1⟩] ∧
        ∃ buffer, first.operation.Brings buffer ∧ first.after.Keeps ⟨1, 1⟩ buffer ∧
          ∃ gone kept, later = gone ++ kept ∧
            (∀ between ∈ kept, between.after.Keeps ⟨1, 1⟩ buffer) ∧
            gone ≠ [] ∧ ∀ between ∈ gone, between.after.Stale .release ⟨1, 1⟩ := by
  have start : Run .release
      (⟨{ budget := {} }, .software none⟩ : CacheSession Software) [] _ := .nil
  have first := start.next (.findOrCreate ⟨64, 32, 8, 4⟩) (.ok ⟨1, 1⟩) (by decide +kernel)
  have gone := first.next (.evict ⟨1, 1⟩) (.ok true) (by decide +kernel)
  have second := gone.next (.findOrCreate ⟨64, 32, 8, 4⟩) (.ok ⟨1, 3⟩) (by decide +kernel)
  have run : Run .release _ ([_, _] ++ _ :: []) _ := second
  obtain ⟨-, buffer, brought, live, removed, kept, parts, keeps, -, stale⟩ :=
    key_never_recycled run (by decide +kernel) (by decide +kernel : ⟨1, 1⟩ ∈ _)
  have some_gone : removed ≠ [] := by
    intro none_gone
    rw [none_gone, List.nil_append] at parts
    rw [← parts] at keeps
    have undropped := (keeps _ (List.mem_cons_of_mem _ List.mem_cons_self)).2
    exact undropped (show (⟨1, 1⟩ : ArenaKey) = ⟨1, 1⟩ from rfl)
  exact ⟨_, _, _, run, by decide +kernel, buffer, brought, live, removed, kept, parts,
    fun between member => (keeps between member).1, some_gone, stale⟩

end RenderCore
