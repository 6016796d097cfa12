import RenderCore.Proofs.Engine.Owners
import RenderCore.Proofs.Stencil.FirstKeys
import RenderCore.Proofs.Stencil.WeakKeys

/-!
# Keys of one cache in another

Each cache numbers its keys from the start, and a key does not tell which cache gave it out. So a
key that outlives its cache refers to nothing in a later cache until that cache gives out the same
key itself; from then on it refers to a buffer that it was never given out for. The first key that
any cache gives out is the same.
-/

namespace RenderCore

namespace Engine

variable {δ α : Type}

variable {engine left : Engine δ} {handle : CacheHandle}

/-- A cache that is still there after a change of its owners is the same. -/
theorem view_of_changed {change : SharedCache → Option SharedCache} {other : CacheHandle}
    {cache : StencilCache}
    (same : ∀ shared shared', change shared = some shared' → shared'.cache = shared.cache)
    (opened : (engine.changed other change).view handle = some cache) :
    engine.view handle = some cache := by
  rw [view_changed] at opened
  split at opened
  · rename_i equal
    obtain ⟨shared', changed, unlocked⟩ := Option.bind_eq_some_iff.mp opened
    obtain ⟨shared, live, changed⟩ := Option.bind_eq_some_iff.mp changed
    rw [same shared shared' changed] at unlocked
    rw [equal, view, live]
    exact unlocked
  · exact opened

theorem view_of_released {other : CacheHandle} {cache : StencilCache}
    (opened : (engine.released other).view handle = some cache) :
    engine.view handle = some cache :=
  view_of_changed (fun _ _ left => SharedCache.cache_of_released left) opened

/-- A cache that may have been made to forget its buffers. -/
theorem view_of_emptied (engine : Engine δ) {change : SharedCache → SharedCache}
    {other : CacheHandle} {cache : StencilCache}
    (empties : ∀ shared, change shared = shared ∨ change shared = shared.abandoned)
    (opened : (engine.changed other fun shared => some (change shared)).view handle = some cache) :
    ∃ before, engine.view handle = some before ∧ (cache = before ∨ cache = before.abandonAll) := by
  rw [view_changed] at opened
  split at opened
  · rename_i equal
    obtain ⟨shared', changed, unlocked⟩ := Option.bind_eq_some_iff.mp opened
    obtain ⟨shared, live, changed⟩ := Option.bind_eq_some_iff.mp changed
    obtain rfl := Option.some.inj changed
    rw [equal, view, live]
    rcases empties shared with same | empty
    · rw [same] at unlocked
      exact ⟨cache, unlocked, .inl rfl⟩
    · rw [empty, SharedCache.open?_abandoned] at unlocked
      obtain ⟨before, found, rfl⟩ := Option.map_eq_some_iff.mp unlocked
      exact ⟨before, found, .inr rfl⟩
  · exact ⟨cache, opened, .inl rfl⟩

/-! ## Turns -/

/-- What becomes of a cache as its holders find it, and the keys that it gives out meanwhile. -/
inductive Turn (δ : Type) :
    Option StencilCache → Option StencilCache → List ArenaKey → Prop where
  | closed {before : Option StencilCache} : Turn δ before none []
  | made (budget : CacheBudget) : Turn δ none (some { budget }) []
  | kept (cache : StencilCache) : Turn δ (some cache) (some cache) []
  | emptied (cache : StencilCache) : Turn δ (some cache) (some cache.abandonAll) []
  /-- Which backend the cache works over is left open: a debug build does what a release build does
      over another one. -/
  | worked {β : Type} [Backend δ] {operation : Operation δ β} {held left : Holding δ}
      {outcome : Except Fault β} (effect : operation.Effect held outcome left) :
      Turn δ (some held.cache) (some left.cache) (operation.issued held.cache outcome)

/-- What a call may do to a cache as its holders find it: a new one is made, or the buffers are
    forgotten. -/
theorem Moved.view (moved : engine.Moved left) {cache : StencilCache}
    (opened : left.view handle = some cache) :
    (∃ before, engine.view handle = some before ∧ (cache = before ∨ cache = before.abandonAll)) ∨
      engine.shared? handle = none ∧ ∃ budget, cache = { budget } := by
  cases moved with
  | kept registry caches => exact .inl ⟨cache, view_of_same caches handle ▸ opened, .inl rfl⟩
  | created budget vacant =>
    rw [Engine.view, shared?_created] at opened
    split at opened
    · rename_i new
      exact .inr ⟨new ▸ engine.shared?_nextHandle, budget, (Option.some.inj opened).symm⟩
    · exact .inl ⟨cache, opened, .inl rfl⟩
  | retained other =>
    refine .inl ⟨cache, view_of_changed (fun shared shared' left => ?_) opened, .inl rfl⟩
    rw [← Option.some.inj left]
    rfl
  | released other => exact .inl ⟨cache, view_of_released opened, .inl rfl⟩
  | @abandoned other registered =>
    have empties (shared : SharedCache) :
        shared.abandoned = shared ∨ shared.abandoned = shared.abandoned := .inr rfl
    exact .inl (view_of_emptied (engine.registering none) empties (view_of_released opened))
  | @withdrawn other registered =>
    have empties (shared : SharedCache) :
        shared.forsaken = shared ∨ shared.forsaken = shared.abandoned := by
      unfold SharedCache.forsaken
      split
      · exact .inr rfl
      · exact .inl rfl
    exact .inl (view_of_emptied (engine.registering none) empties (view_of_released opened))

theorem Turn.refl (view : Option StencilCache) : Turn δ view view [] := by
  cases view with
  | none => exact .closed
  | some cache => exact .kept cache

theorem Moved.turn (moved : engine.Moved left) (handle : CacheHandle) :
    Turn δ (engine.view handle) (left.view handle) [] := by
  cases opened : left.view handle with
  | none => exact .closed
  | some cache =>
    rcases moved.view opened with ⟨before, seen, rfl | rfl⟩ | ⟨new, budget, rfl⟩
    · rw [seen]
      exact .kept _
    · rw [seen]
      exact .emptied before
    · rw [Engine.view, new]
      exact .made budget

/-! ## Keys kept apart -/

/-- What a cache has come to, as its holders find it, that gave out some keys. -/
structure Traced (view : Option StencilCache) (issued : List ArenaKey) : Prop where
  first : issued = [] ∨ ⟨1, 1⟩ ∈ issued
  coherent : ∀ cache, view = some cache → cache.Coherent
  /-- A key of another cache refers to nothing, unless it was given out here as well. -/
  foreign : ∀ cache, view = some cache → ∀ key, key ∉ issued → cache.find? key = none
  unused : issued = [] → ∀ cache, view = some cache → cache.Unused

/-- What a turn does to a cache that keeps its keys apart. -/
theorem Turn.traced {before after : Option StencilCache} {issued earlier : List ArenaKey}
    (turn : Turn δ before after issued) (traced : Traced before earlier) :
    Traced after (issued ++ earlier) := by
  cases turn with
  | closed => exact ⟨traced.first, nofun, nofun, fun _ => nofun⟩
  | made budget =>
    have empty : StencilCache.Unused { budget } := rfl
    refine ⟨traced.first, ?_, ?_, fun _ => ?_⟩
    all_goals
      intro cache same
      cases same
    · exact StencilCache.coherent_empty budget
    · exact fun key _ => empty.find? key
    · exact empty
  | kept cache => exact traced
  | emptied cache =>
    refine ⟨traced.first, ?_, ?_, fun unissued => ?_⟩
    all_goals
      intro cache same
      cases same
    · exact (traced.coherent cache rfl).abandonAll
    · exact fun key _ => StencilCache.find?_abandonAll cache key
    · exact (traced.unused unissued cache rfl).abandonAll
  | @worked _ _ operation held left outcome effect =>
    have coherent := traced.coherent _ rfl
    refine ⟨?_, ?_, ?_, fun unissued => ?_⟩
    · rcases traced.first with unissued | member
      · rcases effect.first coherent (traced.unused unissued _ rfl) with ⟨none, -⟩ | first
        · exact .inl (by rw [none, unissued]; rfl)
        · exact .inr (by rw [first]; exact List.mem_cons_self)
      · exact .inr (List.mem_append_right _ member)
    all_goals
      intro cache same
      cases same
    · exact effect.coherent coherent
    · intro key foreign
      rw [List.mem_append, not_or] at foreign
      exact (effect.evolves coherent).stale key (traced.foreign _ rfl key foreign.2) foreign.1
    · obtain ⟨none, unissued⟩ := List.append_eq_nil_iff.mp unissued
      rcases effect.first coherent (traced.unused unissued _ rfl) with ⟨-, unused⟩ | first
      · exact unused
      · rw [none] at first
        contradiction

/-- A key that was just given out refers to a buffer. -/
theorem Turn.fresh {before : Option StencilCache} {cache : StencilCache} {issued : List ArenaKey}
    (turn : Turn δ before (some cache) issued)
    (coherent : ∀ cache, before = some cache → cache.Coherent) {key : ArenaKey}
    (member : key ∈ issued) : ∃ buffer, cache.find? key = some buffer := by
  cases turn with
  | made budget => contradiction
  | kept cache => contradiction
  | emptied cache => contradiction
  | @worked _ _ operation held left outcome effect =>
    obtain ⟨-, buffer, -, found, -⟩ := (effect.evolves (coherent _ rfl)).fresh key member
    exact ⟨buffer, found⟩

/-! ## Steps -/

/-- The keys that an action gave out for a cache, by the cache before it and its outcome. -/
def Action.given (handle : CacheHandle) :
    Action δ α → Option StencilCache → Except Stop α → List ArenaKey
  | .use other operation _, some cache, .ok (some answer) =>
    if other = handle then operation.issued cache (.ok answer) else []
  | _, _, _ => []

section given

variable {handle other : CacheHandle} {operation : Operation δ α} {discreet : operation.Discreet}

theorem Action.given_of_locked (view : Option StencilCache) :
    (use other operation discreet).given handle view (.ok none) = [] := by
  cases view <;> rfl

theorem Action.given_of_ne (apart : other ≠ handle) (view : Option StencilCache)
    (outcome : Except Stop (Option α)) :
    (use other operation discreet).given handle view outcome = [] := by
  rcases view with _ | cache
  · rfl
  · rcases outcome with stop | _ | answer
    · rfl
    · rfl
    · exact if_neg apart

theorem Action.given_of_answer (discreet : operation.Discreet) (cache : StencilCache)
    (answer : α) :
    (use handle operation discreet).given handle (some cache) (.ok (some answer)) =
      operation.issued cache (.ok answer) :=
  if_pos rfl

end given

/-- The keys that a step gave out for a cache. -/
def Step.given (handle : CacheHandle) (step : Step δ) : List ArenaKey :=
  step.action.given handle (step.before.view handle) step.outcome

/-- The keys that a cache gave out in some steps, last one first. -/
def given (handle : CacheHandle) (steps : List (Step δ)) : List ArenaKey :=
  steps.flatMap (Step.given handle)

variable [backend : Backend δ] {build : Build}

/-- Work on a cache that came to an end. -/
theorem turn_worked {operation : Operation δ α} {cache : StencilCache} {session : Session δ}
    {ended : Except Fault α} {work : CacheSession δ}
    (ran : (operation.act build).outcome ⟨cache, session⟩ = (ended.mapError .fault, work)) :
    Turn δ (some cache) (some work.cache) (operation.issued cache ended) := by
  have completes :
      (⟨operation, ⟨cache, session⟩, ended, work⟩ : RenderCore.Step δ).Completes build :=
    ran
  exact @Turn.worked δ _ (backend.fixed build) _ _ _ _ (RenderCore.Step.effectIn completes)

theorem Step.turn {step : Step δ} (completes : step.Completes build) (handle : CacheHandle) :
    Turn δ (step.before.view handle) (step.after.view handle) (step.given handle) := by
  obtain ⟨action, before, outcome, after⟩ := step
  cases action with
  | call request =>
    obtain ⟨-, rfl⟩ := completes.called
    have turn := (request.moved before).turn handle
    rw [← view_of_same (Plan.caches_outcome _)] at turn
    exact turn
  | use other operation discreet =>
    unfold given
    rcases completes.used with ⟨-, rfl, same⟩ | ⟨cache, ended, work, seen, ran, rfl, rfl⟩
    · dsimp only
      rw [same, Action.given_of_locked]
      exact .refl _
    · by_cases equal : other = handle
      · subst equal
        dsimp only
        rw [view_worked seen, seen]
        rcases ended with (fault | panic) | answer
        · have turn : Turn δ (some cache) (some work.cache)
              (operation.issued cache (.error fault)) := turn_worked ran
          rw [operation.issued_error] at turn
          exact turn
        · exact .closed
        · have turn : Turn δ (some cache) (some work.cache)
              (operation.issued cache (.ok answer)) := turn_worked ran
          rw [← Action.given_of_answer discreet] at turn
          exact turn
      · dsimp only
        rw [view_worked_of_ne before equal, Action.given_of_ne equal]
        exact .refl _

/-! ## Runs -/

theorem Run.traced {session : Session δ} {steps : List (Step δ)}
    (run : Run build session steps engine) (handle : CacheHandle) :
    Traced (engine.view handle) (given handle steps) := by
  induction run with
  | nil => exact ⟨.inl rfl, nofun, nofun, fun _ => nofun⟩
  | cons run owned completes ih => exact (Step.turn completes handle).traced ih

/-- In either build, a key that one cache gave out refers to nothing in another one that did not give
    it out as well. But every cache numbers its keys alike: as soon as the other one has given out any
    key, some key has been given out by both, and a key that was just given out there refers to a
    buffer there, wherever else it is held. -/
theorem keys_collide_across_caches {session : Session δ} {steps : List (Step δ)}
    (run : Run build session steps engine) {earlier later : CacheHandle} {key : ArenaKey}
    (issued : key ∈ given earlier steps) {cache : StencilCache}
    (opened : engine.view later = some cache) :
    (key ∉ given later steps → CacheSession.Stale build ⟨cache, engine.session⟩ key) ∧
      ((∃ other ∈ given earlier steps, other ∈ given later steps) ↔ given later steps ≠ []) ∧
      ∀ step rest, steps = step :: rest → key ∈ step.given later →
        ∃ buffer, cache.find? key = some buffer := by
  have traced := run.traced later
  refine ⟨fun foreign => ?_, ⟨fun shared => ?_, fun used => ?_⟩, fun step rest split given => ?_⟩
  · exact CacheSession.stale_of_find? (traced.foreign cache opened key foreign)
  · obtain ⟨other, -, member⟩ := shared
    exact List.ne_nil_of_mem member
  · have first := (run.traced earlier).first.resolve_left (List.ne_nil_of_mem issued)
    exact ⟨⟨1, 1⟩, first, traced.first.resolve_left used⟩
  · subst split
    cases run with
    | cons run owned completes =>
      have turn := Step.turn completes later
      rw [opened] at turn
      exact turn.fresh (run.traced later).coherent given

/-- A second key of a first cache refers to nothing in a new cache that gave out one key, but the
    first keys are the same. -/
theorem second_key_stale_in_new_cache :
    ∃ (steps : List (Step Software)) (engine : Engine Software) (cache : StencilCache),
      Run .release (.software none) steps engine ∧ engine.view ⟨1⟩ = some cache ∧
        given ⟨0⟩ steps = [⟨2, 1⟩, ⟨1, 1⟩] ∧ given ⟨1⟩ steps = [⟨1, 1⟩] ∧
        CacheSession.Stale .release ⟨cache, engine.session⟩ ⟨2, 1⟩ := by
  have start : Run .release (.software none) [] { session := Session.software none } := .nil
  have ready := start.next (.call .setUp) (.ok ()) nofun rfl
  have made := ready.next (.call (.createCache {})) (.ok ()) nofun (by decide +kernel)
  have got := made.next (.call .acquireCache) (.ok ⟨0⟩) nofun (by decide +kernel)
  have one := got.next (.use ⟨0⟩ (.findOrCreate ⟨64, 32, 8, 4⟩) trivial) (.ok (some ⟨1, 1⟩))
    (by decide +kernel) (by decide +kernel)
  have two := one.next (.use ⟨0⟩ (.findOrCreate ⟨32, 32, 8, 4⟩) trivial) (.ok (some ⟨2, 1⟩))
    (by decide +kernel) (by decide +kernel)
  have ended := two.next (.call .shutDown) (.ok ()) nofun (by decide +kernel)
  have remade := ended.next (.call (.createCache {})) (.ok ()) nofun (by decide +kernel)
  have again := remade.next (.call .acquireCache) (.ok ⟨1⟩) nofun (by decide +kernel)
  have run := again.next (.use ⟨1⟩ (.findOrCreate ⟨16, 16, 8, 0⟩) trivial) (.ok (some ⟨1, 1⟩))
    (by decide +kernel) (by decide +kernel)
  obtain ⟨steps, engine, run, opened, first, second⟩ :
      ∃ (steps : List (Step Software)) (engine : Engine Software),
        Run .release (.software none) steps engine ∧ (engine.view ⟨1⟩).isSome ∧
          given ⟨0⟩ steps = [⟨2, 1⟩, ⟨1, 1⟩] ∧ given ⟨1⟩ steps = [⟨1, 1⟩] :=
    ⟨_, _, run, by decide +kernel, by decide +kernel, by decide +kernel⟩
  obtain ⟨cache, opened⟩ := Option.isSome_iff_exists.mp opened
  have issued : (⟨2, 1⟩ : ArenaKey) ∈ given ⟨0⟩ steps := by
    rw [first]
    exact List.mem_cons_self
  refine ⟨steps, engine, cache, run, opened, first, second, ?_⟩
  refine (keys_collide_across_caches run issued opened).1 ?_
  rw [second]
  decide

/-- An attachment that is kept while the engine is shut down finds, in the cache that is made next, a
    buffer that was made for another render target. -/
theorem attachment_finds_foreign_buffer :
    ∃ (steps : List (Step Software)) (engine : Engine Software),
      Run .release (.software none) steps engine ∧ given ⟨0⟩ steps = [⟨1, 1⟩] ∧
        ((withCache ⟨1⟩ ((⟨some ⟨1, 1⟩⟩ : StencilAttachment).resolve)).outcome engine).1.map
            (·.map fun answer => (answer.1.map (·.shape), answer.2)) =
          .ok (some (some ⟨16, 16, 8, 0⟩, ⟨some ⟨1, 1⟩⟩)) := by
  have start : Run .release (.software none) [] { session := Session.software none } := .nil
  have ready := start.next (.call .setUp) (.ok ()) nofun rfl
  have made := ready.next (.call (.createCache {})) (.ok ()) nofun (by decide +kernel)
  have got := made.next (.call .acquireCache) (.ok ⟨0⟩) nofun (by decide +kernel)
  have attached := got.next (.use ⟨0⟩ (.attach {} ⟨64, 32, 8, 4⟩) trivial)
    (.ok (some (⟨1, 1⟩, ⟨some ⟨1, 1⟩⟩))) (by decide +kernel) (by decide +kernel)
  have ended := attached.next (.call .shutDown) (.ok ()) nofun (by decide +kernel)
  have remade := ended.next (.call (.createCache {})) (.ok ()) nofun (by decide +kernel)
  have again := remade.next (.call .acquireCache) (.ok ⟨1⟩) nofun (by decide +kernel)
  have run := again.next (.use ⟨1⟩ (.findOrCreate ⟨16, 16, 8, 0⟩) trivial) (.ok (some ⟨1, 1⟩))
    (by decide +kernel) (by decide +kernel)
  exact ⟨_, _, run, by decide +kernel, by decide +kernel⟩

end Engine

end RenderCore
