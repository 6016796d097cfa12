import RenderCore.Proofs.Engine.Ledger

/-!
# The registered cache in the course of a program

With loggers that never fail, every call of the engine goes as its ledger says: a cache is made if
there is none, the cache made last is handed out as the work on it has left it, and the end of its
registration is silent and leaves the other caches alone. A call that fails does nothing but report
that.
-/

namespace RenderCore

theorem StencilCache.isEmpty_abandonAll (cache : StencilCache) :
    cache.abandonAll.isEmpty = true := by
  simp [isEmpty, size, abandonAll, Arena.size]

namespace Engine

variable {δ α : Type}

/-! ## Calls of an engine that follows its ledger -/

/-- The engine after a call that gave up the registration. The GPU was not called, and nothing was
    reported but what was to be told. -/
structure Retired (held : List CacheHandle) (ledger : Ledger) (notices : List Entry)
    (engine left : Engine δ) : Prop where
  registry : left.registry = { value := none }
  session : left.session = (engine.noted notices).session
  /-- The caches that were not registered stay as they are. -/
  others : ∀ handle ∈ held, ledger.registered ≠ some handle →
    left.view handle = engine.view handle

namespace Follows

variable {engine : Engine δ} {ledger : Ledger} {handle : CacheHandle}

theorem createCache_ok_iff (follows : engine.Follows ledger) (reliable : engine.session.Reliable)
    (budget : CacheBudget) : ((createCache budget).outcome engine).1 = .ok () ↔
      ledger.ready = true ∧ ledger.registered = none := by
  have ended := congrArg Prod.fst ((Call.createCache budget).outcome_of_reliable reliable)
  change ((createCache budget).outcome engine).1 =
    (engine.createPlan budget).answer.mapError .fault at ended
  rw [ended, createPlan, follows.lookUp]
  cases ledger.ready with
  | false => exact ⟨fun ended => (by cases ended), fun free => (by cases free.1)⟩
  | true =>
    cases ledger.registered with
    | none => exact ⟨fun _ => ⟨rfl, rfl⟩, fun _ => rfl⟩
    | some handle => exact ⟨fun ended => (by cases ended), fun free => (by cases free.2)⟩

theorem acquireCache_ok_iff (follows : engine.Follows ledger) (reliable : engine.session.Reliable)
    (handle : CacheHandle) : (acquireCache.outcome engine).1 = .ok handle ↔
      ledger.registered = some handle := by
  have ended := congrArg Prod.fst
    ((Call.acquireCache : Call δ CacheHandle).outcome_of_reliable reliable)
  change (acquireCache.outcome engine).1 = engine.acquirePlan.answer.mapError .fault at ended
  rw [ended, acquirePlan, follows.lookUp]
  cases registered : ledger.registered with
  | none =>
    cases ledger.ready <;> exact ⟨fun ended => (by cases ended), fun same => (by cases same)⟩
  | some other =>
    rw [follows.used other registered]
    exact ⟨fun same => congrArg some (Except.ok.inj same),
      fun same => congrArg Except.ok (Option.some.inj same)⟩

/-- What those find who hold a cache. -/
theorem shows_of_owned (follows : engine.Follows ledger) {held : List CacheHandle}
    (accounted : engine.Accounted held) (member : handle ∈ held) :
    ∃ cache, ledger.contents handle = some cache ∧ engine.view handle = some cache := by
  obtain ⟨shared, live⟩ := accounted.live_of_held member
  exact follows.view live

/-- A call that fails reports its fault and does nothing else. -/
theorem refused (reliable : engine.session.Reliable) (request : Call δ α) {stop : Stop}
    (failed : (request.act.outcome engine).1 = .error stop) :
    ∃ fault, stop = .fault fault ∧
      (request.act.outcome engine).2 = engine.noted [refusalEntry fault] := by
  rw [request.outcome_of_reliable reliable] at failed ⊢
  cases answer : (request.plan engine).answer with
  | ok value =>
    rw [answer] at failed
    contradiction
  | error fault =>
    rw [answer] at failed
    cases failed
    obtain ⟨exclusive, refusing⟩ := Call.plan_of_error answer
    rw [refusing]
    exact ⟨fault, rfl, rfl⟩

theorem lookUp_of_registered (follows : engine.Follows ledger)
    (registered : ledger.registered = some handle) : engine.lookUp = .ok (some handle) := by
  rw [follows.lookUp, follows.used handle registered, registered]
  rfl

theorem plan_shutDown (follows : engine.Follows ledger) :
    engine.shutDownPlan.answer = .ok () ∧
      engine.shutDownPlan.losses ++ engine.shutDownPlan.report =
        if ledger.ready then [noticeEntry "Engine shut down"] else [] := by
  unfold shutDownPlan
  rw [follows.ready, follows.opened]
  cases registered : ledger.registered with
  | none => cases ledger.ready <;> exact ⟨rfl, rfl⟩
  | some handle =>
    rw [follows.used handle registered, if_pos rfl, if_pos rfl]
    dsimp only
    rw [follows.lossesAt_abandoned]
    exact ⟨rfl, rfl⟩

theorem plan_destroyCache (follows : engine.Follows ledger) {held : List CacheHandle}
    (accounted : engine.Accounted held) (ready : ledger.ready = true) :
    engine.destroyPlan.answer = .ok () ∧
      engine.destroyPlan.losses ++ engine.destroyPlan.report =
        [noticeEntry "ResourceCache singleton destroyed"] := by
  unfold destroyPlan
  rw [follows.lookUp, ready, if_pos rfl]
  cases registered : ledger.registered with
  | none => exact ⟨rfl, rfl⟩
  | some handle =>
    dsimp only
    rw [follows.lossesAt_withdrawn accounted registered]
    exact ⟨rfl, rfl⟩

theorem retired {held : List CacheHandle} {left : Engine δ} {after : Ledger}
    {notices : List Entry} (follows : engine.Follows ledger) (accounted : engine.Accounted held)
    (recorded : left.Follows after) (owned : left.Accounted held)
    (session : left.session = (engine.noted notices).session) (vacant : after.registered = none)
    (same : ∀ handle, ledger.registered ≠ some handle →
      after.contents handle = ledger.contents handle) :
    Retired held ledger notices engine left := by
  refine ⟨?_, session, fun handle member apart => ?_⟩
  · rw [recorded.registry, vacant]
  · obtain ⟨before, contents, seen⟩ := follows.shows_of_owned accounted member
    obtain ⟨cache, kept, seen'⟩ := recorded.shows_of_owned owned member
    rw [same handle apart, contents] at kept
    rw [seen, seen', kept]

variable [Backend δ] {held : List CacheHandle}

/-- What is left of a call that looks at the registration. -/
theorem consulted {answer : Except Fault α} {entries : List Entry}
    (follows : engine.Follows ledger) (accounted : engine.Accounted held)
    (reliable : engine.session.Reliable) (request : Call δ α) (consults : request.Consults)
    (answered : (request.plan engine).answer = answer)
    (told : (request.plan engine).losses ++ (request.plan engine).report = entries) :
    ∃ left, request.act.outcome engine = (answer.mapError .fault, left) ∧
      left.Follows ((Action.call request).record engine.session (answer.mapError .fault) ledger) ∧
      left.Accounted ((Action.call request).holding (answer.mapError .fault) held) ∧
      left.session = (engine.noted entries).session := by
  have owned : ∀ handle, (Action.call request).handle? = some handle → handle ∈ held := by
    cases request with
    | share handle => exact consults.elim
    | drop handle => exact consults.elim
    | _ => exact nofun
  have recorded := request.follows follows
  have holding := Call.accounted accounted owned
  rw [answered] at recorded holding
  refine ⟨(request.plan engine).left.noted entries, ?_, recorded.of_same rfl rfl rfl,
    holding.of_same rfl rfl, ?_⟩
  · rw [request.outcome_of_reliable reliable, answered, told]
  · unfold noted
    rw [(Call.frame engine consults).1]

/-- The registered cache is handed out as the work on it has left it. -/
theorem acquireCache (follows : engine.Follows ledger) (accounted : engine.Accounted held)
    (reliable : engine.session.Reliable) (registered : ledger.registered = some handle) :
    ∃ left cache, Engine.acquireCache.outcome engine = (.ok handle, left) ∧
      ledger.contents handle = some cache ∧ left.view handle = some cache := by
  have answered : engine.acquirePlan.answer = .ok handle := by
    rw [acquirePlan, follows.lookUp_of_registered registered]
  obtain ⟨left, ended, recorded, owned, -⟩ :=
    follows.consulted accounted reliable .acquireCache trivial answered rfl
  obtain ⟨cache, contents, seen⟩ := recorded.shows_of_owned owned List.mem_cons_self
  exact ⟨left, cache, ended, contents, seen⟩

/-- A shut-down gives up the buffers of the registered cache, in silence, for all who hold it. -/
theorem shutDown (follows : engine.Follows ledger) (accounted : engine.Accounted held)
    (reliable : engine.session.Reliable) :
    ∃ left, Engine.shutDown.outcome engine = (.ok (), left) ∧
      Retired held ledger (if ledger.ready then [noticeEntry "Engine shut down"] else []) engine
        left ∧
      ∀ handle ∈ held, ledger.registered = some handle →
        ∃ before cache, engine.view handle = some before ∧
          before.giveUpAll.outcome engine.session.journal = (.ok cache, engine.session.journal) ∧
          left.view handle = some cache ∧ cache.isEmpty = true ∧ cache.totalBytes = 0 := by
  obtain ⟨answered, told⟩ := follows.plan_shutDown
  obtain ⟨left, ended, recorded, owned, session⟩ :=
    follows.consulted accounted reliable .shutDown trivial answered told
  refine ⟨left, ended, ?_, fun handle member registered => ?_⟩
  · exact follows.retired accounted recorded owned session rfl
      fun handle apart => Ledger.contents_emptied_of_ne apart
  · obtain ⟨before, contents, shown⟩ := follows.shows_of_owned accounted member
    obtain ⟨emptied, emptied', seen⟩ := recorded.shows_of_owned owned member
    change ledger.emptied.contents handle = some emptied at emptied'
    rw [Ledger.contents_emptied_of_registered registered, contents] at emptied'
    cases emptied'
    exact ⟨before, before.abandonAll, shown, before.giveUpAll_outcome _, seen,
      before.isEmpty_abandonAll, rfl⟩

/-- A cache whose registration ends is left to those who hold it, or its buffers are given up and it
    goes away, all in silence. -/
theorem destroyCache (follows : engine.Follows ledger) (accounted : engine.Accounted held)
    (reliable : engine.session.Reliable) (ready : ledger.ready = true) :
    ∃ left, Engine.destroyCache.outcome engine = (.ok (), left) ∧
      Retired held ledger [noticeEntry "ResourceCache singleton destroyed"] engine left ∧
      ∀ handle, ledger.registered = some handle →
        if handle ∈ held then left.view handle = engine.view handle
        else left.shared? handle = none ∧ ∃ before cache, engine.view handle = some before ∧
          before.giveUpAll.outcome engine.session.journal = (.ok cache, engine.session.journal) ∧
          cache.drop.outcome engine.session.journal = (.ok (), engine.session.journal) := by
  obtain ⟨answered, told⟩ := follows.plan_destroyCache accounted ready
  obtain ⟨left, ended, recorded, owned, session⟩ :=
    follows.consulted accounted reliable .destroyCache trivial answered told
  refine ⟨left, ended, ?_, fun handle registered => ?_⟩
  · exact follows.retired accounted recorded owned session rfl fun handle apart => rfl
  · split
    · rename_i member
      obtain ⟨before, contents, seen⟩ := follows.shows_of_owned accounted member
      obtain ⟨cache, kept, seen'⟩ := recorded.shows_of_owned owned member
      cases contents.symm.trans kept
      rw [seen, seen']
    · rename_i absent
      constructor
      · apply owned.gone
        rw [owned.counted, recorded.registry]
        exact List.count_eq_zero_of_not_mem absent
      · have named : engine.registry.value = some handle := by rw [follows.registry, registered]
        obtain ⟨shared, live⟩ := accounted.live_of_registered named
        obtain ⟨before, -, seen⟩ := follows.view live
        exact ⟨before, before.abandonAll, seen, before.giveUpAll_outcome _,
          before.abandonAll.drop_outcome_of_nil before.losses_abandonAll⟩

end Follows

/-! ## Programs -/

variable [Backend δ]

/-- How the engine serves a program that has taken some steps. -/
structure Served (steps : List (Step δ)) (engine : Engine δ) : Prop where
  /-- A call that fails does nothing but report its fault, as an error of the engine. -/
  failed : ∀ {α : Type} (request : Call δ α) (stop : Stop),
    (request.act.outcome engine).1 = .error stop → ∃ fault, stop = .fault fault ∧
      (request.act.outcome engine).2 = engine.noted [{
        severity := .error, source := component, message := fault.message
        site := some .internal }]
  createCache : ∀ budget, ((Engine.createCache budget).outcome engine).1 = .ok () ↔
    (∃ step ∈ steps, step.action.SetsUp) ∧ (ledger steps).registered = none
  acquireCache : ∀ handle, (Engine.acquireCache.outcome engine).1 = .ok handle ↔
    (ledger steps).registered = some handle
  /-- The registered cache is the one that was made last. -/
  latest : ∀ handle, (ledger steps).registered = some handle →
    (ledger steps).made = handle.number + 1
  /-- It is handed out as the work through all its handles has left it. -/
  acquired : ∀ handle, (ledger steps).registered = some handle →
    ∃ left cache, Engine.acquireCache.outcome engine = (.ok handle, left) ∧
      (ledger steps).contents handle = some cache ∧ left.view handle = some cache
  /-- So is any cache found by those who hold it. -/
  seen : ∀ handle ∈ held steps,
    ∃ cache, (ledger steps).contents handle = some cache ∧ engine.view handle = some cache
  /-- A shut-down gives up all buffers of the cache, and those who hold it find what that leaves. -/
  shutDown : ∃ left, Engine.shutDown.outcome engine = (.ok (), left) ∧
    Retired (held steps) (ledger steps)
      (if (ledger steps).ready then [noticeEntry "Engine shut down"] else []) engine left ∧
    ∀ handle ∈ held steps, (ledger steps).registered = some handle →
      ∃ before cache, engine.view handle = some before ∧
        before.giveUpAll.outcome engine.session.journal = (.ok cache, engine.session.journal) ∧
        left.view handle = some cache ∧ cache.isEmpty = true ∧ cache.totalBytes = 0
  /-- A cache whose registration ends is left as it is to those who hold it, or all its buffers are
      given up and it goes away, of which nothing is reported. -/
  destroyCache : (∃ step ∈ steps, step.action.SetsUp) →
    ∃ left, Engine.destroyCache.outcome engine = (.ok (), left) ∧
      Retired (held steps) (ledger steps)
        [noticeEntry "ResourceCache singleton destroyed"] engine left ∧
      ∀ handle, (ledger steps).registered = some handle →
        if handle ∈ held steps then left.view handle = engine.view handle
        else left.shared? handle = none ∧ ∃ before cache, engine.view handle = some before ∧
          before.giveUpAll.outcome engine.session.journal = (.ok cache, engine.session.journal) ∧
          cache.drop.outcome engine.session.journal = (.ok (), engine.session.journal)

/-- A program whose loggers never fail is served by its ledger. -/
theorem served_by_ledger (backend : Backend.Steady δ) {session : Session δ}
    {steps : List (Step δ)} {engine : Engine δ} (run : Run .release session steps engine)
    {first : Logger} (unlocked : session.journal.logger = { value := first })
    (start : first.Calm) (calm : Calm steps) : Served steps engine := by
  have follows := run.follows backend unlocked start calm
  have reliable := run.reliable unlocked start calm
  have accounted := run.accounted
  constructor
  case failed => exact fun request stop failed => Follows.refused reliable request failed
  case createCache =>
    intro budget
    rw [follows.createCache_ok_iff reliable, ready_ledger_iff]
  case acquireCache => exact follows.acquireCache_ok_iff reliable
  case latest => exact follows.latest
  case acquired => exact fun handle => follows.acquireCache accounted reliable
  case seen => exact fun handle => follows.shows_of_owned accounted
  case shutDown => exact follows.shutDown accounted reliable
  case destroyCache =>
    exact fun ready => follows.destroyCache accounted reliable ((ready_ledger_iff steps).mpr ready)

/-- A cache that was replaced while it was held is still found by its holder, also after the one
    that took its place was emptied. -/
theorem replaced_cache_served :
    let session : Session Software :=
      { Session.software none with journal := .ofLogger (.keeper fun _ _ => false) }
    ∃ (steps : List (Step Software)) (engine left : Engine Software),
      Run .release session steps engine ∧ Calm steps ∧ Served steps engine ∧
        held steps = [⟨1⟩, ⟨0⟩] ∧ (ledger steps).registered = some ⟨1⟩ ∧
        Engine.shutDown.outcome engine = (.ok (), left) ∧
        (engine.view ⟨0⟩).map (·.size) = some 1 ∧ left.view ⟨0⟩ = engine.view ⟨0⟩ := by
  intro session
  have begun : Run .release session [] { session } := .nil
  have ready := begun.next (.call .setUp) (.ok ()) nofun rfl
  have made := ready.next (.call (.createCache {})) (.ok ()) nofun (by decide +kernel)
  have got := made.next (.call .acquireCache) (.ok ⟨0⟩) nofun (by decide +kernel)
  have filled := got.next (.use ⟨0⟩ (.findOrCreate ⟨64, 32, 8, 4⟩) trivial) (.ok (some ⟨1, 1⟩))
    (by decide +kernel) (by decide +kernel)
  have ended := filled.next (.call .destroyCache) (.ok ()) nofun (by decide +kernel)
  have remade := ended.next (.call (.createCache {})) (.ok ()) nofun (by decide +kernel)
  have again := remade.next (.call .acquireCache) (.ok ⟨1⟩) nofun (by decide +kernel)
  obtain ⟨steps, engine, run, calm, owned, registered, seen⟩ :
      ∃ (steps : List (Step Software)) (engine : Engine Software),
        Run .release session steps engine ∧ Calm steps ∧ held steps = [⟨1⟩, ⟨0⟩] ∧
          (ledger steps).registered = some ⟨1⟩ ∧ (engine.view ⟨0⟩).map (·.size) = some 1 :=
    ⟨_, _, again, ⟨nofun, nofun, nofun, nofun, nofun, nofun, nofun, trivial⟩, by decide +kernel,
      by decide +kernel, by decide +kernel⟩
  have served := served_by_ledger Software.steady run rfl (fun _ _ => rfl) calm
  obtain ⟨left, ended, retired, -⟩ := served.shutDown
  refine ⟨steps, engine, left, run, calm, served, owned, registered, ended, seen, ?_⟩
  apply retired.others
  · rw [owned]
    decide
  · rw [registered]
    decide

end Engine

end RenderCore
