import RenderCore.Proofs.Engine.Changes

/-!
# How calls of the engine go

A call of the engine first changes the engine and then reports what it did, partly while it still
holds the registration for writing. Its `Plan` says which change it makes in a state, which entries
it reports and what it answers if no logger fails. `Call.outcome_act` derives from the plan how the
call ends with any logger: a failing logger cuts the reports short, but never the change.
-/

namespace RenderCore

namespace Engine

variable {δ α : Type}

/-! ## Calls -/

/-- A call of the engine. The index is the type of the answer. -/
inductive Call (δ : Type) : Type → Type where
  | setUp : Call δ Unit
  | shutDown : Call δ Unit
  | createCache (budget : CacheBudget) : Call δ Unit
  | acquireCache : Call δ CacheHandle
  | destroyCache : Call δ Unit
  /-- Makes another handle of one that is held. -/
  | share (handle : CacheHandle) : Call δ Unit
  /-- Gives a handle up. -/
  | drop (handle : CacheHandle) : Call δ Unit
  | setLogger (logger : Logger) : Call δ Unit
  | write (entry : Entry) : Call δ Unit
  /-- Whatever else is done with the session, away from the journal. -/
  | elsewhere (change : Session δ → Session δ)
      (apart : ∀ session, (change session).journal = session.journal) : Call δ Unit

/-- The call, carried out. -/
def Call.act : Call δ α → Act (Engine δ) α
  | .setUp => Engine.setUp
  | .shutDown => Engine.shutDown
  | .createCache budget => Engine.createCache budget
  | .acquireCache => Engine.acquireCache
  | .destroyCache => Engine.destroyCache
  | .share handle => Engine.retain handle
  | .drop handle => Engine.releaseHandle handle
  | .setLogger logger => liftM (Journal.setLogger logger)
  | .write entry => liftM (Journal.write entry)
  | .elsewhere change _ => modify fun engine => { engine with session := change engine.session }

/-! ## Plans -/

/-- How a call goes: the change it makes, what it reports, and what it answers then. -/
structure Plan (δ α : Type) where
  /-- The engine before the first report. -/
  left : Engine δ
  /-- The storage lost with a cache, reported while the registration is held for writing. -/
  losses : List Entry := []
  /-- What is reported last. -/
  report : List Entry := []
  /-- Whether the registration is still held for writing then. -/
  exclusive : Bool := false
  answer : Except Fault α

namespace Plan

/-- Whether a logger fails while the registration is held for writing. -/
def spoils (plan : Plan δ α) : Bool :=
  plan.left.session.journal.alarmed plan.losses ||
    (plan.exclusive && (plan.left.session.journal.noted plan.losses).alarmed plan.report)

/-- The entries that are written: the last report is not made if the one before it failed. -/
def entries (plan : Plan δ α) : List Entry :=
  if plan.left.session.journal.alarmed plan.losses then plan.losses
  else plan.losses ++ plan.report

/-- What the call comes to. -/
def outcome (plan : Plan δ α) : Except Stop α × Engine δ :=
  (plan.left.session.journal.heeded (plan.losses ++ plan.report) (plan.answer.mapError .fault),
    if plan.spoils then (plan.left.noted plan.entries).spoiled else plan.left.noted plan.entries)

/-! What a failing logger does not touch. -/

@[simp] theorem caches_outcome (plan : Plan δ α) : plan.outcome.2.caches = plan.left.caches := by
  unfold outcome
  dsimp only
  split <;> rfl

@[simp] theorem initialized_outcome (plan : Plan δ α) :
    plan.outcome.2.initialized = plan.left.initialized := by
  unfold outcome
  dsimp only
  split <;> rfl

@[simp] theorem session_outcome (plan : Plan δ α) :
    plan.outcome.2.session = (plan.left.noted plan.entries).session := by
  unfold outcome
  dsimp only
  split <;> rfl

theorem registry_outcome (plan : Plan δ α) :
    plan.outcome.2.registry =
      if plan.spoils then plan.left.registry.poison else plan.left.registry := by
  unfold outcome
  dsimp only
  split <;> rfl

@[simp] theorem registered_outcome (plan : Plan δ α) :
    plan.outcome.2.registry.value = plan.left.registry.value := by
  rw [registry_outcome]
  split <;> rfl

end Plan

/-! ### Refusals -/

def notReady : Fault :=
  .initialization "Engine not initialized. Call Engine::initialize() first."

def lockPoisoned : Fault := .backend "ResourceCache lock poisoned"

def alreadyCreated : Fault :=
  .initialization "ResourceCache already exists. Call Engine::destroy_resource_cache() first."

def notCreated : Fault :=
  .initialization "ResourceCache not created. Call Engine::create_resource_cache() first."

/-- The registration as a caller finds it, or why it is not shown. -/
def lookUp (engine : Engine δ) : Except Fault (Option CacheHandle) :=
  if engine.initialized then
    match engine.registry.open? with
    | some handle => .ok handle
    | none => .error lockPoisoned
  else .error notReady

/-- The report of a fault of the engine. -/
def refusalEntry (fault : Fault) : Entry := Journal.failureEntry component fault.message

/-- The report of a step in the life of the engine. -/
def noticeEntry (message : String) : Entry := { severity := .info, source := component, message }

def createdText (budget : CacheBudget) : String :=
  "ResourceCache singleton created (max " ++ toString budget.maxCount.toNat
    ++ " resources, " ++ toString budget.maxBytes.toNat ++ " bytes)"

/-- A call that is refused changes nothing. -/
def refusing (engine : Engine δ) (fault : Fault) (exclusive : Bool) : Plan δ α :=
  { left := engine, report := [refusalEntry fault], exclusive, answer := .error fault }

def shutDownPlan (engine : Engine δ) : Plan δ Unit :=
  if engine.initialized then
    match engine.registry.open? with
    | some (some handle) =>
      { left := (engine.abandoned handle).released handle
        losses := (engine.abandoned handle).lossesAt handle
        report := [noticeEntry "Engine shut down"]
        answer := .ok () }
    | _ => { left := engine, report := [noticeEntry "Engine shut down"], answer := .ok () }
  else { left := engine, answer := .ok () }

def createPlan (engine : Engine δ) (budget : CacheBudget) : Plan δ Unit :=
  match engine.lookUp with
  | .error fault => engine.refusing fault engine.initialized
  | .ok (some _) => engine.refusing alreadyCreated true
  | .ok none =>
    { left := engine.created budget
      report := [noticeEntry (createdText budget)]
      exclusive := true
      answer := .ok () }

def acquirePlan (engine : Engine δ) : Plan δ CacheHandle :=
  match engine.lookUp with
  | .error fault => engine.refusing fault false
  | .ok none => engine.refusing notCreated false
  | .ok (some handle) => { left := engine.retained handle, answer := .ok handle }

def destroyPlan (engine : Engine δ) : Plan δ Unit :=
  match engine.lookUp with
  | .error fault => engine.refusing fault engine.initialized
  | .ok none =>
    { left := engine
      report := [noticeEntry "ResourceCache singleton destroyed"]
      exclusive := true
      answer := .ok () }
  | .ok (some handle) =>
    { left := (engine.withdrawn handle).released handle
      losses := (engine.withdrawn handle).lossesAt handle
      report := [noticeEntry "ResourceCache singleton destroyed"]
      exclusive := true
      answer := .ok () }

/-- How a call goes in a state. -/
def Call.plan : Call δ α → Engine δ → Plan δ α
  | .setUp, engine => { left := { engine with initialized := true }, answer := .ok () }
  | .shutDown, engine => engine.shutDownPlan
  | .createCache budget, engine => engine.createPlan budget
  | .acquireCache, engine => engine.acquirePlan
  | .destroyCache, engine => engine.destroyPlan
  | .share handle, engine => { left := engine.retained handle, answer := .ok () }
  | .drop handle, engine =>
    { left := engine.released handle, report := engine.lossesAt handle, answer := .ok () }
  | .setLogger logger, engine =>
    { left := { engine with
        session := { engine.session with journal := engine.session.journal.charged logger } }
      answer := .ok () }
  | .write entry, engine => { left := engine, report := [entry], answer := .ok () }
  | .elsewhere change _, engine =>
    { left := { engine with session := change engine.session }, answer := .ok () }

/-- The calls that look at the registration. -/
def Call.Consults : Call δ α → Prop
  | .createCache _ => True
  | .acquireCache => True
  | .destroyCache => True
  | .shutDown => True
  | _ => False

/-- Those calls change the registration and the caches at most. -/
theorem Call.frame {request : Call δ α} (engine : Engine δ) (consults : request.Consults) :
    (request.plan engine).left.session = engine.session ∧
      (request.plan engine).left.initialized = engine.initialized ∧
        (request.plan engine).left.registry.poisoned = engine.registry.poisoned := by
  cases request with
  | shutDown =>
    unfold plan shutDownPlan
    dsimp only
    split
    · split <;> exact ⟨rfl, rfl, rfl⟩
    · exact ⟨rfl, rfl, rfl⟩
  | createCache budget =>
    unfold plan createPlan
    dsimp only
    split <;> exact ⟨rfl, rfl, rfl⟩
  | acquireCache =>
    unfold plan acquirePlan
    dsimp only
    split <;> exact ⟨rfl, rfl, rfl⟩
  | destroyCache =>
    unfold plan destroyPlan
    dsimp only
    split <;> exact ⟨rfl, rfl, rfl⟩
  | _ => exact consults.elim

/-- No call undoes the set-up. -/
theorem Call.initialized_left (request : Call δ α) {engine : Engine δ}
    (ready : engine.initialized = true) : (request.plan engine).left.initialized = true := by
  have framed {consulting : Call δ α} (consults : consulting.Consults) :
      (consulting.plan engine).left.initialized = true :=
    (frame engine consults).2.1.trans ready
  cases request with
  | setUp => rfl
  | shutDown => exact framed trivial
  | createCache budget => exact framed trivial
  | acquireCache => exact framed trivial
  | destroyCache => exact framed trivial
  | _ => exact ready

variable {engine : Engine δ}

theorem lookUp_of_unready (unready : engine.initialized = false) :
    engine.lookUp = .error notReady := by
  rw [lookUp, unready, if_neg Bool.false_ne_true]

theorem lookUp_of_poisoned (ready : engine.initialized = true)
    (locked : engine.registry.open? = none) : engine.lookUp = .error lockPoisoned := by
  rw [lookUp, if_pos ready, locked]

theorem lookUp_of_open (ready : engine.initialized = true) {handle : Option CacheHandle}
    (unlocked : engine.registry.open? = some handle) : engine.lookUp = .ok handle := by
  rw [lookUp, if_pos ready, unlocked]

/-- Who gets to see the registration finds it behind an open lock in an engine made ready. -/
theorem lookUp_eq_ok {handle : Option CacheHandle} (found : engine.lookUp = .ok handle) :
    engine.initialized = true ∧ engine.registry = { value := handle } := by
  cases ready : engine.initialized with
  | false =>
    rw [lookUp_of_unready ready] at found
    contradiction
  | true =>
    cases unlocked : engine.registry.open? with
    | none =>
      rw [lookUp_of_poisoned ready unlocked] at found
      contradiction
    | some opened =>
      rw [lookUp_of_open ready unlocked] at found
      cases found
      exact ⟨rfl, Guarded.open?_eq_some.mp unlocked⟩

/-- What a call may do to the registration and to the caches. -/
inductive Moved (engine : Engine δ) : Engine δ → Prop where
  | kept {left : Engine δ} (registry : left.registry = engine.registry)
      (caches : left.caches = engine.caches) : Moved engine left
  | created (budget : CacheBudget) (vacant : engine.registry.value = none) :
      Moved engine (engine.created budget)
  | retained (handle : CacheHandle) : Moved engine (engine.retained handle)
  | released (handle : CacheHandle) : Moved engine (engine.released handle)
  | abandoned {handle : CacheHandle} (registered : engine.registry.value = some handle) :
      Moved engine ((engine.abandoned handle).released handle)
  | withdrawn {handle : CacheHandle} (registered : engine.registry.value = some handle) :
      Moved engine ((engine.withdrawn handle).released handle)

theorem Call.moved (request : Call δ α) (engine : Engine δ) :
    engine.Moved (request.plan engine).left := by
  cases request with
  | shutDown =>
    unfold plan shutDownPlan
    dsimp only
    split
    · split
      · rename_i handle opened
        exact .abandoned (congrArg Guarded.value (Guarded.open?_eq_some.mp opened))
      · exact .kept rfl rfl
    · exact .kept rfl rfl
  | createCache budget =>
    unfold plan createPlan
    dsimp only
    split
    · exact .kept rfl rfl
    · exact .kept rfl rfl
    · rename_i found
      exact .created budget (congrArg Guarded.value (lookUp_eq_ok found).2)
  | acquireCache =>
    unfold plan acquirePlan
    dsimp only
    split
    · exact .kept rfl rfl
    · exact .kept rfl rfl
    · exact .retained _
  | destroyCache =>
    unfold plan destroyPlan
    dsimp only
    split
    · exact .kept rfl rfl
    · exact .kept rfl rfl
    · rename_i found
      exact .withdrawn (congrArg Guarded.value (lookUp_eq_ok found).2)
  | share handle => exact .retained handle
  | drop handle => exact .released handle
  | _ => exact .kept rfl rfl

/-! ## Calls go as planned -/

/-- A plan under which nothing is lost. -/
theorem Plan.outcome_of_lossless {plan : Plan δ α} (none : plan.losses = []) :
    plan.outcome = (plan.left.session.journal.heeded plan.report (plan.answer.mapError .fault),
      if plan.exclusive && plan.left.session.journal.alarmed plan.report then
        (plan.left.noted plan.report).spoiled
      else plan.left.noted plan.report) := by
  unfold outcome spoils entries
  rw [none]
  rfl

/-- A plan whose last report is made while the registration is held for writing. -/
theorem Plan.outcome_of_exclusive {plan : Plan δ α} (held : plan.exclusive = true) :
    plan.outcome = (plan.left.session.journal.heeded (plan.losses ++ plan.report)
        (plan.answer.mapError .fault),
      if plan.left.session.journal.alarmed (plan.losses ++ plan.report) then
        (plan.left.noted plan.entries).spoiled
      else plan.left.noted plan.entries) := by
  unfold outcome spoils
  rw [held, Bool.true_and, Journal.alarmed_append]

theorem outcome_refusing (engine : Engine δ) (fault : Fault) (exclusive : Bool) :
    (engine.refusing fault exclusive : Plan δ α).outcome =
      (engine.session.journal.heeded [refusalEntry fault] (.error (.fault fault)),
        if exclusive && engine.session.journal.alarmed [refusalEntry fault] then
          (engine.noted [refusalEntry fault]).spoiled
        else engine.noted [refusalEntry fault]) :=
  Plan.outcome_of_lossless rfl

section parts

variable (engine : Engine δ)

theorem journal_outcome (act : Act Journal α) :
    (liftM act : Act (Engine δ) α).outcome engine =
      ((act.outcome engine.session.journal).1,
        { engine with
          session := { engine.session with journal := (act.outcome engine.session.journal).2 } }) :=
  Act.outcome_within (Act.outcome_within (Prod.eta _).symm)

theorem write_outcome (entry : Entry) :
    (liftM (Journal.write entry) : Act (Engine δ) Unit).outcome engine =
      (engine.session.journal.heeded [entry] (.ok ()), engine.noted [entry]) := by
  rw [journal_outcome, Journal.write_outcome]
  rfl

theorem refuse_outcome (fault : Fault) :
    (refuse fault : Act (Engine δ) α).outcome engine =
      (engine.session.journal.heeded [refusalEntry fault] (.error (.fault fault)),
        engine.noted [refusalEntry fault]) := by
  have written := write_outcome engine (refusalEntry fault)
  unfold refuse
  exact Journal.outcome_bind_of_heeded written rfl

theorem exclusively_outcome {act : Act (Engine δ) α} {journal : Journal} {entries : List Entry}
    (answer : Except Fault α) {left : Engine δ}
    (ended : act.outcome engine = (journal.heeded entries (answer.mapError .fault), left)) :
    (exclusively act).outcome engine = (journal.heeded entries (answer.mapError .fault),
      if journal.alarmed entries then left.spoiled else left) := by
  unfold exclusively
  rw [Act.outcome_onPanic, ended, Journal.heeded]
  cases journal.alarmed entries with
  | true => rfl
  | false => cases answer <;> rfl

theorem changeShared_outcome (handle : CacheHandle) (change : SharedCache → SharedCache) :
    (changeShared handle change : Act (Engine δ) Unit).outcome engine =
      (.ok (), engine.changed handle fun shared => some (change shared)) := by
  refine congrArg (Except.ok (), ·) ?_
  beta_reduce
  cases live : engine.shared? handle with
  | some shared => exact setShared_of_some live fun shared => some (change shared)
  | none => exact (changed_of_none live _).symm

theorem releaseHandle_outcome (handle : CacheHandle) :
    (releaseHandle handle : Act (Engine δ) Unit).outcome engine =
      (engine.session.journal.heeded (engine.lossesAt handle) (.ok ()),
        (engine.released handle).noted (engine.lossesAt handle)) := by
  unfold releaseHandle lossesAt released
  rw [Act.outcome_get_bind]
  cases live : engine.shared? handle with
  | none =>
    rw [changed_of_none live]
    rfl
  | some shared =>
    rw [← setShared_of_some live]
    unfold SharedCache.released
    dsimp only [Option.elim, SharedCache.losses]
    by_cases last : shared.owners ≤ 1
    · rw [if_pos last, if_pos last, if_pos last, Act.outcome_modify_bind, journal_outcome,
        StencilCache.drop_outcome]
      rfl
    · rw [if_neg last, if_neg last, if_neg last, changeShared_outcome]
      rw [← setShared_of_some live]
      rfl

/-- A last report, after others. -/
theorem report_outcome {act : Act (Engine δ) Unit} (left : Engine δ) {losses : List Entry}
    (ended : act.outcome engine =
      (left.session.journal.heeded losses (.ok ()), left.noted losses)) (entry : Entry) :
    (act >>= fun _ => liftM (Journal.write entry)).outcome engine =
      (left.session.journal.heeded (losses ++ [entry]) (.ok ()),
        left.noted (if left.session.journal.alarmed losses then losses else losses ++ [entry])) := by
  rw [Journal.heeded] at ended
  rw [Journal.heeded, Journal.alarmed_append]
  cases alarmed : left.session.journal.alarmed losses with
  | true =>
    rw [alarmed, if_pos rfl] at ended
    exact Act.outcome_bind_of_error ended
  | false =>
    rw [alarmed, if_neg Bool.false_ne_true] at ended
    rw [Act.outcome_bind_of_ok ended, write_outcome, Bool.false_or, if_neg Bool.false_ne_true]
    unfold noted
    rw [Journal.noted_append]
    rfl

theorem requireSetUp_bind_of_ready (ready : engine.initialized = true)
    (next : Unit → Act (Engine δ) α) :
    (requireSetUp >>= next).outcome engine = (next ()).outcome engine := by
  refine Act.outcome_bind_of_ok ?_
  unfold requireSetUp
  rw [Act.outcome_get_bind, ready]
  rfl

/-- Nothing comes after a refusal. -/
theorem refused_bind {β : Type} {act : Act (Engine δ) β} {fault : Fault}
    (refused : act.outcome engine = (refuse fault : Act (Engine δ) β).outcome engine)
    (next : β → Act (Engine δ) α) :
    (act >>= next).outcome engine = (engine.refusing fault false).outcome := by
  rw [refuse_outcome, Journal.heeded_error] at refused
  rw [Act.outcome_bind_of_error refused, outcome_refusing, Journal.heeded_error]
  rfl

theorem requireSetUp_bind_of_unready (unready : engine.initialized = false)
    (next : Unit → Act (Engine δ) α) :
    (requireSetUp >>= next).outcome engine = (engine.refusing notReady false).outcome := by
  apply refused_bind
  unfold requireSetUp
  rw [Act.outcome_get_bind, unready]
  rfl

theorem registered_bind_of_open {handle : Option CacheHandle}
    (unlocked : engine.registry.open? = some handle) (next : Option CacheHandle → Act (Engine δ) α) :
    (registered >>= next).outcome engine = (next handle).outcome engine := by
  refine Act.outcome_bind_of_ok ?_
  unfold registered
  rw [Act.outcome_get_bind, unlocked]
  rfl

theorem registered_bind_of_poisoned (locked : engine.registry.open? = none)
    (next : Option CacheHandle → Act (Engine δ) α) :
    (registered >>= next).outcome engine = (engine.refusing lockPoisoned false).outcome := by
  apply refused_bind
  unfold registered
  rw [Act.outcome_get_bind, locked]
  rfl

/-- A refusal while the registration is held for writing. -/
theorem exclusively_refusing {act : Act (Engine δ) α} {fault : Fault}
    (refused : act.outcome engine = (engine.refusing fault false).outcome) :
    (exclusively act).outcome engine = (engine.refusing fault true).outcome := by
  rw [outcome_refusing] at refused
  rw [exclusively_outcome engine (.error fault) refused, outcome_refusing]
  rfl

end parts

theorem createCache_outcome (engine : Engine δ) (budget : CacheBudget) :
    (createCache budget).outcome engine = (engine.createPlan budget).outcome := by
  unfold createCache createPlan
  cases ready : engine.initialized with
  | false => rw [requireSetUp_bind_of_unready _ ready, lookUp_of_unready ready]
  | true =>
    rw [requireSetUp_bind_of_ready _ ready]
    cases unlocked : engine.registry.open? with
    | none =>
      rw [lookUp_of_poisoned ready unlocked]
      exact exclusively_refusing engine (registered_bind_of_poisoned _ unlocked _)
    | some handle =>
      rw [lookUp_of_open ready unlocked]
      cases handle with
      | some handle =>
        refine exclusively_refusing engine ?_
        rw [registered_bind_of_open _ unlocked]
        exact refused_bind engine rfl _
      | none =>
        have ended := write_outcome (engine.created budget) (noticeEntry (createdText budget))
        rw [Plan.outcome_of_exclusive rfl]
        exact exclusively_outcome engine (.ok ())
          ((registered_bind_of_open engine unlocked _).trans ended)

theorem acquireCache_outcome (engine : Engine δ) :
    acquireCache.outcome engine = engine.acquirePlan.outcome := by
  unfold acquireCache acquirePlan
  cases ready : engine.initialized with
  | false => rw [requireSetUp_bind_of_unready _ ready, lookUp_of_unready ready]
  | true =>
    rw [requireSetUp_bind_of_ready _ ready]
    cases unlocked : engine.registry.open? with
    | none =>
      rw [lookUp_of_poisoned ready unlocked]
      exact registered_bind_of_poisoned _ unlocked _
    | some handle =>
      rw [lookUp_of_open ready unlocked, registered_bind_of_open _ unlocked]
      cases handle with
      | none =>
        dsimp only
        rw [outcome_refusing]
        exact refuse_outcome engine notCreated
      | some handle => exact Act.outcome_bind_of_ok (changeShared_outcome engine handle _)

/-- A cache without other owners is abandoned when its registration ends. -/
theorem forsake_outcome (engine : Engine δ) (handle : CacheHandle) (next : Act (Engine δ) α) :
    (if (engine.shared? handle).any (·.owners = 1) then do abandonShared handle; next
      else next : Act (Engine δ) α).outcome engine =
      next.outcome (engine.changed handle fun shared => some shared.forsaken) := by
  by_cases alone : (engine.shared? handle).any (·.owners = 1) = true
  · have forsaken : (engine.changed handle fun shared => some shared.forsaken) =
        engine.changed handle fun shared => some shared.abandoned := by
      refine changed_congr fun shared live => ?_
      rw [live] at alone
      rw [SharedCache.forsaken, if_pos (of_decide_eq_true alone)]
    rw [if_pos alone, forsaken]
    exact Act.outcome_bind_of_ok (changeShared_outcome engine handle _)
  · have kept : (engine.changed handle fun shared => some shared.forsaken) = engine := by
      refine changed_of_same fun shared live => ?_
      rw [live] at alone
      rw [SharedCache.forsaken, if_neg fun single => alone (decide_eq_true single)]
    rw [if_neg alone, kept]

theorem destroyCache_outcome (engine : Engine δ) :
    destroyCache.outcome engine = engine.destroyPlan.outcome := by
  unfold destroyCache destroyPlan
  cases ready : engine.initialized with
  | false => rw [requireSetUp_bind_of_unready _ ready, lookUp_of_unready ready]
  | true =>
    rw [requireSetUp_bind_of_ready _ ready]
    cases unlocked : engine.registry.open? with
    | none =>
      rw [lookUp_of_poisoned ready unlocked]
      exact exclusively_refusing engine (registered_bind_of_poisoned _ unlocked _)
    | some handle =>
      rw [lookUp_of_open ready unlocked]
      have found (next) : (registered >>= next : Act (Engine δ) Unit).outcome engine = _ :=
        registered_bind_of_open engine unlocked next
      cases handle with
      | some handle =>
        have ended := report_outcome (engine.withdrawn handle)
          ((engine.withdrawn handle).released handle)
          (releaseHandle_outcome (engine.withdrawn handle) handle)
          (noticeEntry "ResourceCache singleton destroyed")
        rw [Plan.outcome_of_exclusive rfl]
        exact exclusively_outcome engine (.ok ())
          ((found _).trans ((forsake_outcome (engine.registering none) handle _).trans ended))
      | none =>
        have ended := write_outcome engine (noticeEntry "ResourceCache singleton destroyed")
        rw [Plan.outcome_of_exclusive rfl]
        exact exclusively_outcome engine (.ok ()) ((found _).trans ended)

/-- A last report, after the registration was held for writing. -/
theorem exclusively_report_outcome (engine : Engine δ) {act : Act (Engine δ) Unit}
    (left : Engine δ) {losses : List Entry}
    (ended : act.outcome engine =
      (left.session.journal.heeded losses (.ok ()), left.noted losses)) (entry : Entry) :
    (exclusively act >>= fun _ => liftM (Journal.write entry)).outcome engine =
      ({ left, losses, report := [entry], answer := .ok () } : Plan δ Unit).outcome := by
  have held := exclusively_outcome engine (.ok ()) ended
  unfold Plan.outcome Plan.spoils Plan.entries
  rw [Journal.heeded] at held
  rw [Bool.false_and, Bool.or_false, Journal.heeded, Journal.alarmed_append]
  cases alarmed : left.session.journal.alarmed losses with
  | true =>
    rw [alarmed, if_pos rfl, if_pos rfl] at held
    exact Act.outcome_bind_of_error held
  | false =>
    rw [alarmed, if_neg Bool.false_ne_true, if_neg Bool.false_ne_true] at held
    rw [Act.outcome_bind_of_ok held, write_outcome, Bool.false_or, if_neg Bool.false_ne_true,
      if_neg Bool.false_ne_true]
    unfold noted
    rw [Journal.noted_append]
    rfl

theorem shutDown_outcome (engine : Engine δ) :
    shutDown.outcome engine = engine.shutDownPlan.outcome := by
  unfold shutDown shutDownPlan
  rw [Act.outcome_get_bind]
  cases ready : engine.initialized with
  | false => rfl
  | true =>
    rw [if_pos rfl, if_pos rfl]
    rcases unlocked : engine.registry.open? with _ | _ | handle
    · refine exclusively_report_outcome engine engine ?_ _
      rw [Act.outcome_get_bind, unlocked]
      rfl
    · refine exclusively_report_outcome engine engine ?_ _
      rw [Act.outcome_get_bind, unlocked]
      rfl
    · refine exclusively_report_outcome engine ((engine.abandoned handle).released handle) ?_ _
      rw [Act.outcome_get_bind, unlocked]
      have abandoned := changeShared_outcome (engine.registering none) handle SharedCache.abandoned
      change (abandonShared handle >>= fun _ => releaseHandle handle).outcome
        (engine.registering none) = _
      refine (Act.outcome_bind_of_ok abandoned).trans ?_
      exact releaseHandle_outcome (engine.abandoned handle) handle

theorem Call.outcome_act (call : Call δ α) (engine : Engine δ) :
    call.act.outcome engine = (call.plan engine).outcome := by
  cases call with
  | setUp => rfl
  | shutDown => exact shutDown_outcome engine
  | createCache budget => exact createCache_outcome engine budget
  | acquireCache => exact acquireCache_outcome engine
  | destroyCache => exact destroyCache_outcome engine
  | share handle => exact changeShared_outcome engine handle _
  | drop handle =>
    rw [Plan.outcome_of_lossless rfl]
    exact releaseHandle_outcome engine handle
  | setLogger logger =>
    change (liftM (Journal.setLogger logger) : Act (Engine δ) Unit).outcome engine = _
    rw [journal_outcome, Journal.setLogger_outcome]
    rfl
  | write entry => exact write_outcome engine entry
  | elsewhere change apart => rfl

end Engine

end RenderCore
