import RenderCore.Gpu.Recorder
import RenderCore.Proofs.Stencil.PurgeRounds

/-!
# Shrinking a budget in steps

Evictions do not look at the budget, and what has to go under a budget has to go under every smaller
one. So a program that shrinks the budget of a cache in two steps, with a purge after each, evicts
the same buffers in the same order as one that shrinks it at once.
-/

namespace RenderCore

variable {δ : Type}

/-- The session with another budget for its cache. -/
def CacheSession.withBudget (work : CacheSession δ) (budget : CacheBudget) : CacheSession δ :=
  { work with cache := work.cache.setBudget budget }

variable [Backend δ] {build : Build}

namespace CacheSession

variable {work left : CacheSession δ}

/-- Gives the cache a budget and brings it within that; gives the number of evictions. -/
def purgeTo (build : Build) (budget : CacheBudget) : Act (CacheSession δ) Nat := do
  edit (·.setBudget budget)
  purge build

/-- Evicts the buffers of some keys, one after the other. -/
def evictEach (build : Build) (keys : List ArenaKey) : Act (CacheSession δ) PUnit :=
  keys.forM fun key => discard (evict build key)

theorem evictEach_append (first second : List ArenaKey) :
    (evictEach build (first ++ second) : Act (CacheSession δ) PUnit) =
      evictEach build first >>= fun _ => evictEach build second :=
  List.forM_append

/-- An eviction does not look at the budget. -/
theorem evict_withBudget (accounted : work.cache.Accounted build) (budget : CacheBudget)
    (key : ArenaKey) :
    (evict build key).outcome (work.withBudget budget) =
      (((evict build key).outcome work).1,
        ((evict build key).outcome work).2.withBudget budget) := by
  have same : (work.withBudget budget).cache.find? key = work.cache.find? key := rfl
  rw [evict_outcome accounted, evict_outcome (accounted.setBudget budget), same]
  cases work.cache.find? key with
  | none => rfl
  | some buffer =>
    dsimp only [withBudget]
    rw [StencilCache.discharge_setBudget]

theorem evictEach_withBudget (accounted : work.cache.Accounted build) (budget : CacheBudget)
    (keys : List ArenaKey) :
    (evictEach build keys).outcome (work.withBudget budget) =
      (((evictEach build keys).outcome work).1,
        ((evictEach build keys).outcome work).2.withBudget budget) := by
  induction keys generalizing work with
  | nil => rfl
  | cons key rest ih =>
    have parted (s : CacheSession δ) : (evictEach build (key :: rest)).outcome s =
        (discard (evict build key) >>= fun _ => evictEach build rest).outcome s := rfl
    have begun := evict_withBudget accounted budget key
    have still : ((evict build key).outcome work).2.cache.Accounted build :=
      (keeps_evict_accounted key).outcome accounted
    have first := Act.outcome_discard (evict build key) work
    have first' := Act.outcome_discard (evict build key) (work.withBudget budget)
    rw [begun] at first'
    rw [parted, parted]
    cases ended : (evict build key).outcome work with
    | mk outcome between =>
      rw [ended] at first first' still
      cases outcome with
      | ok found =>
        rw [Act.outcome_bind_of_ok first, Act.outcome_bind_of_ok first']
        exact ih still
      | error stop => rw [Act.outcome_bind_of_error first, Act.outcome_bind_of_error first']

/-- The plan is made before the first eviction, so that it matters only for the plan which budget is
    in force. -/
theorem purgeTo_outcome (accounted : work.cache.Accounted build) {budget : CacheBudget}
    {keys : List ArenaKey} (plan : (work.cache.setBudget budget).excess none = keys) :
    (purgeTo build budget).outcome work =
      (((evictEach build keys).outcome work).1.map fun _ => keys.length,
        ((evictEach build keys).outcome work).2.withBudget budget) := by
  have carried := Act.outcome_bind_pure (evictEach build keys) (fun _ => keys.length)
    (work.withBudget budget)
  rw [evictEach_withBudget accounted] at carried
  subst plan
  exact carried

/-- A purge that answers has carried out its plan. -/
theorem purgeTo_answered (accounted : work.cache.Accounted build) {budget : CacheBudget} {count : Nat}
    (ended : (purgeTo build budget).outcome work = (.ok count, left)) :
    let plan := (work.cache.setBudget budget).excess none
    count = plan.length ∧ ∃ done : CacheSession δ,
      (evictEach build plan).outcome work = (.ok (), done) ∧ done.cache.Accounted build ∧
        left = done.withBudget budget := by
  intro plan
  have kept : ((evictEach build plan).outcome work).2.cache.Accounted build :=
    (keeps_evictAll_accounted plan).outcome accounted
  rw [purgeTo_outcome accounted rfl] at ended
  cases carried : (evictEach build plan).outcome work with
  | mk outcome done =>
    rw [carried] at ended kept
    cases outcome with
    | ok _ =>
      cases ended
      exact ⟨rfl, done, rfl, kept, rfl⟩
    | error stop => cases ended

theorem ends_purgeTo_rounds (accounted : work.cache.Accounted build) (budget : CacheBudget) :
    let plan := (work.cache.setBudget budget).excess none
    (purgeTo build budget).Ends work
      (fun count left => (purgeTo build budget).outcome work = (.ok count, left) ∧
        PurgeRounds build none (work.withBudget budget) plan left ∧
        left.cache = plan.foldl StencilCache.discharge (work.cache.setBudget budget))
      (fun _ _ => False) fun _ => ¬ work.Reliable := by
  intro plan
  have rounds : (purgeTo build budget).Ends work _ _ _ :=
    Act.ends_modify_bind (@ends_purgeSparing_rounds δ _ build (work.withBudget budget)
      (accounted.setBudget budget) none)
  exact (rounds.and (Act.ends_self _ work)).imp (fun _ _ ok => ⟨ok.2, ok.1.2⟩)
    (fun _ _ failed => failed.1) fun _ cut => cut.1

/-- A program that shrinks the budget of its cache in two steps, with a purge after each, in any state
    that it can reach and in either build, leaves the very state that it leaves when it shrinks the
    budget at once: cache, backend and journal. The two answers add up to the one, and the buffers
    that are evicted at once are those of the first step and then those of the second. What is left
    in the end was left after the first step. -/
theorem purge_in_steps {budget : CacheBudget} (reached : Reachable build budget work)
    {smaller larger : CacheBudget} (fewer : smaller.maxCount ≤ larger.maxCount)
    (less : smaller.maxBytes ≤ larger.maxBytes) :
    (purgeTo build larger).Ends work
      (fun first between => (purgeTo build smaller).Ends between
        (fun second left =>
          (purgeTo build smaller).outcome work = (.ok (first + second), left) ∧
          (∃ sooner later : List ArenaKey, sooner.length = first ∧ later.length = second ∧
            PurgeRounds build none (work.withBudget larger) sooner between ∧
            PurgeRounds build none (between.withBudget smaller) later left ∧
            PurgeRounds build none (work.withBudget smaller) (sooner ++ later) left) ∧
          ∀ key, left.cache.contains key → between.cache.contains key)
        (fun _ _ => False) fun _ => ¬ between.Reliable)
      (fun _ _ => False) fun _ => ¬ work.Reliable := by
  have accounted := reached.accounted
  refine (ends_purgeTo_rounds accounted larger).ok fun first between ok => ?_
  obtain ⟨ended, sooner, after⟩ := ok
  obtain ⟨rfl, done, carried, still, rfl⟩ := purgeTo_answered accounted ended
  refine (ends_purgeTo_rounds (still.setBudget larger) smaller).ok fun second left ok => ?_
  obtain ⟨ended, later, final⟩ := ok
  obtain ⟨rfl, rest, onward, -, rfl⟩ := purgeTo_answered (still.setBudget larger) ended
  have plan := accounted.coherent.excess_setBudget fewer less
  have reduced : (done.withBudget larger).cache.setBudget smaller =
      (((work.cache.setBudget larger).excess none).foldl StencilCache.discharge
        work.cache).setBudget smaller := by
    rw [after, StencilCache.dischargeAll_setBudget]
    rfl
  rw [← reduced] at plan
  rw [evictEach_withBudget still] at onward
  obtain ⟨answered, rfl⟩ := Prod.mk.inj onward
  have once := purgeTo_outcome accounted plan
  rw [evictEach_append, Act.outcome_bind_of_ok carried, answered, List.length_append] at once
  obtain ⟨-, whole, -⟩ := (ends_purgeTo_rounds accounted smaller).of_answer once
  rw [plan] at whole
  refine ⟨once, ⟨_, _, rfl, rfl, sooner, later, whole⟩, fun key live => ?_⟩
  rw [StencilCache.contains_eq, final, StencilCache.find?_dischargeAll] at live
  split at live
  · contradiction
  · rw [StencilCache.contains_eq]
    exact live

/-- Two of three buffers are evicted one by one. -/
theorem purge_in_steps_one_by_one : ∃ work between left : CacheSession Recorder,
    Reachable .debug {} work ∧ work.session.backend.calls.length = 3 ∧
      (purgeTo .debug { maxCount := 2 }).outcome work = (.ok 1, between) ∧
      (purgeTo .debug { maxCount := 1 }).outcome between = (.ok 1, left) ∧
      (purgeTo .debug { maxCount := 1 }).outcome work = (.ok 2, left) ∧
      left.session.backend.calls =
        work.session.backend.calls ++ [.deleteStencil ⟨1⟩, .deleteStencil ⟨2⟩] := by
  have start : Run .debug (⟨{ budget := {} },
    { backend := {}, dialect := .standardDesktop, journal := .ofLogger .quiet }⟩ :
      CacheSession Recorder) [] _ := .nil
  have first := start.next (.findOrCreate ⟨64, 32, 8, 4⟩) (.ok ⟨1, 1⟩) (by decide +kernel)
  have second := first.next (.findOrCreate ⟨16, 16, 8, 0⟩) (.ok ⟨2, 1⟩) (by decide +kernel)
  have third := second.next (.findOrCreate ⟨8, 8, 8, 0⟩) (.ok ⟨3, 1⟩) (by decide +kernel)
  obtain ⟨work, reached, made, answered, onward, last⟩ : ∃ work : CacheSession Recorder,
      Reachable .debug {} work ∧ work.session.backend.calls.length = 3 ∧
        ((purgeTo .debug { maxCount := 2 }).outcome work).1 = .ok 1 ∧
        ((purgeTo .debug { maxCount := 1 }).outcome
          ((purgeTo .debug { maxCount := 2 }).outcome work).2).1 = .ok 1 ∧
        ((purgeTo .debug { maxCount := 1 }).outcome work).2.session.backend.calls =
          work.session.backend.calls ++ [.deleteStencil ⟨1⟩, .deleteStencil ⟨2⟩] :=
    ⟨_, third.reachable, by decide +kernel⟩
  have steps := @purge_in_steps Recorder _ .debug work {} reached { maxCount := 1 }
    { maxCount := 2 } (by decide) (by decide)
  have halfway : (purgeTo .debug { maxCount := 2 }).outcome work = (.ok 1, _) := Prod.ext answered rfl
  have ended : (purgeTo .debug { maxCount := 1 }).outcome _ = (.ok 1, _) := Prod.ext onward rfl
  obtain ⟨once, -⟩ := (steps.of_answer halfway).of_answer ended
  simp only [once] at last
  exact ⟨work, _, _, reached, made, halfway, ended, once, last⟩

end CacheSession

end RenderCore
