import RenderCore.Proofs.Effect.Endings

/-!
# Strict and lenient builds

A debug build stops at a broken expectation and at an overflow where a release build carries on;
apart from that the two do the same. `Act.Stricter` says so of two operations, and is kept by every
way of putting operations together, so that what holds of the endings of release builds holds of
those of debug builds.
-/

namespace RenderCore

/-! ## Checks -/

/-- A check that panics or comes to the same as another one. -/
def Stricter {α : Type} (check other : Except Panic α) : Prop :=
  check = other ∨ ∃ panic, check = .error panic

theorem Stricter.bind {α β : Type} {check other : Except Panic α} {next next' : α → Except Panic β}
    (first : Stricter check other) (second : ∀ a, Stricter (next a) (next' a)) :
    Stricter (check >>= next) (other >>= next') := by
  rcases first with rfl | ⟨panic, rfl⟩
  · cases check with
    | ok a => exact second a
    | error panic => exact .inl rfl
  · exact .inr ⟨panic, rfl⟩

namespace Build

variable (build : Build)

theorem stricter_expect (holds : Bool) (text : String) :
    Stricter (build.expect holds text) (release.expect holds text) := by
  rw [expect_release]
  unfold expect
  split
  · exact .inr ⟨_, rfl⟩
  · exact .inl rfl

theorem stricter_checked {α : Type} (operation : Arithmetic) (exact : Bool) (wrapped : α) :
    Stricter (build.checked operation exact wrapped) (.ok wrapped) := by
  unfold checked
  split
  · exact .inr ⟨_, rfl⟩
  · exact .inl rfl

theorem stricter_add64 (a b : UInt64) : Stricter (build.add64 a b) (release.add64 a b) := by
  rw [add64_release]
  exact build.stricter_checked _ _ _

theorem stricter_sub64 (a b : UInt64) : Stricter (build.sub64 a b) (release.sub64 a b) := by
  rw [sub64_release]
  exact build.stricter_checked _ _ _

theorem stricter_mul64 (a b : UInt64) : Stricter (build.mul64 a b) (release.mul64 a b) := by
  rw [mul64_release]
  exact build.stricter_checked _ _ _

end Build

namespace Act

variable {σ τ α β : Type}

/-- Begun in any state, the operation panics or does what the other one does. -/
def Stricter (act other : Act σ α) : Prop :=
  ∀ s, act s = other s ∨ ∃ panic t, act s = .error (.panic panic) t

theorem Stricter.refl (act : Act σ α) : act.Stricter act := fun _ => .inl rfl

variable {act other : Act σ α}

theorem Stricter.bind {next next' : α → Act σ β} (first : act.Stricter other)
    (second : ∀ a, (next a).Stricter (next' a)) : (act >>= next).Stricter (other >>= next') := by
  intro s
  change EStateM.bind act next s = EStateM.bind other next' s ∨
    ∃ panic t, EStateM.bind act next s = .error (.panic panic) t
  unfold EStateM.bind
  rcases first s with same | ⟨panic, t, cut⟩
  · rw [same]
    cases other s with
    | ok a t => exact second a t
    | error stop t => exact .inl rfl
  · rw [cut]
    exact .inr ⟨panic, t, rfl⟩

theorem Stricter.within {part : σ → τ} {put : τ → σ → σ} {act other : Act τ α}
    (stricter : act.Stricter other) :
    (Act.within part put act).Stricter (Act.within part put other) := by
  intro s
  unfold Act.within
  rcases stricter (part s) with same | ⟨panic, t, cut⟩
  · rw [same]
    exact .inl rfl
  · rw [cut]
    exact .inr ⟨panic, put t s, rfl⟩

theorem Stricter.onPanic {cleanup : Act σ Unit} (stricter : act.Stricter other) :
    (Act.onPanic act cleanup).Stricter (Act.onPanic other cleanup) := by
  intro s
  unfold Act.onPanic
  rcases stricter s with same | ⟨panic, t, cut⟩
  · rw [same]
    exact .inl rfl
  · rw [cut]
    dsimp only
    cases cleanup t with
    | ok _ u => exact .inr ⟨panic, u, rfl⟩
    | error _ u => exact .inr ⟨panic, u, rfl⟩

theorem Stricter.discard (stricter : act.Stricter other) :
    (discard act).Stricter (discard other) :=
  stricter.bind fun _ => .refl (pure ())

theorem stricter_forM {items : List α} {step step' : α → Act σ PUnit}
    (stricter : ∀ item, (step item).Stricter (step' item)) :
    (items.forM step).Stricter (items.forM step') := by
  induction items with
  | nil => exact .refl _
  | cons item rest ih => exact (stricter item).bind fun _ => ih

theorem stricter_check {check other : Except Panic α} (stricter : RenderCore.Stricter check other) :
    (liftM check : Act σ α).Stricter (liftM other) := by
  intro s
  rcases stricter with same | ⟨panic, cut⟩
  · rw [same]
    exact .inl rfl
  · rw [cut]
    exact .inr ⟨panic, s, rfl⟩

/-- The stricter operation ends as the other one does, unless it panics. -/
theorem Stricter.ends {s : σ} {answer : α → σ → Prop} {fault : Fault → σ → Prop}
    {panic : σ → Prop} (stricter : act.Stricter other) (ends : other.Ends s answer fault panic) :
    act.Ends s answer fault fun _ => True := by
  unfold Ends at ends ⊢
  rcases stricter s with same | ⟨panic, t, cut⟩
  · rw [same]
    split <;> rename_i ended <;> rw [ended] at ends
    · exact ends
    · exact ends
    · trivial
  · rw [cut]
    trivial

/-- What the stricter operation answers, the other one could have answered. -/
theorem Stricter.answered {s t : σ} {answer : α → σ → Prop} {fault : Fault → σ → Prop}
    {panic : σ → Prop} {a : α} (stricter : act.Stricter other)
    (ends : other.Ends s answer fault panic) (answered : act.outcome s = (.ok a, t)) :
    answer a t :=
  (stricter.ends ends).of_answer answered

/-- Where the stricter operation does not panic, it comes to the outcome of the other one. -/
theorem Stricter.outcome_eq {s t : σ} {outcome : Except Fault α} (stricter : act.Stricter other)
    (ended : act.outcome s = (outcome.mapError .fault, t)) :
    other.outcome s = (outcome.mapError .fault, t) := by
  rcases stricter s with same | ⟨panic, u, cut⟩
  · rw [← ended]
    unfold Act.outcome
    rw [same]
  · unfold Act.outcome at ended
    rw [cut] at ended
    cases outcome with
    | ok a => cases ended
    | error f => cases ended

end Act

end RenderCore
