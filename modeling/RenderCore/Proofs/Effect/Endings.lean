import RenderCore.Effect.Act

/-!
# How operations end

An operation ends with an answer, with a fault or with a panic, and in each case leaves a state.
`Act.Ends` says what holds at the end, with one condition for each of the three ways. What a
sequence of operations ends in follows from what its parts end in.
-/

namespace RenderCore

/-! ## Release builds -/

@[simp] theorem Build.expect_release (holds : Bool) (text : String) :
    Build.release.expect holds text = .ok () := by
  simp [expect]

@[simp] theorem Build.add64_release (a b : UInt64) : Build.release.add64 a b = .ok (a + b) := by
  simp [add64, checked]

@[simp] theorem Build.sub64_release (a b : UInt64) : Build.release.sub64 a b = .ok (a - b) := by
  simp [sub64, checked]

@[simp] theorem Build.mul64_release (a b : UInt64) : Build.release.mul64 a b = .ok (a * b) := by
  simp [mul64, checked]

@[simp] theorem Build.mul32_release (a b : UInt32) : Build.release.mul32 a b = .ok (a * b) := by
  simp [mul32, checked]

/-! ## Three ways to end -/

namespace Act

variable {σ τ α β : Type}

/-- What holds when an operation, begun in the state `s`, ends: `answer` of an answer and the state
    left, `fault` of a fault and the state left, `panic` of the state that a panic leaves. -/
def Ends (act : Act σ α) (s : σ) (answer : α → σ → Prop) (fault : Fault → σ → Prop)
    (panic : σ → Prop) : Prop :=
  match act s with
  | .ok a t => answer a t
  | .error (.fault f) t => fault f t
  | .error (.panic _) t => panic t

variable {act : Act σ α} {s : σ} {answer answer' : α → σ → Prop} {fault fault' : Fault → σ → Prop}
  {panic panic' : σ → Prop}

theorem ends_iff_outcome : act.Ends s answer fault panic ↔
    match act.outcome s with
    | (.ok a, t) => answer a t
    | (.error (.fault f), t) => fault f t
    | (.error (.panic _), t) => panic t := by
  unfold Ends outcome
  cases act s with
  | ok a t => exact Iff.rfl
  | error stop t => cases stop <;> exact Iff.rfl

theorem Ends.of_answer {a : α} {t : σ} (ends : act.Ends s answer fault panic)
    (answered : act.outcome s = (.ok a, t)) : answer a t := by
  rw [ends_iff_outcome, answered] at ends
  exact ends

/-- An operation that can end in one answer only, and is not cut short, answers so. -/
theorem Ends.answers {a : α} (ends : act.Ends s (fun b _ => b = a) (fun _ _ => False) panic)
    (calm : ∀ t, ¬ panic t) : (act.outcome s).1 = .ok a := by
  rw [ends_iff_outcome] at ends
  split at ends <;> rename_i ended
  · rw [ended, ends]
  · exact ends.elim
  · exact absurd ends (calm _)

/-- Each way to end, with the outcome itself. -/
theorem ends_self (act : Act σ α) (s : σ) :
    act.Ends s (fun a t => act.outcome s = (.ok a, t))
      (fun f t => act.outcome s = (.error (.fault f), t))
      fun t => ∃ p, act.outcome s = (.error (.panic p), t) := by
  rw [ends_iff_outcome]
  split <;> rename_i ended
  · exact ended
  · exact ended
  · exact ⟨_, ended⟩

theorem Ends.imp (ends : act.Ends s answer fault panic) (ok : ∀ a t, answer a t → answer' a t)
    (failed : ∀ f t, fault f t → fault' f t) (cut : ∀ t, panic t → panic' t) :
    act.Ends s answer' fault' panic' := by
  unfold Ends at ends ⊢
  split
  · rename_i a t run
    rw [run] at ends
    exact ok a t ends
  · rename_i f t run
    rw [run] at ends
    exact failed f t ends
  · rename_i t run
    rw [run] at ends
    exact cut t ends

/-- An operation without faults satisfies any condition on them. -/
theorem Ends.unfailing (ends : act.Ends s answer (fun _ _ => False) panic) :
    act.Ends s answer fault panic :=
  ends.imp (fun _ _ ok => ok) (fun _ _ failed => failed.elim) fun _ cut => cut

theorem Ends.ok (ends : act.Ends s answer fault panic) (ok : ∀ a t, answer a t → answer' a t) :
    act.Ends s answer' fault panic :=
  ends.imp ok (fun _ _ failed => failed) fun _ cut => cut

theorem Ends.cut (ends : act.Ends s answer fault panic) (cut : ∀ t, panic t → panic' t) :
    act.Ends s answer fault panic' :=
  ends.imp (fun _ _ ok => ok) (fun _ _ failed => failed) cut

/-- So does one that only answers, and any on panics too. -/
theorem Ends.certain (ends : act.Ends s answer (fun _ _ => False) fun _ => False) :
    act.Ends s answer fault panic :=
  ends.unfailing.cut fun _ => False.elim

theorem Ends.and (first : act.Ends s answer fault panic)
    (second : act.Ends s answer' fault' panic') :
    act.Ends s (fun a t => answer a t ∧ answer' a t) (fun f t => fault f t ∧ fault' f t)
      (fun t => panic t ∧ panic' t) := by
  unfold Ends at first second ⊢
  split <;> rename_i ended <;> rw [ended] at first second <;> exact ⟨first, second⟩

/-- What holds of the state that is left, whichever way the operation ends. -/
theorem ends_of_outcome {left : σ → Prop} (ended : left (act.outcome s).2) :
    act.Ends s (fun _ => left) (fun _ => left) left := by
  rw [ends_iff_outcome]
  split <;> rename_i outcome <;> rw [outcome] at ended <;> exact ended

@[simp] theorem lift_ok (a : α) : (liftM (.ok a : Except Panic α) : Act σ α) = pure a := rfl

theorem ends_pure {a : α} (ok : answer a s) : (pure a : Act σ α).Ends s answer fault panic := ok

theorem outcome_bind_pure (act : Act σ α) (f : α → β) (s : σ) :
    (act >>= fun a => (pure (f a) : Act σ β)).outcome s =
      ((act.outcome s).1.map f, (act.outcome s).2) := by
  have unfolded : (act >>= fun a => (pure (f a) : Act σ β)) s =
      EStateM.bind act (fun a => pure (f a)) s := rfl
  rw [outcome, unfolded, EStateM.bind, outcome]
  cases act s <;> rfl

theorem outcome_discard (act : Act σ α) (s : σ) :
    (discard act).outcome s = ((act.outcome s).1.map fun _ => (), (act.outcome s).2) :=
  outcome_bind_pure act (fun _ => ()) s

theorem outcome_bind_of_ok {next : α → Act σ β} {a : α} {t : σ}
    (first : act.outcome s = (.ok a, t)) : (act >>= next).outcome s = (next a).outcome t := by
  have unfolded : (act >>= next) s = EStateM.bind act next s := rfl
  unfold outcome at first ⊢
  rw [unfolded, EStateM.bind]
  cases run : act s with
  | ok a t =>
    rw [run] at first
    cases first
    rfl
  | error e t =>
    rw [run] at first
    cases first

theorem outcome_bind_of_error {next : α → Act σ β} {stop : Stop} {t : σ}
    (first : act.outcome s = (.error stop, t)) : (act >>= next).outcome s = (.error stop, t) := by
  have unfolded : (act >>= next) s = EStateM.bind act next s := rfl
  unfold outcome at first ⊢
  rw [unfolded, EStateM.bind]
  cases run : act s with
  | ok a t =>
    rw [run] at first
    cases first
  | error e t =>
    rw [run] at first
    cases first
    rfl

theorem outcome_within {part : σ → τ} {put : τ → σ → σ} {act : Act τ α} {outcome : Except Stop α}
    {t : τ} (ended : act.outcome (part s) = (outcome, t)) :
    (Act.within part put act).outcome s = (outcome, put t s) := by
  unfold Act.outcome at ended ⊢
  unfold within
  cases run : act (part s) with
  | ok a t =>
    rw [run] at ended
    cases ended
    rfl
  | error e t =>
    rw [run] at ended
    cases ended
    rfl

theorem outcome_get_bind {next : σ → Act σ β} : (get >>= next).outcome s = (next s).outcome s := rfl

theorem outcome_set_bind {t : σ} {next : PUnit → Act σ β} :
    ((set t : Act σ PUnit) >>= next).outcome s = (next ()).outcome t := rfl

theorem outcome_modify_bind {change : σ → σ} {next : Unit → Act σ β} :
    (modify change >>= next).outcome s = (next ()).outcome (change s) := rfl

/-- The clean-up after a panic has its effect, but its own end is not seen. -/
theorem outcome_onPanic (act : Act σ α) (cleanup : Act σ Unit) (s : σ) :
    (Act.onPanic act cleanup).outcome s =
      match act.outcome s with
      | (.error (.panic p), t) => (.error (.panic p), (cleanup.outcome t).2)
      | ended => ended := by
  unfold outcome onPanic
  cases act s with
  | ok a t => rfl
  | error stop t =>
    cases stop with
    | fault f => rfl
    | panic p =>
      dsimp only
      cases cleanup t <;> rfl

/-- A sequence ends as its first part, or as its second part begun where the first one ended. -/
theorem Ends.bind {next : α → Act σ β} {middle : α → σ → Prop} {answer : β → σ → Prop}
    (first : act.Ends s middle fault panic)
    (second : ∀ a t, middle a t → (next a).Ends t answer fault panic) :
    (act >>= next).Ends s answer fault panic := by
  unfold Ends at first
  unfold Ends
  have unfolded : (act >>= next) s = EStateM.bind act next s := rfl
  rw [unfolded, EStateM.bind]
  cases run : act s with
  | ok a t =>
    rw [run] at first
    exact second a t first
  | error e t =>
    rw [run] at first
    cases e <;> exact first

/-- A check that fails leaves the state as it is. -/
theorem ends_check_bind {check : Except Panic α} {next : α → Act σ β} {answer : β → σ → Prop}
    (passed : ∀ a, check = .ok a → (next a).Ends s answer fault panic)
    (cut : ∀ p, check = .error p → panic s) :
    (liftM check >>= next).Ends s answer fault panic := by
  cases check with
  | ok a => exact passed a rfl
  | error p => exact cut p rfl

theorem ends_get_bind {next : σ → Act σ β} {answer : β → σ → Prop}
    (ends : (next s).Ends s answer fault panic) : (get >>= next).Ends s answer fault panic := ends

theorem ends_modify {change : σ → σ} {answer : Unit → σ → Prop} (ok : answer () (change s)) :
    (modify change : Act σ Unit).Ends s answer fault panic := ok

theorem ends_modify_bind {change : σ → σ} {next : Unit → Act σ β} {answer : β → σ → Prop}
    (ends : (next ()).Ends (change s) answer fault panic) :
    (modify change >>= next).Ends s answer fault panic := ends

/-- An operation on a part of the state. -/
theorem Ends.within {part : σ → τ} {put : τ → σ → σ} {act : Act τ α}
    (ends : act.Ends (part s) (fun a t => answer a (put t s)) (fun f t => fault f (put t s))
      (fun t => panic (put t s))) :
    (Act.within part put act).Ends s answer fault panic := by
  unfold Ends at ends
  unfold Ends Act.within
  cases run : act (part s) with
  | ok a t =>
    rw [run] at ends
    exact ends
  | error e t =>
    rw [run] at ends
    cases e <;> exact ends

/-- A clean-up after a panic changes the state once more; it answers for whatever it leaves. -/
theorem Ends.onPanic {cleanup : Act σ Unit} {middle : σ → Prop}
    (ends : act.Ends s answer fault middle)
    (cleaned : ∀ t, middle t → cleanup.Ends t (fun _ => panic) (fun _ => panic) panic) :
    (Act.onPanic act cleanup).Ends s answer fault panic := by
  unfold Ends at ends
  unfold Ends Act.onPanic
  cases run : act s with
  | ok a t =>
    rw [run] at ends
    exact ends
  | error e t =>
    rw [run] at ends
    cases e with
    | fault f => exact ends
    | panic p =>
      have cleaned := cleaned t ends
      unfold Ends at cleaned
      dsimp only
      cases again : cleanup t with
      | ok _ u =>
        rw [again] at cleaned
        exact cleaned
      | error e u =>
        rw [again] at cleaned
        cases e <;> exact cleaned

theorem Ends.discard {answer : Unit → σ → Prop}
    (ends : act.Ends s (fun _ => answer ()) fault panic) :
    (discard act).Ends s answer fault panic := by
  show (Functor.map (fun _ => ()) act : Act σ Unit).Ends s answer fault panic
  have done : (act >>= fun _ => pure ()).Ends s answer fault panic := ends.bind fun _ _ ok => ok
  exact done

/-- A step for each item: what holds before the first step and is kept by the step of every item
    holds in the end. The condition tells which items are still to come. -/
theorem ends_forM {items : List α} {step : α → Act σ PUnit} (remaining : List α → σ → Prop)
    (start : remaining items s)
    (kept : ∀ item rest t, remaining (item :: rest) t →
      (step item).Ends t (fun _ => remaining rest) fault panic) :
    (items.forM step).Ends s (fun _ => remaining []) fault panic := by
  induction items generalizing s with
  | nil => exact start
  | cons item rest ih =>
    show (step item >>= fun _ => rest.forM step).Ends s (fun _ => remaining []) fault panic
    exact (kept item rest s start).bind fun _ t held => ih held

/-! ## Operations that do not panic -/

/-- Begun in a state that is fit for it, the operation does not panic, and leaves such a state. -/
def Steady (act : Act σ α) (fit : σ → Prop) : Prop :=
  ∀ s, fit s → act.Ends s (fun _ => fit) (fun _ => fit) (fun _ => False)

variable {fit : σ → Prop}

/-- A steady operation panics only in a state that is not fit for it. -/
theorem Ends.unfit (ends : act.Ends s answer fault panic) (steady : act.Steady fit) :
    act.Ends s answer fault fun t => panic t ∧ ¬ fit s := by
  unfold Ends at ends ⊢
  split
  · rename_i a t run
    rw [run] at ends
    exact ends
  · rename_i f t run
    rw [run] at ends
    exact ends
  · rename_i p t run
    rw [run] at ends
    refine ⟨ends, fun ok => ?_⟩
    have never := steady s ok
    unfold Ends at never
    rw [run] at never
    exact never

theorem steady_pure (a : α) : (pure a : Act σ α).Steady fit := fun _ ok => ok

theorem steady_modify {change : σ → σ} (kept : ∀ s, fit s → fit (change s)) :
    (modify change : Act σ Unit).Steady fit := kept

theorem steady_modifyGet {change : σ → α × σ} (kept : ∀ s, fit s → fit (change s).2) :
    (modifyGet change : Act σ α).Steady fit := kept

theorem Steady.bind {next : α → Act σ β} (first : act.Steady fit)
    (second : ∀ a, (next a).Steady fit) : (act >>= next).Steady fit :=
  fun s ok => (first s ok).bind fun a t left => second a t left

theorem steady_get_bind {next : σ → Act σ β} (steady : ∀ s, (next s).Steady fit) :
    (get >>= next).Steady fit :=
  fun s ok => ends_get_bind (steady s s ok)

/-- An operation on a part of a state is steady if it is on the part, and the rest stays fit. -/
theorem Steady.within {part : σ → τ} {put : τ → σ → σ} {act : Act τ α} {apt : τ → Prop}
    (steady : act.Steady apt) (taken : ∀ s, fit s → apt (part s))
    (back : ∀ s t, fit s → apt t → fit (put t s)) : (Act.within part put act).Steady fit :=
  fun s ok => Ends.within <| (steady (part s) (taken s ok)).imp (fun _ t left => back s t ok left)
    (fun _ t left => back s t ok left) fun _ cut => cut

theorem Steady.onPanic {cleanup : Act σ Unit} (steady : act.Steady fit) :
    (Act.onPanic act cleanup).Steady fit :=
  fun s ok => (steady s ok).onPanic fun _ cut => cut.elim

theorem Steady.discard (steady : act.Steady fit) : (discard act).Steady fit :=
  fun s ok => (steady s ok).discard

theorem steady_forM {items : List α} {step : α → Act σ PUnit}
    (steady : ∀ item, (step item).Steady fit) : (items.forM step).Steady fit :=
  fun _ ok => ends_forM (fun _ => fit) ok fun item _ t left => steady item t left

/-- A steady operation leaves a state fit for more if what more is asked holds wherever it ends. -/
theorem Steady.and {also : σ → Prop} (steady : act.Steady fit)
    (kept : ∀ s, also s → act.Ends s (fun _ => also) (fun _ => also) fun _ => True) :
    act.Steady fun s => fit s ∧ also s :=
  fun s ok => ((steady s ok.1).and (kept s ok.2)).cut fun _ cut => cut.1

/-! ## Conditions that operations keep -/

/-- However the operation ends, what held of the state before it holds of the state it leaves. -/
def Keeps (act : Act σ α) (held : σ → Prop) : Prop :=
  ∀ s, held s → act.Ends s (fun _ => held) (fun _ => held) held

variable {held : σ → Prop}

theorem Keeps.outcome (keeps : act.Keeps held) (start : held s) : held (act.outcome s).2 := by
  have ends := keeps s start
  rw [ends_iff_outcome] at ends
  split at ends <;> rename_i ended <;> rw [ended] <;> exact ends

theorem keeps_of_outcome (kept : ∀ s, held s → held (act.outcome s).2) : act.Keeps held :=
  fun s start => ends_of_outcome (kept s start)

theorem keeps_true (act : Act σ α) : act.Keeps fun _ => True := by
  intro s start
  unfold Ends
  split <;> trivial

/-- A steady operation panics only in a state that is not fit for it, and leaves a fit state fit. -/
theorem Steady.ends (steady : act.Steady fit) (s : σ) :
    act.Ends s (fun _ left => fit s → fit left) (fun _ _ => True) fun _ => ¬ fit s := by
  by_cases ok : fit s
  · exact (steady s ok).imp (fun _ _ left _ => left) (fun _ _ _ => trivial) fun _ cut => cut.elim
  · exact (keeps_true act s trivial).imp (fun _ _ _ fine => absurd fine ok)
      (fun _ _ _ => trivial) fun _ _ => ok

theorem keeps_pure (a : α) : (pure a : Act σ α).Keeps held := fun _ start => start

theorem keeps_check (check : Except Panic α) : (liftM check : Act σ α).Keeps held := by
  intro s start
  cases check <;> exact start

theorem keeps_modify {change : σ → σ} (kept : ∀ s, held s → held (change s)) :
    (modify change : Act σ Unit).Keeps held := kept

theorem keeps_modifyGet {change : σ → α × σ} (kept : ∀ s, held s → held (change s).2) :
    (modifyGet change : Act σ α).Keeps held := kept

theorem Keeps.bind {next : α → Act σ β} (first : act.Keeps held)
    (second : ∀ a, (next a).Keeps held) : (act >>= next).Keeps held :=
  fun s start => (first s start).bind fun a t left => second a t left

theorem keeps_get_bind {next : σ → Act σ β} (keeps : ∀ s, (next s).Keeps held) :
    (get >>= next).Keeps held :=
  fun s start => ends_get_bind (keeps s s start)

/-- An operation on a part of a state. -/
theorem Keeps.within {part : σ → τ} {put : τ → σ → σ} {act : Act τ α} {apt : τ → Prop}
    (keeps : act.Keeps apt) (taken : ∀ s, held s → apt (part s))
    (back : ∀ s t, held s → apt t → held (put t s)) : (Act.within part put act).Keeps held :=
  fun s start => Ends.within <| (keeps (part s) (taken s start)).imp
    (fun _ t left => back s t start left) (fun _ t left => back s t start left)
    fun t left => back s t start left

theorem Keeps.onPanic {cleanup : Act σ Unit} (keeps : act.Keeps held)
    (cleaned : cleanup.Keeps held) : (Act.onPanic act cleanup).Keeps held :=
  fun s start => (keeps s start).onPanic cleaned

theorem Keeps.discard (keeps : act.Keeps held) : (discard act).Keeps held :=
  fun s start => (keeps s start).discard

theorem keeps_forM {items : List α} {step : α → Act σ PUnit}
    (keeps : ∀ item, (step item).Keeps held) : (items.forM step).Keeps held :=
  fun _ start => ends_forM (fun _ => held) start fun item _ t left => keeps item t left

end Act

end RenderCore
