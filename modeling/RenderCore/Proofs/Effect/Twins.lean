import RenderCore.Proofs.Journal.Notes

/-!
# Two runs side by side

Two runs of one operation, begun in states that have in common what the operation looks at, come to
the same answer and leave such states again. `Act.Twins` says so, up to loggers: what the journal
holds may differ, so that the logger of one run may fail where that of the other does not. It is
kept by every way of putting operations together.
-/

namespace RenderCore

variable {σ τ α β : Type}

/-- A logger failed. -/
abbrev Stop.logger : Stop := .panic .logger

/-- Two runs have ended alike: with the same answer, fault or panic, in states that are `alike`. Or a
    logger has cut one of them short. -/
def EndAlike (alike : σ → σ → Prop) (ended other : Except Stop α × σ) : Prop :=
  ended.1 = other.1 ∧ alike ended.2 other.2 ∨ ended.1 = .error .logger ∨ other.1 = .error .logger

theorem EndAlike.of_undisturbed {alike : σ → σ → Prop} {ended other : Except Stop α × σ}
    (ends : EndAlike alike ended other) (first : ended.1 ≠ .error .logger)
    (second : other.1 ≠ .error .logger) : ended.1 = other.1 ∧ alike ended.2 other.2 :=
  ends.resolve_right fun cut => cut.elim first second

/-- Whatever was reported before, unless a logger failed on it. -/
theorem EndAlike.of_heeded {alike : σ → σ → Prop} {journal other : Journal}
    {entries entries' : List Entry} {answer : Except Stop α} {s t : σ} (kept : alike s t) :
    EndAlike alike (journal.heeded entries answer, s) (other.heeded entries' answer, t) := by
  unfold Journal.heeded
  split
  · exact .inr (.inl rfl)
  · split
    · exact .inr (.inr rfl)
    · exact .inl ⟨rfl, kept⟩

namespace Act

/-- Begun in states that are `alike`, the two operations end alike. -/
def Twins (act other : Act σ α) (alike : σ → σ → Prop) : Prop :=
  ∀ s t, alike s t → EndAlike alike (act.outcome s) (other.outcome t)

variable {act other : Act σ α} {alike : σ → σ → Prop}

theorem twins_pure (a : α) : (pure a : Act σ α).Twins (pure a) alike :=
  fun _ _ start => .inl ⟨rfl, start⟩

theorem twins_check (check : Except Panic α) :
    (liftM check : Act σ α).Twins (liftM check) alike := by
  intro s t start
  cases check with
  | ok a => exact .inl ⟨rfl, start⟩
  | error panic => exact .inl ⟨rfl, start⟩

theorem twins_modify {change change' : σ → σ}
    (kept : ∀ s t, alike s t → alike (change s) (change' t)) :
    (modify change : Act σ Unit).Twins (modify change') alike :=
  fun s t start => .inl ⟨rfl, kept s t start⟩

/-- Where nothing differs, one operation does the same twice. -/
theorem twins_self (act : Act σ α) : act.Twins act (· = ·) := by
  rintro s _ rfl
  exact .inl ⟨rfl, rfl⟩

theorem Twins.bind {next next' : α → Act σ β} (first : act.Twins other alike)
    (second : ∀ a, (next a).Twins (next' a) alike) :
    (act >>= next).Twins (other >>= next') alike := by
  intro s t start
  have ended := first s t start
  cases left : act.outcome s with
  | mk outcome s' =>
    cases right : other.outcome t with
    | mk outcome' t' =>
      rw [left, right] at ended
      obtain ⟨same, between⟩ | cut | cut := ended
      · obtain rfl : outcome = outcome' := same
        cases outcome with
        | ok a =>
          rw [outcome_bind_of_ok left, outcome_bind_of_ok right]
          exact second a s' t' between
        | error stop =>
          rw [outcome_bind_of_error left, outcome_bind_of_error right]
          exact .inl ⟨rfl, between⟩
      · obtain rfl : outcome = .error .logger := cut
        rw [outcome_bind_of_error left]
        exact .inr (.inl rfl)
      · obtain rfl : outcome' = .error .logger := cut
        rw [outcome_bind_of_error right]
        exact .inr (.inr rfl)

theorem twins_get_bind {next next' : σ → Act σ α}
    (twins : ∀ s t, alike s t → (next s).Twins (next' t) alike) :
    (get >>= next).Twins (get >>= next') alike :=
  fun s t start => twins s t start s t start

theorem Twins.discard (twins : act.Twins other alike) :
    (discard act).Twins (discard other) alike :=
  twins.bind fun _ => twins_pure ()

theorem twins_forM {items : List α} {step step' : α → Act σ PUnit}
    (twins : ∀ item, (step item).Twins (step' item) alike) :
    (items.forM step).Twins (items.forM step') alike := by
  induction items with
  | nil => exact twins_pure _
  | cons item rest ih => exact (twins item).bind fun _ => ih

/-- Operations on parts of states. -/
theorem Twins.within {part : σ → τ} {put : τ → σ → σ} {act other : Act τ α} {apt : τ → τ → Prop}
    (twins : act.Twins other apt) (taken : ∀ s t, alike s t → apt (part s) (part t))
    (back : ∀ s t u v, alike s t → apt u v → alike (put u s) (put v t)) :
    (Act.within part put act).Twins (Act.within part put other) alike := by
  intro s t start
  have left : (Act.within part put act).outcome s = _ := outcome_within rfl
  have right : (Act.within part put other).outcome t = _ := outcome_within rfl
  rw [left, right]
  exact (twins _ _ (taken s t start)).imp_left fun ended =>
    ⟨ended.1, back s t _ _ start ended.2⟩

end Act

/-- Entries are written whatever the journal holds, unless its logger fails. -/
theorem Journal.twins_write (entry : Entry) : (write entry).Twins (write entry) fun _ _ => True := by
  intro journal other _
  rw [write_outcome, write_outcome]
  exact .of_heeded trivial

end RenderCore
