import RenderCore.Gpu.Session
import RenderCore.Proofs.Effect.Endings
import RenderCore.Proofs.Journal.Notes

/-!
# What reports do

In a release build a report changes nothing but the journal. It is cut short only by a logger that
fails on the entry.
-/

namespace RenderCore

variable {δ α : Type}

/-- No entry makes the logger in charge fail. -/
def Journal.Reliable (journal : Journal) : Prop :=
  ∀ alarm, journal.logger.open? = some (.keeper alarm) → ∀ kept entry, alarm kept entry = false

/-- Nothing cuts operations in the session short, its backend apart. -/
def Session.Reliable (session : Session δ) : Prop := session.journal.Reliable

namespace Journal

variable {journal : Journal}

/-- Entries do not change who is in charge. -/
theorem reliable_noted (entries : List Entry) :
    (journal.noted entries).Reliable ↔ journal.Reliable := by
  unfold Reliable
  rw [logger_noted]

theorem Reliable.alarmed (reliable : journal.Reliable) (entries : List Entry) :
    journal.alarmed entries = false := by
  induction entries generalizing journal with
  | nil => rfl
  | cons entry rest ih =>
    have quiet : journal.rings entry = false := by
      unfold rings
      split
      · rename_i alarm opened
        exact reliable alarm opened journal.kept entry
      · rfl
    have still : (journal.note entry).Reliable := (reliable_noted [entry]).mpr reliable
    rw [Journal.alarmed, quiet, ih still]
    rfl

theorem ends_write (entry : Entry) (journal : Journal) :
    (write entry).Ends journal (fun _ _ => True) (fun _ _ => False) (fun _ => True) := by
  unfold write
  apply Act.ends_get_bind
  split
  · exact Act.ends_pure trivial
  · split
    · exact trivial
    · exact Act.ends_pure trivial
  · have noted : ∀ kept : Journal, (set kept : Act Journal PUnit).Ends journal (fun _ _ => True)
        (fun _ _ => False) (fun _ => True) := fun _ => trivial
    refine (noted _).bind fun _ t _ => ?_
    split
    · exact trivial
    · exact Act.ends_pure trivial

theorem steady_write (entry : Entry) : (write entry).Steady Reliable := by
  intro journal reliable
  unfold write
  apply Act.ends_get_bind
  split
  · exact reliable
  · split <;> exact reliable
  · rename_i alarm opened
    have kept : ∀ entries, (set { journal with kept := entries } : Act Journal PUnit).Ends journal
        (fun _ => Reliable) (fun _ => Reliable) (fun _ => False) := fun _ => reliable
    refine (kept _).bind fun _ t left => ?_
    rw [reliable alarm opened, if_neg Bool.false_ne_true]
    exact Act.ends_pure left

theorem ends_log (severity : Severity) (source message : String) (journal : Journal) :
    (log severity source message).Ends journal (fun _ _ => True) (fun _ _ => False)
      (fun _ => True) :=
  ends_write _ journal

theorem steady_log (severity : Severity) (source message : String) :
    (log severity source message).Steady Reliable :=
  steady_write _

/-- A refusal reports its text and stops with it. -/
theorem ends_refuse (source text : String) (journal : Journal) :
    (refuse source text : Act Journal α).Ends journal (fun _ _ => False)
      (fun fault _ => fault = .backend text) (fun _ => ¬ journal.Reliable) := by
  have reported := (ends_write
    { severity := .error, source, message := text, site := some .internal } journal).unfit
    (steady_write _)
  have refused : (refusal source text).Ends journal (fun fault _ => fault = .backend text)
      (fun _ _ => False) fun _ => ¬ journal.Reliable :=
    (reported.cut fun _ cut => cut.2).bind fun _ _ _ => Act.ends_pure rfl
  exact refused.unfailing.bind fun _ _ same => same

end Journal

namespace Session

/-- A report leaves the backend alone. -/
theorem ends_report {act : Act Journal α} {s : Session δ} {answer : α → Prop}
    (ends : act.Ends s.journal (fun a _ => answer a) (fun _ _ => False) (fun _ => True)) :
    (liftM act : Act (Session δ) α).Ends s (fun a t => answer a ∧ t.backend = s.backend)
      (fun _ _ => False) (fun _ => True) := by
  apply Act.Ends.within
  exact ends.imp (fun _ _ answered => ⟨answered, rfl⟩) (fun _ _ failed => failed) fun _ _ => trivial

theorem steady_report {act : Act Journal α} (steady : act.Steady Journal.Reliable) :
    (liftM act : Act (Session δ) α).Steady Reliable :=
  steady.within (fun _ ok => ok) fun _ _ _ left => left

end Session

end RenderCore
