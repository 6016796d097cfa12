import RenderCore.Journal.Basic
import RenderCore.Proofs.Effect.Endings

/-!
# What the journal notes

An entry that is written is noted by the logger in charge, also by a logger that then fails. The
journal after some entries is therefore a function of the entries, and so is whether a logger
failed on one of them. Reports never change who is in charge.
-/

namespace RenderCore

namespace Journal

/-- The journal after an entry was passed to its logger. -/
def note (journal : Journal) (entry : Entry) : Journal :=
  match journal.logger.open? with
  | none => journal
  | some (.console threshold) =>
    if Console.enabled threshold entry.severity then
      { journal with printed := journal.printed ++ [Console.line false entry] }
    else journal
  | some (.keeper _) => { journal with kept := journal.kept ++ [entry] }

/-- Whether the logger fails on an entry. -/
def rings (journal : Journal) (entry : Entry) : Bool :=
  match journal.logger.open? with
  | some (.keeper alarm) => alarm journal.kept entry
  | _ => false

/-- The journal after several entries. -/
def noted (journal : Journal) (entries : List Entry) : Journal := entries.foldl note journal

/-- Whether the logger fails on one of several entries. -/
def alarmed (journal : Journal) : List Entry → Bool
  | [] => false
  | entry :: rest => journal.rings entry || (journal.note entry).alarmed rest

/-- The journal with another logger in charge, if the lock of the present one is not poisoned. -/
def charged (journal : Journal) (logger : Logger) : Journal :=
  match journal.logger.open? with
  | some _ => { journal with logger := { value := logger } }
  | none => journal

/-- What an operation comes to that reports some entries before it answers. -/
def heeded {α : Type} (journal : Journal) (entries : List Entry) (answer : Except Stop α) :
    Except Stop α :=
  if journal.alarmed entries then .error (.panic .logger) else answer

/-- The entry of a failure. -/
def failureEntry (source message : String) : Entry :=
  { severity := .error, source, message, site := some .internal }

variable {journal : Journal}

@[simp] theorem logger_note (entry : Entry) : (journal.note entry).logger = journal.logger := by
  unfold note
  split
  · rfl
  · split <;> rfl
  · rfl

@[simp] theorem logger_noted (entries : List Entry) :
    (journal.noted entries).logger = journal.logger := by
  induction entries generalizing journal with
  | nil => rfl
  | cons entry rest ih => exact ih.trans (logger_note entry)

/-- A logger that keeps entries keeps each one before it may fail on it. -/
theorem note_of_keeper {alarm : List Entry → Entry → Bool}
    (inCharge : journal.logger = { value := .keeper alarm }) (entry : Entry) :
    journal.note entry = { journal with kept := journal.kept ++ [entry] } ∧
      journal.rings entry = alarm journal.kept entry := by
  unfold note rings
  rw [inCharge]
  exact ⟨rfl, rfl⟩

theorem noted_append (first second : List Entry) :
    journal.noted (first ++ second) = (journal.noted first).noted second :=
  List.foldl_append

theorem alarmed_append (first second : List Entry) :
    journal.alarmed (first ++ second) =
      (journal.alarmed first || (journal.noted first).alarmed second) := by
  induction first generalizing journal with
  | nil => rfl
  | cons entry rest ih =>
    rw [List.cons_append, alarmed, ih, alarmed, Bool.or_assoc]
    rfl

theorem alarmed_singleton (entry : Entry) : journal.alarmed [entry] = journal.rings entry :=
  Bool.or_false _

theorem heeded_error {α : Type} (entries : List Entry) (stop : Stop) :
    (journal.heeded entries (.error stop) : Except Stop α) =
      .error (if journal.alarmed entries then .panic .logger else stop) := by
  unfold heeded
  split <;> rfl

/-- Where no logger has failed, the answer is the one that was due. -/
theorem heeded_of_calm {α : Type} {entries : List Entry} {answer : Except Stop α}
    (calm : journal.heeded entries answer ≠ .error (.panic .logger)) :
    journal.heeded entries answer = answer := by
  unfold heeded at calm ⊢
  split at calm
  · exact absurd rfl calm
  · next quiet => exact if_neg quiet

theorem map_heeded {α β : Type} (entries : List Entry) (answer : Except Stop α) (f : α → β) :
    (journal.heeded entries answer).map f = journal.heeded entries (answer.map f) := by
  unfold heeded
  split <;> rfl

/-- Writing notes the entry before the logger may fail. -/
theorem write_outcome (entry : Entry) (journal : Journal) :
    (write entry).outcome journal =
      (journal.heeded [entry] (.ok ()), journal.noted [entry]) := by
  unfold heeded
  rw [alarmed_singleton]
  change _ = (_, journal.note entry)
  unfold write note rings
  rw [Act.outcome_get_bind]
  cases journal.logger.open? with
  | none => rfl
  | some logger =>
    cases logger with
    | console threshold =>
      dsimp only
      split <;> rfl
    | keeper alarm =>
      dsimp only
      rw [Act.outcome_set_bind]
      split <;> rfl

/-- An operation that only answers, after reports. -/
theorem outcome_bind_of_heeded {σ α β : Type} {act : Act σ α} {next : α → Act σ β} {s t : σ}
    {entries : List Entry} {a : α} {answer : Except Stop β}
    (reported : act.outcome s = (journal.heeded entries (.ok a), t))
    (answered : (next a).outcome t = (answer, t)) :
    (act >>= next).outcome s = (journal.heeded entries answer, t) := by
  unfold heeded at reported ⊢
  cases alarmed : journal.alarmed entries with
  | true =>
    rw [alarmed, if_pos rfl] at reported
    exact Act.outcome_bind_of_error reported
  | false =>
    rw [alarmed, if_neg Bool.false_ne_true] at reported
    exact (Act.outcome_bind_of_ok reported).trans answered

theorem refuse_outcome {α : Type} (source text : String) (journal : Journal) :
    (refuse source text : Act Journal α).outcome journal =
      (journal.heeded [failureEntry source text] (.error (.fault (.backend text))),
        journal.noted [failureEntry source text]) := by
  have refused : (refusal source text).outcome journal =
      (journal.heeded [failureEntry source text] (.ok (.backend text)),
        journal.noted [failureEntry source text]) :=
    outcome_bind_of_heeded (write_outcome _ journal) rfl
  exact outcome_bind_of_heeded refused rfl

theorem setLogger_outcome (logger : Logger) (journal : Journal) :
    (setLogger logger).outcome journal = (.ok (), journal.charged logger) := by
  unfold charged
  rfl

end Journal

end RenderCore
