import RenderCore.Proofs.Stencil.BufferEffects
import RenderCore.Proofs.Stencil.Losses

/-!
# What is done to a buffer in its life

While a buffer lives, clips are recorded in it, and it is released or abandoned; in the end it goes
away. Whatever is done, and in whatever order, its storage is freed, abandoned or reported as lost,
and only one of the three: the first handling that gives the buffer up decides.
-/

namespace RenderCore

variable {δ : Type}

/-- Something done to a buffer. -/
inductive Handling where
  | record (clip : ClipRecord)
  | release
  | abandon
  deriving DecidableEq, Repr

namespace Handling

/-- Whether the buffer is given up. -/
def givesUp : Handling → Bool
  | .record _ => false
  | .release => true
  | .abandon => true

/-- The buffer afterwards. -/
def after : Handling → StencilBuffer → StencilBuffer
  | .record clip, buffer => { buffer with clip }
  | .release, buffer => buffer.abandon
  | .abandon, buffer => buffer.abandon

/-- The storage that the backend is asked to free. -/
def freed : Handling → StencilBuffer → List StencilId
  | .release, buffer => buffer.owed.toList
  | _, _ => []

/-- What is done, carried out. -/
def act [Backend δ] : Handling → StencilBuffer → Act (Session δ) StencilBuffer
  | .release, buffer => buffer.release
  | handling, buffer => pure (handling.after buffer)

theorem same_after (handling : Handling) (buffer : StencilBuffer) :
    buffer.Same (handling.after buffer) := by
  cases handling <;> exact ⟨rfl, rfl, rfl, rfl, rfl⟩

theorem released_after (handling : Handling) (buffer : StencilBuffer) :
    (handling.after buffer).header.released = (handling.givesUp || buffer.header.released) := by
  cases handling with
  | record clip => exact (Bool.false_or _).symm
  | release => rfl
  | abandon => rfl

end Handling

namespace StencilBuffer

theorem owed_eq_some_iff {buffer : StencilBuffer} {storage : StencilId} :
    buffer.owed = some storage ↔ buffer.header.released = false ∧
      buffer.header.lifeCycle ≠ .wrapped ∧ buffer.origin = some storage := by
  unfold owed backing
  by_cases wrapped : buffer.header.lifeCycle = .wrapped
  · simp [wrapped]
  · cases buffer.header.released <;> simp [wrapped]

/-- The report of lost storage. -/
def lossEntry (storage : StencilId) : Entry :=
  { severity := .warn
    source := component
    message := "Stencil buffer Some(" ++ storage.text
      ++ ") dropped without release, GPU object leaked" }

theorem loss?_eq (buffer : StencilBuffer) : buffer.loss? = buffer.owed.map lossEntry := rfl

/-- The buffer after several handlings, first one first. -/
def handled (buffer : StencilBuffer) (handlings : List Handling) : StencilBuffer :=
  handlings.foldl (fun buffer handling => handling.after buffer) buffer

/-- The storage that the backend is asked to free in the course of several handlings. -/
def freedBy (buffer : StencilBuffer) : List Handling → List StencilId
  | [] => []
  | handling :: rest => handling.freed buffer ++ (handling.after buffer).freedBy rest

theorem handled_append (buffer : StencilBuffer) (first second : List Handling) :
    buffer.handled (first ++ second) = (buffer.handled first).handled second :=
  List.foldl_append

theorem freedBy_append (buffer : StencilBuffer) (first second : List Handling) :
    buffer.freedBy (first ++ second) =
      buffer.freedBy first ++ (buffer.handled first).freedBy second := by
  induction first generalizing buffer with
  | nil => rfl
  | cons handling rest ih =>
    rw [List.cons_append, freedBy, ih, freedBy, List.append_assoc]
    rfl

theorem same_handled (buffer : StencilBuffer) (handlings : List Handling) :
    buffer.Same (buffer.handled handlings) := by
  induction handlings generalizing buffer with
  | nil => exact .refl buffer
  | cons handling rest ih => exact (handling.same_after buffer).trans (ih _)

theorem released_handled (buffer : StencilBuffer) (handlings : List Handling) :
    (buffer.handled handlings).header.released =
      (handlings.any Handling.givesUp || buffer.header.released) := by
  induction handlings generalizing buffer with
  | nil => exact (Bool.false_or _).symm
  | cons handling rest ih =>
    rw [handled, List.foldl_cons, List.any_cons]
    refine (ih _).trans ?_
    rw [handling.released_after, ← Bool.or_assoc, Bool.or_comm (rest.any _)]

/-- The first handling that gives the buffer up decides whether what it owes is freed. -/
theorem freedBy_eq (buffer : StencilBuffer) (handlings : List Handling) :
    buffer.freedBy handlings =
      if handlings.find? Handling.givesUp = some .release then buffer.owed.toList else [] := by
  have settled : ∀ (handlings : List Handling) (buffer : StencilBuffer),
      buffer.header.released = true → buffer.freedBy handlings = [] := by
    intro handlings
    induction handlings with
    | nil => exact fun _ _ => rfl
    | cons handling rest ih =>
      intro buffer released
      rw [freedBy, ih _ (by rw [handling.released_after, released, Bool.or_true]),
        List.append_nil]
      cases handling with
      | record clip => rfl
      | release => simp [Handling.freed, owed_of_released released]
      | abandon => rfl
  induction handlings generalizing buffer with
  | nil => rfl
  | cons handling rest ih =>
    cases handling with
    | record clip =>
      rw [freedBy, ih]
      rfl
    | release =>
      rw [freedBy, settled rest _ rfl, List.append_nil]
      exact (if_pos rfl).symm
    | abandon =>
      rw [freedBy, settled rest _ rfl]
      exact (if_neg (by simp [Handling.givesUp])).symm

/-- How the storage of a new buffer fares that is handled and then goes away: what was freed on the
    way, and the report in the end. -/
structure Settles (fresh : StencilBuffer) (handlings : List Handling) (freed : List StencilId)
    (lost : Option Entry) : Prop where
  /-- Storage is freed once at most. -/
  once : freed.length ≤ 1
  /-- It is freed if the buffer owns some and is first given up by a release. -/
  freed_iff : ∀ storage, freed = [storage] ↔ fresh.origin = some storage ∧
    fresh.header.lifeCycle ≠ .wrapped ∧ handlings.find? Handling.givesUp = some .release
  /-- It is reported as lost if the buffer owns some and was not given up. -/
  lost_iff : ∀ entry, lost = some entry ↔ ∃ storage, fresh.origin = some storage ∧
    fresh.header.lifeCycle ≠ .wrapped ∧ (∀ handling ∈ handlings, handling.givesUp = false) ∧
    entry = lossEntry storage
  /-- Before the buffer is given up it has its storage, and from then on none. -/
  backed : ∀ done rest, handlings = done ++ rest →
    (fresh.handled done).backing = if done.any Handling.givesUp then none else fresh.origin

theorem settles {fresh : StencilBuffer} (new : fresh.header.released = false)
    (handlings : List Handling) :
    fresh.Settles handlings (fresh.freedBy handlings) (fresh.handled handlings).loss? where
  once := by
    rw [freedBy_eq]
    split
    · cases fresh.owed <;> simp
    · exact Nat.zero_le 1
  freed_iff storage := by
    have owed : fresh.owed.toList = [storage] ↔ fresh.owed = some storage := by
      cases fresh.owed <;> simp
    rw [freedBy_eq]
    split
    · next released => simp [owed, owed_eq_some_iff, new, released, and_comm]
    · next kept => simp [kept]
  lost_iff entry := by
    have same := fresh.same_handled handlings
    have released := fresh.released_handled handlings
    rw [new, Bool.or_false] at released
    simp only [loss?_eq, Option.map_eq_some_iff, owed_eq_some_iff, same.lifeCycle, same.origin,
      released, List.any_eq_false, Bool.not_eq_true]
    constructor
    · rintro ⟨storage, ⟨kept, owned, origin⟩, rfl⟩
      exact ⟨storage, origin, owned, kept, rfl⟩
    · rintro ⟨storage, origin, owned, kept, rfl⟩
      exact ⟨storage, ⟨kept, owned, origin⟩, rfl⟩
  backed done rest parts := by
    rw [backing, fresh.released_handled, new, Bool.or_false, (fresh.same_handled done).origin]

example : (made ⟨1⟩ .cached (some ⟨7⟩) ⟨64, 32, 8, 4⟩).freedBy
    [.record .blank, .release, .abandon, .release] = [⟨7⟩] := by decide

end StencilBuffer

/-! ## Outside a cache -/

namespace Session

variable [Backend δ]

/-- The session after its backend was asked to free storage. -/
def without (session : Session δ) (freed : List StencilId) : Session δ :=
  { session with
    backend := freed.foldl (fun backend storage => Backend.deleteStencil storage backend)
      session.backend }

end Session

/-- A handling changes the buffer, frees what it has to free and does nothing else. -/
theorem Handling.act_outcome [Backend δ] (handling : Handling) (buffer : StencilBuffer)
    (session : Session δ) :
    (handling.act buffer).outcome session =
      (.ok (handling.after buffer), session.without (handling.freed buffer)) := by
  cases handling with
  | record clip => rfl
  | abandon => rfl
  | release =>
    change buffer.release.outcome session = (.ok buffer.abandon, session.without buffer.owed.toList)
    unfold StencilBuffer.release
    cases buffer.owed with
    | none => rfl
    | some storage => rfl

/-- A buffer that goes away reports what is lost and does nothing else. -/
theorem StencilBuffer.drop_outcome (buffer : StencilBuffer) (journal : Journal) :
    buffer.drop.outcome journal =
      (journal.heeded buffer.loss?.toList (.ok ()), journal.noted buffer.loss?.toList) := by
  cases lost : buffer.loss? with
  | none => exact buffer.drop_outcome_of_none lost
  | some entry => exact buffer.drop_outcome_of_some lost

end RenderCore
