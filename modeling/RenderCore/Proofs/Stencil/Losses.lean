import RenderCore.Proofs.Journal.Notes
import RenderCore.Proofs.Stencil.CacheTurnover

/-!
# Storage lost with a cache

A cache that goes away reports each buffer whose storage is still to be freed, in the order of the
slots, and reports them all even where a logger fails. A cache that has forgotten its buffers has
nothing to report.
-/

namespace RenderCore

namespace StencilBuffer

/-- The report of the storage that is lost when the buffer goes away. -/
def loss? (buffer : StencilBuffer) : Option Entry :=
  buffer.owed.map fun storage =>
    { severity := .warn
      source := component
      message := "Stencil buffer Some(" ++ storage.text
        ++ ") dropped without release, GPU object leaked" }

theorem owed_of_released {buffer : StencilBuffer} (released : buffer.header.released = true) :
    buffer.owed = none := by
  simp [owed, backing, released]

theorem loss?_of_released {buffer : StencilBuffer} (released : buffer.header.released = true) :
    buffer.loss? = none :=
  Option.map_eq_none_iff.mpr (owed_of_released released)

variable {journal : Journal}

theorem drop_outcome_of_none {buffer : StencilBuffer} (settled : buffer.loss? = none) :
    buffer.drop.outcome journal = (.ok (), journal) := by
  rw [loss?, Option.map_eq_none_iff] at settled
  unfold drop
  rw [settled]
  rfl

theorem drop_outcome_of_some {buffer : StencilBuffer} {entry : Entry}
    (lost : buffer.loss? = some entry) :
    buffer.drop.outcome journal = (journal.heeded [entry] (.ok ()), journal.noted [entry]) := by
  obtain ⟨storage, owed, rfl⟩ := Option.map_eq_some_iff.mp lost
  unfold drop
  rw [owed]
  exact Journal.write_outcome _ journal

/-- A report that fails does not keep the others from being made. -/
theorem dropAll_outcome (buffers : List StencilBuffer) (journal : Journal) :
    (dropAll buffers).outcome journal =
      (journal.heeded (buffers.filterMap loss?) (.ok ()),
        journal.noted (buffers.filterMap loss?)) := by
  induction buffers generalizing journal with
  | nil => rfl
  | cons buffer rest ih =>
    unfold dropAll
    cases lost : buffer.loss? with
    | none =>
      have dropped : (buffer.drop.onPanic (dropAll rest)).outcome journal = (.ok (), journal) := by
        rw [Act.outcome_onPanic, drop_outcome_of_none lost]
      rw [Act.outcome_bind_of_ok dropped, List.filterMap_cons_none lost]
      exact ih journal
    | some entry =>
      rw [List.filterMap_cons_some lost]
      cases rung : journal.rings entry with
      | true =>
        have dropped : (buffer.drop.onPanic (dropAll rest)).outcome journal =
            (.error (.panic .logger), journal.noted (entry :: rest.filterMap loss?)) := by
          rw [Act.outcome_onPanic, drop_outcome_of_some lost, Journal.heeded,
            Journal.alarmed_singleton, rung, if_pos rfl]
          exact congrArg (_, ·) (congrArg Prod.snd (ih (journal.note entry)))
        rw [Act.outcome_bind_of_error dropped, Journal.heeded, Journal.alarmed, rung,
          Bool.true_or, if_pos rfl]
      | false =>
        have dropped : (buffer.drop.onPanic (dropAll rest)).outcome journal =
            (.ok (), journal.note entry) := by
          rw [Act.outcome_onPanic, drop_outcome_of_some lost, Journal.heeded,
            Journal.alarmed_singleton, rung, if_neg Bool.false_ne_true]
          rfl
        rw [Act.outcome_bind_of_ok dropped, ih, Journal.heeded, Journal.heeded, Journal.alarmed,
          rung, Bool.false_or]
        rfl

/-- Buffers that were given up go away in silence. -/
theorem dropAll_abandoned_outcome (buffers : List StencilBuffer) (journal : Journal) :
    (dropAll (buffers.map (·.abandon))).outcome journal = (.ok (), journal) := by
  have settled : (buffers.map (·.abandon)).filterMap loss? = [] := by
    rw [List.filterMap_eq_nil_iff]
    intro buffer listed
    obtain ⟨held, -, rfl⟩ := List.mem_map.mp listed
    exact loss?_of_released rfl
  rw [dropAll_outcome, settled]
  rfl

end StencilBuffer

namespace StencilCache

variable {cache : StencilCache}

/-- The reports of the storage that is lost when the cache goes away. -/
def losses (cache : StencilCache) : List Entry := cache.buffers.filterMap StencilBuffer.loss?

theorem drop_outcome (cache : StencilCache) (journal : Journal) :
    cache.drop.outcome journal = (journal.heeded cache.losses (.ok ()), journal.noted cache.losses) :=
  StencilBuffer.dropAll_outcome cache.buffers journal

theorem drop_outcome_of_nil (cache : StencilCache) {journal : Journal}
    (settled : cache.losses = []) :
    cache.drop.outcome journal = (.ok (), journal) := by
  rw [drop_outcome, settled]
  rfl

theorem mem_buffers {buffer : StencilBuffer} :
    buffer ∈ cache.buffers ↔ ∃ key, cache.find? key = some buffer := by
  rw [buffers, List.mem_map]
  constructor
  · intro listed
    obtain ⟨⟨key, _, stamp⟩, member, rfl⟩ := listed
    exact ⟨key, find?_eq_some.mpr ⟨stamp, Arena.mem_toList.mp member⟩⟩
  · intro live
    obtain ⟨key, found⟩ := live
    obtain ⟨stamp, found⟩ := find?_eq_some.mp found
    exact ⟨(key, ⟨buffer, stamp⟩), Arena.mem_toList.mpr found, rfl⟩

/-- Nothing is lost with a cache exactly if no buffer's storage is still to be freed. -/
theorem losses_eq_nil_iff :
    cache.losses = [] ↔ ∀ key buffer, cache.find? key = some buffer → buffer.owed = none := by
  rw [losses, List.filterMap_eq_nil_iff]
  constructor
  · intro settled key buffer found
    exact Option.map_eq_none_iff.mp (settled buffer (mem_buffers.mpr ⟨key, found⟩))
  · intro settled buffer member
    obtain ⟨key, found⟩ := mem_buffers.mp member
    exact Option.map_eq_none_iff.mpr (settled key buffer found)

theorem giveUpAll_outcome (cache : StencilCache) (journal : Journal) :
    cache.giveUpAll.outcome journal = (.ok cache.abandonAll, journal) := by
  unfold giveUpAll
  rw [Act.outcome_bind_of_ok (StencilBuffer.dropAll_abandoned_outcome cache.buffers journal)]
  rfl

theorem losses_abandonAll (cache : StencilCache) : cache.abandonAll.losses = [] := by
  rw [losses_eq_nil_iff]
  intro key buffer found
  rw [find?_abandonAll] at found
  contradiction

end StencilCache

end RenderCore
