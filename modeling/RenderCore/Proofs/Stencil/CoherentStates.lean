import RenderCore.Gpu.Software
import RenderCore.Proofs.Stencil.Operations

/-!
# The states of a cache

A program begins with an empty cache and applies operations to it. In every state that it can reach
so, the arena, the map of last uses, the index and the byte total agree, also where an operation was
stopped half way.
-/

namespace RenderCore

variable {δ α : Type} [Backend δ]

/-- The states that a program can bring a cache and its session into. Each operation may answer,
    report a fault or be cut short. -/
inductive Reachable (build : Build) (budget : CacheBudget) : CacheSession δ → Prop where
  | start (session : Session δ) : Reachable build budget ⟨{ budget }, session⟩
  | step {before after : CacheSession δ} {α : Type} (operation : Operation δ α)
      {outcome : Except Stop α} (reached : Reachable build budget before)
      (ended : (operation.act build).outcome before = (outcome, after)) :
      Reachable build budget after

/-- However an operation ends, it leaves a coherent cache coherent. -/
theorem Operation.coherent_of_outcome {operation : Operation δ α} {before after : CacheSession δ}
    {outcome : Except Stop α} (coherent : before.cache.Coherent)
    (ended : (operation.act .release).outcome before = (outcome, after)) :
    after.cache.Coherent := by
  have ends := operation.ends_act before
  rw [Act.ends_iff_outcome, ended] at ends
  cases outcome with
  | ok a => exact Operation.Effect.coherent ends coherent
  | error stop =>
    cases stop with
    | fault f => exact Operation.Effect.coherent ends coherent
    | panic p => exact ends coherent

/-- Every state of a program has a coherent cache. -/
theorem Reachable.coherent {budget : CacheBudget} {work : CacheSession δ}
    (reached : Reachable .release budget work) : work.cache.Coherent := by
  induction reached with
  | start session => exact StencilCache.coherent_empty budget
  | step operation reached ended ih => exact operation.coherent_of_outcome ih ended

/-- In every state of a program the structures of its cache agree. The map of last uses has exactly
    the entries with their stamps, which are distinct and do not run ahead of the clock. The lists
    of the index are not empty and have no key twice; they have exactly the keys of the buffers
    with their scratch keys, and only cached buffers have one. The byte total is the storage of all
    buffers in a 64-bit word. -/
theorem structures_agree_of_reachable {budget : CacheBudget} {work : CacheSession δ}
    (reached : Reachable .release budget work) :
    (∀ stamp key, work.cache.recency.byStamp[stamp]? = some key ↔
      ∃ entry, work.cache.entries.find? key = some entry ∧ entry.lastUse = stamp) ∧
    (∀ key entry, work.cache.entries.find? key = some entry →
      entry.lastUse ≤ work.cache.clock ∧
        ∀ other entry', work.cache.entries.find? other = some entry' →
          entry'.lastUse = entry.lastUse → other = key) ∧
    (∀ scratch keys, work.cache.index.find? scratch = some keys → keys ≠ [] ∧ keys.Nodup) ∧
    (∀ scratch key, key ∈ (work.cache.index.find? scratch).getD [] ↔
      ∃ buffer, work.cache.find? key = some buffer ∧ buffer.header.scratchKey = some scratch) ∧
    (∀ scratch key buffer, work.cache.find? key = some buffer → buffer.header.lifeCycle ≠ .cached →
      key ∉ (work.cache.index.find? scratch).getD []) ∧
    work.cache.totalBytes.toNat =
      (work.cache.buffers.map fun buffer => buffer.shape.bytes.toNat).sum % 2 ^ 64 := by
  have coherent := reached.coherent
  have recent := coherent.recent
  refine ⟨recent.noted, fun key entry found => ⟨recent.stamped key entry found, ?_⟩,
    fun scratch keys found => ⟨?_, ?_⟩, coherent.indexed.listed, ?_, coherent.counted⟩
  · intro other entry' found' same
    exact recent.stamp_injective found' found same
  · intro empty
    rw [empty] at found
    exact coherent.indexed.inhabited scratch found
  · have nodup := coherent.indexed.nodup scratch
    rw [ScratchIndex.listed, found] at nodup
    exact nodup
  · intro scratch key buffer found uncached member
    obtain ⟨buffer', found', scratched⟩ := (coherent.indexed.listed scratch key).mp member
    obtain rfl : buffer = buffer' := Option.some.inj (found.symm.trans found')
    have keyed := coherent.indexed.keyed key buffer found
    rw [StencilBuffer.Keyed, if_neg uncached, scratched] at keyed
    contradiction

/-- A session on an unused software backend. -/
def Session.software (limit : Option UInt64) : Session Software where
  backend := { stencilLimit := limit }
  dialect := .standardDesktop
  journal := .ofLogger .quiet

theorem structures_agree_after_lookup :
    let lookup : Operation Software ArenaKey := .findOrCreate ⟨64, 32, 8, 4⟩
    let work := ((lookup.act .release).outcome ⟨{ budget := {} }, .software none⟩).2
    Reachable .release {} work ∧ work.cache.find? ⟨1, 1⟩ ≠ none ∧
      work.cache.recency.byStamp[1]? = some ⟨1, 1⟩ ∧
      ⟨1, 1⟩ ∈ (work.cache.index.find? (.ofStencil 64 32 4)).getD [] ∧
      work.cache.totalBytes.toNat =
        (work.cache.buffers.map fun buffer => buffer.shape.bytes.toNat).sum % 2 ^ 64 := by
  intro lookup work
  have reached : Reachable .release {} work := .step lookup (.start (.software none)) rfl
  obtain ⟨noted, -, -, listed, -, counted⟩ := structures_agree_of_reachable reached
  refine ⟨reached, by decide +kernel, (noted 1 ⟨1, 1⟩).mpr ?_, (listed _ _).mpr ?_, counted⟩
  · exact ⟨⟨.made ⟨1⟩ .cached (some ⟨1⟩) ⟨64, 32, 8, 4⟩, 1⟩, by decide +kernel, rfl⟩
  · exact ⟨.made ⟨1⟩ .cached (some ⟨1⟩) ⟨64, 32, 8, 4⟩, by decide +kernel, rfl⟩

end RenderCore
