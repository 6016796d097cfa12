import Mathlib.Data.UInt
import RenderCore.Proofs.Stencil.ArenaOccupancy
import RenderCore.Proofs.Stencil.IndexLists
import RenderCore.Proofs.Stencil.RecencyOrder
import RenderCore.Stencil.Cache

/-!
# Coherence of the cache

A cache keeps the same facts in four places: the arena, the map of last uses, the index of scratch
keys and the byte total. It is coherent when the four tell the same story. Each operation of the
cache keeps it coherent.
-/

namespace RenderCore

/-- The scratch key of buffers of a shape. -/
def StencilShape.scratchKey (shape : StencilShape) : ScratchKey :=
  .ofStencil shape.width shape.height shape.samples

/-- A buffer has a scratch key exactly if it is cached, and then the one of its shape. -/
def StencilBuffer.Keyed (buffer : StencilBuffer) : Prop :=
  buffer.header.scratchKey =
    if buffer.header.lifeCycle = .cached then some buffer.shape.scratchKey else none

/-- Two states of one buffer: they may differ in the clip, and in whether it was given up. -/
structure StencilBuffer.Same (buffer other : StencilBuffer) : Prop where
  id : other.header.id = buffer.header.id
  lifeCycle : other.header.lifeCycle = buffer.header.lifeCycle
  scratchKey : other.header.scratchKey = buffer.header.scratchKey
  origin : other.origin = buffer.origin
  shape : other.shape = buffer.shape

theorem StencilBuffer.Same.refl (buffer : StencilBuffer) : buffer.Same buffer :=
  ⟨rfl, rfl, rfl, rfl, rfl⟩

theorem StencilBuffer.Same.symm {buffer other : StencilBuffer} (same : buffer.Same other) :
    other.Same buffer :=
  ⟨same.id.symm, same.lifeCycle.symm, same.scratchKey.symm, same.origin.symm, same.shape.symm⟩

theorem StencilBuffer.Same.trans {buffer other third : StencilBuffer} (first : buffer.Same other)
    (second : other.Same third) : buffer.Same third where
  id := second.id.trans first.id
  lifeCycle := second.lifeCycle.trans first.lifeCycle
  scratchKey := second.scratchKey.trans first.scratchKey
  origin := second.origin.trans first.origin
  shape := second.shape.trans first.shape

theorem StencilBuffer.Same.keyed {buffer other : StencilBuffer} (same : buffer.Same other)
    (keyed : buffer.Keyed) : other.Keyed := by
  rw [Keyed, same.scratchKey, same.lifeCycle, same.shape]
  exact keyed

theorem toNat_sum (words : List UInt64) :
    words.sum.toNat = (words.map (·.toNat)).sum % 2 ^ 64 := by
  induction words with
  | nil => rfl
  | cons word rest ih =>
    rw [List.sum_cons, UInt64.toNat_add, ih, List.map_cons, List.sum_cons]
    omega

namespace StencilCache

/-- Storage of all buffers, as a number that does not wrap around. -/
def heldBytes (cache : StencilCache) : Nat :=
  (cache.buffers.map (·.shape.bytes.toNat)).sum

/-- The map of last uses agrees with the stamps of the entries. -/
structure RecencyAgrees (cache : StencilCache) : Prop where
  /-- A stamp is noted for a key exactly if it is the last use of the key's entry. -/
  noted : ∀ stamp key, cache.recency.byStamp[stamp]? = some key ↔
    ∃ entry, cache.entries.find? key = some entry ∧ entry.lastUse = stamp
  stamped : ∀ key entry, cache.entries.find? key = some entry → entry.lastUse ≤ cache.clock

/-- The index agrees with the scratch keys of the buffers. -/
structure IndexAgrees (cache : StencilCache) : Prop where
  distinct : cache.index.Distinct
  /-- A list of the index has a key, and none twice. -/
  inhabited : ∀ scratch, cache.index.find? scratch ≠ some []
  nodup : ∀ scratch, (cache.index.listed scratch).Nodup
  /-- The list of a scratch key has exactly the keys of the buffers with it. -/
  listed : ∀ scratch key, key ∈ cache.index.listed scratch ↔
    ∃ buffer, cache.find? key = some buffer ∧ buffer.header.scratchKey = some scratch
  keyed : ∀ key buffer, cache.find? key = some buffer → buffer.Keyed

/-- The total is the storage of all buffers, in a 64-bit word. -/
def Counted (cache : StencilCache) : Prop := cache.totalBytes.toNat = cache.heldBytes % 2 ^ 64

/-- Arena, last uses, index and total agree with one another. -/
structure Coherent (cache : StencilCache) : Prop where
  tidy : cache.entries.Tidy
  recent : cache.RecencyAgrees
  indexed : cache.IndexAgrees
  counted : cache.Counted

theorem find?_eq_some {cache : StencilCache} {key : ArenaKey} {buffer : StencilBuffer} :
    cache.find? key = some buffer ↔
      ∃ stamp, cache.entries.find? key = some ⟨buffer, stamp⟩ := by
  rw [find?, Option.map_eq_some_iff]
  constructor
  · rintro ⟨⟨_, stamp⟩, found, rfl⟩
    exact ⟨stamp, found⟩
  · rintro ⟨stamp, found⟩
    exact ⟨_, found, rfl⟩

theorem mem_keys {cache : StencilCache} {key : ArenaKey} :
    key ∈ cache.keys ↔ ∃ buffer, cache.find? key = some buffer := by
  rw [keys, List.mem_map]
  constructor
  · intro listed
    obtain ⟨⟨_, buffer, stamp⟩, member, rfl⟩ := listed
    exact ⟨buffer, find?_eq_some.mpr ⟨stamp, Arena.mem_toList.mp member⟩⟩
  · intro live
    obtain ⟨buffer, found⟩ := live
    obtain ⟨stamp, found⟩ := find?_eq_some.mp found
    exact ⟨(key, ⟨buffer, stamp⟩), Arena.mem_toList.mpr found, rfl⟩

theorem contains_eq (cache : StencilCache) (key : ArenaKey) :
    cache.contains key = (cache.find? key).isSome := by
  simp [contains, find?, Arena.contains_eq_isSome]

theorem coherent_empty (budget : CacheBudget) : Coherent { budget } where
  tidy := Arena.tidy_empty
  recent := ⟨by simp, by simp⟩
  indexed := ⟨ScratchIndex.distinct_empty, by simp, by simp [ScratchIndex.listed],
    by simp [ScratchIndex.listed, find?], by simp [find?]⟩
  counted := rfl

/-- Two entries have different stamps. -/
theorem RecencyAgrees.stamp_injective {cache : StencilCache} (agrees : cache.RecencyAgrees)
    {key other : ArenaKey} {entry entry' : CachedBuffer}
    (found : cache.entries.find? key = some entry)
    (found' : cache.entries.find? other = some entry') (same : entry.lastUse = entry'.lastUse) :
    key = other := by
  have first := (agrees.noted entry.lastUse key).mpr ⟨entry, found, rfl⟩
  have second := (agrees.noted entry.lastUse other).mpr ⟨entry', found', same.symm⟩
  rw [first] at second
  exact Option.some.inj second

/-! ## Caches of the same buffers -/

/-- The same buffers are found by the same keys. -/
def Alike (cache other : StencilCache) : Prop :=
  ∀ key, Option.Rel StencilBuffer.Same (cache.find? key) (other.find? key)

theorem alike_of_find?_eq {cache other : StencilCache}
    (same : ∀ key, other.find? key = cache.find? key) : cache.Alike other := by
  intro key
  rw [same]
  cases cache.find? key with
  | none => exact .none
  | some buffer => exact .some (.refl buffer)

theorem Alike.symm {cache other : StencilCache} (alike : cache.Alike other) :
    other.Alike cache := by
  intro key
  have related := alike key
  cases found : cache.find? key <;> cases found' : other.find? key <;> rw [found, found'] at related
  · exact .none
  · cases related
  · cases related
  · cases related with
    | some same => exact .some same.symm

theorem Alike.found {cache other : StencilCache} (alike : cache.Alike other) {key : ArenaKey}
    {buffer : StencilBuffer} (found : cache.find? key = some buffer) :
    ∃ buffer', other.find? key = some buffer' ∧ buffer.Same buffer' := by
  have related := alike key
  rw [found] at related
  cases found' : other.find? key with
  | none => rw [found'] at related; cases related
  | some buffer' =>
    rw [found'] at related
    cases related with
    | some same => exact ⟨buffer', rfl, same⟩

theorem IndexAgrees.alike {cache other : StencilCache} (agrees : cache.IndexAgrees)
    (index : other.index = cache.index) (alike : cache.Alike other) : other.IndexAgrees where
  distinct := index ▸ agrees.distinct
  inhabited := index ▸ agrees.inhabited
  nodup := index ▸ agrees.nodup
  listed scratch key := by
    rw [index, agrees.listed]
    constructor
    · rintro ⟨buffer, found, form⟩
      obtain ⟨buffer', found', same⟩ := alike.found found
      exact ⟨buffer', found', same.scratchKey.trans form⟩
    · rintro ⟨buffer, found, form⟩
      obtain ⟨buffer', found', same⟩ := alike.symm.found found
      exact ⟨buffer', found', same.scratchKey.trans form⟩
  keyed key buffer found := by
    obtain ⟨buffer', found', same⟩ := alike.symm.found found
    exact same.symm.keyed (agrees.keyed key buffer' found')

/-- The keys with the shapes of their buffers. -/
def shapes (cache : StencilCache) : List (ArenaKey × StencilShape) :=
  cache.entries.toList.map fun item => (item.1, item.2.buffer.shape)

theorem nodup_shapes (cache : StencilCache) : cache.shapes.Nodup := by
  refine List.Nodup.of_map (·.1) ?_
  rw [shapes, List.map_map]
  exact Arena.nodup_keys_toList cache.entries

theorem mem_shapes {cache : StencilCache} {key : ArenaKey} {shape : StencilShape} :
    (key, shape) ∈ cache.shapes ↔
      ∃ buffer, cache.find? key = some buffer ∧ buffer.shape = shape := by
  simp only [shapes, List.mem_map, Prod.exists, Prod.mk.injEq, Arena.mem_toList, find?_eq_some]
  constructor
  · rintro ⟨_, ⟨buffer, stamp⟩, found, rfl, rfl⟩
    exact ⟨buffer, ⟨stamp, found⟩, rfl⟩
  · rintro ⟨buffer, ⟨stamp, found⟩, rfl⟩
    exact ⟨key, ⟨buffer, stamp⟩, found, rfl, rfl⟩

theorem heldBytes_eq_shapes (cache : StencilCache) :
    cache.heldBytes = (cache.shapes.map (·.2.bytes.toNat)).sum := by
  rw [heldBytes, buffers, shapes, List.map_map, List.map_map]
  rfl

theorem Alike.heldBytes {cache other : StencilCache} (alike : cache.Alike other) :
    other.heldBytes = cache.heldBytes := by
  have perm : other.shapes.Perm cache.shapes := by
    rw [List.perm_ext_iff_of_nodup (nodup_shapes other) (nodup_shapes cache)]
    rintro ⟨key, shape⟩
    rw [mem_shapes, mem_shapes]
    constructor
    · rintro ⟨buffer, found, rfl⟩
      obtain ⟨buffer', found', same⟩ := alike.symm.found found
      exact ⟨buffer', found', same.shape⟩
    · rintro ⟨buffer, found, rfl⟩
      obtain ⟨buffer', found', same⟩ := alike.found found
      exact ⟨buffer', found', same.shape⟩
  rw [heldBytes_eq_shapes, heldBytes_eq_shapes, (perm.map _).sum_nat]

theorem Counted.alike {cache other : StencilCache} (counted : cache.Counted)
    (total : other.totalBytes = cache.totalBytes) (alike : cache.Alike other) : other.Counted := by
  rw [Counted, total, alike.heldBytes]
  exact counted

/-! ## Using an entry -/

theorem touch_of_none {cache : StencilCache} {key : ArenaKey}
    (stale : cache.entries.find? key = none) : cache.touch key = cache.tick := by
  simp [touch, tick, stale]

theorem touch_of_some {cache : StencilCache} {key : ArenaKey} {entry : CachedBuffer}
    (live : cache.entries.find? key = some entry) :
    cache.touch key =
      { cache with
        entries := cache.entries.update key fun entry => { entry with lastUse := cache.clock + 1 }
        recency := (cache.recency.forget entry.lastUse).note (cache.clock + 1) key
        clock := cache.clock + 1 } := by
  simp [touch, tick, live]

theorem entries_touch (cache : StencilCache) (key other : ArenaKey) :
    (cache.touch key).entries.find? other =
      if other = key then
        (cache.entries.find? key).map fun entry => { entry with lastUse := cache.clock + 1 }
      else cache.entries.find? other := by
  cases live : cache.entries.find? key with
  | none =>
    rw [touch_of_none live]
    by_cases same : other = key <;> simp [tick, same, live]
  | some entry =>
    rw [touch_of_some live, Arena.find?_update, live]

@[simp] theorem find?_touch (cache : StencilCache) (key other : ArenaKey) :
    (cache.touch key).find? other = cache.find? other := by
  rw [find?, entries_touch, find?]
  by_cases same : other = key
  · subst same
    cases cache.entries.find? other <;> simp
  · simp [same]

theorem alike_touch (cache : StencilCache) (key : ArenaKey) : cache.Alike (cache.touch key) :=
  alike_of_find?_eq (find?_touch cache key)

theorem index_touch (cache : StencilCache) (key : ArenaKey) :
    (cache.touch key).index = cache.index := by
  cases live : cache.entries.find? key with
  | none => rw [touch_of_none live]; rfl
  | some entry => rw [touch_of_some live]

theorem totalBytes_touch (cache : StencilCache) (key : ArenaKey) :
    (cache.touch key).totalBytes = cache.totalBytes := by
  cases live : cache.entries.find? key with
  | none => rw [touch_of_none live]; rfl
  | some entry => rw [touch_of_some live]

theorem tidy_touch {cache : StencilCache} (tidy : cache.entries.Tidy) (key : ArenaKey) :
    (cache.touch key).entries.Tidy := by
  cases live : cache.entries.find? key with
  | none => rw [touch_of_none live]; exact tidy
  | some entry => rw [touch_of_some live]; exact Arena.tidy_update tidy _ _

theorem RecencyAgrees.touch {cache : StencilCache} (agrees : cache.RecencyAgrees)
    (key : ArenaKey) : (cache.touch key).RecencyAgrees := by
  have entries := entries_touch cache key
  cases live : cache.entries.find? key with
  | none =>
    rw [touch_of_none live]
    refine ⟨agrees.noted, fun other entry found => ?_⟩
    exact Nat.le_succ_of_le (agrees.stamped other entry found)
  | some entry =>
    rw [touch_of_some live, live] at entries
    rw [touch_of_some live]
    refine ⟨fun stamp other => ?_, fun other entry' found => ?_⟩
    · rw [Recency.getElem?_note, Recency.getElem?_forget, entries]
      by_cases same : other = key
      · have noted := agrees.noted stamp key
        simp only [live, Option.some.injEq, exists_eq_left'] at noted
        by_cases latest : cache.clock + 1 = stamp
        · simp [latest, same]
        · by_cases old : entry.lastUse = stamp
          · simp [latest, old, same]
          · simp [latest, old, same, noted]
      · rw [if_neg same]
        by_cases latest : cache.clock + 1 = stamp
        · have early : ∀ entry', cache.entries.find? other = some entry' →
              entry'.lastUse ≠ stamp := by
            intro entry' found
            have := agrees.stamped other entry' found
            omega
          simpa [latest, Ne.symm same] using early
        · rw [if_neg latest]
          by_cases old : entry.lastUse = stamp
          · have others : ∀ entry', cache.entries.find? other = some entry' →
                entry'.lastUse ≠ stamp := by
              intro entry' found same'
              exact same (agrees.stamp_injective found live (same'.trans old.symm))
            simpa [old] using others
          · rw [if_neg old, agrees.noted]
    · rw [entries] at found
      by_cases same : other = key
      · rw [if_pos same, Option.map_some, Option.some.injEq] at found
        subst found
        exact Nat.le_refl _
      · rw [if_neg same] at found
        exact Nat.le_succ_of_le (agrees.stamped other entry' found)

theorem Coherent.touch {cache : StencilCache} (coherent : cache.Coherent) (key : ArenaKey) :
    (cache.touch key).Coherent where
  tidy := tidy_touch coherent.tidy key
  recent := coherent.recent.touch key
  indexed := coherent.indexed.alike (index_touch cache key) (alike_touch cache key)
  counted := coherent.counted.alike (totalBytes_touch cache key) (alike_touch cache key)

/-! ## Changing a buffer -/

/-- Puts a changed buffer in the place of the one that a key refers to. -/
def revise (cache : StencilCache) (key : ArenaKey) (change : StencilBuffer → StencilBuffer) :
    StencilCache :=
  match cache.find? key with
  | some buffer => cache.store key (change buffer)
  | none => cache

section revise

variable (cache : StencilCache) (key : ArenaKey) (change : StencilBuffer → StencilBuffer)

theorem entries_revise (other : ArenaKey) :
    (cache.revise key change).entries.find? other =
      if other = key then
        (cache.entries.find? key).map fun entry => { entry with buffer := change entry.buffer }
      else cache.entries.find? other := by
  unfold revise find?
  cases live : cache.entries.find? key with
  | none => by_cases same : other = key <;> simp [same, live]
  | some entry =>
    rw [Option.map_some]
    simp only [store, Arena.find?_update, live, Option.map_some]

theorem find?_revise (other : ArenaKey) :
    (cache.revise key change).find? other =
      if other = key then (cache.find? key).map change else cache.find? other := by
  rw [find?, entries_revise]
  by_cases same : other = key
  · simp only [same, if_true, find?]
    cases cache.entries.find? key <;> rfl
  · simp [same, find?]

@[simp] theorem recency_revise : (cache.revise key change).recency = cache.recency := by
  unfold revise
  split <;> rfl

@[simp] theorem clock_revise : (cache.revise key change).clock = cache.clock := by
  unfold revise
  split <;> rfl

@[simp] theorem index_revise : (cache.revise key change).index = cache.index := by
  unfold revise
  split <;> rfl

@[simp] theorem totalBytes_revise : (cache.revise key change).totalBytes = cache.totalBytes := by
  unfold revise
  split <;> rfl

@[simp] theorem budget_revise : (cache.revise key change).budget = cache.budget := by
  unfold revise
  split <;> rfl

end revise

theorem tidy_revise {cache : StencilCache} (tidy : cache.entries.Tidy) (key : ArenaKey)
    (change : StencilBuffer → StencilBuffer) : (cache.revise key change).entries.Tidy := by
  unfold revise
  split
  · exact Arena.tidy_update tidy _ _
  · exact tidy

theorem alike_revise (cache : StencilCache) (key : ArenaKey)
    {change : StencilBuffer → StencilBuffer}
    (same : ∀ buffer : StencilBuffer, buffer.Same (change buffer)) :
    cache.Alike (cache.revise key change) := by
  intro other
  rw [find?_revise]
  by_cases here : other = key
  · rw [if_pos here, here]
    cases cache.find? key with
    | none => exact .none
    | some buffer => exact .some (same buffer)
  · rw [if_neg here]
    exact alike_of_find?_eq (fun _ => rfl) other

theorem RecencyAgrees.revise {cache : StencilCache} (agrees : cache.RecencyAgrees)
    (key : ArenaKey) (change : StencilBuffer → StencilBuffer) :
    (cache.revise key change).RecencyAgrees := by
  refine ⟨fun stamp other => ?_, fun other entry found => ?_⟩
  · rw [recency_revise, entries_revise, agrees.noted]
    by_cases same : other = key
    · rw [if_pos same, same]
      cases cache.entries.find? key <;> simp
    · rw [if_neg same]
  · rw [entries_revise] at found
    rw [clock_revise]
    by_cases same : other = key
    · rw [if_pos same, Option.map_eq_some_iff] at found
      obtain ⟨entry', live, rfl⟩ := found
      exact agrees.stamped key entry' live
    · rw [if_neg same] at found
      exact agrees.stamped other entry found

theorem Coherent.revise {cache : StencilCache} (coherent : cache.Coherent) (key : ArenaKey)
    {change : StencilBuffer → StencilBuffer}
    (same : ∀ buffer : StencilBuffer, buffer.Same (change buffer)) :
    (cache.revise key change).Coherent where
  tidy := tidy_revise coherent.tidy key change
  recent := coherent.recent.revise key change
  indexed := coherent.indexed.alike (index_revise cache key change) (alike_revise cache key same)
  counted := coherent.counted.alike (totalBytes_revise cache key change)
    (alike_revise cache key same)

end StencilCache

end RenderCore
