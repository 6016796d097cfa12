import Mathlib.Data.List.Perm.Basic
import Mathlib.Data.List.Nodup
import RenderCore.Stencil.Arena

/-!
# Which keys an arena finds

An arena is tidy when its list of vacant places names exactly the slots without a value, each of
them once. Of a tidy arena every operation is known by what its keys find afterwards: an insertion
adds one key that found nothing before, a removal takes one away, and no other key notices.
-/

namespace RenderCore

attribute [ext] ArenaKey

namespace Arena

variable {α : Type}

/-- The vacant places are those of the slots without a value, and none is listed twice. -/
structure Tidy (arena : Arena α) : Prop where
  nodup : arena.vacant.Nodup
  mem_vacant : ∀ place, place ∈ arena.vacant ↔ ∃ version, arena.slots[place]? = some ⟨version, none⟩

theorem tidy_empty : Tidy ({} : Arena α) := ⟨List.nodup_nil, by simp⟩

/-! ## Looking up -/

theorem locate?_eq_some {arena : Arena α} {key : ArenaKey} {place : Nat} {value : α} :
    arena.locate? key = some (place, value) ↔
      key.slot = place + 1 ∧ arena.slots[place]? = some ⟨key.version, some value⟩ := by
  unfold locate?
  cases slot : key.slot with
  | zero => simp
  | succ position =>
    dsimp only
    by_cases same : position = place
    · subst same
      cases read : arena.slots[position]? with
      | none => simp
      | some held =>
        obtain ⟨version, content⟩ := held
        by_cases current : version = key.version <;> simp [current]
    · split
      · split <;> simp [same]
      · simp [same]

theorem find?_eq_some {arena : Arena α} {key : ArenaKey} {value : α} :
    arena.find? key = some value ↔
      ∃ place, key.slot = place + 1 ∧ arena.slots[place]? = some ⟨key.version, some value⟩ := by
  simp only [find?, Option.map_eq_some_iff, Prod.exists, exists_eq_right, locate?_eq_some]

@[simp] theorem find?_empty (key : ArenaKey) : ({} : Arena α).find? key = none := by
  rw [Option.eq_none_iff_forall_ne_some]
  simp [find?_eq_some]

theorem contains_eq_isSome (arena : Arena α) (key : ArenaKey) :
    arena.contains key = (arena.find? key).isSome := rfl

theorem find?_unoccupied {arena : Arena α} {key : ArenaKey} {place : Nat}
    (slot : key.slot = place + 1)
    (unoccupied : ∀ version held, arena.slots[place]? ≠ some ⟨version, some held⟩) :
    arena.find? key = none := by
  rw [Option.eq_none_iff_forall_ne_some]
  intro held found
  obtain ⟨position, slot', read⟩ := find?_eq_some.mp found
  obtain rfl : position = place := by omega
  exact unoccupied _ _ read

theorem find?_stale {arena : Arena α} {key : ArenaKey} {place : Nat} {slot : ArenaSlot α}
    (here : key.slot = place + 1) (read : arena.slots[place]? = some slot)
    (stale : slot.version ≠ key.version) : arena.find? key = none := by
  rw [Option.eq_none_iff_forall_ne_some]
  intro held found
  obtain ⟨position, slot', read'⟩ := find?_eq_some.mp found
  obtain rfl : position = place := by omega
  rw [read, Option.some.injEq] at read'
  exact stale (by rw [read'])

/-- Two arenas whose slots agree at the place of a key find the same by it. -/
theorem find?_congr {arena other : Arena α} {key : ArenaKey}
    (agree : ∀ place, key.slot = place + 1 → other.slots[place]? = arena.slots[place]?) :
    other.find? key = arena.find? key := by
  ext value
  simp only [find?_eq_some]
  constructor
  · rintro ⟨place, slot, read⟩
    exact ⟨place, slot, (agree place slot) ▸ read⟩
  · rintro ⟨place, slot, read⟩
    exact ⟨place, slot, (agree place slot).trans read⟩

theorem mem_toList {arena : Arena α} {key : ArenaKey} {value : α} :
    (key, value) ∈ arena.toList ↔ arena.find? key = some value := by
  obtain ⟨slot, version⟩ := key
  simp only [toList, List.mem_filterMap, List.mem_zipIdx_iff_getElem?, Array.getElem?_toList,
    Option.map_eq_some_iff, Prod.mk.injEq, ArenaKey.mk.injEq, Prod.exists, find?_eq_some]
  constructor
  · rintro ⟨held, place, read, content, same, ⟨rfl, rfl⟩, rfl⟩
    exact ⟨place, rfl, by rw [read, ← same]⟩
  · rintro ⟨place, rfl, read⟩
    exact ⟨_, place, read, value, rfl, ⟨rfl, rfl⟩, rfl⟩

theorem nodup_keys_toList (arena : Arena α) : (arena.toList.map (·.1)).Nodup := by
  have slots : (arena.slots.toList.zipIdx.map (·.2)).Nodup := by
    rw [List.zipIdx_map_snd]
    exact List.nodup_range'
  rw [List.Nodup, List.pairwise_map] at slots ⊢
  refine List.Pairwise.filterMap _ ?_ slots
  rintro ⟨held, place⟩ ⟨held', place'⟩ apart ⟨key, value⟩ first ⟨key', value'⟩ second
  simp only [Option.map_eq_some_iff, Prod.mk.injEq] at first second
  obtain ⟨_, -, rfl, -⟩ := first
  obtain ⟨_, -, rfl, -⟩ := second
  intro same
  exact apart (by simpa using congrArg ArenaKey.slot same)

theorem nodup_toList (arena : Arena α) : arena.toList.Nodup :=
  (nodup_keys_toList arena).of_map _

/-! ## Writing one slot -/

/-- `other` is `arena` with the slot at a place written anew. -/
def Rewritten (arena : Arena α) (place : Nat) (slot : ArenaSlot α) (other : Arena α) : Prop :=
  ∀ position, other.slots[position]? =
    if position = place then some slot else arena.slots[position]?

theorem Rewritten.find? {arena other : Arena α} {place : Nat} {slot : ArenaSlot α}
    (written : Rewritten arena place slot other) (key : ArenaKey) :
    other.find? key =
      if key.slot = place + 1 then if slot.version = key.version then slot.value else none
      else arena.find? key := by
  by_cases here : key.slot = place + 1
  · have read : other.slots[place]? = some slot := by rw [written place, if_pos rfl]
    obtain ⟨version, content⟩ := slot
    ext value
    simp only [find?_eq_some, here, Nat.add_right_cancel_iff, if_true]
    constructor
    · rintro ⟨_, rfl, found⟩
      rw [read] at found
      simp only [Option.some.injEq, ArenaSlot.mk.injEq] at found
      simp [found]
    · intro found
      refine ⟨place, rfl, ?_⟩
      by_cases current : version = key.version <;> simp_all
  · rw [if_neg here]
    apply find?_congr
    intro position slot
    rw [written position, if_neg (by rintro rfl; exact here slot)]

theorem rewritten_set {arena : Arena α} {place : Nat} {old : ArenaSlot α}
    (read : arena.slots[place]? = some old) (slot : ArenaSlot α) (vacant : List Nat) :
    Rewritten arena place slot { slots := arena.slots.setIfInBounds place slot, vacant } := by
  intro position
  have inBounds := (Array.getElem?_eq_some_iff.mp read).1
  by_cases here : position = place
  · subst here
    simp [inBounds]
  · rw [if_neg here, Array.getElem?_setIfInBounds_ne (Ne.symm here)]

theorem rewritten_push (arena : Arena α) (slot : ArenaSlot α) (vacant : List Nat) :
    Rewritten arena arena.slots.size slot { slots := arena.slots.push slot, vacant } := by
  intro position
  exact Array.getElem?_push

/-! ## Insertion -/

/-- An insertion into a tidy arena takes a new slot when none is vacant, or else the place that was
    vacated last. -/
theorem insert_cases {arena : Arena α} (tidy : arena.Tidy) (value : α) :
    (arena.vacant = [] ∧ arena.insert value =
      (⟨arena.slots.size + 1, 1⟩, { arena with slots := arena.slots.push ⟨1, some value⟩ })) ∨
    ∃ place rest old, arena.vacant = place :: rest ∧ arena.slots[place]? = some ⟨old, none⟩ ∧
      arena.insert value = (⟨place + 1, old ||| 1⟩,
        { slots := arena.slots.setIfInBounds place ⟨old ||| 1, some value⟩, vacant := rest }) := by
  cases vacant : arena.vacant with
  | nil =>
    left
    simp [insert, vacant]
  | cons place rest =>
    right
    obtain ⟨old, read⟩ := (tidy.mem_vacant place).mp (by simp [vacant])
    exact ⟨place, rest, old, rfl, read, by simp [insert, vacant, read]⟩

/-- An insertion writes a slot without a value, under the key that it gives. -/
theorem insert_rewrites {arena : Arena α} (tidy : arena.Tidy) (value : α) :
    ∃ place, (arena.insert value).1.slot = place + 1 ∧
      (∀ version held, arena.slots[place]? ≠ some ⟨version, some held⟩) ∧
      arena.Rewritten place ⟨(arena.insert value).1.version, some value⟩
        (arena.insert value).2 := by
  rcases insert_cases tidy value with ⟨-, inserted⟩ | ⟨place, rest, old, -, read, inserted⟩
  · rw [inserted]
    exact ⟨arena.slots.size, rfl, by simp, rewritten_push arena _ _⟩
  · rw [inserted]
    exact ⟨place, rfl, by simp [read], rewritten_set read _ _⟩

theorem find?_insert_key {arena : Arena α} (tidy : arena.Tidy) (value : α) :
    arena.find? (arena.insert value).1 = none := by
  obtain ⟨place, slot, unoccupied, -⟩ := insert_rewrites tidy value
  exact find?_unoccupied slot unoccupied

theorem find?_insert {arena : Arena α} (tidy : arena.Tidy) (value : α) (key : ArenaKey) :
    (arena.insert value).2.find? key =
      if key = (arena.insert value).1 then some value else arena.find? key := by
  obtain ⟨place, slot, unoccupied, written⟩ := insert_rewrites tidy value
  rw [written.find? key]
  by_cases same : key = (arena.insert value).1
  · rw [if_pos same, same, if_pos slot, if_pos rfl]
  · rw [if_neg same]
    by_cases here : key.slot = place + 1
    · have stale : (arena.insert value).1.version ≠ key.version := by
        intro current
        apply same
        rw [ArenaKey.ext_iff]
        exact ⟨here.trans slot.symm, current.symm⟩
      rw [if_pos here, if_neg stale, find?_unoccupied here unoccupied]
    · rw [if_neg here]

theorem tidy_insert {arena : Arena α} (tidy : arena.Tidy) (value : α) :
    (arena.insert value).2.Tidy := by
  rcases insert_cases tidy value with ⟨full, inserted⟩ | ⟨place, rest, old, vacant, read, inserted⟩
  · rw [inserted]
    refine ⟨tidy.nodup, fun position => ?_⟩
    rw [rewritten_push arena ⟨1, some value⟩ arena.vacant position, tidy.mem_vacant]
    by_cases last : position = arena.slots.size <;> simp [last]
  · have nodup := tidy.nodup
    rw [vacant, List.nodup_cons] at nodup
    rw [inserted]
    refine ⟨nodup.2, fun position => ?_⟩
    rw [rewritten_set read ⟨old ||| 1, some value⟩ rest position]
    by_cases here : position = place
    · subst here
      simpa using nodup.1
    · have listed : position ∈ rest ↔ position ∈ arena.vacant := by simp [vacant, here]
      rw [listed, tidy.mem_vacant, if_neg here]

/-! ## Changing, removing and clearing -/

theorem find?_update (arena : Arena α) (key : ArenaKey) (change : α → α) (other : ArenaKey) :
    (arena.update key change).find? other =
      if other = key then (arena.find? key).map change else arena.find? other := by
  cases located : arena.locate? key with
  | none =>
    have stale : arena.find? key = none := by simp [find?, located]
    by_cases same : other = key <;> simp [update, located, same, stale]
  | some found =>
    obtain ⟨place, value⟩ := found
    obtain ⟨slot, read⟩ := locate?_eq_some.mp located
    have live : arena.find? key = some value := find?_eq_some.mpr ⟨place, slot, read⟩
    have written : Rewritten arena place ⟨key.version, some (change value)⟩
        (arena.update key change) := by
      rw [update, located]
      exact rewritten_set read _ _
    rw [written.find? other, live]
    by_cases same : other = key
    · rw [if_pos same, same, if_pos slot, if_pos rfl, Option.map_some]
    · rw [if_neg same]
      by_cases here : other.slot = place + 1
      · have stale : key.version ≠ other.version := by
          intro current
          exact same (ArenaKey.ext (here.trans slot.symm) current.symm)
        rw [if_pos here, if_neg stale, find?_stale here read stale]
      · rw [if_neg here]

theorem tidy_update {arena : Arena α} (tidy : arena.Tidy) (key : ArenaKey) (change : α → α) :
    (arena.update key change).Tidy := by
  unfold update
  split
  · rename_i place value located
    have read := (locate?_eq_some.mp located).2
    refine ⟨tidy.nodup, fun position => ?_⟩
    rw [rewritten_set read _ arena.vacant position, tidy.mem_vacant]
    by_cases here : position = place <;> simp [here, read]
  · exact tidy

theorem remove?_eq_none {arena : Arena α} {key : ArenaKey} :
    arena.remove? key = none ↔ arena.find? key = none := by
  cases located : arena.locate? key <;> simp [remove?, find?, located]

/-- A removal vacates the slot of a key and raises its version. -/
theorem remove?_rewrites {arena rest : Arena α} {key : ArenaKey} {value : α}
    (removed : arena.remove? key = some (value, rest)) :
    ∃ place, key.slot = place + 1 ∧ arena.slots[place]? = some ⟨key.version, some value⟩ ∧
      rest.vacant = place :: arena.vacant ∧ Rewritten arena place ⟨key.version + 1, none⟩ rest := by
  cases located : arena.locate? key with
  | none => simp [remove?, located] at removed
  | some found =>
    obtain ⟨place, held⟩ := found
    obtain ⟨slot, read⟩ := locate?_eq_some.mp located
    simp only [remove?, located, Option.some.injEq, Prod.mk.injEq] at removed
    obtain ⟨rfl, rfl⟩ := removed
    exact ⟨place, slot, read, rfl, rewritten_set read _ _⟩

theorem find?_of_remove? {arena rest : Arena α} {key : ArenaKey} {value : α}
    (removed : arena.remove? key = some (value, rest)) : arena.find? key = some value := by
  obtain ⟨place, slot, read, -⟩ := remove?_rewrites removed
  exact find?_eq_some.mpr ⟨place, slot, read⟩

theorem find?_remove? {arena rest : Arena α} {key : ArenaKey} {value : α}
    (removed : arena.remove? key = some (value, rest)) (other : ArenaKey) :
    rest.find? other = if other = key then none else arena.find? other := by
  obtain ⟨place, slot, read, -, written⟩ := remove?_rewrites removed
  rw [written.find? other]
  by_cases here : other.slot = place + 1
  · rw [if_pos here, ite_self]
    by_cases same : other = key
    · rw [if_pos same]
    · rw [if_neg same, find?_stale here read]
      intro current
      exact same (ArenaKey.ext (here.trans slot.symm) current.symm)
  · have different : other ≠ key := by
      rintro rfl
      exact here slot
    rw [if_neg here, if_neg different]

theorem tidy_remove? {arena rest : Arena α} {key : ArenaKey} {value : α} (tidy : arena.Tidy)
    (removed : arena.remove? key = some (value, rest)) : rest.Tidy := by
  obtain ⟨place, -, read, vacant, written⟩ := remove?_rewrites removed
  have occupied : place ∉ arena.vacant := by
    rw [tidy.mem_vacant, read]
    simp
  refine ⟨?_, fun position => ?_⟩
  · rw [vacant]
    exact List.nodup_cons.mpr ⟨occupied, tidy.nodup⟩
  · rw [vacant, List.mem_cons, tidy.mem_vacant, written position]
    by_cases here : position = place <;> simp [here]

/-- Clearing vacates the slots that hold a value and raises their versions. -/
theorem getElem?_slots_clear (arena : Arena α) (place : Nat) :
    arena.clear.slots[place]? = (arena.slots[place]?).map fun slot =>
      if slot.value.isSome then ⟨slot.version + 1, none⟩ else slot := by
  simp [clear]

theorem value_slots_clear {arena : Arena α} {place : Nat} {slot : ArenaSlot α}
    (read : arena.clear.slots[place]? = some slot) : slot.value = none := by
  rw [getElem?_slots_clear, Option.map_eq_some_iff] at read
  obtain ⟨old, -, rfl⟩ := read
  cases held : old.value <;> simp [held]

@[simp] theorem find?_clear (arena : Arena α) (key : ArenaKey) : arena.clear.find? key = none := by
  rw [Option.eq_none_iff_forall_ne_some]
  intro value found
  obtain ⟨place, -, read⟩ := find?_eq_some.mp found
  simpa using value_slots_clear read

theorem tidy_clear {arena : Arena α} (tidy : arena.Tidy) : arena.clear.Tidy := by
  have occupied : ∀ place, place ∈ arena.toList.map (·.1.slot - 1) ↔
      ∃ version value, arena.slots[place]? = some ⟨version, some value⟩ := by
    intro place
    simp only [List.mem_map, Prod.exists, mem_toList, find?_eq_some]
    constructor
    · rintro ⟨key, value, ⟨position, slot, read⟩, rfl⟩
      exact ⟨key.version, value, by simpa [slot] using read⟩
    · rintro ⟨version, value, read⟩
      exact ⟨⟨place + 1, version⟩, value, ⟨place, rfl, read⟩, rfl⟩
  refine ⟨?_, fun place => ?_⟩
  · simp only [clear]
    rw [List.nodup_append]
    refine ⟨List.nodup_reverse.mpr ?_, tidy.nodup, ?_⟩
    · have keys := nodup_keys_toList arena
      rw [List.Nodup, List.pairwise_map] at keys ⊢
      refine keys.imp_of_mem ?_
      rintro ⟨key, value⟩ ⟨key', value'⟩ member member' apart same
      obtain ⟨place, slot, read⟩ := find?_eq_some.mp (mem_toList.mp member)
      obtain ⟨place', slot', read'⟩ := find?_eq_some.mp (mem_toList.mp member')
      dsimp only at apart same
      obtain rfl : place = place' := by omega
      rw [read] at read'
      simp only [Option.some.injEq, ArenaSlot.mk.injEq] at read'
      exact apart (ArenaKey.ext (slot.trans slot'.symm) read'.1)
    · rintro place member _ member' rfl
      obtain ⟨version, value, read⟩ := (occupied place).mp (List.mem_reverse.mp member)
      obtain ⟨version', read'⟩ := (tidy.mem_vacant place).mp member'
      simp [read] at read'
  · simp only [clear, List.mem_append, List.mem_reverse, occupied, tidy.mem_vacant]
    cases read : arena.slots[place]? with
    | none => simp [read]
    | some slot =>
      obtain ⟨version, content⟩ := slot
      cases content <;> simp [read]

/-! ## What an arena lists

A listing has no repetition, so it is determined up to order by what the keys find. -/

theorem toList_perm {arena : Arena α} {items : List (ArenaKey × α)} (nodup : items.Nodup)
    (same : ∀ key value, (key, value) ∈ items ↔ arena.find? key = some value) :
    arena.toList.Perm items := by
  rw [List.perm_ext_iff_of_nodup (nodup_toList arena) nodup]
  rintro ⟨key, value⟩
  rw [mem_toList, same]

theorem toList_insert {arena : Arena α} (tidy : arena.Tidy) (value : α) :
    (arena.insert value).2.toList.Perm (((arena.insert value).1, value) :: arena.toList) := by
  have fresh := find?_insert_key tidy value
  apply toList_perm
  · rw [List.nodup_cons, mem_toList, fresh]
    exact ⟨by simp, nodup_toList arena⟩
  · intro key held
    rw [find?_insert tidy, List.mem_cons, mem_toList, Prod.mk.injEq]
    by_cases same : key = (arena.insert value).1
    · simp [same, fresh, eq_comm]
    · simp [same]

theorem toList_remove? {arena rest : Arena α} {key : ArenaKey} {value : α}
    (removed : arena.remove? key = some (value, rest)) :
    arena.toList.Perm ((key, value) :: rest.toList) := by
  have found := find?_remove? removed
  apply toList_perm
  · rw [List.nodup_cons, mem_toList, found]
    exact ⟨by simp, nodup_toList rest⟩
  · intro other held
    rw [List.mem_cons, mem_toList, found, Prod.mk.injEq]
    by_cases same : other = key
    · simp [same, find?_of_remove? removed, eq_comm]
    · simp [same]

@[simp] theorem toList_clear (arena : Arena α) : arena.clear.toList = [] := by
  rw [List.eq_nil_iff_forall_not_mem]
  rintro ⟨key, value⟩
  simp [mem_toList]

end Arena

end RenderCore
