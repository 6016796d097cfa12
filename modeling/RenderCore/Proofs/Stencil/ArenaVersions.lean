import Mathlib.Algebra.Group.Nat.Defs
import RenderCore.Proofs.Stencil.ArenaOccupancy

/-!
# Keys are never given twice

The version of a slot is odd while the slot holds a value and even while it is vacant, and only
grows. A key that an arena gave out is therefore of an earlier version than any key it gives out
later for the same slot, as long as the versions of a slot do not wrap around.
-/

namespace RenderCore.Arena

variable {α : Type}

/-- The arena has given out the keys of a list, and none that its slots have not come to. -/
structure Ledger (arena : Arena α) (issued : List ArenaKey) : Prop where
  occupied : ∀ (place : Nat) version value, arena.slots[place]? = some ⟨version, some value⟩ →
    version.toNat % 2 = 1
  vacant : ∀ (place : Nat) version, arena.slots[place]? = some ⟨version, none⟩ →
    version.toNat % 2 = 0
  /-- Each key given out raises the version of a slot by two at most. -/
  bounded : ∀ (place : Nat) slot, arena.slots[place]? = some slot →
    slot.version.toNat ≤ 2 * issued.length
  /-- A key is not ahead of its slot, and behind it once the slot was vacated. -/
  dated : ∀ key ∈ issued, ∃ (place : Nat) (slot : ArenaSlot α),
    key.slot = place + 1 ∧ arena.slots[place]? = some slot ∧
      key.version.toNat ≤ slot.version.toNat ∧
      (slot.value = none → key.version.toNat < slot.version.toNat)

theorem ledger_empty : Ledger ({} : Arena α) [] := ⟨by simp, by simp, by simp, by simp⟩

/-- A rewritten slot keeps the ledger if its version does not fall, fits its state, and has grown
    if the slot was vacated. -/
theorem Ledger.rewritten {arena other : Arena α} {issued : List ArenaKey} {place : Nat}
    {slot : ArenaSlot α} (ledger : arena.Ledger issued) (more : List ArenaKey)
    (written : Rewritten arena place slot other)
    (parity : slot.version.toNat % 2 = if slot.value.isSome then 1 else 0)
    (bounded : slot.version.toNat ≤ 2 * (more ++ issued).length)
    (grown : ∀ old, arena.slots[place]? = some old → old.version.toNat ≤ slot.version.toNat ∧
      (slot.value = none → old.version.toNat < slot.version.toNat))
    (new : ∀ key ∈ more, key.slot = place + 1 ∧ key.version = slot.version ∧ slot.value ≠ none) :
    other.Ledger (more ++ issued) where
  occupied position version value read := by
    rw [written position] at read
    by_cases here : position = place
    · rw [if_pos here, Option.some.injEq] at read
      rw [read] at parity
      exact parity
    · rw [if_neg here] at read
      exact ledger.occupied position version value read
  vacant position version read := by
    rw [written position] at read
    by_cases here : position = place
    · rw [if_pos here, Option.some.injEq] at read
      rw [read] at parity
      exact parity
    · rw [if_neg here] at read
      exact ledger.vacant position version read
  bounded position held read := by
    rw [written position] at read
    by_cases here : position = place
    · rw [if_pos here, Option.some.injEq] at read
      rw [← read]
      exact bounded
    · rw [if_neg here] at read
      have := ledger.bounded position held read
      rw [List.length_append]
      omega
  dated key member := by
    rcases List.mem_append.mp member with fresh | old
    · obtain ⟨here, current, occupied⟩ := new key fresh
      refine ⟨place, slot, here, ?_, current ▸ Nat.le_refl _, fun empty => absurd empty occupied⟩
      rw [written place, if_pos rfl]
    · obtain ⟨position, held, own, read, behind, left⟩ := ledger.dated key old
      by_cases here : position = place
      · subst here
        obtain ⟨raised, vacated⟩ := grown held read
        refine ⟨position, slot, own, ?_, by omega, fun empty => ?_⟩
        · rw [written position, if_pos rfl]
        · have := vacated empty
          omega
      · refine ⟨position, held, own, ?_, behind, left⟩
        rw [written position, if_neg here]
        exact read

/-- An insertion gives a key that was not given out before. -/
theorem Ledger.insert {arena : Arena α} {issued : List ArenaKey} (ledger : arena.Ledger issued)
    (tidy : arena.Tidy) (few : issued.length + 1 < 2 ^ 31) (value : α) :
    (arena.insert value).1 ∉ issued ∧
      (arena.insert value).2.Ledger ([(arena.insert value).1] ++ issued) := by
  rcases insert_cases tidy value with ⟨-, inserted⟩ | ⟨place, rest, old, -, read, inserted⟩
  · rw [inserted]
    constructor
    · intro member
      obtain ⟨place, slot, own, read, -⟩ := ledger.dated _ member
      obtain rfl : arena.slots.size = place := by simpa using own
      simp at read
    · refine ledger.rewritten [_] (rewritten_push arena ⟨1, some value⟩ arena.vacant) rfl ?_ ?_ ?_
      · rw [List.length_append, List.length_singleton]
        exact Nat.le_trans (by decide : (1 : UInt32).toNat ≤ 2) (by omega)
      · simp
      · simp
  · have even := ledger.vacant place old read
    have bounded : old.toNat ≤ 2 * issued.length := ledger.bounded place _ read
    have version : (old ||| 1).toNat = old.toNat + 1 := by
      rw [UInt32.toNat_or]
      have half := Nat.two_pow_add_eq_or_of_lt (by decide : 1 < 2 ^ 1) (old.toNat / 2)
      have whole : 2 ^ 1 * (old.toNat / 2) = old.toNat := by omega
      rw [whole] at half
      exact half.symm
    rw [inserted]
    constructor
    · intro member
      obtain ⟨position, slot, own, read', behind, left⟩ := ledger.dated _ member
      obtain rfl : place = position := by simpa using own
      rw [read, Option.some.injEq] at read'
      subst read'
      have := left rfl
      dsimp only at this
      omega
    · refine ledger.rewritten [_] (rewritten_set read ⟨old ||| 1, some value⟩ rest) ?_ ?_ ?_ ?_
      · dsimp only
        rw [version, Option.isSome_some, if_pos rfl]
        omega
      · dsimp only
        rw [version, List.length_append, List.length_singleton]
        omega
      · intro slot read'
        rw [read, Option.some.injEq] at read'
        subst read'
        dsimp only
        rw [version]
        exact ⟨Nat.le_succ _, fun _ => Nat.lt_succ_self _⟩
      · simp

/-- A slot that is vacated goes on to the next, even version. -/
theorem Ledger.succ_version {arena : Arena α} {issued : List ArenaKey} {place : Nat}
    {version : UInt32} {value : α} (ledger : arena.Ledger issued)
    (few : issued.length < 2 ^ 31) (read : arena.slots[place]? = some ⟨version, some value⟩) :
    (version + 1).toNat = version.toNat + 1 := by
  have odd := ledger.occupied place version value read
  have bounded : version.toNat ≤ 2 * issued.length := ledger.bounded place _ read
  rw [UInt32.toNat_add]
  apply Nat.mod_eq_of_lt
  have one : (1 : UInt32).toNat = 1 := rfl
  omega

theorem Ledger.update {arena : Arena α} {issued : List ArenaKey} (ledger : arena.Ledger issued)
    (key : ArenaKey) (change : α → α) : (arena.update key change).Ledger issued := by
  unfold Arena.update
  split
  · rename_i place value located
    have read := (locate?_eq_some.mp located).2
    refine ledger.rewritten [] (rewritten_set read _ arena.vacant) ?_ ?_ ?_ (by simp)
    · exact ledger.occupied place _ _ read
    · exact ledger.bounded place ⟨key.version, some value⟩ read
    · intro old read'
      rw [read, Option.some.injEq] at read'
      subst read'
      simp
  · exact ledger

theorem Ledger.remove? {arena rest : Arena α} {issued : List ArenaKey} {key : ArenaKey} {value : α}
    (ledger : arena.Ledger issued) (few : issued.length < 2 ^ 31)
    (removed : arena.remove? key = some (value, rest)) : rest.Ledger issued := by
  obtain ⟨place, -, read, -, written⟩ := remove?_rewrites removed
  have odd := ledger.occupied place _ _ read
  have bounded : key.version.toNat ≤ 2 * issued.length := ledger.bounded place _ read
  have next := ledger.succ_version few read
  refine ledger.rewritten [] written ?_ ?_ ?_ (by simp)
  · dsimp only
    rw [next, Option.isSome_none, if_neg Bool.false_ne_true]
    omega
  · dsimp only
    rw [next, List.nil_append]
    omega
  · intro old read'
    rw [read, Option.some.injEq] at read'
    subst read'
    dsimp only
    rw [next]
    exact ⟨Nat.le_succ _, fun _ => Nat.lt_succ_self _⟩

theorem Ledger.clear {arena : Arena α} {issued : List ArenaKey} (ledger : arena.Ledger issued)
    (few : issued.length < 2 ^ 31) : arena.clear.Ledger issued where
  occupied place version value read := by
    have empty := value_slots_clear read
    contradiction
  vacant place version read := by
    rw [getElem?_slots_clear, Option.map_eq_some_iff] at read
    obtain ⟨⟨old, content⟩, read, cleared⟩ := read
    cases content with
    | none =>
      obtain rfl := congrArg ArenaSlot.version cleared
      exact ledger.vacant place old read
    | some value =>
      have raised : old + 1 = version := congrArg ArenaSlot.version cleared
      have odd := ledger.occupied place old value read
      rw [← raised, ledger.succ_version few read]
      omega
  bounded place slot read := by
    rw [getElem?_slots_clear, Option.map_eq_some_iff] at read
    obtain ⟨⟨old, content⟩, read, rfl⟩ := read
    have bounded : old.toNat ≤ 2 * issued.length := ledger.bounded place _ read
    cases content with
    | none => exact bounded
    | some value =>
      have odd := ledger.occupied place old value read
      change (old + 1).toNat ≤ 2 * issued.length
      rw [ledger.succ_version few read]
      omega
  dated key member := by
    obtain ⟨place, ⟨old, content⟩, own, read, behind, left⟩ := ledger.dated key member
    refine ⟨place, _, own, by rw [getElem?_slots_clear, read]; rfl, ?_⟩
    cases content with
    | none => exact ⟨behind, left⟩
    | some value =>
      change key.version.toNat ≤ (old + 1).toNat ∧ (_ → key.version.toNat < (old + 1).toNat)
      rw [ledger.succ_version few read]
      have behind : key.version.toNat ≤ old.toNat := behind
      exact ⟨by omega, fun _ => by omega⟩

end RenderCore.Arena
