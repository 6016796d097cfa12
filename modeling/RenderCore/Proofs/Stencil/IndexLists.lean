import Mathlib.Data.List.Nodup
import RenderCore.Stencil.ScratchIndex

/-!
# What the index finds

The index behaves like a map from scratch keys to lists of keys as long as no scratch key has two
lists. An addition lengthens one list; a removal shortens one and drops it when it becomes empty.
-/

namespace RenderCore.ScratchIndex

/-- No scratch key has two lists. -/
def Distinct (index : ScratchIndex) : Prop := (index.lists.map (·.1)).Nodup

theorem distinct_empty : Distinct {} := List.nodup_nil

@[simp] theorem find?_empty (scratch : ScratchKey) : ({} : ScratchIndex).find? scratch = none := rfl

theorem find?_eq_none {index : ScratchIndex} {scratch : ScratchKey} :
    index.find? scratch = none ↔ scratch ∉ index.lists.map (·.1) := by
  simp only [find?, List.lookup_eq_none_iff, bne_iff_ne, ne_eq, List.mem_map, not_exists, not_and]
  constructor
  · intro apart list member same
    exact apart list member same.symm
  · intro absent list member same
    exact absent list member same.symm

theorem find?_eq_some {index : ScratchIndex} (distinct : index.Distinct) {scratch : ScratchKey}
    {keys : List ArenaKey} :
    index.find? scratch = some keys ↔ (scratch, keys) ∈ index.lists := by
  obtain ⟨lists⟩ := index
  simp only [Distinct, find?] at distinct ⊢
  induction lists with
  | nil => simp
  | cons list rest ih =>
    obtain ⟨form, held⟩ := list
    rw [List.map_cons, List.nodup_cons] at distinct
    rw [List.lookup_cons, List.mem_cons, Prod.mk.injEq]
    by_cases here : scratch = form
    · subst here
      have absent : (scratch, keys) ∉ rest := by
        intro member
        exact distinct.1 (List.mem_map.mpr ⟨_, member, rfl⟩)
      simp [absent, eq_comm]
    · rw [beq_false_of_ne here]
      simpa [here] using ih distinct.2

/-! ## Additions -/

theorem lists_add_of_none {index : ScratchIndex} {scratch : ScratchKey}
    (absent : index.find? scratch = none) (key : ArenaKey) :
    (index.add scratch key).lists = index.lists ++ [(scratch, [key])] := by
  simp [add, absent]

theorem lists_add_of_some {index : ScratchIndex} {scratch : ScratchKey} {keys : List ArenaKey}
    (present : index.find? scratch = some keys) (key : ArenaKey) :
    (index.add scratch key).lists = index.lists.map fun (other, keys) =>
      if other = scratch then (other, keys ++ [key]) else (other, keys) := by
  simp [add, present]

theorem distinct_add {index : ScratchIndex} (distinct : index.Distinct) (scratch : ScratchKey)
    (key : ArenaKey) : (index.add scratch key).Distinct := by
  unfold Distinct at distinct ⊢
  cases found : index.find? scratch with
  | none =>
    rw [lists_add_of_none found, List.map_append, List.map_singleton, List.nodup_append]
    refine ⟨distinct, List.nodup_singleton _, ?_⟩
    rintro form member _ last rfl
    obtain rfl := List.mem_singleton.mp last
    exact find?_eq_none.mp found member
  | some keys =>
    rw [lists_add_of_some found, List.map_map]
    have forms : (fun list : ScratchKey × List ArenaKey =>
        (if list.1 = scratch then (list.1, list.2 ++ [key]) else (list.1, list.2)).1) =
        (·.1) := by
      funext list
      split <;> rfl
    exact (congrArg (fun form => (index.lists.map form).Nodup) forms).mpr distinct

/-- An addition puts a key at the end of the list of its scratch key. -/
theorem find?_add {index : ScratchIndex} (distinct : index.Distinct) (scratch : ScratchKey)
    (key : ArenaKey) (other : ScratchKey) :
    (index.add scratch key).find? other =
      if other = scratch then some ((index.find? scratch).getD [] ++ [key])
      else index.find? other := by
  ext keys
  rw [find?_eq_some (distinct_add distinct scratch key)]
  cases found : index.find? scratch with
  | none =>
    rw [lists_add_of_none found, List.mem_append, List.mem_singleton, Prod.mk.injEq,
      ← find?_eq_some distinct]
    by_cases same : other = scratch
    · simp [same, found, eq_comm]
    · simp [same]
  | some held =>
    rw [lists_add_of_some found, List.mem_map]
    by_cases same : other = scratch
    · subst same
      rw [if_pos rfl, Option.getD_some, Option.some.injEq]
      constructor
      · rintro ⟨⟨form, list⟩, member, written⟩
        by_cases here : form = other
        · subst here
          rw [← find?_eq_some distinct, found, Option.some.injEq] at member
          simpa [member] using written
        · simp [here] at written
      · rintro rfl
        exact ⟨(other, held), (find?_eq_some distinct).mp found, by simp⟩
    · rw [if_neg same, find?_eq_some distinct]
      constructor
      · rintro ⟨⟨form, list⟩, member, written⟩
        by_cases here : form = scratch
        · simp [here, Ne.symm same] at written
        · simp only [here, if_false, Prod.mk.injEq] at written
          rwa [← written.1, ← written.2]
      · intro member
        exact ⟨(other, keys), member, by simp [same]⟩

/-! ## Removals -/

theorem mem_lists_remove {index : ScratchIndex} {scratch : ScratchKey} {key : ArenaKey}
    {other : ScratchKey} {keys : List ArenaKey} :
    (other, keys) ∈ (index.remove scratch key).lists ↔
      if other = scratch then
        ∃ held, (scratch, held) ∈ index.lists ∧ keys = held.filter (· ≠ key) ∧ keys ≠ []
      else (other, keys) ∈ index.lists := by
  simp only [remove, List.mem_filterMap]
  by_cases same : other = scratch
  · subst same
    rw [if_pos rfl]
    constructor
    · rintro ⟨⟨form, held⟩, member, kept⟩
      by_cases here : form = other
      · subst here
        simp only [if_true, Option.ite_none_left_eq_some, Option.some.injEq, Prod.mk.injEq,
          true_and, List.isEmpty_iff] at kept
        exact ⟨held, member, kept.2.symm, kept.2 ▸ kept.1⟩
      · simp [here] at kept
    · rintro ⟨held, member, rfl, rest⟩
      exact ⟨(other, held), member, by simpa using rest⟩
  · rw [if_neg same]
    constructor
    · rintro ⟨⟨form, held⟩, member, kept⟩
      by_cases here : form = scratch
      · simp only [here, if_true, Option.ite_none_left_eq_some, Option.some.injEq,
          Prod.mk.injEq] at kept
        exact absurd kept.2.1.symm same
      · simp only [here, if_false, Option.some.injEq, Prod.mk.injEq] at kept
        rwa [← kept.1, ← kept.2]
    · intro member
      exact ⟨(other, keys), member, by simp [same]⟩

theorem distinct_remove {index : ScratchIndex} (distinct : index.Distinct) (scratch : ScratchKey)
    (key : ArenaKey) : (index.remove scratch key).Distinct := by
  rw [Distinct, List.Nodup, List.pairwise_map] at distinct ⊢
  refine List.Pairwise.filterMap _ ?_ distinct
  -- an entry that stays keeps its scratch key
  have stays : ∀ list kept : ScratchKey × List ArenaKey,
      (if list.1 = scratch then
        if (list.2.filter (· ≠ key)).isEmpty then none else some (list.1, list.2.filter (· ≠ key))
      else some (list.1, list.2)) = some kept → kept.1 = list.1 := by
    intro list kept same
    split at same
    · split at same
      · simp at same
      · rw [← Option.some.inj same]
    · rw [← Option.some.inj same]
  intro list list' apart kept first kept' second same
  exact apart (by rw [← stays list kept first, same, stays list' kept' second])

/-- A removal takes a key out of the list of its scratch key, and an empty list out of the
    index. -/
theorem find?_remove {index : ScratchIndex} (distinct : index.Distinct) (scratch : ScratchKey)
    (key : ArenaKey) (other : ScratchKey) :
    (index.remove scratch key).find? other =
      if other = scratch then
        ((index.find? scratch).map fun held => held.filter (· ≠ key)).filter (· ≠ [])
      else index.find? other := by
  ext keys
  rw [find?_eq_some (distinct_remove distinct scratch key), mem_lists_remove]
  by_cases same : other = scratch
  · simp only [same, if_true, ← find?_eq_some distinct, Option.filter_eq_some_iff,
      Option.map_eq_some_iff, decide_eq_true_eq]
    constructor
    · rintro ⟨held, found, rfl, rest⟩
      exact ⟨⟨held, found, rfl⟩, rest⟩
    · rintro ⟨⟨held, found, rfl⟩, rest⟩
      exact ⟨held, found, rfl, rest⟩
  · rw [if_neg same, if_neg same, find?_eq_some distinct]

/-! ## The keys of a scratch key -/

/-- The entries of a scratch key; none if the index has no list for it. -/
def listed (index : ScratchIndex) (scratch : ScratchKey) : List ArenaKey :=
  (index.find? scratch).getD []

theorem listed_add {index : ScratchIndex} (distinct : index.Distinct) (scratch : ScratchKey)
    (key : ArenaKey) (other : ScratchKey) :
    (index.add scratch key).listed other =
      if other = scratch then index.listed scratch ++ [key] else index.listed other := by
  rw [listed, find?_add distinct]
  by_cases same : other = scratch <;> simp [same, listed]

theorem listed_remove {index : ScratchIndex} (distinct : index.Distinct) (scratch : ScratchKey)
    (key : ArenaKey) (other : ScratchKey) :
    (index.remove scratch key).listed other =
      if other = scratch then (index.listed scratch).filter (· ≠ key) else index.listed other := by
  rw [listed, find?_remove distinct]
  by_cases same : other = scratch
  · rw [if_pos same, if_pos same, listed]
    cases index.find? scratch with
    | none => rfl
    | some held =>
      rw [Option.map_some, Option.getD_some, Option.filter_some]
      split
      · rfl
      · rename_i emptied
        simpa using emptied
  · simp [same, listed]

end RenderCore.ScratchIndex
