import Mathlib.Data.List.Perm.Basic
import Mathlib.Data.List.Nodup
import Std.Data.TreeMap.Lemmas
import RenderCore.Stencil.Recency

/-!
# The order of last use as a list

The uses that a recency map lists are in the order of their stamps, and no stamp occurs twice.
A new largest stamp therefore puts its key at the end of the order, and forgetting a stamp takes
its key out and leaves the order of the others alone.
-/

namespace RenderCore.Recency

theorem getElem?_note {recency : Recency} {stamp time : Nat} {key : ArenaKey} :
    (recency.note stamp key).byStamp[time]? =
      if stamp = time then some key else recency.byStamp[time]? := by
  rw [note, Std.TreeMap.getElem?_insert]
  simp only [Nat.compare_eq_eq]

theorem getElem?_forget {recency : Recency} {stamp time : Nat} :
    (recency.forget stamp).byStamp[time]? =
      if stamp = time then none else recency.byStamp[time]? := by
  rw [forget, Std.TreeMap.getElem?_erase]
  simp only [Nat.compare_eq_eq]

theorem mem_uses {recency : Recency} {stamp : Nat} {key : ArenaKey} :
    (stamp, key) ∈ recency.uses ↔ recency.byStamp[stamp]? = some key :=
  Std.TreeMap.mem_toList_iff_getElem?_eq_some

theorem uses_ordered (recency : Recency) :
    recency.uses.Pairwise fun use later => use.1 < later.1 := by
  have ordered := Std.TreeMap.ordered_keys_toList (t := recency.byStamp)
  simp only [Nat.compare_eq_lt] at ordered
  exact ordered

/-- Lists that are ordered by stamp and have the same members are equal. -/
theorem eq_of_ordered {uses others : List (Nat × ArenaKey)}
    (ordered : uses.Pairwise fun use later => use.1 < later.1)
    (ordered' : others.Pairwise fun use later => use.1 < later.1)
    (same : ∀ use, use ∈ uses ↔ use ∈ others) : uses = others := by
  have distinct : ∀ {list : List (Nat × ArenaKey)},
      list.Pairwise (fun use later => use.1 < later.1) → list.Nodup := by
    intro list sorted
    refine sorted.imp ?_
    rintro use later less rfl
    exact Nat.lt_irrefl _ less
  have perm := (List.perm_ext_iff_of_nodup (distinct ordered) (distinct ordered')).mpr same
  refine perm.eq_of_pairwise ?_ ordered ordered'
  intro use later _ _ less more
  omega

theorem uses_note {recency : Recency} {stamp : Nat}
    (latest : ∀ use ∈ recency.uses, use.1 < stamp) (key : ArenaKey) :
    (recency.note stamp key).uses = recency.uses ++ [(stamp, key)] := by
  apply eq_of_ordered (uses_ordered _)
  · rw [List.pairwise_append]
    refine ⟨uses_ordered recency, List.pairwise_singleton _ _, ?_⟩
    intro use member last equal
    obtain rfl := List.mem_singleton.mp equal
    exact latest use member
  · rintro ⟨time, other⟩
    rw [List.mem_append, List.mem_singleton, mem_uses, mem_uses, getElem?_note,
      Prod.mk.injEq]
    by_cases same : stamp = time
    · subst same
      have absent : recency.byStamp[stamp]? ≠ some other := by
        intro found
        exact Nat.lt_irrefl _ (latest _ (mem_uses.mpr found))
      simp [absent, eq_comm]
    · simp [same, Ne.symm same]

theorem uses_forget (recency : Recency) (stamp : Nat) :
    (recency.forget stamp).uses = recency.uses.filter fun use => use.1 ≠ stamp := by
  apply eq_of_ordered (uses_ordered _)
  · exact (uses_ordered recency).filter _
  · rintro ⟨time, key⟩
    rw [List.mem_filter, mem_uses, mem_uses, getElem?_forget]
    by_cases same : stamp = time
    · simp [same]
    · simp [same, Ne.symm same]

end RenderCore.Recency
