import Mathlib.Data.List.Nodup
import Mathlib.Data.List.Perm.Subperm
import Std.Data.String.ToNat
import RenderCore.Glsl.NameSupply

/-!
# Names are new

A supply never hands out a name a second time. The forms of a wanted name differ from one another,
so among more forms than there are issued names one is free. Base names may look like forms of other
names; the argument does not depend on it.
-/

namespace RenderCore

namespace NameSupply

theorem form_injective (wanted : String) : Function.Injective (form wanted) := by
  have numbered : ∀ k, wanted ≠ wanted ++ "_" ++ toString (k + 1) := by
    intro k same
    have length := congrArg String.length same
    simp only [String.length_append] at length
    have mark : "_".length = 1 := rfl
    omega
  intro j k same
  cases j with
  | zero =>
    cases k with
    | zero => rfl
    | succ k => exact absurd same (numbered k)
  | succ j =>
    cases k with
    | zero => exact absurd same.symm (numbered j)
    | succ k =>
      have digits : toString (j + 1) = toString (k + 1) :=
        (String.append_right_inj _).mp same
      exact Nat.repr_injective digits

/-- More forms than there are issued names cannot all be issued. -/
theorem exists_form_not_mem (issued : List String) (wanted : String) :
    ∃ k ∈ List.range (issued.length + 1), form wanted k ∉ issued := by
  by_contra all
  have taken : (List.range (issued.length + 1)).map (form wanted) ⊆ issued := by
    intro name listed
    obtain ⟨k, small, rfl⟩ := List.mem_map.mp listed
    by_contra free
    exact all ⟨k, small, free⟩
  have different : ((List.range (issued.length + 1)).map (form wanted)).Nodup :=
    List.nodup_range.map (form_injective wanted)
  have fewer := (List.subperm_of_subset different taken).length_le
  rw [List.length_map, List.length_range] at fewer
  omega

/-- The first free form is a form that was not issued, and all forms before it were. -/
theorem firstFree_eq_form (issued : List String) (wanted : String) :
    ∃ k, firstFree issued wanted = form wanted k ∧ form wanted k ∉ issued ∧
      ∀ j < k, form wanted j ∈ issued := by
  unfold firstFree
  split
  · next k found =>
    obtain ⟨free, -, before⟩ := List.find?_range_eq_some.mp found
    refine ⟨k, rfl, of_decide_eq_true free, fun j earlier => ?_⟩
    simpa using before j earlier
  · next missing =>
    obtain ⟨k, small, free⟩ := exists_form_not_mem issued wanted
    exact absurd (decide_eq_true free) (List.find?_eq_none.mp missing k small)

variable (supply : NameSupply) (letter : Option Char) (base : String)

theorem issue_fst_not_mem : (supply.issue letter base).1 ∉ supply.issued := by
  obtain ⟨k, same, free, -⟩ := firstFree_eq_form supply.issued (supply.wanted letter base)
  show firstFree supply.issued (supply.wanted letter base) ∉ supply.issued
  rw [same]
  exact free

/-- A name that is asked for with a letter begins with it. -/
theorem issue_fst_lettered (letter : Char) :
    ∃ rest, (supply.issue (some letter) base).1 = letter.toString ++ rest := by
  have wanted : ∃ rest, supply.wanted (some letter) base = letter.toString ++ rest := by
    unfold wanted
    cases supply.stage with
    | none => exact ⟨base, rfl⟩
    | some stage =>
      exact ⟨base ++ ("_Stage" ++ toString stage.toNat), by simp [String.append_assoc]⟩
  obtain ⟨rest, wanted⟩ := wanted
  obtain ⟨k, same, -⟩ := firstFree_eq_form supply.issued (supply.wanted (some letter) base)
  show ∃ rest, firstFree supply.issued (supply.wanted (some letter) base) = letter.toString ++ rest
  rw [same, wanted]
  cases k with
  | zero => exact ⟨rest, rfl⟩
  | succ k => exact ⟨rest ++ ("_" ++ toString (k + 1)), by simp [form, String.append_assoc]⟩

/-! ## Lists of issued names -/

/-- The names were issued, and none stands twice. -/
structure Lists (supply : NameSupply) (names : List String) : Prop where
  issued : ∀ name ∈ names, name ∈ supply.issued
  nodup : names.Nodup

variable {supply letter base} {names : List String}

theorem lists_nil : supply.Lists [] := ⟨nofun, .nil⟩

theorem Lists.issue (lists : supply.Lists names) : (supply.issue letter base).2.Lists names where
  issued name listed := List.mem_cons_of_mem _ (lists.issued name listed)
  nodup := lists.nodup

/-- The name that is handed out can be added. -/
theorem Lists.issue_cons (lists : supply.Lists names) :
    (supply.issue letter base).2.Lists ((supply.issue letter base).1 :: names) where
  issued name listed := by
    obtain rfl | listed := List.mem_cons.mp listed
    · exact List.mem_cons_self
    · exact List.mem_cons_of_mem _ (lists.issued name listed)
  nodup := by
    refine List.nodup_cons.mpr ⟨fun listed => ?_, lists.nodup⟩
    exact supply.issue_fst_not_mem letter base (lists.issued _ listed)

theorem Lists.sublist {other : List String} (lists : supply.Lists names)
    (sublist : other.Sublist names) : supply.Lists other where
  issued name listed := lists.issued name (sublist.subset listed)
  nodup := lists.nodup.sublist sublist

theorem Lists.perm {other : List String} (lists : supply.Lists names) (perm : other.Perm names) :
    supply.Lists other where
  issued name listed := lists.issued name (perm.subset listed)
  nodup := perm.nodup_iff.mpr lists.nodup

theorem lists_setStage {mark : Option UInt32} :
    (supply.setStage mark).Lists names ↔ supply.Lists names :=
  ⟨fun lists => ⟨lists.issued, lists.nodup⟩, fun lists => ⟨lists.issued, lists.nodup⟩⟩

end NameSupply

end RenderCore
