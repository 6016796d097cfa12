import Mathlib.Algebra.Group.Nat.Defs
import Mathlib.Data.Finset.Card
import RenderCore.Effect.Stop
import RenderCore.Proofs.Glsl.NewNames

/-!
# The search for a free name

A name is searched for in trials. The first trial is the wanted name; as long as a trial was issued
before, the next one is the wanted name with a number, and the number, a 32-bit word, counts up. The
search ends, since the trials differ from one another and only so many names were issued, and it ends
before the number overflows. It finds the name that the supply hands out.
-/

namespace RenderCore

/-- Sum of two 32-bit words. -/
def Build.add32 (build : Build) (a b : UInt32) : Except Panic UInt32 :=
  build.checked .add ((a + b).toNat == a.toNat + b.toNat) (a + b)

theorem Build.add32_of_fits (build : Build) {a b : UInt32} (fits : a.toNat + b.toNat < 2 ^ 32) :
    build.add32 a b = .ok (a + b) ∧ (a + b).toNat = a.toNat + b.toNat := by
  have exact : (a + b).toNat = a.toNat + b.toNat := by
    rw [UInt32.toNat_add, Nat.mod_eq_of_lt fits]
  refine ⟨?_, exact⟩
  simp [add32, checked, exact]

namespace NameSupply

/-- What the search for a name comes to from one trial on: a name that was not issued, or a panic
    where a debug build cannot count the trials any more. -/
inductive Search (build : Build) (issued : List String) (wanted : String) :
    String → UInt32 → Except Panic String → Prop where
  | free {trial : String} {number : UInt32} (new : trial ∉ issued) :
      Search build issued wanted trial number (.ok trial)
  | taken {trial : String} {number next : UInt32} {result : Except Panic String}
      (old : trial ∈ issued) (counted : build.add32 number 1 = .ok next)
      (onward : Search build issued wanted (wanted ++ "_" ++ toString number.toNat) next result) :
      Search build issued wanted trial number result
  | uncounted {trial : String} {number : UInt32} {panic : Panic} (old : trial ∈ issued)
      (cut : build.add32 number 1 = .error panic) :
      Search build issued wanted trial number (.error panic)

variable {build : Build} {issued : List String} {wanted trial : String} {number : UInt32}

/-- A search comes to one result. -/
theorem Search.unique {result other : Except Panic String}
    (search : Search build issued wanted trial number result)
    (again : Search build issued wanted trial number other) : result = other := by
  induction search with
  | free new =>
    cases again with
    | free _ => rfl
    | taken old => exact absurd old new
    | uncounted old => exact absurd old new
  | taken old counted onward ih =>
    cases again with
    | free new => exact absurd old new
    | taken _ counted' onward' =>
      rw [counted] at counted'
      obtain rfl := Except.ok.inj counted'
      exact ih onward'
    | uncounted _ cut =>
      rw [counted] at cut
      contradiction
  | uncounted old cut =>
    cases again with
    | free new => exact absurd old new
    | taken _ counted =>
      rw [cut] at counted
      contradiction
    | uncounted _ cut' =>
      rw [cut] at cut'
      rw [Except.error.inj cut']

/-- Where the first forms were all issued, there are no more of them than issued names. -/
theorem le_card_of_issued {count : Nat} (taken : ∀ j < count, form wanted j ∈ issued) :
    count ≤ issued.toFinset.card := by
  have forms : (Finset.range count).image (form wanted) ⊆ issued.toFinset := by
    intro name listed
    obtain ⟨j, earlier, rfl⟩ := Finset.mem_image.mp listed
    exact List.mem_toFinset.mpr (taken j (Finset.mem_range.mp earlier))
  have fewer := Finset.card_le_card forms
  rwa [Finset.card_image_of_injective _ (form_injective wanted), Finset.card_range] at fewer

/-- From any form before the first free one, the search goes on to that one. -/
theorem search_form {free k : Nat} (new : form wanted free ∉ issued)
    (taken : ∀ j < free, form wanted j ∈ issued) (fits : free + 1 < 2 ^ 32) (before : k ≤ free)
    (counts : number.toNat = k + 1) :
    Search build issued wanted (form wanted k) number (.ok (form wanted free)) := by
  induction before using Nat.decreasingInduction generalizing number with
  | self => exact .free new
  | of_succ k earlier ih =>
    obtain ⟨counted, next⟩ := build.add32_of_fits (a := number) (b := 1) (by
      rw [counts]
      change k + 1 + 1 < 2 ^ 32
      omega)
    have onward := ih (next.trans (congrArg (· + 1) counts))
    refine .taken (taken k earlier) counted ?_
    rw [counts]
    exact onward

/-- The search ends with the name that the supply hands out. -/
theorem search_firstFree (few : issued.toFinset.card < 2 ^ 32 - 1) :
    Search build issued wanted wanted 1 (.ok (firstFree issued wanted)) := by
  obtain ⟨free, same, new, taken⟩ := firstFree_eq_form issued wanted
  have fewer := le_card_of_issued taken
  rw [same]
  exact search_form new taken (by omega) (Nat.zero_le free) rfl

/-- Of the numbered forms of a name that was issued, the first free one is handed out. -/
theorem firstFree_of_issued (old : wanted ∈ issued) :
    ∃ k, 1 ≤ k ∧ firstFree issued wanted = wanted ++ "_" ++ toString k ∧
      wanted ++ "_" ++ toString k ∉ issued ∧
      ∀ j, 1 ≤ j → j < k → wanted ++ "_" ++ toString j ∈ issued := by
  obtain ⟨free, same, new, taken⟩ := firstFree_eq_form issued wanted
  cases free with
  | zero => exact absurd old new
  | succ k =>
    refine ⟨k + 1, Nat.le_add_left 1 k, same, new, fun j positive earlier => ?_⟩
    obtain ⟨i, rfl⟩ := Nat.exists_eq_add_of_le' positive
    exact taken (i + 1) earlier

theorem firstFree_of_new (new : wanted ∉ issued) : firstFree issued wanted = wanted := by
  obtain ⟨free, same, -, taken⟩ := firstFree_eq_form issued wanted
  cases free with
  | zero => exact same
  | succ k => exact absurd (taken 0 (Nat.succ_pos k)) new

theorem wanted_eq (supply : NameSupply) (letter : Option Char) (base : String) :
    supply.wanted letter base = (letter.map Char.toString).getD "" ++ base ++
      (supply.stage.map fun stage => "_Stage" ++ toString stage.toNat).getD "" := by
  unfold NameSupply.wanted
  cases letter <;> cases supply.stage <;> simp [String.append_assoc]

/-- In either build, and whatever fewer than `2 ^ 32 - 1` names were issued before, the search for a
    name comes to an end, and with no other result than the name that the supply hands out. That is the
    wanted name if it is new, and otherwise the wanted name with the least number that makes it new.
    It is then the only further name that counts as issued, and the mark of the stage stays. -/
theorem least_form_issued (build : Build) (supply : NameSupply) (letter : Option Char)
    (base : String) (few : supply.issued.toFinset.card < 2 ^ 32 - 1) :
    let wanted := (letter.map Char.toString).getD "" ++ base ++
      (supply.stage.map fun stage => "_Stage" ++ toString stage.toNat).getD ""
    let numbered (k : Nat) := wanted ++ "_" ++ toString k
    let (name, left) := supply.issue letter base
    (∀ result, Search build supply.issued wanted wanted 1 result ↔ result = .ok name) ∧
    (wanted ∉ supply.issued → name = wanted) ∧
    (wanted ∈ supply.issued → ∃ k, 1 ≤ k ∧ name = numbered k ∧ numbered k ∉ supply.issued ∧
      ∀ j, 1 ≤ j → j < k → numbered j ∈ supply.issued) ∧
    (∀ other, other ∈ left.issued ↔ other = name ∨ other ∈ supply.issued) ∧
    left.stage = supply.stage := by
  rw [← wanted_eq supply letter base]
  intro wanted numbered
  have found : Search build supply.issued wanted wanted 1
      (.ok (firstFree supply.issued wanted)) := search_firstFree few
  refine ⟨fun result => ⟨fun search => search.unique found, ?_⟩, firstFree_of_new,
    firstFree_of_issued, fun other => List.mem_cons, rfl⟩
  rintro rfl
  exact found

/-- Explicit names may have taken numbers out of order. -/
theorem least_form_past_explicit :
    let supply : NameSupply :=
      { stage := some 3, issued := ["uTint_Stage3_2", "uTint_Stage3", "uTint_Stage3_1"] }
    supply.issued.toFinset.card < 2 ^ 32 - 1 ∧
      Search .debug supply.issued "uTint_Stage3" "uTint_Stage3" 1 (.ok "uTint_Stage3_3") ∧
      (supply.issue (some 'u') "Tint").2.stage = some 3 := by
  intro supply
  have few : supply.issued.toFinset.card < 2 ^ 32 - 1 := by decide +kernel
  obtain ⟨found, -, -, -, stage⟩ := least_form_issued .debug supply (some 'u') "Tint" few
  exact ⟨few, (found _).mpr (by decide +kernel), stage⟩

end NameSupply

end RenderCore
