import Mathlib.Algebra.Group.Int.Defs
import Mathlib.Algebra.Group.Nat.Defs
import Mathlib.Data.List.Nodup
import RenderCore.Clip.Generation

/-!
# The order in which generations are handed out

A stencil buffer is taken for up to date if it holds a clip of the wanted generation, so a
generation that came again too early would pass an old clip for the new one. An issuer counts up
from the first unreserved value and starts over after the largest one: it goes through all values
that are not reserved before it repeats one, and never hands out another.
-/

namespace RenderCore

namespace ClipGeneration

theorem toInt_value_inj {a b : ClipGeneration} : a.value.toInt = b.value.toInt ↔ a = b := by
  rw [Int32.toInt_inj]
  exact ⟨fun same => congrArg mk same, congrArg value⟩

namespace Issuer

/-- How many generations there are to hand out. -/
def period : Nat := 2 ^ 31 - 3

/-- The generation that the issuer hands out after `n` others. -/
def nth (issuer : Issuer) (n : Nat) : ClipGeneration := (issuer.issueMany n).2.issue.1

variable {issuer : Issuer}

theorem nth_succ (n : Nat) : issuer.nth (n + 1) = issuer.issue.2.nth n := rfl

/-- What an issuer hands out is listed by number. -/
theorem issueMany_fst (count : Nat) :
    (issuer.issueMany count).1 = (List.range count).map issuer.nth := by
  induction count generalizing issuer with
  | zero => rfl
  | succ count ih =>
    rw [List.range_succ_eq_map, List.map_cons, List.map_map]
    exact congrArg (issuer.issue.1 :: ·) ih

/-- An issuer that has been used goes on where it stopped. -/
theorem nth_issueMany (earlier n : Nat) :
    (issuer.issueMany earlier).2.nth n = issuer.nth (earlier + n) := by
  induction earlier generalizing issuer with
  | zero => rw [Nat.zero_add]; rfl
  | succ earlier ih => rw [Nat.succ_add, nth_succ, ← ih]; rfl

/-- The issuer is about to hand out the value at this place of the cycle. -/
def StandsAt (issuer : Issuer) (place : Nat) : Prop :=
  issuer.next.toInt = 3 + (place % period : Nat)

/-- One use moves the issuer one place on. -/
theorem StandsAt.issue {place : Nat} (stands : issuer.StandsAt place) :
    issuer.issue.2.StandsAt (place + 1) := by
  have last : issuer.next = Int32.maxValue ↔ issuer.next.toInt = 2 ^ 31 - 1 :=
    Int32.toInt_inj.symm
  simp only [StandsAt, Issuer.issue, period] at *
  by_cases atEnd : issuer.next.toInt = 2 ^ 31 - 1
  case pos =>
    have turned : (place + 1) % (2 ^ 31 - 3) = 0 := by omega
    rw [if_pos (last.mpr atEnd), turned]
    rfl
  case neg =>
    -- Below the largest value the next one does not leave the range of a word.
    rw [if_neg (mt last.mp atEnd), Int32.toInt_add, show (1 : Int32).toInt = 1 from rfl,
      Int.bmod_eq_of_le] <;> omega

/-- The value that is handed out after `n` others lies `n` places on. -/
theorem StandsAt.nth {place : Nat} (stands : issuer.StandsAt place) (n : Nat) :
    (issuer.nth n).value.toInt = 3 + ((place + n) % period : Nat) := by
  induction n generalizing issuer place with
  | zero => exact stands
  | succ n ih =>
    rw [nth_succ, ih stands.issue, Nat.add_right_comm, Nat.add_assoc]

/-- The values follow each other in a cycle over everything that is not reserved. -/
theorem value_nth (n : Nat) : (initial.nth n).value.toInt = 3 + (n % period : Nat) := by
  have start : initial.StandsAt 0 := rfl
  rw [start.nth n, Nat.zero_add]

/-- Two generations are the same if whole cycles lie between them. -/
theorem nth_inj {n m : Nat} : initial.nth n = initial.nth m ↔ n % period = m % period := by
  rw [← toInt_value_inj, value_nth, value_nth, Int.add_right_inj, Int.natCast_inj]

theorem unreserved_nth (n : Nat) :
    (initial.nth n).isReserved = false ∧ (initial.nth n).isValid = true := by
  have value := value_nth n
  have small : ¬ (initial.nth n).value < firstUnreserved.value := by
    rw [Int32.lt_iff_toInt_lt, value, show firstUnreserved.value.toInt = 3 from rfl]
    omega
  refine ⟨decide_eq_false small, decide_eq_true fun invalid => ?_⟩
  rw [invalid, show ClipGeneration.invalid.value.toInt = 0 from rfl] at value
  omega

/-- As many generations in a row as there are differ from each other, wherever the row starts. -/
theorem nodup_issueMany (earlier : Nat) :
    ((initial.issueMany earlier).2.issueMany period).1.Nodup := by
  rw [issueMany_fst]
  refine List.Nodup.map_on (fun n low m below same => ?_) List.nodup_range
  rw [nth_issueMany, nth_issueMany, nth_inj] at same
  rw [List.mem_range] at low below
  simp only [period] at *
  omega

/-- A generation comes before the next one, but for the last one of a cycle, after which the cycle
    starts over. -/
theorem nth_lt_or_last (n : Nat) :
    if (initial.nth n).value = Int32.maxValue then initial.nth (n + 1) = firstUnreserved
    else compare (initial.nth n) (initial.nth (n + 1)) = .lt := by
  have value := value_nth n
  have next := value_nth (n + 1)
  have last : (initial.nth n).value = Int32.maxValue ↔
      (initial.nth n).value.toInt = 2 ^ 31 - 1 := Int32.toInt_inj.symm
  simp only [period] at value next
  split
  case isTrue atEnd =>
    rw [last] at atEnd
    rw [← toInt_value_inj, show firstUnreserved.value.toInt = 3 from rfl]
    omega
  case isFalse before =>
    rw [last] at before
    have less : (initial.nth n).value < (initial.nth (n + 1)).value := by
      rw [Int32.lt_iff_toInt_lt]
      omega
    exact compareOfLessAndEq_eq_lt.mpr less

/-- An issuer goes through all values that are not reserved, in order, before it repeats one. The
    generation that a new issuer hands out after `n` others has the value `3 + n % (2 ^ 31 - 3)`;
    so it is neither reserved nor invalid, any `2 ^ 31 - 3` generations in a row differ from each
    other, and each comes before the next one except for the largest, which the first follows. -/
theorem issued_in_turn :
    (∀ count, (initial.issueMany count).1 = (List.range count).map initial.nth) ∧
      (∀ n, (initial.nth n).value.toInt = 3 + (n % (2 ^ 31 - 3) : Nat)) ∧
      (∀ n, (initial.nth n).isReserved = false ∧ (initial.nth n).isValid = true) ∧
      (∀ earlier, ((initial.issueMany earlier).2.issueMany (2 ^ 31 - 3)).1.Nodup) ∧
      ∀ n, if (initial.nth n).value = Int32.maxValue then initial.nth (n + 1) = firstUnreserved
        else compare (initial.nth n) (initial.nth (n + 1)) = .lt :=
  ⟨issueMany_fst, value_nth, unreserved_nth, nodup_issueMany, nth_lt_or_last⟩

end Issuer

end ClipGeneration

end RenderCore
