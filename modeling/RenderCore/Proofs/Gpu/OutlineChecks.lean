import Mathlib.Algebra.Group.Nat.Defs
import Mathlib.Algebra.Group.Int.Defs
import RenderCore.Gpu.Software

/-!
# What the check of an outline accepts

The scan of the brackets follows the balance of what it has read, and ends early where the balance
falls below zero. Texts that leave every depth as it is can be put before a main function without
being noticed, so that the verdict on a source depends on the body of its main function. The depth is
held in a signed 32-bit word, which is wide enough for any text with fewer characters than it has
values.
-/

namespace RenderCore

/-- Sum of two signed 32-bit words. -/
def Build.addInt32 (build : Build) (a b : Int32) : Except Panic Int32 :=
  build.checked .add ((a + b).toInt == a.toInt + b.toInt) (a + b)

namespace Outline

/-! ## Balance -/

/-- The brackets that open. -/
def opening : List Char := ['(', '[', '{']

/-- The brackets that close. -/
def closing : List Char := [')', ']', '}']

/-- How many more brackets a text opens than it closes. -/
def balance (text : List Char) : Int :=
  text.countP (· ∈ opening) - text.countP (· ∈ closing)

theorem nesting_eq (c : Char) :
    nesting c = (if c ∈ opening then 1 else 0) - (if c ∈ closing then 1 else 0) := by
  unfold nesting opening closing
  grind

@[simp] theorem balance_nil : balance [] = 0 := rfl

@[simp] theorem balance_cons (c : Char) (rest : List Char) :
    balance (c :: rest) = nesting c + balance rest := by
  unfold balance
  rw [nesting_eq, List.countP_cons, List.countP_cons]
  grind

/-- The scan gets through a text of which no part closes more brackets than are open. -/
theorem depthAfter_eq_some_iff {depth after : Int} {text : List Char} (start : 0 ≤ depth) :
    depthAfter depth text = some after ↔
      (∀ before, before <+: text → 0 ≤ depth + balance before) ∧ depth + balance text = after := by
  induction text generalizing depth with
  | nil => simp [depthAfter, start]
  | cons c rest ih =>
    rw [depthAfter]
    by_cases low : depth + nesting c < 0
    · rw [if_pos low]
      refine ⟨nofun, fun ⟨kept, _⟩ => ?_⟩
      have first := kept [c] ⟨rest, rfl⟩
      rw [balance_cons, balance_nil] at first
      omega
    · rw [if_neg low, ih (by omega), balance_cons]
      constructor
      · rintro ⟨kept, rfl⟩
        refine ⟨fun before within => ?_, by omega⟩
        rcases List.prefix_cons_iff.mp within with rfl | ⟨later, rfl, inside⟩
        · rw [balance_nil]
          omega
        · have := kept later inside
          rw [balance_cons]
          omega
      · rintro ⟨kept, rfl⟩
        refine ⟨fun before within => ?_, by omega⟩
        have := kept (c :: before) (List.cons_prefix_cons.mpr ⟨rfl, within⟩)
        rw [balance_cons] at this
        omega

theorem depthAfter_append (depth : Int) (first second : List Char) :
    depthAfter depth (first ++ second) =
      (depthAfter depth first).bind (depthAfter · second) := by
  induction first generalizing depth with
  | nil => rfl
  | cons c rest ih =>
    rw [List.cons_append, depthAfter, depthAfter, ih]
    split <;> rfl

/-! ## The depth in a word -/

/-- The depth after one more character. -/
def countBracket (build : Build) (depth : Int32) (c : Char) : Except Panic Int32 :=
  if c ∈ opening then build.addInt32 depth 1
  else if c ∈ closing then build.subInt32 depth 1
  else .ok depth

/-- The scan with the depth in a signed 32-bit word, which a debug build does not let overflow. -/
def wordDepthAfter (build : Build) (depth : Int32) : List Char → Except Panic (Option Int32)
  | [] => .ok (some depth)
  | c :: rest => do
    let depth ← countBracket build depth c
    if depth < 0 then return none
    wordDepthAfter build depth rest

/-- The check with the depth in a word. -/
def wordCheck (build : Build) (source : String) : Except Panic (Except String Unit) :=
  if !("#version ".toList.isPrefixOf source.toList) then .ok (.error "0:1: missing #version")
  else if !Text.containsPhrase source "void main() \x7b" then .ok (.error "0:0: no main function")
  else do
    match ← wordDepthAfter build 0 source.toList with
    | none => return .error "syntax error: unexpected closing bracket"
    | some depth =>
      return if depth = 0 then .ok () else .error "syntax error: unbalanced brackets"

theorem countBracket_eq (build : Build) {depth : Int32} (c : Char) (low : 0 ≤ depth.toInt)
    (high : depth.toInt + 1 < 2 ^ 31) :
    ∃ next, countBracket build depth c = .ok next ∧ next.toInt = depth.toInt + nesting c := by
  have one : (1 : Int32).toInt = 1 := rfl
  have up : (depth + 1).toInt = depth.toInt + 1 := by
    rw [Int32.toInt_add, one, Int.bmod_eq_of_le] <;> omega
  have down : (depth - 1).toInt = depth.toInt - 1 := by
    rw [Int32.toInt_sub, one, Int.bmod_eq_of_le] <;> omega
  unfold countBracket
  rw [nesting_eq]
  by_cases opens : c ∈ opening
  · have closes : c ∉ closing := by
      revert c
      simp [opening, closing]
    exact ⟨depth + 1, by simp [opens, Build.addInt32, Build.checked, up, one],
      by simp [opens, closes, up]⟩
  · by_cases closes : c ∈ closing
    · exact ⟨depth - 1, by simp [opens, closes, Build.subInt32, Build.checked, down, one],
        by simp [opens, closes, down, Int.sub_eq_add_neg]⟩
    · exact ⟨depth, by simp [opens, closes], by simp [opens, closes]⟩

/-- No text of fewer characters than there are depths can overflow the word. -/
theorem wordDepthAfter_eq (build : Build) {depth : Int32} {text : List Char}
    (low : 0 ≤ depth.toInt) (high : depth.toInt + text.length < 2 ^ 31) :
    (wordDepthAfter build depth text).map (Option.map Int32.toInt) =
      .ok (depthAfter depth.toInt text) := by
  induction text generalizing depth with
  | nil => rfl
  | cons c rest ih =>
    rw [List.length_cons] at high
    obtain ⟨next, counted, value⟩ := countBracket_eq build c low (by omega)
    have step : nesting c ≤ 1 := by
      rw [nesting_eq]
      grind
    have sign : next < 0 ↔ depth.toInt + nesting c < 0 := by
      rw [Int32.lt_iff_toInt_lt, value]
      rfl
    rw [wordDepthAfter, counted, depthAfter, ← value]
    change (if next < 0 then _ else _ : Except Panic (Option Int32)).map _ = _
    by_cases below : next < 0
    · rw [if_pos below, if_pos (by rw [value]; exact sign.mp below)]
      rfl
    · have above : ¬ next.toInt < 0 := by
        rw [value]
        exact fun negative => below (sign.mpr negative)
      rw [if_neg below, if_neg above]
      exact ih (by omega) (by omega)

theorem wordCheck_eq (build : Build) {source : String} (short : source.length < 2 ^ 31) :
    wordCheck build source = .ok (check source) := by
  have zero : (0 : Int32).toInt = 0 := rfl
  have scan : (wordDepthAfter build 0 source.toList).map (Option.map Int32.toInt) =
      .ok (depthAfter 0 source.toList) := by
    have room : (0 : Int32).toInt + source.toList.length < 2 ^ 31 := by
      rw [String.length_toList]
      omega
    exact wordDepthAfter_eq build (Int.le_of_eq zero.symm) room
  unfold wordCheck check
  split
  · rfl
  split
  · rfl
  cases ended : wordDepthAfter build 0 source.toList with
  | error panic =>
    rw [ended] at scan
    cases scan
  | ok depth =>
    rw [ended] at scan
    rw [← Except.ok.inj scan]
    cases depth with
    | none => rfl
    | some depth =>
      have same : depth = 0 ↔ depth.toInt = 0 := Int32.toInt_inj.symm
      change Except.ok (if depth = 0 then _ else _) = Except.ok (if depth.toInt = 0 then _ else _)
      simp only [same]

/-! ## Around a main function -/

/-- The text has no brackets. -/
def Bracketless (text : String) : Prop := ∀ c ∈ opening ++ closing, c ∉ text.toList

instance (text : String) : Decidable (Bracketless text) :=
  List.decidableBAll (· ∉ text.toList) (opening ++ closing)

/-- The text leaves every depth as it is. -/
def Level (text : String) : Prop := ∀ depth, 0 ≤ depth → depthAfter depth text.toList = some depth

theorem Level.append {first second : String} (one : Level first) (two : Level second) :
    Level (first ++ second) := by
  intro depth start
  rw [String.toList_append, depthAfter_append, one depth start]
  exact two depth start

theorem level_join {texts : List String} (level : ∀ text ∈ texts, Level text) :
    Level (String.join texts) := by
  induction texts with
  | nil => exact fun _ _ => rfl
  | cons text rest ih =>
    rw [String.join_cons]
    exact (level text List.mem_cons_self).append
      (ih fun other member => level other (List.mem_cons_of_mem text member))

/-- A text that opens nothing and closes nothing is level. -/
theorem Bracketless.level {text : String} (free : Bracketless text) : Level text := by
  have flat : ∀ c ∈ text.toList, nesting c = 0 := by
    intro c member
    have opens : c ∉ opening := fun listed => free c (List.mem_append_left _ listed) member
    have closes : c ∉ closing := fun listed => free c (List.mem_append_right _ listed) member
    rw [nesting_eq, if_neg opens, if_neg closes]
    rfl
  intro depth start
  generalize text.toList = characters at flat
  induction characters with
  | nil => rfl
  | cons c rest ih =>
    rw [depthAfter, flat c List.mem_cons_self, Int.add_zero, if_neg (by omega)]
    exact ih fun other member => flat other (List.mem_cons_of_mem c member)

/-- A text between a bracket and its partner. -/
theorem Level.bracketed {text : String} (level : Level text) : Level ("[" ++ text ++ "]") := by
  intro depth start
  have opened : depthAfter depth ['['] = some (depth + 1) := by
    rw [depthAfter, show nesting '[' = 1 from rfl, if_neg (by omega), depthAfter]
  have closed : depthAfter (depth + 1) [']'] = some depth := by
    rw [depthAfter, show nesting ']' = -1 from rfl, if_neg (by omega), depthAfter]
    congr 1
    omega
  rw [String.toList_append, String.toList_append, depthAfter_append, depthAfter_append]
  change ((depthAfter depth ['[']).bind _).bind (depthAfter · [']']) = some depth
  rw [opened, Option.bind_some, level (depth + 1) (by omega), Option.bind_some, closed]

/-- Statements between the brackets of a main function: no part of them closes two brackets more
    than it opens, and the whole closes as many as it opens. They may close the bracket of the
    function as long as they open another one in its place. -/
structure Closed (body : String) : Prop where
  parts : ∀ before, before <+: body.toList → -1 ≤ balance before
  whole : balance body.toList = 0

/-- The depth that the body leaves is the one it has found. -/
theorem closed_iff (body : String) : Closed body ↔ depthAfter 1 body.toList = some 1 := by
  rw [depthAfter_eq_some_iff (by decide)]
  constructor
  · rintro ⟨parts, whole⟩
    refine ⟨fun before within => ?_, by omega⟩
    have := parts before within
    omega
  · rintro ⟨parts, whole⟩
    refine ⟨fun before within => ?_, by omega⟩
    have := parts before within
    omega

/-- The source of a main function after a header. -/
def mainSource (header body : String) : String :=
  header ++ "void main() \x7b" ++ body ++ "\x7d\n"

theorem depthAfter_mainSource {header : String} (level : Level header) (body : String) :
    depthAfter 0 (mainSource header body).toList =
      (depthAfter 1 body.toList).bind fun depth =>
        if depth - 1 < 0 then none else some (depth - 1) := by
  have tail (depth : Int) : depthAfter depth "\x7d\n".toList =
      if depth - 1 < 0 then none else some (depth - 1) := by
    change depthAfter depth ['\x7d', '\n'] = _
    rw [depthAfter, show nesting '\x7d' = -1 from rfl, ← Int.sub_eq_add_neg]
    split
    · rfl
    · next above =>
      rw [depthAfter, show nesting '\n' = 0 from rfl, Int.add_zero, if_neg above, depthAfter]
  have start : depthAfter 0 "void main() \x7b".toList = some 1 := by decide
  simp only [mainSource, String.toList_append, depthAfter_append, level 0 (by decide), start,
    Option.bind_some, tail]

/-- The verdict on a main function after a header that leaves the depth as it is. -/
theorem check_mainSource {header : String} (version : "#version ".toList <+: header.toList)
    (level : Level header) (body : String) :
    check (mainSource header body) =
      match depthAfter 1 body.toList with
      | none => .error "syntax error: unexpected closing bracket"
      | some depth =>
        if depth < 1 then .error "syntax error: unexpected closing bracket"
        else if depth = 1 then .ok () else .error "syntax error: unbalanced brackets" := by
  have opens : "#version ".toList.isPrefixOf (mainSource header body).toList := by
    rw [List.isPrefixOf_iff_prefix, mainSource, String.append_assoc, String.append_assoc,
      String.toList_append]
    exact version.trans (List.prefix_append _ _)
  have main : Text.containsPhrase (mainSource header body) "void main() \x7b" := by
    rw [Text.containsPhrase, Text.occursIn_iff]
    exact ⟨header.toList, (body ++ "\x7d\n").toList, by simp [mainSource]⟩
  rw [check, opens, main, depthAfter_mainSource level]
  cases depthAfter 1 body.toList with
  | none => rfl
  | some depth =>
    have below : depth - 1 < 0 ↔ depth < 1 := by omega
    have closed : depth - 1 = 0 ↔ depth = 1 := by omega
    simp only [Bool.not_true, Bool.false_eq_true, if_false, Option.bind_some, below]
    by_cases lower : depth < 1
    · rw [if_pos lower, if_pos lower]
    · simp only [if_neg lower, closed]

/-- The check accepts a main function exactly if its brackets close; otherwise it finds fault with
    the brackets. -/
theorem check_main {header : String} (version : "#version ".toList <+: header.toList)
    (level : Level header) (body : String) :
    (check (mainSource header body) = .ok () ∧ Closed body) ∨
      ∃ log ∈ ["syntax error: unexpected closing bracket", "syntax error: unbalanced brackets"],
        check (mainSource header body) = .error log ∧ ¬ Closed body := by
  rw [check_mainSource version level, closed_iff]
  cases depthAfter 1 body.toList with
  | none => exact .inr ⟨_, List.mem_cons_self, rfl, nofun⟩
  | some depth =>
    dsimp only
    by_cases same : depth = 1
    · subst same
      exact .inl ⟨rfl, rfl⟩
    · have unclosed : ¬ (some depth = some 1) := fun equal => same (Option.some.inj equal)
      by_cases lower : depth < 1
      · exact .inr ⟨_, List.mem_cons_self, if_pos lower, unclosed⟩
      · refine .inr ⟨_, List.mem_cons_of_mem _ List.mem_cons_self, ?_, unclosed⟩
        rw [if_neg lower, if_neg same]

end Outline

end RenderCore
