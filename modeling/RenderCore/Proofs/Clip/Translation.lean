import Mathlib.Algebra.Group.Int.Defs
import RenderCore.Proofs.Clip.Coverage

/-!
# What moving a rectangle keeps

The edges of a moved rectangle stop at the ends of the 32-bit range, so a rectangle that is moved
against an end gets smaller there and may vanish. Two rectangles that are moved together keep their
order on every edge; the inner one of them stays inside, unless nothing of it is left.
-/

namespace RenderCore

/-- A sum that leaves the range of a word stops at its end. -/
theorem toInt_clampedAdd (a b : Int32) :
    (clampedAdd a b).toInt = max (-2 ^ 31) (min (a.toInt + b.toInt) (2 ^ 31 - 1)) := by
  have low : Int32.minValue.toInt = -2 ^ 31 := rfl
  have high : Int32.maxValue.toInt = 2 ^ 31 - 1 := rfl
  unfold clampedAdd Int32.ofIntClamp
  split
  case isFalse below => omega
  case isTrue above =>
    split
    case isTrue inside => rw [Int32.toInt_ofIntLE]; omega
    case isFalse beyond => omega

/-- One length lies between nothing and another one, whichever sign that has. -/
def Shortens (part whole : Int) : Prop := min 0 whole ≤ part ∧ part ≤ max 0 whole

/-- Two edges that are moved together do not part and do not pass each other. -/
theorem shortens_clampedAdd (first last delta : Int32) :
    Shortens ((clampedAdd last delta).toInt - (clampedAdd first delta).toInt)
      (last.toInt - first.toInt) := by
  have := first.le_toInt
  have := first.toInt_lt
  have := last.le_toInt
  have := last.toInt_lt
  rw [Shortens, toInt_clampedAdd, toInt_clampedAdd]
  omega

theorem clampedAdd_mono {a b : Int32} (le : a.toInt ≤ b.toInt) (delta : Int32) :
    (clampedAdd a delta).toInt ≤ (clampedAdd b delta).toInt := by
  rw [toInt_clampedAdd, toInt_clampedAdd]
  omega

namespace Rect

/-- Distance from the left to the right edge, however far apart they are: negative for a rectangle
    whose edges are swapped. -/
def exactWidth (r : Rect) : Int := r.right.toInt - r.left.toInt

/-- Distance from the top to the bottom edge, however far apart they are. -/
def exactHeight (r : Rect) : Int := r.bottom.toInt - r.top.toInt

theorem isEmpty_eq_false_iff_exact {r : Rect} :
    r.isEmpty = false ↔ 0 < r.exactWidth ∧ 0 < r.exactHeight := by
  rw [isEmpty_eq_false_iff, exactWidth, exactHeight, Int.sub_pos, Int.sub_pos]

/-- A moved rectangle is no larger than it was, in no direction, and its edges do not swap. -/
theorem exact_translate (r : Rect) (delta : Offset) :
    Shortens (r.translate delta).exactWidth r.exactWidth ∧
      Shortens (r.translate delta).exactHeight r.exactHeight :=
  ⟨shortens_clampedAdd _ _ _, shortens_clampedAdd _ _ _⟩

/-- What is left of the inner rectangle lies within the outer one. -/
theorem contains_translate {outer inner : Rect} (within : outer.contains inner = true)
    {delta : Offset} (left_over : (inner.translate delta).isEmpty = false) :
    (outer.translate delta).contains (inner.translate delta) = true := by
  obtain ⟨-, -, left, top, right, bottom⟩ := contains_eq_true_iff.mp within
  have left' := clampedAdd_mono left delta.x
  have top' := clampedAdd_mono top delta.y
  have right' := clampedAdd_mono right delta.x
  have bottom' := clampedAdd_mono bottom delta.y
  obtain ⟨wide, high⟩ := isEmpty_eq_false_iff.mp left_over
  refine contains_eq_true_iff.mpr ⟨left_over, isEmpty_eq_false_iff.mpr ⟨?_, ?_⟩, left', top',
    right', bottom'⟩
  · exact Int.lt_of_le_of_lt left' (Int.lt_of_lt_of_le wide right')
  · exact Int.lt_of_le_of_lt top' (Int.lt_of_lt_of_le high bottom')

/-- A rectangle lies within another one if it has a pixel and all its pixels belong to the other
    one. Moved together, the two keep that relation, unless nothing is left of the inner one, and
    the inner one does not grow. Nor does any other rectangle; one whose edges are swapped, and
    which lies within none, has negative extents, and these come closer to zero. -/
theorem containment_of_pixels (outer inner : Rect) :
    (outer.contains inner = true ↔
        (∃ x y, inner.Covers x y) ∧ ∀ x y, inner.Covers x y → outer.Covers x y) ∧
      ∀ delta,
        (outer.contains inner = true →
          ((inner.translate delta).isEmpty = true ∨
              (outer.translate delta).contains (inner.translate delta) = true) ∧
            (inner.translate delta).exactWidth ≤ inner.exactWidth ∧
            (inner.translate delta).exactHeight ≤ inner.exactHeight) ∧
          Shortens (inner.translate delta).exactWidth inner.exactWidth ∧
          Shortens (inner.translate delta).exactHeight inner.exactHeight := by
  refine ⟨contains_iff_fills, fun delta => ?_⟩
  have shorter := exact_translate inner delta
  refine ⟨fun within => ⟨?_, ?_⟩, shorter⟩
  · cases left_over : (inner.translate delta).isEmpty
    case true => exact .inl rfl
    case false => exact .inr (contains_translate within left_over)
  · -- An inner rectangle has pixels, so its extents are positive and only shrink.
    obtain ⟨wide, high⟩ := isEmpty_eq_false_iff_exact.mp (contains_eq_true_iff.mp within).1
    obtain ⟨⟨-, narrower⟩, -, lower⟩ := shorter
    exact ⟨by omega, by omega⟩

/-- A square within a larger one, moved so far that the right edges of both stop at the same
    place, still lies within the larger one. -/
theorem containment_at_the_end :
    (⟨0, 0, 10, 10⟩ : Rect).contains ⟨2, 2, 8, 8⟩ = true ∧
      ((⟨2, 2, 8, 8⟩ : Rect).translate ⟨2147483642, 0⟩).isEmpty = false ∧
      ((⟨0, 0, 10, 10⟩ : Rect).translate ⟨2147483642, 0⟩).contains
        ((⟨2, 2, 8, 8⟩ : Rect).translate ⟨2147483642, 0⟩) = true := by
  have within : (⟨0, 0, 10, 10⟩ : Rect).contains ⟨2, 2, 8, 8⟩ = true := by decide
  have left_over : ((⟨2, 2, 8, 8⟩ : Rect).translate ⟨2147483642, 0⟩).isEmpty = false := by decide
  obtain ⟨⟨empty | moved, -⟩, -⟩ := (containment_of_pixels _ _).2 ⟨2147483642, 0⟩ |>.imp_left
    fun kept => kept within
  · rw [left_over] at empty
    cases empty
  · exact ⟨within, left_over, moved⟩

end Rect

end RenderCore
