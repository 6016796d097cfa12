import RenderCore.Clip.Record

/-!
# What rectangles cover

A rectangle stands for the pixels it covers, and containment compares edges. For rectangles that
have pixels the two agree; a rectangle without pixels is contained in none, although it covers no
pixel that another one misses. So a clip need not be rendered again exactly if the buffer holds the
same one at the same place, for every pixel that is wanted.
-/

namespace RenderCore

namespace Rect

/-- The pixel at `(x, y)` belongs to the rectangle. -/
def Covers (r : Rect) (x y : Int) : Prop :=
  r.left.toInt ≤ x ∧ x < r.right.toInt ∧ r.top.toInt ≤ y ∧ y < r.bottom.toInt

/-- Whether every pixel of a rectangle, which has at least one, belongs to another one. -/
def Fills (inner outer : Rect) : Prop :=
  (∃ x y, inner.Covers x y) ∧ ∀ x y, inner.Covers x y → outer.Covers x y

theorem isEmpty_eq_false_iff {r : Rect} :
    r.isEmpty = false ↔ r.left.toInt < r.right.toInt ∧ r.top.toInt < r.bottom.toInt := by
  simp only [isEmpty, Bool.or_eq_false_iff, decide_eq_false_iff_not, Int32.le_iff_toInt_le,
    Int.not_le]

theorem exists_covers_iff {r : Rect} : (∃ x y, r.Covers x y) ↔ r.isEmpty = false := by
  rw [isEmpty_eq_false_iff]
  constructor
  · rintro ⟨x, y, left, right, top, bottom⟩
    exact ⟨by omega, by omega⟩
  · rintro ⟨wide, high⟩
    exact ⟨r.left.toInt, r.top.toInt, Int.le_refl _, wide, Int.le_refl _, high⟩

theorem contains_eq_true_iff {outer inner : Rect} :
    outer.contains inner = true ↔
      inner.isEmpty = false ∧ outer.isEmpty = false ∧
        outer.left.toInt ≤ inner.left.toInt ∧ outer.top.toInt ≤ inner.top.toInt ∧
        inner.right.toInt ≤ outer.right.toInt ∧ inner.bottom.toInt ≤ outer.bottom.toInt := by
  simp only [contains, Bool.and_eq_true, Bool.not_eq_true', decide_eq_true_eq,
    Int32.le_iff_toInt_le, and_assoc]

/-- Containment is inclusion of pixels, of a rectangle that has some. -/
theorem contains_iff_fills {outer inner : Rect} :
    outer.contains inner = true ↔ inner.Fills outer := by
  rw [Fills, exists_covers_iff, contains_eq_true_iff]
  constructor
  · rintro ⟨some_pixel, -, left, top, right, bottom⟩
    refine ⟨some_pixel, fun x y covered => ?_⟩
    obtain ⟨left', right', top', bottom'⟩ := covered
    exact ⟨by omega, by omega, by omega, by omega⟩
  · rintro ⟨some_pixel, covered⟩
    obtain ⟨wide, high⟩ := isEmpty_eq_false_iff.mp some_pixel
    -- Inclusion is decided by the two opposite corners.
    obtain ⟨left, -, top, -⟩ := covered inner.left.toInt inner.top.toInt
      ⟨Int.le_refl _, wide, Int.le_refl _, high⟩
    obtain ⟨-, right, -, bottom⟩ := covered (inner.right.toInt - 1) (inner.bottom.toInt - 1)
      ⟨by omega, by omega, by omega, by omega⟩
    exact ⟨some_pixel, isEmpty_eq_false_iff.mpr ⟨by omega, by omega⟩, left, top, by omega,
      by omega⟩

end Rect

namespace ClipRecord

/-- A clip need not be rendered exactly if the same generation is held at the same displacement and
    over every pixel that is wanted. -/
theorem mustRender_eq_false_iff {held wanted : ClipRecord} :
    held.mustRender wanted = false ↔
      held.generation = wanted.generation ∧ held.offset = wanted.offset ∧
        wanted.rect.Fills held.rect := by
  simp only [mustRender, Bool.or_eq_false_iff, decide_eq_false_iff_not, Decidable.not_not,
    Bool.not_eq_false', Rect.contains_iff_fills, and_assoc]

/-- A blank record has no pixel, so that it serves no clip, not even one of its own generation. -/
theorem mustRender_blank (wanted : ClipRecord) : blank.mustRender wanted = true := by
  rw [← Bool.not_eq_false, mustRender_eq_false_iff]
  rintro ⟨-, -, ⟨x, y, pixel⟩, covered⟩
  obtain ⟨left, right, -, -⟩ := covered x y pixel
  exact absurd (Int.lt_of_le_of_lt left right) (Int.lt_irrefl 0)

/-- A record serves a clip if it is there, of the same generation and at the same displacement, and
    covers the pixels. -/
theorem mustRender_getD_eq_false_iff {record : Option ClipRecord} {wanted : ClipRecord} :
    (record.getD .blank).mustRender wanted = false ↔
      ∃ clip, record = some clip ∧ clip.generation = wanted.generation ∧
        clip.offset = wanted.offset ∧ wanted.rect.Fills clip.rect := by
  cases record with
  | none => simp [mustRender_blank]
  | some held => simp [mustRender_eq_false_iff]

end ClipRecord

end RenderCore
