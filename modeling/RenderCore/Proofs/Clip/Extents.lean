import RenderCore.Proofs.Clip.Translation

/-!
# How large a rectangle is

The width and the height of a rectangle are differences of words. Edges can lie further apart than a
word can tell; then a debug build panics, and a release build wraps. The edges of a rectangle that
is built from a size never do. Where the far edge stops at an end of the 32-bit range, the extent is
what is left of the size, and that lies between nothing and the size.
-/

namespace RenderCore

/-! ## Words -/

/-- Some signed 32-bit word has this value. -/
def FitsInt32 (value : Int) : Prop := -2 ^ 31 ≤ value ∧ value < 2 ^ 31

theorem fitsInt32_iff {value : Int} : FitsInt32 value ↔ ∃ word : Int32, word.toInt = value := by
  constructor
  · rintro ⟨low, high⟩
    exact ⟨Int32.ofInt value, Int32.toInt_ofInt_of_le low high⟩
  · rintro ⟨word, rfl⟩
    exact ⟨word.le_toInt, word.toInt_lt⟩

theorem Shortens.fitsInt32 {part : Int} {whole : Int32} (shortens : Shortens part whole.toInt) :
    FitsInt32 part := by
  have := whole.le_toInt
  have := whole.toInt_lt
  unfold Shortens at shortens
  unfold FitsInt32
  omega

/-- A word that is the exact difference is what every build finds. -/
theorem Build.subInt32_of_exact {a b difference : Int32} (build : Build)
    (exact : difference.toInt = a.toInt - b.toInt) : build.subInt32 a b = .ok difference := by
  have unwrapped : a - b = difference := by
    rw [← Int32.toInt_inj, Int32.toInt_sub, ← exact, Int32.toInt_bmod_size]
  simp [subInt32, checked, unwrapped, exact]

/-! ## Lengths that stop at an end of the range -/

section

variable (start length : Int32)

/-- What is left of a length that is set off from `start` is no longer, and does not turn round. -/
theorem shortens_clampedAdd_sub :
    Shortens ((clampedAdd start length).toInt - start.toInt) length.toInt := by
  have := start.le_toInt
  have := start.toInt_lt
  rw [Shortens, toInt_clampedAdd]
  omega

/-- Nothing is lost of a length that ends within the range, and of no other. -/
theorem clampedAdd_sub_eq_iff :
    (clampedAdd start length).toInt - start.toInt = length.toInt ↔
      FitsInt32 (start.toInt + length.toInt) := by
  rw [FitsInt32, toInt_clampedAdd]
  omega

/-- Something is left of a positive length, unless it starts at the very end. -/
theorem lt_clampedAdd_iff :
    start < clampedAdd start length ↔ 0 < length ∧ start < Int32.maxValue := by
  have := start.le_toInt
  have := start.toInt_lt
  simp only [Int32.lt_iff_toInt_lt, toInt_clampedAdd, Int32.toInt_zero, Int32.toInt_maxValue]
  omega

/-- The extent between the ends of a length is a word, because what lies between nothing and a word
    is one. So every build tells it exactly. -/
theorem exists_extent : ∃ extent : Int32,
    (∀ build : Build, build.subInt32 (clampedAdd start length) start = .ok extent) ∧
      extent.toInt = (clampedAdd start length).toInt - start.toInt ∧
      Shortens extent.toInt length.toInt ∧
      (extent = length ↔ FitsInt32 (start.toInt + length.toInt)) := by
  have shortens := shortens_clampedAdd_sub start length
  obtain ⟨extent, exact⟩ := fitsInt32_iff.mp shortens.fitsInt32
  refine ⟨extent, fun build => build.subInt32_of_exact exact, exact, ?_, ?_⟩
  · rw [exact]
    exact shortens
  · rw [← Int32.toInt_inj, exact]
    exact clampedAdd_sub_eq_iff start length

end

namespace Rect

theorem isEmpty_ofSize_eq_false_iff {x y w h : Int32} :
    (ofSize x y w h).isEmpty = false ↔
      0 < w ∧ 0 < h ∧ x < Int32.maxValue ∧ y < Int32.maxValue := by
  rw [isEmpty_eq_false_iff, ← Int32.lt_iff_toInt_lt, ← Int32.lt_iff_toInt_lt, ofSize,
    lt_clampedAdd_iff, lt_clampedAdd_iff, and_and_and_comm, and_assoc]

/-- A rectangle that is built from a size has a width and a height that are the exact distances of
    its edges, in every build. Each lies between nothing and the size that was asked for, whichever
    sign that has, and is that size exactly if the far edge lies within the 32-bit range. The
    rectangle has pixels exactly if both sizes are positive and neither near edge lies at the end of
    the range. -/
theorem extents_of_size (x y w h : Int32) :
    (∃ width height : Int32,
        (∀ build, (ofSize x y w h).width build = .ok width ∧
            (ofSize x y w h).height build = .ok height) ∧
          (width.toInt = (ofSize x y w h).exactWidth ∧
            height.toInt = (ofSize x y w h).exactHeight) ∧
          (Shortens width.toInt w.toInt ∧ Shortens height.toInt h.toInt) ∧
          (width = w ↔ FitsInt32 (x.toInt + w.toInt)) ∧
          (height = h ↔ FitsInt32 (y.toInt + h.toInt))) ∧
      ((ofSize x y w h).isEmpty = false ↔
        0 < w ∧ 0 < h ∧ x < Int32.maxValue ∧ y < Int32.maxValue) := by
  obtain ⟨width, told_width, exact_width, narrower, whole_width⟩ := exists_extent x w
  obtain ⟨height, told_height, exact_height, lower, whole_height⟩ := exists_extent y h
  exact ⟨⟨width, height, fun build => ⟨told_width build, told_height build⟩,
    ⟨exact_width, exact_height⟩, ⟨narrower, lower⟩, whole_width, whole_height⟩,
    isEmpty_ofSize_eq_false_iff⟩

/-- At either end of the range, one pixel is left of ten; upwards it counts as a negative height. -/
example : (ofSize 2147483646 (-2147483647) 10 (-10)).width .debug = .ok 1 ∧
    (ofSize 2147483646 (-2147483647) 10 (-10)).height .debug = .ok (-1) :=
  ⟨rfl, rfl⟩

/-- Edges that are given one by one can lie too far apart. -/
example : (⟨-1, 0, 2147483647, 1⟩ : Rect).width .debug = .error (.overflow .subtract) ∧
    (⟨-1, 0, 2147483647, 1⟩ : Rect).width .release = .ok (-2147483648) :=
  ⟨rfl, rfl⟩

end Rect

end RenderCore
