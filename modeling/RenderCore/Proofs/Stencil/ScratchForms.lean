import RenderCore.Proofs.Stencil.CacheCoherence

/-!
# Scratch keys tell forms apart

The form of a stencil buffer is what render targets that share it must agree on: width, height and
number of samples. Two shapes have the same scratch key exactly if they have the same form, whether
their lengths are packed into one word or not.
-/

namespace RenderCore

/-- Whether two shapes have the same form. The bits of a sample do not matter. -/
def StencilShape.SameForm (shape other : StencilShape) : Prop :=
  shape.width = other.width ∧ shape.height = other.height ∧ shape.samples = other.samples

theorem StencilShape.SameForm.symm {shape other : StencilShape} (same : shape.SameForm other) :
    other.SameForm shape :=
  ⟨same.1.symm, same.2.1.symm, same.2.2.symm⟩

theorem StencilShape.SameForm.trans {shape other third : StencilShape}
    (first : shape.SameForm other) (second : other.SameForm third) : shape.SameForm third :=
  ⟨first.1.trans second.1, first.2.1.trans second.2.1, first.2.2.trans second.2.2⟩

namespace ScratchKey

theorem fitsHalf_iff {length : UInt32} : fitsHalf length = true ↔ length.toNat < 65536 := by
  rw [fitsHalf, decide_eq_true_eq, UInt32.le_iff_toNat_le]
  exact Nat.lt_succ_iff.symm

/-- Two lengths that fit into half a word do not overlap in a word. -/
theorem toNat_packed {width height : UInt32} (narrow : fitsHalf width = true)
    (low : fitsHalf height = true) :
    (width ||| (height <<< 16)).toNat = height.toNat * 65536 + width.toNat := by
  rw [fitsHalf_iff] at narrow low
  have shifted : (height <<< 16).toNat = height.toNat <<< 16 := by
    rw [UInt32.toNat_shiftLeft, show (16 : UInt32).toNat % 32 = 16 from rfl]
    simp only [Nat.shiftLeft_eq]
    omega
  have apart : width.toNat < 2 ^ 16 := narrow
  rw [UInt32.toNat_or, shifted, Nat.or_comm, ← Nat.shiftLeft_add_eq_or_of_lt apart,
    Nat.shiftLeft_eq]

/-- The words of a stencil buffer tell its form. -/
theorem stencilWords_inj {width height samples width' height' samples' : UInt32} :
    stencilWords width height samples = stencilWords width' height' samples' ↔
      width = width' ∧ height = height' ∧ samples = samples' := by
  constructor
  · intro same
    unfold stencilWords at same
    split at same <;> split at same
    · next fits fits' =>
      rw [Bool.and_eq_true] at fits fits'
      simp only [List.cons.injEq, and_true] at same
      have packed := congrArg UInt32.toNat same.1
      rw [toNat_packed fits.1 fits.2, toNat_packed fits'.1 fits'.2] at packed
      have narrow := fitsHalf_iff.mp fits.1
      have narrow' := fitsHalf_iff.mp fits'.1
      exact ⟨UInt32.toNat_inj.mp (by omega), UInt32.toNat_inj.mp (by omega), same.2⟩
    · simp at same
    · simp at same
    · simpa using same
  · rintro ⟨rfl, rfl, rfl⟩
    rfl

end ScratchKey

/-- Shapes have the same scratch key exactly if they have the same form. -/
theorem StencilShape.scratchKey_inj {shape other : StencilShape} :
    shape.scratchKey = other.scratchKey ↔ shape.SameForm other := by
  rw [SameForm, ← ScratchKey.stencilWords_inj]
  constructor
  · intro same
    exact congrArg ScratchKey.words same
  · intro same
    exact congrArg (ScratchKey.ofWords .stencil) same

/-- A scratch key stands for a cached buffer of its form. -/
theorem StencilBuffer.Keyed.scratchKey_iff {buffer : StencilBuffer} (keyed : buffer.Keyed)
    {shape : StencilShape} : buffer.header.scratchKey = some shape.scratchKey ↔
      buffer.header.lifeCycle = .cached ∧ buffer.shape.SameForm shape := by
  rw [Keyed] at keyed
  rw [keyed, ← StencilShape.scratchKey_inj]
  split <;> simp [*]

end RenderCore
