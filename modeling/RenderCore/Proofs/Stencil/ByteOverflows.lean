import RenderCore.Proofs.Gpu.SoftwareStorage
import RenderCore.Proofs.Stencil.AccountedStates
import RenderCore.Proofs.Stencil.Losses

/-!
# Where byte counts overflow

The size of a shape is worked out in 64-bit words, product by product. In a debug build it comes to
the exact number of bytes, or to a panic where a product does not fit; so the total of a cache is the
exact sum of the sizes of its buffers, and a buffer is counted in exactly if its own size and the new
sum fit.
-/

namespace RenderCore

/-! ## Words -/

namespace Build

variable {a b : UInt64}

theorem mul64_of_fits (build : Build) (fits : a.toNat * b.toNat < 2 ^ 64) :
    build.mul64 a b = .ok (a * b) ∧ (a * b).toNat = a.toNat * b.toNat := by
  have exact : (a * b).toNat = a.toNat * b.toNat := by
    rw [UInt64.toNat_mul, Nat.mod_eq_of_lt fits]
  exact ⟨by simp [mul64, checked, exact], exact⟩

theorem mul64_debug_of_overflow (large : 2 ^ 64 ≤ a.toNat * b.toNat) :
    debug.mul64 a b = .error (.overflow .multiply) := by
  have inexact : ((a * b).toNat == a.toNat * b.toNat) = false := by
    have small := (a * b).toNat_lt
    rw [beq_eq_false_iff_ne]
    omega
  rw [mul64, checked, if_pos ⟨rfl, inexact⟩]

theorem add64_of_fits (build : Build) (fits : a.toNat + b.toNat < 2 ^ 64) :
    build.add64 a b = .ok (a + b) ∧ (a + b).toNat = a.toNat + b.toNat := by
  have exact : (a + b).toNat = a.toNat + b.toNat := by
    rw [UInt64.toNat_add, Nat.mod_eq_of_lt fits]
  exact ⟨by simp [add64, checked, exact], exact⟩

end Build

/-! ## Sizes -/

namespace StencilShape

variable {shape : StencilShape}

/-- Number of bits in one sample of each pixel. -/
def sampleBits (shape : StencilShape) : Nat :=
  shape.width.toNat * shape.height.toNat * shape.bits.toNat

/-- Number of bytes of storage, however large. -/
def exactBytes (shape : StencilShape) : Nat := shape.sampleBits / 8 * max shape.samples.toNat 1

/-- The products of the size fit into 64-bit words. -/
structure Countable (shape : StencilShape) : Prop where
  bits : shape.sampleBits < 2 ^ 64
  bytes : shape.exactBytes < 2 ^ 64

/-- The number of pixels always fits. -/
theorem checkedBytes_eq (shape : StencilShape) (build : Build) :
    let pixels := shape.width.toUInt64 * shape.height.toUInt64
    pixels.toNat * shape.bits.toUInt64.toNat = shape.sampleBits ∧
      shape.checkedBytes build = build.mul64 pixels shape.bits.toUInt64 >>= fun bits =>
        build.mul64 (bits / 8) (max shape.samples 1).toUInt64 := by
  have fits : shape.width.toUInt64.toNat * shape.height.toUInt64.toNat < 2 ^ 64 :=
    calc
      _ < 2 ^ 32 * 2 ^ 32 := Nat.mul_lt_mul'' shape.width.toNat_lt shape.height.toNat_lt
      _ = 2 ^ 64 := by decide
  obtain ⟨counted, value⟩ := build.mul64_of_fits fits
  intro pixels
  refine ⟨?_, ?_⟩
  · rw [value]
    rfl
  · rw [checkedBytes, counted]
    rfl

/-- Where the number of bits fits, the last product decides. -/
theorem checkedBytes_of_bits (build : Build) (fits : shape.sampleBits < 2 ^ 64) :
    let eighth := shape.width.toUInt64 * shape.height.toUInt64 * shape.bits.toUInt64 / 8
    eighth.toNat * (max shape.samples 1).toUInt64.toNat = shape.exactBytes ∧
      shape.checkedBytes build = build.mul64 eighth (max shape.samples 1).toUInt64 := by
  obtain ⟨pixels, checked⟩ := shape.checkedBytes_eq build
  rw [← pixels] at fits
  obtain ⟨counted, value⟩ := build.mul64_of_fits fits
  intro eighth
  refine ⟨?_, ?_⟩
  · rw [UInt64.toNat_div, value, pixels, UInt32.toNat_toUInt64, Software.toNat_max_one]
    rfl
  · rw [checked, counted]
    rfl

theorem Countable.checkedBytes (countable : shape.Countable) (build : Build) :
    shape.checkedBytes build = .ok shape.bytes ∧ shape.bytes.toNat = shape.exactBytes := by
  obtain ⟨size, checked⟩ := checkedBytes_of_bits build countable.bits
  have fits := countable.bytes
  rw [← size] at fits
  obtain ⟨counted, value⟩ := build.mul64_of_fits fits
  exact ⟨checked.trans counted, value.trans size⟩

/-- A debug build works the size out exactly if it can be counted. -/
theorem countable_of_checkedBytes {size : UInt64} (checked : shape.checkedBytes .debug = .ok size) :
    shape.Countable := by
  have bits : shape.sampleBits < 2 ^ 64 := by
    by_contra large
    obtain ⟨pixels, unfolded⟩ := shape.checkedBytes_eq .debug
    rw [← pixels] at large
    rw [unfolded, Build.mul64_debug_of_overflow (Nat.le_of_not_lt large)] at checked
    contradiction
  refine ⟨bits, ?_⟩
  by_contra large
  obtain ⟨bytes, unfolded⟩ := checkedBytes_of_bits .debug bits
  rw [← bytes] at large
  rw [unfolded, Build.mul64_debug_of_overflow (Nat.le_of_not_lt large)] at checked
  contradiction

end StencilShape

/-! ## Totals -/

namespace StencilCache

variable {cache : StencilCache} {buffer : StencilBuffer}

/-- Number of bytes in all buffers, however large. -/
def exactTotal (cache : StencilCache) : Nat :=
  (cache.buffers.map fun buffer => buffer.shape.exactBytes).sum

/-- The total of a debug build is exact. -/
theorem Accounted.totalBytes_exact (accounted : cache.Accounted .debug) :
    cache.totalBytes.toNat = cache.exactTotal := by
  have exact : ∀ buffer ∈ cache.buffers,
      buffer.shape.bytes.toNat = buffer.shape.exactBytes := by
    intro buffer member
    obtain ⟨key, found⟩ := mem_buffers.mp member
    have countable := StencilShape.countable_of_checkedBytes (accounted.sized key buffer found)
    exact (countable.checkedBytes .debug).2
  rw [accounted.total, heldBytes, exactTotal, List.map_congr_left exact]

/-- There is room in the total for a buffer of the shape, and its size can be counted. -/
structure Admits (cache : StencilCache) (shape : StencilShape) : Prop where
  countable : shape.Countable
  room : cache.exactTotal + shape.exactBytes < 2 ^ 64

theorem admits_tick {shape : StencilShape} : cache.tick.Admits shape ↔ cache.Admits shape :=
  ⟨fun admits => ⟨admits.countable, admits.room⟩, fun admits => ⟨admits.countable, admits.room⟩⟩

/-- A debug build counts a buffer in exactly if there is room for it. -/
theorem Accounted.totalWith_ok_iff (accounted : cache.Accounted .debug) :
    (∃ total, CacheSession.totalWith .debug cache buffer = .ok total) ↔
      cache.Admits buffer.shape := by
  constructor
  · rintro ⟨total, counted⟩
    obtain ⟨sized, -, room⟩ := totalWith_eq_ok counted
    have countable := StencilShape.countable_of_checkedBytes sized
    refine ⟨countable, ?_⟩
    rw [← accounted.totalBytes_exact, ← (countable.checkedBytes .debug).2]
    exact room rfl
  · rintro ⟨countable, room⟩
    obtain ⟨sized, value⟩ := countable.checkedBytes .debug
    rw [← accounted.totalBytes_exact, ← value] at room
    refine ⟨cache.totalBytes + buffer.shape.bytes, ?_⟩
    rw [CacheSession.totalWith, sized]
    exact (Build.debug.add64_of_fits room).1

end StencilCache

end RenderCore
