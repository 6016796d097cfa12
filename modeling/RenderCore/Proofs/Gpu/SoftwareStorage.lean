import Mathlib.Data.UInt
import Std.Data.TreeMap.Lemmas
import RenderCore.Gpu.Software
import RenderCore.Proofs.Effect.Endings
import RenderCore.Stencil.Buffer

/-!
# Storage of the software backend

What an allocation does to the software backend in a release build, and what its count of bytes
comes to. The backend counts in 32-bit words where buffers count in 64-bit words; the two agree on
shapes whose products fit into 32 bits.
-/

namespace RenderCore

/-- The product of width, height and bits and the bytes of all samples fit into 32-bit words. -/
def StencilShape.FitsWord (shape : StencilShape) : Prop :=
  shape.width.toNat * shape.height.toNat * shape.bits.toNat < 2 ^ 32 ∧
    shape.width.toNat * shape.height.toNat * shape.bits.toNat / 8 * max shape.samples.toNat 1 <
      2 ^ 32

namespace Software

/-- Bytes of storage for a shape, counted in 32-bit words that wrap around. -/
def wordBytes (shape : StencilShape) : UInt64 :=
  (shape.width * shape.height * shape.bits / 8 * max shape.samples 1).toUInt64

@[simp] theorem storageBytes_release (shape : StencilShape) :
    storageBytes .release shape = .ok (wordBytes shape) := by
  simp only [storageBytes, Build.mul32_release]
  rfl

theorem stencilBytes_release (gpu : Software) :
    gpu.stencilBytes .release = .ok (gpu.stencils.values.map wordBytes).sum := by
  have folded : ∀ (shapes : List StencilShape) (start : UInt64),
      (shapes.foldlM (fun total shape => do return total + (← storageBytes .release shape)) start :
        Except Panic UInt64) = .ok (start + (shapes.map wordBytes).sum) := by
    intro shapes
    induction shapes with
    | nil =>
      intro start
      rw [List.map_nil, List.sum_nil, UInt64.add_zero]
      rfl
    | cons shape rest ih =>
      intro start
      rw [List.foldlM_cons, storageBytes_release, List.map_cons, List.sum_cons, ← UInt64.add_assoc]
      exact ih (start + wordBytes shape)
  rw [stencilBytes, folded, UInt64.zero_add]

/-- The backend with storage for one more buffer, under the next name. -/
def withStencil (gpu : Software) (shape : StencilShape) : Software :=
  { gpu with
    lastId := gpu.lastId + 1
    stencils := gpu.stencils.insert (gpu.lastId + 1) shape
    allocations := gpu.allocations + 1 }

/-- An allocation takes the next name, or is refused and leaves the backend as it is. -/
theorem ends_createStencil (shape : StencilShape) (gpu : Software) :
    (Backend.createStencil .release shape : Act Software StencilId).Ends gpu
      (fun storage left => storage = ⟨gpu.lastId + 1⟩ ∧ left = gpu.withStencil shape)
      (fun _ left => left = gpu) (fun _ => False) := by
  simp only [Backend.createStencil, storageBytes_release, stencilBytes_release, Act.lift_ok,
    pure_bind]
  apply Act.ends_get_bind
  cases gpu.stencilLimit with
  | none => exact ⟨rfl, rfl⟩
  | some limit =>
    dsimp only
    split
    · rfl
    · exact ⟨rfl, rfl⟩

theorem getElem?_insert {object : Type} (objects : Std.TreeMap UInt32 object) (id other : UInt32)
    (new : object) :
    (objects.insert id new)[other]? = if other = id then some new else objects[other]? := by
  rw [Std.TreeMap.getElem?_insert]
  simp only [Std.LawfulEqCmp.compare_eq_iff_eq, @eq_comm _ id]

theorem getElem?_erase (stencils : Std.TreeMap UInt32 StencilShape) (id other : UInt32) :
    (stencils.erase id)[other]? = if other = id then none else stencils[other]? := by
  rw [Std.TreeMap.getElem?_erase]
  simp only [Std.LawfulEqCmp.compare_eq_iff_eq, @eq_comm _ id]

theorem values_eq (stencils : Std.TreeMap UInt32 StencilShape) :
    stencils.values = stencils.toList.map (·.2) := by
  have folded : stencils.values = stencils.foldr (fun _ shape rest => shape :: rest) [] := rfl
  rw [folded, Std.TreeMap.foldr_eq_foldr_toList]
  induction stencils.toList with
  | nil => rfl
  | cons item rest ih => rw [List.foldr_cons, ih, List.map_cons]

theorem toNat_max_one (samples : UInt32) : (max samples 1).toNat = max samples.toNat 1 := by
  show (if samples ≤ 1 then 1 else samples).toNat = max samples.toNat 1
  by_cases small : samples ≤ 1
  · rw [if_pos small]
    exact (Nat.max_eq_right (UInt32.le_iff_toNat_le.mp small)).symm
  · rw [if_neg small, eq_comm]
    apply Nat.max_eq_left
    exact Nat.le_of_not_le fun less => small (UInt32.le_iff_toNat_le.mpr less)

theorem wordBytes_of_fits {shape : StencilShape} (fits : shape.FitsWord) :
    wordBytes shape = shape.bytes := by
  obtain ⟨product, total⟩ := fits
  have samples := toNat_max_one shape.samples
  have word : (shape.width * shape.height * shape.bits).toNat =
      shape.width.toNat * shape.height.toNat * shape.bits.toNat := by
    rw [UInt32.toNat_mul, UInt32.toNat_mul, Nat.mod_mul_mod, Nat.mod_eq_of_lt product]
  have long : (shape.width.toUInt64 * shape.height.toUInt64 * shape.bits.toUInt64).toNat =
      shape.width.toNat * shape.height.toNat * shape.bits.toNat := by
    rw [UInt64.toNat_mul, UInt64.toNat_mul, Nat.mod_mul_mod]
    exact Nat.mod_eq_of_lt (Nat.lt_trans product (by decide))
  have wide : (max shape.samples 1).toUInt64.toNat = max shape.samples.toNat 1 := by
    rw [UInt32.toNat_toUInt64, samples]
  rw [← UInt64.toNat_inj, wordBytes, StencilShape.bytes, UInt32.toNat_toUInt64, UInt32.toNat_mul,
    UInt32.toNat_div, word, samples, UInt64.toNat_mul, UInt64.toNat_div, long, wide]
  change _ / 8 * _ % 2 ^ 32 = _ / 8 * _ % 2 ^ 64
  rw [Nat.mod_eq_of_lt total, Nat.mod_eq_of_lt (Nat.lt_trans total (by decide))]

end Software

end RenderCore
