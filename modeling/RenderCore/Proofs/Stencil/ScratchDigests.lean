import RenderCore.Proofs.Stencil.Progress
import RenderCore.Proofs.Stencil.ScratchForms

/-!
# Scratch keys and their digests

A comparison of scratch keys looks at the digests first. Whatever function the digest is, it never
decides wrongly: keys of one type and the same words agree, and keys that agree have the same type
and the same words. The keys of stencil buffers therefore agree exactly if the buffers have the same
form, and agree with no key of another type of resource.
-/

namespace RenderCore.ScratchKey

/-- The key of a type and words, with the digest that a function gives them. -/
def digestedBy (digest : ResourceType → List UInt32 → UInt32) (type : ResourceType)
    (words : List UInt32) : ScratchKey :=
  { digest := digest type words, type, words }

/-- The comparison of keys, which ends at digests that differ. -/
def agrees (key other : ScratchKey) : Bool :=
  key.digest == other.digest && key.type == other.type && key.words == other.words

theorem ofWords_eq_digestedBy : ofWords = digestedBy digestOf := rfl

theorem agrees_iff {key other : ScratchKey} : key.agrees other = true ↔
    key.digest = other.digest ∧ key.type = other.type ∧ key.words = other.words := by
  simp [agrees, and_assoc]

/-- Keys that agree are equal. -/
theorem agrees_eq_decide (key other : ScratchKey) : key.agrees other = decide (key = other) := by
  rw [Bool.eq_iff_iff, agrees_iff, decide_eq_true_iff]
  cases key
  cases other
  simp

variable {digest : ResourceType → List UInt32 → UInt32} {type type' : ResourceType}
  {words words' : List UInt32}

/-- The digest decides nothing that type and words do not decide. -/
theorem agrees_digestedBy : (digestedBy digest type words).agrees (digestedBy digest type' words') ↔
    type = type' ∧ words = words' := by
  rw [agrees_iff]
  constructor
  · rintro ⟨-, same⟩
    exact same
  · rintro ⟨rfl, rfl⟩
    exact ⟨rfl, rfl, rfl⟩

theorem ends_forStencil_form (width height samples : UInt32) (journal : Journal) :
    (forStencil .release width height samples).Ends journal
      (fun key _ => key = ofStencil width height samples) (fun _ _ => False)
      fun _ => ¬ journal.Reliable := by
  have ends := ends_forStencil ⟨width, height, 0, samples⟩ journal
  have calm := ends.unfit (steady_forStencil width height samples)
  exact calm.cut fun _ cut => cut.2

/-- The keys that a release build computes for two stencil buffers agree exactly if width, height
    and samples are the same, however large they are, and so they would with the digests of any
    other function. Keys of types and words agree exactly if both are the same, whatever function
    gives the digests; none of another type agrees with the key of a stencil buffer. Keys that agree
    are equal and have the same digest. -/
theorem stencil_keys_tell_forms :
    (∀ (width height samples width' height' samples' : UInt32) (journal journal' : Journal),
      (forStencil .release width height samples).Ends journal
        (fun key _ => (forStencil .release width' height' samples').Ends journal'
          (fun key' _ => (key.agrees key' ↔
            width = width' ∧ height = height' ∧ samples = samples') ∧
            ∀ digest, (digestedBy digest key.type key.words).agrees
              (digestedBy digest key'.type key'.words) ↔
              width = width' ∧ height = height' ∧ samples = samples')
          (fun _ _ => False) fun _ => ¬ journal'.Reliable)
        (fun _ _ => False) fun _ => ¬ journal.Reliable) ∧
    (∀ (digest : ResourceType → List UInt32 → UInt32) (type type' : ResourceType)
      (words words' : List UInt32),
      (digestedBy digest type words).agrees (digestedBy digest type' words') ↔
        type = type' ∧ words = words') ∧
    (∀ (width height samples : UInt32) (digest : ResourceType → List UInt32 → UInt32)
      (type : ResourceType) (words : List UInt32), type ≠ .stencil →
      ¬ (ofStencil width height samples).agrees (digestedBy digest type words)) ∧
    (∀ key other : ScratchKey, key.agrees other → key = other ∧ key.digest = other.digest) := by
  refine ⟨fun width height samples width' height' samples' journal journal' => ?_,
    fun digest type type' words words' => agrees_digestedBy,
    fun width height samples digest type words apart same => ?_, fun key other same => ?_⟩
  · refine (ends_forStencil_form width height samples journal).ok fun key _ own => ?_
    refine (ends_forStencil_form width' height' samples' journal').ok fun key' _ own' => ?_
    have told (digest : ResourceType → List UInt32 → UInt32) :
        (digestedBy digest .stencil (stencilWords width height samples)).agrees
          (digestedBy digest .stencil (stencilWords width' height' samples')) ↔
            width = width' ∧ height = height' ∧ samples = samples' := by
      rw [agrees_digestedBy, stencilWords_inj]
      exact and_iff_right rfl
    rw [own, own', ofStencil, ofStencil, ofWords_eq_digestedBy]
    exact ⟨told digestOf, told⟩
  · rw [agrees_iff] at same
    exact apart same.2.1.symm
  · rw [agrees_eq_decide, decide_eq_true_iff] at same
    exact ⟨same, congrArg ScratchKey.digest same⟩

/-- A width that would spill over into the height has a key of its own, and so has another type of
    resource with the same words. -/
theorem stencil_keys_of_spilling_width :
    ¬ (ofStencil 65537 1 4).agrees (ofStencil 1 1 4) ∧ ofStencil 1 1 4 = ofWords ⟨1⟩ [65537, 4] ∧
      ¬ (ofStencil 1 1 4).agrees (ofWords ⟨2⟩ [65537, 4]) := by
  obtain ⟨-, identify, apart, equal⟩ := stencil_keys_tell_forms
  refine ⟨fun same => ?_, ?_, apart 1 1 4 digestOf ⟨2⟩ [65537, 4] (by decide)⟩
  · have words := (identify digestOf .stencil .stencil (stencilWords 65537 1 4)
      (stencilWords 1 1 4)).mp same
    exact absurd words (by decide)
  · exact (equal (ofStencil 1 1 4) (ofWords ⟨1⟩ [65537, 4]) (by decide)).1

end RenderCore.ScratchKey
