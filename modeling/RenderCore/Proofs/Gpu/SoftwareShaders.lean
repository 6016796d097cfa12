import RenderCore.Proofs.Effect.Twins
import RenderCore.Proofs.Gpu.SoftwareStorage

/-!
# Shaders of the software backend

A shader is attached to one program, under a new name, or nothing becomes of the programs. Whether
it is attached depends on its source and on whether the program exists, and not on what else the
backend keeps.
-/

namespace RenderCore

variable {δ : Type}

/-- Backends that are `kin` answer requests to attach shaders and to bind attributes alike, up to the
    names of the shaders, and are kin afterwards. -/
structure Backend.Respects [Backend δ] (kin : δ → δ → Prop) : Prop where
  attach : ∀ target stage source,
    (discard (Backend.attachShader target stage source : Act δ ShaderId)).Twins
      (discard (Backend.attachShader target stage source)) kin
  bind : ∀ target slot name,
    (Backend.bindAttribute target slot name : Act δ Unit).Twins
      (Backend.bindAttribute target slot name) kin

namespace Software

/-- The fault of a request for a program that does not exist. -/
def noProgram (target : ProgramId) : Fault :=
  .invalidResource ("no program " ++ toString target.val.toNat)

theorem changeProgram_outcome (target : ProgramId) (change : ProgramObject → ProgramObject)
    (gpu : Software) :
    (changeProgram target change).outcome gpu =
      match gpu.programs[target.val]? with
      | some found =>
        (.ok (), { gpu with programs := gpu.programs.insert target.val (change found) })
      | none => (.error (.fault (noProgram target)), gpu) := by
  unfold changeProgram
  rw [Act.outcome_get_bind]
  cases gpu.programs[target.val]? <;> rfl

/-- The program with one more shader. -/
def withShader (found : ProgramObject) (shader : AttachedShader) : ProgramObject :=
  { found with shaders := found.shaders ++ [shader] }

theorem attachShader_outcome (target : ProgramId) (stage : ShaderStage) (source : String)
    (gpu : Software) :
    (Backend.attachShader target stage source).outcome gpu =
      match Outline.check source with
      | .error log => (.error (.fault (.compilation log)), gpu)
      | .ok () =>
        match gpu.programs[target.val]? with
        | some found =>
          (.ok ⟨gpu.lastId + 1⟩, { gpu with
            lastId := gpu.lastId + 1
            programs := gpu.programs.insert target.val
              (withShader found ⟨⟨gpu.lastId + 1⟩, stage, source⟩) })
        | none => (.error (.fault (noProgram target)), { gpu with lastId := gpu.lastId + 1 }) := by
  have attached := changeProgram_outcome target
    (withShader · ⟨⟨gpu.lastId + 1⟩, stage, source⟩) { gpu with lastId := gpu.lastId + 1 }
  unfold Backend.attachShader instBackend
  dsimp only
  cases Outline.check source with
  | error log => rfl
  | ok checked =>
    change (changeProgram target (withShader · ⟨⟨gpu.lastId + 1⟩, stage, source⟩) >>= fun _ =>
      pure (⟨gpu.lastId + 1⟩ : ShaderId)).outcome { gpu with lastId := gpu.lastId + 1 } = _
    dsimp only at attached ⊢
    cases present : gpu.programs[target.val]? with
    | none =>
      rw [present] at attached
      exact Act.outcome_bind_of_error attached
    | some found =>
      rw [present] at attached
      exact Act.outcome_bind_of_ok attached

/-- The same programs exist. -/
def SamePrograms (gpu other : Software) : Prop :=
  ∀ id : UInt32, gpu.programs[id]?.isSome = other.programs[id]?.isSome

theorem SamePrograms.insert {gpu other : Software} (same : gpu.SamePrograms other) (id : UInt32)
    (found found' : ProgramObject) (last last' : UInt32) :
    SamePrograms { gpu with lastId := last, programs := gpu.programs.insert id found }
      { other with lastId := last', programs := other.programs.insert id found' } := by
  intro name
  rw [getElem?_insert, getElem?_insert]
  split
  · rfl
  · exact same name

/-- A program is found in both backends or in none. -/
theorem SamePrograms.cases {gpu other : Software} (same : gpu.SamePrograms other) (id : UInt32) :
    (∃ found found', gpu.programs[id]? = some found ∧ other.programs[id]? = some found') ∨
      gpu.programs[id]? = none ∧ other.programs[id]? = none := by
  have both := same id
  cases here : gpu.programs[id]? with
  | none =>
    rw [here] at both
    exact .inr ⟨rfl, Option.isNone_iff_eq_none.mp (by rw [← Option.not_isSome, ← both]; rfl)⟩
  | some found =>
    rw [here] at both
    obtain ⟨found', there⟩ := Option.isSome_iff_exists.mp both.symm
    exact .inl ⟨found, found', rfl, there⟩

/-- Whether a request is answered depends on the programs that exist. -/
theorem respects : Backend.Respects SamePrograms where
  attach target stage source := by
    intro gpu other same
    rw [Act.outcome_discard, Act.outcome_discard, attachShader_outcome, attachShader_outcome]
    cases Outline.check source with
    | error log => exact .inl ⟨rfl, same⟩
    | ok checked =>
      rcases same.cases target.val with ⟨found, found', here, there⟩ | ⟨here, there⟩
      · rw [here, there]
        exact .inl ⟨rfl, same.insert _ _ _ _ _⟩
      · rw [here, there]
        exact .inl ⟨rfl, same⟩
  bind target slot name := by
    intro gpu other same
    change EndAlike _ ((changeProgram target _).outcome gpu) ((changeProgram target _).outcome other)
    rw [changeProgram_outcome, changeProgram_outcome]
    rcases same.cases target.val with ⟨found, found', here, there⟩ | ⟨here, there⟩
    · rw [here, there]
      exact .inl ⟨rfl, same.insert _ _ _ _ _⟩
    · rw [here, there]
      exact .inl ⟨rfl, same⟩

/-- A shader that is not attached leaves the programs as they are. -/
theorem programs_of_rejected {target : ProgramId} {stage : ShaderStage} {source : String}
    {gpu left : Software} {stop : Stop}
    (rejected : (Backend.attachShader target stage source).outcome gpu = (.error stop, left)) :
    left.programs = gpu.programs := by
  rw [attachShader_outcome] at rejected
  split at rejected
  · obtain ⟨-, rfl⟩ := Prod.mk.inj rejected
    rfl
  · split at rejected
    · cases rejected
    · obtain ⟨-, rfl⟩ := Prod.mk.inj rejected
      rfl

/-- A shader that is attached is attached to its program, after the others, and to no other. -/
theorem programs_of_attached {target : ProgramId} {stage : ShaderStage} {source : String}
    {gpu left : Software} {shader : ShaderId}
    (attached : (Backend.attachShader target stage source).outcome gpu = (.ok shader, left)) :
    ∃ found, gpu.programs[target.val]? = some found ∧ ∀ id : UInt32, left.programs[id]? =
      if id = target.val then some (withShader found ⟨shader, stage, source⟩)
      else gpu.programs[id]? := by
  rw [attachShader_outcome] at attached
  split at attached
  · cases attached
  · split at attached
    · next found present =>
      obtain ⟨named, rfl⟩ := Prod.mk.inj attached
      obtain rfl := Except.ok.inj named
      exact ⟨found, present, fun id => getElem?_insert gpu.programs target.val id _⟩
    · cases attached

end Software

end RenderCore
