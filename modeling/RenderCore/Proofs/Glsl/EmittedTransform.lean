import Mathlib.Algebra.Group.Nat.Defs
import RenderCore.Proofs.Glsl.Workshops

/-!
# The transform of a position and its uniform

A stage emits the transform of a position at most once. The request that emits it registers the
uniform of the adjustment; every other request for a transform leaves the program as it is. Uniforms
are never removed, so the handle that the stage keeps goes on standing for that uniform, and the
source of the stage goes on declaring it. The emitted text, whichever type the position has,
computes the point from the components of the position and of the adjustment, and sets the size of
points.
-/

namespace RenderCore

variable {δ : Type}

/-! ## The text of a transform -/

/-- What a transform reads, in its order: components of the position and, for either coordinate, the
    scale and the offset that the adjustment gives. -/
def PositionType.operands (position adjustment : String) : PositionType → List String
  | .planar => [position ++ ".x", adjustment ++ ".x", adjustment ++ ".y",
      position ++ ".y", adjustment ++ ".z", adjustment ++ ".w"]
  | .homogeneous => [position ++ ".xz", adjustment ++ ".xy", position ++ ".z",
      position ++ ".yz", adjustment ++ ".zw", position ++ ".z"]

/-- The words of the coordinates that a transform computes. -/
def PositionType.words (position adjustment : String) : PositionType → List String
  | .planar => [position ++ ".x", " * ", adjustment ++ ".x", " + ", adjustment ++ ".y", ", ",
      position ++ ".y", " * ", adjustment ++ ".z", " + ", adjustment ++ ".w"]
  | .homogeneous => ["dot(", position ++ ".xz", ", ", adjustment ++ ".xy", ")/", position ++ ".z",
      ", dot(", position ++ ".yz", ", ", adjustment ++ ".zw", ")/", position ++ ".z"]

theorem PositionType.operands_subset_words (type : PositionType) (position adjustment : String) :
    type.operands position adjustment ⊆ type.words position adjustment := by
  cases type <;> simp [operands, words]

theorem transformCode_words (type : PositionType) (position adjustment : String) :
    transformCode type position adjustment = "gl_Position = vec4(" ++
      String.join (type.words position adjustment) ++ ", 0, 1);gl_PointSize = 1.0;" := by
  -- The two sides break their texts at different places, so they are compared by character.
  refine String.toList_injective ?_
  unfold transformCode PositionType.words
  cases type <;>
    simp only [String.join_cons, String.join_nil, String.toList_append, List.append_assoc,
      String.reduceToList, List.cons_append, List.nil_append]

/-- A transform of either type assigns a point that is written with all the operands, and then sets
    the size of points. -/
theorem transformCode_operands (type : PositionType) (position adjustment : String) :
    ∃ point, transformCode type position adjustment =
        "gl_Position = vec4(" ++ point ++ ", 0, 1);gl_PointSize = 1.0;" ∧
      ∀ operand ∈ type.operands position adjustment, ∃ before after,
        point = before ++ operand ++ after := by
  refine ⟨_, transformCode_words type position adjustment, fun operand listed => ?_⟩
  obtain ⟨before, after, words⟩ :=
    List.append_of_mem (type.operands_subset_words position adjustment listed)
  refine ⟨String.join before, String.join after, ?_⟩
  rw [words, String.join_append, String.join_cons, String.append_assoc]

example : transformCode .homogeneous "p" "rt" =
    "gl_Position = vec4(dot(p.xz, rt.xy)/p.z, dot(p.yz, rt.zw)/p.z, 0, 1);gl_PointSize = 1.0;" := by
  decide +kernel

/-! ## Uniforms stay -/

theorem ProgramBuilder.Serves.uniforms_prefix {program program' : ProgramBuilder}
    {name : Option String} (serves : program.Serves name program') :
    program.uniforms <+: program'.uniforms := by
  cases serves with
  | uniform visibility type precision base => exact List.prefix_append _ _
  | _ => exact List.prefix_refl _

/-- The uniform of an adjustment with the given name. -/
def Uniform.adjustment (name : String) : Uniform where
  declared := .uniform name .vec4
  visibility := .vertex

theorem ProgramBuilder.uniforms_afterAdjustment (program : ProgramBuilder) :
    program.afterAdjustment.uniforms =
      program.uniforms ++ [.adjustment program.newAdjustment.name] := rfl

/-- A handle stands for the uniform at its place, as long as places fit into words. -/
theorem ProgramBuilder.uniform?_of_uniforms {program : ProgramBuilder} {before after : List Uniform}
    {uniform : Uniform} (uniforms : program.uniforms = before ++ uniform :: after)
    (few : program.uniforms.length < 2 ^ 32) :
    program.uniform? ⟨before.length.toUInt32⟩ = some uniform := by
  have place : before.length.toUInt32.toNat = before.length := by
    rw [uniforms, List.length_append, List.length_cons] at few
    exact UInt32.toNat_ofNat_of_lt' (show before.length < 2 ^ 32 by omega)
  unfold uniform?
  rw [place, uniforms, List.getElem?_append_right (Nat.le_refl _), Nat.sub_self]
  rfl

/-! ## Stages that emit nothing -/

namespace VertexStage

/-- What becomes of a stage that is edited without emitting a transform. -/
structure Continues (stage later : VertexStage) : Prop where
  adjustmentName : later.adjustmentName = stage.adjustmentName
  adjustmentHandle : later.adjustmentHandle = stage.adjustmentHandle
  code : ∃ text, later.code = stage.code ++ text

variable {stage later last : VertexStage}

theorem Continues.refl (stage : VertexStage) : stage.Continues stage where
  adjustmentName := rfl
  adjustmentHandle := rfl
  code := ⟨"", String.append_empty.symm⟩

theorem Continues.trans (first : stage.Continues later) (second : later.Continues last) :
    stage.Continues last where
  adjustmentName := second.adjustmentName.trans first.adjustmentName
  adjustmentHandle := second.adjustmentHandle.trans first.adjustmentHandle
  code := by
    obtain ⟨text, code⟩ := first.code
    obtain ⟨text', code'⟩ := second.code
    exact ⟨text ++ text', by rw [code', code, String.append_assoc]⟩

@[simp] theorem begun_code (stage : VertexStage) : stage.begun.code = stage.code := by
  unfold begun
  split <;> rfl

theorem continues_appendCode (stage : VertexStage) (text : String) :
    stage.Continues (stage.appendCode text) where
  adjustmentName := stage.begun_adjustmentName
  adjustmentHandle := stage.begun_adjustmentHandle
  code := ⟨text, rfl⟩

theorem continues_addInput (stage : VertexStage) (input : Variable) :
    stage.Continues (stage.addInput input).2 where
  adjustmentName := stage.begun_adjustmentName
  adjustmentHandle := stage.begun_adjustmentHandle
  code := ⟨"", stage.begun_code.trans String.append_empty.symm⟩

theorem continues_addInputs (stage : VertexStage) (inputs : List Variable) :
    stage.Continues (stage.addInputs inputs) := by
  induction inputs generalizing stage with
  | nil => exact .refl stage
  | cons input rest ih => exact (stage.continues_addInput input).trans (ih _)

theorem continues_addOutput (stage : VertexStage) (name : String) (type : DataType) :
    stage.Continues (stage.addOutput name type) where
  adjustmentName := stage.begun_adjustmentName
  adjustmentHandle := stage.begun_adjustmentHandle
  code := ⟨"", stage.begun_code.trans String.append_empty.symm⟩

theorem continues_accept (stage : VertexStage) {edit : VertexStage → VertexStage}
    (continues : stage.Continues (edit stage)) : stage.Continues (stage.accept edit) := by
  unfold accept
  split
  · exact .refl stage
  · exact continues

theorem kind_of_transformOf? {position : Variable} {type : PositionType}
    (fit : stage.transformOf? position = some type) :
    PositionType.ofDataType? position.type = some type := by
  unfold transformOf? at fit
  split at fit
  · contradiction
  · exact fit

end VertexStage

/-- A call emits a transform, or changes neither what its stage says of the adjustment nor, if it
    asks for a transform, anything at all. -/
theorem StageCall.Effect.emits_or_continues {call : StageCall} {program program' : ProgramBuilder}
    {stage stage' : VertexStage} {name : Option String}
    (effect : call.Effect program stage name program' stage') :
    (∃ position type, call = .edit (.emitTransform position) ∧
      stage.transformOf? position = some type ∧ program' = program.afterAdjustment ∧
      stage' = stage.addTransform type position.name program.newAdjustment) ∨
    (stage.Continues stage' ∧ ∀ position, call = .edit (.emitTransform position) →
      program' = program ∧ stage' = stage) := by
  cases effect with
  | nothing => exact .inr ⟨.refl stage, fun _ _ => ⟨rfl, rfl⟩⟩
  | code text editable => exact .inr ⟨stage.continues_appendCode text, fun _ asked => nomatch asked⟩
  | input input editable =>
    exact .inr ⟨stage.continues_addInput input, fun _ asked => nomatch asked⟩
  | layout done part editable =>
    exact .inr ⟨stage.continues_addInputs _, fun _ asked => nomatch asked⟩
  | output base type =>
    exact .inr ⟨stage.continues_accept (stage.continues_addOutput _ type),
      fun _ asked => nomatch asked⟩
  | @transform _ _ position type fit => exact .inl ⟨position, type, rfl, fit, rfl, rfl⟩
  | compiled target editable =>
    exact .inr ⟨⟨rfl, rfl, "", String.append_empty.symm⟩, fun _ asked => nomatch asked⟩

/-- A request emits a transform into a stage, or it lets the stage go on without; and if it asks the
    stage for a transform then, it leaves the program and all stages as they are. -/
theorem Request.Effect.emits_or_continues {request : Request} {w v : Workshop δ}
    {name : Option String} (effect : request.Effect w name v) (number : Nat) :
    (∃ position type, request = .stage number (.edit (.emitTransform position)) ∧
      (w.stages number).transformOf? position = some type ∧
      v.program = w.program.afterAdjustment ∧
      v.stages number =
        (w.stages number).addTransform type position.name w.program.newAdjustment) ∨
    ((w.stages number).Continues (v.stages number) ∧
      ∀ position, request = .stage number (.edit (.emitTransform position)) →
        v.program = w.program ∧ v.stages = w.stages) := by
  cases effect with
  | @stage _ called call _ program stage shaders session effect =>
    by_cases same : number = called
    · subst same
      have updated : Function.update w.stages number stage number = stage := Function.update_self ..
      obtain ⟨position, type, rfl, fit, rfl, rfl⟩ | ⟨continues, idle⟩ := effect.emits_or_continues
      · exact .inl ⟨position, type, rfl, fit, rfl, updated⟩
      · refine .inr ⟨?_, fun position asked => ?_⟩
        · show (w.stages number).Continues (Function.update w.stages number stage number)
          exact updated.symm ▸ continues
        · cases asked
          obtain ⟨rfl, rfl⟩ := idle position rfl
          exact ⟨rfl, Function.update_eq_self ..⟩
    · refine .inr ⟨?_, fun position asked => ?_⟩
      · show (w.stages number).Continues (Function.update w.stages called stage number)
        rw [Function.update_of_ne same]
        exact .refl _
      · cases asked
        exact absurd rfl same
  | _ => exact .inr ⟨.refl _, fun _ asked => nomatch asked⟩

namespace Workshop

/-! ## Steps -/

/-- The step emits the transform of a position into a stage. -/
structure Step.Emits (number : Nat) (position : Variable) (type : PositionType)
    (step : Step δ) : Prop where
  request : step.request = .stage number (.edit (.emitTransform position))
  fit : (step.before.stages number).transformOf? position = some type
  program : step.after.program = step.before.program.afterAdjustment
  stage : step.after.stages number = (step.before.stages number).addTransform type position.name
    step.before.program.newAdjustment

/-- If the step asks a stage for a transform, it leaves the program and all stages as they are. -/
def Step.EmitsNone (number : Nat) (step : Step δ) : Prop :=
  ∀ position, step.request = .stage number (.edit (.emitTransform position)) →
    step.after.program = step.before.program ∧ step.after.stages = step.before.stages

variable [Backend δ] {build : Build} {start w v : Workshop δ} {step : Step δ}
  {steps : List (Step δ)}

/-- A step emits a transform into a stage, or it lets the stage go on without. -/
theorem Step.Taken.emits_or_continues (taken : step.Taken build) (number : Nat) :
    (∃ position type, step.Emits number position type) ∨
      (step.before.stages number).Continues (step.after.stages number) ∧ step.EmitsNone number := by
  obtain ⟨name, effect, -⟩ := taken.effect
  obtain ⟨position, type, request, fit, program, stage⟩ | left := effect.emits_or_continues number
  · exact .inl ⟨position, type, request, fit, program, stage⟩
  · exact .inr left

omit [Backend δ] in
/-- What a stage holds once the transform was emitted. -/
theorem Step.Emits.holds {number : Nat} {position : Variable} {type : PositionType}
    (emits : step.Emits number position type) :
    (step.after.stages number).adjustmentName = some step.before.program.newAdjustment.name ∧
      (step.after.stages number).adjustmentHandle =
        some step.before.program.newAdjustment.handle ∧
      (step.after.stages number).code = (step.before.stages number).code ++
        transformCode type position.name step.before.program.newAdjustment.name := by
  rw [emits.stage]
  exact ⟨rfl, rfl, rfl⟩

/-! ## Runs -/

theorem Run.uniforms_prefix (run : Run build start steps w) :
    start.program.uniforms <+: w.program.uniforms := by
  induction run with
  | nil => exact List.prefix_refl _
  | cons run taken ih =>
    obtain ⟨name, effect, -⟩ := taken.effect
    exact ih.trans effect.serves.uniforms_prefix
  | elsewhere shaders session run ih => exact ih

/-- The uniform that a transform has registered stays at its place. -/
theorem Step.Emits.registered {number : Nat} {position : Variable} {type : PositionType}
    (emits : step.Emits number position type) (rest : Run build step.after steps w) :
    ∃ after, w.program.uniforms = step.before.program.uniforms ++
      .adjustment step.before.program.newAdjustment.name :: after := by
  obtain ⟨after, uniforms⟩ := rest.uniforms_prefix
  rw [emits.program, ProgramBuilder.uniforms_afterAdjustment, List.append_assoc] at uniforms
  exact ⟨after, uniforms.symm⟩

/-- What follows a run goes on from where it began. -/
theorem Run.trans {more : List (Step δ)} (run : Run build start steps w)
    (later : Run build w more v) : Run build start (more ++ steps) v := by
  induction later with
  | nil => exact run
  | cons later taken ih => exact .cons ih taken
  | elsewhere shaders session later ih => exact .elsewhere shaders session ih

/-- Once a stage holds an adjustment, no further transform is emitted. -/
theorem Run.continues {number : Nat} (run : Run build start steps w)
    (emitted : (start.stages number).adjustmentName.isSome = true) :
    (start.stages number).Continues (w.stages number) ∧ ∀ step ∈ steps, step.EmitsNone number := by
  induction run with
  | nil => exact ⟨.refl _, List.forall_mem_nil _⟩
  | @cons step steps run taken ih =>
    obtain ⟨continues, none⟩ := ih
    obtain ⟨position, type, emits⟩ | ⟨more, idle⟩ := taken.emits_or_continues number
    · -- A stage that takes a transform holds no adjustment, but this one has kept its own.
      have unadjusted := VertexStage.unadjusted_of_transformOf? emits.fit
      rw [continues.adjustmentName] at unadjusted
      rw [unadjusted] at emitted
      contradiction
    · exact ⟨continues.trans more, List.forall_mem_cons.mpr ⟨idle, none⟩⟩
  | elsewhere shaders session run ih => exact ih

/-- Up to its end a run has emitted no transform into a stage, or one of its steps has emitted the
    first. -/
theorem Run.emission (run : Run build start steps w) (number : Nat) :
    ((start.stages number).Continues (w.stages number) ∧ ∀ step ∈ steps, step.EmitsNone number) ∨
      ∃ later step earlier position type, steps = later ++ step :: earlier ∧
        step.Emits number position type ∧ (∀ step ∈ earlier, step.EmitsNone number) ∧
        Run build step.after later w := by
  -- The list begins with the last step, so a step is added after all that was found so far.
  induction run with
  | nil => exact .inl ⟨.refl _, List.forall_mem_nil _⟩
  | @cons step steps run taken ih =>
    obtain ⟨continues, none⟩ | ⟨later, first, earlier, position, type, rfl, emits, none, rest⟩ := ih
    · obtain ⟨position, type, emits⟩ | ⟨more, idle⟩ := taken.emits_or_continues number
      · exact .inr ⟨[], step, steps, position, type, rfl, emits, none, .nil⟩
      · exact .inl ⟨continues.trans more, List.forall_mem_cons.mpr ⟨idle, none⟩⟩
    · exact .inr ⟨step :: later, first, earlier, position, type, rfl, emits, none, .cons rest taken⟩
  | elsewhere shaders session run ih =>
    obtain left | ⟨later, first, earlier, position, type, rfl, emits, none, rest⟩ := ih
    · exact .inl left
    · exact .inr ⟨later, first, earlier, position, type, rfl, emits, none,
        .elsewhere shaders session rest⟩

end Workshop

/-! ## Sources -/

/-- Precisions do not show in the declaration of a uniform that has none. -/
theorem Variable.declaration_uniform (name : String) (type : DataType) (dialect : Dialect) :
    (Variable.uniform name type).declaration dialect = "uniform " ++ type.word ++ " " ++ name := by
  have precision : (Variable.uniform name type).precisionWords dialect = "" := ite_self _
  have storage : (Variable.uniform name type).storageWords dialect = "uniform " := rfl
  have suffix : arraySuffix (Variable.uniform name type).arrayCount = "" := rfl
  unfold declaration
  rw [precision, storage, suffix, String.append_empty, String.append_empty]
  rfl

theorem Declarations.text_append (dialect : Dialect) (block other : List Variable) :
    text dialect ⟨block ++ other⟩ = text dialect ⟨block⟩ ++ text dialect ⟨other⟩ := by
  simp only [text, List.map_append, String.join_append]

/-- A stage declares the uniform of an adjustment among the others that it sees. -/
theorem VertexStage.source_of_adjustment (stage : VertexStage) {program : ProgramBuilder}
    {name : String} {before after : List Uniform}
    (uniforms : program.uniforms = before ++ .adjustment name :: after) :
    ∃ above below : Declarations,
      (program.visibleUniforms .vertex).members =
        above.members ++ .uniform name .vec4 :: below.members ∧
      ∀ dialect, stage.source program dialect =
        dialect.versionLine ++ above.text dialect ++ ("uniform vec4 " ++ name ++ ";\n")
          ++ below.text dialect ++ stage.inputs.text dialect ++ stage.outputs.text dialect
          ++ "void main() \x7b" ++ stage.code ++ "\x7d\n" := by
  let seen (block : List Uniform) : List Variable :=
    (block.filter (·.visibility.meets .vertex)).map (·.declared)
  have members : (program.visibleUniforms .vertex).members =
      seen before ++ .uniform name .vec4 :: seen after := by
    show seen program.uniforms = _
    rw [uniforms]
    have visible : (Uniform.adjustment name).visibility.meets .vertex = true :=
      show Visibility.vertex.meets .vertex = true by decide
    simp only [seen, List.filter_append, List.map_append, List.filter_cons, visible, if_true,
      List.map_cons]
    rfl
  refine ⟨⟨seen before⟩, ⟨seen after⟩, members, fun dialect => ?_⟩
  have text : StageHost.uniformText program .vertex dialect =
      Declarations.text dialect ⟨seen before ++ ([.uniform name .vec4] ++ seen after)⟩ :=
    congrArg (fun members => Declarations.text dialect ⟨members⟩) members
  have line : Declarations.text dialect ⟨[.uniform name .vec4]⟩ =
      "uniform vec4 " ++ name ++ ";\n" := by
    unfold Declarations.text
    rw [List.map_singleton, Variable.declaration_uniform]
    simp [String.append_assoc, DataType.word]
  rw [source, text, Declarations.text_append, Declarations.text_append, line]
  simp only [String.append_assoc]

/-! ## The adjustment of a stage -/

namespace Workshop

variable [Backend δ] {build : Build} {start w : Workshop δ} {steps : List (Step δ)} {number : Nat}

/-- The uniform of the adjustment. Whatever was asked of a program and its stages, with fewer than
    2^32 uniforms: if a stage holds the name and the handle of an adjustment, then the handle stands
    for a uniform vector of that name, with no precision of its own, that the vertex stage sees; one
    request has added the statements of a transform to its code, which read the position and every
    component of the uniform by that name and set the size of points, and no other request for a
    transform changed anything; and from then on its source declares the uniform in every dialect,
    between the version and the inputs. If the stage holds no adjustment, then no request for a
    transform changed anything. -/
theorem adjustment_declared (run : Run build start steps w) (new : start.stages number = {})
    (few : w.program.uniforms.length < 2 ^ 32) :
    (∀ name handle, (w.stages number).adjustmentName = some name →
      (w.stages number).adjustmentHandle = some handle →
      w.program.uniform? handle = some { declared := .uniform name .vec4, visibility := .vertex } ∧
      (∃ later step earlier position type rest, steps = later ++ step :: earlier ∧
        step.request = .stage number (.edit (.emitTransform position)) ∧
        PositionType.ofDataType? position.type = some type ∧
        (step.after.stages number).code =
          (step.before.stages number).code ++ transformCode type position.name name ∧
        (∃ point, transformCode type position.name name =
            "gl_Position = vec4(" ++ point ++ ", 0, 1);gl_PointSize = 1.0;" ∧
          ∀ operand ∈ type.operands position.name name, ∃ before after,
            point = before ++ operand ++ after) ∧
        (w.stages number).code = (step.after.stages number).code ++ rest ∧
        ∀ other ∈ later ++ earlier, other.EmitsNone number) ∧
      ∀ more v, Run build w more v → ∃ above below : Declarations,
        (v.program.visibleUniforms .vertex).members =
          above.members ++ .uniform name .vec4 :: below.members ∧
        ∀ dialect, (v.stages number).source v.program dialect =
          dialect.versionLine ++ above.text dialect ++ ("uniform vec4 " ++ name ++ ";\n")
            ++ below.text dialect ++ (v.stages number).inputs.text dialect
            ++ (v.stages number).outputs.text dialect
            ++ "void main() \x7b" ++ (v.stages number).code ++ "\x7d\n") ∧
    ((w.stages number).adjustmentName = none ∨ (w.stages number).adjustmentHandle = none →
      ∀ step ∈ steps, step.EmitsNone number) := by
  obtain ⟨continues, none⟩ | ⟨later, step, earlier, position, type, rfl, emits, none, rest⟩ :=
    run.emission number
  · refine ⟨fun name handle named _ => ?_, fun _ => none⟩
    rw [continues.adjustmentName, new] at named
    contradiction
  · obtain ⟨adjusted, handled, emitted⟩ := emits.holds
    obtain ⟨continues, others⟩ := rest.continues (Option.isSome_iff_exists.mpr ⟨_, adjusted⟩)
    refine ⟨fun name handle named held => ?_, fun missing => ?_⟩
    · rw [continues.adjustmentName, adjusted] at named
      rw [continues.adjustmentHandle, handled] at held
      cases named
      cases held
      refine ⟨?_, ?_, fun more v run => ?_⟩
      · obtain ⟨after, uniforms⟩ := emits.registered rest
        exact ProgramBuilder.uniform?_of_uniforms uniforms few
      · obtain ⟨text, code⟩ := continues.code
        refine ⟨later, step, earlier, position, type, text, rfl, emits.request,
          VertexStage.kind_of_transformOf? emits.fit, emitted, transformCode_operands type _ _,
          code, fun other listed => ?_⟩
        exact (List.mem_append.mp listed).elim (others other) (none other)
      · obtain ⟨after, uniforms⟩ := emits.registered (rest.trans run)
        exact (v.stages number).source_of_adjustment uniforms
    · rw [continues.adjustmentName, continues.adjustmentHandle, adjusted, handled] at missing
      obtain missing | missing := missing <;> contradiction

/-- Another uniform and another name come first, so the adjustment is the second uniform and its
    name takes a number. A second transform adds nothing. -/
theorem adjustment_declared_after_lookalike : ∃ steps w, Run .release bareWorkshop steps w ∧
    (w.stages 0).adjustmentName = some "urtAdjustment_1" ∧
    (w.stages 0).adjustmentHandle = some ⟨1⟩ ∧
    w.program.uniform? ⟨1⟩ =
      some { declared := .uniform "urtAdjustment_1" .vec4, visibility := .vertex } ∧
    (∃ later step earlier, steps = later ++ step :: earlier ∧
      ∀ other ∈ later ++ earlier, other.EmitsNone 0) ∧
    (w.stages 0).source w.program .standardDesktop =
      "#version 140\n" ++ "uniform float udepth;\n" ++ "uniform vec4 urtAdjustment_1;\n"
        ++ "void main() \x7b"
        ++ "gl_Position = vec4(p.x * urtAdjustment_1.x + urtAdjustment_1.y, "
        ++ "p.y * urtAdjustment_1.z + urtAdjustment_1.w, 0, 1);gl_PointSize = 1.0;"
        ++ "\x7d\n" := by
  have run := run_steps .release bareWorkshop
    [.stage 0 (.edit (.emitTransform (.vertexInput "q" .vec3))),
      .stage 0 (.edit (.emitTransform (.vertexInput "p" .vec2))),
      .issueName (some 'u') "rtAdjustment",
      .addUniform .vertex .float .low "depth"]
  have new : bareWorkshop.stages 0 = {} := rfl
  have adjusted := (adjustment_declared run new (by decide +kernel)).1 "urtAdjustment_1" ⟨1⟩
    (by decide +kernel) (by decide +kernel)
  obtain ⟨later, step, earlier, -, -, -, split, -, -, -, -, -, others⟩ := adjusted.2.1
  exact ⟨_, _, run, by decide +kernel, by decide +kernel, adjusted.1,
    ⟨later, step, earlier, split, others⟩, by decide +kernel⟩

end Workshop

end RenderCore
