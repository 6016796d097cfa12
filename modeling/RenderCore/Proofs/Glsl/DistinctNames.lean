import RenderCore.Proofs.Glsl.NewNames
import RenderCore.Proofs.Glsl.Workshops

/-!
# Names of declared variables

The names that a program hands out differ from one another, whatever is asked of it and of its
stages and in whichever order. So the uniforms of the program and the outputs of a stage are
declared under different names, and so are the inputs of a stage. But inputs keep the names that the
caller gave them, and a caller may choose one that is handed out to another variable, if it begins
with the letter of that variable's kind.
-/

namespace RenderCore

variable {δ : Type}

/-- The names of the variables of a block, in order. -/
def Declarations.names (block : Declarations) : List String := block.members.map (·.name)

/-- The names of the uniforms of a program, in order. -/
def ProgramBuilder.uniformNames (program : ProgramBuilder) : List String :=
  program.uniforms.map (·.declared.name)

namespace Declarations

@[simp] theorem names_push (block : Declarations) (v : Variable) :
    (block.push v).names = block.names ++ [v.name] := by
  simp [push, names]

theorem declares_iff {block : Declarations} {name : String} :
    block.declares name = true ↔ name ∈ block.names := by
  simp [declares, find?, names]

theorem names_pushUnique (block : Declarations) (v : Variable) :
    (block.pushUnique v).2.names =
      if v.name ∈ block.names then block.names else block.names ++ [v.name] := by
  unfold pushUnique
  by_cases taken : block.declares v.name
  · rw [if_pos taken, if_pos (declares_iff.mp taken)]
  · rw [if_neg taken, if_neg fun listed => taken (declares_iff.mpr listed)]
    exact block.names_push v

theorem nodup_names_pushUnique {block : Declarations} (nodup : block.names.Nodup) (v : Variable) :
    (block.pushUnique v).2.names.Nodup := by
  rw [names_pushUnique]
  split
  · exact nodup
  · next new => exact nodup.append (List.nodup_singleton _) (List.disjoint_singleton.mpr new)

end Declarations

namespace ProgramBuilder

variable {program program' : ProgramBuilder} {given : List String} {name : Option String}

/-- Names that were handed out before stay apart from the one that is handed out now. -/
theorem Serves.lists (serves : program.Serves name program') (lists : program.names.Lists given) :
    program'.names.Lists (name.toList ++ given) := by
  cases serves with
  | nothing => exact lists
  | name letter base => exact lists.issue_cons
  | uniform visibility type precision base => exact lists.issue_cons
  | mark mark => exact NameSupply.lists_setStage.mpr lists

/-- The uniforms that some stages see are among those of the program. -/
theorem visibleUniforms_names_sublist (program : ProgramBuilder) (visibility : Visibility) :
    (program.visibleUniforms visibility).names.Sublist program.uniformNames := by
  unfold visibleUniforms Declarations.names uniformNames
  rw [List.map_map]
  exact List.filter_sublist.map _

end ProgramBuilder

namespace VertexStage

/-- The names of uniforms and outputs were handed out, each once and with its letter; no two inputs
    have one name. -/
structure Named (stage : VertexStage) (program : ProgramBuilder) : Prop where
  handedOut : program.names.Lists (program.uniformNames ++ stage.outputs.names)
  uniforms : ∀ name ∈ program.uniformNames, ∃ rest, name = "u" ++ rest
  outputs : ∀ name ∈ stage.outputs.names, ∃ rest, name = "v" ++ rest
  inputs : stage.inputs.names.Nodup

variable {stage other : VertexStage} {program program' : ProgramBuilder} {name : Option String}

theorem named_new (layout : VertexLayout) : Named {} { layout } where
  handedOut := NameSupply.lists_nil
  uniforms := nofun
  outputs := nofun
  inputs := .nil

@[simp] theorem begun_inputs (stage : VertexStage) : stage.begun.inputs = stage.inputs := by
  unfold begun
  split <;> rfl

@[simp] theorem begun_outputs (stage : VertexStage) : stage.begun.outputs = stage.outputs := by
  unfold begun
  split <;> rfl

theorem Named.congr (named : stage.Named program) (inputs : other.inputs = stage.inputs)
    (outputs : other.outputs = stage.outputs) : other.Named program where
  handedOut := outputs ▸ named.handedOut
  uniforms := named.uniforms
  outputs := outputs ▸ named.outputs
  inputs := inputs ▸ named.inputs

theorem Named.addInput (named : stage.Named program) (input : Variable) :
    (stage.addInput input).2.Named program := by
  have outputs : (stage.addInput input).2.outputs = stage.outputs := stage.begun_outputs
  exact
    { handedOut := outputs ▸ named.handedOut
      uniforms := named.uniforms
      outputs := outputs ▸ named.outputs
      inputs := Declarations.nodup_names_pushUnique named.inputs input }

theorem Named.addInputs (named : stage.Named program) (inputs : List Variable) :
    (stage.addInputs inputs).Named program := by
  induction inputs generalizing stage with
  | nil => exact named
  | cons input rest ih => exact ih (named.addInput input)

theorem Named.addOutput (named : stage.Named program) (base : String) (type : DataType) :
    (stage.addOutput (program.names.issue (some 'v') base).1 type).Named
      (program.afterName (some 'v') base) := by
  have names : (stage.addOutput (program.names.issue (some 'v') base).1 type).outputs.names =
      stage.outputs.names ++ [(program.names.issue (some 'v') base).1] :=
    Declarations.names_push _ _
  refine ⟨?_, named.uniforms, fun name listed => ?_, ?_⟩
  · rw [names, ← List.append_assoc]
    exact named.handedOut.issue_cons.perm (List.perm_append_singleton _ _)
  · rw [names, List.mem_append] at listed
    obtain earlier | new := listed
    · exact named.outputs name earlier
    · rw [List.mem_singleton.mp new]
      exact program.names.issue_fst_lettered base 'v'
  · exact stage.begun_inputs ▸ named.inputs

/-- What a program is asked for on behalf of others leaves the names of a stage apart. -/
theorem Named.serves (named : stage.Named program) (serves : program.Serves name program') :
    stage.Named program' := by
  cases serves with
  | nothing => exact named
  | name letter base => exact { named with handedOut := named.handedOut.issue }
  | mark mark => exact { named with handedOut := NameSupply.lists_setStage.mpr named.handedOut }
  | uniform visibility type precision base =>
    have names : (program.afterUniform visibility type precision base).uniformNames =
        program.uniformNames ++ [(program.names.issue (some 'u') base).1] := by
      simp [ProgramBuilder.afterUniform, ProgramBuilder.uniformNames, ProgramBuilder.newUniform,
        Variable.uniform]
    refine ⟨?_, fun name listed => ?_, named.outputs, named.inputs⟩
    · rw [names, List.append_assoc]
      exact named.handedOut.issue_cons.perm List.perm_middle
    · rw [names, List.mem_append] at listed
      obtain earlier | new := listed
      · exact named.uniforms name earlier
      · rw [List.mem_singleton.mp new]
        exact program.names.issue_fst_lettered base 'u'

end VertexStage

/-- A call keeps the names of its stage apart. -/
theorem StageCall.Effect.named {call : StageCall} {program program' : ProgramBuilder}
    {stage stage' : VertexStage} {name : Option String}
    (effect : call.Effect program stage name program' stage') (named : stage.Named program) :
    stage'.Named program' := by
  cases effect with
  | nothing => exact named
  | code text editable => exact named.congr stage.begun_inputs stage.begun_outputs
  | input input editable => exact named.addInput input
  | layout done part editable => exact named.addInputs _
  | output base type =>
    -- An assembled stage takes no output, but the name is gone all the same.
    by_cases assembled : stage.phase = .assembled
    · rw [VertexStage.accept_of_assembled assembled]
      exact named.serves (.name (some 'v') base)
    · rw [VertexStage.accept_of_open assembled]
      exact named.addOutput base type
  | transform fit =>
    have served := named.serves
      (.uniform .vertex .vec4 .unspecified Construction.adjustmentBaseName)
    exact served.congr rfl rfl
  | compiled target editable => exact named.congr rfl rfl

/-- A request keeps the names of every stage apart. -/
theorem Request.Effect.named {request : Request} {w v : Workshop δ} {name : Option String}
    (effect : request.Effect w name v) (named : ∀ number, (w.stages number).Named w.program)
    (number : Nat) : (v.stages number).Named v.program := by
  have others := (named number).serves effect.serves
  cases effect with
  | @stage _ called _ _ _ _ _ _ effect =>
    by_cases same : number = called
    · subst same
      show (Function.update w.stages number _ number).Named _
      rw [Function.update_self]
      exact effect.named (named number)
    · show (Function.update w.stages called _ number).Named _
      rw [Function.update_of_ne same]
      exact others
  | _ => exact others

namespace Workshop

variable [Backend δ] {build : Build} {layout : VertexLayout} {session : Session δ}
  {steps : List (Step δ)} {w : Workshop δ}

/-- In a run the names that were given stay apart, and so do those of the variables. -/
theorem Run.named (run : Run build { program := { layout }, session } steps w) :
    w.program.names.Lists (steps.filterMap Step.given?) ∧
      ∀ number, (w.stages number).Named w.program := by
  induction run with
  | nil => exact ⟨NameSupply.lists_nil, fun _ => VertexStage.named_new layout⟩
  | @cons step steps run taken ih =>
    obtain ⟨lists, named⟩ := ih
    obtain ⟨name, effect, given⟩ := taken.effect
    have served := effect.serves.lists lists
    refine ⟨?_, effect.named named⟩
    have listed : (step :: steps).filterMap Step.given? =
        step.given?.toList ++ steps.filterMap Step.given? := by
      cases given : step.given? <;> simp [given]
    rw [listed]
    obtain unnamed | answered := given
    · rw [unnamed]
      exact served.sublist (List.sublist_append_right _ _)
    · rw [answered]
      exact served
  | elsewhere shaders session run ih => exact ih

/-- All names differ. Whatever is asked of a new program and of the stages that are built for it, in
    any order, on open stages and on assembled ones, with any letters, base names and marks: no name
    is given twice. So no two of the uniforms of the program and the outputs of a stage have one
    name, and no two inputs of a stage. -/
theorem names_differ (run : Run build { program := { layout }, session } steps w) :
    (steps.filterMap Step.given?).Nodup ∧ ∀ number,
      (w.program.uniformNames ++ (w.stages number).outputs.names).Nodup ∧
        (w.stages number).inputs.names.Nodup := by
  obtain ⟨given, named⟩ := run.named
  exact ⟨given.nodup, fun number => ⟨(named number).handedOut.nodup, (named number).inputs⟩⟩

/-- Requests for names that look like numbered and marked ones, on two stages, one of which is
    assembled on the way; the last one first. -/
def lookalikes : List Request :=
  [.stage 1 (.edit (.emitTransform (.vertexInput "position" .vec2))),
    .stage 0 (.edit (.addOutput "x" .vec4)),
    .stage 0 (.compile ⟨1⟩),
    .stage 0 (.edit (.emitTransform (.vertexInput "position" .vec2))),
    .stage 0 (.edit (.addOutput "x" .vec4)),
    .issueName (some 'u') "x",
    .setStage (some 2),
    .addUniform .fragment .float .low "x_Stage2",
    .issueName none "x",
    .issueName none "x",
    .issueName none "x_1"]

/-- Names that look like forms of others are given in between. -/
theorem names_differ_among_lookalikes : ∃ steps w, Run .release bareWorkshop steps w ∧
    steps.filterMap Step.given? =
      ["urtAdjustment_Stage2_1", "vx_Stage2_1", "urtAdjustment_Stage2", "vx_Stage2",
        "ux_Stage2_1", "ux_Stage2", "x_2", "x", "x_1"] ∧
    (steps.filterMap Step.given?).Nodup ∧ ∀ number,
      (w.program.uniformNames ++ (w.stages number).outputs.names).Nodup ∧
        (w.stages number).inputs.names.Nodup := by
  have run := run_steps .release bareWorkshop lookalikes
  exact ⟨_, _, run, by decide +kernel, names_differ run⟩

end Workshop

/-! ## Names of inputs -/

namespace VertexStage

variable {stage : VertexStage} {program : ProgramBuilder}

/-- The variables that the source of a stage declares, in order. -/
def declared (stage : VertexStage) (program : ProgramBuilder) : Declarations where
  members := (program.visibleUniforms .vertex).members ++ stage.inputs.members
    ++ stage.outputs.members

theorem source_eq_declared (stage : VertexStage) (program : ProgramBuilder) (dialect : Dialect) :
    stage.source program dialect = dialect.versionLine ++ (stage.declared program).text dialect
      ++ "void main() \x7b" ++ stage.code ++ "\x7d\n" := by
  have uniforms : StageHost.uniformText program .vertex dialect =
      (program.visibleUniforms .vertex).text dialect := rfl
  simp only [source, uniforms, declared, Declarations.text, List.map_append, String.join_append,
    String.append_assoc]

theorem names_declared (stage : VertexStage) (program : ProgramBuilder) :
    (stage.declared program).names =
      (program.visibleUniforms .vertex).names ++ stage.inputs.names ++ stage.outputs.names := by
  simp only [declared, Declarations.names, List.map_append]

/-- Only an input can make a stage declare a name twice. -/
theorem Named.nodup_declared_iff (named : stage.Named program) :
    (stage.declared program).names.Nodup ↔ ∀ name ∈ stage.inputs.names,
      name ∉ (program.visibleUniforms .vertex).names ∧ name ∉ stage.outputs.names := by
  have visible := program.visibleUniforms_names_sublist .vertex
  have others : ((program.visibleUniforms .vertex).names ++ stage.outputs.names).Nodup :=
    named.handedOut.nodup.sublist (visible.append_right _)
  obtain ⟨uniforms, outputs, apart⟩ := List.nodup_append'.mp others
  rw [names_declared]
  constructor
  · intro nodup name declared
    obtain ⟨front, -, behind⟩ := List.nodup_append'.mp nodup
    obtain ⟨-, -, before⟩ := List.nodup_append'.mp front
    refine ⟨fun taken => before taken declared, fun taken => ?_⟩
    exact behind (List.mem_append_right _ declared) taken
  · intro free
    refine List.nodup_append'.mpr ⟨List.nodup_append'.mpr ⟨uniforms, named.inputs, ?_⟩, outputs, ?_⟩
    · exact fun name taken declared => (free name declared).1 taken
    · intro name listed taken
      obtain uniform | declared := List.mem_append.mp listed
      · exact apart uniform taken
      · exact (free name declared).2 taken

end VertexStage

namespace Workshop

variable [Backend δ] {build : Build} {layout : VertexLayout} {session : Session δ}
  {steps : List (Step δ)} {w : Workshop δ}

/-- What the source of a stage declares has different names, unless the caller has named an input
    like a uniform that the stage sees or like an output. Such an input begins with the letter of
    uniforms or of outputs. -/
theorem declared_once_iff (run : Run build { program := { layout }, session } steps w)
    (number : Nat) :
    (∀ dialect, (w.stages number).source w.program dialect = dialect.versionLine
      ++ ((w.stages number).declared w.program).text dialect
      ++ "void main() \x7b" ++ (w.stages number).code ++ "\x7d\n") ∧
    (((w.stages number).declared w.program).names.Nodup ↔
      ∀ name ∈ (w.stages number).inputs.names,
        name ∉ (w.program.visibleUniforms .vertex).names ∧
          name ∉ (w.stages number).outputs.names) ∧
    ∀ name ∈ (w.stages number).inputs.names,
      (name ∈ (w.program.visibleUniforms .vertex).names → ∃ rest, name = "u" ++ rest) ∧
        (name ∈ (w.stages number).outputs.names → ∃ rest, name = "v" ++ rest) := by
  have named := run.named.2 number
  refine ⟨(w.stages number).source_eq_declared w.program, named.nodup_declared_iff, ?_⟩
  intro name _
  have visible := w.program.visibleUniforms_names_sublist .vertex
  exact ⟨fun taken => named.uniforms name (visible.subset taken), named.outputs name⟩

/-- The names of a stage with a position, its transform and a colour that is handed on. -/
theorem declared_once_with_position : ∃ steps w, Run .release bareWorkshop steps w ∧
    ((w.stages 0).declared w.program).names = ["urtAdjustment", "inPosition", "vColor"] ∧
    ((w.stages 0).declared w.program).names.Nodup := by
  have run := run_steps .release bareWorkshop
    [.stage 0 (.edit (.addOutput "Color" .vec4)),
      .stage 0 (.edit (.emitTransform (.vertexInput "inPosition" .vec2))),
      .stage 0 (.edit (.addInput (.vertexInput "inPosition" .vec2)))]
  refine ⟨_, _, run, by decide +kernel, (declared_once_iff run 0).2.1.mpr ?_⟩
  decide +kernel

/-- An input that the caller named like an output that is declared later: the source declares the
    name twice. -/
theorem declared_twice_like_output : ∃ steps w, Run .release bareWorkshop steps w ∧
    (w.stages 0).inputs.names = ["vColor"] ∧ (w.stages 0).outputs.names = ["vColor"] ∧
    ¬ ((w.stages 0).declared w.program).names.Nodup ∧
    (w.stages 0).source w.program .standardDesktop =
      "#version 140\nin vec4 vColor;\nout vec4 vColor;\nvoid main() \x7b\x7d\n" := by
  have run := run_steps .release bareWorkshop
    [.stage 0 (.edit (.addOutput "Color" .vec4)),
      .stage 0 (.edit (.addInput (.vertexInput "vColor" .vec4)))]
  exact ⟨_, _, run, by decide +kernel, by decide +kernel, by decide +kernel, by decide +kernel⟩

end Workshop

end RenderCore
