import RenderCore.Gpu.Recorder
import RenderCore.Proofs.Glsl.StageEdits

/-!
# The life of a vertex stage

A vertex stage goes from fresh through declaring and transform emitted to assembled, and never back.
What it holds agrees with its phase, and an assembled stage does not change any more. This holds
over any program and any backend, and also where a call was cut short.
-/

namespace RenderCore

variable {δ π : Type}

/-! ## Phases -/

namespace VertexStage

variable {stage other third : VertexStage}

/-- What the stage holds agrees with its phase. -/
structure Orderly (stage : VertexStage) : Prop where
  fresh : stage.phase = .fresh → stage.inputs = {} ∧ stage.outputs = {} ∧ stage.code = ""
  unadjusted : stage.phase = .fresh ∨ stage.phase = .declaring →
    stage.adjustmentName = none ∧ stage.adjustmentHandle = none
  adjusted : stage.phase = .transformEmitted →
    stage.adjustmentName.isSome = true ∧ stage.adjustmentHandle.isSome = true
  paired : stage.adjustmentName.isSome = stage.adjustmentHandle.isSome

theorem open_of_transformOf? {position : Variable} {type : PositionType}
    (fit : stage.transformOf? position = some type) : stage.phase ≠ .assembled := by
  intro assembled
  rw [transformOf?, if_pos (.inr assembled)] at fit
  contradiction

theorem orderly_new : Orderly {} := ⟨fun _ => ⟨rfl, rfl, rfl⟩, fun _ => ⟨rfl, rfl⟩, nofun, rfl⟩

/-- What becomes of a stage: it does not go back, an assembled one stays as it is, and one that was
    orderly still is. -/
structure Advances (stage other : VertexStage) : Prop where
  rank : stage.phase.rank ≤ other.phase.rank
  frozen : stage.phase = .assembled → other = stage
  orderly : stage.Orderly → other.Orderly

theorem Advances.refl (stage : VertexStage) : stage.Advances stage :=
  ⟨Nat.le_refl _, fun _ => rfl, fun orderly => orderly⟩

theorem Advances.trans (first : stage.Advances other) (second : other.Advances third) :
    stage.Advances third where
  rank := Nat.le_trans first.rank second.rank
  frozen assembled := by
    obtain rfl := first.frozen assembled
    exact second.frozen assembled
  orderly before := second.orderly (first.orderly before)

/-- An edit need only be looked at on stages that can be edited. -/
theorem advances_accept (edit : VertexStage → VertexStage)
    (edited : stage.phase ≠ .assembled → stage.Advances (edit stage)) :
    stage.Advances (stage.accept edit) := by
  by_cases assembled : stage.phase = .assembled
  · rw [accept_of_assembled assembled]
    exact .refl stage
  · rw [accept_of_open assembled]
    exact edited assembled

/-- An edit that begins the stage, and leaves the adjustment alone. -/
theorem advances_of_begun (editable : stage.phase ≠ .assembled)
    (phase : other.phase = stage.begun.phase) (name : other.adjustmentName = stage.adjustmentName)
    (handle : other.adjustmentHandle = stage.adjustmentHandle) : stage.Advances other := by
  have moved : other.phase ≠ .fresh ∧ stage.phase.rank ≤ other.phase.rank ∧
      (other.phase = .declaring → stage.phase = .fresh ∨ stage.phase = .declaring) ∧
      (other.phase = .transformEmitted → stage.phase = .transformEmitted) := by
    rw [phase, begun]
    cases now : stage.phase <;> simp [now, StagePhase.rank]
  obtain ⟨begun, rank, declaring, emitted⟩ := moved
  refine ⟨rank, fun assembled => absurd assembled editable, fun before => ⟨?_, ?_, ?_, ?_⟩⟩
  · intro fresh
    exact absurd fresh begun
  · intro early
    rw [name, handle]
    exact before.unadjusted (declaring (early.resolve_left begun))
  · intro late
    rw [name, handle]
    exact before.adjusted (emitted late)
  · rw [name, handle]
    exact before.paired

@[simp] theorem begun_adjustmentName (stage : VertexStage) :
    stage.begun.adjustmentName = stage.adjustmentName := by
  unfold begun
  split <;> rfl

@[simp] theorem begun_adjustmentHandle (stage : VertexStage) :
    stage.begun.adjustmentHandle = stage.adjustmentHandle := by
  unfold begun
  split <;> rfl

theorem advances_appendCode (editable : stage.phase ≠ .assembled) (text : String) :
    stage.Advances (stage.appendCode text) :=
  advances_of_begun editable rfl stage.begun_adjustmentName stage.begun_adjustmentHandle

theorem advances_addInput (editable : stage.phase ≠ .assembled) (input : Variable) :
    stage.Advances (stage.addInput input).2 :=
  advances_of_begun editable rfl stage.begun_adjustmentName stage.begun_adjustmentHandle

theorem advances_addInputs (editable : stage.phase ≠ .assembled) (inputs : List Variable) :
    stage.Advances (stage.addInputs inputs) := by
  induction inputs generalizing stage with
  | nil => exact .refl stage
  | cons input rest ih =>
    exact (advances_addInput editable input).trans (ih (begun_phase_ne editable))

theorem advances_addOutput (editable : stage.phase ≠ .assembled) (name : String)
    (type : DataType) : stage.Advances (stage.addOutput name type) :=
  advances_of_begun editable rfl stage.begun_adjustmentName stage.begun_adjustmentHandle

theorem advances_addTransform (editable : stage.phase ≠ .assembled) (type : PositionType)
    (position : String) (adjustment : AdjustmentUniform) :
    stage.Advances (stage.addTransform type position adjustment) where
  rank := by
    show stage.phase.rank ≤ StagePhase.rank .transformEmitted
    cases now : stage.phase with
    | assembled => exact absurd now editable
    | _ => decide
  frozen assembled := absurd assembled editable
  orderly _ := ⟨nofun, (·.elim nofun nofun), fun _ => ⟨rfl, rfl⟩, rfl⟩

theorem advances_assembled (stage : VertexStage) :
    stage.Advances { stage with phase := .assembled } where
  rank := by
    show stage.phase.rank ≤ StagePhase.rank .assembled
    cases stage.phase <;> decide
  frozen assembled := by rw [← assembled]
  orderly before := ⟨nofun, (·.elim nofun nofun), nofun, before.paired⟩

end VertexStage

/-! ## Calls -/

/-- An edit of a vertex stage. -/
inductive StageEdit where
  | appendCode (text : String)
  | addInput (input : Variable)
  | addLayout (layout : VertexLayout)
  | addOutput (base : String) (type : DataType)
  | emitTransform (position : Variable)

/-- A call on a vertex stage under construction. -/
inductive StageCall where
  | edit (edit : StageEdit)
  | bindAttributes (program : ProgramId)
  | compile (program : ProgramId)

variable [StageHost π]

/-- The edit, carried out. Its answer is left out. -/
def StageEdit.act (build : Build) : StageEdit → Act (Construction δ π) Unit
  | .appendCode text => Construction.appendCode build text
  | .addInput input => discard (Construction.addInput build input)
  | .addLayout layout => Construction.addLayout build layout
  | .addOutput base type => discard (Construction.addOutput build base type)
  | .emitTransform position => Construction.emitTransform build position

/-- However an edit ends, the stage has advanced. -/
theorem StageEdit.advances (edit : StageEdit) (c : Construction δ π) :
    (edit.act .release).Ends c (fun _ d => c.vertex.Advances d.vertex)
      (fun _ d => c.vertex.Advances d.vertex) (fun d => c.vertex.Advances d.vertex) := by
  have left : ∀ {stage : VertexStage} {d : Construction δ π}, c.vertex.Advances stage →
      d.vertex = stage → c.vertex.Advances d.vertex := by
    intro stage d advances same
    rw [same]
    exact advances
  have same : ∀ {d : Construction δ π}, d.vertex = c.vertex → c.vertex.Advances d.vertex :=
    left (.refl c.vertex)
  cases edit with
  | appendCode text =>
    have edited := c.vertex.advances_accept (·.appendCode text)
      fun editable => VertexStage.advances_appendCode editable text
    exact (c.ends_appendCode text).imp (fun _ _ ok => left edited ok.vertex_eq)
      (fun _ _ failed => failed.elim) fun _ cut => left edited cut.vertex_eq
  | addInput input =>
    have edited := c.vertex.advances_accept (fun stage => (stage.addInput input).2)
      fun editable => VertexStage.advances_addInput editable input
    exact ((c.ends_addInput input).imp (fun _ _ ok => left edited ok.2.vertex_eq)
      (fun _ _ failed => failed.elim) fun _ cut => left edited cut.2.vertex_eq).discard
  | addLayout layout =>
    have edited := fun inputs => c.vertex.advances_accept (·.addInputs inputs)
      fun editable => VertexStage.advances_addInputs editable inputs
    refine (c.ends_addInputs layout.attributes).imp (fun _ _ ok => left (edited _) ok.vertex_eq)
      (fun _ _ failed => failed.elim) fun _ cut => ?_
    obtain ⟨done, -, cut⟩ := cut
    exact left (edited _) cut.vertex_eq
  | addOutput base type =>
    refine ((c.ends_addOutput base type).imp (fun name d ok => ?_) (fun _ d failed => ?_)
      fun _ cut => same cut).discard
    · obtain ⟨program, -, ok⟩ := ok
      have edited := c.vertex.advances_accept (·.addOutput name type)
        fun editable => VertexStage.advances_addOutput editable name type
      exact left edited ok.vertex_eq
    · obtain ⟨program, -, rfl⟩ := failed
      exact .refl c.vertex
  | emitTransform position =>
    refine (c.ends_emitTransform position).imp (fun _ _ ok => ?_) (fun _ d failed => ?_)
      fun _ cut => same cut
    · cases ok with
      | refused unfit left => exact same left.vertex_eq
      | emitted fit given =>
        exact VertexStage.advances_addTransform (VertexStage.open_of_transformOf? fit) _ _ _
    · obtain ⟨program, -, rfl⟩ := failed
      exact .refl c.vertex

variable [Backend δ]

/-- The call, carried out. Its answer is left out. -/
def StageCall.act (build : Build) : StageCall → Act (Construction δ π) Unit
  | .edit change => change.act build
  | .bindAttributes program => Construction.bindAttributes program
  | .compile program => discard (Construction.compile build program)

/-- However a call ends, the stage has advanced. -/
theorem StageCall.advances (call : StageCall) (c : Construction δ π) :
    (call.act .release).Ends c (fun _ d => c.vertex.Advances d.vertex)
      (fun _ d => c.vertex.Advances d.vertex) (fun d => c.vertex.Advances d.vertex) := by
  have same : ∀ {d : Construction δ π}, d.vertex = c.vertex → c.vertex.Advances d.vertex := by
    intro d same
    rw [same]
    exact .refl c.vertex
  cases call with
  | edit change => exact change.advances c
  | bindAttributes program =>
    refine (c.ends_bindAttributes program).imp (fun _ _ ok => ?_) (fun _ _ failed => ?_)
      fun _ cut => ?_
    · obtain ⟨session, rfl⟩ := ok
      exact .refl c.vertex
    · obtain ⟨session, rfl⟩ := failed
      exact .refl c.vertex
    · obtain ⟨session, rfl⟩ := cut
      exact .refl c.vertex
  | compile program =>
    by_cases assembled : c.vertex.phase = .assembled
    · exact ((c.ends_compile_of_assembled program assembled).imp (fun _ _ ok => ok.elim)
        (fun _ _ failed => same failed.2.vertex_eq) fun _ cut => same cut.2.vertex_eq).discard
    · refine ((c.ends_compile_of_open program assembled).imp (fun _ _ ok => ?_)
        (fun _ _ failed => ?_) fun _ cut => ?_).discard
      · obtain ⟨session, rfl⟩ := ok
        exact VertexStage.advances_assembled c.vertex
      · obtain ⟨session, rfl⟩ := failed
        exact .refl c.vertex
      · obtain same | finished := cut
        · rw [same]
          exact .refl c.vertex
        · rw [finished]
          exact VertexStage.advances_assembled c.vertex

/-! ## Whole lives -/

/-- What a program can make of a construction by calls on its stage, in any order. Each call may
    answer, report a fault or be cut short. Between the calls the program does what it likes with
    everything but the stage. -/
inductive Construction.Leads (build : Build) (start : Construction δ π) :
    Construction δ π → Prop where
  | refl : Leads build start start
  | call {c d : Construction δ π} (call : StageCall) {outcome : Except Stop Unit}
      (leads : Leads build start c) (ended : (call.act build).outcome c = (outcome, d)) :
      Leads build start d
  | elsewhere {c : Construction δ π} (program : π) (shaders : List ShaderId)
      (session : Session δ) (leads : Leads build start c) :
      Leads build start { c with program, shaders, session }

theorem StageCall.advances_of_outcome {call : StageCall} {c d : Construction δ π}
    {outcome : Except Stop Unit} (ended : (call.act .release).outcome c = (outcome, d)) :
    c.vertex.Advances d.vertex := by
  have ends := call.advances c
  rw [Act.ends_iff_outcome, ended] at ends
  obtain (fault | panic) | answer := outcome <;> exact ends

theorem Construction.Leads.advances {start c : Construction δ π} (leads : start.Leads .release c) :
    start.vertex.Advances c.vertex := by
  induction leads with
  | refl => exact .refl start.vertex
  | call call leads ended ih => exact ih.trans (StageCall.advances_of_outcome ended)
  | elsewhere program shaders session leads ih => exact ih

/-- The life of a stage. Whatever calls are made on a new stage, over any program and any backend,
    its phase never goes back; a fresh stage holds nothing; there is no adjustment before the
    transform was emitted, and there is one afterwards, until the stage is assembled; its name is
    there exactly if its handle is. An assembled stage stays as it is: no input is added, and
    compiling it again is refused with a fault of the backend's kind, without a call of the backend,
    a change of the counters or another shader. -/
theorem stage_life {start c d : Construction δ π} (new : start.vertex = {})
    (begun : start.Leads .release c) (later : c.Leads .release d) :
    c.vertex.phase.rank ≤ d.vertex.phase.rank ∧
      (d.vertex.phase = .fresh → d.vertex.inputs.members = [] ∧ d.vertex.outputs.members = [] ∧
        d.vertex.code = "" ∧ d.vertex.adjustmentName = none) ∧
      (d.vertex.phase = .fresh ∨ d.vertex.phase = .declaring →
        d.vertex.adjustmentName = none ∧ d.vertex.adjustmentHandle = none) ∧
      (d.vertex.phase = .transformEmitted →
        d.vertex.adjustmentName.isSome = true ∧ d.vertex.adjustmentHandle.isSome = true) ∧
      d.vertex.adjustmentName.isSome = d.vertex.adjustmentHandle.isSome ∧
      (c.vertex.phase = .assembled → d.vertex = c.vertex ∧
        (∀ input, (Construction.addInput .release input).Ends d (fun added _ => added = false)
          (fun _ _ => False) (fun _ => ¬ d.session.Reliable)) ∧
        ∀ program, (Construction.compile .release program).Ends d (fun _ _ => False)
          (fun fault e => (∃ text, fault = .backend text) ∧ e.session.backend = d.session.backend ∧
            e.session.stats = d.session.stats ∧ e.shaders = d.shaders)
          (fun e => ¬ d.session.Reliable ∧ e.session.backend = d.session.backend ∧
            e.session.stats = d.session.stats ∧ e.shaders = d.shaders)) := by
  have advances := later.advances
  have orderly : d.vertex.Orderly :=
    advances.orderly (begun.advances.orderly (new ▸ VertexStage.orderly_new))
  refine ⟨advances.rank, fun fresh => ?_, orderly.unadjusted, orderly.adjusted, orderly.paired,
    fun assembled => ?_⟩
  · obtain ⟨inputs, outputs, code⟩ := orderly.fresh fresh
    rw [inputs, outputs]
    exact ⟨rfl, rfl, code, (orderly.unadjusted (.inl fresh)).1⟩
  · have same := advances.frozen assembled
    have closed : d.vertex.phase = .assembled := same ▸ assembled
    refine ⟨same, fun input => ?_, fun program => ?_⟩
    · refine (d.ends_addInput input).imp (fun added _ ok => ?_) (fun _ _ failed => failed)
        fun _ cut => cut.1
      rw [ok.1, closed]
      rfl
    · refine (d.ends_compile_of_assembled program closed).imp (fun _ _ ok => ok)
        (fun fault e failed => ?_) fun e cut => ?_
      · obtain ⟨text, journal, rfl⟩ := failed
        exact ⟨⟨_, text⟩, rfl, rfl, rfl⟩
      · obtain ⟨failing, journal, rfl⟩ := cut
        exact ⟨failing, rfl, rfl, rfl⟩

/-- A program without vertex attributes, with a new vertex stage, for the recording backend. -/
def bareConstruction : Construction Recorder where
  program := { layout := ⟨"", []⟩ }
  session := { backend := {}, dialect := .standardDesktop, journal := .ofLogger .quiet }

/-- A stage with a transform, compiled for the recording backend, takes no more statements. -/
theorem stage_life_after_compile :
    ∃ c d : Construction Recorder, bareConstruction.Leads .release c ∧ c.Leads .release d ∧
      c.vertex.phase = .assembled ∧ c.vertex.adjustmentName.isSome = true ∧
      (Construction.appendCode .release "position.x = 0.0;").outcome c = (.ok (), d) ∧
      d.vertex = c.vertex := by
  let called (call : StageCall) (c : Construction Recorder) : Construction Recorder :=
    ((call.act .release).outcome c).2
  have leads : ∀ (call : StageCall) {c : Construction Recorder},
      bareConstruction.Leads .release c → bareConstruction.Leads .release (called call c) :=
    fun call _ leads => .call call leads (Prod.eta _).symm
  have reached := leads (.compile ⟨1⟩)
    (leads (.edit (.emitTransform (.vertexInput "position" .vec2))) .refl)
  generalize made : called (.compile ⟨1⟩) _ = c at reached
  have assembled : c.vertex.phase = .assembled := made ▸ by decide +kernel
  have adjusted : c.vertex.adjustmentName.isSome = true := made ▸ by decide +kernel
  obtain ⟨d, answered⟩ : ∃ d,
      (Construction.appendCode .release "position.x = 0.0;").outcome c = (.ok (), d) := by
    subst made
    exact ⟨_, rfl⟩
  have edited : c.Leads .release d := .call (.edit (.appendCode "position.x = 0.0;")) .refl answered
  obtain ⟨-, -, -, -, -, frozen⟩ := stage_life rfl reached edited
  exact ⟨c, d, reached, edited, assembled, adjusted, answered, (frozen assembled).1⟩

end RenderCore
