import RenderCore.Gpu.Recorder
import RenderCore.Proofs.Glsl.Drafts

/-!
# The source as a function of the edits

Until a vertex stage is assembled its source depends on the edits made so far and on nothing else:
it is the draft of the edits, written out. Compiling in vain, and whatever happens in the session,
has no part in it.
-/

namespace RenderCore

variable {δ π α : Type}

/-! ## Edits of a program -/

namespace ProgramBuilder

theorem issueName_outcome (letter : Option Char) (base : String) (program : ProgramBuilder) :
    (issueName letter base).outcome program =
      (.ok (program.names.issue letter base).1,
        { program with names := (program.names.issue letter base).2 }) := rfl

theorem setStage_outcome (stage : Option UInt32) (program : ProgramBuilder) :
    (setStage stage).outcome program =
      (.ok (), { program with names := program.names.setStage stage }) := rfl

theorem addUniform_outcome (visibility : Visibility) (type : DataType) (precision : Precision)
    (base : String) (program : ProgramBuilder) :
    (addUniform .release visibility type precision base).outcome program =
      (.ok (⟨program.uniforms.length.toUInt32⟩, (program.names.issue (some 'u') base).1),
        { program with
          uniforms := program.uniforms ++ [{
            declared := { Variable.uniform (program.names.issue (some 'u') base).1 type with
              precision }
            visibility }]
          names := (program.names.issue (some 'u') base).2 }) := by
  unfold addUniform
  simp only [Build.expect_release, Act.lift_ok, pure_bind]
  rfl

theorem steady_issueName (letter : Option Char) (base : String) :
    (issueName letter base).Steady fun _ => True := fun _ _ => trivial

theorem steady_addUniform (visibility : Visibility) (type : DataType) (precision : Precision)
    (base : String) :
    (addUniform .release visibility type precision base).Steady fun _ => True := by
  intro program _
  rw [Act.ends_iff_outcome, addUniform_outcome]
  trivial

end ProgramBuilder

/-! ## Edits of a construction -/

/-- The edit, carried out. Its answer is left out. -/
def Edit.act (build : Build) : Edit → Act (Construction δ) Unit
  | .stage change => change.act build
  | .addUniform visibility type precision base =>
    discard (ProgramBuilder.addUniform build visibility type precision base :
      Act ProgramBuilder (UniformHandle × String))
  | .issueName letter base =>
    discard (ProgramBuilder.issueName letter base : Act ProgramBuilder String)
  | .setStage mark => (ProgramBuilder.setStage mark : Act ProgramBuilder Unit)

/-- A transform adds to the draft what it adds to the stage. -/
theorem Draft.Describes.transforms {draft : Draft} {c d : Construction δ} {position : Variable}
    (describes : draft.Describes c.program c.vertex) (transforms : c.Transforms position d) :
    (draft.transform position).Describes d.program d.vertex := by
  have kinds : c.vertex.transformOf? position =
      if draft.transformed then none else PositionType.ofDataType? position.type := by
    simp [VertexStage.transformOf?, describes.transformed, describes.editable]
  cases transforms with
  | refused unfit left =>
    have same : draft.transform position = draft := by
      rw [kinds] at unfit
      unfold Draft.transform
      split
      · rfl
      · next type kind =>
        rw [kind] at unfit
        split
        · rfl
        · next fresh => simp [fresh] at unfit
    obtain ⟨journal, rfl⟩ := left
    exact same.symm ▸ describes
  | @emitted type name handle program fit given =>
    rw [kinds] at fit
    obtain ⟨fresh, kind⟩ : draft.transformed = false ∧
        PositionType.ofDataType? position.type = some type := by
      simpa using fit
    cases (ProgramBuilder.addUniform_outcome _ _ _ _ _).symm.trans given
    have emitted : ∀ name, ({ draft with transformed := true }.add
        [.uniform { declared := .uniform name .vec4, visibility := .vertex },
          .code (transformCode type position.name name)]).Describes
        { c.program with uniforms := c.program.uniforms ++
            [({ declared := .uniform name .vec4, visibility := .vertex } : Uniform)] }
        (c.vertex.addTransform type position.name
          ⟨name, ⟨c.program.uniforms.length.toUInt32⟩⟩) := by
      intro name
      simpa [Draft.add] using (describes.addUniform _).addTransform type position.name ⟨name, _⟩
    simp only [Draft.transform, kind, fresh, Bool.false_eq_true, if_false]
    exact .addNamed emitted describes.names

/-- An edit of the stage that is answered adds to the stage and its program what it adds to the
    draft. None reports a fault. -/
theorem StageEdit.describes (edit : StageEdit) {draft : Draft} {c : Construction δ}
    (describes : draft.Describes c.program c.vertex) :
    (edit.act .release).Ends c (fun _ d => (draft.editStage edit).Describes d.program d.vertex)
      (fun _ _ => False) (fun _ => True) := by
  cases edit with
  | appendCode text =>
    refine (c.ends_appendCode text).imp (fun _ d ok => ?_) (fun _ _ failed => failed)
      fun _ _ => trivial
    rw [VertexStage.accept_of_open describes.editable] at ok
    obtain ⟨journal, rfl⟩ := ok
    exact describes.appendCode text
  | addInput input =>
    refine ((c.ends_addInput input).imp (fun _ d ok => ?_) (fun _ _ failed => failed)
      fun _ _ => trivial).discard
    rw [VertexStage.accept_of_open describes.editable] at ok
    obtain ⟨-, journal, rfl⟩ := ok
    exact describes.addInput input
  | addLayout layout =>
    refine (c.ends_addInputs layout.attributes).imp (fun _ d ok => ?_) (fun _ _ failed => failed)
      fun _ _ => trivial
    rw [VertexStage.accept_of_open describes.editable] at ok
    obtain ⟨journal, rfl⟩ := ok
    have added := describes.addInputs (layout.attributes.map (·.asInput))
    rw [List.map_map] at added
    exact added
  | addOutput base type =>
    refine ((c.ends_addOutput base type).imp (fun name d ok => ?_) (fun fault d failed => ?_)
      fun _ _ => trivial).discard
    · obtain ⟨program, issued, ok⟩ := ok
      rw [VertexStage.accept_of_open describes.editable] at ok
      obtain ⟨journal, rfl⟩ := ok
      cases (ProgramBuilder.issueName_outcome _ _ _).symm.trans issued
      exact .addNamed (fun name => describes.addOutput name type) describes.names
    · obtain ⟨program, failed, -⟩ := failed
      cases (ProgramBuilder.issueName_outcome _ _ _).symm.trans failed
  | emitTransform position =>
    refine (c.ends_emitTransform position).imp (fun _ d ok => describes.transforms ok)
      (fun fault d failed => ?_) fun _ _ => trivial
    obtain ⟨program, failed, -⟩ := failed
    cases (ProgramBuilder.addUniform_outcome _ _ _ _ _).symm.trans failed

/-- A request that the program answers. -/
theorem Construction.ends_of_answered {c : Construction δ π} {act : Act π α} {a : α} {program : π}
    (answered : act.outcome c.program = (.ok a, program)) :
    (liftM act : Act (Construction δ π) α).Ends c (fun _ d => d = { c with program })
      (fun _ _ => False) (fun _ => True) := by
  refine (c.ends_program act).imp (fun _ d ok => ?_) (fun _ d failed => ?_) fun _ _ => trivial
  · obtain ⟨program, given, rfl⟩ := ok
    cases answered.symm.trans given
    rfl
  · obtain ⟨program, failed, -⟩ := failed
    cases answered.symm.trans failed

/-- An edit that is answered adds to the stage and its program what it adds to the draft. None
    reports a fault. -/
theorem Edit.describes (edit : Edit) {draft : Draft} {c : Construction δ}
    (describes : draft.Describes c.program c.vertex) :
    (edit.act .release).Ends c (fun _ d => (draft.edit edit).Describes d.program d.vertex)
      (fun _ _ => False) (fun _ => True) := by
  cases edit with
  | stage change => exact change.describes describes
  | addUniform visibility type precision base =>
    refine ((Construction.ends_of_answered (ProgramBuilder.addUniform_outcome _ _ _ _ _)).ok
      fun _ d ok => ?_).discard
    subst ok
    exact .addNamed (fun name => describes.addUniform
      { declared := { Variable.uniform name type with precision }, visibility }) describes.names
  | issueName letter base =>
    refine ((Construction.ends_of_answered (ProgramBuilder.issueName_outcome _ _ _)).ok
      fun _ d ok => ?_).discard
    subst ok
    exact .addNamed (fun _ => describes.addInputs []) describes.names
  | setStage mark =>
    refine (Construction.ends_of_answered (ProgramBuilder.setStage_outcome _ _)).ok
      fun _ d ok => ?_
    subst ok
    exact { describes with names := congrArg (·.setStage mark) describes.names }

/-! ## Edits that are not cut short -/

namespace Construction

/-- Nothing cuts a call short, the backend and the program apart. -/
def Reliable (c : Construction δ π) : Prop := c.session.Reliable

theorem steady_report {act : Act Journal α} (steady : act.Steady Journal.Reliable) :
    (liftM act : Act (Construction δ π) α).Steady Reliable :=
  (Session.steady_report steady).within (fun _ ok => ok) fun _ _ _ left => left

/-- A program that never cuts short what it is asked for. -/
theorem steady_program {act : Act π α} (steady : act.Steady fun _ => True) :
    (liftM act : Act (Construction δ π) α).Steady Reliable :=
  steady.within (fun _ _ => trivial) fun _ _ reliable _ => reliable

theorem steady_editStage (edit : VertexStage → VertexStage) :
    (editStage edit : Act (Construction δ π) Unit).Steady Reliable :=
  Act.steady_modify fun _ reliable => reliable

theorem steady_ifEditable (what : String) {yes no : Act (Construction δ π) α}
    (editable : yes.Steady Reliable) (refused : no.Steady Reliable) :
    (checkEditable .release what >>= fun ok => if ok = true then yes else no).Steady Reliable := by
  have checked : (checkEditable .release what : Act (Construction δ π) Bool).Steady Reliable := by
    unfold checkEditable
    simp only [Build.expect_release, Act.lift_ok, pure_bind]
    refine Act.steady_get_bind fun c => ?_
    split
    · exact (steady_report (Journal.steady_write _)).bind fun _ => Act.steady_pure _
    · exact Act.steady_pure _
  refine checked.bind fun ok => ?_
  split
  · exact editable
  · exact refused

theorem steady_addInput (input : Variable) :
    (addInput .release input : Act (Construction δ π) Bool).Steady Reliable := by
  unfold addInput
  simp only [Build.expect_release, Act.lift_ok, pure_bind]
  refine steady_ifEditable _ (Act.steady_get_bind fun c => ?_) (Act.steady_pure _)
  refine (steady_editStage _).bind fun _ => ?_
  split
  · exact (steady_report (Journal.steady_log _ _ _)).bind fun _ => Act.steady_pure _
  · exact Act.steady_pure _

theorem steady_emitTransform (position : Variable) :
    (emitTransform .release position : Act (Construction δ) Unit).Steady Reliable := by
  unfold emitTransform
  simp only [Build.expect_release, Act.lift_ok, pure_bind]
  refine Act.steady_get_bind fun c => ?_
  split
  · exact steady_report (Journal.steady_write _)
  · refine steady_ifEditable _ ?_ (Act.steady_pure _)
    split
    · exact steady_report (Journal.steady_write _)
    · exact (steady_program (ProgramBuilder.steady_addUniform _ _ _ _)).bind fun _ =>
        steady_editStage _

end Construction

theorem StageEdit.steady (edit : StageEdit) :
    (edit.act .release : Act (Construction δ) Unit).Steady Construction.Reliable := by
  cases edit with
  | appendCode text =>
    exact Construction.steady_ifEditable _ (Construction.steady_editStage _) (Act.steady_pure _)
  | addInput input => exact (Construction.steady_addInput input).discard
  | addLayout layout =>
    exact Act.steady_forM fun a => (Construction.steady_addInput a.asInput).discard
  | addOutput base type =>
    refine ((Construction.steady_program (ProgramBuilder.steady_issueName _ base)).bind
      fun name => ?_).discard
    exact Construction.steady_ifEditable _
      ((Construction.steady_editStage _).bind fun _ => Act.steady_pure _) (Act.steady_pure _)
  | emitTransform position => exact Construction.steady_emitTransform position

/-- Only a logger cuts an edit short. -/
theorem Edit.steady (edit : Edit) :
    (edit.act .release : Act (Construction δ) Unit).Steady Construction.Reliable := by
  cases edit with
  | stage change => exact change.steady
  | addUniform visibility type precision base =>
    exact (Construction.steady_program (ProgramBuilder.steady_addUniform _ _ _ _)).discard
  | issueName letter base =>
    exact (Construction.steady_program (ProgramBuilder.steady_issueName _ _)).discard
  | setStage mark => exact Construction.steady_program fun _ _ => trivial

/-- With a reliable logger every edit of an open stage is answered. -/
theorem Edit.answered (edit : Edit) {draft : Draft} {c : Construction δ}
    (describes : draft.Describes c.program c.vertex) (reliable : c.Reliable) :
    ∃ d, (edit.act .release).outcome c = (.ok (), d) ∧ d.Reliable ∧
      (draft.edit edit).Describes d.program d.vertex := by
  have described := edit.describes describes
  have steady := edit.steady c reliable
  rw [Act.ends_iff_outcome] at described steady
  generalize (edit.act .release).outcome c = result at described steady ⊢
  obtain ⟨(fault | panic) | answer, d⟩ := result
  · exact described.elim
  · exact steady.elim
  · exact ⟨d, rfl, steady, described⟩

/-! ## Histories -/

/-- What edits make of a construction. Between the edits the stage may be compiled in vain, and the
    program does what it likes with the session and with other shaders. -/
inductive Construction.Edited [Backend δ] : Construction δ → List Edit → Construction δ → Prop where
  | nil (c : Construction δ) : Edited c [] c
  | edit {c d e : Construction δ} {history : List Edit} (edit : Edit)
      (answered : (edit.act .release).outcome c = (.ok (), d)) (rest : Edited d history e) :
      Edited c (edit :: history) e
  | failedCompile {c d e : Construction δ} {history : List Edit} (program : ProgramId)
      {fault : Fault}
      (failed : (Construction.compile .release program).outcome c = (.error (.fault fault), d))
      (rest : Edited d history e) : Edited c history e
  | elsewhere {c e : Construction δ} {history : List Edit} (shaders : List ShaderId)
      (session : Session δ) (rest : Edited { c with shaders, session } history e) :
      Edited c history e

/-- Whatever the history, the draft of it describes what it leaves. -/
theorem Construction.Edited.describes [Backend δ] {c d : Construction δ} {history : List Edit}
    (edited : c.Edited history d) {draft : Draft} (describes : draft.Describes c.program c.vertex) :
    (history.foldl Draft.edit draft).Describes d.program d.vertex := by
  induction edited generalizing draft with
  | nil c => exact describes
  | edit edit answered rest ih =>
    have added := edit.describes describes
    rw [Act.ends_iff_outcome, answered] at added
    exact ih added
  | @failedCompile c d e history program fault failed rest ih =>
    have kept := c.ends_compile_of_open program describes.editable
    rw [Act.ends_iff_outcome, failed] at kept
    obtain ⟨session, rfl⟩ := kept
    exact ih describes
  | elsewhere shaders session rest ih => exact ih describes

/-- With a reliable logger every history can be gone through. -/
theorem Construction.edited_of_reliable [Backend δ] {c : Construction δ} (reliable : c.Reliable)
    {draft : Draft} (describes : draft.Describes c.program c.vertex) (history : List Edit) :
    ∃ d, c.Edited history d := by
  induction history generalizing c draft with
  | nil => exact ⟨c, .nil c⟩
  | cons edit rest ih =>
    obtain ⟨d, answered, reliable, describes⟩ := edit.answered describes reliable
    obtain ⟨e, edited⟩ := ih reliable describes
    exact ⟨e, .edit edit answered edited⟩

/-- The source is a function of the edits. Begun with a new vertex stage, every history of edits can
    be gone through if the logger is reliable; and whatever was compiled in vain between the edits,
    the source of the stage is in every dialect the draft of the history, written out. -/
theorem source_of_history [Backend δ] {start : Construction δ} (new : start.vertex = {})
    (history : List Edit) :
    (start.Reliable → ∃ d, start.Edited history d) ∧
      ∀ d, start.Edited history d → ∀ dialect,
        d.vertexSource dialect =
          (history.foldl Draft.edit (.ofProgram start.program)).source dialect := by
  have described : (Draft.ofProgram start.program).Describes start.program start.vertex :=
    new ▸ Draft.describes_ofProgram start.program
  refine ⟨fun reliable => start.edited_of_reliable reliable described history, ?_⟩
  intro d edited dialect
  exact (edited.describes described).source_eq dialect

/-- A new stage for a backend that rejects every shader. -/
def rejectingConstruction : Construction Recorder :=
  { bareConstruction with
    session := { bareConstruction.session with backend := { rejection := some "rejected" } } }

/-- A position of one type, declared with two types and transformed with three, and a colour that is
    handed on. -/
def handedOnColour : List Edit :=
  [.stage (.addInput (.vertexInput "position" .vec2)),
    .addUniform .fragment .vec4 .medium "tint",
    .stage (.emitTransform (.vertexInput "position" .vec4)),
    .stage (.emitTransform (.vertexInput "position" .vec2)),
    .stage (.emitTransform (.vertexInput "position" .vec3)),
    .stage (.addInput (.vertexInput "position" .vec3)),
    .stage (.addOutput "colour" .vec4),
    .stage (.appendCode "vcolour = vec4(1);")]

/-- The first declaration and the first transform of a suitable type count, also if the stage is
    rejected in between. -/
theorem source_after_rejection : ∃ d : Construction Recorder,
    rejectingConstruction.Edited handedOnColour d ∧
    d.vertexSource .standardDesktop =
      "#version 140\n" ++ "uniform vec4 urtAdjustment;\n" ++ "in vec2 position;\n"
        ++ "out vec4 vcolour;\n" ++ "void main() \x7b"
        ++ "gl_Position = vec4(position.x * urtAdjustment.x + urtAdjustment.y, "
        ++ "position.y * urtAdjustment.z + urtAdjustment.w, 0, 1);gl_PointSize = 1.0;"
        ++ "vcolour = vec4(1);" ++ "\x7d\n" := by
  have edited : ∃ d, rejectingConstruction.Edited handedOnColour d :=
    ⟨_, .edit _ rfl (.edit _ rfl (.edit _ rfl (.edit _ rfl (.failedCompile ⟨1⟩ rfl (.edit _ rfl
      (.edit _ rfl (.edit _ rfl (.edit _ rfl (.nil _)))))))))⟩
  obtain ⟨d, edited⟩ := edited
  refine ⟨d, edited, ?_⟩
  rw [(source_of_history rfl handedOnColour).2 d edited]
  decide +kernel

end RenderCore
