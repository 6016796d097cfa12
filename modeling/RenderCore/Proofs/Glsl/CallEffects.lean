import RenderCore.Proofs.Glsl.SourceHistory

/-!
# What calls on a stage come to

Each call on a vertex stage changes its program and the stage in one way, or leaves both as they
are. `StageCall.Effect` says once and for all which way, together with the name that the program
hands out on the occasion. It holds in either build, over any backend, and also where the call
reports a fault or is cut short; what holds of programs and stages in the course of a construction
is derived from it.
-/

namespace RenderCore

variable {δ : Type}

/-! ## Changes of a program -/

namespace ProgramBuilder

variable (program : ProgramBuilder)

/-- The program after a name was handed out. -/
def afterName (letter : Option Char) (base : String) : ProgramBuilder :=
  { program with names := (program.names.issue letter base).2 }

/-- The uniform that a registration adds. -/
def newUniform (visibility : Visibility) (type : DataType) (precision : Precision)
    (base : String) : Uniform :=
  { declared := { Variable.uniform (program.names.issue (some 'u') base).1 type with precision }
    visibility }

/-- The program after a uniform was registered. -/
def afterUniform (visibility : Visibility) (type : DataType) (precision : Precision)
    (base : String) : ProgramBuilder :=
  { program.afterName (some 'u') base with
    uniforms := program.uniforms ++ [program.newUniform visibility type precision base] }

theorem ends_issueName (letter : Option Char) (base : String) :
    (issueName letter base).Ends program
      (fun name left => name = (program.names.issue letter base).1 ∧
        left = program.afterName letter base)
      (fun _ _ => False) (fun _ => False) := ⟨rfl, rfl⟩

/-- A debug build registers no uniform that no stage sees. -/
theorem ends_addUniform (build : Build) (visibility : Visibility) (type : DataType)
    (precision : Precision) (base : String) :
    (addUniform build visibility type precision base).Ends program
      (fun given left =>
        given = (⟨program.uniforms.length.toUInt32⟩, (program.names.issue (some 'u') base).1) ∧
          left = program.afterUniform visibility type precision base)
      (fun _ _ => False)
      (fun left => visibility.isEmpty = true ∧ left = program) := by
  unfold addUniform
  refine Act.ends_check_bind (fun _ _ => ⟨rfl, rfl⟩) fun p failed => ⟨?_, rfl⟩
  unfold Build.expect at failed
  split at failed
  · next broken => simpa using broken.2
  · contradiction

/-- What a program makes of what it is asked for, and the name that it hands out. -/
inductive Serves : ProgramBuilder → Option String → ProgramBuilder → Prop where
  | nothing {program : ProgramBuilder} : Serves program none program
  | name {program : ProgramBuilder} (letter : Option Char) (base : String) :
      Serves program (some (program.names.issue letter base).1) (program.afterName letter base)
  | uniform {program : ProgramBuilder} (visibility : Visibility) (type : DataType)
      (precision : Precision) (base : String) :
      Serves program (some (program.names.issue (some 'u') base).1)
        (program.afterUniform visibility type precision base)
  | mark {program : ProgramBuilder} (mark : Option UInt32) :
      Serves program none { program with names := program.names.setStage mark }

/-- The uniform that the position transform registers, as the stage notes it. -/
def newAdjustment : AdjustmentUniform where
  name := (program.names.issue (some 'u') Construction.adjustmentBaseName).1
  handle := ⟨program.uniforms.length.toUInt32⟩

/-- The program after the position transform registered its uniform. -/
def afterAdjustment : ProgramBuilder :=
  program.afterUniform .vertex .vec4 .unspecified Construction.adjustmentBaseName

end ProgramBuilder

/-! ## Effects -/

theorem VertexStage.unadjusted_of_transformOf? {stage : VertexStage} {position : Variable}
    {type : PositionType} (fit : stage.transformOf? position = some type) :
    stage.adjustmentName = none := by
  cases emitted : stage.adjustmentName with
  | none => rfl
  | some name =>
    rw [transformOf?, if_pos (.inl (by rw [emitted]; rfl))] at fit
    contradiction

/-- What a call makes of a program and its stage, and the name that the program hands out for it.
    Of the inputs of a layout a call that is cut short may have declared some. -/
inductive StageCall.Effect : StageCall → ProgramBuilder → VertexStage → Option String →
    ProgramBuilder → VertexStage → Prop where
  | nothing {call : StageCall} {program : ProgramBuilder} {stage : VertexStage} :
      Effect call program stage none program stage
  | code {program : ProgramBuilder} {stage : VertexStage} (text : String)
      (editable : stage.phase ≠ .assembled) :
      Effect (.edit (.appendCode text)) program stage none program (stage.appendCode text)
  | input {program : ProgramBuilder} {stage : VertexStage} (input : Variable)
      (editable : stage.phase ≠ .assembled) :
      Effect (.edit (.addInput input)) program stage none program (stage.addInput input).2
  | layout {program : ProgramBuilder} {stage : VertexStage} {layout : VertexLayout}
      (done : List VertexAttribute) (part : done <+: layout.attributes)
      (editable : stage.phase ≠ .assembled) :
      Effect (.edit (.addLayout layout)) program stage none program
        (stage.addInputs (done.map (·.asInput)))
  | output {program : ProgramBuilder} {stage : VertexStage} (base : String) (type : DataType) :
      Effect (.edit (.addOutput base type)) program stage
        (some (program.names.issue (some 'v') base).1) (program.afterName (some 'v') base)
        (stage.accept (·.addOutput (program.names.issue (some 'v') base).1 type))
  | transform {program : ProgramBuilder} {stage : VertexStage} {position : Variable}
      {type : PositionType} (fit : stage.transformOf? position = some type) :
      Effect (.edit (.emitTransform position)) program stage (some program.newAdjustment.name)
        program.afterAdjustment (stage.addTransform type position.name program.newAdjustment)
  | compiled {program : ProgramBuilder} {stage : VertexStage} (target : ProgramId)
      (editable : stage.phase ≠ .assembled) :
      Effect (.compile target) program stage none program { stage with phase := .assembled }

theorem StageCall.Effect.serves {call : StageCall} {program program' : ProgramBuilder}
    {stage stage' : VertexStage} {name : Option String}
    (effect : call.Effect program stage name program' stage') : program.Serves name program' := by
  cases effect with
  | output base type => exact .name (some 'v') base
  | transform fit => exact .uniform .vertex .vec4 .unspecified Construction.adjustmentBaseName
  | _ => exact .nothing

variable [Backend δ]

/-- The call, carried out. It answers the name that the program hands out for it, if it does: that
    of an output, and that of the adjustment, which the stage holds after the transform. -/
def StageCall.naming (build : Build) : StageCall → Act (Construction δ) (Option String)
  | .edit (.addOutput base type) => do
    let name ← Construction.addOutput build base type
    return some name
  | .edit (.emitTransform position) => do
    let before ← get
    Construction.emitTransform build position
    let after ← get
    return if before.vertex.adjustmentName.isSome then none else after.vertex.adjustmentName
  | call => do
    call.act build
    return none

namespace Construction

/-- What a call has made of a construction, as far as program and stage are concerned. -/
def Made (c : Construction δ) (call : StageCall) (name : Option String) (d : Construction δ) :
    Prop :=
  call.Effect c.program c.vertex name d.program d.vertex

variable {c d : Construction δ} {call : StageCall} {stage : VertexStage} {α : Type}

omit [Backend δ] in
theorem Leaves.made (leaves : c.Leaves stage d)
    (effect : call.Effect c.program c.vertex none c.program stage) : c.Made call none d := by
  obtain ⟨journal, rfl⟩ := leaves
  exact effect

omit [Backend δ] in
/-- An edit that asks nothing of the program. -/
theorem Leaves.made_accept {edit : VertexStage → VertexStage}
    (leaves : c.Leaves (c.vertex.accept edit) d)
    (effect : c.vertex.phase ≠ .assembled →
      call.Effect c.program c.vertex none c.program (edit c.vertex)) :
    c.Made call none d := by
  by_cases assembled : c.vertex.phase = .assembled
  · rw [VertexStage.accept_of_assembled assembled] at leaves
    exact leaves.made .nothing
  · rw [VertexStage.accept_of_open assembled] at leaves
    exact leaves.made (effect assembled)

omit [Backend δ] in
/-- What the program of a construction is asked for. -/
theorem ends_asked {act : Act ProgramBuilder α} {told : α → ProgramBuilder → Prop}
    {cut : ProgramBuilder → Prop} (ends : act.Ends c.program told (fun _ _ => False) cut) :
    (liftM act : Act (Construction δ) α).Ends c
      (fun a d => ∃ program, told a program ∧ d = { c with program }) (fun _ _ => False)
      (fun d => ∃ program, cut program ∧ d = { c with program }) := by
  apply Act.Ends.within
  exact ends.imp (fun _ program told => ⟨program, told, rfl⟩) (fun _ _ failed => failed)
    fun program cut => ⟨program, cut, rfl⟩

omit [Backend δ] in
/-- However an output is declared, its name is handed out first. -/
theorem ends_addOutput_made (c : Construction δ) (build : Build) (base : String)
    (type : DataType) :
    (addOutput build base type).Ends c
      (fun name d => c.Made (.edit (.addOutput base type)) (some name) d) (fun _ _ => False)
      (fun d => ∃ name, c.Made (.edit (.addOutput base type)) name d) := by
  have made : ∀ d, { c with program := c.program.afterName (some 'v') base }.Leaves
        (c.vertex.accept (·.addOutput (c.program.names.issue (some 'v') base).1 type)) d →
      c.Made (.edit (.addOutput base type)) (some (c.program.names.issue (some 'v') base).1) d := by
    rintro d ⟨journal, rfl⟩
    exact .output base type
  have issued : (liftM (StageHost.issueName (some 'v') base : Act ProgramBuilder String) :
        Act (Construction δ) String).Ends c
      (fun name d => name = (c.program.names.issue (some 'v') base).1 ∧
        d = { c with program := c.program.afterName (some 'v') base })
      (fun _ _ => False) (fun _ => False) := by
    refine (ends_asked (c.program.ends_issueName (some 'v') base)).imp (fun name d told => ?_)
      (fun _ _ failed => failed) fun d cut => ?_
    · obtain ⟨program, ⟨named, rfl⟩, rfl⟩ := told
      exact ⟨named, rfl⟩
    · obtain ⟨program, impossible, -⟩ := cut
      exact impossible
  unfold addOutput
  refine (issued.cut fun _ impossible => impossible.elim).bind fun name d given => ?_
  obtain ⟨rfl, rfl⟩ := given
  refine ends_ifEditable (fun editable => ?_) (fun assembled d left => ?_) fun assembled d cut => ?_
  · apply ends_editStage_bind
    refine Act.ends_pure (made _ ?_)
    rw [VertexStage.accept_of_open editable]
    exact .edit _ _
  · refine Act.ends_pure (made d ?_)
    rw [VertexStage.accept_of_assembled assembled]
    exact left
  · refine ⟨_, made d ?_⟩
    rw [VertexStage.accept_of_assembled assembled]
    exact cut.2

omit [Backend δ] in
/-- A transform that is refused or cut short leaves program and stage as they are. -/
theorem ends_emitTransform_made (c : Construction δ) (build : Build) (position : Variable) :
    (emitTransform build position).Ends c
      (fun _ d => c.Leaves c.vertex d ∨ ∃ type, c.vertex.transformOf? position = some type ∧
        d = { c with
          program := c.program.afterAdjustment
          vertex := c.vertex.addTransform type position.name c.program.newAdjustment })
      (fun _ _ => False) (c.Leaves c.vertex) := by
  have reported : ∀ text entry,
      ((liftM (build.expect false text) : Act (Construction δ) Unit) >>=
        fun _ => (liftM (Journal.write entry) : Act (Construction δ) Unit)).Ends c
        (fun _ => c.Leaves c.vertex) (fun _ _ => False) (c.Leaves c.vertex) := by
    intro text entry
    refine Act.ends_check_bind (fun _ _ => ?_) fun _ _ => .refl c
    exact (ends_write c entry).cut fun _ cut => cut.2
  unfold emitTransform
  apply Act.ends_get_bind
  split
  · exact (reported _ _).ok fun _ _ left => .inl left
  · next unemitted =>
    refine ends_ifEditable (fun editable => ?_) (fun assembled d left => ?_)
      fun assembled d cut => ?_
    · split
      · exact (reported _ _).ok fun _ _ left => .inl left
      · next type kind =>
        have fit : c.vertex.transformOf? position = some type :=
          (if_neg (not_or.mpr ⟨unemitted, editable⟩)).trans kind
        have registered : (liftM (StageHost.addUniform build .vertex .vec4 .unspecified
              adjustmentBaseName : Act ProgramBuilder (UniformHandle × String)) :
              Act (Construction δ) (UniformHandle × String)).Ends c
            (fun given d => given = (c.program.newAdjustment.handle, c.program.newAdjustment.name) ∧
              d = { c with program := c.program.afterAdjustment })
            (fun _ _ => False) (fun _ => False) := by
          refine (ends_asked (c.program.ends_addUniform build .vertex .vec4 .unspecified
            adjustmentBaseName)).imp (fun given d told => ?_) (fun _ _ failed => failed)
            fun d cut => ?_
          · obtain ⟨program, ⟨given, rfl⟩, rfl⟩ := told
            exact ⟨given, rfl⟩
          · obtain ⟨program, ⟨unseen, -⟩, -⟩ := cut
            exact absurd unseen (by decide)
        refine (registered.cut fun _ impossible => impossible.elim).bind fun given d told => ?_
        obtain ⟨rfl, rfl⟩ := told
        exact ends_editStage (.inr ⟨type, fit, rfl⟩)
    · exact Act.ends_pure (.inl left)
    · exact cut.2

/-- Compiling asks nothing of the program and leaves the stage as it is, or finishes it. -/
theorem ends_compile_made (c : Construction δ) (build : Build) (target : ProgramId) :
    (compile build target).Ends c (fun _ => c.Made (.compile target) none)
      (fun _ => c.Made (.compile target) none) (c.Made (.compile target) none) := by
  unfold compile
  apply Act.ends_get_bind
  split
  · refine Act.ends_check_bind (fun _ _ => ?_) fun _ _ => (Leaves.refl c).made .nothing
    have refused : ∀ text, (liftM (Journal.refuse component text : Act Journal Unit) :
          Act (Construction δ) Unit).Ends c (fun _ _ => False)
        (fun _ => c.Made (.compile target) none) (c.Made (.compile target) none) := by
      intro text
      exact (ends_report (Journal.ends_refuse component text _)).imp (fun _ _ ok => ok.1)
        (fun _ _ failed => failed.2.made .nothing) fun _ cut => cut.2.made .nothing
    exact (refused _).bind fun _ _ impossible => impossible.elim
  · next editable =>
    have attached : ∀ session : Session δ, c.Made (.compile target) none { c with session } :=
      fun _ => .nothing
    refine ((ends_session c _).imp (fun _ _ ok => ok) (fun _ d failed => ?_)
      fun d cut => ?_).bind fun shader d ok => ?_
    · obtain ⟨session, rfl⟩ := failed
      exact attached session
    · obtain ⟨session, rfl⟩ := cut
      exact attached session
    · obtain ⟨session, rfl⟩ := ok
      have finished : ∀ d, ({ c with
            vertex := { c.vertex with phase := .assembled }
            shaders := c.shaders ++ [shader]
            session } : Construction δ).Leaves { c.vertex with phase := .assembled } d →
          c.Made (.compile target) none d := by
        rintro d ⟨journal, rfl⟩
        exact .compiled target editable
      apply Act.ends_modify_bind
      apply ends_editStage_bind
      refine ((ends_write _ _).imp (fun _ _ left => left) (fun _ _ failed => failed.elim)
        fun d cut => finished d cut.2).bind fun _ d left => ?_
      exact Act.ends_pure (finished d left)

end Construction

/-- Every call comes to an effect, in either build and however it ends. Where it answers a name, the
    name is the one of its effect. -/
theorem StageCall.ends_naming (call : StageCall) (c : Construction δ) (build : Build) :
    (call.naming build).Ends c (c.Made call) (fun _ d => ∃ name, c.Made call name d)
      (fun d => ∃ name, c.Made call name d) := by
  have unnamed : ∀ {act : Act (Construction δ) Unit},
      act.Ends c (fun _ => c.Made call none) (fun _ => c.Made call none) (c.Made call none) →
      (act >>= fun _ => pure none).Ends c (c.Made call) (fun _ d => ∃ name, c.Made call name d)
        (fun d => ∃ name, c.Made call name d) := by
    intro act ends
    refine (ends.imp (fun _ _ ok => ok) (fun _ d failed => ?_) fun d cut => ?_).bind
      fun _ _ ok => Act.ends_pure ok
    · exact ⟨none, failed⟩
    · exact ⟨none, cut⟩
  cases call with
  | edit change =>
    cases change with
    | appendCode text =>
      have made : ∀ d, c.Leaves (c.vertex.accept (·.appendCode text)) d →
          c.Made (.edit (.appendCode text)) none d :=
        fun d left => left.made_accept fun editable => .code text editable
      exact unnamed ((c.ends_appendCode text).imp (fun _ => made) (fun _ _ failed => failed.elim)
        made)
    | addInput input =>
      have made : ∀ d, c.Leaves (c.vertex.accept fun stage => (stage.addInput input).2) d →
          c.Made (.edit (.addInput input)) none d :=
        fun d left => left.made_accept fun editable => .input input editable
      refine unnamed ((c.ends_addInput_checked build input).imp (fun _ d ok => made d ok.2)
        (fun _ _ failed => failed.elim) fun d cut => ?_).discard
      obtain kept | cut := cut
      · exact kept.2.made .nothing
      · exact made d cut.2
    | addLayout layout =>
      have made : ∀ done, done <+: layout.attributes → ∀ d,
          c.Leaves (c.vertex.accept (·.addInputs (done.map (·.asInput)))) d →
          c.Made (.edit (.addLayout layout)) none d :=
        fun done part d left => left.made_accept fun editable => .layout done part editable
      refine unnamed ((c.ends_addInputs layout.attributes).imp
        (fun _ => made _ (List.prefix_refl _)) (fun _ _ failed => failed.elim) fun d cut => ?_)
      obtain ⟨done, part, left⟩ := cut
      exact made done part d left
    | addOutput base type =>
      exact (c.ends_addOutput_made build base type).unfailing.bind fun _ _ made =>
        Act.ends_pure made
    | emitTransform position =>
      apply Act.ends_get_bind
      refine (((c.ends_emitTransform_made build position).cut fun d left => ?_).unfailing).bind
        fun _ d ok => ?_
      · exact ⟨none, left.made .nothing⟩
      · apply Act.ends_get_bind
        refine Act.ends_pure ?_
        obtain left | ⟨type, fit, rfl⟩ := ok
        · have name : (if c.vertex.adjustmentName.isSome then none else d.vertex.adjustmentName) =
              none := by
            rw [left.vertex_eq]
            cases c.vertex.adjustmentName <;> rfl
          rw [name]
          exact left.made .nothing
        · rw [VertexStage.unadjusted_of_transformOf? fit]
          exact .transform fit
  | bindAttributes target =>
    have elsewhere : ∀ session : Session δ,
        c.Made (.bindAttributes target) none { c with session } := fun _ => .nothing
    refine unnamed ((c.ends_bindAttributes target).imp (fun _ _ ok => ?_) (fun _ _ failed => ?_)
      fun _ cut => ?_)
    · obtain ⟨session, rfl⟩ := ok
      exact elsewhere session
    · obtain ⟨session, rfl⟩ := failed
      exact elsewhere session
    · obtain ⟨session, rfl⟩ := cut
      exact elsewhere session
  | compile target => exact unnamed (c.ends_compile_made build target).discard

end RenderCore
