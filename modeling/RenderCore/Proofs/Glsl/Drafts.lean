import RenderCore.Proofs.Glsl.StageLife

/-!
# Drafts of a source

A draft collects what edits add to the source of a vertex stage, in the order of the calls:
uniforms, inputs, outputs and statements, under the names that the program gives them. It is written
out as one text. A draft describes a stage and its program if they hold what it says; this module
shows for each change of a stage or a program that the description stays right.
-/

namespace RenderCore

/-- A call that edits a program or its vertex stage. -/
inductive Edit where
  | stage (edit : StageEdit)
  | addUniform (visibility : Visibility) (type : DataType) (precision : Precision) (base : String)
  | issueName (letter : Option Char) (base : String)
  | setStage (stage : Option UInt32)

/-! ## Drafts -/

/-- What an edit adds to the source. -/
inductive Piece where
  | uniform (uniform : Uniform)
  | input (input : Variable)
  | output (output : Variable)
  | code (text : String)

namespace Piece

/-- The uniform that the piece is. -/
@[simp] def uniform? : Piece → Option Uniform
  | .uniform u => some u
  | .input _ | .output _ | .code _ => none

/-- The input that the piece is. -/
@[simp] def input? : Piece → Option Variable
  | .input v => some v
  | .uniform _ | .output _ | .code _ => none

/-- The output that the piece is. -/
@[simp] def output? : Piece → Option Variable
  | .output v => some v
  | .uniform _ | .input _ | .code _ => none

/-- The statements that the piece is. -/
@[simp] def code? : Piece → Option String
  | .code text => some text
  | .uniform _ | .input _ | .output _ => none

end Piece

/-- Whether two variables have one name. -/
def Variable.sameName (v w : Variable) : Bool := v.name = w.name

/-- What edits have come to so far. -/
structure Draft where
  /-- What was added, in the order of the calls. -/
  pieces : List Piece
  /-- The names given. -/
  names : NameSupply
  /-- Whether a transform was among the edits, of a position of a type that has one. -/
  transformed : Bool := false

/-- An item at the end is kept unless a kept one duplicates it. -/
theorem eraseDupsBy_concat {α : Type} (same : α → α → Bool) (items : List α) (last : α) :
    (items ++ [last]).eraseDupsBy same =
      if (items.eraseDupsBy same).any (same last) then items.eraseDupsBy same
      else items.eraseDupsBy same ++ [last] := by
  suffices looped : ∀ kept, List.eraseDupsBy.loop same (items ++ [last]) kept =
      if (List.eraseDupsBy.loop same items kept).any (same last) then
        List.eraseDupsBy.loop same items kept
      else List.eraseDupsBy.loop same items kept ++ [last] from looped []
  induction items with
  | nil =>
    intro kept
    simp only [List.nil_append, List.eraseDupsBy.loop, List.any_reverse]
    cases kept.any (same last) <;> simp
  | cons item rest ih =>
    intro kept
    rw [List.cons_append, List.eraseDupsBy.loop, List.eraseDupsBy.loop]
    split <;> exact ih _

theorem Declarations.members_pushUnique (block : Declarations) (v : Variable) :
    (block.pushUnique v).2.members =
      if block.members.any v.sameName then block.members else block.members ++ [v] := by
  have taken : block.declares v.name = block.members.any v.sameName := by
    rw [Bool.eq_iff_iff]
    simp [declares, find?, Variable.sameName, eq_comm (a := v.name)]
  unfold pushUnique
  rw [taken]
  split <;> rfl

namespace Draft

/-- The draft of a program whose vertex stage is new. -/
def ofProgram (program : ProgramBuilder) : Draft where
  pieces := program.uniforms.map .uniform
  names := program.names

/-- Adds pieces. -/
def add (draft : Draft) (pieces : List Piece) : Draft :=
  { draft with pieces := draft.pieces ++ pieces }

/-- Adds pieces that need a new name. -/
def addNamed (draft : Draft) (letter : Option Char) (base : String) (pieces : String → List Piece) :
    Draft :=
  { draft.add (pieces (draft.names.issue letter base).1) with
    names := (draft.names.issue letter base).2 }

/-- Adds the transform of a position and the uniform for its adjustment. Only the first transform
    counts, and only for a type that has one. -/
def transform (draft : Draft) (position : Variable) : Draft :=
  match PositionType.ofDataType? position.type with
  | none => draft
  | some type =>
    if draft.transformed then draft
    else
      { draft with transformed := true }.addNamed (some 'u') Construction.adjustmentBaseName
        fun name =>
          [.uniform { declared := .uniform name .vec4, visibility := .vertex },
            .code (transformCode type position.name name)]

/-- What the edits have come to after one more edit of the stage. -/
def editStage (draft : Draft) : StageEdit → Draft
  | .appendCode text => draft.add [.code text]
  | .addInput input => draft.add [.input input]
  | .addLayout layout => draft.add (layout.attributes.map (.input ·.asInput))
  | .addOutput base type =>
    draft.addNamed (some 'v') base fun name => [.output { name, type, storage := .varyingOut }]
  | .emitTransform position => draft.transform position

/-- What the edits have come to after one more. -/
def edit (draft : Draft) : Edit → Draft
  | .stage change => draft.editStage change
  | .addUniform visibility type precision base =>
    draft.addNamed (some 'u') base fun name =>
      [.uniform { declared := { Variable.uniform name type with precision }, visibility }]
  | .issueName letter base => draft.addNamed letter base fun _ => []
  | .setStage mark => { draft with names := draft.names.setStage mark }

/-- The draft, written out: the version, a line for each uniform that the vertex stage sees, for
    each input that is the first of its name, and for each output, and the main function. -/
def source (draft : Draft) (dialect : Dialect) : String :=
  let uniforms := draft.pieces.filterMap Piece.uniform?
  let inputs := (draft.pieces.filterMap Piece.input?).eraseDupsBy Variable.sameName
  let outputs := draft.pieces.filterMap Piece.output?
  let lines (block : List Variable) : String :=
    String.join (block.map fun v => v.declaration dialect ++ ";\n")
  dialect.versionLine
    ++ lines ((uniforms.filter (·.visibility.meets .vertex)).map (·.declared)) ++ lines inputs
    ++ lines outputs
    ++ "void main() \x7b" ++ String.join (draft.pieces.filterMap Piece.code?) ++ "\x7d\n"

@[simp] theorem pieces_add (draft : Draft) (pieces : List Piece) :
    (draft.add pieces).pieces = draft.pieces ++ pieces := rfl

/-! ## A draft and the stage it describes -/

/-- The stage can be edited, and it and its program hold what the draft says. -/
structure Describes (draft : Draft) (program : ProgramBuilder) (stage : VertexStage) : Prop where
  editable : stage.phase ≠ .assembled
  uniforms : program.uniforms = draft.pieces.filterMap Piece.uniform?
  names : program.names = draft.names
  inputs : stage.inputs.members =
    (draft.pieces.filterMap Piece.input?).eraseDupsBy Variable.sameName
  outputs : stage.outputs.members = draft.pieces.filterMap Piece.output?
  code : stage.code = String.join (draft.pieces.filterMap Piece.code?)
  transformed : stage.adjustmentName.isSome = draft.transformed

variable {draft : Draft} {program : ProgramBuilder} {stage : VertexStage}

theorem describes_ofProgram (program : ProgramBuilder) :
    (ofProgram program).Describes program {} := by
  have none_else : ∀ {β : Type} (pick : Piece → Option β), (∀ u, pick (.uniform u) = none) →
      (ofProgram program).pieces.filterMap pick = [] := by
    intro β pick none
    exact List.filterMap_eq_nil_iff.mpr (by simp [ofProgram, none])
  have uniforms : (ofProgram program).pieces.filterMap Piece.uniform? = program.uniforms := by
    simp [ofProgram, List.filterMap_map, Function.comp_def, Piece.uniform?]
  refine ⟨nofun, uniforms.symm, rfl, ?_, ?_, ?_, rfl⟩
  · rw [none_else Piece.input? fun _ => rfl]
    rfl
  · rw [none_else Piece.output? fun _ => rfl]
  · rw [none_else Piece.code? fun _ => rfl]
    rfl

/-- The stage that a draft describes has the draft for its source. -/
theorem Describes.source_eq (describes : draft.Describes program stage) (dialect : Dialect) :
    stage.source program dialect = draft.source dialect := by
  unfold VertexStage.source Draft.source Declarations.text
  rw [describes.inputs, describes.outputs, describes.code, ← describes.uniforms]
  rfl

/-- A piece of another kind adds nothing to a table. -/
theorem table_add {β : Type} {pick : Piece → Option β} {piece : Piece} (other : pick piece = none) :
    draft.pieces.filterMap pick = (draft.add [piece]).pieces.filterMap pick := by
  simp [other]

/-- The first edit of a stage adds nothing by itself. -/
theorem Describes.begun (describes : draft.Describes program stage) :
    draft.Describes program stage.begun := by
  unfold VertexStage.begun
  split
  · exact { describes with editable := nofun }
  · exact describes

theorem Describes.appendCode (describes : draft.Describes program stage) (text : String) :
    (draft.add [.code text]).Describes program (stage.appendCode text) where
  editable := describes.begun.editable
  uniforms := describes.uniforms.trans (table_add rfl)
  names := describes.names
  inputs := describes.begun.inputs.trans (congrArg (List.eraseDupsBy _) (table_add rfl))
  outputs := describes.begun.outputs.trans (table_add rfl)
  code := by simp [VertexStage.appendCode, describes.code, String.join_append]
  transformed := describes.begun.transformed

theorem Describes.addInput (describes : draft.Describes program stage) (input : Variable) :
    (draft.add [.input input]).Describes program (stage.addInput input).2 where
  editable := describes.begun.editable
  uniforms := describes.uniforms.trans (table_add rfl)
  names := describes.names
  inputs := by
    show (stage.inputs.pushUnique input).2.members = _
    rw [Declarations.members_pushUnique, describes.inputs]
    simp [eraseDupsBy_concat]
  outputs := describes.begun.outputs.trans (table_add rfl)
  code := describes.begun.code.trans (congrArg String.join (table_add rfl))
  transformed := describes.begun.transformed

theorem Describes.addInputs (describes : draft.Describes program stage) (inputs : List Variable) :
    (draft.add (inputs.map .input)).Describes program (stage.addInputs inputs) := by
  induction inputs generalizing draft stage with
  | nil =>
    have same : draft.add [] = draft := by simp [Draft.add]
    exact same.symm ▸ describes
  | cons input rest ih =>
    have regrouped : draft.add ((input :: rest).map .input) =
        (draft.add [.input input]).add (rest.map .input) := by
      simp [Draft.add]
    rw [regrouped]
    exact ih (describes.addInput input)

theorem Describes.addOutput (describes : draft.Describes program stage) (name : String)
    (type : DataType) :
    (draft.add [.output { name, type, storage := .varyingOut }]).Describes program
      (stage.addOutput name type) where
  editable := describes.begun.editable
  uniforms := describes.uniforms.trans (table_add rfl)
  names := describes.names
  inputs := describes.begun.inputs.trans (congrArg (List.eraseDupsBy _) (table_add rfl))
  outputs := by simp [VertexStage.addOutput, Declarations.push, describes.outputs]
  code := describes.begun.code.trans (congrArg String.join (table_add rfl))
  transformed := describes.begun.transformed

theorem Describes.addUniform (describes : draft.Describes program stage) (uniform : Uniform) :
    (draft.add [.uniform uniform]).Describes
      { program with uniforms := program.uniforms ++ [uniform] } stage where
  editable := describes.editable
  uniforms := by simp [describes.uniforms]
  names := describes.names
  inputs := describes.inputs.trans (congrArg (List.eraseDupsBy _) (table_add rfl))
  outputs := describes.outputs.trans (table_add rfl)
  code := describes.code.trans (congrArg String.join (table_add rfl))
  transformed := describes.transformed

/-- The transform adds its statements to the stage. -/
theorem Describes.addTransform (describes : draft.Describes program stage) (type : PositionType)
    (position : String) (adjustment : AdjustmentUniform) :
    ({ draft with transformed := true }.add
        [.code (transformCode type position adjustment.name)]).Describes program
      (stage.addTransform type position adjustment) where
  editable := nofun
  uniforms := describes.uniforms.trans (table_add rfl)
  names := describes.names
  inputs := describes.inputs.trans (congrArg (List.eraseDupsBy _) (table_add rfl))
  outputs := describes.outputs.trans (table_add rfl)
  code := by simp [VertexStage.addTransform, describes.code, String.join_append]
  transformed := rfl

/-- A name that the program hands out is the one in the draft. -/
theorem Describes.addNamed {issuer : ProgramBuilder} {other : String → ProgramBuilder}
    {stage : String → VertexStage} {letter : Option Char} {base : String}
    {pieces : String → List Piece}
    (describes : ∀ name, (draft.add (pieces name)).Describes (other name) (stage name))
    (names : issuer.names = draft.names) :
    (draft.addNamed letter base pieces).Describes
      { other (issuer.names.issue letter base).1 with
        names := (issuer.names.issue letter base).2 }
      (stage (issuer.names.issue letter base).1) := by
  rw [names]
  exact { describes _ with names := rfl }

end Draft

end RenderCore
