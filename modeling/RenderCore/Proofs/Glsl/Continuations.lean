import Mathlib.Data.List.Induction
import RenderCore.Proofs.Effect.Twins
import RenderCore.Proofs.Glsl.Compilations
import RenderCore.Proofs.Glsl.SourceHistory
import RenderCore.Proofs.Gpu.SoftwareShaders

/-!
# What comes after a compilation

A stage whose compilation failed is the stage that it was. So is its program; only the session has
changed. Whatever is done afterwards with the two comes to what it would have come to without the
failed compilation, until the backend itself answers another compilation differently.
-/

namespace RenderCore

variable {δ π α : Type}

/-! ## Steps -/

/-- What an edit of a stage answers with. -/
def StageEdit.Answer : StageEdit → Type
  | .addInput _ => Bool
  | .addOutput _ _ => String
  | _ => Unit

/-- A step of a program on a construction. -/
inductive StageStep (π : Type) : Type 1 where
  | edit (change : StageEdit)
  /-- Whatever is asked of the program under construction. -/
  | ask {α : Type} (request : Act π α)
  | bindAttributes (target : ProgramId)
  | compile (target : ProgramId)

namespace StageStep

/-- What a step answers with. The name of a shader is left out. -/
def Answer : StageStep π → Type
  | .edit change => change.Answer
  | @ask _ α _ => α
  | .bindAttributes _ => Unit
  | .compile _ => Unit

/-- The step is about the stage or its program, and not about the backend. -/
def Edits : StageStep π → Prop
  | .edit _ => True
  | .ask _ => True
  | .bindAttributes _ => False
  | .compile _ => False

end StageStep

section

variable [StageHost π]

/-- The edit, carried out, with its answer. -/
def StageEdit.answering (build : Build) : (edit : StageEdit) → Act (Construction δ π) edit.Answer
  | .appendCode text => Construction.appendCode build text
  | .addInput input => Construction.addInput build input
  | .addLayout layout => Construction.addLayout build layout
  | .addOutput base type => Construction.addOutput build base type
  | .emitTransform position => Construction.emitTransform build position

variable [Backend δ]

/-- The step, carried out. -/
def StageStep.act (build : Build) : (step : StageStep π) → Act (Construction δ π) step.Answer
  | .edit change => change.answering build
  | .ask request => (request : Act π _)
  | .bindAttributes target => Construction.bindAttributes target
  | .compile target => discard (Construction.compile build target)

end

/-! ## Constructions that differ in their sessions -/

/-- Sessions of the same dialect over backends that are `kin`. -/
def Session.Alike (kin : δ → δ → Prop) (s t : Session δ) : Prop :=
  s.dialect = t.dialect ∧ kin s.backend t.backend

namespace Construction

/-- The same program and the same stage, in sessions of the same dialect over backends that are
    `kin`. -/
structure Alike (kin : δ → δ → Prop) (c d : Construction δ π) : Prop where
  program : c.program = d.program
  vertex : c.vertex = d.vertex
  session : c.session.Alike kin d.session

variable {kin : δ → δ → Prop} {build : Build} {c d : Construction δ π}

theorem Alike.withVertex (alike : c.Alike kin d) {vertex vertex' : VertexStage}
    (same : vertex = vertex') : Alike kin { c with vertex } { d with vertex := vertex' } :=
  ⟨alike.program, same, alike.session⟩

theorem twins_session {act : Act (Session δ) α} (twins : act.Twins act (Session.Alike kin)) :
    (liftM act : Act (Construction δ π) α).Twins (liftM act) (Alike kin) :=
  twins.within (fun _ _ alike => alike.session)
    fun _ _ _ _ alike same => ⟨alike.program, alike.vertex, same⟩

theorem twins_report {act : Act Journal α} (twins : act.Twins act fun _ _ => True) :
    (liftM act : Act (Construction δ π) α).Twins (liftM act) (Alike kin) := by
  have reported : (liftM act : Act (Session δ) α).Twins (liftM act) (Session.Alike kin) :=
    twins.within (fun _ _ _ => trivial) fun _ _ _ _ same _ => same
  exact twins_session reported

theorem twins_write (entry : Entry) :
    (liftM (Journal.write entry) : Act (Construction δ π) Unit).Twins
      (liftM (Journal.write entry)) (Alike kin) :=
  twins_report (Journal.twins_write entry)

/-- What is asked of the program, it answers alike. -/
theorem twins_ask (request : Act π α) :
    (liftM request : Act (Construction δ π) α).Twins (liftM request) (Alike kin) :=
  (Act.twins_self request).within (fun _ _ alike => alike.program)
    fun _ _ _ _ alike same => ⟨same, alike.vertex, alike.session⟩

theorem twins_editStage (edit : VertexStage → VertexStage) :
    (editStage edit : Act (Construction δ π) Unit).Twins (editStage edit) (Alike kin) :=
  Act.twins_modify fun _ _ alike => alike.withVertex (congrArg edit alike.vertex)

theorem twins_checkEditable (what : String) :
    (checkEditable build what : Act (Construction δ π) Bool).Twins (checkEditable build what)
      (Alike kin) := by
  unfold checkEditable
  refine Act.twins_get_bind fun c d alike => ?_
  rw [alike.vertex]
  split
  · refine (Act.twins_check _).bind fun _ => ?_
    exact (twins_write _).bind fun _ => Act.twins_pure _
  · exact Act.twins_pure _

theorem twins_ifEditable (what : String) {yes no : Act (Construction δ π) α}
    (editable : yes.Twins yes (Alike kin)) (refused : no.Twins no (Alike kin)) :
    (checkEditable build what >>= fun ok => if ok = true then yes else no).Twins
      (checkEditable build what >>= fun ok => if ok = true then yes else no) (Alike kin) := by
  refine (twins_checkEditable what).bind fun ok => ?_
  split
  · exact editable
  · exact refused

theorem twins_addInput (input : Variable) :
    (addInput build input : Act (Construction δ π) Bool).Twins (addInput build input)
      (Alike kin) := by
  unfold addInput
  refine (Act.twins_check _).bind fun _ => twins_ifEditable _ ?_ (Act.twins_pure _)
  refine Act.twins_get_bind fun c d alike => ?_
  rw [alike.vertex]
  refine (twins_editStage _).bind fun _ => ?_
  split
  · exact (twins_write _).bind fun _ => Act.twins_pure _
  · exact Act.twins_pure _

theorem twins_emitTransform [StageHost π] (position : Variable) :
    (emitTransform build position : Act (Construction δ π) Unit).Twins
      (emitTransform build position) (Alike kin) := by
  unfold emitTransform
  refine Act.twins_get_bind fun c d alike => ?_
  rw [alike.vertex]
  split
  · exact (Act.twins_check _).bind fun _ => twins_write _
  · refine twins_ifEditable _ ?_ (Act.twins_pure _)
    split
    · exact (Act.twins_check _).bind fun _ => twins_write _
    · exact (twins_ask _).bind fun _ => twins_editStage _

end Construction

open Construction

variable [StageHost π] {kin : δ → δ → Prop} {build : Build}

/-- Whatever the sessions, an edit is answered alike. -/
theorem StageEdit.twins (edit : StageEdit) :
    (edit.answering build : Act (Construction δ π) edit.Answer).Twins (edit.answering build)
      (Alike kin) := by
  cases edit with
  | appendCode text => exact twins_ifEditable _ (twins_editStage _) (Act.twins_pure _)
  | addInput input => exact twins_addInput input
  | addLayout layout => exact Act.twins_forM fun a => (twins_addInput a.asInput).discard
  | addOutput base type =>
    refine (twins_ask _).bind fun name => ?_
    exact twins_ifEditable _ ((twins_editStage _).bind fun _ => Act.twins_pure _) (Act.twins_pure _)
  | emitTransform position => exact twins_emitTransform position

variable [Backend δ]

theorem Session.twins_bindAttribute (respects : Backend.Respects kin) (target : ProgramId)
    (slot : UInt32) (name : String) :
    (bindAttribute target slot name : Act (Session δ) Unit).Twins (bindAttribute target slot name)
      (Alike kin) := by
  have called : (onBackend (Backend.bindAttribute target slot name) : Act (Session δ) Unit).Twins
      (onBackend (Backend.bindAttribute target slot name)) (Alike kin) :=
    (respects.bind target slot name).within (fun _ _ alike => alike.2)
      fun _ _ _ _ alike kept => ⟨alike.1, kept⟩
  exact called.bind fun _ => Act.twins_modify fun _ _ alike => alike

namespace Construction

theorem twins_bindAttributes (respects : Backend.Respects kin) (target : ProgramId) :
    (bindAttributes target : Act (Construction δ π) Unit).Twins (bindAttributes target)
      (Alike kin) := by
  unfold bindAttributes
  refine Act.twins_get_bind fun c d alike => ?_
  rw [alike.program]
  exact Act.twins_forM fun item => twins_session (Session.twins_bindAttribute respects target _ _)

theorem twins_compile (respects : Backend.Respects kin) (target : ProgramId) :
    (discard (compile build target) : Act (Construction δ π) Unit).Twins
      (discard (compile build target)) (Alike kin) := by
  intro c d alike
  rw [Act.outcome_discard, Act.outcome_discard]
  by_cases assembled : c.vertex.phase = .assembled
  · rw [compile_outcome_of_assembled build target assembled,
      compile_outcome_of_assembled build target (alike.vertex ▸ assembled)]
    cases build.expect false "vertex shader compiled twice" with
    | error panic => exact .inl ⟨rfl, alike⟩
    | ok passed =>
      dsimp only
      rw [Journal.map_heeded, Journal.map_heeded]
      exact .of_heeded ⟨alike.program, alike.vertex, alike.session⟩
  · have source : d.vertexSource d.session.dialect = c.vertexSource c.session.dialect := by
      unfold vertexSource
      rw [alike.vertex, alike.program, alike.session.1]
    have called := respects.attach target .vertex (c.vertexSource c.session.dialect) _ _
      alike.session.2
    rw [Act.outcome_discard, Act.outcome_discard] at called
    rw [compile_outcome build target assembled,
      compile_outcome build target (alike.vertex ▸ assembled), source]
    generalize (Backend.attachShader target .vertex (c.vertexSource c.session.dialect)).outcome
      c.session.backend = left at called ⊢
    generalize (Backend.attachShader target .vertex (c.vertexSource c.session.dialect)).outcome
      d.session.backend = right at called ⊢
    obtain ⟨same, kept⟩ | cut | cut := called
    · rcases left with ⟨(reason | panic) | shader, backend⟩ <;>
        rcases right with ⟨(reason' | panic') | shader', backend'⟩ <;> cases same
      · dsimp only
        rw [Journal.map_heeded, Journal.map_heeded]
        exact .of_heeded ⟨alike.program, alike.vertex, alike.session.1, kept⟩
      · exact .inl ⟨rfl, alike.program, alike.vertex, alike.session.1, kept⟩
      · dsimp only
        rw [Journal.map_heeded, Journal.map_heeded]
        refine .of_heeded ⟨alike.program, ?_, alike.session.1, kept⟩
        exact congrArg (fun stage : VertexStage => { stage with phase := .assembled }) alike.vertex
    · rcases left with ⟨(reason | panic) | shader, backend⟩ <;> cases cut
      exact .inr (.inl rfl)
    · rcases right with ⟨(reason | panic) | shader, backend⟩ <;> cases cut
      exact .inr (.inr rfl)

/-- Binding attributes is left to the session, which keeps its dialect. -/
theorem keeps_bindAttributes (target : ProgramId) {held : Construction δ π → Prop}
    (kept : ∀ c session, held c → session.dialect = c.session.dialect → held { c with session }) :
    (bindAttributes target).Keeps held := by
  have bound : ∀ (dialect : Dialect) slot name,
      (Session.bindAttribute target slot name : Act (Session δ) Unit).Keeps
        fun session => session.dialect = dialect := by
    intro dialect slot name
    have called : (Session.onBackend (Backend.bindAttribute target slot name) :
        Act (Session δ) Unit).Keeps fun session => session.dialect = dialect :=
      (Act.keeps_true _).within (fun _ _ => trivial) fun _ _ same _ => same
    exact called.bind fun _ => Act.keeps_modify fun _ same => same
  unfold bindAttributes
  refine Act.keeps_get_bind fun _ => Act.keeps_forM fun item c start => ?_
  refine Act.Ends.within ((bound c.session.dialect _ _ c.session rfl).imp ?_ ?_ ?_)
  · exact fun _ session same => kept c session start same
  · exact fun _ session same => kept c session start same
  · exact fun session same => kept c session start same

/-- Compiling leaves the program alone, and finishes the stage if it answers. -/
theorem compile_left (target : ProgramId) (c : Construction δ π) {outcome : Except Stop Unit}
    {d : Construction δ π}
    (compiled : (discard (compile build target) : Act (Construction δ π) Unit).outcome c =
      (outcome, d)) (quiet : outcome ≠ .error .logger) :
    d.program = c.program ∧ d.session.dialect = c.session.dialect ∧
      d.vertex = bif outcome.isOk then { c.vertex with phase := .assembled } else c.vertex := by
  rw [Act.outcome_discard] at compiled
  by_cases assembled : c.vertex.phase = .assembled
  · rw [compile_outcome_of_assembled build target assembled] at compiled
    cases expected : build.expect false "vertex shader compiled twice" with
    | error panic =>
      rw [expected] at compiled
      obtain ⟨rfl, rfl⟩ := Prod.mk.inj compiled
      exact ⟨rfl, rfl, rfl⟩
    | ok passed =>
      rw [expected] at compiled
      dsimp only at compiled
      rw [Journal.heeded_error] at compiled
      obtain ⟨rfl, rfl⟩ := Prod.mk.inj compiled
      exact ⟨rfl, rfl, rfl⟩
  · rw [compile_outcome build target assembled] at compiled
    generalize (Backend.attachShader target .vertex (c.vertexSource c.session.dialect)).outcome
      c.session.backend = called at compiled
    rcases called with ⟨(reason | panic) | shader, backend⟩
    · dsimp only at compiled
      rw [Journal.heeded_error] at compiled
      obtain ⟨rfl, rfl⟩ := Prod.mk.inj compiled
      exact ⟨rfl, rfl, rfl⟩
    · obtain ⟨rfl, rfl⟩ := Prod.mk.inj compiled
      exact ⟨rfl, rfl, rfl⟩
    · dsimp only at compiled
      rw [Journal.map_heeded] at compiled
      obtain ⟨rfl, rfl⟩ := Prod.mk.inj compiled
      rw [Journal.heeded_of_calm quiet]
      exact ⟨rfl, rfl, rfl⟩

end Construction

/-- Over backends that answer alike, every step ends alike. -/
theorem StageStep.twins (respects : Backend.Respects kin) (step : StageStep π) :
    (step.act build : Act (Construction δ π) step.Answer).Twins (step.act build) (Alike kin) := by
  cases step with
  | edit change => exact change.twins
  | ask request => exact twins_ask request
  | bindAttributes target => exact twins_bindAttributes respects target
  | compile target => exact twins_compile respects target

/-! ## Courses -/

namespace Construction

/-- What is left of a construction after several steps, first one first. The program goes on after
    a step that reports a fault or is cut short. -/
def after (build : Build) (c : Construction δ π) (steps : List (StageStep π)) :
    Construction δ π :=
  steps.foldl (fun c step => ((step.act build).outcome c).2) c

/-- What a step comes to after several others. -/
def answerAfter (build : Build) (c : Construction δ π) (done : List (StageStep π))
    (step : StageStep π) : Except Stop step.Answer :=
  ((step.act build).outcome (c.after build done)).1

/-- Two constructions come to the same in several steps: to the same program and the same stage, with
    the same source in every dialect; and on the way every step that is `told` is answered alike. -/
structure SameCourse (build : Build) (told : StageStep π → Prop) (c d : Construction δ π)
    (steps : List (StageStep π)) : Prop where
  program : (c.after build steps).program = (d.after build steps).program
  vertex : (c.after build steps).vertex = (d.after build steps).vertex
  source : ∀ dialect, (c.after build steps).vertexSource dialect =
    (d.after build steps).vertexSource dialect
  answers : ∀ done step rest, steps = done ++ step :: rest → told step →
    c.answerAfter build done step = d.answerAfter build done step

/-- No logger cuts a step short in either course. -/
def Undisturbed (build : Build) (c d : Construction δ π) (steps : List (StageStep π)) : Prop :=
  ∀ done step rest, steps = done ++ step :: rest →
    c.answerAfter build done step ≠ .error .logger ∧ d.answerAfter build done step ≠ .error .logger

/-- Where the stage is compiled again, that succeeds in both courses or in none. -/
def CompiledAlike (build : Build) (c d : Construction δ π) (steps : List (StageStep π)) : Prop :=
  ∀ done target rest, steps = done ++ .compile target :: rest →
    (c.answerAfter build done (.compile target)).isOk =
      (d.answerAfter build done (.compile target)).isOk

@[simp] theorem after_concat (c : Construction δ π) (done : List (StageStep π))
    (step : StageStep π) :
    c.after build (done ++ [step]) = ((step.act build).outcome (c.after build done)).2 := by
  rw [after, List.foldl_append]
  rfl

/-- Constructions that are alike stay alike in a course whose steps leave them so. -/
theorem SameCourse.of_alike {told : StageStep π → Prop} {c d : Construction δ π}
    (alike : c.Alike kin d) {steps : List (StageStep π)}
    (next : ∀ done step rest, steps = done ++ step :: rest →
      (c.after build done).Alike kin (d.after build done) →
        (c.after build (done ++ [step])).Alike kin (d.after build (done ++ [step])) ∧
          (told step → c.answerAfter build done step = d.answerAfter build done step)) :
    c.SameCourse build told d steps := by
  have between : ∀ done rest, steps = done ++ rest →
      (c.after build done).Alike kin (d.after build done) := by
    intro done
    -- The induction goes from the end, since a step begins where all earlier ones have left off.
    induction done using List.reverseRecOn with
    | nil => exact fun _ _ => alike
    | append_singleton done step ih =>
      intro rest parts
      have parts : steps = done ++ step :: rest := by simpa using parts
      exact (next done step rest parts (ih (step :: rest) parts)).1
  have last := between steps [] (List.append_nil _).symm
  refine ⟨last.program, last.vertex, fun dialect => ?_, fun done step rest parts => ?_⟩
  · unfold vertexSource
    rw [last.program, last.vertex]
  · exact (next done step rest parts (between done (step :: rest) parts)).2

end Construction

/-- Over any backends, a step leaves constructions alike, unless a logger cuts it short in one of
    them, or it is a compilation that succeeds in only one of them. An edit is answered alike. -/
theorem StageStep.alike_of_agrees {c d : Construction δ π} (step : StageStep π)
    (alike : c.Alike (fun _ _ => True) d)
    (quiet : ((step.act build).outcome c).1 ≠ .error .logger ∧
      ((step.act build).outcome d).1 ≠ .error .logger)
    (agree : ∀ target, step = .compile target →
      ((step.act build).outcome c).1.isOk = ((step.act build).outcome d).1.isOk) :
    ((step.act build).outcome c).2.Alike (fun _ _ => True) ((step.act build).outcome d).2 ∧
      (step.Edits → ((step.act build).outcome c).1 = ((step.act build).outcome d).1) := by
  cases step with
  | edit change =>
    obtain ⟨same, left⟩ := (change.twins c d alike).of_undisturbed quiet.1 quiet.2
    exact ⟨left, fun _ => same⟩
  | ask request =>
    obtain ⟨same, left⟩ := (twins_ask request c d alike).of_undisturbed quiet.1 quiet.2
    exact ⟨left, fun _ => same⟩
  | bindAttributes target =>
    -- The backends may answer differently, so each run is compared with its own beginning.
    let like (fixed : Construction δ π) (e : Construction δ π) : Prop :=
      e.program = fixed.program ∧ e.vertex = fixed.vertex ∧
        e.session.dialect = fixed.session.dialect
    have kept : ∀ fixed : Construction δ π,
        like fixed (((StageStep.bindAttributes target).act build).outcome fixed).2 := by
      intro fixed
      refine (keeps_bindAttributes target fun e session start same => ?_).outcome ⟨rfl, rfl, rfl⟩
      exact ⟨start.1, start.2.1, same.trans start.2.2⟩
    obtain ⟨program, vertex, dialect⟩ := kept c
    obtain ⟨program', vertex', dialect'⟩ := kept d
    refine ⟨⟨program.trans (alike.program.trans program'.symm),
      vertex.trans (alike.vertex.trans vertex'.symm),
      dialect.trans (alike.session.1.trans dialect'.symm), trivial⟩, False.elim⟩
  | compile target =>
    obtain ⟨program, dialect, vertex⟩ := compile_left target c (Prod.eta _).symm quiet.1
    obtain ⟨program', dialect', vertex'⟩ := compile_left target d (Prod.eta _).symm quiet.2
    refine ⟨⟨program.trans (alike.program.trans program'.symm), ?_,
      dialect.trans (alike.session.1.trans dialect'.symm), trivial⟩, False.elim⟩
    refine vertex.trans (Eq.trans ?_ vertex'.symm)
    rw [← alike.vertex]
    exact congrArg (bif · then { c.vertex with phase := .assembled } else c.vertex)
      (agree target rfl)

namespace Construction

variable {c d : Construction δ π}

theorem sameCourse_of_agrees (alike : c.Alike (fun _ _ => True) d) {steps : List (StageStep π)}
    (undisturbed : c.Undisturbed build d steps) (compiled : c.CompiledAlike build d steps) :
    c.SameCourse build StageStep.Edits d steps := by
  refine .of_alike alike fun done step rest parts between => ?_
  rw [after_concat, after_concat]
  refine step.alike_of_agrees between (undisturbed done step rest parts) fun target same => ?_
  subst same
  exact compiled done target rest parts

theorem sameCourse_of_respects (respects : Backend.Respects kin) (alike : c.Alike kin d)
    {steps : List (StageStep π)} (undisturbed : c.Undisturbed build d steps) :
    c.SameCourse build (fun _ => True) d steps := by
  refine .of_alike alike fun done step rest parts between => ?_
  rw [after_concat, after_concat]
  obtain ⟨first, second⟩ := undisturbed done step rest parts
  obtain ⟨same, left⟩ := (step.twins respects _ _ between).of_undisturbed first second
  exact ⟨left, fun _ => same⟩

/-- A failed compilation is not seen by a stage that can be edited. The fault is that of a compiler,
    whatever the backend has reported; nothing but the session has changed, where one compilation
    and one rejection were counted and the rejection was reported. What is done with the program and
    the stage afterwards comes to what it would have come to without the failed compilation, as long
    as no logger cuts a step short, and the backend lets later compilations succeed as it would have
    done. A compilation that succeeds has made one call of the backend, with the source of the stage
    in the dialect of the session, and adds the shader at the end of the list.

    In the software backend a failed compilation leaves all programs as they are, and whatever is
    done afterwards, further compilations included, comes to the same, up to the names of shaders; a
    shader is attached, under the name that is answered, to the given program and to no other. -/
theorem failed_compile_unseen (build : Build) (target : ProgramId)
    (editable : c.vertex.phase ≠ .assembled) :
    (∀ fault d, (compile build target).outcome c = (.error (.fault fault), d) →
      ∃ reason backend,
        (Backend.attachShader target .vertex (c.vertexSource c.session.dialect)).outcome
          c.session.backend = (.error (.fault reason), backend) ∧
        fault = .compilation reason.compilerLog ∧
        d = { c with session := { c.session with
          backend
          stats := { c.session.stats with
            compilations := c.session.stats.compilations + 1
            rejections := c.session.stats.rejections + 1 }
          journal := c.session.journal.noted [c.rejectionEntry target reason] } } ∧
        ∀ steps, c.Undisturbed build d steps → c.CompiledAlike build d steps →
          c.SameCourse build StageStep.Edits d steps) ∧
    (∀ shader d, (compile build target).outcome c = (.ok shader, d) →
      ∃ backend,
        (Backend.attachShader target .vertex (c.vertexSource c.session.dialect)).outcome
          c.session.backend = (.ok shader, backend) ∧
        d = { c with
          vertex := { c.vertex with phase := .assembled }
          shaders := c.shaders ++ [shader]
          session := { c.session with
            backend
            stats := { c.session.stats with
              compilations := c.session.stats.compilations + 1 }
            journal := c.session.journal.noted [attachmentEntry target shader] } }) ∧
    ∀ c d : Construction Software π, c.vertex.phase ≠ .assembled →
      (∀ fault, (compile build target).outcome c = (.error (.fault fault), d) →
        d.session.backend.programs = c.session.backend.programs ∧
        ∀ steps, c.Undisturbed build d steps → c.SameCourse build (fun _ => True) d steps) ∧
      ∀ shader, (compile build target).outcome c = (.ok shader, d) →
        ∃ found, c.session.backend.programs[target.val]? = some found ∧
          ∀ id : UInt32, d.session.backend.programs[id]? =
            if id = target.val then some { found with
              shaders := found.shaders ++
                [⟨shader, .vertex, c.vertexSource c.session.dialect⟩] }
            else c.session.backend.programs[id]? := by
  refine ⟨fun fault d failed => ?_, fun shader d compiled => compile_of_ok editable compiled,
    fun c d editable => ⟨fun fault failed => ?_, fun shader compiled => ?_⟩⟩
  · obtain ⟨reason, backend, called, told, left⟩ := compile_of_fault editable failed
    refine ⟨reason, backend, called, told, left, fun steps undisturbed compiled => ?_⟩
    -- Nothing is known of the backends, and nothing is needed.
    have alike : c.Alike (fun _ _ => True) d := by
      rw [left]
      exact ⟨rfl, rfl, rfl, trivial⟩
    exact sameCourse_of_agrees alike undisturbed compiled
  · obtain ⟨reason, backend, called, -, left⟩ := compile_of_fault editable failed
    have programs : d.session.backend.programs = c.session.backend.programs :=
      left ▸ Software.programs_of_rejected called
    refine ⟨programs, fun steps undisturbed => ?_⟩
    have same : c.session.backend.SamePrograms d.session.backend := fun id => by rw [programs]
    have alike : c.Alike Software.SamePrograms d := by
      subst left
      exact ⟨rfl, rfl, rfl, same⟩
    exact sameCourse_of_respects Software.respects alike undisturbed
  · obtain ⟨backend, called, rfl⟩ := compile_of_ok editable compiled
    exact Software.programs_of_attached called

/-- An output that is declared after a rejection gets the name that it would have got without it. -/
theorem output_after_rejection : ∃ d : Construction Recorder,
    (compile .release ⟨1⟩).outcome rejectingConstruction =
      (.error (.fault (.compilation "rejected")), d) ∧
    d.session.stats = { compilations := 1, rejections := 1 } ∧
    rejectingConstruction.SameCourse .release StageStep.Edits d
      [.edit (.addOutput "colour" .vec4)] ∧
    d.answerAfter .release [] (.edit (.addOutput "colour" .vec4)) = .ok "vcolour" := by
  obtain ⟨d, failed, answered⟩ : ∃ d : Construction Recorder,
      (compile .release ⟨1⟩).outcome rejectingConstruction =
        (.error (.fault (.compilation "rejected")), d) ∧
      d.answerAfter .release [] (.edit (.addOutput "colour" .vec4)) = .ok "vcolour" :=
    ⟨_, rfl, rfl⟩
  have editable : rejectingConstruction.vertex.phase ≠ .assembled := nofun
  obtain ⟨seen, -⟩ := failed_compile_unseen .release ⟨1⟩ editable
  obtain ⟨reason, backend, -, -, left, course⟩ := seen _ _ failed
  have first : ∀ {done step rest},
      [(.edit (.addOutput "colour" .vec4) : StageStep ProgramBuilder)] = done ++ step :: rest →
        done = [] ∧ step = .edit (.addOutput "colour" .vec4) := by
    intro done step rest parts
    cases done with
    | nil => exact ⟨rfl, (List.cons.inj parts).1.symm⟩
    | cons head tail => simp at parts
  refine ⟨d, failed, left ▸ rfl, course _ ?_ ?_, answered⟩
  · intro done step rest parts
    obtain ⟨rfl, rfl⟩ := first parts
    rw [answered]
    exact ⟨nofun, nofun⟩
  · intro done target rest parts
    exact nomatch (first parts).2

end Construction

end RenderCore
