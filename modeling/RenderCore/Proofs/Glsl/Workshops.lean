import Mathlib.Logic.Function.Basic
import RenderCore.Gpu.Recorder
import RenderCore.Proofs.Glsl.CallEffects

/-!
# Programs with several stages under construction

A program hands out names and registers uniforms for all stages that are built for it. A workshop is
a program with its vertex stages; a run is the list of the requests made of it, in any order, with
what each of them came to. `Request.Effect` says once and for all what a request makes of the
program and of the stages.
-/

namespace RenderCore

variable {δ α : Type}

/-- A program under construction and the vertex stages that are built for it, by number. A stage
    that was not begun is new. -/
structure Workshop (δ : Type) where
  program : ProgramBuilder
  stages : Nat → VertexStage := fun _ => {}
  shaders : List ShaderId := []
  session : Session δ

namespace Workshop

/-- The program and one of the stages. -/
def construction (number : Nat) (w : Workshop δ) : Construction δ :=
  { program := w.program, vertex := w.stages number, shaders := w.shaders, session := w.session }

/-- Takes note of what has become of the program and one of the stages. -/
def note (number : Nat) (c : Construction δ) (w : Workshop δ) : Workshop δ where
  program := c.program
  stages := Function.update w.stages number c.vertex
  shaders := c.shaders
  session := c.session

/-- Works on one of the stages. -/
def onStage (number : Nat) (act : Act (Construction δ) α) : Act (Workshop δ) α :=
  Act.within (construction number) (note number) act

/-- Works on the program alone. -/
def onProgram (act : Act ProgramBuilder α) : Act (Workshop δ) α :=
  Act.within (·.program) (fun program w => { w with program }) act

end Workshop

/-- What can be asked of a workshop. -/
inductive Request where
  | stage (number : Nat) (call : StageCall)
  | addUniform (visibility : Visibility) (type : DataType) (precision : Precision) (base : String)
  | issueName (letter : Option Char) (base : String)
  | setStage (mark : Option UInt32)

namespace Request

variable [Backend δ]

/-- The request, carried out. It answers the name that the program hands out for it, if it does. -/
def act (build : Build) : Request → Act (Workshop δ) (Option String)
  | .stage number call => Workshop.onStage number (call.naming build)
  | .addUniform visibility type precision base => do
    let given ← Workshop.onProgram (ProgramBuilder.addUniform build visibility type precision base)
    return some given.2
  | .issueName letter base => do
    let name ← Workshop.onProgram (ProgramBuilder.issueName letter base)
    return some name
  | .setStage mark => do
    Workshop.onProgram (ProgramBuilder.setStage mark)
    return none

/-- What a request makes of a workshop, and the name that the program hands out for it. -/
inductive Effect : Request → Workshop δ → Option String → Workshop δ → Prop where
  | stage {w : Workshop δ} {number : Nat} {call : StageCall} {name : Option String}
      {program : ProgramBuilder} {stage : VertexStage} (shaders : List ShaderId)
      (session : Session δ) (effect : call.Effect w.program (w.stages number) name program stage) :
      Effect (.stage number call) w name
        { program, stages := Function.update w.stages number stage, shaders, session }
  | uniform {w : Workshop δ} (visibility : Visibility) (type : DataType) (precision : Precision)
      (base : String) :
      Effect (.addUniform visibility type precision base) w
        (some (w.program.names.issue (some 'u') base).1)
        { w with program := w.program.afterUniform visibility type precision base }
  | unseen {w : Workshop δ} {visibility : Visibility} (empty : visibility.isEmpty = true)
      (type : DataType) (precision : Precision) (base : String) :
      Effect (.addUniform visibility type precision base) w none w
  | name {w : Workshop δ} (letter : Option Char) (base : String) :
      Effect (.issueName letter base) w (some (w.program.names.issue letter base).1)
        { w with program := w.program.afterName letter base }
  | mark {w : Workshop δ} (mark : Option UInt32) :
      Effect (.setStage mark) w none
        { w with program := { w.program with names := w.program.names.setStage mark } }

omit [Backend δ] in
theorem Effect.serves {request : Request} {w v : Workshop δ} {name : Option String}
    (effect : request.Effect w name v) : w.program.Serves name v.program := by
  cases effect with
  | stage shaders session effect => exact effect.serves
  | uniform visibility type precision base => exact .uniform visibility type precision base
  | unseen empty type precision base => exact .nothing
  | name letter base => exact .name letter base
  | mark mark => exact .mark mark

/-- Every request comes to an effect, in either build and however it ends. -/
theorem ends_act (request : Request) (w : Workshop δ) (build : Build) :
    (request.act build).Ends w (request.Effect w) (fun _ v => ∃ name, request.Effect w name v)
      (fun v => ∃ name, request.Effect w name v) := by
  cases request with
  | stage number call =>
    apply Act.Ends.within
    refine (call.ends_naming (w.construction number) build).imp (fun name c made => ?_)
      (fun _ c failed => ?_) fun c cut => ?_
    · exact .stage c.shaders c.session made
    · obtain ⟨name, made⟩ := failed
      exact ⟨name, .stage c.shaders c.session made⟩
    · obtain ⟨name, made⟩ := cut
      exact ⟨name, .stage c.shaders c.session made⟩
  | addUniform visibility type precision base =>
    refine Act.Ends.bind (Act.Ends.within ?_) fun _ _ ok => Act.ends_pure ok
    refine (w.program.ends_addUniform build visibility type precision base).imp
      (fun given program ok => ?_) (fun _ _ failed => failed.elim) fun program cut => ?_
    · obtain ⟨rfl, rfl⟩ := ok
      exact .uniform visibility type precision base
    · obtain ⟨empty, rfl⟩ := cut
      exact ⟨none, .unseen empty type precision base⟩
  | issueName letter base => exact .name letter base
  | setStage mark => exact .mark mark

end Request

namespace Workshop

/-- A request that was made, with how it ended. -/
structure Step (δ : Type) where
  request : Request
  before : Workshop δ
  outcome : Except Stop (Option String)
  after : Workshop δ

variable [Backend δ]

/-- The request ends so. -/
def Step.Taken (build : Build) (step : Step δ) : Prop :=
  (step.request.act build).outcome step.before = (step.outcome, step.after)

/-- The name that the request answers. -/
def Step.given? (step : Step δ) : Option String := step.outcome.toOption.join

/-- The requests made of a workshop, last one first. Each may have been answered, reported a fault
    or been cut short. Between them the program does what it likes with shaders and session. -/
inductive Run (build : Build) (start : Workshop δ) : List (Step δ) → Workshop δ → Prop where
  | nil : Run build start [] start
  | cons {step : Step δ} {steps : List (Step δ)} (run : Run build start steps step.before)
      (taken : step.Taken build) : Run build start (step :: steps) step.after
  | elsewhere {steps : List (Step δ)} {w : Workshop δ} (shaders : List ShaderId)
      (session : Session δ) (run : Run build start steps w) :
      Run build start steps { w with shaders, session }

/-- The name that is answered is the one that the program has handed out. -/
theorem Step.Taken.effect {build : Build} {step : Step δ} (taken : step.Taken build) :
    ∃ name, step.request.Effect step.before name step.after ∧
      (step.given? = none ∨ step.given? = name) := by
  have ends := step.request.ends_act step.before build
  rw [Act.ends_iff_outcome, show _ = _ from taken] at ends
  unfold Step.given?
  obtain ⟨request, before, (fault | panic) | answer, after⟩ := step
  · obtain ⟨name, effect⟩ := ends
    exact ⟨name, effect, .inl rfl⟩
  · obtain ⟨name, effect⟩ := ends
    exact ⟨name, effect, .inl rfl⟩
  · exact ⟨answer, ends, .inr rfl⟩

/-! ## Every list of requests is a run -/

/-- The step that a request takes in a workshop. -/
def Step.taking (build : Build) (w : Workshop δ) (request : Request) : Step δ :=
  { request
    before := w
    outcome := ((request.act build).outcome w).1
    after := ((request.act build).outcome w).2 }

/-- What is left of a workshop after some requests, last one first. -/
def left (build : Build) (start : Workshop δ) : List Request → Workshop δ
  | [] => start
  | request :: earlier => (Step.taking build (left build start earlier) request).after

/-- The steps that some requests take, last one first. -/
def steps (build : Build) (start : Workshop δ) : List Request → List (Step δ)
  | [] => []
  | request :: earlier =>
    Step.taking build (left build start earlier) request :: steps build start earlier

/-- Requests can be made in any order. -/
theorem run_steps (build : Build) (start : Workshop δ) (requests : List Request) :
    Run build start (steps build start requests) (left build start requests) := by
  induction requests with
  | nil => exact .nil
  | cons request earlier ih =>
    have taken : (Step.taking build (left build start earlier) request).Taken build := rfl
    exact Run.cons ih taken

end Workshop

/-- A program without vertex attributes and without stages, for the recording backend. -/
def bareWorkshop : Workshop Recorder where
  program := { layout := ⟨"", []⟩ }
  session := { backend := {}, dialect := .standardDesktop, journal := .ofLogger .quiet }

end RenderCore
