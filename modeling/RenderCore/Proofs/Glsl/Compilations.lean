import RenderCore.Proofs.Glsl.StageEdits
import RenderCore.Proofs.Journal.Notes

/-!
# What a compilation comes to

A stage that can be edited is compiled by one call of the backend, and what the compilation comes to
is a function of what the call comes to, in either build. Whatever fault the backend reports, the
caller is told a compiler's log.
-/

namespace RenderCore

variable {δ π σ α : Type}

/-- The compiler's log that the caller is told for a fault of the backend. -/
def Fault.compilerLog : Fault → String
  | .compilation log => log
  | other => other.message

theorem Act.outcome_onFault (act : Act σ α) (handler : Fault → Act σ α) (s : σ) :
    (Act.onFault act handler).outcome s =
      match act.outcome s with
      | (.error (.fault fault), t) => (handler fault).outcome t
      | ended => ended := by
  unfold outcome onFault
  cases act s with
  | ok a t => rfl
  | error stop t => cases stop <;> rfl

/-! ## In a session -/

namespace Session

/-- The session after a shader was given to the compiler, which has left the backend so. -/
def compiled (session : Session δ) (backend : δ) : Session δ :=
  { session with
    backend
    stats := { session.stats with compilations := session.stats.compilations + 1 } }

/-- The session after the compiler has rejected a shader. -/
def rejected (session : Session δ) (backend : δ) (report : Entry) : Session δ :=
  { session with
    backend
    stats := { session.stats with
      compilations := session.stats.compilations + 1
      rejections := session.stats.rejections + 1 }
    journal := session.journal.noted [report] }

/-- The entry for a shader that was rejected. -/
def rejectionEntry (target : ProgramId) (stage : ShaderStage) (reason : Fault) (source : String) :
    Entry :=
  Journal.failureEntry "canvas2d::GpuContext" (rejectionReport target stage reason source)

theorem write_outcome (entry : Entry) (session : Session δ) :
    (liftM (Journal.write entry) : Act (Session δ) Unit).outcome session =
      (session.journal.heeded [entry] (.ok ()),
        { session with journal := session.journal.noted [entry] }) :=
  Act.outcome_within (Journal.write_outcome entry session.journal)

variable [Backend δ]

theorem attachShader_outcome (target : ProgramId) (stage : ShaderStage) (source : String)
    (session : Session δ) :
    (attachShader target stage source).outcome session =
      match (Backend.attachShader target stage source).outcome session.backend with
      | (.error (.fault reason), backend) =>
        (session.journal.heeded [rejectionEntry target stage reason source]
            (.error (.fault (.compilation reason.compilerLog))),
          session.rejected backend (rejectionEntry target stage reason source))
      | (outcome, backend) => (outcome, session.compiled backend) := by
  have called : ∀ {outcome backend},
      (Backend.attachShader target stage source).outcome session.backend = (outcome, backend) →
      (onBackend (Backend.attachShader target stage source)).outcome
        (session.compiled session.backend) = (outcome, session.compiled backend) :=
    fun call => Act.outcome_within call
  have told : ∀ (reason : Fault) (s : Session δ), (match reason with
        | .compilation log => Act.fail (.compilation log)
        | other => Act.fail (.compilation other.message) : Act (Session δ) ShaderId).outcome s =
      (.error (.fault (.compilation reason.compilerLog)), s) := by
    intro reason s
    cases reason <;> rfl
  refine (Act.outcome_onFault _ _ (session.compiled session.backend)).trans ?_
  rcases call : (Backend.attachShader target stage source).outcome session.backend with
    ⟨(reason | panic) | shader, backend⟩
  · rw [called call]
    exact Act.outcome_modify_bind.trans
      (Journal.outcome_bind_of_heeded (write_outcome _ _) (told reason _))
  · rw [called call]
  · rw [called call]

end Session

/-! ## In a construction -/

namespace Construction

/-- The construction after its stage was compiled. -/
def finished (c : Construction δ π) (shader : ShaderId) (session : Session δ) :
    Construction δ π :=
  { c with
    vertex := { c.vertex with phase := .assembled }
    shaders := c.shaders ++ [shader]
    session }

/-- The entry for a shader that was attached. -/
def attachmentEntry (target : ProgramId) (shader : ShaderId) : Entry where
  severity := .debug
  source := component
  message := "Attached vertex shader " ++ toString shader.val.toNat ++ " to program "
    ++ toString target.val.toNat

theorem session_outcome {c : Construction δ π} {act : Act (Session δ) α}
    {outcome : Except Stop α} {session : Session δ}
    (ended : act.outcome c.session = (outcome, session)) :
    (liftM act : Act (Construction δ π) α).outcome c = (outcome, { c with session }) :=
  Act.outcome_within ended

theorem write_outcome (c : Construction δ π) (entry : Entry) :
    (liftM (Journal.write entry) : Act (Construction δ π) Unit).outcome c =
      (c.session.journal.heeded [entry] (.ok ()),
        { c with session := { c.session with journal := c.session.journal.noted [entry] } }) :=
  Act.outcome_within (Session.write_outcome entry c.session)

variable [StageHost π]

/-- The entry for a vertex stage that was rejected. -/
def rejectionEntry (c : Construction δ π) (target : ProgramId) (reason : Fault) : Entry :=
  Session.rejectionEntry target .vertex reason (c.vertexSource c.session.dialect)

variable [Backend δ] {c : Construction δ π}

theorem compile_outcome (build : Build) (target : ProgramId)
    (editable : c.vertex.phase ≠ .assembled) :
    (compile build target).outcome c =
      match (Backend.attachShader target .vertex (c.vertexSource c.session.dialect)).outcome
          c.session.backend with
      | (.ok shader, backend) =>
        (c.session.journal.heeded [attachmentEntry target shader] (.ok shader),
          c.finished shader { c.session.compiled backend with
            journal := c.session.journal.noted [attachmentEntry target shader] })
      | (.error (.fault reason), backend) =>
        (c.session.journal.heeded [c.rejectionEntry target reason]
            (.error (.fault (.compilation reason.compilerLog))),
          { c with session := c.session.rejected backend (c.rejectionEntry target reason) })
      | (.error (.panic panic), backend) =>
        (.error (.panic panic), { c with session := c.session.compiled backend }) := by
  unfold compile
  rw [Act.outcome_get_bind, if_neg editable]
  have attached : ∀ {outcome session},
      (Session.attachShader target .vertex (c.vertexSource c.session.dialect)).outcome c.session =
        (outcome, session) →
      (liftM (Session.attachShader target .vertex (c.vertexSource c.session.dialect)) :
        Act (Construction δ π) ShaderId).outcome c = (outcome, { c with session }) :=
    fun ended => session_outcome ended
  have ended := Session.attachShader_outcome target .vertex (c.vertexSource c.session.dialect)
    c.session
  rcases call : (Backend.attachShader target .vertex
    (c.vertexSource c.session.dialect)).outcome c.session.backend with
    ⟨(reason | panic) | shader, backend⟩
  · rw [call] at ended
    dsimp only at ended
    rw [Journal.heeded_error] at ended
    refine (Act.outcome_bind_of_error (attached ended)).trans ?_
    dsimp only
    rw [Journal.heeded_error]
    rfl
  · rw [call] at ended
    exact Act.outcome_bind_of_error (attached ended)
  · rw [call] at ended
    refine (Act.outcome_bind_of_ok (attached ended)).trans ?_
    have written := (c.finished shader (c.session.compiled backend)).write_outcome
      (attachmentEntry target shader)
    change (liftM (Journal.write (attachmentEntry target shader)) >>= fun _ => pure shader :
      Act (Construction δ π) ShaderId).outcome _ = _
    exact Journal.outcome_bind_of_heeded written rfl

/-- A compilation that fails was rejected by the backend, and has changed nothing but the session. -/
theorem compile_of_fault {build : Build} {target : ProgramId} {fault : Fault}
    {d : Construction δ π} (editable : c.vertex.phase ≠ .assembled)
    (failed : (compile build target).outcome c = (.error (.fault fault), d)) :
    ∃ reason backend,
      (Backend.attachShader target .vertex (c.vertexSource c.session.dialect)).outcome
        c.session.backend = (.error (.fault reason), backend) ∧
      fault = .compilation reason.compilerLog ∧
      d = { c with session := c.session.rejected backend (c.rejectionEntry target reason) } := by
  rw [compile_outcome build target editable] at failed
  split at failed
  · unfold Journal.heeded at failed
    split at failed <;> cases failed
  · next reason backend called =>
    rw [Journal.heeded_error] at failed
    split at failed <;> cases failed
    exact ⟨reason, backend, called, rfl, rfl⟩
  · cases failed

/-- A compilation that succeeds has made one call of the backend. -/
theorem compile_of_ok {build : Build} {target : ProgramId} {shader : ShaderId}
    {d : Construction δ π} (editable : c.vertex.phase ≠ .assembled)
    (compiled : (compile build target).outcome c = (.ok shader, d)) :
    ∃ backend,
      (Backend.attachShader target .vertex (c.vertexSource c.session.dialect)).outcome
        c.session.backend = (.ok shader, backend) ∧
      d = c.finished shader { c.session.compiled backend with
        journal := c.session.journal.noted [attachmentEntry target shader] } := by
  rw [compile_outcome build target editable] at compiled
  split at compiled
  · next attached backend called =>
    unfold Journal.heeded at compiled
    split at compiled <;> cases compiled
    exact ⟨backend, called, rfl⟩
  · rw [Journal.heeded_error] at compiled
    cases compiled
  · cases compiled

/-- The entry for a stage that is compiled once more. -/
def refusalEntry (target : ProgramId) : Entry :=
  Journal.failureEntry component
    ("Vertex shader for program " ++ toString target.val.toNat ++ " already assembled")

theorem compile_outcome_of_assembled (build : Build) (target : ProgramId)
    (assembled : c.vertex.phase = .assembled) :
    (compile build target).outcome c =
      match build.expect false "vertex shader compiled twice" with
      | .error panic => (.error (.panic panic), c)
      | .ok () =>
        (c.session.journal.heeded [refusalEntry target]
            (.error (.fault (.backend (refusalEntry target).message))),
          { c with session := { c.session with
              journal := c.session.journal.noted [refusalEntry target] } }) := by
  unfold compile
  rw [Act.outcome_get_bind, if_pos assembled]
  cases build.expect false "vertex shader compiled twice" with
  | error panic => rfl
  | ok passed =>
    have refused : (liftM (Journal.refuse component (refusalEntry target).message) :
        Act (Construction δ π) Unit).outcome c =
        (c.session.journal.heeded [refusalEntry target]
            (.error (.fault (.backend (refusalEntry target).message))),
          { c with session := { c.session with
              journal := c.session.journal.noted [refusalEntry target] } }) :=
      session_outcome (Act.outcome_within (Journal.refuse_outcome component _ _))
    rw [Journal.heeded_error] at refused
    refine (Act.outcome_bind_of_error refused).trans ?_
    dsimp only
    rw [Journal.heeded_error]

end Construction

end RenderCore
