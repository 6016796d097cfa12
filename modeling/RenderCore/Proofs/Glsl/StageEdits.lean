import RenderCore.Glsl.Construction
import RenderCore.Proofs.Journal.Reports

/-!
# What calls do to a vertex stage

For each call on a vertex stage under construction a lemma says what it leaves, over any program and
any backend. An edit of a stage that was assembled is refused and reported. In a release build,
apart from the program, which may refuse what it is asked for, only loggers and backends cut a call
short; a debug build also stops at what is refused.
-/

namespace RenderCore

variable {δ π α : Type}

namespace VertexStage

/-- The stage after an edit, which an assembled stage does not take. -/
def accept (stage : VertexStage) (edit : VertexStage → VertexStage) : VertexStage :=
  if stage.phase = .assembled then stage else edit stage

/-- The stage after several inputs were added. -/
def addInputs (stage : VertexStage) (inputs : List Variable) : VertexStage :=
  inputs.foldl (fun stage input => (stage.addInput input).2) stage

/-- The kind of a position whose transform the stage takes. -/
def transformOf? (stage : VertexStage) (position : Variable) : Option PositionType :=
  if stage.adjustmentName.isSome ∨ stage.phase = .assembled then none
  else PositionType.ofDataType? position.type

variable {stage : VertexStage} {edit : VertexStage → VertexStage}

theorem accept_of_assembled (assembled : stage.phase = .assembled) : stage.accept edit = stage :=
  if_pos assembled

theorem accept_of_open (editable : stage.phase ≠ .assembled) : stage.accept edit = edit stage :=
  if_neg editable

theorem begun_phase_ne (editable : stage.phase ≠ .assembled) : stage.begun.phase ≠ .assembled := by
  unfold begun
  split
  · exact nofun
  · exact editable

/-- Several inputs, accepted one after the other. -/
theorem accept_addInputs_cons (input : Variable) (rest : List Variable) :
    (stage.accept fun s => (s.addInput input).2).accept (·.addInputs rest) =
      stage.accept (·.addInputs (input :: rest)) := by
  by_cases assembled : stage.phase = .assembled
  · rw [accept_of_assembled assembled, accept_of_assembled assembled, accept_of_assembled assembled]
  · rw [accept_of_open assembled, accept_of_open assembled, accept_of_open]
    · rfl
    · exact begun_phase_ne assembled

end VertexStage

namespace Construction

/-- What is left of a construction with another stage and perhaps with new entries in the
    journal. -/
def Leaves (c : Construction δ π) (vertex : VertexStage) (d : Construction δ π) : Prop :=
  ∃ journal, d = { c with vertex, session := { c.session with journal } }

variable {c d e : Construction δ π} {stage stage' : VertexStage}

theorem Leaves.refl (c : Construction δ π) : c.Leaves c.vertex c := ⟨c.session.journal, rfl⟩

theorem Leaves.trans (first : c.Leaves stage d) (second : d.Leaves stage' e) :
    c.Leaves stage' e := by
  obtain ⟨journal, rfl⟩ := first
  obtain ⟨journal', rfl⟩ := second
  exact ⟨journal', rfl⟩

theorem Leaves.vertex_eq (leaves : c.Leaves stage d) : d.vertex = stage := by
  obtain ⟨journal, rfl⟩ := leaves
  rfl

theorem Leaves.edit (c : Construction δ π) (stage : VertexStage) :
    c.Leaves stage { c with vertex := stage } :=
  ⟨c.session.journal, rfl⟩

/-! ## Parts of a construction -/

/-- A report changes the journal, and is cut short only by its logger. -/
theorem ends_report {act : Act Journal α} {answer : α → Prop} {fault : Fault → Prop}
    (ends : act.Ends c.session.journal (fun a _ => answer a) (fun f _ => fault f)
      fun _ => ¬ c.session.Reliable) :
    (liftM act : Act (Construction δ π) α).Ends c (fun a d => answer a ∧ c.Leaves c.vertex d)
      (fun f d => fault f ∧ c.Leaves c.vertex d)
      (fun d => ¬ c.session.Reliable ∧ c.Leaves c.vertex d) := by
  apply Act.Ends.within
  apply Act.Ends.within
  exact ends.imp (fun _ journal answered => ⟨answered, journal, rfl⟩)
    (fun _ journal failed => ⟨failed, journal, rfl⟩) fun journal cut => ⟨cut, journal, rfl⟩

theorem ends_write (c : Construction δ π) (entry : Entry) :
    (liftM (Journal.write entry) : Act (Construction δ π) Unit).Ends c
      (fun _ => c.Leaves c.vertex) (fun _ _ => False)
      (fun d => ¬ c.session.Reliable ∧ c.Leaves c.vertex d) := by
  have written := (Journal.ends_write entry c.session.journal).unfit (Journal.steady_write entry)
  have reported := ends_report (c := c) (written.cut fun _ cut => cut.2)
  exact reported.imp (fun _ _ ok => ok.2) (fun _ _ failed => failed.1) fun _ cut => cut

/-- What the program is asked for is left to it. -/
theorem ends_program (c : Construction δ π) (act : Act π α) :
    (liftM act : Act (Construction δ π) α).Ends c
      (fun a d => ∃ program, act.outcome c.program = (.ok a, program) ∧ d = { c with program })
      (fun fault d => ∃ program, act.outcome c.program = (.error (.fault fault), program) ∧
        d = { c with program })
      (fun d => ∃ program, d = { c with program }) := by
  have told : act.Ends c.program (fun a program => act.outcome c.program = (.ok a, program))
      (fun fault program => act.outcome c.program = (.error (.fault fault), program))
      fun _ => True := by
    rw [Act.ends_iff_outcome]
    generalize act.outcome c.program = result
    obtain ⟨(fault | panic) | a, program⟩ := result <;> trivial
  apply Act.Ends.within
  exact told.imp (fun a program answered => ⟨program, answered, rfl⟩)
    (fun _ program failed => ⟨program, failed, rfl⟩) fun program _ => ⟨program, rfl⟩

/-- What happens in the session leaves the rest alone. -/
theorem ends_session (c : Construction δ π) (act : Act (Session δ) α) :
    (liftM act : Act (Construction δ π) α).Ends c (fun _ d => ∃ session, d = { c with session })
      (fun _ d => ∃ session, d = { c with session })
      (fun d => ∃ session, d = { c with session }) := by
  apply Act.Ends.within
  unfold Act.Ends
  split <;> exact ⟨_, rfl⟩

section

variable {edit : VertexStage → VertexStage} {fault : Fault → Construction δ π → Prop}
  {panic : Construction δ π → Prop}

theorem ends_editStage {answer : Unit → Construction δ π → Prop}
    (ok : answer () { c with vertex := edit c.vertex }) :
    (editStage edit).Ends c answer fault panic :=
  Act.ends_modify ok

theorem ends_editStage_bind {next : Unit → Act (Construction δ π) α}
    {answer : α → Construction δ π → Prop}
    (ends : (next ()).Ends { c with vertex := edit c.vertex } answer fault panic) :
    (editStage edit >>= next).Ends c answer fault panic := ends

end

/-! ## Edits -/

/-- A stage that cannot be edited is reported. -/
theorem ends_checkEditable (c : Construction δ π) (build : Build) (what : String) :
    (checkEditable build what).Ends c
      (fun editable d => c.vertex.phase ≠ .assembled ∧ editable = true ∧ d = c ∨
        c.vertex.phase = .assembled ∧ editable = false ∧ c.Leaves c.vertex d)
      (fun _ _ => False)
      (fun d => c.vertex.phase = .assembled ∧ (build = .release → ¬ c.session.Reliable) ∧
        c.Leaves c.vertex d) := by
  unfold checkEditable
  apply Act.ends_get_bind
  split
  · next assembled =>
    refine Act.ends_check_bind (fun _ _ => ?_) fun p failed => ?_
    · refine ((ends_write c _).cut fun _ cut => ?_).bind fun _ d left => ?_
      · exact ⟨assembled, fun _ => cut.1, cut.2⟩
      · exact Act.ends_pure (.inr ⟨assembled, rfl, left⟩)
    · refine ⟨assembled, fun release => ?_, .refl c⟩
      subst release
      rw [Build.expect_release] at failed
      contradiction
  · next editable => exact Act.ends_pure (.inl ⟨editable, rfl, rfl⟩)

/-- An edit that is made only if the stage can be edited. -/
theorem ends_ifEditable {build : Build} {what : String} {yes no : Act (Construction δ π) α}
    {answer : α → Construction δ π → Prop} {fault : Fault → Construction δ π → Prop}
    {panic : Construction δ π → Prop}
    (editable : c.vertex.phase ≠ .assembled → yes.Ends c answer fault panic)
    (refused : c.vertex.phase = .assembled → ∀ d, c.Leaves c.vertex d →
      no.Ends d answer fault panic)
    (cut : c.vertex.phase = .assembled → ∀ d,
      (build = .release → ¬ c.session.Reliable) ∧ c.Leaves c.vertex d → panic d) :
    (checkEditable build what >>= fun ok => if ok = true then yes else no).Ends c answer fault
      panic := by
  have checked := (ends_checkEditable c build what).cut fun d stopped => cut stopped.1 d stopped.2
  refine checked.unfailing.bind fun ok d left => ?_
  obtain ⟨still_open, rfl, rfl⟩ | ⟨assembled, rfl, left⟩ := left
  · rw [if_pos rfl]
    exact editable still_open
  · rw [if_neg Bool.false_ne_true]
    exact refused assembled d left

theorem ends_appendCode (c : Construction δ π) (text : String) {build : Build} :
    (appendCode build text).Ends c
      (fun _ => c.Leaves (c.vertex.accept (·.appendCode text))) (fun _ _ => False)
      (c.Leaves (c.vertex.accept (·.appendCode text))) := by
  unfold appendCode
  refine ends_ifEditable (fun editable => ?_) (fun assembled d left => ?_) fun assembled d cut => ?_
  · rw [VertexStage.accept_of_open editable]
    exact ends_editStage (.edit c _)
  · rw [VertexStage.accept_of_assembled assembled]
    exact Act.ends_pure left
  · rw [VertexStage.accept_of_assembled assembled]
    exact cut.2

/-- An input that is declared already is reported. A debug build does not add what is no input, and
    nothing to an assembled stage. -/
theorem ends_addInput_checked (c : Construction δ π) (build : Build) (input : Variable) :
    (addInput build input).Ends c
      (fun added d =>
        added = (decide (c.vertex.phase ≠ .assembled) && (c.vertex.addInput input).1) ∧
          c.Leaves (c.vertex.accept fun stage => (stage.addInput input).2) d)
      (fun _ _ => False)
      (fun d => build = .debug ∧ c.Leaves c.vertex d ∨ ¬ c.session.Reliable ∧
        c.Leaves (c.vertex.accept fun stage => (stage.addInput input).2) d) := by
  unfold addInput
  refine Act.ends_check_bind (fun _ _ => ?_) fun p failed => ?_
  · refine ends_ifEditable (fun editable => ?_) (fun assembled d left => ?_)
      fun assembled d cut => ?_
    · rw [VertexStage.accept_of_open editable, decide_eq_true editable, Bool.true_and]
      apply Act.ends_get_bind
      apply ends_editStage_bind
      split
      · refine ((ends_write _ _).cut fun d cut => ?_).bind fun _ d left => Act.ends_pure ?_
        · exact .inr ⟨cut.1, (Leaves.edit c _).trans cut.2⟩
        · exact ⟨rfl, (Leaves.edit c _).trans left⟩
      · exact Act.ends_pure ⟨rfl, .edit c _⟩
    · rw [VertexStage.accept_of_assembled assembled]
      exact Act.ends_pure ⟨by simp [assembled], left⟩
    · rw [VertexStage.accept_of_assembled assembled]
      cases build with
      | release => exact .inr ⟨cut.1 rfl, cut.2⟩
      | debug => exact .inl ⟨rfl, cut.2⟩
  · cases build with
    | release =>
      rw [Build.expect_release] at failed
      contradiction
    | debug => exact .inl ⟨rfl, .refl c⟩

/-- In a release build only a logger cuts the declaration of an input short. -/
theorem ends_addInput (c : Construction δ π) (input : Variable) :
    (addInput .release input).Ends c
      (fun added d =>
        added = (decide (c.vertex.phase ≠ .assembled) && (c.vertex.addInput input).1) ∧
          c.Leaves (c.vertex.accept fun stage => (stage.addInput input).2) d)
      (fun _ _ => False)
      (fun d => ¬ c.session.Reliable ∧
        c.Leaves (c.vertex.accept fun stage => (stage.addInput input).2) d) :=
  (c.ends_addInput_checked .release input).cut fun _ cut =>
    cut.resolve_left fun debug => nomatch debug.1

/-- The inputs of a layout are declared one after the other, until a logger fails or, in a debug
    build, none is taken. -/
theorem ends_addInputs (c : Construction δ π) (attributes : List VertexAttribute) {build : Build} :
    (attributes.forM fun a => discard (addInput build a.asInput) :
        Act (Construction δ π) PUnit).Ends c
      (fun _ => c.Leaves (c.vertex.accept (·.addInputs (attributes.map (·.asInput)))))
      (fun _ _ => False)
      (fun d => ∃ done, done <+: attributes ∧
        c.Leaves (c.vertex.accept (·.addInputs (done.map (·.asInput)))) d) := by
  have same : ∀ c : Construction δ π, c.vertex.accept (·.addInputs []) = c.vertex :=
    fun c => ite_self _
  induction attributes generalizing c with
  | nil => exact Act.ends_pure ((same c).symm ▸ .refl c)
  | cons first rest ih =>
    have added : (discard (addInput build first.asInput) : Act (Construction δ π) Unit).Ends c
        (fun _ => c.Leaves (c.vertex.accept fun stage => (stage.addInput first.asInput).2))
        (fun _ _ => False)
        (fun d => c.Leaves c.vertex d ∨
          c.Leaves (c.vertex.accept fun stage => (stage.addInput first.asInput).2) d) :=
      ((ends_addInput_checked c build first.asInput).imp (fun _ _ ok => ok.2)
        (fun _ _ failed => failed) fun _ cut => cut.imp (·.2) (·.2)).discard
    refine Act.Ends.bind (added.cut fun d cut => ?_) fun _ d left => ?_
    · obtain kept | cut := cut
      · exact ⟨[], List.nil_prefix, (same c).symm ▸ kept⟩
      · exact ⟨[first], List.prefix_append [first] rest, cut⟩
    · refine (ih d).imp (fun _ e ok => ?_) (fun _ _ failed => failed) fun e cut => ?_
      · rw [left.vertex_eq, VertexStage.accept_addInputs_cons] at ok
        exact left.trans ok
      · obtain ⟨done, part, cut⟩ := cut
        rw [left.vertex_eq, VertexStage.accept_addInputs_cons] at cut
        exact ⟨first :: done, List.cons_prefix_cons.mpr ⟨rfl, part⟩, left.trans cut⟩

variable [StageHost π]

/-- An output is declared under the name that the program gives, if it gives one. -/
theorem ends_addOutput (c : Construction δ π) (base : String) (type : DataType) :
    (addOutput .release base type).Ends c
      (fun name d => ∃ program,
        (StageHost.issueName (some 'v') base).outcome c.program = (.ok name, program) ∧
          { c with program }.Leaves (c.vertex.accept (·.addOutput name type)) d)
      (fun fault d => ∃ program,
        (StageHost.issueName (some 'v') base).outcome c.program = (.error (.fault fault), program) ∧
          d = { c with program })
      (fun d => d.vertex = c.vertex) := by
  unfold addOutput
  refine ((ends_program c _).cut fun d cut => ?_).bind fun name d named => ?_
  · obtain ⟨program, rfl⟩ := cut
    rfl
  · obtain ⟨program, named, rfl⟩ := named
    refine ends_ifEditable (fun editable => ?_) (fun assembled d left => ?_)
      fun assembled d cut => ?_
    · apply ends_editStage_bind
      refine Act.ends_pure ⟨program, named, ?_⟩
      rw [VertexStage.accept_of_open editable]
      exact .edit _ _
    · refine Act.ends_pure ⟨program, named, ?_⟩
      rw [VertexStage.accept_of_assembled assembled]
      exact left
    · exact cut.2.vertex_eq

/-- What a transform comes to: it is emitted once, and not into an assembled stage, for a position
    of a kind that can be transformed. Its uniform is the program's. -/
inductive Transforms (c : Construction δ π) (position : Variable) : Construction δ π → Prop where
  | refused {d : Construction δ π} (unfit : c.vertex.transformOf? position = none)
      (left : c.Leaves c.vertex d) : Transforms c position d
  | emitted {type : PositionType} {name : String} {handle : UniformHandle} {program : π}
      (fit : c.vertex.transformOf? position = some type)
      (given : (StageHost.addUniform .release .vertex .vec4 .unspecified adjustmentBaseName).outcome
        c.program = (.ok (handle, name), program)) :
      Transforms c position
        { c with program, vertex := c.vertex.addTransform type position.name ⟨name, handle⟩ }

theorem ends_emitTransform (c : Construction δ π) (position : Variable) :
    (emitTransform .release position).Ends c (fun _ => c.Transforms position)
      (fun fault d => ∃ program,
        (StageHost.addUniform .release .vertex .vec4 .unspecified adjustmentBaseName).outcome
          c.program = (.error (.fault fault), program) ∧ d = { c with program })
      (fun d => d.vertex = c.vertex) := by
  have reported : ∀ entry, c.vertex.transformOf? position = none →
      (liftM (Journal.write entry) : Act (Construction δ π) Unit).Ends c
        (fun _ => c.Transforms position) (fun _ _ => False) (fun d => d.vertex = c.vertex) := by
    intro entry unfit
    exact (ends_write c entry).imp (fun _ _ left => .refused unfit left)
      (fun _ _ failed => failed.elim) fun _ cut => cut.2.vertex_eq
  unfold emitTransform
  simp only [Build.expect_release, Act.lift_ok, pure_bind]
  apply Act.ends_get_bind
  by_cases emitted : c.vertex.adjustmentName.isSome
  · rw [if_pos emitted]
    exact (reported _ (if_pos (.inl emitted))).unfailing
  · rw [if_neg emitted]
    refine ends_ifEditable (fun editable => ?_) (fun assembled d left => ?_)
      fun assembled d cut => ?_
    · have fit : c.vertex.transformOf? position = PositionType.ofDataType? position.type :=
        if_neg (not_or.mpr ⟨emitted, editable⟩)
      split
      · next unfit => exact (reported _ (fit.trans unfit)).unfailing
      · next type kind =>
        refine ((ends_program c _).cut fun d cut => ?_).bind fun pair d given => ?_
        · obtain ⟨program, rfl⟩ := cut
          rfl
        · obtain ⟨program, given, rfl⟩ := given
          exact ends_editStage (.emitted (fit.trans kind) given)
    · exact Act.ends_pure (.refused (if_pos (.inr assembled)) left)
    · exact cut.2.vertex_eq

/-! ## The finished stage -/

variable [Backend δ]

/-- Binding attributes happens in the session. -/
theorem ends_bindAttributes (c : Construction δ π) (program : ProgramId) :
    (bindAttributes program).Ends c (fun _ d => ∃ session, d = { c with session })
      (fun _ d => ∃ session, d = { c with session })
      (fun d => ∃ session, d = { c with session }) := by
  unfold bindAttributes
  apply Act.ends_get_bind
  refine Act.ends_forM (fun _ d => ∃ session, d = { c with session }) ⟨c.session, rfl⟩ ?_
  intro item rest d before
  obtain ⟨session, rfl⟩ := before
  refine (ends_session _ _).imp (fun _ e after => ?_) (fun _ e after => ?_) fun e after => ?_
  all_goals
    obtain ⟨session', rfl⟩ := after
    exact ⟨session', rfl⟩

/-- An assembled stage is not compiled again: the call is refused, and nothing is asked of the
    backend. -/
theorem ends_compile_of_assembled (c : Construction δ π) (program : ProgramId)
    (assembled : c.vertex.phase = .assembled) :
    (compile .release program).Ends c (fun _ _ => False)
      (fun fault d => fault = .backend ("Vertex shader for program " ++
        toString program.val.toNat ++ " already assembled") ∧ c.Leaves c.vertex d)
      (fun d => ¬ c.session.Reliable ∧ c.Leaves c.vertex d) := by
  unfold compile
  simp only [Build.expect_release, Act.lift_ok, pure_bind]
  apply Act.ends_get_bind
  rw [if_pos assembled]
  exact (ends_report (Journal.ends_refuse _ _ _)).bind fun _ _ impossible => impossible.1.elim

/-- A stage is assembled if its source is compiled and attached; if that fails it can still be
    edited. -/
theorem ends_compile_of_open (c : Construction δ π) (program : ProgramId)
    (editable : c.vertex.phase ≠ .assembled) :
    (compile .release program).Ends c
      (fun shader d => ∃ session, d = { c with
        vertex := { c.vertex with phase := .assembled }
        shaders := c.shaders ++ [shader]
        session })
      (fun _ d => ∃ session, d = { c with session })
      (fun d => d.vertex = c.vertex ∨ d.vertex = { c.vertex with phase := .assembled }) := by
  unfold compile
  simp only [Build.expect_release, Act.lift_ok, pure_bind]
  apply Act.ends_get_bind
  rw [if_neg editable]
  refine ((ends_session c _).cut fun d cut => ?_).bind fun shader d attached => ?_
  · obtain ⟨session, rfl⟩ := cut
    exact .inl rfl
  · obtain ⟨session, rfl⟩ := attached
    apply Act.ends_modify_bind
    apply ends_editStage_bind
    refine ((ends_write _ _).imp (fun _ _ ok => ok) (fun _ _ failed => failed.elim)
      fun d cut => ?_).bind fun _ d left => Act.ends_pure ?_
    · exact .inr cut.2.vertex_eq
    · obtain ⟨journal, rfl⟩ := left
      exact ⟨_, rfl⟩

end Construction

end RenderCore
