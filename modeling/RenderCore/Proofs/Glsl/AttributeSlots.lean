import Mathlib.Algebra.Group.Nat.Defs
import RenderCore.Gpu.Software
import RenderCore.Proofs.Glsl.DistinctNames
import Std.Data.TreeMap.Lemmas

/-!
# Slots of attributes

The inputs that a layout declares and the slots that it binds are found in two ways: a table that
refuses names that are taken, and a list from which repetitions are erased. The two agree: the
slot of an attribute is the place of its input. A backend that rejects a binding ends the calls
there.
-/

namespace RenderCore

variable {δ ε π : Type}

/-! ## The inputs of a layout -/

theorem eraseDups_concat (names : List String) (last : String) :
    (names ++ [last]).eraseDups =
      if last ∈ names.eraseDups then names.eraseDups else names.eraseDups ++ [last] := by
  have listed : (names.eraseDups.any fun name => last == name) =
      decide (last ∈ names.eraseDups) := by
    rw [Bool.eq_iff_iff]
    simp
  unfold List.eraseDups at listed ⊢
  rw [eraseDupsBy_concat, listed]
  simp only [decide_eq_true_eq]

namespace VertexStage

/-- The names of the inputs are those that were asked for, without repetitions. -/
theorem names_addInputs (inputs : List Variable) {stage : VertexStage} {names : List String}
    (declared : stage.inputs.names = names.eraseDups) :
    (stage.addInputs inputs).inputs.names = (names ++ inputs.map (·.name)).eraseDups := by
  induction inputs generalizing stage names with
  | nil =>
    rw [List.map_nil, List.append_nil]
    exact declared
  | cons input rest ih =>
    have added : (stage.addInput input).2.inputs.names = (names ++ [input.name]).eraseDups := by
      rw [eraseDups_concat, ← declared]
      exact stage.inputs.names_pushUnique input
    rw [List.map_cons, List.append_cons]
    exact ih added

theorem nodup_addInputs (inputs : List Variable) {stage : VertexStage}
    (nodup : stage.inputs.names.Nodup) : (stage.addInputs inputs).inputs.names.Nodup := by
  induction inputs generalizing stage with
  | nil => exact nodup
  | cons input rest ih => exact ih (Declarations.nodup_names_pushUnique nodup input)

/-- The bindings of the inputs of a stage: the place of each, and its name. -/
def bindings (stage : VertexStage) : List (UInt32 × String) :=
  stage.inputs.members.zipIdx.map fun (input, place) => (place.toUInt32, input.name)

@[simp] theorem length_bindings (stage : VertexStage) :
    stage.bindings.length = stage.inputs.size := by
  unfold bindings Declarations.size
  rw [List.length_map, List.length_zipIdx]

theorem names_bindings (stage : VertexStage) : stage.bindings.map (·.2) = stage.inputs.names := by
  have inputs : stage.inputs.members.zipIdx.map Prod.fst = stage.inputs.members :=
    List.zipIdx_map_fst 0 _
  unfold Declarations.names
  rw [← inputs, List.map_map, bindings, List.map_map]
  rfl

theorem mem_bindings {stage : VertexStage} {slot : UInt32} {name : String} :
    (slot, name) ∈ stage.bindings ↔ ∃ (place : Nat) (input : Variable),
      stage.inputs.get? place = some input ∧ input.name = name ∧ slot = place.toUInt32 := by
  unfold bindings Declarations.get?
  simp only [List.mem_map, List.mem_zipIdx_iff_getElem?, Prod.exists, Prod.mk.injEq]
  constructor
  · rintro ⟨input, place, there, rfl, rfl⟩
    exact ⟨place, input, there, rfl, rfl⟩
  · rintro ⟨place, input, there, rfl, rfl⟩
    exact ⟨input, place, there, rfl, rfl⟩

end VertexStage

/-! ## Backends that accept -/

/-- The backend answers the bindings, one after the other. -/
inductive Accepts [Backend ε] (program : ProgramId) : List (UInt32 × String) → ε → ε → Prop where
  | nil (gpu : ε) : Accepts program [] gpu gpu
  | cons {slot : UInt32} {name : String} {rest : List (UInt32 × String)} {gpu gpu' last : ε}
      (answered : (Backend.bindAttribute program slot name).outcome gpu = (.ok (), gpu'))
      (accepts : Accepts program rest gpu' last) : Accepts program ((slot, name) :: rest) gpu last

namespace Session

/-- A session whose backend has come to `gpu` with some bindings. -/
def bound (session : Session ε) (gpu : ε) (count : Nat) : Session ε :=
  { session with
    backend := gpu
    stats := { session.stats with bindings := session.stats.bindings + count.toUInt32 } }

theorem bound_none (session : Session ε) (gpu : ε) :
    session.bound gpu 0 = { session with backend := gpu } := by
  have same : session.stats.bindings + (0 : Nat).toUInt32 = session.stats.bindings :=
    UInt32.add_zero _
  unfold bound
  rw [same]

theorem bound_bound (session : Session ε) (gpu gpu' : ε) (count more : Nat) :
    (session.bound gpu count).bound gpu' more = session.bound gpu' (count + more) := by
  unfold bound
  simp only [Nat.toUInt32, UInt32.ofNat_add, UInt32.add_assoc]

variable [Backend ε] {program : ProgramId} {slot : UInt32} {name : String} {session : Session ε}
  {gpu : ε}

theorem bindAttribute_of_answered
    (answered : (Backend.bindAttribute program slot name).outcome session.backend = (.ok (), gpu)) :
    (bindAttribute program slot name).outcome session = (.ok (), session.bound gpu 1) := by
  unfold bindAttribute onBackend
  rw [Act.outcome_bind_of_ok (Act.outcome_within answered)]
  rfl

theorem bindAttribute_of_rejected {stop : Stop}
    (rejected : (Backend.bindAttribute program slot name).outcome session.backend =
      (.error stop, gpu)) :
    (bindAttribute program slot name).outcome session = (.error stop, session.bound gpu 0) := by
  unfold bindAttribute onBackend
  rw [Act.outcome_bind_of_error (Act.outcome_within rejected), bound_none]

end Session

namespace Construction

/-- The same program and stage in another session. -/
def inSession (c : Construction δ π) (session : Session ε) : Construction ε π where
  program := c.program
  vertex := c.vertex
  shaders := c.shaders
  session := session

variable [Backend ε] {program : ProgramId}

/-- Makes bindings one after the other. -/
def bindEach (program : ProgramId) (bindings : List (UInt32 × String)) :
    Act (Construction ε π) Unit :=
  bindings.forM fun (slot, name) =>
    (Session.bindAttribute program slot name : Act (Session ε) Unit)

/-- Bindings that the backend answers are made and counted. -/
theorem bindEach_of_accepts {done : List (UInt32 × String)} {before gpu : ε}
    (accepts : Accepts program done before gpu) (rest : List (UInt32 × String))
    (c : Construction ε π) (count : Nat) :
    (bindEach program (done ++ rest)).outcome (c.inSession (c.session.bound before count)) =
      (bindEach program rest).outcome
        (c.inSession (c.session.bound gpu (count + done.length))) := by
  -- The count stands for the bindings before these, since the session has changed by then.
  induction accepts generalizing count with
  | nil gpu => rfl
  | @cons slot name more before next gpu answered accepts ih =>
    have made : (Session.bindAttribute program slot name).outcome (c.session.bound before count) =
        (.ok (), c.session.bound next (count + 1)) := by
      rw [Session.bindAttribute_of_answered answered, Session.bound_bound]
    have step : (bindEach program ((slot, name) :: more ++ rest)).outcome
          (c.inSession (c.session.bound before count)) =
        (bindEach program (more ++ rest)).outcome
          (c.inSession (c.session.bound next (count + 1))) :=
      Act.outcome_bind_of_ok (Act.outcome_within made)
    rw [step, ih (count + 1), List.length_cons, Nat.add_right_comm, Nat.add_assoc]

/-- What comes after bindings that the backend answers. -/
theorem bindEach_append {done : List (UInt32 × String)} {c : Construction ε π} {gpu : ε}
    (accepts : Accepts program done c.session.backend gpu) (rest : List (UInt32 × String)) :
    (bindEach program (done ++ rest)).outcome c =
      (bindEach program rest).outcome (c.inSession (c.session.bound gpu done.length)) := by
  have begun := bindEach_of_accepts accepts rest c 0
  rw [Session.bound_none, Nat.zero_add] at begun
  exact begun

/-- The slots of a layout are bound as the places of the inputs, if the inputs are those of the
    layout. -/
theorem bindAttributes_eq [StageHost π] {c : Construction ε π}
    (declared : c.vertex.inputs.names = (StageHost.layout c.program).slots) :
    (bindAttributes program).outcome c = (bindEach program c.vertex.bindings).outcome c := by
  have mapped : ∀ items : List (String × Nat),
      (items.forM fun item =>
        (Session.bindAttribute program item.2.toUInt32 item.1 : Act (Session ε) Unit) :
          Act (Construction ε π) Unit) =
        bindEach program (items.map fun item => (item.2.toUInt32, item.1)) := by
    intro items
    induction items with
    | nil => rfl
    | cons item rest ih => exact congrArg (_ >>= fun _ => ·) ih
  have listed : c.vertex.bindings = (StageHost.layout c.program).slots.zipIdx.map
      fun item => (item.2.toUInt32, item.1) := by
    rw [← declared, Declarations.names, List.zipIdx_map, List.map_map]
    rfl
  rw [listed, ← mapped]
  rfl

variable [StageHost π] {c : Construction ε π} {gpu gpu' : ε}

/-- Bindings that the backend answers are made, and all are counted. -/
theorem bindAttributes_of_accepts
    (declared : c.vertex.inputs.names = (StageHost.layout c.program).slots)
    (accepts : Accepts program c.vertex.bindings c.session.backend gpu) :
    (bindAttributes program).outcome c =
      (.ok (), c.inSession (c.session.bound gpu c.vertex.inputs.size)) := by
  have made := bindEach_append accepts []
  rw [List.append_nil, VertexStage.length_bindings] at made
  rw [bindAttributes_eq declared, made]
  rfl

/-- Bindings end at the first one that the backend does not answer. -/
theorem bindAttributes_of_rejected {done rest : List (UInt32 × String)} {slot : UInt32}
    {name : String} {stop : Stop}
    (declared : c.vertex.inputs.names = (StageHost.layout c.program).slots)
    (split : c.vertex.bindings = done ++ (slot, name) :: rest)
    (accepts : Accepts program done c.session.backend gpu)
    (rejected : (Backend.bindAttribute program slot name).outcome gpu = (.error stop, gpu')) :
    (bindAttributes program).outcome c =
      (.error stop, c.inSession (c.session.bound gpu' done.length)) := by
  have refused : (Session.bindAttribute program slot name).outcome
      (c.session.bound gpu done.length) = (.error stop, c.session.bound gpu' done.length) := by
    rw [Session.bindAttribute_of_rejected rejected, Session.bound_bound, Nat.add_zero]
  rw [bindAttributes_eq declared, split, bindEach_append accepts ((slot, name) :: rest)]
  exact Act.outcome_bind_of_error (Act.outcome_within refused)

end Construction

/-! ## The software backend -/

namespace Software

/-- The attributes that a program is left with: each of the bindings, and what was bound before
    under other names. -/
theorem accepts_bindings {program : ProgramId} {bindings : List (UInt32 × String)}
    (nodup : (bindings.map (·.2)).Nodup) {gpu : Software} {object : ProgramObject}
    (found : gpu.programs[program.val]? = some object) :
    ∃ gpu' object', Accepts program bindings gpu gpu' ∧
      gpu'.programs[program.val]? = some object' ∧
      ∀ name slot, object'.attributes[name]? = some slot ↔
        (slot, name) ∈ bindings ∨
          object.attributes[name]? = some slot ∧ name ∉ bindings.map (·.2) := by
  induction bindings generalizing gpu object with
  | nil => exact ⟨gpu, object, .nil gpu, found, by simp⟩
  | cons binding rest ih =>
    -- The rest binds other names, so it leaves the slot of this one in place.
    obtain ⟨slot, name⟩ := binding
    rw [List.map_cons, List.nodup_cons] at nodup
    let changed : ProgramObject :=
      { object with attributes := object.attributes.insert name slot }
    let next : Software := { gpu with programs := gpu.programs.insert program.val changed }
    have answered : (Backend.bindAttribute program slot name : Act Software Unit).outcome gpu =
        (.ok (), next) := by
      show (changeProgram program _).outcome gpu = _
      unfold changeProgram
      rw [Act.outcome_get_bind, found]
      rfl
    obtain ⟨last, object', accepts, kept, attributes⟩ := ih nodup.2
      (show next.programs[program.val]? = some changed from Std.TreeMap.getElem?_insert_self)
    refine ⟨last, object', .cons answered accepts, kept, fun other place => ?_⟩
    rw [attributes other place]
    have inserted : changed.attributes[other]? =
        if name = other then some slot else object.attributes[other]? := by
      simp only [changed, Std.TreeMap.getElem?_insert, Std.LawfulEqCmp.compare_eq_iff_eq]
    rw [inserted]
    by_cases same : name = other
    · subst same
      have new : ∀ place, (place, name) ∉ rest :=
        fun place listed => nodup.1 (List.mem_map.mpr ⟨_, listed, rfl⟩)
      simp [new, nodup.1, eq_comm]
    · simp [same, Ne.symm same]

end Software

/-- The attributes of a program are those of a layout, and the slot of each is the place of its
    input. -/
structure ProgramObject.Numbered (found : ProgramObject) (layout : VertexLayout)
    (stage : VertexStage) : Prop where
  names : ∀ name, name ∈ found.attributes ↔ name ∈ layout.attributes.map (·.name)
  slots : ∀ (name : String) slot, found.attributes[name]? = some slot ↔
    ∃ (place : Nat) (input : Variable),
      stage.inputs.get? place = some input ∧ input.name = name ∧ slot = place.toUInt32
  /-- Unless there are more places than words. -/
  one_to_one : stage.inputs.size ≤ 2 ^ 32 → ∀ place : Nat, place < stage.inputs.size →
    ∃! name : String, found.attributes[name]? = some place.toUInt32

/-- A program that has the bindings of the inputs of a layout, and no others, is numbered. -/
theorem VertexStage.numbered_of_bindings {stage : VertexStage} {layout : VertexLayout}
    {found : ProgramObject} (declared : stage.inputs.names = layout.slots)
    (attributes : ∀ name slot,
      found.attributes[name]? = some slot ↔ (slot, name) ∈ stage.bindings) :
    found.Numbered layout stage := by
  have slots : ∀ name slot, found.attributes[name]? = some slot ↔
      ∃ (place : Nat) (input : Variable),
      stage.inputs.get? place = some input ∧ input.name = name ∧ slot = place.toUInt32 :=
    fun name slot => (attributes name slot).trans mem_bindings
  refine ⟨fun name => ?_, slots, fun few place small => ?_⟩
  · rw [Std.TreeMap.mem_iff_isSome_getElem?, Option.isSome_iff_exists, ← List.mem_eraseDups]
    show _ ↔ name ∈ layout.slots
    rw [← declared, ← stage.names_bindings, List.mem_map]
    simp only [attributes, Prod.exists, exists_eq_right]
  · have there : stage.inputs.get? place = some stage.inputs.members[place] :=
      List.getElem?_eq_getElem small
    refine ⟨_, (slots _ _).mpr ⟨place, _, there, rfl, rfl⟩, fun name taken => ?_⟩
    obtain ⟨other, input, found, rfl, same⟩ := (slots name _).mp taken
    have small' : other < stage.inputs.size := (List.getElem?_eq_some_iff.mp found).1
    have places : place = other := by
      have words := congrArg UInt32.toNat same
      rw [UInt32.toNat_ofNat_of_lt' (show place < 2 ^ 32 by omega),
        UInt32.toNat_ofNat_of_lt' (show other < 2 ^ 32 by omega)] at words
      exact words
    subst places
    exact congrArg Variable.name (Option.some.inj (found.symm.trans there))

/-! ## From a layout to its slots -/

namespace Construction

variable {c : Construction δ π}

/-- In either build the attributes of an open stage are declared without a panic, unless a logger
    fails. -/
theorem steady_addAttribute (build : Build) (a : VertexAttribute) :
    (addInput build a.asInput : Act (Construction δ π) Bool).Steady
      fun c => c.Reliable ∧ c.vertex.phase ≠ .assembled := by
  rintro c ⟨reliable, editable⟩
  have reported : ∀ severity source message,
      (liftM (Journal.log severity source message) : Act (Construction δ π) Unit).Steady
        fun c => c.Reliable ∧ c.vertex.phase ≠ .assembled := by
    intro severity source message
    refine (Session.steady_report (Journal.steady_log severity source message)).within
      (fun _ ok => ok.1) fun _ _ ok left => ⟨left, ok.2⟩
  unfold addInput
  refine Act.ends_check_bind (fun _ _ => ?_) fun p failed => ?_
  · refine ends_ifEditable (fun _ => ?_) (fun assembled => absurd assembled editable)
      fun assembled => absurd assembled editable
    apply Act.ends_get_bind
    apply ends_editStage_bind
    have edited : Construction.Reliable { c with vertex := (c.vertex.addInput a.asInput).2 } ∧
        (c.vertex.addInput a.asInput).2.phase ≠ .assembled :=
      ⟨reliable, VertexStage.begun_phase_ne editable⟩
    split
    · exact (reported _ _ _ _ edited).bind fun _ _ ok => Act.ends_pure ok
    · exact Act.ends_pure edited
  · have passed : build.expect (a.asInput.storage = .vertexInput)
        ("'" ++ a.asInput.name ++ "' is not an attribute") = .ok () :=
      if_neg fun broken => nomatch broken.2
    rw [passed] at failed
    contradiction

/-- The slots of attributes are the places of their inputs. For every layout, declared on an open
    stage without inputs, in either build and with any program and backend: the call panics only if
    a logger fails; and then, in whatever session the attributes are bound, a backend that accepts
    one binding for each input, with its place and its name, is asked for these and no others, and
    all are counted. A backend that rejects one of them is asked for no further ones, those before
    it are counted, and the caller is told what the backend told. The software backend accepts them;
    it leaves a program that had no attributes with those of the layout, numbered from 0. -/
theorem slots_follow_inputs [StageHost π] (build : Build) {layout : VertexLayout}
    (host : StageHost.layout c.program = layout) (editable : c.vertex.phase ≠ .assembled)
    (empty : c.vertex.inputs.isEmpty = true) :
    (addLayout build layout).Ends c
      (fun _ d => ∀ program,
        (∀ (ε : Type) [Backend ε] (session : Session ε) gpu,
          Accepts program d.vertex.bindings session.backend gpu →
          (bindAttributes program).outcome (d.inSession session) =
            (.ok (), d.inSession (session.bound gpu d.vertex.inputs.size))) ∧
        (∀ (ε : Type) [Backend ε] (session : Session ε) done slot name rest gpu stop gpu',
          d.vertex.bindings = done ++ (slot, name) :: rest →
          Accepts program done session.backend gpu →
          (Backend.bindAttribute program slot name).outcome gpu = (.error stop, gpu') →
          (bindAttributes program).outcome (d.inSession session) =
            (.error stop, d.inSession (session.bound gpu' done.length))) ∧
        ∀ (session : Session Software) object,
          session.backend.programs[program.val]? = some object →
          object.attributes.isEmpty = true →
          ∃ gpu found, gpu.programs[program.val]? = some found ∧
            found.Numbered layout d.vertex ∧
            (bindAttributes program).outcome (d.inSession session) =
              (.ok (), d.inSession (session.bound gpu d.vertex.inputs.size)))
      (fun _ _ => False)
      (fun _ => ¬ c.session.Reliable) := by
  have steady : (addLayout build layout : Act (Construction δ π) Unit).Steady
      fun c => c.Reliable ∧ c.vertex.phase ≠ .assembled :=
    Act.steady_forM fun a => (steady_addAttribute build a).discard
  have ended := (c.ends_addInputs layout.attributes).unfit steady
  refine ended.imp (fun _ d left program => ?_) (fun _ _ failed => failed)
    fun _ cut reliable => cut.2 ⟨reliable, editable⟩
  rw [VertexStage.accept_of_open editable] at left
  have none : c.vertex.inputs.names = [] := by
    unfold Declarations.names
    rw [List.isEmpty_iff.mp empty, List.map_nil]
  have declared : d.vertex.inputs.names = layout.slots := by
    rw [left.vertex_eq, VertexStage.names_addInputs _ (none.trans List.eraseDups_nil.symm),
      List.map_map]
    rfl
  have layouts : StageHost.layout d.program = layout := by
    obtain ⟨journal, rfl⟩ := left
    exact host
  rw [← layouts] at declared
  refine ⟨fun ε _ session gpu accepts => ?_, ?_, fun session object found fresh => ?_⟩
  · exact bindAttributes_of_accepts (c := d.inSession session) declared accepts
  · intro ε _ session done slot name rest gpu stop gpu' split accepts rejected
    exact bindAttributes_of_rejected (c := d.inSession session) declared split accepts rejected
  · have nodup : (d.vertex.bindings.map (·.2)).Nodup := by
      rw [VertexStage.names_bindings, left.vertex_eq]
      exact VertexStage.nodup_addInputs _ (none ▸ List.nodup_nil)
    obtain ⟨gpu, object', accepts, kept, attributes⟩ := Software.accepts_bindings nodup found
    have only : ∀ name slot, object'.attributes[name]? = some slot ↔
        (slot, name) ∈ d.vertex.bindings := by
      intro name slot
      rw [attributes, Std.TreeMap.getElem?_of_isEmpty fresh]
      simp
    exact ⟨gpu, object', kept, VertexStage.numbered_of_bindings (layouts ▸ declared) only,
      bindAttributes_of_accepts (c := d.inSession session) declared accepts⟩

/-- A layout that names one attribute twice. -/
def repeatedPosition : VertexLayout where
  name := "RepeatedPosition"
  attributes := [⟨"inPosition", .vec2⟩, ⟨"inColor", .vec4⟩, ⟨"inPosition", .vec2⟩]

/-- A program for such a layout, with a new vertex stage, for the recording backend. -/
def repeatedConstruction : Construction Recorder where
  program := { layout := repeatedPosition }
  session := bareConstruction.session

/-- The repetition takes no slot. -/
theorem slots_of_repeated_position : ∃ d : Construction Recorder,
    (addLayout .release repeatedPosition).outcome repeatedConstruction = (.ok (), d) ∧
    d.vertex.bindings = [(0, "inPosition"), (1, "inColor")] ∧
    (bindAttributes ⟨1⟩).outcome d = (.ok (), d.inSession (d.session.bound
      { calls := [.bindAttribute ⟨1⟩ 0 "inPosition", .bindAttribute ⟨1⟩ 1 "inColor"] } 2)) := by
  have slots := slots_follow_inputs (c := repeatedConstruction) .release rfl nofun rfl
  obtain ⟨d, answered, listed, session⟩ : ∃ d : Construction Recorder,
      (addLayout .release repeatedPosition).outcome repeatedConstruction = (.ok (), d) ∧
      d.vertex.bindings = [(0, "inPosition"), (1, "inColor")] ∧ d.session.backend = {} :=
    ⟨_, rfl, by decide +kernel, rfl⟩
  have layout : StageHost.layout repeatedConstruction.program = repeatedPosition := rfl
  rw [layout, Act.ends_iff_outcome, answered] at slots
  have accepts : Accepts ⟨1⟩ d.vertex.bindings d.session.backend
      { calls := [.bindAttribute ⟨1⟩ 0 "inPosition", .bindAttribute ⟨1⟩ 1 "inColor"] } := by
    rw [listed, session]
    exact .cons rfl (.cons rfl (.nil _))
  have size : d.vertex.inputs.size = 2 := by
    rw [← VertexStage.length_bindings, listed]
    rfl
  exact ⟨d, answered, listed, size ▸ (slots ⟨1⟩).1 Recorder d.session _ accepts⟩

end Construction

end RenderCore
