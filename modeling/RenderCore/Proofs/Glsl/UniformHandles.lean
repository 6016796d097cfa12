import Mathlib.Algebra.Group.Nat.Defs
import Mathlib.Data.List.Nodup
import RenderCore.Proofs.Glsl.CallEffects

/-!
# Handles and declarations of uniforms

A program keeps its uniforms in the order in which they were registered and never takes one out, so
the handle of a uniform, its place in that order, stands for the same uniform as long as the program
is built. The same order is that of the declarations: a group of stages gets one line for each
uniform that some stage of the group sees.
-/

namespace RenderCore

/-- What can be asked of a program that no stage is built for. -/
inductive ProgramCall where
  | addUniform (visibility : Visibility) (type : DataType) (precision : Precision) (base : String)
  | issueName (letter : Option Char) (base : String)
  | setStage (mark : Option UInt32)

/-- A uniform that was registered: what was asked for, and the handle and the name that were given
    for it. -/
structure Registration where
  handle : UniformHandle
  name : String
  type : DataType
  precision : Precision
  visibility : Visibility
  deriving DecidableEq, Repr

/-- The uniform that the program is to keep for a registration. -/
def Registration.uniform (r : Registration) : Uniform :=
  { declared := { Variable.uniform r.name r.type with precision := r.precision }
    visibility := r.visibility }

/-- The call, carried out. It answers the registration that it makes, if it makes one. -/
def ProgramCall.act (build : Build) : ProgramCall → Act ProgramBuilder (Option Registration)
  | .addUniform visibility type precision base => do
    let (handle, name) ← ProgramBuilder.addUniform build visibility type precision base
    return some { handle, name, type, precision, visibility }
  | .issueName letter base => do
    let _ ← ProgramBuilder.issueName letter base
    return none
  | .setStage mark => do
    ProgramBuilder.setStage mark
    return none

namespace ProgramBuilder

/-- The registrations that calls come to, made one after the other, and the program that they
    leave. A call that is cut short comes to none; the calls after it are made on what it leaves. -/
def run (build : Build) (program : ProgramBuilder) : List ProgramCall →
    List Registration × ProgramBuilder
  | [] => ([], program)
  | call :: rest =>
    let (answer, left) := (call.act build).outcome program
    let (later, last) := left.run build rest
    (answer.toOption.join.toList ++ later, last)

/-- The registrations that were made on the way from one state of a program to another: their
    uniforms were added in order, and the handles are the places where they were. -/
structure Registers (program : ProgramBuilder) (made : List Registration)
    (left : ProgramBuilder) : Prop where
  uniforms : left.uniforms = program.uniforms ++ made.map (·.uniform)
  handles : made.map (·.handle) =
    (List.range' program.uniforms.length made.length).map fun place => ⟨place.toUInt32⟩

variable {build : Build} {program middle left : ProgramBuilder} {made later : List Registration}

theorem Registers.nothing (same : left.uniforms = program.uniforms) :
    program.Registers [] left where
  uniforms := by rw [same, List.map_nil, List.append_nil]
  handles := rfl

theorem Registers.append (first : program.Registers made middle)
    (second : middle.Registers later left) : program.Registers (made ++ later) left where
  uniforms := by rw [second.uniforms, first.uniforms, List.map_append, List.append_assoc]
  handles := by
    rw [List.map_append, first.handles, second.handles, first.uniforms, List.length_append,
      List.length_append, List.length_map, ← List.map_append, List.range'_append_1]

/-- A call registers one uniform or none. A debug build refuses a uniform that no stage sees. -/
theorem registers_call (build : Build) (program : ProgramBuilder) (call : ProgramCall) :
    program.Registers ((call.act build).outcome program).1.toOption.join.toList
      ((call.act build).outcome program).2 := by
  have ended : (call.act build).Ends program
      (fun answer left => program.Registers answer.toList left) (fun _ _ => False)
      (program.Registers []) := by
    cases call with
    | addUniform visibility type precision base =>
      refine ((program.ends_addUniform build visibility type precision base).cut
        fun left cut => ?_).bind fun given left ok => Act.ends_pure ?_
      · exact .nothing (congrArg uniforms cut.2)
      · obtain ⟨rfl, rfl⟩ := ok
        exact ⟨rfl, rfl⟩
    | issueName letter base => exact .nothing rfl
    | setStage mark => exact .nothing rfl
  rw [Act.ends_iff_outcome] at ended
  split at ended
  case h_1 outcome => rw [outcome]; exact ended
  case h_2 outcome => exact ended.elim
  case h_3 outcome => rw [outcome]; exact ended

/-- What calls come to, by induction on the calls. -/
theorem registers_run (build : Build) (program : ProgramBuilder) (calls : List ProgramCall) :
    program.Registers (program.run build calls).1 (program.run build calls).2 := by
  induction calls generalizing program with
  | nil => exact .nothing rfl
  | cons call rest ih => exact (registers_call build program call).append (ih _)

/-- A run goes on from where it was interrupted. -/
theorem run_append (build : Build) (program : ProgramBuilder) (earlier later : List ProgramCall) :
    program.run build (earlier ++ later) =
      ((program.run build earlier).1 ++ ((program.run build earlier).2.run build later).1,
        ((program.run build earlier).2.run build later).2) := by
  induction earlier generalizing program with
  | nil => rfl
  | cons call rest ih => simp only [List.cons_append, run, ih, List.append_assoc]

/-! ## New programs -/

variable {layout : VertexLayout}

theorem Registers.uniforms_of_new (registers : Registers { layout } made left) :
    left.uniforms = made.map (·.uniform) := by
  rw [registers.uniforms, List.nil_append]

/-- The handle of the registration at a place is that place. -/
theorem Registers.handle_getElem (registers : Registers { layout } made left) {place : Nat}
    (inside : place < made.length) : made[place].handle = ⟨place.toUInt32⟩ := by
  have handle : (made.map (·.handle))[place]? = some ⟨place.toUInt32⟩ := by
    rw [registers.handles]
    simp [inside]
  rwa [List.getElem?_map, List.getElem?_eq_getElem inside, Option.map_some, Option.some_inj]
    at handle

theorem toNat_place {place : Nat} (few : made.length < 2 ^ 32) (inside : place < made.length) :
    place.toUInt32.toNat = place :=
  UInt32.toNat_ofNat_of_lt' (Nat.lt_trans inside few)

theorem Registers.nodup_handles (registers : Registers { layout } made left)
    (few : made.length < 2 ^ 32) : (made.map (·.handle)).Nodup := by
  rw [registers.handles]
  refine List.Nodup.map_on (fun place inside other within same => ?_) List.nodup_range'
  have inside : place < made.length := by simpa using inside
  have within : other < made.length := by simpa using within
  have same : place.toUInt32 = other.toUInt32 := congrArg UniformHandle.val same
  rw [← toNat_place few inside, ← toNat_place few within, same]

theorem Registers.uniform?_handle (registers : Registers { layout } made left)
    (few : made.length < 2 ^ 32) {r : Registration} (registered : r ∈ made) :
    left.uniform? r.handle = some r.uniform := by
  obtain ⟨place, inside, rfl⟩ := List.getElem_of_mem registered
  rw [uniform?, registers.handle_getElem inside, toNat_place few inside, registers.uniforms_of_new,
    List.getElem?_map, List.getElem?_eq_getElem inside, Option.map_some]

/-- The declarations for a group of stages are those of the registrations that the group sees. -/
theorem Registers.uniformText_eq (registers : Registers { layout } made left) (mask : Visibility)
    (dialect : Dialect) : StageHost.uniformText left mask dialect =
      String.join ((made.filter (·.visibility.meets mask)).map fun r =>
        r.uniform.declared.declaration dialect ++ ";\n") := by
  show (left.visibleUniforms mask).text dialect = _
  rw [visibleUniforms, registers.uniforms_of_new, List.filter_map, Declarations.text, List.map_map,
    List.map_map]
  rfl

/-- Handles of uniforms stand for the same uniform for good, and declarations are exact. Whatever is
    asked of a new program, in either build: the handles that are given differ from each other; from
    when a uniform was registered on, however the program is used later, its handle stands for the
    name that was given, the type, the precision and the visibility; and the declarations for any
    group of stages, in any dialect, are one line for each registration that has a bit in common
    with the group, in order, and nothing else, so that a uniform that no stage sees is not
    declared. -/
theorem handles_stable (build : Build) (layout : VertexLayout) (earlier later : List ProgramCall)
    (few : (run build { layout } (earlier ++ later)).1.length < 2 ^ 32) :
    let (before, _) := run build { layout } earlier
    let (made, program) := run build { layout } (earlier ++ later)
    (made.map (·.handle)).Nodup ∧
      (∀ r ∈ before, program.uniform? r.handle = some r.uniform) ∧
      ∀ (mask : Visibility) (dialect : Dialect),
        let seen := made.filter fun r => r.visibility.bits &&& mask.bits ≠ 0
        StageHost.uniformText program mask dialect =
            String.join (seen.map fun r => r.uniform.declared.declaration dialect ++ ";\n") ∧
          ∀ r ∈ seen, r.visibility.bits ≠ 0 := by
  have registers := registers_run build { layout } (earlier ++ later)
  refine ⟨registers.nodup_handles few, fun r registered => ?_, fun mask dialect => ?_⟩
  · have kept : r ∈ (run build { layout } (earlier ++ later)).1 := by
      rw [run_append]
      exact List.mem_append_left _ registered
    exact registers.uniform?_handle few kept
  · refine ⟨registers.uniformText_eq mask dialect, fun r seen unseen => ?_⟩
    have meets := of_decide_eq_true (List.mem_filter.mp seen).2
    rw [unseen, UInt32.zero_and] at meets
    exact meets rfl

/-- Calls for a vertex shader's uniform, an output's name, a uniform of a later stage whose bits no
    stage stands for, and one that no stage sees. -/
def mixedCalls : List ProgramCall :=
  [.addUniform .vertex .vec4 .unspecified "Tint", .issueName (some 'v') "Color",
    .setStage (some 1), .addUniform ⟨5⟩ .mat3 .high "Tint", .addUniform ⟨0⟩ .float .low "Hidden"]

/-- A release build registers the uniform that no stage sees, but declares it nowhere. -/
theorem handles_stable_mixed :
    (run .release { layout := ⟨"Quad", []⟩ } mixedCalls).1.length < 2 ^ 32 ∧
      (run .release { layout := ⟨"Quad", []⟩ } mixedCalls).2.uniform? ⟨2⟩ =
        some ⟨{ Variable.uniform "uHidden_Stage1" .float with precision := .low }, ⟨0⟩⟩ ∧
      StageHost.uniformText (run .release { layout := ⟨"Quad", []⟩ } mixedCalls).2 ⟨4294967295⟩
          ⟨.v310es, .es, false⟩ =
        "uniform vec4 uTint;\nuniform highp mat3 uTint_Stage1;\n" := by
  have few : (run .release { layout := ⟨"Quad", []⟩ } mixedCalls).1.length < 2 ^ 32 := by
    decide +kernel
  obtain ⟨-, kept, text⟩ := handles_stable .release ⟨"Quad", []⟩ mixedCalls [] few
  refine ⟨few, ?_, ?_⟩
  · exact kept ⟨⟨2⟩, "uHidden_Stage1", .float, .low, ⟨0⟩⟩ (by decide +kernel)
  · refine (text ⟨4294967295⟩ ⟨.v310es, .es, false⟩).1.trans ?_
    decide +kernel

end ProgramBuilder

end RenderCore
