import RenderCore.Proofs.Glsl.Compilations
import RenderCore.Proofs.Glsl.DeclarationReading
import RenderCore.Proofs.Gpu.OutlineChecks
import RenderCore.Proofs.Gpu.SoftwareShaders
import RenderCore.Proofs.Journal.Reports

/-!
# Sources that the software backend accepts

What stands around the statements of a vertex stage never makes the software backend reject its
source: the version is announced, the declarations leave the depth of brackets as it is, and there
is a main function. So the statements decide whether a compilation succeeds.
-/

namespace RenderCore

variable {π : Type}

theorem Dialect.level_versionLine (dialect : Dialect) : Outline.Level dialect.versionLine := by
  obtain ⟨version, standard, compatibility⟩ := dialect
  have flat : Outline.Bracketless (versionLine ⟨version, standard, compatibility⟩) := by
    cases version <;> cases standard <;> cases compatibility <;> decide
  exact flat.level

theorem Dialect.version_versionLine (dialect : Dialect) :
    "#version ".toList <+: dialect.versionLine.toList := by
  rw [versionLine, String.append_assoc, String.toList_append]
  exact List.prefix_append _ _

namespace Variable

theorem level_arraySuffix (count : Option UInt32) : Outline.Level (arraySuffix count) := by
  cases count with
  | none => exact fun _ _ => rfl
  | some count =>
    have other : ∀ c ∈ Outline.opening ++ Outline.closing, c.isDigit = false := by
      simp [Outline.opening, Outline.closing]
    have digits : Outline.Bracketless (toString count.toNat) :=
      fun c bracket => Text.not_mem_toString (other c bracket) count.toNat
    exact digits.level.bracketed

/-- The only brackets of a declaration are those around the length of an array. -/
theorem level_declaration (dialect : Dialect) {v : Variable}
    (named : Outline.Bracketless v.name) : Outline.Level (v.declaration dialect) := by
  have storage : Outline.Bracketless (v.storageWords dialect) := by
    unfold storageWords
    generalize dialect.version = version
    cases v.storage <;> cases version <;> decide
  have precision : Outline.Bracketless (v.precisionWords dialect) := by
    unfold precisionWords
    cases dialect.usesPrecision <;> cases v.precision <;> decide
  have type : Outline.Bracketless v.type.word := by
    cases v.type <;> decide
  have blank : Outline.Bracketless " " := by decide
  exact ((((storage.level.append precision.level).append type.level).append blank.level).append
    named.level).append (level_arraySuffix v.arrayCount)

end Variable

theorem Declarations.level_text (dialect : Dialect) {block : Declarations}
    (named : ∀ v ∈ block.members, Outline.Bracketless v.name) :
    Outline.Level (block.text dialect) := by
  have line : Outline.Bracketless ";\n" := by decide
  refine Outline.level_join fun text member => ?_
  obtain ⟨v, declared, rfl⟩ := List.mem_map.mp member
  exact (v.level_declaration dialect (named v declared)).append line.level

namespace Construction

variable [StageHost π] {c : Construction Software π} {uniforms : Declarations}

/-- The names that stand in the source of the vertex stage have no brackets in them. The program
    declares the uniforms given. -/
structure Bracketless (c : Construction Software π) (uniforms : Declarations) : Prop where
  written : StageHost.uniformText c.program .vertex c.session.dialect =
    uniforms.text c.session.dialect
  uniforms : ∀ v ∈ uniforms.members, Outline.Bracketless v.name
  inputs : ∀ v ∈ c.vertex.inputs.members, Outline.Bracketless v.name
  outputs : ∀ v ∈ c.vertex.outputs.members, Outline.Bracketless v.name

/-- A program that keeps its uniforms itself. -/
theorem bracketless_of_builder {c : Construction Software}
    (named : ∀ u ∈ c.program.uniforms, Outline.Bracketless u.declared.name)
    (inputs : ∀ v ∈ c.vertex.inputs.members, Outline.Bracketless v.name)
    (outputs : ∀ v ∈ c.vertex.outputs.members, Outline.Bracketless v.name) :
    c.Bracketless (c.program.visibleUniforms .vertex) where
  written := rfl
  uniforms := by
    intro v member
    obtain ⟨u, listed, rfl⟩ := List.mem_map.mp member
    exact named u (List.mem_filter.mp listed).1
  inputs := inputs
  outputs := outputs

/-- What stands before the main function, if the program declares the uniforms given. -/
def header (c : Construction Software π) (uniforms : Declarations) : String :=
  c.session.dialect.versionLine ++ (uniforms.text c.session.dialect
    ++ c.vertex.inputs.text c.session.dialect ++ c.vertex.outputs.text c.session.dialect)

namespace Bracketless

theorem vertexSource_eq (bracketless : c.Bracketless uniforms) :
    c.vertexSource c.session.dialect =
      Outline.mainSource (c.header uniforms) c.vertex.code := by
  rw [vertexSource, VertexStage.source, bracketless.written, Outline.mainSource, header]
  simp only [String.append_assoc]

theorem level_header (bracketless : c.Bracketless uniforms) :
    Outline.Level (c.header uniforms) := by
  have uniformText := Declarations.level_text c.session.dialect bracketless.uniforms
  have inputText := Declarations.level_text c.session.dialect bracketless.inputs
  have outputText := Declarations.level_text c.session.dialect bracketless.outputs
  exact c.session.dialect.level_versionLine.append
    ((uniformText.append inputText).append outputText)

/-- The verdict on the source of a vertex stage is one on its statements. -/
theorem check_vertexSource (bracketless : c.Bracketless uniforms) :
    (Outline.check (c.vertexSource c.session.dialect) = .ok () ∧ Outline.Closed c.vertex.code) ∨
      ∃ log ∈ ["syntax error: unexpected closing bracket", "syntax error: unbalanced brackets"],
        Outline.check (c.vertexSource c.session.dialect) = .error log ∧
          ¬ Outline.Closed c.vertex.code := by
  have version : "#version ".toList <+: (c.header uniforms).toList := by
    rw [header, String.toList_append]
    exact c.session.dialect.version_versionLine.trans (List.prefix_append _ _)
  rw [bracketless.vertexSource_eq]
  exact Outline.check_main version bracketless.level_header c.vertex.code

end Bracketless

/-- How the compilation of an editable stage ends on a program that exists. -/
theorem Bracketless.ends_compile (bracketless : c.Bracketless uniforms) (build : Build)
    {target : ProgramId} {found : ProgramObject} (editable : c.vertex.phase ≠ .assembled)
    (present : c.session.backend.programs[target.val]? = some found) :
    (compile build target).Ends c (fun _ _ => Outline.Closed c.vertex.code)
      (fun fault _ => ¬ Outline.Closed c.vertex.code ∧
        ∃ log ∈ ["syntax error: unexpected closing bracket", "syntax error: unbalanced brackets"],
          fault = .compilation log)
      (fun _ => ¬ c.session.Reliable) := by
  have alarm {entries : List Entry} (rings : c.session.journal.alarmed entries = true) :
      ¬ c.session.Reliable := by
    intro reliable
    rw [Journal.Reliable.alarmed reliable] at rings
    contradiction
  have ended := compile_outcome build target editable
  rw [Software.attachShader_outcome, present] at ended
  rcases bracketless.check_vertexSource with ⟨accepted, closed⟩ | ⟨log, listed, rejected, unclosed⟩
  · rw [accepted] at ended
    dsimp only at ended
    rw [Act.ends_iff_outcome, ended, Journal.heeded]
    cases rings : c.session.journal.alarmed _ with
    | true => exact alarm rings
    | false => exact closed
  · rw [rejected] at ended
    dsimp only at ended
    rw [Act.ends_iff_outcome, ended, Journal.heeded]
    cases rings : c.session.journal.alarmed _ with
    | true => exact alarm rings
    | false => exact ⟨unclosed, log, listed, rfl⟩

/-- On a program of the software backend that exists, an editable stage is compiled exactly if the
    brackets of its statements close; otherwise the compiler's log finds fault with the brackets.
    Nothing but a logger cuts the compilation short, nor does the depth of the brackets overflow. -/
theorem compile_closed (build : Build) {target : ProgramId} {found : ProgramObject}
    (editable : c.vertex.phase ≠ .assembled)
    (present : c.session.backend.programs[target.val]? = some found)
    (bracketless : c.Bracketless uniforms)
    (short : (c.vertexSource c.session.dialect).length < 2 ^ 31) :
    Outline.wordCheck build (c.vertexSource c.session.dialect) =
        .ok (Outline.check (c.vertexSource c.session.dialect)) ∧
      (compile build target).Ends c (fun _ _ => Outline.Closed c.vertex.code)
        (fun fault _ => ¬ Outline.Closed c.vertex.code ∧
          ∃ log ∈ ["syntax error: unexpected closing bracket", "syntax error: unbalanced brackets"],
            fault = .compilation log)
        (fun _ => ¬ c.session.Reliable) ∧
      (c.session.Reliable →
        ((∃ shader d, (compile build target).outcome c = (.ok shader, d)) ↔
          Outline.Closed c.vertex.code)) := by
  have ends := bracketless.ends_compile build editable present
  refine ⟨Outline.wordCheck_eq build short, ends, fun reliable => ⟨?_, fun closed => ?_⟩⟩
  · rintro ⟨shader, d, compiled⟩
    exact ends.of_answer compiled
  · rw [Act.ends_iff_outcome] at ends
    split at ends
    · next shader d compiled => exact ⟨shader, d, compiled⟩
    · exact absurd closed ends.1
    · exact absurd reliable ends

/-- A stage that ends its main function early and begins another function, whose end is the one that
    was meant for the first. It is built for the only program of a software backend. -/
def twoFunctions : Construction Software where
  program :=
    { uniforms := [{ declared := .uniform "uScale" .vec2, visibility := .vertex }]
      layout := ⟨"", []⟩ }
  vertex :=
    { inputs := ⟨[.vertexInput "inPosition" .vec2]⟩
      outputs :=
        ⟨[{ name := "vWeight_0", type := .float, storage := .varyingOut, arrayCount := some 4 }]⟩
      code := "\x7d void rest() \x7b"
      phase := .declaring }
  session :=
    { backend := { lastId := 1, programs := (∅ : Std.TreeMap UInt32 ProgramObject).insert 1 {} }
      dialect := ⟨.v310es, .es, false⟩
      journal := .ofLogger .quiet }

/-- A stage may end its main function if it begins another one. -/
theorem compile_twoFunctions :
    Outline.Closed twoFunctions.vertex.code ∧
      ∃ shader d, (compile .debug ⟨1⟩).outcome twoFunctions = (.ok shader, d) := by
  have closed : Outline.Closed twoFunctions.vertex.code := by
    rw [Outline.closed_iff]
    decide
  have bracketless : twoFunctions.Bracketless (twoFunctions.program.visibleUniforms .vertex) :=
    bracketless_of_builder (by decide) (by decide) (by decide)
  have reliable : twoFunctions.session.Reliable := by
    intro alarm opened kept entry
    cases opened
    rfl
  have present : twoFunctions.session.backend.programs[(⟨1⟩ : ProgramId).val]? = some {} :=
    Std.TreeMap.getElem?_insert_self
  have editable : twoFunctions.vertex.phase ≠ .assembled := nofun
  have compiled := compile_closed .debug editable present bracketless (by decide +kernel)
  exact ⟨closed, (compiled.2.2 reliable).mpr closed⟩

end Construction

end RenderCore
