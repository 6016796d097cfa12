import Std.Data.String.ToNat
import RenderCore.Glsl.Declarations

/-!
# Reading declarations back

A block of declarations can be read back from its text: a line for each variable, a few words on each
line, the first of which may say the storage class and the precision, and the name with the length of
an array at the end. So nothing that the text says of the variables is lost, whatever their number and
in every dialect. Names only have to be free of the characters that separate these parts.
-/

namespace RenderCore

/-! ## Parts of a text -/

namespace Text

/-- The parts of a text between the places of a separator. -/
def split (separator : Char) (text : String) : List String :=
  (text.toList.splitOn separator).map String.ofList

/-- Parts without the separator can be told apart in the text that they make up. -/
theorem split_intercalate {separator : Char} {parts : List String} (inhabited : parts ≠ [])
    (apart : ∀ part ∈ parts, separator ∉ part.toList) :
    split separator (separator.toString.intercalate parts) = parts := by
  have pieces : ∀ piece ∈ parts.map String.toList, separator ∉ piece := by
    intro piece listed
    obtain ⟨part, member, rfl⟩ := List.mem_map.mp listed
    exact apart part member
  rw [split, String.toList_intercalate, Char.toString_eq_singleton, String.toList_singleton,
    List.splitOn_intercalate separator pieces (by simpa using inhabited), List.map_map]
  simp [Function.comp_def]

/-- A text without the separator has one part. -/
theorem split_of_not_mem {separator : Char} {text : String} (absent : separator ∉ text.toList) :
    split separator text = [text] := by
  have parts : split separator (separator.toString.intercalate [text]) = [text] :=
    split_intercalate (List.cons_ne_nil text []) (by simpa)
  rwa [String.intercalate_singleton] at parts

/-- A separator between two parts without it. -/
theorem split_between {separator : Char} {before after : String}
    (left : separator ∉ before.toList) (right : separator ∉ after.toList) :
    split separator (before ++ separator.toString ++ after) = [before, after] := by
  have parts : split separator (separator.toString.intercalate [before, after]) = [before, after] :=
    split_intercalate (by simp) (by simp [left, right])
  rwa [String.intercalate_cons_cons, String.intercalate_singleton] at parts

/-- A separator at the end. -/
theorem split_ended {separator : Char} {before : String} (left : separator ∉ before.toList) :
    split separator (before ++ separator.toString) = [before, ""] := by
  have parts := split_between left (show separator ∉ "".toList by simp)
  rwa [String.append_empty] at parts

/-- A text made up of parts has no more characters than they and what separates them. -/
theorem not_mem_intercalate {c : Char} {separator : String} {parts : List String}
    (between : c ∉ separator.toList) (within : ∀ part ∈ parts, c ∉ part.toList) :
    c ∉ (separator.intercalate parts).toList := by
  induction parts with
  | nil => simp
  | cons part rest ih =>
    have first : c ∉ part.toList := within part List.mem_cons_self
    have later := ih fun other member => within other (List.mem_cons_of_mem part member)
    cases rest with
    | nil => simpa using first
    | cons other rest =>
      rw [String.intercalate_cons_cons, String.toList_append, String.toList_append]
      simp only [List.mem_append, not_or]
      exact ⟨⟨first, between⟩, later⟩

/-- A number is written with digits only. -/
theorem not_mem_toString {c : Char} (other : c.isDigit = false) (n : Nat) :
    c ∉ (toString n).toList := by
  intro member
  rw [Nat.toString_eq_repr, Nat.toList_repr] at member
  have shown := Nat.isDigit_of_mem_toDigits (by decide) (by decide) member
  rw [other] at shown
  contradiction

end Text

/-! ## What a declaration says -/

/-- What a declaration says of a variable. -/
structure Declaration where
  /-- The word for the storage class; there is none for a variable of the shader's own. -/
  keyword : String
  precision : Precision
  type : DataType
  name : String
  /-- Number of elements, if the variable is an array. -/
  count : Option Nat
  deriving DecidableEq, Repr

/-- What a variable is declared as. The precision is only said in dialects that have precisions. -/
def Variable.asDeclared (dialect : Dialect) (v : Variable) : Declaration where
  keyword := v.storage.keyword dialect.version
  precision := if dialect.usesPrecision then v.precision else .unspecified
  type := v.type
  name := v.name
  count := v.arrayCount.map (·.toNat)

/-- The words for storage classes in any version of the language. -/
def Storage.words : List String := ["attribute", "varying", "in", "out", "uniform"]

/-- The precision that a word stands for. -/
def Precision.ofWord? : String → Option Precision
  | "lowp" => some .low
  | "mediump" => some .medium
  | "highp" => some .high
  | _ => none

/-- The data type that a word stands for. -/
def DataType.ofWord? : String → Option DataType
  | "float" => some .float
  | "vec2" => some .vec2
  | "vec3" => some .vec3
  | "vec4" => some .vec4
  | "mat3" => some .mat3
  | "mat4" => some .mat4
  | "sampler2D" => some .sampler2D
  | _ => none

namespace Declaration

/-- A name and the length of an array. -/
def readName (text : String) : Option (String × Option Nat) :=
  match Text.split '[' text with
  | [name] => some (name, none)
  | [name, rest] =>
    match Text.split ']' rest with
    | [digits, ""] => digits.toNat?.map fun count => (name, some count)
    | _ => none
  | _ => none

/-- A data type and a name. -/
def readTyped (keyword : String) (precision : Precision) : List String → Option Declaration
  | [type, last] => do
    let type ← DataType.ofWord? type
    let (name, count) ← readName last
    return { keyword, precision, type, name, count }
  | _ => none

/-- A precision, if one is said, and what stands after it. -/
def readPrecise (keyword : String) : List String → Option Declaration
  | [] => none
  | word :: rest =>
    match Precision.ofWord? word with
    | some precision => readTyped keyword precision rest
    | none => readTyped keyword .unspecified (word :: rest)

/-- A storage class, if one is said, and what stands after it. -/
def readWords : List String → Option Declaration
  | [] => none
  | word :: rest =>
    if word ∈ Storage.words then readPrecise word rest else readPrecise "" (word :: rest)

/-- The declaration on one line. -/
def readLine (line : String) : Option Declaration :=
  match Text.split ';' line with
  | [words, ""] => readWords (Text.split ' ' words)
  | _ => none

/-- The declarations of a block. -/
def readBlock (text : String) : Option (List Declaration) :=
  let lines := Text.split '\n' text
  if lines.getLast? = some "" then lines.dropLast.mapM readLine else none

end Declaration

/-! ## How it is written -/

/-- The word for a precision, unless it is left unspecified. -/
def Precision.words : Precision → List String
  | .unspecified => []
  | .low => ["lowp"]
  | .medium => ["mediump"]
  | .high => ["highp"]

namespace Declaration

/-- The word for the storage class, if there is one. -/
def storageWords (keyword : String) : List String := if keyword = "" then [] else [keyword]

/-- The name of a variable with the length of its array. -/
def lastWord (name : String) (count : Option Nat) : String :=
  name ++ (count.map fun n => "[" ++ toString n ++ "]").getD ""

/-- The words of a declaration, in order. -/
def words (d : Declaration) : List String :=
  storageWords d.keyword ++ (d.precision.words ++ [d.type.word, lastWord d.name d.count])

/-- The characters that separate words and lines. -/
def breaks : List Char := [' ', '\n', ';']

/-- The characters that separate the parts of a declaration. -/
def separators : List Char := breaks ++ ['[', ']']

/-- No separator stands in the text. -/
def Unbroken (text : String) : Prop := ∀ c ∈ separators, c ∉ text.toList

/-- The storage class is said in a word for one, and the name is in one piece. -/
structure Legible (d : Declaration) : Prop where
  keyword : d.keyword = "" ∨ d.keyword ∈ Storage.words
  name : Unbroken d.name

theorem intercalate_storageWords (keyword : String) {rest : List String} (more : rest ≠ []) :
    " ".intercalate (storageWords keyword ++ rest) =
      (if keyword = "" then "" else keyword ++ " ") ++ " ".intercalate rest := by
  unfold storageWords
  split
  · rw [List.nil_append, String.empty_append]
  · rw [List.singleton_append, String.intercalate_cons_of_ne_nil more]

theorem intercalate_precision (precision : Precision) {rest : List String} (more : rest ≠ []) :
    " ".intercalate (precision.words ++ rest) =
      precision.qualifier ++ " ".intercalate rest := by
  cases precision with
  | unspecified => exact (String.empty_append).symm
  | low | medium | high => exact String.intercalate_cons_of_ne_nil more

end Declaration

/-- The words for storage classes are among those of all versions. -/
theorem Storage.keyword_mem (version : GlslVersion) (storage : Storage) :
    storage.keyword version = "" ∨ storage.keyword version ∈ words := by
  cases version <;> cases storage <;> decide

namespace Variable

variable {v : Variable}

/-- The name has no character that separates parts of a declaration. -/
def Plain (v : Variable) : Prop := Declaration.Unbroken v.name

/-- Letters, digits and underscores do not separate anything. -/
theorem plain_of_word (word : ∀ c ∈ v.name.toList, c.isAlphanum ∨ c = '_') : v.Plain := by
  have neither : ∀ c ∈ Declaration.separators, ¬ (c.isAlphanum ∨ c = '_') := by
    simp [Declaration.separators, Declaration.breaks]
  exact fun c separates member => neither c separates (word c member)

theorem Plain.legible (plain : v.Plain) (dialect : Dialect) : (v.asDeclared dialect).Legible where
  keyword := v.storage.keyword_mem dialect.version
  name := plain

/-- The declaration of a variable is made up of its words. -/
theorem declaration_eq (dialect : Dialect) (v : Variable) :
    v.declaration dialect = " ".intercalate (v.asDeclared dialect).words := by
  have precise : v.precisionWords dialect = (v.asDeclared dialect).precision.qualifier := by
    unfold precisionWords asDeclared
    split <;> rfl
  have last : Declaration.lastWord v.name (v.arrayCount.map (·.toNat)) =
      v.name ++ arraySuffix v.arrayCount := by
    cases v.arrayCount <;> rfl
  rw [Declaration.words, Declaration.intercalate_storageWords _ (by simp),
    Declaration.intercalate_precision _ (by simp), String.intercalate_cons_cons,
    String.intercalate_singleton, ← precise]
  simp only [declaration, asDeclared, last, String.append_assoc]
  rfl

end Variable

/-! ## Reading what was written -/

namespace Declaration

variable {d : Declaration}

theorem unbroken_digits (n : Nat) : Unbroken (toString n) := by
  have other : ∀ c ∈ separators, c.isDigit = false := by simp [separators, breaks]
  exact fun c separates => Text.not_mem_toString (other c separates) n

theorem readName_lastWord {name : String} (unbroken : Unbroken name) (count : Option Nat) :
    readName (lastWord name count) = some (name, count) := by
  have opening : '[' ∉ name.toList := unbroken '[' (by decide)
  cases count with
  | none =>
    have whole : lastWord name none = name := String.append_empty
    rw [whole, readName, Text.split_of_not_mem opening]
  | some n =>
    have digits := unbroken_digits n
    have parts : Text.split '[' (lastWord name (some n)) = [name, toString n ++ "]"] := by
      have inside : '[' ∉ (toString n ++ "]").toList := by
        simpa using digits '[' (by decide)
      rw [← Text.split_between opening inside]
      simp [lastWord, String.append_assoc]
    have closing : Text.split ']' (toString n ++ "]") = [toString n, ""] :=
      Text.split_ended (digits ']' (by decide))
    simp only [readName, parts, closing]
    rw [Nat.toString_eq_repr, Nat.toNat?_repr, Option.map_some]

theorem readTyped_words (unbroken : Unbroken d.name) :
    readTyped d.keyword d.precision [d.type.word, lastWord d.name d.count] = some d := by
  have type : DataType.ofWord? d.type.word = some d.type := by cases d.type <;> rfl
  simp [readTyped, type, readName_lastWord unbroken]

/-- No data type is taken for a precision. -/
theorem readPrecise_words (keyword : String) (precision : Precision) (type : DataType)
    (last : String) :
    readPrecise keyword (precision.words ++ [type.word, last]) =
      readTyped keyword precision [type.word, last] := by
  cases precision with
  | unspecified => cases type <;> rfl
  | low | medium | high => rfl

/-- No precision and no data type is taken for a storage class. -/
theorem readWords_words (legible : d.Legible) : readWords d.words = some d := by
  have onward : readPrecise d.keyword (d.precision.words ++ [d.type.word, lastWord d.name d.count])
      = some d := by
    rw [readPrecise_words, readTyped_words legible.name]
  unfold words storageWords
  split
  case isTrue silent =>
    rw [silent] at onward
    rw [List.nil_append, ← onward]
    cases d.precision <;> cases d.type <;> rfl
  case isFalse said =>
    rw [List.singleton_append, readWords, if_pos (legible.keyword.resolve_left said), onward]

/-- The words that the language has for what a declaration says. -/
theorem not_mem_word {word : String}
    (known : word ∈ Storage.words ∨ (∃ precision : Precision, word ∈ precision.words) ∨
      ∃ type : DataType, word = type.word) :
    ∀ c ∈ breaks, c ∉ word.toList := by
  rcases known with storage | ⟨precision, member⟩ | ⟨type, rfl⟩
  · revert word
    simp [Storage.words, breaks]
  · cases precision <;> revert word <;> simp [Precision.words, breaks]
  · cases type <;> simp [DataType.word, breaks]

theorem not_mem_lastWord {name : String} (unbroken : Unbroken name) (count : Option Nat) :
    ∀ c ∈ breaks, c ∉ (lastWord name count).toList := by
  intro c listed
  have separates : c ∈ separators := List.mem_append_left _ listed
  have brackets : c ≠ '[' ∧ c ≠ ']' := by
    revert c
    simp [breaks]
  cases count with
  | none => simpa [lastWord] using unbroken c separates
  | some n =>
    have digits := unbroken_digits n c separates
    rw [Nat.toString_eq_repr, Nat.toList_repr] at digits
    simpa [lastWord, brackets] using ⟨unbroken c separates, digits⟩

/-- Words are read one by one: no blank and no end of a line stands in any of them. -/
theorem Legible.not_mem_word (legible : d.Legible) {word : String} (member : word ∈ d.words) :
    ∀ c ∈ breaks, c ∉ word.toList := by
  rcases List.mem_append.mp member with storage | member
  · have said : word = d.keyword ∧ d.keyword ≠ "" := by
      unfold storageWords at storage
      split at storage <;> simp_all
    obtain ⟨rfl, said⟩ := said
    exact Declaration.not_mem_word (.inl (legible.keyword.resolve_left said))
  rcases List.mem_append.mp member with precision | member
  · exact Declaration.not_mem_word (.inr (.inl ⟨_, precision⟩))
  obtain rfl | rfl : word = d.type.word ∨ word = lastWord d.name d.count := by simpa using member
  · exact Declaration.not_mem_word (.inr (.inr ⟨_, rfl⟩))
  · exact not_mem_lastWord legible.name d.count

/-- A character that separates lines is not in the text of a declaration. -/
theorem Legible.not_mem_text (legible : d.Legible) {c : Char} (separates : c ∈ ['\n', ';']) :
    c ∉ (" ".intercalate d.words).toList := by
  have listed : c ∈ breaks := List.mem_cons_of_mem ' ' separates
  have visible : c ∉ " ".toList := by
    revert c
    simp
  exact Text.not_mem_intercalate visible fun word member => legible.not_mem_word member c listed

/-- The line of a declaration. -/
def line (d : Declaration) : String := " ".intercalate d.words ++ ";"

theorem readLine_line (legible : d.Legible) : readLine d.line = some d := by
  have parts : Text.split ';' d.line = [" ".intercalate d.words, ""] :=
    Text.split_ended (legible.not_mem_text (by decide))
  have apart : Text.split ' ' (" ".intercalate d.words) = d.words :=
    Text.split_intercalate (by simp [words]) fun word member =>
      legible.not_mem_word member ' ' (by decide)
  simp only [readLine, parts, apart, readWords_words legible]

theorem readLines {declared : List Declaration} (legible : ∀ d ∈ declared, d.Legible) :
    (declared.map line).mapM readLine = some declared := by
  induction declared with
  | nil => rfl
  | cons d rest ih =>
    have later := ih fun other member => legible other (List.mem_cons_of_mem d member)
    rw [List.map_cons, List.mapM_cons, readLine_line (legible d List.mem_cons_self), later]
    rfl

/-- The text of a block, line by line. -/
theorem readBlock_lines {declared : List Declaration} (legible : ∀ d ∈ declared, d.Legible) :
    readBlock (String.join (declared.map fun d => d.line ++ "\n")) = some declared := by
  have lines : String.join (declared.map fun d => d.line ++ "\n") =
      "\n".intercalate (declared.map line ++ [""]) := by
    induction declared with
    | nil => rfl
    | cons d rest ih =>
      have later := ih fun other member => legible other (List.mem_cons_of_mem d member)
      rw [List.map_cons, String.join_cons, later, List.map_cons, List.cons_append,
        String.intercalate_cons_of_ne_nil (by simp)]
  have single : ∀ part ∈ declared.map line ++ [""], '\n' ∉ part.toList := by
    intro part member
    rcases List.mem_append.mp member with member | member
    · obtain ⟨d, listed, rfl⟩ := List.mem_map.mp member
      simpa [line] using (legible d listed).not_mem_text (c := '\n') (by decide)
    · obtain rfl := List.mem_singleton.mp member
      simp
  have parts : Text.split '\n' ("\n".intercalate (declared.map line ++ [""])) =
      declared.map line ++ [""] :=
    Text.split_intercalate (by simp) single
  simp only [readBlock, lines, parts]
  rw [List.getLast?_concat, if_pos rfl, List.dropLast_concat, readLines legible]

end Declaration

/-! ## Blocks -/

/-- Writes the declaration of a variable at the end of a text, word by word. -/
def Variable.appendTo (dialect : Dialect) (v : Variable) (out : String) : String :=
  let keyword := v.storage.keyword dialect.version
  let out := if keyword = "" then out else out ++ keyword ++ " "
  let out := if dialect.usesPrecision then out ++ v.precision.qualifier else out
  let out := out ++ v.type.word ++ " " ++ v.name
  match v.arrayCount with
  | some count => out ++ "[" ++ toString count.toNat ++ "]"
  | none => out

theorem Variable.appendTo_eq (dialect : Dialect) (v : Variable) (out : String) :
    v.appendTo dialect out = out ++ v.declaration dialect := by
  have storage : (if v.storage.keyword dialect.version = "" then out
      else out ++ v.storage.keyword dialect.version ++ " ") = out ++ v.storageWords dialect := by
    unfold storageWords
    dsimp only
    split
    · rw [String.append_empty]
    · rw [String.append_assoc]
  have precision (before : String) : (if dialect.usesPrecision then
      before ++ v.precision.qualifier else before) = before ++ v.precisionWords dialect := by
    unfold precisionWords
    split
    · rfl
    · rw [String.append_empty]
  unfold appendTo declaration arraySuffix
  simp only [storage, precision]
  cases v.arrayCount with
  | none => simp only [String.append_assoc, String.append_empty]
  | some count => simp only [String.append_assoc]

namespace Declarations

variable {block : Declarations}

/-- Writes a block at the end of a text, a line for each variable. -/
def appendTo (dialect : Dialect) (block : Declarations) (out : String) : String :=
  block.members.foldl (fun out v => v.appendTo dialect out ++ ";\n") out

/-- Writing a block leaves what stands before it. -/
theorem appendTo_eq (dialect : Dialect) (block : Declarations) (out : String) :
    block.appendTo dialect out = out ++ block.text dialect := by
  obtain ⟨members⟩ := block
  simp only [appendTo, text]
  induction members generalizing out with
  | nil => simp
  | cons v rest ih =>
    rw [List.foldl_cons, ih, Variable.appendTo_eq, List.map_cons, String.join_cons]
    simp only [String.append_assoc]

/-- A block says what its variables are declared as, in their order. -/
theorem readBlock_text (dialect : Dialect) (plain : ∀ v ∈ block.members, v.Plain) :
    Declaration.readBlock (block.text dialect) = some (block.members.map (·.asDeclared dialect)) := by
  have legible : ∀ d ∈ block.members.map (·.asDeclared dialect), d.Legible := by
    intro d listed
    obtain ⟨v, member, rfl⟩ := List.mem_map.mp listed
    exact (plain v member).legible dialect
  have lines : block.text dialect =
      String.join ((block.members.map (·.asDeclared dialect)).map fun d => d.line ++ "\n") := by
    rw [text, List.map_map]
    refine congrArg String.join (List.map_congr_left fun v _ => ?_)
    rw [Function.comp_apply, Declaration.line, ← v.declaration_eq, String.append_assoc]
    rfl
  rw [lines, Declaration.readBlock_lines legible]

end Declarations

/-- Variables with the same declaration agree in all that a declaration says. -/
theorem Variable.agree_of_asDeclared {dialect : Dialect} {v w : Variable}
    (same : v.asDeclared dialect = w.asDeclared dialect) :
    v.storage.keyword dialect.version = w.storage.keyword dialect.version ∧
      v.type.word = w.type.word ∧ v.name = w.name ∧ v.arrayCount = w.arrayCount ∧
      (dialect.standard = .es → v.precision = w.precision) := by
  simp only [asDeclared, Declaration.mk.injEq] at same
  obtain ⟨keyword, precision, type, name, count⟩ := same
  refine ⟨keyword, congrArg DataType.word type, name, ?_, fun es => ?_⟩
  · exact Option.map_injective (fun _ _ => UInt32.toNat_inj.mp) count
  · have precise : dialect.usesPrecision := by simp [Dialect.usesPrecision, es]
    simpa [precise] using precision

namespace Declarations

/-- A block can be read back from its text, whatever it is written after. Blocks with the same text
    declare as many variables, and each place the same but for the precision, which only shows in
    dialects that have precisions. -/
theorem text_determines {block : Declarations} (dialect : Dialect)
    (plain : ∀ v ∈ block.members, v.Plain) :
    (∀ out, block.appendTo dialect out = out ++ block.text dialect) ∧
      Declaration.readBlock (block.text dialect) =
        some (block.members.map (·.asDeclared dialect)) ∧
      ∀ (other : Declarations) (out : String), (∀ v ∈ other.members, v.Plain) →
        other.appendTo dialect out = block.appendTo dialect out →
        other.size = block.size ∧
          ∀ index v w, block.get? index = some v → other.get? index = some w →
            v.storage.keyword dialect.version = w.storage.keyword dialect.version ∧
            v.type.word = w.type.word ∧ v.name = w.name ∧ v.arrayCount = w.arrayCount ∧
            (dialect.standard = .es → v.precision = w.precision) := by
  refine ⟨appendTo_eq dialect block, readBlock_text dialect plain, fun other out plain' same => ?_⟩
  rw [appendTo_eq, appendTo_eq, String.append_right_inj] at same
  have read := readBlock_text dialect plain'
  rw [same, readBlock_text dialect plain] at read
  have declared := Option.some.inj read
  refine ⟨by simpa [size] using congrArg List.length declared.symm, fun index v w found found' => ?_⟩
  have place := congrArg (·[index]?) declared
  simp only [get?] at found found'
  have here : v.asDeclared dialect = w.asDeclared dialect := by
    simpa [found, found'] using place
  exact Variable.agree_of_asDeclared here

/-- Two blocks with the same text on a desktop: an input, and an array whose precision differs. -/
theorem text_determines_arrays :
    let dialect : Dialect := ⟨.v110, .desktop, false⟩
    let position := Variable.vertexInput "inPosition" .vec2
    let weights : Precision → Variable := fun precision =>
      { Variable.uniform "weights_0" .float with precision, arrayCount := some 4 }
    let block : Declarations := ⟨[position, weights .high]⟩
    let other : Declarations := ⟨[position, weights .low]⟩
    (∀ v ∈ block.members, v.Plain) ∧ (∀ v ∈ other.members, v.Plain) ∧
      other.appendTo dialect "\n" = block.appendTo dialect "\n" ∧
      Declaration.readBlock (block.text dialect) =
        some (block.members.map (·.asDeclared dialect)) ∧
      other.size = block.size ∧
      ∀ index v w, block.get? index = some v → other.get? index = some w →
        v.storage.keyword dialect.version = w.storage.keyword dialect.version ∧
        v.type.word = w.type.word ∧ v.name = w.name ∧ v.arrayCount = w.arrayCount := by
  intro dialect position weights block other
  have named (precision : Precision) : ∀ v ∈ [position, weights precision], v.Plain := by
    intro v member
    obtain rfl | rfl : v = position ∨ v = weights precision := by simpa using member
    · exact Variable.plain_of_word (show ∀ c ∈ "inPosition".toList, _ by simp)
    · exact Variable.plain_of_word (show ∀ c ∈ "weights_0".toList, _ by simp)
  have same : other.appendTo dialect "\n" = block.appendTo dialect "\n" := rfl
  have plain : ∀ v ∈ block.members, v.Plain := named .high
  obtain ⟨-, read, determined⟩ := text_determines dialect plain
  obtain ⟨size, agree⟩ := determined other "\n" (named .low) same
  refine ⟨plain, named .low, same, read, size, fun index v w found found' => ?_⟩
  obtain ⟨keyword, type, name, count, -⟩ := agree index v w found found'
  exact ⟨keyword, type, name, count⟩

end Declarations

end RenderCore
