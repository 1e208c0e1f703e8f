import SyntaxBridge.Grammar.Rule
import SyntaxBridge.Proofs.Record.Accept
import SyntaxBridge.Record.Store

/-!
# Rules as records

The three kinds of rules are types of records, each declared by a schema
(`Rule.readDeclaration_schema`). The record of a rule holds its parts and its line, and it is made
of just these (`Rule.make_eq_ok`).
-/

namespace SyntaxBridge

open Record

/-- A line as a value. -/
def LineNumber.value : LineNumber → Value
  | number n => .integer n
  | flag set => .flag set

namespace Rule

/-! ## The types of rules -/

/-- The schema of constructors. -/
def constructorSchema : String :=
  "label:string type:string construction:[]string line:int@[no_compare, optional]"

/-- The schema of tokens. -/
def tokenSchema : String :=
  "type:string line:int@[no_compare, optional]"

/-- The schema of entrypoints. -/
def entrypointSchema : String :=
  "types:[]string line:int@[no_compare, optional]"

/-- The field that holds the line of a rule, which may be left out and is not compared. -/
def lineField : Field :=
  ⟨"line", .named "int", ["no_compare", "optional"]⟩

variable (home : Home)

/-- The type of constructors. -/
def constructorType : RecordType :=
  { name := "Constructor", serial := 0, home, schema := constructorSchema,
    fields := [⟨"label", .named "string", []⟩, ⟨"type", .named "string", []⟩,
      ⟨"construction", .list (.named "string"), []⟩, lineField] }

/-- The type of tokens. -/
def tokenType : RecordType :=
  { name := "Token", serial := 1, home, schema := tokenSchema,
    fields := [⟨"type", .named "string", []⟩, lineField] }

/-- The type of entrypoints. -/
def entrypointType : RecordType :=
  { name := "Entrypoint", serial := 2, home, schema := entrypointSchema,
    fields := [⟨"types", .list (.named "string"), []⟩, lineField] }

/-- The type of a rule. -/
def recordType : Rule → RecordType
  | constructor _ => constructorType home
  | token _ => tokenType home
  | entrypoint _ => entrypointType home

/-- The types of rules, the newest first. -/
def recordTypes : List RecordType :=
  [entrypointType home, tokenType home, constructorType home]

theorem recordType_mem_recordTypes (rule : Rule) : rule.recordType home ∈ recordTypes home := by
  cases rule <;> simp [recordType, recordTypes]

/-- The schema of each type declares its fields. -/
theorem readDeclaration_schema (rule : Rule) :
    readDeclaration [] (rule.recordType home).schema = .ok (rule.recordType home).fields := by
  have hall : ∀ type ∈ recordTypes (.place ""),
      readDeclaration [] type.schema = .ok type.fields := by
    decide +kernel
  -- The home of the types makes no difference to what they declare.
  have hrule := hall _ (rule.recordType_mem_recordTypes (.place ""))
  cases rule <;> exact hrule

/-! ## Records of rules -/

/-- What a rule holds in a field that is compared. -/
inductive Part where
  | single (name : String)
  | several (names : List String)
  deriving DecidableEq

/-- A part as the value of a field. -/
def Part.value : Part → Value
  | single name => .text name
  | several names => .tuple (names.map .text)

/-- A part as it is shown. -/
def Part.shown : Part → String
  | single name => Text.quoted name
  | several names => showNames names

/-- The parts of a rule, in the order of its fields. -/
def parts : Rule → List Part
  | constructor rule => [.single rule.label, .single rule.type, .several rule.construction]
  | token rule => [.single rule.type]
  | entrypoint rule => [.several rule.types]

/-- What the record of a rule is made of. -/
def arguments (rule : Rule) : List Value :=
  rule.parts.map Part.value ++ [rule.line.value]

/-- The record of a rule that was made after a number of other records. -/
def record (serial : Nat) (rule : Rule) : Value :=
  .record (rule.recordType home) serial rule.arguments

/-! ## Making records of rules -/

/-- The names that the check of a rule depends on. -/
def toolNames : List String :=
  ["tuple", "isinstance", "object", "str", "int"]

section Made

variable {types : List RecordType} (hfree : ∀ name ∈ toolNames, typeNamed? types name = none)
  (serial : Nat) (rule : Rule)

/-- The names that are put to use while a rule is made differ from each other and from those that
the check depends on. Each field can be kept, and comes down to texts or to numbers. -/
theorem names_recordTypes : ∀ type ∈ recordTypes (.place ""),
    (type.check [] 0).names.Nodup ∧ (∀ name ∈ toolNames, name ∉ (type.check [] 0).names) ∧
      ∀ field ∈ type.fields, field.type.innermost ∈ ["string", "int"] ∧
        field.name ≠ "__dict__" ∧ field.name ≠ "__weakref__" ∧
        Check.isPrivateName type.name field.name = false := by
  decide +kernel

/-- The types of rules take none of the names that their check depends on. -/
theorem typeNamed?_recordTypes :
    ∀ name ∈ toolNames, typeNamed? (recordTypes home) name = none := by
  simp [toolNames, typeNamed?, recordTypes, constructorType, tokenType, entrypointType]

include hfree

/-- Nothing gets in the way of the check of a rule. -/
theorem isOpen_check : ((rule.recordType home).check types serial).IsOpen := by
  have hfields : (rule.recordType home).fields = (rule.recordType (.place "")).fields := by
    cases rule <;> rfl
  have hname : (rule.recordType home).name = (rule.recordType (.place "")).name := by
    cases rule <;> rfl
  have hnames : ((rule.recordType home).check types serial).names =
      ((rule.recordType (.place "")).check [] 0).names := by
    cases rule <;> rfl
  obtain ⟨hnodup, htools, hkept⟩ :=
    names_recordTypes _ (rule.recordType_mem_recordTypes (.place ""))
  exact {
    tools := fun name hmem => by
      have htool : name ∈ toolNames := List.mem_append_left ["str", "int"] hmem
      exact ⟨hfree name htool, hnames ▸ htools name htool⟩
    words := fun field hfield word hword => by
      rw [hnames]
      obtain ⟨hbasic, -⟩ := hkept field (hfields ▸ hfield)
      simp only [List.mem_cons, List.not_mem_nil, or_false] at hbasic
      rcases hbasic with hbasic | hbasic
      · rw [hbasic, read?_string] at hword
        cases hword
        exact htools "str" (by simp [toolNames])
      · rw [hbasic, read?_int] at hword
        cases hword
        exact htools "int" (by simp [toolNames])
    nodup := hnames ▸ hnodup
    kept := fun field hfield => by
      obtain ⟨-, hkept⟩ := hkept field (hfields ▸ hfield)
      rw [← hname] at hkept
      exact hkept
    hasSlot_eq := by cases rule <;> rfl }

/-- A text is of the type of texts. -/
theorem hasType_text (content : String) : HasType types (.named "string") (.text content) :=
  .named read?_string (.ground (hfree "str" (by simp [toolNames])) rfl rfl)

/-- A list of names is of the type of lists of texts. -/
theorem hasType_names (names : List String) :
    HasType types (.list (.named "string")) (.tuple (names.map .text)) := by
  refine .list fun item hitem => ?_
  obtain ⟨name, -, rfl⟩ := List.mem_map.mp hitem
  exact hasType_text hfree name

/-- A line is of the type of numbers, even if it is given as a truth value. -/
theorem hasType_line (line : LineNumber) : HasType types (.named "int") line.value := by
  refine .named read?_int (.ground (hfree "int" (by simp [toolNames])) rfl ?_)
  cases line <;> rfl

/-- The parts and the line of a rule are of the types that are declared for them. -/
theorem hasType_arguments :
    List.Forall₂ (fun field => HasType types field.type) (rule.recordType home).fields
      rule.arguments := by
  have hline := hasType_line hfree rule.line
  cases rule with
  | constructor rule =>
    exact .cons (hasType_text hfree _) (.cons (hasType_text hfree _)
      (.cons (hasType_names hfree _) (.cons hline .nil)))
  | token rule => exact .cons (hasType_text hfree _) (.cons hline .nil)
  | entrypoint rule => exact .cons (hasType_names hfree _) (.cons hline .nil)

/-- The parts and the line of a rule are accepted, and make its record. -/
theorem make_eq_ok :
    (rule.recordType home).make types rule.arguments serial = .ok (rule.record home serial) :=
  RecordType.make_eq_ok (rule.isOpen_check home hfree serial) (rule.hasType_arguments home hfree)

end Made

end Rule

end SyntaxBridge
