import SyntaxBridge.Proofs.Swift.Bridge
import SyntaxBridge.Proofs.Text.Start

/-!
# The functions that a bridge defines

A declaration is the head of the function that it gives, and lines that start none
(`BridgeDeclaration.exists_lines_eq_append`). So the lines of a bridge that start like a function are
heads (`filter_startsWith_lines`).

`BridgeDeclaration.definition?` is the function that a declaration defines to visit a value, and
`definitions` are those of a bridge. Their heads are the lines of the bridge that start like a
definition (`filter_definitionStart_bridge`), so a function is defined once if it stands once among
the definitions.
-/

namespace SyntaxBridge.Swift

open BridgeDeclaration Text

/-- A function that visits a value. -/
structure Definition where
  /-- The type after which the function is named. -/
  visited : String
  /-- The argument, with its type. -/
  argument : String
  /-- The type of the result. -/
  result : String
  deriving DecidableEq, Repr

/-- The line that a function starts with. -/
def Definition.head (definition : Definition) : String :=
  visitHead definition.visited definition.argument definition.result

/-- The function that visits the values of a declared category. -/
def valueDefinition (module name : String) : Definition :=
  ⟨name, "_ pValue: " ++ nativeType module name, name⟩

/-- The function that visits the lists of a category. -/
def listDefinition (module category : String) : Definition :=
  let list := Category.listName (Category.listOf category)
  ⟨list, "_ pValue: " ++ nativeType module list ++ "?", "[" ++ typeName category ++ "]"⟩

/-- The function that visits the values of a predefined category. -/
def scalarDefinition (module : String) (conversion : ScalarConversion) : Definition :=
  ⟨conversion.category,
    "_ p" ++ conversion.category ++ ": " ++ module ++ "." ++ conversion.category, conversion.type⟩

/-- The function that a declaration defines to visit a value, if it does. -/
def BridgeDeclaration.definition? (module : String) : BridgeDeclaration → Option Definition
  | visit name _ | visitToken name => some (valueDefinition module name)
  | visitList category => some (listDefinition module category)
  | visitScalar conversion => some (scalarDefinition module conversion)
  | _ => none

/-- The functions that the bridge of a grammar defines to visit values, in order. -/
def definitions (grammar : Grammar) (module : String) : List Definition :=
  (bridge grammar).flatMap fun d => (d.definition? module).toList

/-- What the definition of the function that visits a type starts with. -/
def definitionStart (visited : String) : String :=
  "private func visit" ++ visited ++ "("

theorem definitionStart_eq_append (visited : String) :
    definitionStart visited = "private func visit" ++ (visited ++ "(") := by
  unfold definitionStart
  exact String.append_assoc

/-! ## One declaration -/

/-- The line that starts the function that parses a file as a category. -/
def parseFileHead (category : String) : String :=
  "public func parseFile(at path: Swift.String) -> " ++ typeName category ++ "? \x7b"

/-- The line that starts the function that a declaration gives, if it gives one. -/
def BridgeDeclaration.head? (module : String) : BridgeDeclaration → Option String
  | parseFile category => some (parseFileHead category)
  | d => (d.definition? module).map Definition.head

/-- What the lines of a bridge start with that start no function. -/
def innerStarts : List String :=
  ["import ", "//MARK:- ", "if ", "defer ", "let ", "guard ", "switch ", "case ", "default:",
    "return ", "print(", "exit(", "\x7d"]

/-- Whether a line starts like those that start no function. -/
def isInner (line : String) : Bool :=
  innerStarts.any (startsWith · line)

/-- A line is told by its front. -/
theorem isInner_append {front : String} (h : isInner front = true) (back : String) :
    isInner (front ++ back) = true := by
  obtain ⟨start, hmem, hstarts⟩ := List.any_eq_true.mp h
  exact List.any_eq_true.mpr ⟨start, hmem, startsWith_append back hstarts⟩

/-- No line of a case starts a function. -/
theorem isInner_of_mem_caseLines {cases : List CaseValue} {line : String}
    (h : line ∈ (cases.mapIdx caseLines).flatten) : isInner line = true := by
  obtain ⟨lines, hlines, hline⟩ := List.mem_flatten.mp h
  obtain ⟨number, _, rfl⟩ := List.mem_mapIdx.mp hlines
  rw [caseLines, List.mem_cons, List.mem_singleton] at hline
  rcases hline with rfl | rfl
  · rw [String.append_assoc]
    exact isInner_append (by decide) _
  · exact isInner_append (by decide) _

/-- A declaration is the head of the function that it gives, and lines that start none. -/
theorem BridgeDeclaration.exists_lines_eq_append (module : String) (d : BridgeDeclaration) :
    ∃ body, d.lines module = (d.head? module).toList ++ body ∧
      ∀ line ∈ body, isInner line = true := by
  -- Lines that are not the same for all grammars are known by their fronts.
  have hreturn (back : String) : isInner ("return " ++ back) = true :=
    isInner_append (by decide) back
  cases d with
  | imports =>
    have himport : isInner ("import " ++ module) = true := isInner_append (by decide) module
    refine ⟨_, rfl, ?_⟩
    simp only [List.forall_mem_cons, himport]
    decide
  | heading title =>
    refine ⟨_, rfl, List.forall_mem_singleton.mpr ?_⟩
    exact isInner_append (by decide) title
  | parseFile category =>
    have hparse (back : String) : isInner ("if let cTree = " ++ back) = true :=
      isInner_append (by decide) back
    have hvisit (back : String) : isInner ("return visit" ++ back) = true :=
      isInner_append (by decide) back
    refine ⟨_, rfl, ?_⟩
    simp only [String.append_assoc, List.forall_mem_cons, hparse, hvisit]
    decide
  | visit name cases =>
    have herror : isInner ("print(\"Error: bad `kind` field when bridging `" ++ name ++
        "` to Swift!\")") = true := by
      rw [String.append_assoc]
      exact isInner_append (by decide) _
    refine ⟨["let value = pValue.pointee", "switch value.kind \x7b"] ++
      (cases.mapIdx caseLines).flatten ++ ["default:",
        "print(\"Error: bad `kind` field when bridging `" ++ name ++ "` to Swift!\")", "exit(1)",
        "\x7d", "\x7d"], rfl, ?_⟩
    simp only [List.forall_mem_append]
    refine ⟨⟨by decide, fun line => isInner_of_mem_caseLines⟩, ?_⟩
    simp only [List.forall_mem_cons, herror]
    decide
  | visitList category =>
    have hvalue (back : String) : isInner ("if value." ++ back) = true :=
      isInner_append (by decide) back
    have hvisit (back : String) : isInner ("return [visit" ++ back) = true :=
      isInner_append (by decide) back
    refine ⟨_, rfl, ?_⟩
    simp only [String.append_assoc, List.forall_mem_cons, hvalue, hvisit]
    decide
  | visitToken name =>
    refine ⟨_, rfl, ?_⟩
    simp only [String.append_assoc, List.forall_mem_cons, hreturn]
    decide
  | visitScalar conversion =>
    refine ⟨_, rfl, ?_⟩
    simp only [List.forall_mem_cons, hreturn]
    decide

/-- The lines of a declaration that start like a function are its head, if that does. -/
theorem filter_startsWith_lines {start : String} (h : ∀ inner ∈ innerStarts,
    startsWith start inner = false ∧ startsWith inner start = false) (module : String)
    (d : BridgeDeclaration) :
    (d.lines module).filter (startsWith start) =
      (d.head? module).toList.filter (startsWith start) := by
  obtain ⟨body, hlines, hbody⟩ := d.exists_lines_eq_append module
  have hnone : body.filter (startsWith start) = [] := by
    refine List.filter_eq_nil_iff.mpr fun line hline => ?_
    obtain ⟨inner, hinner, hstarts⟩ := List.any_eq_true.mp (hbody line hline)
    obtain ⟨back, rfl⟩ := startsWith_iff_exists_append.mp hstarts
    obtain ⟨hfront, hback⟩ := h inner hinner
    exact ne_true_of_eq_false (startsWith_append_eq_false back hfront hback)
  rw [hlines, List.filter_append, hnone, List.append_nil]

/-- Whether a line starts like a definition. -/
def startsDefinition (line : String) : Bool :=
  startsWith "private func visit" line

theorem startsDefinition_head (definition : Definition) :
    startsDefinition definition.head = true := by
  rw [startsDefinition, Definition.head, visitHead_eq_append]
  exact startsWith_append_self _ _

/-- The lines of a declaration that start like a definition are the head of what it defines. -/
theorem filter_startsDefinition_lines (module : String) (d : BridgeDeclaration) :
    (d.lines module).filter startsDefinition =
      ((d.definition? module).toList).map Definition.head := by
  have hlines : (d.lines module).filter startsDefinition =
      (d.head? module).toList.filter startsDefinition :=
    filter_startsWith_lines (by decide) module d
  have hhead (definition : Definition) :
      [definition.head].filter startsDefinition = [definition.head] :=
    List.filter_cons_of_pos (startsDefinition_head definition)
  rw [hlines]
  cases d with
  | imports => rfl
  | heading => rfl
  | parseFile category =>
    have hparse : startsDefinition (parseFileHead category) = false := by
      unfold parseFileHead
      rw [String.append_assoc]
      exact startsWith_append_eq_false _ (by decide) (by decide)
    exact List.filter_cons_of_neg (ne_true_of_eq_false hparse)
  | visit name cases => exact hhead (valueDefinition module name)
  | visitList category => exact hhead (listDefinition module category)
  | visitToken name => exact hhead (valueDefinition module name)
  | visitScalar conversion => exact hhead (scalarDefinition module conversion)

/-! ## All declarations -/

/-- A bridge defines a function for each declared category, for each list category and for each
predefined one. -/
theorem definitions_eq (grammar : Grammar) (module : String) :
    definitions grammar module =
      (grammar.groups.filter (!·.isToken)).map (valueDefinition module ·.name) ++
        grammar.listTypes.map (listDefinition module) ++
        (grammar.groups.filter (·.isToken)).map (valueDefinition module ·.name) ++
        scalarConversions.map (scalarDefinition module) := by
  have hnone : grammar.entrypoints.flatMap
      ((fun d => (d.definition? module).toList) ∘ parseFile) = [] :=
    List.flatMap_eq_nil_iff.mpr fun _ _ => rfl
  rw [definitions, flatMap_bridge rfl fun _ => rfl, hnone, List.nil_append]
  simp only [List.map_eq_flatMap]
  rfl

variable {grammar : Grammar} {module visited : String}

/-- The heads of the definitions of a bridge are the lines that start like one. -/
theorem filter_startsDefinition_bridge (grammar : Grammar) (module : String) :
    ((bridge grammar).flatMap (lines module)).filter startsDefinition =
      (definitions grammar module).map Definition.head := by
  rw [List.filter_flatMap, definitions, List.map_flatMap]
  exact congrArg (List.flatMap · _) (funext fun d => filter_startsDefinition_lines module d)

/-- The lines of a bridge that start the definition of a function are the heads of the definitions
of that function. -/
theorem filter_definitionStart_bridge (hvisited : '(' ∉ visited.toList)
    (hnames : ∀ definition ∈ definitions grammar module, '(' ∉ definition.visited.toList) :
    ((bridge grammar).flatMap (lines module)).filter (startsWith (definitionStart visited)) =
      ((definitions grammar module).filter (·.visited == visited)).map Definition.head := by
  -- The lines that start the definition of one function are among those that start any.
  have hstart (line : String) : startsWith (definitionStart visited) line =
      (startsWith (definitionStart visited) line && startsDefinition line) := by
    rw [Bool.eq_self_and]
    intro h
    rw [definitionStart_eq_append] at h
    exact startsWith_of_startsWith_append h
  -- The bracket ends the name in the head, so that names are compared whole.
  have hhead : ∀ definition ∈ definitions grammar module,
      startsWith (definitionStart visited) definition.head = (definition.visited == visited) := by
    intro definition hmem
    rw [definitionStart_eq_append, Definition.head, visitHead_eq_append,
      startsWith_append_append, ← String.append_assoc,
      startsWith_name_append rfl hvisited (hnames definition hmem), Bool.beq_comm]
  calc ((bridge grammar).flatMap (lines module)).filter (startsWith (definitionStart visited))
      = (((bridge grammar).flatMap (lines module)).filter startsDefinition).filter
          (startsWith (definitionStart visited)) := by
        rw [List.filter_filter]
        exact List.filter_congr fun line _ => hstart line
    _ = ((definitions grammar module).filter
          (startsWith (definitionStart visited) ∘ Definition.head)).map Definition.head := by
        rw [filter_startsDefinition_bridge, List.filter_map]
    _ = ((definitions grammar module).filter (·.visited == visited)).map Definition.head :=
        congrArg (List.map Definition.head) (List.filter_congr hhead)

end SyntaxBridge.Swift
