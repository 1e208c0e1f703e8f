import SyntaxBridge.Proofs.Grammar.Relocation.Analysis
import SyntaxBridge.Swift.Sources

/-!
# Generating from rules on other lines

The lines that rules stand on leave no trace in the generated files (`generateSources_relocate`).
-/

namespace SyntaxBridge.Swift

variable (f : LineNumber → LineNumber) (grammar : Grammar)

/-- A group on other lines has the same declaration in the abstract syntax. -/
theorem ofGroup_relocate (group : Group) :
    AbstractDeclaration.ofGroup (group.relocate f) = AbstractDeclaration.ofGroup group := by
  obtain ⟨name, members, boxed, extraCases⟩ := group
  cases members with
  | token rule => rfl
  | alternatives rules =>
    simp [AbstractDeclaration.ofGroup, Group.relocate, Members.relocate, EnumCase.ofConstructor,
      Constructor.relocate]

/-- The abstract syntax is the same on all lines. -/
theorem abstractSyntax_relocate : abstractSyntax (grammar.relocate f) = abstractSyntax grammar := by
  simp [abstractSyntax, Grammar.relocate, List.filter_map, Function.comp_def, ofGroup_relocate,
    List.flatMap_map]

/-- The bridge is the same on all lines. -/
theorem bridge_relocate : bridge (grammar.relocate f) = bridge grammar := by
  simp [bridge, Grammar.relocate, List.filter_map, Function.comp_def, CaseValue.ofConstructor,
    Constructor.relocate]

/-- The generated files are the same on all lines. -/
theorem generateSources_relocate (module grammarName : String) :
    generateSources (grammar.relocate f) module grammarName =
      generateSources grammar module grammarName := by
  rw [generateSources, bridgeSource?, bridgeSource, bridge_relocate, abstractSyntaxSource,
    abstractSyntax_relocate]
  rfl

end SyntaxBridge.Swift
