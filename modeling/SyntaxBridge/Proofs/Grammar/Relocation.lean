import Mathlib.Logic.Basic
import SyntaxBridge.Grammar.Analysis
import SyntaxBridge.Proofs.Outcome

/-!
# Rules that stand on other lines

For a function `f` on lines, `relocate f` moves rules, errors, groups and grammars to other lines.
What a rule declares and refers to stays the same.
-/

namespace SyntaxBridge

open Outcome

variable (f : LineNumber → LineNumber)

/-- A constructor on another line. -/
def Constructor.relocate (rule : Constructor) : Constructor :=
  { rule with line := f rule.line }

/-- A token on another line. -/
def Token.relocate (rule : Token) : Token :=
  { rule with line := f rule.line }

/-- An entrypoint declaration on another line. -/
def Entrypoint.relocate (rule : Entrypoint) : Entrypoint :=
  { rule with line := f rule.line }

/-- A rule on another line. -/
def Rule.relocate : Rule → Rule
  | constructor rule => constructor (rule.relocate f)
  | token rule => token (rule.relocate f)
  | entrypoint rule => entrypoint (rule.relocate f)

/-- An error on another line. -/
def GrammarError.relocate (e : GrammarError) : GrammarError :=
  { e with line := f e.line }

/-- Members on other lines. -/
def Members.relocate : Members → Members
  | token rule => token (rule.relocate f)
  | alternatives rules => alternatives (rules.map (Constructor.relocate f))

/-- A group on other lines. -/
def Group.relocate (group : Group) : Group :=
  { group with members := group.members.relocate f }

/-- A grammar on other lines. -/
def Grammar.relocate (grammar : Grammar) : Grammar :=
  { grammar with
    rules := grammar.rules.map (Rule.relocate f)
    groups := grammar.groups.map (Group.relocate f) }

/-- The outcome of reading rules, on other lines. -/
def relocateRules (rules : Except GrammarError (List Rule)) : Except GrammarError (List Rule) :=
  mapBoth (GrammarError.relocate f) (List.map (Rule.relocate f)) rules

/-- Moving a rule does not change what it says. -/
@[simp]
theorem Rule.withoutLine_relocate (rule : Rule) :
    (rule.relocate f).withoutLine = rule.withoutLine := by
  cases rule <;> rfl

/-! ## Parts of a rule -/

@[simp]
theorem Rule.type?_relocate (rule : Rule) : (rule.relocate f).type? = rule.type? := by
  cases rule <;> rfl

@[simp]
theorem Rule.references_relocate (rule : Rule) :
    (rule.relocate f).references = rule.references := by
  cases rule <;> rfl

@[simp]
theorem Rule.token?_relocate (rule : Rule) :
    (rule.relocate f).token? = rule.token?.map (Token.relocate f) := by
  cases rule <;> rfl

@[simp]
theorem Rule.constructor?_relocate (rule : Rule) :
    (rule.relocate f).constructor? = rule.constructor?.map (Constructor.relocate f) := by
  cases rule <;> rfl

@[simp]
theorem Rule.entrypoint?_relocate (rule : Rule) :
    (rule.relocate f).entrypoint? = rule.entrypoint?.map (Entrypoint.relocate f) := by
  cases rule <;> rfl

variable (rules : List Rule)

@[simp]
theorem references_relocate : references (rules.map (Rule.relocate f)) = references rules := by
  simp [references, List.flatMap_map]

@[simp]
theorem listTypes_relocate : listTypes (rules.map (Rule.relocate f)) = listTypes rules := by
  simp [listTypes]

@[simp]
theorem declaredTypes_relocate :
    declaredTypes (rules.map (Rule.relocate f)) = declaredTypes rules := by
  simp [declaredTypes, List.filterMap_map]

@[simp]
theorem rulesOf_relocate (type : String) :
    rulesOf type (rules.map (Rule.relocate f)) = (rulesOf type rules).map (Rule.relocate f) := by
  simp [rulesOf, List.filter_map, Function.comp_def]

/-- What is read off rules is relocated with them. -/
theorem filterMap_relocate {α : Type} {part? : Rule → Option α} {move : α → α}
    (h : ∀ rule, part? (rule.relocate f) = (part? rule).map move) :
    (rules.map (Rule.relocate f)).filterMap part? = (rules.filterMap part?).map move := by
  rw [List.filterMap_map, List.map_filterMap]
  exact List.filterMap_congr fun rule _ => h rule

theorem filterMap_token?_relocate :
    (rules.map (Rule.relocate f)).filterMap Rule.token? =
      (rules.filterMap Rule.token?).map (Token.relocate f) :=
  filterMap_relocate f rules (Rule.token?_relocate f)

theorem filterMap_constructor?_relocate :
    (rules.map (Rule.relocate f)).filterMap Rule.constructor? =
      (rules.filterMap Rule.constructor?).map (Constructor.relocate f) :=
  filterMap_relocate f rules (Rule.constructor?_relocate f)

theorem filterMap_entrypoint?_relocate :
    (rules.map (Rule.relocate f)).filterMap Rule.entrypoint? =
      (rules.filterMap Rule.entrypoint?).map (Entrypoint.relocate f) :=
  filterMap_relocate f rules (Rule.entrypoint?_relocate f)

end SyntaxBridge
