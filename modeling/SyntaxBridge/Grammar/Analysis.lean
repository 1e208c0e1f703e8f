import SyntaxBridge.Grammar.Entrypoints
import SyntaxBridge.Grammar.Graph
import SyntaxBridge.Grammar.Reference

/-!
# Analysis of a grammar

The analysis turns the rules of a grammar into what is generated from it: a group for each category,
in order, with the decision whether its values are boxed, the categories whose lists are used, and
the entrypoints. Cases that no rule declares may be added to a category by hand.
-/

namespace SyntaxBridge

/-- Which categories are boxed. -/
inductive BoxPolicy where
  /-- All that have alternatives. -/
  | all
  /-- Those that are recursive. -/
  | cycles
  deriving DecidableEq, Repr

namespace BoxPolicy

/-- The name of a policy. -/
def name : BoxPolicy → String
  | all => "all"
  | cycles => "cycles"

/-- The policy of a name. -/
def ofName? (text : String) : Option BoxPolicy :=
  if text = all.name then some all else if text = cycles.name then some cycles else none

end BoxPolicy

/-- A category as it is generated. -/
structure Group where
  /-- The name of the category. -/
  name : String
  /-- Its rules. -/
  members : Members
  /-- Whether its values are boxed. -/
  boxed : Bool
  /-- The cases that were added by hand. -/
  extraCases : List String := []
  deriving DecidableEq, Repr

namespace Group

/-- Whether a category is a token. -/
def isToken (group : Group) : Bool :=
  group.members.isToken

/-- The rules of a category. -/
def rules (group : Group) : List Rule :=
  group.members.rules

/-- Add cases by hand. -/
def addCases (group : Group) (cases : List String) : Group :=
  { group with extraCases := group.extraCases ++ cases }

/-- Whether two categories are generated alike, whatever lines their rules stand on. -/
def same (a b : Group) : Bool :=
  a.name == b.name && a.rules.map Rule.withoutLine == b.rules.map Rule.withoutLine &&
    a.isToken == b.isToken && a.boxed == b.boxed && a.extraCases == b.extraCases

end Group

/-- A grammar that has been analysed. -/
structure Grammar where
  /-- The rules that it was analysed from. -/
  rules : List Rule
  /-- Its categories, in order. -/
  groups : List Group
  /-- The categories whose lists are used, in order. -/
  listTypes : List String
  /-- The categories that a text may be parsed as. -/
  entrypoints : List String
  deriving DecidableEq, Repr

/-- Whether two grammars are the same, whatever lines their rules stand on. -/
def Grammar.same (a b : Grammar) : Bool :=
  a.rules.map Rule.withoutLine == b.rules.map Rule.withoutLine &&
    a.groups.length == b.groups.length && (a.groups.zip b.groups).all (fun (g, h) => g.same h) &&
    a.listTypes == b.listTypes && a.entrypoints == b.entrypoints

/-- The categories whose values are boxed under a policy, were they no tokens. -/
def boxedTypes (groups : List (String × Members)) : BoxPolicy → List String
  | .all => groups.map (·.1)
  | .cycles => recursiveTypes groups

/-- The categories of a grammar, in order. A token is never boxed. -/
def analyzeGroups (rules : List Rule) (policy : BoxPolicy) : Except GrammarError (List Group) := do
  let groups ← groupByType rules
  let boxed := boxedTypes groups policy
  return (groups.mergeSort fun a b => a.1 ≤ b.1).map fun (name, members) =>
    { name, members, boxed := !members.isToken && boxed.contains name }

/-- Cases to be added by hand to categories, in the order in which the categories were named. -/
abbrev ExtraCases := List (String × List String)

/-- Refuse cases for a category that is not declared or is a token. -/
def checkExtraTarget (groups : List Group) (name : String) : Except GrammarError Unit :=
  match groups.find? (·.name == name) with
  | none => .error { cause := .extraForUnknown name }
  | some group =>
    if group.isToken then .error { cause := .extraForToken name } else .ok ()

/-- Add cases by hand to the categories that they are given for. -/
def addExtraCases (groups : List Group) (extra : ExtraCases) :
    Except GrammarError (List Group) := do
  extra.forM fun (name, _) => checkExtraTarget groups name
  return groups.map fun group => group.addCases ((extra.lookup group.name).getD [])

/-- The grammar of rules and categories, once its entrypoints are known. -/
def assemble (rules : List Rule) (groups : List Group) : Except GrammarError Grammar := do
  return { rules, groups, listTypes := listTypes rules, entrypoints := ← entrypointTypes rules }

/-- Analyse the rules of a grammar. -/
def analyze (rules : List Rule) (extra : ExtraCases := []) (policy : BoxPolicy := .all) :
    Except GrammarError Grammar := do
  let groups ← analyzeGroups rules policy
  assemble rules (← addExtraCases groups extra)

end SyntaxBridge
