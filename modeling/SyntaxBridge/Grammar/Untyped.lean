import SyntaxBridge.Grammar.Analysis
import SyntaxBridge.Grammar.Parser
import SyntaxBridge.Record.Description

/-!
# Grammars from untyped values

Rules, extra cases and a policy may come from outside as values of any type. They are checked when
they are used: the fields of a rule in order when the rule is made, the policy before anything else
in the analysis, and the extra cases of a category when they are added to it.
-/

namespace SyntaxBridge

open Record

/-- What keeps untyped values from becoming an analysed grammar. -/
inductive AnalysisError where
  /-- The grammar is wrong. -/
  | grammar (error : GrammarError)
  /-- A value is not what it should be. -/
  | value (error : RecordError)
  /-- A value names no policy. -/
  | unknownPolicy (value : Value)
  /-- The grammar is wrong on a line that is no whole number, which is told to be another one or
  not told at all. -/
  | misplaced (cause : Cause) (text : String) (line : Value) (shown : Option Int)

/-- The wording of an error, where it has one. -/
def AnalysisError.message? : AnalysisError → Option String
  | grammar error => some error.message
  | value error => error.message?
  | unknownPolicy given => given.describe.toOption.map ("unknown box policy " ++ ·)
  | misplaced cause _ _ _ => some cause.message

namespace Untyped

/-- A value as a text. -/
def text : Value → Except RecordError String
  | .text content => .ok content
  | _ => .error .mismatch

/-- A value as a sequence of texts. A text is the sequence of its characters. -/
def texts (value : Value) : Except RecordError (List String) :=
  match value.items? with
  | some items => items.mapM text
  | none => .error .notIterable

/-- A value as a line. -/
def line : Value → Except RecordError LineNumber
  | .integer n => .ok (.number n)
  | .flag set => .ok (.flag set)
  | _ => .error .mismatch

/-- A constructor rule from its fields. -/
def constructor (label type construction lineValue : Value) : Except RecordError Rule := do
  let label ← text label
  let type ← text type
  let construction ← texts construction
  return .constructor ⟨label, type, construction, ← line lineValue⟩

/-- A token rule from its fields. -/
def token (type lineValue : Value) : Except RecordError Rule := do
  let type ← text type
  return .token ⟨type, ← line lineValue⟩

/-- An entrypoint rule from its fields. -/
def entrypoint (types lineValue : Value) : Except RecordError Rule := do
  let types ← texts types
  return .entrypoint ⟨types, ← line lineValue⟩

/-- A value as extra cases. Whatever counts as nothing gives none. -/
def cases (value : Value) : Except RecordError (List String) :=
  if value.isEmpty then .ok [] else texts value

/-- A value as a policy. -/
def policy (value : Value) : Except AnalysisError BoxPolicy :=
  match value with
  | .text name =>
    match BoxPolicy.ofName? name with
    | some policy => .ok policy
    | none => .error (.unknownPolicy value)
  | _ => .error (.unknownPolicy value)

end Untyped

/-- An error of a grammar on a line that is no whole number. A number with decimals is told without
them, and a value that counts as nothing is not told. -/
def Untyped.misplaced (cause : Cause) (text : String) (line : Value) : AnalysisError :=
  if line.isEmpty then .misplaced cause text line none
  else
    match line with
    | .real number => .misplaced cause text line (some number.toInt)
    | _ => .value .notANumber

/-- The rules that a text declares on a line that may be no number. Then no rule can be made, which
is found out when the first one should be. -/
def Untyped.parseLine (text : String) (lineValue : Value) : Except AnalysisError (List Rule) :=
  match Untyped.line lineValue with
  | .ok line => (Parser.parseLine text line).mapError .grammar
  | .error _ =>
    match Parser.readRules .unknown text.toList with
    | .ok [] => .ok []
    | .ok (.ok _ :: _) => .error (.value .mismatch)
    | .ok (.error cause :: _) | .error cause => .error (misplaced cause text lineValue)

/-- Extra cases whose values have not been checked. -/
abbrev UntypedCases := List (String × Value)

/-- The extra cases of a list of pairs. A category that is named again keeps its place and takes the
later cases. -/
def UntypedCases.ofPairs (pairs : List (String × Value)) : UntypedCases :=
  pairs.foldl (fun extra pair =>
    if extra.any (·.1 == pair.1) then
      extra.map fun other => if other.1 == pair.1 then pair else other
    else extra ++ [pair]) []

/-- Add unchecked cases to the categories that they are given for. -/
def addUntypedCases (groups : List Group) (extra : UntypedCases) :
    Except AnalysisError (List Group) := do
  (extra.forM fun (name, _) => checkExtraTarget groups name).mapError .grammar
  groups.mapM fun group => do
    let cases ← (Untyped.cases ((extra.lookup group.name).getD .null)).mapError .value
    return group.addCases cases

/-- What may be asked of an analysis. -/
structure AnalysisOptions where
  /-- The cases that are added by hand. -/
  extra : UntypedCases := []
  /-- The policy for boxing. -/
  policy : Value := .text BoxPolicy.all.name

/-- Options that need no check. -/
def AnalysisOptions.ofTyped (extra : ExtraCases) (policy : BoxPolicy) : AnalysisOptions :=
  { extra := extra.map fun (name, cases) => (name, .list (cases.map .text))
    policy := .text policy.name }

/-- Analyse the rules of a grammar with unchecked options. -/
def analyzeUntyped (rules : List Rule) (options : AnalysisOptions) :
    Except AnalysisError Grammar := do
  let policy ← Untyped.policy options.policy
  let groups ← (analyzeGroups rules policy).mapError .grammar
  let groups ← addUntypedCases groups options.extra
  (assemble rules groups).mapError .grammar

end SyntaxBridge
