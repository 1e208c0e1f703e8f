import SyntaxBridge.CommandLine.Message
import SyntaxBridge.Compile.Output

/-!
# The program

A command line is read and the files it asks for are generated. The exit code tells whether all
went well: it is 0 if so, 1 if errors were reported, and 2 if the command line is wrong.
-/

namespace SyntaxBridge.CommandLine

/-- How the program ends. -/
inductive Ending where
  /-- With an exit code. -/
  | exit (code : Nat)
  /-- Early, for a reason other than reported errors. -/
  | stopped (stop : Stop)
  /-- Before it starts, as an option is left without a value. -/
  | lacking (flag : Flag)

/-- The wording of an early end, where it has one. -/
def Ending.message? : Ending → Option String
  | exit _ => none
  | stopped stop => stop.message?
  | lacking flag => flag.lackingMessage?

/-- How the program ends, and what it prints. -/
structure Outcome where
  /-- How the program ends. -/
  ending : Ending
  /-- What goes to the standard output. -/
  output : String := ""
  /-- What goes to the standard error. -/
  errorOutput : String := ""

/-- The outcome of a command line that leads to no run. -/
def Refusal.outcome : Refusal → Outcome
  | help => { ending := .exit 0, output := helpText }
  | usage error =>
    { ending := .exit 2,
      errorOutput := usageText ++ program ++ ": error: " ++ error.message ++ "\n" }
  | lacking flag => { ending := .lacking flag }

/-- How the program ends after a run. -/
def Ending.ofRun {α : Type} : Except Stop α → Ending
  | .ok _ => .exit 0
  | .error (.halted _) => .exit 1
  | .error stop => .stopped stop

/-- What an analysis is asked for by a command line, given its extra cases. A policy that is lacking
is an empty one, which the analysis does not know. -/
def Options.analysis (options : Options) (extraCases : List (String × String)) : AnalysisOptions :=
  let asked : AnalysisOptions := .ofTyped (groupExtraCases extraCases) options.policy
  if options.lacking.contains .box then { asked with policy := .list [] } else asked

variable {m : Type → Type} [Monad m]

/-- Generate the files that options ask for. -/
def compile (files : FileSystem m) (options : Options) : m Outcome := do
  match options.extraCases.mapM id with
  | none => return { ending := .lacking .extraCase }
  | some extraCases =>
    let run := compileGrammar files options.file options.out options.module
      (options.analysis extraCases)
    let (result, log) ← run.run.run { verbose := options.verbose }
    return { ending := .ofRun result, output := log.printed }

/-- Run the program. -/
def run (files : FileSystem m) (arguments : List String) : m Outcome := do
  match ← parseArguments files.isDirectory arguments with
  | .error refusal => return refusal.outcome
  | .ok options => compile files options

end SyntaxBridge.CommandLine
