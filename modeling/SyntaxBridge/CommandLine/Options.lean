import SyntaxBridge.CommandLine.Extra
import SyntaxBridge.CommandLine.Word

/-!
# Options of a command line

The first plain word is the grammar. Every option that takes an argument has it attached or takes
the next word, which must be plain. The last use of an option counts, but extra cases add up. A
request for help ends the reading at once; other faults are found in the order of the words, and
only at the end whether the grammar is missing or words are left over.

An attached argument that is the mark after which there are no more options does not count, so the
option is left without a value. That is refused last, or not before the value is needed.
-/

namespace SyntaxBridge.CommandLine

/-- What a command line asks for. -/
structure Options where
  /-- The grammar. -/
  file : String
  /-- Where the files are written. -/
  out : String := "."
  /-- The module of the parser. -/
  module : String := "CGrammar"
  /-- The extra cases, one for each use of the option. -/
  extraCases : List (Option (String × String)) := []
  /-- The policy for boxing. -/
  policy : BoxPolicy := .all
  /-- Whether details are printed. -/
  verbose : Bool := false
  /-- The options, other than that for extra cases, whose last use gave no value. -/
  lacking : List Flag := []
  deriving DecidableEq, Repr

/-- Why a command line leads to no run. -/
inductive Refusal where
  /-- Help was asked for. -/
  | help
  /-- The command line is wrong. -/
  | usage (error : UsageError)
  /-- An option is left without a value. -/
  | lacking (flag : Flag)
  deriving DecidableEq, Repr

/-- What has been read of a command line. -/
structure Reading where
  /-- The grammar, once it was given. -/
  file : Option String := none
  /-- The options so far; their grammar has no meaning. -/
  options : Options := { file := "" }
  /-- The words that have no meaning, in order. -/
  leftOver : List String := []
  deriving DecidableEq, Repr

namespace Reading

/-- Keep a word that has no meaning. -/
def leave (reading : Reading) (word : String) : Reading :=
  { reading with leftOver := reading.leftOver ++ [word] }

/-- Use an option that takes no argument. -/
def use (reading : Reading) : Flag → Except Refusal Reading
  | .verbose => .ok { reading with options := { reading.options with verbose := true } }
  | .help => .error .help
  | _ => .ok reading

/-- Change the options by the use of one that now has a value. -/
def supply (reading : Reading) (flag : Flag) (change : Options → Options) : Reading :=
  let options := change reading.options
  { reading with options := { options with lacking := options.lacking.erase flag } }

/-- Use an option that is left without a value. -/
def useWithout (reading : Reading) (flag : Flag) : Reading :=
  let options := reading.options
  if flag = .extraCase then
    { reading with options := { options with extraCases := options.extraCases ++ [none] } }
  else { reading with options := { options with lacking := flag :: options.lacking.erase flag } }

/-- Use an option with its argument. -/
def useWith (reading : Reading) (flag : Flag) (argument : String) : Except Refusal Reading :=
  match flag with
  | .out => .ok (reading.supply flag ({ · with out := argument }))
  | .module => .ok (reading.supply flag ({ · with module := argument }))
  | .extraCase =>
    match parseExtraCase argument with
    | some extra =>
      .ok (reading.supply flag fun options =>
        { options with extraCases := options.extraCases ++ [some extra] })
    | none => .error (.usage (.badExtraCase argument))
  | .box =>
    match BoxPolicy.ofName? argument with
    | some policy => .ok (reading.supply flag ({ · with policy }))
    | none => .error (.usage (.badPolicy argument))
  | .help | .verbose => reading.use flag

/-- Use an option with an argument that is attached to it. -/
def useAttached (reading : Reading) (flag : Flag) (attached : List Char) : Except Refusal Reading :=
  if attached = ['-', '-'] then .ok (reading.useWithout flag)
  else reading.useWith flag (String.ofList attached)

/-- What comes of short names that are written together after that of an option without an
argument. The option is the request for help, which is granted unless one of the others is no
option or lacks its argument. -/
def readCluster (next : Option Word) (flag : Flag) : List Char → Refusal
  | [] => .usage (.surplusArgument flag "")
  | c :: cs =>
    match Flag.ofName? ['-', c] with
    | none => .usage (.surplusArgument flag (String.ofList (c :: cs)))
    | some other =>
      match other.takesArgument, cs, next with
      | true, [], some (.plain _) => .help
      | true, [], _ => .usage (.missingArgument other)
      | true, _ :: _, _ => .help
      | false, [], _ => .help
      | false, _ :: _, _ => readCluster next other cs

/-- What comes of an argument that is attached to an option that takes none. -/
def refuseAttached (next : Option Word) (flag : Flag) (isShort : Bool) (attached : List Char) :
    Refusal :=
  if isShort then readCluster next flag attached
  else .usage (.surplusArgument flag (String.ofList attached))

/-- The words that follow the mark, if it comes next. -/
def skipMark : List Word → List Word
  | .mark :: words => words
  | words => words

/-- Skipping the mark makes no list of words longer. -/
theorem length_skipMark_le (words : List Word) : (skipMark words).length ≤ words.length := by
  unfold skipMark
  split <;> simp

/-- Read words. The mark has no other meaning beside the grammar, and none elsewhere. -/
def readWords (reading : Reading) : List Word → Except Refusal Reading
  | [] => .ok reading
  | .plain text :: words =>
    match reading.file with
    | none => readWords { reading with file := some text } (skipMark words)
    | some _ => readWords (reading.leave text) words
  | .mark :: words =>
    match reading.file with
    | none => readWords reading words
    | some _ => readWords (reading.leave "--") words
  | .unknown text :: words => readWords (reading.leave text) words
  | .option flag isShort (some attached) :: words =>
    if flag.takesArgument then do readWords (← reading.useAttached flag attached) words
    else .error (refuseAttached words.head? flag isShort attached)
  | .option flag _ none :: .plain text :: words =>
    if flag.takesArgument then do readWords (← reading.useWith flag text) words
    else do readWords (← reading.use flag) (.plain text :: words)
  | .option flag _ none :: words =>
    if flag.takesArgument then .error (.usage (.missingArgument flag))
    else do readWords (← reading.use flag) words
termination_by words => words.length
decreasing_by
  all_goals simp only [List.length_cons]
  all_goals first | omega | exact Nat.lt_succ_of_le (length_skipMark_le words)

end Reading

/-- The options of a command line, before they are checked. -/
def readOptions (arguments : List String) : Except Refusal Options := do
  let words ← (readWords arguments).mapError .usage
  let reading ← ({} : Reading).readWords words
  let some file := reading.file | throw (.usage .missingFile)
  if !reading.leftOver.isEmpty then throw (.usage (.unrecognized reading.leftOver))
  return { reading.options with file }

/-- The options of a command line. The module must have a name, and the files must be written to a
directory. A policy that is lacking is not missed yet. -/
def parseArguments {m : Type → Type} [Monad m] (isDirectory : String → m Bool)
    (arguments : List String) : m (Except Refusal Options) := do
  match readOptions arguments with
  | .error refusal => return .error refusal
  | .ok options =>
    if options.lacking.contains .module then return .error (.lacking .module)
    let module := String.ofList (Text.trim options.module.toList)
    if module.isEmpty then return .error (.usage .emptyModule)
    else if options.lacking.contains .out then return .error (.lacking .out)
    else if ← isDirectory options.out then return .ok { options with module }
    else return .error (.usage .noDirectory)

end SyntaxBridge.CommandLine
