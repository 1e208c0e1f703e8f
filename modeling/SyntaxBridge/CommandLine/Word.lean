import SyntaxBridge.Text.Digit
import SyntaxBridge.Text.Search

/-!
# Words of a command line

Each word of a command line is an option, the mark after which there are no more options, or a plain
word. An option may be written by the start of its long name if no other has that start, and its
argument may be attached to it: after an equals sign, or, to a short name, directly.

A word that starts with a dash but is no option is still plain if it is a number or holds a space.
-/

namespace SyntaxBridge.CommandLine

open Text

/-- The options. -/
inductive Flag where
  | help
  | out
  | module
  | extraCase
  | box
  | verbose
  deriving DecidableEq, Repr

namespace Flag

/-- The names of an option, the short one first. -/
def names : Flag → List String
  | help => ["-h", "--help"]
  | out => ["-o", "--out"]
  | module => ["-m", "--module"]
  | extraCase => ["--extra-case"]
  | box => ["--box"]
  | verbose => ["--verbose"]

/-- All options, in the order of the help. -/
def all : List Flag :=
  [help, out, module, extraCase, box, verbose]

/-- All names with their options. -/
def table : List (String × Flag) :=
  all.flatMap fun flag => flag.names.map (·, flag)

/-- An option as it is called in a message. -/
def describe (flag : Flag) : String :=
  "/".intercalate flag.names

/-- Whether an option takes an argument. -/
def takesArgument : Flag → Bool
  | help | verbose => false
  | out | module | extraCase | box => true

/-- The option of a name. -/
def ofName? (name : List Char) : Option Flag :=
  table.lookup (String.ofList name)

end Flag

/-- A word of a command line. -/
inductive Word where
  /-- A word that is no option. -/
  | plain (text : String)
  /-- The mark after which there are no more options. -/
  | mark
  /-- An option, by its short name or not, and the argument that is attached to it. -/
  | option (flag : Flag) (isShort : Bool) (attached : Option (List Char))
  /-- A word that looks like an option. -/
  | unknown (text : String)
  deriving DecidableEq, Repr

/-- What is wrong with a command line. -/
inductive UsageError where
  /-- The start of a long name fits several options. -/
  | ambiguous (word : String) (names : List String)
  /-- An option lacks its argument. -/
  | missingArgument (flag : Flag)
  /-- An argument is attached to an option that takes none. -/
  | surplusArgument (flag : Flag) (argument : String)
  /-- An argument gives no extra case. -/
  | badExtraCase (argument : String)
  /-- An argument names no policy. -/
  | badPolicy (argument : String)
  /-- No grammar is given. -/
  | missingFile
  /-- Some words have no meaning. -/
  | unrecognized (words : List String)
  /-- The module of the parser has no name. -/
  | emptyModule
  /-- The files are to be written where there is no directory. -/
  | noDirectory
  deriving DecidableEq, Repr

/-- Whether a word is a negative number, whole or with a point. A line feed may follow it. -/
def isNegativeNumber : List Char → Bool
  | '-' :: cs =>
    let cs := if cs.getLast? = some '\n' then cs.dropLast else cs
    match cs.dropWhile isDecimalDigit with
    | [] => !cs.isEmpty
    | '.' :: decimals => !decimals.isEmpty && decimals.all isDecimalDigit
    | _ => false
  | _ => false

/-- The options whose names start with a text, each with its name, when an argument may be attached
to it. -/
def withStart (start : List Char) (attached : Option (List Char)) : List (String × Word) :=
  (Flag.table.filter fun entry => start.isPrefixOf entry.1.toList).map fun entry =>
    (entry.1, .option entry.2 false attached)

/-- The options that a word may mean that names none in full, each with its name. -/
def candidates : List Char → List (String × Word)
  | '-' :: '-' :: cs =>
    match cutAt? ['='] ('-' :: '-' :: cs) with
    | some (start, argument) => withStart start (some argument)
    | none => withStart ('-' :: '-' :: cs) none
  | '-' :: c :: argument =>
    match Flag.ofName? ['-', c] with
    | some flag => [(String.ofList ['-', c], .option flag true (some argument))]
    | none => []
  | _ => []

/-- Whether an option's name is a short one. -/
def isShortName (name : List Char) : Bool :=
  name.length = 2

/-- A word that starts with a dash and is more than that. -/
def readDashed (word : List Char) : Except UsageError Word :=
  match Flag.ofName? word with
  | some flag => .ok (.option flag (isShortName word) none)
  | none =>
    let signed := do
      let (name, argument) ← cutAt? ['='] word
      let flag ← Flag.ofName? name
      some (Word.option flag (isShortName name) (some argument))
    match signed, candidates word with
    | some option, _ => .ok option
    | none, [(_, option)] => .ok option
    | none, [] =>
      if isNegativeNumber word || word.contains ' ' then .ok (.plain (String.ofList word))
      else .ok (.unknown (String.ofList word))
    | none, several => .error (.ambiguous (String.ofList word) (several.map (·.1)))

/-- The words of a command line. -/
def readWords : List String → Except UsageError (List Word)
  | [] => .ok []
  | argument :: arguments =>
    if argument = "--" then .ok (.mark :: arguments.map .plain)
    else do
      let word ← match argument.toList with
        | '-' :: c :: cs => readDashed ('-' :: c :: cs)
        | _ => pure (.plain argument)
      return word :: (← readWords arguments)

end SyntaxBridge.CommandLine
