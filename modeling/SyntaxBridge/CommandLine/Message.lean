import SyntaxBridge.CommandLine.Options

/-!
# Messages of the command line

The help, and the wording of what is wrong with a command line.
-/

namespace SyntaxBridge.CommandLine

/-- The name of the program. -/
def program : String := "cf2swift.py"

/-- The lines that show how the program is used. -/
def usageText : String :=
  "usage: " ++ program ++ " [-h] [-o DIR] [-m MODULE] [--extra-case TYPE=CASE]\n" ++
  "                   [--box \x7ball,cycles\x7d] [--verbose]\n" ++
  "                   FILE\n"

/-- The help. -/
def helpText : String :=
  usageText ++ "\n".intercalate [
    "",
    "Generate Swift abstract syntax and a bridge to the BNFC C parser from a BNFC",
    "grammar.",
    "",
    "positional arguments:",
    "  FILE                  The BNFC grammar (.cf) file.",
    "",
    "options:",
    "  -h, --help            show this help message and exit",
    "  -o DIR, --out DIR     Directory to write the generated Swift sources to.",
    "  -m MODULE, --module MODULE",
    "                        Name of the module holding the BNFC generated C",
    "                        parser.",
    "  --extra-case TYPE=CASE",
    "                        Add a hand written enum case to TYPE. May be repeated.",
    "  --box \x7ball,cycles\x7d    Mark every enum indirect, or only the recursive ones.",
    "  --verbose             Print progress information.",
    ""]

/-- The wording of what is wrong with the use of an option. -/
def argumentMessage (flag : Flag) (fault : String) : String :=
  "argument " ++ flag.describe ++ ": " ++ fault

/-- The wording of what is wrong with a command line. -/
def UsageError.message : UsageError → String
  | ambiguous word names =>
    "ambiguous option: " ++ word ++ " could match " ++ ", ".intercalate names
  | missingArgument flag => argumentMessage flag "expected one argument"
  | surplusArgument flag argument =>
    argumentMessage flag ("ignored explicit argument " ++ Text.quoted argument)
  | badExtraCase argument => argumentMessage .extraCase (extraCaseMessage argument)
  | badPolicy argument =>
    argumentMessage .box ("invalid choice: " ++ Text.quoted argument ++
      " (choose from 'all', 'cycles')")
  | missingFile => "the following arguments are required: FILE"
  | unrecognized words => "unrecognized arguments: " ++ " ".intercalate words
  | emptyModule => "--module must not be empty."
  | noDirectory => "--out should refer to a directory."

/-- The wording when an option is left without a value that is needed, where there is one. -/
def Flag.lackingMessage? : Flag → Option String
  | module => some "'list' object has no attribute 'strip'"
  | extraCase => some "not enough values to unpack (expected 2, got 0)"
  | _ => none

end SyntaxBridge.CommandLine
