/-
# Quadrature.CommandLine.Flag -- the options of the command line

The options with their spellings, the errors in their use, and what is written about them: the
usage lines and the help.
-/
import Quadrature.Text.Quoted

namespace Quadrature

set_option autoImplicit false

open Quadrature.Text

/-- An option of the command line. -/
inductive Flag where
  | help
  | expression
  | partitions
  | bounds
  | method
  | request
  | freeVariable
  | json
  | logLevel
deriving DecidableEq, Repr

namespace Flag

/-- The options in the order of the help. -/
def all : List Flag :=
  [.help, .expression, .partitions, .bounds, .method, .request, .freeVariable, .json, .logLevel]

/-- The spellings of an option. -/
def names : Flag → List String
  | .help => ["-h", "--help"]
  | .expression => ["-e", "--expression"]
  | .partitions => ["-n", "--partitions"]
  | .bounds => ["-b", "--bounds"]
  | .method => ["-m", "--method"]
  | .request => ["--request"]
  | .freeVariable => ["--variable"]
  | .json => ["--json"]
  | .logLevel => ["--log-level"]

/-- The option has an argument. -/
def takesArgument : Flag → Bool
  | .help | .json => false
  | _ => true

/-- All spellings with their options, in order. -/
def spellings : List (String × Flag) := all.flatMap fun f => f.names.map (·, f)

/-- The option with a given spelling. -/
def ofName? (name : String) : Option Flag := spellings.lookup name

/-- The spellings of an option as errors show them. -/
def title (f : Flag) : String := "/".intercalate f.names

end Flag

/-- Why a command line is not understood. -/
inductive UsageError where
  /-- A shortened option could be several. -/
  | ambiguous (text : String) (names : List String)
  | missingArgument (flag : Flag)
  | needlessArgument (flag : Flag) (text : String)
  | notWhole (flag : Flag) (text : String)
  | unrecognized (texts : List String)
  /-- An expression is given without all that goes with it. -/
  | incomplete (names : List String)
deriving DecidableEq, Repr

/-- The wording of an error. -/
def UsageError.message : UsageError → String
  | .ambiguous text names =>
    "ambiguous option: " ++ text ++ " could match " ++ ", ".intercalate names
  | .missingArgument flag => "argument " ++ flag.title ++ ": expected one argument"
  | .needlessArgument flag text =>
    "argument " ++ flag.title ++ ": ignored explicit argument " ++ quoted text
  | .notWhole flag text =>
    "argument " ++ flag.title ++ ": invalid int value: " ++ quoted text
  | .unrecognized texts => "unrecognized arguments: " ++ " ".intercalate texts
  | .incomplete names => "--expression requires " ++ ", ".intercalate names

/-- How the program is called. -/
def usageLines : List String := [
  "usage: numint [-h] [-e EXPRESSION] [-n PARTITIONS] [-b BOUNDS] [-m METHOD]",
  "              [--request REQUEST] [--variable VARIABLE] [--json]",
  "              [--log-level LOG_LEVEL]"]

/-- What the program does and what its options mean. -/
def helpLines : List String := usageLines ++ [
  "",
  "Approximate the definite integral of a single-variable expression.",
  "",
  "options:",
  "  -h, --help            show this help message and exit",
  "  -e EXPRESSION, --expression EXPRESSION",
  "                        Expression in the free variable, e.g. 'x^2 + 1'",
  "  -n PARTITIONS, --partitions PARTITIONS",
  "                        Number of partitions (positive integer)",
  "  -b BOUNDS, --bounds BOUNDS",
  "                        Domain bounds as [x0,x1]",
  "  -m METHOD, --method METHOD",
  "                        left, right, midpoint, trapezoidal, simpson (or menu",
  "                        number 1-5)",
  "  --request REQUEST     JSON file with an integration_request payload",
  "  --variable VARIABLE   Name of the free variable (default: x)",
  "  --json                Print the result as an integration_result JSON payload",
  "  --log-level LOG_LEVEL",
  "                        Logging level (default: WARNING)"]

/-- What is written about a usage error. -/
def UsageError.lines (e : UsageError) : List String :=
  usageLines ++ ["numint: error: " ++ e.message]

end Quadrature
