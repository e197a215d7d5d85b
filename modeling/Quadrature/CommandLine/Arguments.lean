/-
# Quadrature.CommandLine.Arguments -- reading a command line

The words of a command line are told apart first: options, shortened or with an argument attached,
and other words. Then the options are taken in order, each with its argument; a later one replaces
an earlier one of its kind, and help stops the reading at once. Words that belong to no option are
reported at the end.
-/
import Quadrature.CommandLine.Flag
import Quadrature.Number.Whole

namespace Quadrature

set_option autoImplicit false

open Quadrature.Text
open Quadrature.Number

/-- What is attached to an option in the same word. -/
structure Attached where
  /-- The option has its short spelling. -/
  short : Bool
  /-- An equals sign stands between. -/
  equals : Bool
  value : List Char
deriving DecidableEq, Repr

/-- A word of the command line. -/
inductive Word where
  /-- The word `--`, after which there are no options. -/
  | separator
  | argument (text : String)
  /-- An option, and what is attached to it. -/
  | option (flag : Flag) (attached : Option Attached)
  /-- A word that looks like an option and is none. -/
  | stray (text : String)
deriving DecidableEq, Repr

namespace Word

/-- The text before the first equals sign and the one after it. -/
def splitEquals (s : List Char) : Option (List Char × List Char) :=
  match s.dropWhile (· ≠ '=') with
  | _ :: value => some (s.takeWhile (· ≠ '='), value)
  | [] => none

/-- A number with a hyphen, such as `-1` or `-.5`; one line feed may follow. -/
def looksNegative (s : List Char) : Bool :=
  let s := if s.getLast? = some '\n' then s.dropLast else s
  match s with
  | '-' :: rest =>
    match rest.dropWhile isDigit with
    | [] => !rest.isEmpty
    | '.' :: fraction => !fraction.isEmpty && fraction.all isDigit
    | _ => false
  | _ => false

/-- The options that a word could stand for: one whose long spelling starts with it, or one whose
short spelling it starts with. -/
def candidates (s : List Char) : List (String × Flag × Option Attached) :=
  match s with
  | '-' :: '-' :: _ =>
    let (start, attached) : List Char × Option Attached := match splitEquals s with
      | some (start, value) => (start, some ⟨false, true, value⟩)
      | none => (s, none)
    (Flag.spellings.filter fun (name, _) => start.isPrefixOf name.toList).map
      fun (name, flag) => (name, flag, attached)
  | '-' :: c :: rest =>
    (Flag.spellings.filter fun (name, _) => name.toList = ['-', c]).map
      fun (name, flag) => (name, flag, some ⟨true, false, rest⟩)
  | _ => []

/-- The kind of a word that is not `--`. -/
def classify (text : String) : Except UsageError Word :=
  let s := text.toList
  if s.head? ≠ some '-' then .ok (.argument text)
  else match Flag.ofName? text with
  | some flag => .ok (.option flag none)
  | none =>
    if s.length = 1 then .ok (.argument text)
    else
      let exact := (splitEquals s).bind fun (name, value) =>
        (Flag.ofName? (String.ofList name)).map fun flag =>
          Word.option flag (some ⟨name.length = 2, true, value⟩)
      match exact, candidates s with
      | some word, _ => .ok word
      | none, [(_, flag, attached)] => .ok (.option flag attached)
      | none, [] =>
        .ok (if looksNegative s || s.contains ' ' then .argument text else .stray text)
      | none, several => .error (.ambiguous text (several.map (·.1)))

/-- The words of a command line. -/
def classifyAll : List String → Except UsageError (List Word)
  | [] => .ok []
  | text :: texts =>
    if text = "--" then .ok (.separator :: texts.map .argument)
    else do
      let word ← classify text
      return word :: (← classifyAll texts)

end Word

/-- What a command line asks for. -/
structure Arguments where
  expression : Option String := none
  partitions : Option Int := none
  bounds : Option String := none
  method : Option String := none
  request : Option String := none
  variableName : Option String := none
  json : Bool := false
  levelName : Option String := none
deriving DecidableEq, Repr

/-- Why the reading of a command line stops early. -/
inductive Stop where
  | help
  | usage (e : UsageError)
deriving DecidableEq, Repr

namespace Arguments

/-- The arguments after an option was taken. -/
def take (a : Arguments) (flag : Flag) (argument : String) : Except Stop Arguments :=
  match flag with
  | .help => .error .help
  | .json => .ok { a with json := true }
  | .expression => .ok { a with expression := some argument }
  | .bounds => .ok { a with bounds := some argument }
  | .method => .ok { a with method := some argument }
  | .request => .ok { a with request := some argument }
  | .freeVariable => .ok { a with variableName := some argument }
  | .logLevel => .ok { a with levelName := some argument }
  | .partitions =>
    match Whole.readString argument with
    | .ok n => .ok { a with partitions := some n }
    | .error _ => .error (.usage (.notWhole .partitions argument))

/-- The options that one word spells. -/
structure Spelled where
  /-- The options in order, each with its argument. -/
  taken : List (Flag × String)
  /-- The word that follows is the argument of the last option. -/
  usesNext : Bool
  /-- The rest of the word, if it spells no option. -/
  stray : List String

/-- The options that a word spells after `flag`, which has no argument. -/
def Spelled.after (flag : Flag) (s : Spelled) : Spelled :=
  { s with taken := (flag, "") :: s.taken }

/-- An option with nothing attached: the word that follows is its argument. -/
def spelledAlone (following : List Word) (flag : Flag) : Except UsageError Spelled :=
  if flag.takesArgument then
    match following with
    | .argument text :: _ => .ok ⟨[(flag, text)], true, []⟩
    | _ => .error (.missingArgument flag)
  else .ok ⟨[(flag, "")], false, []⟩

/-- An option with something attached: its argument, or behind a short option without argument the
letters of more short options. -/
def spelledWith (following : List Word) (flag : Flag) (short equals : Bool) :
    List Char → Except UsageError Spelled
  | [] =>
    if flag.takesArgument then .ok ⟨[(flag, "")], false, []⟩
    else .error (.needlessArgument flag "")
  | c :: rest =>
    if flag.takesArgument then .ok ⟨[(flag, String.ofList (c :: rest))], false, []⟩
    else if !short || equals || c = '-' then
      .error (.needlessArgument flag (String.ofList (c :: rest)))
    else match Flag.ofName? (String.ofList ['-', c]) with
    | none => .ok ⟨[(flag, "")], false, [String.ofList ('-' :: c :: rest)]⟩
    | some next =>
      Except.map (Spelled.after flag) <|
        match rest with
        | [] => spelledAlone following next
        | '=' :: value => spelledWith following next true true value
        | c :: rest => spelledWith following next true false (c :: rest)

/-- The options that a word spells, where `following` are the words after it. -/
def spelled (following : List Word) (flag : Flag) : Option Attached → Except UsageError Spelled
  | none => spelledAlone following flag
  | some a => spelledWith following flag a.short a.equals a.value

/-- The arguments after several options were taken. -/
def takeAll (a : Arguments) : List (Flag × String) → Except Stop Arguments
  | [] => .ok a
  | (flag, argument) :: more => do takeAll (← a.take flag argument) more

/-- Take the words in order; `skip` says that the first one was used as an argument already, and
`extra` are the words that belong to no option, the last one first. -/
def read (a : Arguments) (extra : List String) (skip : Bool) : List Word → Except Stop Arguments
  | [] => if extra.isEmpty then .ok a else .error (.usage (.unrecognized extra.reverse))
  | word :: words =>
    if skip then read a extra false words
    else match word with
      | .option flag attached =>
        match spelled words flag attached with
        | .error e => .error (.usage e)
        | .ok s => do read (← a.takeAll s.taken) (s.stray ++ extra) s.usesNext words
      | .argument text | .stray text => read a (text :: extra) false words
      | .separator => read a ("--" :: extra) false words

/-- What the words of a command line ask for. -/
def parse (words : List String) : Except Stop Arguments :=
  match Word.classifyAll words with
  | .error e => .error (.usage e)
  | .ok words => read {} [] false words

end Arguments

end Quadrature
