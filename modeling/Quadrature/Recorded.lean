/-
# Quadrature.Recorded -- what a computation says while it runs

A computation leaves events behind: lines for its reader and questions to them, notices beside
these, and log records. A `Recorded` value carries the events in the order in which they happened,
and an `Attempt` is one that may fail; what was said before the failure stays.
-/
namespace Quadrature

set_option autoImplicit false

/-- How much a log record matters. -/
inductive Level where
  | debug
  | info
  | warning
  | error
  | critical
deriving DecidableEq, Repr, Inhabited

namespace Level

/-- The levels in the order of their names. -/
def all : List Level := [.critical, .debug, .error, .info, .warning]

/-- The name of a level. -/
def name : Level → String
  | .debug => "DEBUG"
  | .info => "INFO"
  | .warning => "WARNING"
  | .error => "ERROR"
  | .critical => "CRITICAL"

/-- The level of a given name. -/
def ofName? (s : String) : Option Level := all.find? (·.name = s)

/-- The rank of a level: what matters more ranks higher. -/
def rank : Level → Nat
  | .debug => 10
  | .info => 20
  | .warning => 30
  | .error => 40
  | .critical => 50

end Level

/-- A line of the log: its level, the part of the program it comes from, and its text. -/
structure LogRecord where
  level : Level
  source : String
  text : String
deriving DecidableEq, Repr

/-- Something that happens while a computation runs. -/
inductive Event where
  /-- A line for the reader. -/
  | output (line : String)
  /-- A line beside the output. -/
  | notice (line : String)
  | log (record : LogRecord)
  /-- An answer of the reader is taken. -/
  | question
deriving DecidableEq, Repr

/-- A value with the events on the way to it. -/
structure Recorded (α : Type) where
  events : List Event
  value : α

namespace Recorded

variable {α β : Type}

instance : Monad Recorded where
  pure a := ⟨[], a⟩
  bind r f :=
    let next := f r.value
    ⟨r.events ++ next.events, next.value⟩

/-- One event. -/
def event (e : Event) : Recorded Unit := ⟨[e], ()⟩

/-- A line for the reader. -/
def output (line : String) : Recorded Unit := event (.output line)

/-- A line beside the output. -/
def notice (line : String) : Recorded Unit := event (.notice line)

/-- Lines for the reader, then a question for an answer. -/
def ask (lines : List String) : Recorded Unit := ⟨lines.map .output ++ [.question], ()⟩

/-- A log record. -/
def log (level : Level) (source text : String) : Recorded Unit :=
  event (.log ⟨level, source, text⟩)

/-- The event is no log record below a level. -/
def isAtLeast (level : Level) : Event → Bool
  | .log record => level.rank ≤ record.level.rank
  | _ => true

/-- The same computation without its log records below a level. -/
def atLevel (level : Level) (r : Recorded α) : Recorded α :=
  { r with events := r.events.filter (isAtLeast level) }

/-- The lines for the reader. -/
def outputs (events : List Event) : List String :=
  events.filterMap fun
    | .output line => some line
    | _ => none

/-- The log records. -/
def logs (events : List Event) : List LogRecord :=
  events.filterMap fun
    | .log record => some record
    | _ => none

end Recorded

/-- A computation that may fail. -/
abbrev Attempt (ε α : Type) := ExceptT ε Recorded α

namespace Attempt

variable {ε ε' α : Type}

/-- A computation that says nothing, with another kind of failure. -/
def ofExcept (f : ε → ε') (r : Except ε α) : Attempt ε' α := ExceptT.mk ⟨[], r.mapError f⟩

/-- The computation with another kind of failure. -/
def mapFailure (f : ε → ε') (a : Attempt ε α) : Attempt ε' α :=
  ExceptT.mk ⟨a.run.events, a.run.value.mapError f⟩

end Attempt

end Quadrature
