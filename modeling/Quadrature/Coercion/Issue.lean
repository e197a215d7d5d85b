/-
# Quadrature.Coercion.Issue -- what is wrong with a field

A record is checked field by field, and all that is wrong is reported at once. An `Issue` is what
can be wrong with one value; a `Defect` adds where the value stands and the value itself, and a
`Report` collects the defects of a record of a named kind. `Report.message` writes a report on
several lines and shortens long values in the middle.
-/
import Quadrature.Failure

namespace Quadrature

set_option autoImplicit false

open Quadrature.Text

/-- What can be wrong with the value of a field. -/
inductive Issue where
  | missing
  | notText
  /-- The text holds a lone surrogate. -/
  | brokenText
  | emptyText
  | blankExpression
  | notWhole
  | unreadableWhole
  /-- The number has too many digits, or its fraction-free double too large a magnitude. -/
  | wholeTooLarge
  | fractional
  | infinite
  | notPositive
  | notNumber
  | unreadableNumber
  /-- The number is not finite, and the field needs one that is. -/
  | refused (cause : Failure)
  | notMethod
  | notTruth
  | unreadableTruth
  /-- The value is no record, where one of the named kind has to stand. -/
  | notRecord (kind : String)

namespace Issue

/-- The name of an issue. -/
def code : Issue → String
  | .missing => "missing"
  | .notText => "string_type"
  | .brokenText => "string_unicode"
  | .emptyText => "string_too_short"
  | .blankExpression | .refused _ => "value_error"
  | .notWhole => "int_type"
  | .unreadableWhole => "int_parsing"
  | .wholeTooLarge => "int_parsing_size"
  | .fractional => "int_from_float"
  | .infinite => "finite_number"
  | .notPositive => "greater_than"
  | .notNumber => "float_type"
  | .unreadableNumber => "float_parsing"
  | .notMethod => "enum"
  | .notTruth => "bool_type"
  | .unreadableTruth => "bool_parsing"
  | .notRecord _ => "model_type"

/-- The wording of an issue. -/
def message : Issue → String
  | .missing => "Field required"
  | .notText => "Input should be a valid string"
  | .brokenText =>
    "Input should be a valid string, unable to parse raw data as a unicode string"
  | .emptyText => "String should have at least 1 character"
  | .blankExpression => "Value error, expression must not be blank"
  | .refused cause => "Value error, " ++ cause.message
  | .notWhole => "Input should be a valid integer"
  | .unreadableWhole => "Input should be a valid integer, unable to parse string as an integer"
  | .wholeTooLarge => "Unable to parse input string as an integer, exceeded maximum size"
  | .fractional => "Input should be a valid integer, got a number with a fractional part"
  | .infinite => "Input should be a finite number"
  | .notPositive => "Input should be greater than 0"
  | .notNumber => "Input should be a valid number"
  | .unreadableNumber => "Input should be a valid number, unable to parse string as a number"
  | .notMethod => "Input should be 'LEFT', 'RIGHT', 'MIDPOINT', 'TRAPEZOIDAL' or 'SIMPSON'"
  | .notTruth => "Input should be a valid boolean"
  | .unreadableTruth => "Input should be a valid boolean, unable to interpret input"
  | .notRecord kind => "Input should be a valid dictionary or instance of " ++ kind

end Issue

/-- An issue with the value that has it and the names of the fields that lead there. -/
structure Defect where
  path : List String
  issue : Issue
  input : Value

/-- All that is wrong with a record that should be of the kind `title`. -/
structure Report where
  title : String
  defects : List Defect

/-! ## Wording -/

/-- The longest start of a text that takes at most `limit` bytes. -/
def takeBytes : Nat → List Char → List Char
  | _, [] => []
  | limit, c :: cs =>
    if c.utf8Size ≤ limit then c :: takeBytes (limit - c.utf8Size) cs else []

/-- The text in at most fifty bytes; of a longer one the first 25 and the last 24, as far as whole
characters fit in. -/
def shorten (s : String) : String :=
  if s.utf8ByteSize ≤ 50 then s
  else
    String.ofList (takeBytes 25 s.toList) ++ "..." ++
      String.ofList (takeBytes 24 s.toList.reverse).reverse

/-- A defect on two lines, the place and what is wrong there; a defect of the whole record has no
place. -/
def Defect.lines (d : Defect) : List String :=
  let what := "  " ++ d.issue.message ++ " [type=" ++ d.issue.code ++ ", input_value=" ++
    shorten d.input.render ++ ", input_type=" ++ d.input.typeName ++ "]"
  if d.path.isEmpty then [what] else [".".intercalate d.path, what]

/-- The wording of a report. -/
def Report.message (r : Report) : String :=
  let count := r.defects.length
  let head := Nat.repr count ++ " validation error" ++ (if count = 1 then "" else "s") ++
    " for " ++ r.title
  "\n".intercalate (head :: r.defects.flatMap Defect.lines)

end Quadrature
