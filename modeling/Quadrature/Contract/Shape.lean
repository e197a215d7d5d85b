/-
# Quadrature.Contract.Shape -- the shape a JSON value has to have

A `Shape` describes JSON values: texts, numbers, truth values, and records with exactly the named
fields. `violations` lists everything in which a value differs from a shape, an outer record before
its fields and the fields in the order of the shape. Of one value the wrong type comes first, and
further rules are tested wherever they apply to the type that is there.
-/
import Quadrature.Value
import Quadrature.Number.Double

namespace Quadrature

set_option autoImplicit false

open Quadrature.Text
open Quadrature.Number

/-- The types of JSON values. A whole number may be written as a double without fraction. -/
inductive JsonType where
  | object
  | string
  | integer
  | number
  | boolean
  | null
deriving DecidableEq, Repr

namespace JsonType

/-- The name of a type. -/
def name : JsonType → String
  | .object => "object"
  | .string => "string"
  | .integer => "integer"
  | .number => "number"
  | .boolean => "boolean"
  | .null => "null"

/-- The value is of the type. -/
def holds : JsonType → Value → Bool
  | .object, .record _ => true
  | .string, .text _ => true
  | .integer, .int _ => true
  | .integer, .float x => (Double.toInt? x).isSome
  | .number, .int _ => true
  | .number, .float _ => true
  | .boolean, .bool _ => true
  | .null, .null => true
  | _, _ => false

end JsonType

/-- A shape of JSON values. -/
inductive Shape where
  /-- Any text, or any but the empty one. -/
  | text (nonempty : Bool)
  /-- One of the given texts. -/
  | choice (texts : List String)
  /-- A whole number that is not less than the given one. -/
  | whole (least : Nat)
  /-- A number, or null if that is allowed. -/
  | number (nullable : Bool)
  | truth
  /-- A record with the given fields and no others. -/
  | record (fields : List (String × Shape))

/-- One rule that a value breaks. -/
inductive Breach where
  | wrongType (types : List JsonType) (found : Value)
  | missing (name : String)
  | unexpected (names : List Points)
  | empty
  | tooSmall (least : Nat) (found : Value)
  | noChoice (texts : List String) (found : Value)

namespace Breach

/-- The schema keyword that states the broken rule. -/
def keyword : Breach → String
  | .wrongType _ _ => "type"
  | .missing _ => "required"
  | .unexpected _ => "additionalProperties"
  | .empty => "minLength"
  | .tooSmall _ _ => "minimum"
  | .noChoice _ _ => "enum"

/-- The wording of a breach. -/
def message : Breach → String
  | .wrongType types found =>
    found.render ++ " is not of type " ++ ", ".intercalate (types.map fun t => quoted t.name)
  | .missing name => quoted name ++ " is a required property"
  | .unexpected names =>
    "Additional properties are not allowed (" ++ ", ".intercalate (names.map Points.quoted) ++
      (if names.length = 1 then " was" else " were") ++ " unexpected)"
  | .empty => "'' should be non-empty"
  | .tooSmall least found =>
    found.render ++ " is less than the minimum of " ++ Nat.repr least
  | .noChoice texts found =>
    found.render ++ " is not one of [" ++ ", ".intercalate (texts.map quoted) ++ "]"

end Breach

/-- A breach and the names of the fields that lead to where it is. -/
structure Violation where
  path : List String
  breach : Breach

namespace Violation

/-- The wording of a violation. -/
def message (v : Violation) : String := v.breach.message

/-- The same violation, seen from the record in whose field `name` it is. -/
def within (name : String) (v : Violation) : Violation := { v with path := name :: v.path }

end Violation

namespace Shape

/-- The types that values of the shape have. -/
def types : Shape → List JsonType
  | .text _ | .choice _ => [.string]
  | .whole _ => [.integer]
  | .number nullable => if nullable then [.number, .null] else [.number]
  | .truth => [.boolean]
  | .record _ => [.object]

/-- The breach of the rule about the type. -/
def typeBreaches (types : List JsonType) (v : Value) : List Breach :=
  if types.any (·.holds v) then [] else [.wrongType types v]

/-- The number is less than `least`; what is no number is not. -/
def isBelow (least : Nat) : Value → Bool
  | .int n => n < least
  | .float x => x < Double.ofDecimal least 0
  | _ => false

/-- The value is one of the texts. -/
def isAmong (texts : List String) (v : Value) : Bool :=
  match v with
  | .text t => texts.any fun s => decide (t = .string s)
  | _ => false

/-- The names of fields that no shape is given for, in order. -/
def unexpectedNames (names : List String) (fields : Fields) : List Points :=
  ((fields.map (·.1)).filter fun k => !names.any fun n => decide (k = .string n)).mergeSort
    Points.le

/-- The breaches of the rules about which fields a record has. -/
def fieldBreaches (names : List String) (fields : Fields) : List Breach :=
  let missing : List String := names.filter fun n => (Value.get? fields (.string n)).isNone
  let unexpected := unexpectedNames names fields
  missing.map .missing ++ if unexpected.isEmpty then [] else [.unexpected unexpected]

/-- The breaches of a value as a whole, its fields apart. -/
def breaches (s : Shape) (v : Value) : List Breach :=
  typeBreaches s.types v ++
  match s, v with
  | .text true, .text (.string "") => [.empty]
  | .choice texts, v => if isAmong texts v then [] else [.noChoice texts v]
  | .whole least, v => if isBelow least v then [.tooSmall least v] else []
  | .record shapes, .record fields => fieldBreaches (shapes.map (·.1)) fields
  | _, _ => []

mutual

/-- All in which a value differs from a shape. -/
def violations : Shape → Value → List Violation
  | .record shapes, .record fields =>
    (breaches (.record shapes) (.record fields)).map (⟨[], ·⟩) ++ fieldViolations shapes fields
  | s, v => (breaches s v).map (⟨[], ·⟩)

/-- All in which the fields that are there differ from their shapes. -/
def fieldViolations : List (String × Shape) → Fields → List Violation
  | [], _ => []
  | (name, s) :: shapes, fields =>
    (match Value.get? fields name with
      | some v => (violations s v).map (Violation.within name)
      | none => []) ++ fieldViolations shapes fields

end

/-- The value is of the shape. -/
def accepts (s : Shape) (v : Value) : Bool := (violations s v).isEmpty

/-- The first violation, if there is one. -/
def firstViolation? (s : Shape) (v : Value) : Option Violation := (violations s v).head?

end Shape

end Quadrature
