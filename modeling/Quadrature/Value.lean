/-
# Quadrature.Value -- values whose type is known only when the program runs

A request can arrive as JSON, and a caller can hand over a value of the wrong type. `Value` is what
such an input can be; the checks in `Quadrature.Coercion` and `Quadrature.Rule.Integrate` decide
which values they take. `render` is how a message shows a value, `display` how it writes one into a
sentence: they differ on texts only, which `render` quotes.
-/
import Quadrature.Number.Numeral

namespace Quadrature

set_option autoImplicit false

open Quadrature.Text
open Quadrature.Number

/-- A value of any type. -/
inductive Value where
  | null
  | bool (b : Bool)
  | int (n : Int)
  | float (x : Float)
  | text (t : Points)
  | list (items : List Value)
  | record (fields : List (Points × Value))
deriving Inhabited

/-- The fields of a record in order. -/
abbrev Fields := List (Points × Value)

namespace Value

instance : Coe String Value := ⟨fun s => .text s⟩
instance : Coe Float Value := ⟨.float⟩

/-- The name of a value's type. -/
def typeName : Value → String
  | .null => "NoneType"
  | .bool _ => "bool"
  | .int _ => "int"
  | .float _ => "float"
  | .text _ => "str"
  | .list _ => "list"
  | .record _ => "dict"

/-- The name of a truth value. -/
def boolText (b : Bool) : String := if b then "True" else "False"

mutual

/-- The value as a message shows it. -/
def render : Value → String
  | .null => "None"
  | .bool b => boolText b
  | .int n => Whole.write n
  | .float x => floatText x
  | .text t => t.quoted
  | .list items => "[" ++ ", ".intercalate (renderItems items) ++ "]"
  | .record fields => "\x7b" ++ ", ".intercalate (renderFields fields) ++ "\x7d"

/-- The items of a list, each rendered. -/
def renderItems : List Value → List String
  | [] => []
  | v :: vs => render v :: renderItems vs

/-- The fields of a record, each rendered. -/
def renderFields : Fields → List String
  | [] => []
  | (k, v) :: fs => (k.quoted ++ ": " ++ render v) :: renderFields fs

end

/-- The value as it stands in a sentence. -/
def display : Value → String
  | .text (.string s) => s
  | v => v.render

/-- The value of the field `key`, which is the first of that name. -/
def get? (fields : Fields) (key : Points) : Option Value :=
  (fields.find? (·.1 = key)).map (·.2)

/-- The fields after `key` was given a value: a new key goes to the end, a known one keeps its
place. -/
def put (fields : Fields) (key : Points) (v : Value) : Fields :=
  match fields with
  | [] => [(key, v)]
  | (k, old) :: rest => if k = key then (k, v) :: rest else (k, old) :: put rest key v

end Value

end Quadrature
