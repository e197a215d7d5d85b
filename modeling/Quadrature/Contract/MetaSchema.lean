/-
# Quadrature.Contract.MetaSchema -- the forms of schema keywords

In a schema document every known keyword has a value of a form of its own; other keywords are free.
The keywords are those of JSON Schema draft 2020-12 with its older spellings. Forms are all that is
looked at here: whether a text is a regular expression, or a reference leads anywhere, is not.
-/
import Quadrature.Contract.Shape

namespace Quadrature.MetaSchema

set_option autoImplicit false

open Quadrature.Text
open Quadrature.Number

/-- The form of a keyword's value. -/
inductive Form where
  | anything
  | string
  /-- A reference without a fragment. -/
  | identifier
  /-- A name that references can point to. -/
  | anchor
  | boolean
  | number
  | positiveNumber
  /-- A whole number that is not negative. -/
  | count
  /-- The name of a type, or a list of some, each once. -/
  | types
  /-- A list of texts, each once. -/
  | texts
  | namedTexts
  | namedBooleans
  | list
  | schema
  /-- A list of at least one schema. -/
  | schemas
  | namedSchemas
  /-- Fields that are each a schema or a list of texts. -/
  | dependencies
deriving DecidableEq, Repr

/-- The keywords by the form of their values. -/
def keywords : List (Form × List String) := [
  (.string, ["$schema", "$ref", "$dynamicRef", "$comment", "$recursiveRef", "pattern", "title",
    "description", "format", "contentEncoding", "contentMediaType"]),
  (.identifier, ["$id"]),
  (.anchor, ["$anchor", "$dynamicAnchor", "$recursiveAnchor"]),
  (.boolean, ["uniqueItems", "deprecated", "readOnly", "writeOnly"]),
  (.number, ["maximum", "exclusiveMaximum", "minimum", "exclusiveMinimum"]),
  (.positiveNumber, ["multipleOf"]),
  (.count, ["maxLength", "minLength", "maxItems", "minItems", "maxContains", "minContains",
    "maxProperties", "minProperties"]),
  (.types, ["type"]),
  (.texts, ["required"]),
  (.namedTexts, ["dependentRequired"]),
  (.namedBooleans, ["$vocabulary"]),
  (.list, ["enum", "examples"]),
  (.schema, ["items", "contains", "additionalProperties", "propertyNames", "if", "then", "else",
    "not", "unevaluatedItems", "unevaluatedProperties", "contentSchema"]),
  (.schemas, ["prefixItems", "allOf", "anyOf", "oneOf"]),
  (.namedSchemas, ["$defs", "properties", "patternProperties", "dependentSchemas",
    "definitions"]),
  (.dependencies, ["dependencies"])]

/-- The form of the value of a keyword. -/
def formOf (keyword : Points) : Form :=
  match keywords.find? fun (_, names) => names.any fun n => decide (keyword = .string n) with
  | some (form, _) => form
  | none => .anything

/-! ## Values without schemas -/

/-- The value is a text. -/
def isText (v : Value) : Bool := JsonType.string.holds v

/-- The code points without one line feed at the end. -/
def dropFinalNewline (points : List Nat) : List Nat :=
  if points.getLast? = some '\n'.toNat then points.dropLast else points

/-- A number sign stands at the end if anywhere; one line feed may follow it. -/
def isIdentifier : Value → Bool
  | .text t => !(dropFinalNewline t.toPoints).dropLast.contains '#'.toNat
  | _ => false

/-- The code point is an ASCII letter or an underscore. -/
def startsAnchor (n : Nat) : Bool :=
  ('A'.toNat ≤ n && n ≤ 'Z'.toNat) || ('a'.toNat ≤ n && n ≤ 'z'.toNat) || n == '_'.toNat

/-- The code point can follow in an anchor. -/
def continuesAnchor (n : Nat) : Bool :=
  startsAnchor n || ('0'.toNat ≤ n && n ≤ '9'.toNat) || n == '-'.toNat || n == '.'.toNat

/-- A letter or underscore, then letters, digits, hyphens, points and underscores; one line feed
may follow. -/
def isAnchor : Value → Bool
  | .text t => match dropFinalNewline t.toPoints with
    | n :: ns => startsAnchor n && ns.all continuesAnchor
    | [] => false
  | _ => false

/-- The number is above zero, or no number to compare with. -/
def isPositive : Value → Bool
  | .int n => 0 < n
  | .float x => !(x ≤ 0)
  | _ => false

/-- The names of the types. -/
def typeNames : List String :=
  ["array", "boolean", "integer", "null", "number", "object", "string"]

/-- The value is the name of a type. -/
def isTypeName (v : Value) : Bool := Shape.isAmong typeNames v

/-- The texts of a list; `none` if one of its items is no text. -/
def texts? : List Value → Option (List Points)
  | [] => some []
  | .text t :: vs => (texts? vs).map (t :: ·)
  | _ => none

/-- A list of texts, each once. -/
def isTexts : Value → Bool
  | .list vs => match texts? vs with
    | some ts => decide ts.Nodup
    | none => false
  | _ => false

/-- The name of a type, or a list of some, each once. -/
def isTypes : Value → Bool
  | .list vs => !vs.isEmpty && vs.all isTypeName && isTexts (.list vs)
  | v => isTypeName v

/-- A record whose fields all have values that `p` holds of. -/
def isRecordOf (p : Value → Bool) : Value → Bool
  | .record fields => fields.all fun field => p field.2
  | _ => false

/-- The value has a form that involves no schema. -/
def hasPlainForm (form : Form) (v : Value) : Bool :=
  match form with
  | .string => isText v
  | .identifier => isIdentifier v
  | .anchor => isAnchor v
  | .boolean => JsonType.boolean.holds v
  | .number => JsonType.number.holds v
  | .positiveNumber => isPositive v
  | .count => JsonType.integer.holds v && !Shape.isBelow 0 v
  | .types => isTypes v
  | .texts => isTexts v
  | .namedTexts => isRecordOf isTexts v
  | .namedBooleans => isRecordOf JsonType.boolean.holds v
  | .list => match v with
    | .list _ => true
    | _ => false
  | .anything | .schema | .schemas | .namedSchemas | .dependencies => true

/-! ## Schemas -/

mutual

/-- The value is a truth value, or a record in which every keyword has a value of its form. -/
def hasForms : Value → Bool
  | .bool _ => true
  | .record fields => areKeywords fields
  | _ => false

/-- Every keyword has a value of its form. -/
def areKeywords : Fields → Bool
  | [] => true
  | (keyword, v) :: fields =>
    (match formOf keyword with
      | .schema => hasForms v
      | .schemas => isSchemaList v
      | .namedSchemas => isSchemaRecord v
      | .dependencies => isDependencyRecord v
      | form => hasPlainForm form v) && areKeywords fields

/-- A list of at least one schema. -/
def isSchemaList : Value → Bool
  | .list vs => !vs.isEmpty && areSchemas vs
  | _ => false

/-- All values are schemas. -/
def areSchemas : List Value → Bool
  | [] => true
  | v :: vs => hasForms v && areSchemas vs

/-- A record whose fields are schemas. -/
def isSchemaRecord : Value → Bool
  | .record fields => areNamedSchemas fields
  | _ => false

/-- All fields are schemas. -/
def areNamedSchemas : Fields → Bool
  | [] => true
  | (_, v) :: fields => hasForms v && areNamedSchemas fields

/-- A record whose fields are each a schema or a list of texts. -/
def isDependencyRecord : Value → Bool
  | .record fields => areDependencies fields
  | _ => false

/-- All fields are each a schema or a list of texts. -/
def areDependencies : Fields → Bool
  | [] => true
  | (_, v) :: fields => (hasForms v || isTexts v) && areDependencies fields

end

end Quadrature.MetaSchema
