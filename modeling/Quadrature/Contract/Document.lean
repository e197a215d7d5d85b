/-
# Quadrature.Contract.Document -- the two contracts as schema documents

A contract is a shape with a title and remarks. The shape of a request and that of a result are
given here, and `Contract.document` writes a contract as a JSON Schema document.
-/
import Quadrature.Contract.Shape
import Quadrature.Rule.Method

namespace Quadrature

set_option autoImplicit false

/-- A shape with what its document says beside it. -/
structure Contract where
  /-- The name under which the document is found. -/
  name : String
  title : String
  description : String
  fields : List (String × Shape)
  /-- What the document says about single fields. -/
  remarks : List (String × String)

namespace Contract

/-- The shape of a domain. -/
def boundsShape : Shape := .record [("x0", .number false), ("x1", .number false)]

/-- The shape of the name of a rule. -/
def methodShape : Shape := .choice (Method.all.map Method.name)

/-- The contract of a request. -/
def request : Contract where
  name := "integration_request"
  title := "IntegrationRequest"
  description := "Definite integral request: single-variable expression, partition count, " ++
    "domain and quadrature rule."
  fields := [("expression", .text true), ("partitions", .whole 1), ("bounds", boundsShape),
    ("method", methodShape)]
  remarks := [("expression", "Expression in the free variable, e.g. \"x^2 + 1\"")]

/-- The contract of a result. -/
def result : Contract where
  name := "integration_result"
  title := "IntegrationResult"
  description := "Approximate definite integral and the context it was computed in."
  fields := [("area", .number true), ("expression", .text false),
    ("normalized_expression", .text false), ("method", methodShape),
    ("partitions_requested", .whole 1), ("partitions_used", .whole 1), ("bounds", boundsShape),
    ("bounds_swapped", .truth)]
  remarks := [("area", "null when the quadrature sum is NaN or infinite")]

/-- The contracts that are always at hand. -/
def all : List Contract := [request, result]

/-- The shape of the values that keep the contract. -/
def shape (c : Contract) : Shape := .record c.fields

/-! ## Documents -/

/-- A list of texts. -/
def textList (texts : List String) : Value := .list (texts.map fun s => .text (.string s))

/-- The rule about the type: one name, or a list of several. -/
def typeRule : List JsonType → Value
  | [t] => .text t.name
  | ts => textList (ts.map JsonType.name)

/-- The document of a field, with its remark. -/
def addRemark (remarks : List (String × String)) (name : String) (document : Value) : Value :=
  match document, remarks.find? (·.1 = name) with
  | .record rules, some (_, remark) => .record (rules ++ [(.string "description", .text (.string remark))])
  | document, _ => document

mutual

/-- The rules that a shape states. -/
def rules (s : Shape) : Fields :=
  ("type", typeRule s.types) :: match s with
  | .text true => [("minLength", .int 1)]
  | .choice texts => [("enum", textList texts)]
  | .whole least => [("minimum", .int least)]
  | .record fields =>
    [("required", textList (fields.map (·.1))), ("additionalProperties", .bool false),
      ("properties", .record (fieldRules fields))]
  | _ => []

/-- The rules of the fields of a record. -/
def fieldRules : List (String × Shape) → Fields
  | [] => []
  | (name, s) :: fields => (.string name, .record (rules s)) :: fieldRules fields

end

/-- The schema document of a contract. -/
def document (c : Contract) : Value :=
  let remarked : Text.Points × Value → Text.Points × Value
    | (.string name, d) => (.string name, addRemark c.remarks name d)
    | field => field
  .record ([("$schema", .text "https://json-schema.org/draft/2020-12/schema"),
    ("$id", .text (c.name ++ ".json")), ("title", .text c.title),
    ("description", .text c.description), ("type", typeRule [.object]),
    ("required", textList (c.fields.map (·.1))), ("additionalProperties", .bool false),
    ("properties", .record ((fieldRules c.fields).map remarked))])

/-- The value keeps the contract. -/
def accepts (c : Contract) (v : Value) : Bool := c.shape.accepts v

/-- Everything in which the value breaks the contract. -/
def violations (c : Contract) (v : Value) : List Violation := c.shape.violations v

end Contract

end Quadrature
