/-
# Quadrature.Coercion.Checked -- checking the fields of a record

A check of a record goes through its fields in order and keeps the defects of all of them: `both`
fails if either part fails and then lists the defects of the first part before those of the second.
-/
import Quadrature.Coercion.Issue

namespace Quadrature

set_option autoImplicit false

/-- The outcome of a check: a value, or all the defects found. -/
abbrev Checked (α : Type) := Except (List Defect) α

namespace Checked

variable {α β : Type}

/-- Two checks, both of which are made whatever the other one finds. -/
def both (a : Checked α) (b : Checked β) : Checked (α × β) :=
  match a, b with
  | .ok x, .ok y => .ok (x, y)
  | .ok _, .error e => .error e
  | .error e, .ok _ => .error e
  | .error e, .error e' => .error (e ++ e')

/-- A check of a value by itself. -/
def value (read : Value → Except Issue α) (v : Value) : Checked α :=
  match read v with
  | .ok x => .ok x
  | .error issue => .error [⟨[], issue, v⟩]

/-- The check of a part of the record that stands in the field `name`. -/
def within (name : String) (c : Checked α) : Checked α :=
  c.mapError fun defects => defects.map fun d => { d with path := name :: d.path }

/-- The check of the field `name`, which has to be there. -/
def field (fields : Fields) (name : String) (check : Value → Checked α) :
    Checked α :=
  match Value.get? fields name with
  | some v => within name (check v)
  | none => .error [⟨[name], .missing, .record fields⟩]

/-- The check of the field `name`, which has a value of its own if it is left out. -/
def fieldOr (fields : Fields) (name : String) (absent : α)
    (check : Value → Checked α) : Checked α :=
  match Value.get? fields name with
  | some v => within name (check v)
  | none => .ok absent

/-- The check of a value that has to be a record of the kind `title`. -/
def record (title : String) (check : Fields → Checked α) (v : Value) :
    Checked α :=
  match v with
  | .record fields => check fields
  | v => .error [⟨[], .notRecord title, v⟩]

/-- The outcome of a check with the title of what was checked. -/
def report (title : String) (c : Checked α) : Except Report α :=
  c.mapError (⟨title, ·⟩)

end Checked

end Quadrature
