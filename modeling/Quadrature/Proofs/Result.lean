/-
# Quadrature.Proofs.Result -- results read back from their records

Each field of a result is written as a value that its check takes for what it was: names of rules are
read by name, numbers of partitions as whole numbers above zero, and bounds as a record of their own.
The area alone may be written as something else, null, which is no number. All other checks pass, so
the record is refused for this field and for nothing else.

* `Coercion.positive_int`, `Coercion.finite_float`, `Coercion.method_name`: fields as they are written;
* `Bounds.check_toValue`: bounds are read back from their record;
* `check_toPayload`: the check of a written result is that of its area;
* `ofValue_toPayload`: results are read back if their area is finite.
-/
import Quadrature.Proofs.Request
import Quadrature.Result

namespace Quadrature

set_option autoImplicit false

open Quadrature.Number

/-! ## Passed checks -/

namespace Checked

variable {α β γ : Type} {a : Checked α} {b : Checked β} {x : α} {y : β}

section

variable {fields : Fields} {name : String} {check : Value → Checked α} {v : Value}

theorem field_eq_ok (found : Value.get? fields (.string name) = some v) (passed : check v = .ok x) :
    field fields name check = .ok x :=
  (field_eq_ok_iff found).2 passed

theorem fieldOr_eq_ok {absent : α} (found : Value.get? fields (.string name) = some v)
    (passed : check v = .ok x) : fieldOr fields name absent check = .ok x := by
  rw [fieldOr, found]
  exact mapError_eq_ok_iff.2 passed

end

theorem both_eq_ok (passedA : a = .ok x) (passedB : b = .ok y) : a.both b = .ok (x, y) :=
  both_eq_ok_iff.2 ⟨passedA, passedB⟩

/-- A check beside one that passes finds what it finds alone. -/
theorem map_both_of_ok {f : α × β → γ} (passed : b = .ok y) :
    (a.both b).map f = a.map fun x => f (x, y) := by
  rw [passed]
  cases a <;> rfl

end Checked

/-! ## Fields -/

namespace Coercion

theorem method_name (m : Method) : method (.text m.name) = .ok m := method_eq_ok_iff.2 rfl

theorem positive_int (c : Count) : positive (.int c.value) = .ok c :=
  (positive_of_whole rfl).2 rfl

theorem finite_float (name : String) {x : Float} (finite : x.isFinite = true) :
    Coercion.finite name (.float x) = .ok ⟨x, finite⟩ :=
  (finite_of_number rfl).2 rfl

end Coercion

/-- Bounds are read back from their record. -/
theorem Bounds.check_toValue (b : Bounds) : check b.toValue = .ok b :=
  (check_eq_ok_iff rfl rfl).2
    ⟨Coercion.finite_float "x0" b.x0_finite, Coercion.finite_float "x1" b.x1_finite⟩

/-! ## Records -/

namespace Result

/-- The check of the area as it is written. -/
def checkArea (x : Float) : Checked Float :=
  Checked.within "area" (Checked.value Coercion.number (areaValue x))

theorem checkArea_eq (x : Float) : checkArea x =
    if x.isFinite then .ok x else .error [⟨["area"], .notNumber, .null⟩] := by
  unfold checkArea areaValue
  cases x.isFinite <;> rfl

/-- The check of a written result is that of its area: everything else is read back. -/
theorem check_toPayload (r : Result) :
    check r.toPayload = (checkArea r.area).map fun area => { r with area } := by
  have texts (t : Text.Points) : Checked.value Coercion.text (.text t) = .ok t := rfl
  have method := Checked.value_eq_ok_iff.2 (Coercion.method_name r.method)
  have counts (c : Coercion.Count) := Checked.value_eq_ok_iff.2 (Coercion.positive_int c)
  have swapped : Checked.value Coercion.truth (.bool r.boundsSwapped) = .ok r.boundsSwapped := rfl
  show ((checkArea r.area).both _).map _ = _
  exact Checked.map_both_of_ok <|
    Checked.both_eq_ok (Checked.field_eq_ok rfl (texts r.expression)) <|
    Checked.both_eq_ok (Checked.field_eq_ok rfl (texts r.normalizedExpression)) <|
    Checked.both_eq_ok (Checked.field_eq_ok rfl method) <|
    Checked.both_eq_ok (Checked.field_eq_ok rfl (counts ⟨_, r.partitionsRequested_pos⟩)) <|
    Checked.both_eq_ok (Checked.field_eq_ok rfl (counts ⟨_, r.partitionsUsed_pos⟩)) <|
    Checked.both_eq_ok (Checked.field_eq_ok rfl r.bounds.check_toValue) <|
    Checked.fieldOr_eq_ok rfl swapped

/-- **A result is read back from its record** if its area is finite; if not, the record is refused, and
the area is all that is wrong with it. -/
theorem ofValue_toPayload (r : Result) : ofValue r.toPayload =
    if r.area.isFinite then .ok r else .error ⟨title, [⟨["area"], .notNumber, .null⟩]⟩ := by
  rw [ofValue, check_toPayload, checkArea_eq]
  cases r.area.isFinite <;> rfl

end Result

end Quadrature
