/-
# Quadrature.Proofs.Request -- what the checks of a request let pass

A record passes its checks if all its fields pass theirs. For each check it is said what passes and what
it makes of it, so that a request that is made holds what was asked for.

* `Checked.both_eq_ok_iff`, `Checked.field_eq_ok_iff` and so on: how checks are put together;
* `Coercion.expression_eq_ok_iff`, `Coercion.method_eq_ok_iff`, `Coercion.positive_of_whole`,
  `Coercion.finite_of_number`: the checks of the fields;
* `Request.ofValue_eq_ok_iff`, `Request.ofParts_eq_ok_iff`: requests from records and from parts.
-/
import Mathlib.Order.Basic
import Quadrature.Request

namespace Quadrature

set_option autoImplicit false

open Quadrature.Text
open Quadrature.Number

/-! ## Passed checks -/

namespace Checked

variable {α β : Type}

theorem both_eq_ok_iff {a : Checked α} {b : Checked β} {p : α × β} :
    a.both b = .ok p ↔ a = .ok p.1 ∧ b = .ok p.2 := by
  obtain ⟨x, y⟩ := p
  cases a <;> cases b <;> simp [both]

theorem map_eq_ok_iff {a : Checked α} {f : α → β} {y : β} :
    a.map f = .ok y ↔ ∃ x, a = .ok x ∧ f x = y := by
  cases a <;> simp [Except.map]

theorem mapError_eq_ok_iff {ε δ : Type} {a : Except ε α} {f : ε → δ} {x : α} :
    a.mapError f = .ok x ↔ a = .ok x := by
  cases a <;> simp [Except.mapError]

theorem value_eq_ok_iff {read : Value → Except Issue α} {v : Value} {x : α} :
    value read v = .ok x ↔ read v = .ok x := by
  unfold value
  cases read v <;> simp

/-- The check of a field that is there. -/
theorem field_eq_ok_iff {fields : Fields} {name : String} {check : Value → Checked α} {v : Value}
    (found : Value.get? fields (.string name) = some v) {x : α} :
    field fields name check = .ok x ↔ check v = .ok x := by
  rw [field, found]
  exact mapError_eq_ok_iff

end Checked

/-! ## Fields -/

theorem Method.name_injective {a b : Method} (same : a.name = b.name) : a = b := by
  apply Option.some.inj
  rw [← ofName?_name a, same, ofName?_name]

namespace Coercion

theorem method_eq_ok_iff {s : String} {m : Method} :
    method (.text (.string s)) = .ok m ↔ s = m.name := by
  have passed : method (.text (.string s)) = .ok m ↔ Method.ofName? s = some m := by
    rw [method]
    cases Method.ofName? s <;> simp
  rw [passed]
  constructor
  · intro known
    have named : m.name = s := by simpa using List.find?_some known
    exact named.symm
  · rintro rfl
    exact Method.ofName?_name m

/-- An expression passes unless it is blank. -/
theorem expression_eq_ok_iff {s : String} {e : { s : String // isInked s }} :
    expression (.text (.string s)) = .ok e ↔ e.1 = s := by
  have outcome : expression (.text (.string s)) =
      if s.isEmpty then .error .emptyText
      else if h : isInked s then .ok ⟨s, h⟩ else .error .blankExpression := by
    unfold expression
    split <;> simp_all [string, bind, Except.bind, pure, Except.pure, throw, throwThe,
      MonadExceptOf.throw]
  rw [outcome]
  split
  case isTrue empty =>
    obtain rfl : s = "" := by simpa using empty
    refine iff_of_false (by simp) ?_
    intro same
    have inked := e.2
    rw [same] at inked
    cases inked
  case isFalse =>
    split
    case isTrue inked =>
      rw [Except.ok.injEq, Subtype.ext_iff]
      exact eq_comm
    case isFalse blank =>
      refine iff_of_false (by simp) ?_
      rintro rfl
      exact blank e.2

theorem finite_of_number {name : String} {v : Value} {y : Float} (known : number v = .ok y)
    {x : { x : Float // x.isFinite }} : finite name v = .ok x ↔ x.1 = y := by
  unfold finite
  rw [known]
  simp only [bind, Except.bind, pure, Except.pure]
  split
  case isTrue finite =>
    rw [Except.ok.injEq, Subtype.ext_iff]
    exact eq_comm
  case isFalse infinite =>
    refine iff_of_false (by simp [throw, throwThe, MonadExceptOf.throw]) ?_
    rintro rfl
    exact infinite x.2

theorem positive_of_whole {v : Value} {n : Int} (known : whole v = .ok n) {c : Count} :
    positive v = .ok c ↔ n = c.value := by
  obtain ⟨k, some⟩ := c
  unfold positive
  rw [known]
  simp only [bind, Except.bind, pure, Except.pure]
  split
  case isTrue =>
    simp only [Except.ok.injEq, Count.mk.injEq]
    omega
  case isFalse =>
    refine iff_of_false (by simp [throw, throwThe, MonadExceptOf.throw]) ?_
    omega

theorem wholeOfFloat_eq {x : Float} {n : Int} (known : Double.toInt? x = some n) :
    wholeOfFloat x = if n.natAbs < wordLimit then .ok n else .error .wholeTooLarge := by
  have finite : x.isFinite = true := by
    by_contra infinite
    simp [Double.toInt?, infinite] at known
  simp [wholeOfFloat, finite, known]

end Coercion

/-! ## Records -/

/-- The record of two numbers passes if both of them do. -/
theorem Bounds.check_eq_ok_iff {fields : Fields} {v0 v1 : Value}
    (found0 : Value.get? fields "x0" = some v0) (found1 : Value.get? fields "x1" = some v1)
    {b : Bounds} : check (.record fields) = .ok b ↔
      Coercion.finite "x0" v0 = .ok ⟨b.x0, b.x0_finite⟩ ∧
        Coercion.finite "x1" v1 = .ok ⟨b.x1, b.x1_finite⟩ := by
  simp only [check, Checked.record, Checked.map_eq_ok_iff, Checked.both_eq_ok_iff,
    Checked.field_eq_ok_iff found0, Checked.field_eq_ok_iff found1, Checked.value_eq_ok_iff]
  constructor
  · rintro ⟨⟨y0, y1⟩, ⟨passed0, passed1⟩, rfl⟩
    exact ⟨passed0, passed1⟩
  · rintro ⟨passed0, passed1⟩
    exact ⟨⟨_, _⟩, ⟨passed0, passed1⟩, rfl⟩

namespace Request

variable {r : Request}

theorem ofValue_eq_ok_iff {fields : Fields} {e p b m : Value}
    (expression : Value.get? fields "expression" = some e)
    (partitions : Value.get? fields "partitions" = some p)
    (bounds : Value.get? fields "bounds" = some b) (method : Value.get? fields "method" = some m) :
    ofValue (.record fields) = .ok r ↔
      Coercion.expression e = .ok ⟨r.expression, r.expression_inked⟩ ∧
        Coercion.positive p = .ok ⟨r.partitions, r.partitions_pos⟩ ∧
        Bounds.check b = .ok r.bounds ∧ Coercion.method m = .ok r.method := by
  simp only [ofValue, Checked.report, Checked.mapError_eq_ok_iff, check, Checked.record, build,
    Checked.map_eq_ok_iff, Checked.both_eq_ok_iff, Checked.field_eq_ok_iff expression,
    Checked.field_eq_ok_iff partitions, Checked.field_eq_ok_iff bounds,
    Checked.field_eq_ok_iff method, Checked.value_eq_ok_iff]
  constructor
  · rintro ⟨⟨e', n, b', m'⟩, ⟨passedE, passedP, passedB, passedM⟩, rfl⟩
    exact ⟨passedE, passedP, passedB, passedM⟩
  · rintro ⟨passedE, passedP, passedB, passedM⟩
    exact ⟨⟨_, _, _, _⟩, ⟨passedE, passedP, passedB, passedM⟩, rfl⟩

theorem ofParts_eq_ok_iff {expression : String} {n : Int} {bounds : Bounds} {method : Method} :
    ofParts expression (.int n) bounds method.name = .ok r ↔
      r.expression = expression ∧ n = r.partitions ∧ r.bounds = bounds ∧ r.method = method := by
  simp only [ofParts, Checked.report, Checked.mapError_eq_ok_iff, build, Checked.within,
    Checked.map_eq_ok_iff, Checked.both_eq_ok_iff, Checked.value_eq_ok_iff,
    Coercion.expression_eq_ok_iff, Coercion.method_eq_ok_iff,
    Coercion.positive_of_whole (rfl : Coercion.whole (.int n) = .ok n), Except.ok.injEq]
  constructor
  · rintro ⟨⟨e, k, b, m⟩, ⟨passedE, passedP, passedB, passedM⟩, rfl⟩
    exact ⟨passedE, passedP, passedB.symm, (Method.name_injective passedM).symm⟩
  · rintro ⟨passedE, passedP, passedB, passedM⟩
    exact ⟨⟨⟨r.expression, r.expression_inked⟩, ⟨r.partitions, r.partitions_pos⟩, r.bounds, r.method⟩,
      ⟨passedE, passedP, passedB.symm, congrArg Method.name passedM.symm⟩, rfl⟩

/-- Parts of which the expression is not blank and the number is positive make a request. -/
theorem exists_ofParts {expression : String} {n : Int} (bounds : Bounds) (method : Method)
    (inked : isInked expression = true) (positive : 0 < n) :
    ∃ r, ofParts expression (.int n) bounds method.name = .ok r :=
  ⟨⟨expression, n.toNat, bounds, method, inked, by omega⟩,
    ofParts_eq_ok_iff.2 ⟨rfl, (Int.toNat_of_nonneg (by omega)).symm, rfl, rfl⟩⟩

end Request

end Quadrature
