/-
# Quadrature.Proofs.Contract -- every result keeps its contract

A record that has the fields of a shape, in their order and each of its own shape, is of that shape
(`Shape.accepts_record`). The record of a result is one: the area is null where it is no finite
number, the rule goes by one of the five names, and the numbers of partitions are above zero. So the
check before printing never fails, and what is printed as JSON keeps the contract when it is read
back, since it is read back as it was.

* `Result.accepts_toPayload`, `Result.firstViolation?_toPayload`: the check of a result before it is
  printed;
* `Result.portable_toPayload`: the record of a result is read back.
-/
import Quadrature.Contract.Document
import Quadrature.Proofs.Json.RoundTrip
import Quadrature.Result

namespace Quadrature

set_option autoImplicit false

open Quadrature.Text
open Quadrature.Number

/-- The value of a field of a record. -/
def Value.field? (v : Value) (name : String) : Option Value :=
  match v with
  | .record fields => get? fields name
  | _ => none

namespace Shape

variable {shapes : List (String × Shape)} {fields : Fields}

/-- The field has the name of the shape and is of it. -/
def Matches (s : String × Shape) (f : Points × Value) : Prop :=
  f.1 = .string s.1 ∧ accepts s.2 f.2 = true

theorem accepts_iff {s : Shape} {v : Value} : accepts s v = true ↔ violations s v = [] :=
  List.isEmpty_iff

theorem firstViolation?_eq_none {s : Shape} {v : Value} (kept : accepts s v = true) :
    firstViolation? s v = none := by
  rw [firstViolation?, accepts_iff.1 kept, List.head?_nil]

/-- Each shape finds the field of its name. -/
theorem exists_field (same : List.Forall₂ Matches shapes fields)
    (distinct : (shapes.map (·.1)).Nodup) : ∀ s ∈ shapes, ∃ v,
      Value.get? fields (.string s.1) = some v ∧ accepts s.2 v = true := by
  induction same with
  | nil => simp
  | @cons s f shapes fields first _ ih =>
      obtain ⟨name, kept⟩ := first
      obtain ⟨other, distinct⟩ := List.nodup_cons.1 distinct
      intro t member
      rcases List.mem_cons.1 member with rfl | later
      · exact ⟨f.2, by simp [Value.get?, name], kept⟩
      · obtain ⟨v, found, accepted⟩ := ih distinct t later
        have apart : f.1 ≠ .string t.1 := by
          rw [name]
          intro equal
          exact other (List.mem_map.2 ⟨t, later, (Points.string.inj equal).symm⟩)
        refine ⟨v, ?_, accepted⟩
        simpa [Value.get?, List.find?_cons, apart] using found

theorem fieldViolations_eq_nil (kept : ∀ s ∈ shapes, ∃ v,
    Value.get? fields (.string s.1) = some v ∧ accepts s.2 v = true) :
    fieldViolations shapes fields = [] := by
  induction shapes with
  | nil => rfl
  | cons s shapes ih =>
      obtain ⟨v, found, accepted⟩ := kept s (by simp)
      rw [fieldViolations, found, ih fun t member => kept t (List.mem_cons_of_mem _ member)]
      simp [accepts_iff.1 accepted]

theorem fieldBreaches_eq_nil (same : List.Forall₂ Matches shapes fields)
    (distinct : (shapes.map (·.1)).Nodup) : fieldBreaches (shapes.map (·.1)) fields = [] := by
  have present : (shapes.map (·.1)).filter
      (fun n => (Value.get? fields (.string n)).isNone) = [] := by
    apply List.filter_eq_nil_iff.2
    intro name member
    obtain ⟨s, inside, rfl⟩ := List.mem_map.1 member
    obtain ⟨v, found, -⟩ := exists_field same distinct s inside
    simp [found]
  have known : ∀ f ∈ fields, ∃ s ∈ shapes, f.1 = .string s.1 := by
    clear distinct present
    induction same with
    | nil => simp
    | @cons s f _ _ first _ ih =>
        intro g member
        rcases List.mem_cons.1 member with rfl | later
        · exact ⟨s, by simp, first.1⟩
        · obtain ⟨t, inside, name⟩ := ih g later
          exact ⟨t, List.mem_cons_of_mem _ inside, name⟩
  have expected : unexpectedNames (shapes.map (·.1)) fields = [] := by
    have none : (fields.map (·.1)).filter
        (fun k => !(shapes.map (·.1)).any fun n => decide (k = .string n)) = [] := by
      apply List.filter_eq_nil_iff.2
      intro k member
      obtain ⟨f, inside, rfl⟩ := List.mem_map.1 member
      obtain ⟨s, here, name⟩ := known f inside
      simp only [Bool.not_eq_true, Bool.not_eq_false', List.any_eq_true, decide_eq_true_eq]
      exact ⟨s.1, List.mem_map.2 ⟨s, here, rfl⟩, name⟩
    rw [unexpectedNames, none, List.mergeSort_nil]
  unfold fieldBreaches
  dsimp only
  rw [present, expected]
  rfl

/-- A record with the fields of a shape, in their order, is of the shape. -/
theorem accepts_record (same : List.Forall₂ Matches shapes fields)
    (distinct : (shapes.map (·.1)).Nodup) : accepts (.record shapes) (.record fields) = true := by
  rw [accepts_iff, violations, fieldViolations_eq_nil (exists_field same distinct)]
  simp [breaches, typeBreaches, types, JsonType.holds, fieldBreaches_eq_nil same distinct]

theorem accepts_text (t : Points) : accepts (.text false) (.text t) = true := rfl

theorem accepts_number (x : Float) (nullable : Bool) :
    accepts (.number nullable) (.float x) = true := by
  cases nullable <;> rfl

theorem accepts_null : accepts (.number true) .null = true := rfl

theorem accepts_truth (b : Bool) : accepts .truth (.bool b) = true := rfl

theorem accepts_whole {least n : Nat} (enough : least ≤ n) :
    accepts (.whole least) (.int n) = true := by
  simp [accepts, violations, breaches, typeBreaches, types, JsonType.holds, isBelow, enough]

theorem accepts_method (m : Method) :
    accepts Contract.methodShape (.text m.name) = true := by
  cases m <;> decide +kernel

end Shape

namespace Result

variable (r : Result)

theorem accepts_areaValue (x : Float) : Shape.accepts (.number true) (areaValue x) = true := by
  unfold areaValue
  split
  · exact Shape.accepts_number x true
  · exact Shape.accepts_null

/-- Every result keeps its contract. -/
theorem accepts_toPayload : Contract.result.accepts r.toPayload = true := by
  have bounds : Shape.accepts Contract.boundsShape r.bounds.toValue = true := by
    apply Shape.accepts_record
    · exact .cons ⟨rfl, Shape.accepts_number r.bounds.x0 false⟩
        (.cons ⟨rfl, Shape.accepts_number r.bounds.x1 false⟩ .nil)
    · decide
  apply Shape.accepts_record
  · exact .cons ⟨rfl, accepts_areaValue r.area⟩ <| .cons ⟨rfl, Shape.accepts_text _⟩ <|
      .cons ⟨rfl, Shape.accepts_text _⟩ <| .cons ⟨rfl, Shape.accepts_method _⟩ <|
      .cons ⟨rfl, Shape.accepts_whole r.partitionsRequested_pos⟩ <|
      .cons ⟨rfl, Shape.accepts_whole r.partitionsUsed_pos⟩ <| .cons ⟨rfl, bounds⟩ <|
      .cons ⟨rfl, Shape.accepts_truth _⟩ .nil
  · decide

/-- The area is null where it is no finite number. -/
theorem area_toPayload : r.toPayload.field? "area" = some (areaValue r.area) := rfl

/-- The check of a result before it is printed finds nothing. -/
theorem firstViolation?_toPayload : Contract.result.shape.firstViolation? r.toPayload = none :=
  Shape.firstViolation?_eq_none r.accepts_toPayload

/-- The record of a result can be written, if its texts are strings and its numbers of partitions
are not too long. -/
theorem portable_toPayload {expression normalized : String} (named : r.expression = .string expression)
    (written : r.normalizedExpression = .string normalized)
    (requested : r.partitionsRequested < Nat.pow 10 Whole.maxDigits)
    (used : r.partitionsUsed < Nat.pow 10 Whole.maxDigits) : Json.Portable r.toPayload := by
  have area : Json.Portable (areaValue r.area) := by
    unfold areaValue
    split
    case isTrue finite => exact finite
    case isFalse => trivial
  have bounds : Json.Portable r.bounds.toValue := by
    apply Json.portableFields_of
    · show ([.string "x0", .string "x1"] : List Points).Nodup
      decide
    · simpa [Json.Portable] using ⟨r.bounds.x0_finite, r.bounds.x1_finite⟩
  rw [toPayload, named, written]
  apply Json.portableFields_of
  · show ([.string "area", .string "expression", .string "normalized_expression", .string "method",
      .string "partitions_requested", .string "partitions_used", .string "bounds",
      .string "bounds_swapped"] : List Points).Nodup
    decide
  · simp only [List.forall_mem_cons, List.not_mem_nil, false_implies, implies_true, and_true]
    exact ⟨⟨⟨_, rfl⟩, area⟩, ⟨⟨_, rfl⟩, _, rfl⟩, ⟨⟨_, rfl⟩, _, rfl⟩, ⟨⟨_, rfl⟩, _, rfl⟩,
      ⟨⟨_, rfl⟩, requested⟩, ⟨⟨_, rfl⟩, used⟩, ⟨⟨_, rfl⟩, bounds⟩, ⟨_, rfl⟩, trivial⟩

end Result

end Quadrature
