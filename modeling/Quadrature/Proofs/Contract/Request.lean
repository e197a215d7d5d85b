/-
# Quadrature.Proofs.Contract.Request -- what keeps the contract of a request and is no request

The contract of a request and its checks are two readings of one value. The contract tells the types
of JSON values apart and leaves their ranges open; the checks convert numbers and refuse what cannot
be computed with. Where the contract is kept four things are left that the checks refuse: an
expression of blanks, a bound that is no finite double, and a number of partitions that is written as
a double beyond the machine words.

* `Shape.exists_fields`, `Shape.accepts_text_iff` and so on: what a kept shape says of a value;
* `Coercion.finite_eq_ok_iff`, `Coercion.positive_eq_ok_iff`: which numbers the checks let pass;
* `Request.ofValue_agrees`: the two together.
-/
import Quadrature.Proofs.Contract
import Quadrature.Proofs.Number.Range
import Quadrature.Proofs.Request

namespace Quadrature

set_option autoImplicit false

open Quadrature.Text
open Quadrature.Number

/-! ## Kept shapes -/

namespace Shape

variable {v : Value}

theorem typeBreaches_eq_nil_iff {types : List JsonType} :
    typeBreaches types v = [] ↔ types.any (·.holds v) = true := by
  unfold typeBreaches
  split <;> simp_all

/-- A value that is of a shape without fields breaks no rule. -/
theorem accepts_iff_breaches {s : Shape} (flat : ∀ shapes, s ≠ .record shapes) :
    accepts s v = true ↔ breaches s v = [] := by
  rw [accepts_iff, violations, List.map_eq_nil_iff]
  rintro shapes fields rfl
  exact absurd rfl (flat shapes)

theorem accepts_of_fieldViolations {fields : Fields} {shapes : List (String × Shape)}
    (none : fieldViolations shapes fields = []) : ∀ s ∈ shapes, ∀ w,
      Value.get? fields (.string s.1) = some w → accepts s.2 w = true := by
  induction shapes with
  | nil => simp
  | cons first shapes ih =>
      rw [fieldViolations, List.append_eq_nil_iff] at none
      intro s member w found
      rcases List.mem_cons.1 member with rfl | later
      · rw [found] at none
        exact accepts_iff.2 (List.map_eq_nil_iff.1 none.1)
      · exact ih none.2 s later w found

/-- In a value that is of the shape of a record every field is there and of its own shape. -/
theorem exists_fields {shapes : List (String × Shape)} (kept : accepts (.record shapes) v = true) :
    ∃ fields, v = .record fields ∧
      ∀ s ∈ shapes, ∃ w, Value.get? fields (.string s.1) = some w ∧ accepts s.2 w = true := by
  rw [accepts_iff] at kept
  cases v with
  | record fields =>
      rw [violations, List.append_eq_nil_iff, List.map_eq_nil_iff, breaches,
        List.append_eq_nil_iff] at kept
      obtain ⟨⟨-, complete⟩, none⟩ := kept
      have absent := (List.append_eq_nil_iff.1 complete).1
      rw [List.map_eq_nil_iff, List.filter_eq_nil_iff] at absent
      refine ⟨fields, rfl, fun s member => ?_⟩
      have present := absent s.1 (List.mem_map.2 ⟨s, member, rfl⟩)
      cases found : Value.get? fields (.string s.1) with
      | none => rw [found] at present; exact absurd rfl present
      | some w => exact ⟨w, rfl, accepts_of_fieldViolations none s member w found⟩
  | null | bool | int | float | text | list => cases kept

theorem accepts_text_iff : accepts (.text true) v = true ↔
    ∃ t, v = .text t ∧ t ≠ .string "" := by
  rw [accepts_iff_breaches (by simp)]
  cases v with
  | text t =>
      by_cases empty : t = .string ""
      · subst empty
        simp [breaches]
      · simp [breaches, typeBreaches_eq_nil_iff, types, JsonType.holds, empty]
  | null | bool | int | float | list | record =>
      simp [breaches, typeBreaches, types, JsonType.holds]

theorem accepts_choice_iff {texts : List String} : accepts (.choice texts) v = true ↔
    ∃ s ∈ texts, v = .text (.string s) := by
  rw [accepts_iff_breaches (by simp)]
  cases v with
  | text t => simp [breaches, typeBreaches_eq_nil_iff, types, JsonType.holds, isAmong]
  | null | bool | int | float | list | record =>
      simp [breaches, typeBreaches, types, JsonType.holds]

theorem accepts_whole_iff {least : Nat} : accepts (.whole least) v = true ↔
    JsonType.integer.holds v = true ∧ isBelow least v = false := by
  rw [accepts_iff_breaches (by simp)]
  simp [breaches, typeBreaches_eq_nil_iff, types]

theorem accepts_number_iff : accepts (.number false) v = true ↔
    JsonType.number.holds v = true := by
  rw [accepts_iff_breaches (by simp)]
  simp [breaches, typeBreaches_eq_nil_iff, types]

end Shape

/-! ## Numbers -/

namespace Value

/-- The number is no finite double and none is near it. -/
def Unbounded : Value → Prop
  | .int n => 2 ^ 1024 - 2 ^ 970 ≤ n.natAbs
  | .float x => x.isNaN = true ∨ x.isInf = true
  | _ => False

/-- The number is written as a double and is no signed machine word. -/
def BeyondWords : Value → Prop
  | .float x => ∃ n, Double.toInt? x = some n ∧ ¬ (-2 ^ 63 ≤ n ∧ n < 2 ^ 63)
  | _ => False

/-- The value is the whole number `n`, however it is written. -/
def IsWhole (v : Value) (n : Int) : Prop :=
  v = .int n ∨ ∃ x, v = .float x ∧ Double.toInt? x = some n

end Value

namespace Coercion

/-- A number that is not unbounded has a finite double. -/
theorem exists_finite {v : Value} (number : JsonType.number.holds v = true)
    (range : ¬ v.Unbounded) : ∃ x, x.isFinite = true ∧ v.toFloat = .ok x := by
  cases v with
  | int n =>
      have some : Double.ofInt? n ≠ none := mt (Double.ofInt?_eq_none_iff n).1 range
      obtain ⟨x, known⟩ := Option.ne_none_iff_exists'.1 some
      refine ⟨x, Double.isFinite_ofInt? known, ?_⟩
      rw [Value.toFloat, floatOfInt, known]
  | float x =>
      refine ⟨x, ?_, rfl⟩
      by_contra infinite
      rcases isNaN_or_isInf (Bool.eq_false_iff.2 infinite) with nan | ⟨-, inf⟩
      · exact range (.inl nan)
      · exact range (.inr inf)
  | null | bool | text | list | record => cases number

/-- A number passes unless it is unbounded. -/
theorem finite_eq_ok_iff {name : String} {v : Value} (number : JsonType.number.holds v = true)
    {x : { x : Float // x.isFinite }} :
    finite name v = .ok x ↔ ¬ v.Unbounded ∧ v.toFloat = .ok x.1 := by
  cases v with
  | int n =>
      show _ ↔ ¬ 2 ^ 1024 - 2 ^ 970 ≤ n.natAbs ∧ floatOfInt n = .ok x.1
      rw [← Double.ofInt?_eq_none_iff, floatOfInt]
      cases known : Double.ofInt? n with
      | none =>
          simp [finite, Coercion.number, known, bind, Except.bind]
      | some y =>
          have converted : Coercion.number (.int n) = .ok y := by rw [Coercion.number, known]
          rw [finite_of_number converted]
          simp [eq_comm]
  | float y =>
      show _ ↔ ¬ (y.isNaN = true ∨ y.isInf = true) ∧ Except.ok y = .ok x.1
      rw [finite_of_number (rfl : Coercion.number (.float y) = .ok y)]
      constructor
      · intro same
        have finite : y.isFinite = true := same ▸ x.2
        rw [isNaN_of_isFinite finite, isInf_of_isFinite finite, same]
        exact ⟨by decide, rfl⟩
      · rintro ⟨-, same⟩
        exact (Except.ok.inj same).symm
  | null | bool | text | list | record => cases number

/-- A value that is of the shape of a number of things is one. -/
theorem exists_whole {v : Value} (kept : Shape.accepts (.whole 1) v = true) :
    ∃ n : Nat, 0 < n ∧ v.IsWhole n := by
  obtain ⟨whole, enough⟩ := Shape.accepts_whole_iff.1 kept
  cases v with
  | int n =>
      have least : ¬ n < 1 := by simpa [Shape.isBelow] using enough
      exact ⟨n.toNat, by omega, .inl (by rw [Int.toNat_of_nonneg (by omega)])⟩
  | float x =>
      obtain ⟨n, known⟩ := Option.isSome_iff_exists.1 whole
      have pos : 0 < n := Double.toInt?_pos known (by simpa [Shape.isBelow] using enough)
      exact ⟨n.toNat, by omega, .inr ⟨x, rfl, by rw [known, Int.toNat_of_nonneg (by omega)]⟩⟩
  | null | bool | text | list | record => cases whole

/-- A number of things passes unless it is beyond the machine words. -/
theorem positive_eq_ok_iff {v : Value} (kept : Shape.accepts (.whole 1) v = true) {c : Count} :
    positive v = .ok c ↔ ¬ v.BeyondWords ∧ v.IsWhole c.value := by
  obtain ⟨n, pos, rfl | ⟨x, rfl, known⟩⟩ := exists_whole kept
  · rw [positive_of_whole (rfl : whole (.int n) = .ok (n : Int))]
    simp [Value.BeyondWords, Value.IsWhole]
  · have word : (.float x : Value).BeyondWords ↔ ¬ (n : Int).natAbs < wordLimit := by
      simp only [Value.BeyondWords, known, Option.some.injEq, exists_eq_left', wordLimit]
      omega
    have same : (.float x : Value).IsWhole c.value ↔ (n : Int) = c.value := by
      simp [Value.IsWhole, known]
    rw [word, same, not_not]
    by_cases short : (n : Int).natAbs < wordLimit
    · have converted : whole (.float x) = .ok (n : Int) := by
        rw [whole, wholeOfFloat_eq known, if_pos short]
      rw [positive_of_whole converted]
      simp only [short, true_and]
    · have refused : whole (.float x) = .error .wholeTooLarge := by
        rw [whole, wholeOfFloat_eq known, if_neg short]
      refine iff_of_false ?_ fun passed => short passed.1
      simp [positive, refused, bind, Except.bind]

end Coercion

/-! ## Requests -/

namespace Request

/-- What a value says that keeps the contract of a request. -/
structure Parts where
  expression : String
  partitions : Value
  x0 : Value
  x1 : Value
  method : Method

namespace Parts

/-- The value says so in the fields of a request. -/
structure In (p : Parts) (v : Value) : Prop where
  expression : v.field? "expression" = some (.text p.expression)
  partitions : v.field? "partitions" = some p.partitions
  bounds : ∃ b, v.field? "bounds" = some b ∧ b.field? "x0" = some p.x0 ∧ b.field? "x1" = some p.x1
  method : v.field? "method" = some (.text p.method.name)

/-- The contract allows what it says and the checks do not. -/
def Refused (p : Parts) : Prop :=
  isInked p.expression = false ∨ p.x0.Unbounded ∨ p.x1.Unbounded ∨ p.partitions.BeyondWords

/-- The request asks for what the parts say. -/
structure Gives (p : Parts) (r : Request) : Prop where
  expression : r.expression = p.expression
  partitions : p.partitions.IsWhole r.partitions
  x0 : p.x0.toFloat = .ok r.bounds.x0
  x1 : p.x1.toFloat = .ok r.bounds.x1
  method : r.method = p.method

end Parts

/-- What is known of the parts of a value that keeps the contract. -/
structure Parts.Kept (p : Parts) : Prop where
  partitions : Shape.accepts (.whole 1) p.partitions = true
  x0 : JsonType.number.holds p.x0 = true
  x1 : JsonType.number.holds p.x1 = true

theorem exists_parts {v : Value} (kept : Contract.request.accepts v = true)
    (unbroken : ∀ t, v.field? "expression" = some (.text t) → ∃ s, t = .string s) :
    ∃ p : Parts, p.In v ∧ p.Kept := by
  obtain ⟨fields, rfl, there⟩ := Shape.exists_fields kept
  obtain ⟨e, expression, keptE⟩ := there ("expression", .text true) (by simp [Contract.request])
  obtain ⟨p, partitions, keptP⟩ := there ("partitions", .whole 1) (by simp [Contract.request])
  obtain ⟨b, bounds, keptB⟩ := there ("bounds", Contract.boundsShape) (by simp [Contract.request])
  obtain ⟨m, method, keptM⟩ := there ("method", Contract.methodShape) (by simp [Contract.request])
  obtain ⟨inner, rfl, ends⟩ := Shape.exists_fields keptB
  obtain ⟨x0, found0, kept0⟩ := ends ("x0", .number false) (by simp)
  obtain ⟨x1, found1, kept1⟩ := ends ("x1", .number false) (by simp)
  obtain ⟨t, rfl, -⟩ := Shape.accepts_text_iff.1 keptE
  obtain ⟨s, rfl⟩ := unbroken t expression
  obtain ⟨name, member, rfl⟩ := Shape.accepts_choice_iff.1 keptM
  obtain ⟨k, -, rfl⟩ := List.mem_map.1 member
  exact ⟨⟨s, p, x0, x1, k⟩, ⟨expression, partitions, ⟨_, bounds, found0, found1⟩, method⟩,
    ⟨keptP, Shape.accepts_number_iff.1 kept0, Shape.accepts_number_iff.1 kept1⟩⟩

namespace Parts

variable {p : Parts}

/-- The checks pass the requests for what the parts say, unless something in them is refused. -/
theorem In.ofValue_eq_ok_iff {v : Value} (inside : p.In v) (kept : p.Kept) {r : Request} :
    ofValue v = .ok r ↔ ¬ p.Refused ∧ p.Gives r := by
  obtain ⟨expression, partitions, ⟨b, bounds, found0, found1⟩, method⟩ := inside
  cases v with
  | record fields =>
      cases b with
      | record ends =>
          rw [Request.ofValue_eq_ok_iff expression partitions bounds method,
            Coercion.expression_eq_ok_iff, Coercion.positive_eq_ok_iff kept.partitions,
            Bounds.check_eq_ok_iff found0 found1, Coercion.finite_eq_ok_iff kept.x0,
            Coercion.finite_eq_ok_iff kept.x1, Coercion.method_eq_ok_iff]
          constructor
          · rintro ⟨e, ⟨word, n⟩, ⟨⟨range0, y0⟩, range1, y1⟩, m⟩
            refine ⟨?_, ⟨e, n, y0, y1, Method.name_injective m.symm⟩⟩
            rintro (blank | unbounded | unbounded | beyond)
            · rw [← e, r.expression_inked] at blank
              cases blank
            · exact range0 unbounded
            · exact range1 unbounded
            · exact word beyond
          · rintro ⟨passed, e, n, y0, y1, m⟩
            simp only [Refused, not_or] at passed
            obtain ⟨-, range0, range1, word⟩ := passed
            exact ⟨e, ⟨word, n⟩, ⟨⟨range0, y0⟩, range1, y1⟩, congrArg Method.name m.symm⟩
      | null | bool | int | float | text | list => cases found0
  | null | bool | int | float | text | list => cases partitions

theorem Kept.exists_gives (kept : p.Kept) (passed : ¬ p.Refused) : ∃ r, p.Gives r := by
  simp only [Refused, not_or] at passed
  obtain ⟨inked, range0, range1, word⟩ := passed
  obtain ⟨y0, finite0, converted0⟩ := Coercion.exists_finite kept.x0 range0
  obtain ⟨y1, finite1, converted1⟩ := Coercion.exists_finite kept.x1 range1
  obtain ⟨n, pos, counted⟩ := Coercion.exists_whole kept.partitions
  exact ⟨⟨p.expression, n, ⟨y0, y1, finite0, finite1⟩, p.method, by simpa using inked, pos⟩,
    rfl, counted, converted0, converted1, rfl⟩

end Parts

/-- **The contract of a request and its checks agree**, apart from what the contract leaves open: the
checks refuse a value that keeps the contract exactly if its expression is blank, a bound is no finite
double or too large for one, or its number of partitions is written as a double beyond the machine
words; from any other they make the request for what it says. -/
theorem ofValue_agrees {v : Value} (kept : Contract.request.accepts v = true)
    (unbroken : ∀ t, v.field? "expression" = some (.text t) → ∃ s, t = .string s) :
    ∃ p : Parts, p.In v ∧ ((∃ report, ofValue v = .error report) ↔ p.Refused) ∧
      (¬ p.Refused → ∃ r, ofValue v = .ok r ∧ p.Gives r) := by
  obtain ⟨p, inside, known⟩ := exists_parts kept unbroken
  refine ⟨p, inside, ?_, ?_⟩
  · constructor
    · rintro ⟨report, refused⟩
      by_contra passed
      obtain ⟨r, gives⟩ := known.exists_gives passed
      rw [(inside.ofValue_eq_ok_iff known).2 ⟨passed, gives⟩] at refused
      cases refused
    · intro refused
      cases outcome : ofValue v with
      | error report => exact ⟨report, rfl⟩
      | ok r => exact absurd refused ((inside.ofValue_eq_ok_iff known).1 outcome).1
  · intro passed
    obtain ⟨r, gives⟩ := known.exists_gives passed
    exact ⟨r, (inside.ofValue_eq_ok_iff known).2 ⟨passed, gives⟩, gives⟩

/-- A request whose second bound is too large for a double. -/
def widestRequest : Value :=
  .record [("expression", .text "x^2"), ("partitions", .float 4),
    ("bounds", .record [("x0", .int (-1)), ("x1", .int (2 ^ 1024))]), ("method", .text "SIMPSON")]

/-- The theorem at a bound that is too large for a double. -/
theorem ofValue_agrees_widest : Contract.request.accepts widestRequest = true ∧
    ∃ report, ofValue widestRequest = .error report := by
  have kept : Contract.request.accepts widestRequest = true := by decide +kernel
  have unbroken : ∀ t, widestRequest.field? "expression" = some (.text t) →
      ∃ s, t = .string s := by
    rintro t ⟨⟩
    exact ⟨_, rfl⟩
  obtain ⟨p, inside, refused, -⟩ := ofValue_agrees kept unbroken
  obtain ⟨b, ends, -, found⟩ := inside.bounds
  obtain rfl := Option.some.inj ends
  have large : p.x1 = .int (2 ^ 1024) := (Option.some.inj found).symm
  refine ⟨kept, refused.2 (.inr (.inr (.inl ?_)))⟩
  rw [large]
  show 2 ^ 1024 - 2 ^ 970 ≤ ((2 : Int) ^ 1024).natAbs
  omega

end Request

end Quadrature
