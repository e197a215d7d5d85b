/-
# Quadrature.Proofs.Json.Words -- numbers and strings of a JSON text are read back

A number ends where a character follows that continues none, and a string at its closing quote, so
each is read from the text in which it stands. A finite double is read as a double again, since it is
written with a fraction or an exponent; a string is read as the string it was.

* `number_eq`: a number in front of what ends it;
* `exists_string`: a string in front of anything.
-/
import Quadrature.Json.Reader
import Quadrature.Json.Writer
import Quadrature.Proofs.Number.Written

namespace Quadrature.Json

set_option autoImplicit false

open Quadrature.Text
open Quadrature.Number

/-- What can follow a value in a JSON text that was written. -/
def Ends (r : List Char) : Prop := ∀ c ∈ r.head?, c = ',' ∨ c = ']' ∨ c = '\x7d'

theorem ends_nil : Ends [] := by simp [Ends]

theorem Ends.not_digit {r : List Char} (ends : Ends r) : ∀ c ∈ r.head?, c.isDigit = false := by
  intro c member
  rcases ends c member with rfl | rfl | rfl <;> decide

/-! ## Numbers -/

theorem wholeLength_append {s r : List Char} (digits : AllDigits s) (some : s ≠ [])
    (lead : s.head? = .some '0' → s = ['0']) (stop : ∀ c ∈ r.head?, c.isDigit = false) :
    wholeLength (s ++ r) = s.length := by
  by_cases zero : s.head? = .some '0'
  · rw [lead zero]
    rfl
  · cases s with
    | nil => exact absurd rfl some
    | cons c s =>
        have other : c ≠ '0' := by simpa using zero
        have run := congrArg List.length (takeWhile_append_stop digits stop)
        rw [← run]
        unfold wholeLength
        split
        · simp_all
        · rfl

theorem fractionLength_append {s r : List Char} (digits : AllDigits s)
    (stop : ∀ c ∈ r.head?, c.isDigit = false ∧ c ≠ '.') :
    fractionLength ((if s = [] then [] else '.' :: s) ++ r) =
      (if s = [] then [] else '.' :: s).length := by
  by_cases none : s = []
  · rw [if_pos none, List.nil_append]
    unfold fractionLength
    split
    · simpa using (stop '.' (by simp)).2
    · rfl
  · rw [if_neg none]
    show fractionLength ('.' :: (s ++ r)) = _
    have run := takeWhile_append_stop digits fun c member => (stop c member).1
    cases s with
    | nil => exact absurd rfl none
    | cons c s =>
        simp only [fractionLength]
        rw [show (List.takeWhile Char.isDigit (c :: s ++ r)) = c :: s from run]
        simp

/-- What follows the whole part of a number. -/
theorem exponentLength_append (t : NumberText) {r : List Char} (ends : Ends r) :
    exponentLength (t.exponentText ++ r) = t.exponentText.length := by
  unfold NumberText.exponentText
  cases exponent : t.exponent with
  | none =>
      cases r with
      | nil => rfl
      | cons c r =>
          have other : ¬ (c = 'e' ∨ c = 'E') := by
            rcases ends c (by simp) with rfl | rfl | rfl <;> decide
          simp [exponentLength, other]
  | some e =>
      obtain ⟨negative, digits⟩ := e
      obtain ⟨some, all⟩ := t.exponent_digits _ exponent
      have run := takeWhile_append_stop all ends.not_digit
      obtain ⟨k, long⟩ : ∃ k, digits.length = k + 1 :=
        Nat.exists_eq_succ_of_ne_zero (by simpa using some)
      cases negative <;>
        simp only [exponentLength, List.cons_append, Bool.false_eq_true, if_true, if_false,
          true_or, run, long, List.length_cons] <;> omega

/-- An exponent, or what follows where there is none, ends the digits before it. -/
theorem exponentText_stops (t : NumberText) {r : List Char} (ends : Ends r) :
    ∀ c ∈ (t.exponentText ++ r).head?, c.isDigit = false ∧ c ≠ '.' := by
  intro c member
  unfold NumberText.exponentText at member
  split at member
  · rcases ends c member with rfl | rfl | rfl <;> decide
  · obtain rfl : 'e' = c := by simpa using member
    decide

theorem fractionText_stops (t : NumberText) {r : List Char} (ends : Ends r) :
    ∀ c ∈ (t.fractionText ++ (t.exponentText ++ r)).head?, c.isDigit = false := by
  intro c member
  unfold NumberText.fractionText at member
  split at member
  · exact (exponentText_stops t ends c member).1
  · obtain rfl : '.' = c := by simpa using member
    decide

/-- A number starts with a minus only if that is its sign. -/
theorem signLength_eq (t : NumberText) (r : List Char) :
    (if (t.text ++ r).head? = some '-' then 1 else 0) = t.signText.length := by
  unfold NumberText.text NumberText.signText
  cases t.negative with
  | true => simp
  | false =>
      obtain ⟨c, cs, whole, digit⟩ := t.exists_whole
      have other : c ≠ '-' := by
        rintro rfl
        exact absurd digit (by decide)
      simp [whole, other]

/-- How the reader cuts a number off. -/
theorem number_eq (t : NumberText) {r : List Char} (ends : Ends r) (offset : Nat) :
    number offset (t.text ++ r) =
      if t.fractionText.length + t.exponentText.length = 0 then
        match Whole.read t.text with
        | .ok n => .ok (.int n, offset + t.text.length, r)
        | .error e => .error (.inr e)
      else .ok (.float ((Numeral.read? t.text).getD 0), offset + t.text.length, r) := by
  have stop := exponentText_stops t ends
  have whole : wholeLength ((t.text ++ r).drop t.signText.length) = t.whole.length := by
    rw [NumberText.text, List.append_assoc, List.drop_left, List.append_assoc, List.append_assoc]
    exact wholeLength_append t.whole_digits t.whole_ne_nil t.whole_lead
      (fractionText_stops t ends)
  have fraction : fractionLength ((t.text ++ r).drop (t.signText.length + t.whole.length)) =
      t.fractionText.length := by
    rw [NumberText.text, ← List.append_assoc t.signText, List.append_assoc,
      List.drop_left' (by simp), List.append_assoc]
    exact fractionLength_append t.fraction_digits stop
  have exponent : exponentLength ((t.text ++ r).drop
      (t.signText.length + t.whole.length + t.fractionText.length)) = t.exponentText.length := by
    rw [NumberText.text, ← List.append_assoc t.signText, ← List.append_assoc (t.signText ++ t.whole),
      List.append_assoc, List.drop_left' (by simp; omega)]
    exact exponentLength_append t ends
  have length : t.signText.length + t.whole.length + t.fractionText.length +
      t.exponentText.length = t.text.length := by
    simp [NumberText.text]
    omega
  have some : t.whole.length ≠ 0 := by simpa using t.whole_ne_nil
  unfold number
  dsimp only
  rw [signLength_eq, whole, if_neg some, fraction, exponent, length, List.take_left]
  cases Whole.read t.text <;> simp only [List.drop_left]

/-- A number is none of the words, since a digit follows its sign. -/
theorem wordOrNumber_eq (t : NumberText) (r : List Char) (offset : Nat) :
    wordOrNumber offset (t.text ++ r) = number offset (t.text ++ r) := by
  obtain ⟨c, cs, whole, digit⟩ := t.exists_whole
  have other : c ≠ 'n' ∧ c ≠ 't' ∧ c ≠ 'f' ∧ c ≠ 'N' ∧ c ≠ 'I' ∧ c ≠ '-' := by
    refine ⟨?_, ?_, ?_, ?_, ?_, ?_⟩ <;>
    · rintro rfl
      exact absurd digit (by decide)
  obtain ⟨null, true', false', nan, infinity, minus⟩ := other
  unfold wordOrNumber
  have none : (List.find? (fun w : String × Value => w.1.toList.isPrefixOf (t.text ++ r)) [
      ("null", .null), ("true", .bool true), ("false", .bool false), ("NaN", .float (0 / 0)),
      ("Infinity", .float (1 / 0)), ("-Infinity", .float (-1 / 0))]) = none := by
    unfold NumberText.text NumberText.signText
    cases t.negative <;>
      simp [whole, List.isPrefixOf, Ne.symm null, Ne.symm true', Ne.symm false', Ne.symm nan,
        Ne.symm infinity, Ne.symm minus]
  dsimp only
  rw [none]

/-! ## Strings -/

theorem hexValue?_digitChar : ∀ d < 16, hexValue? (Nat.digitChar d) = some d := by decide

theorem hexDigits_four (n : Nat) : hexDigits n 4 = [Nat.digitChar (n / 16 / 16 / 16 % 16),
    Nat.digitChar (n / 16 / 16 % 16), Nat.digitChar (n / 16 % 16), Nat.digitChar (n % 16)] := rfl

/-- The four digits of a unit are read back. -/
theorem hex4?_digits {n : Nat} (unit : n < 0x10000) :
    hex4? (Nat.digitChar (n / 16 / 16 / 16 % 16)) (Nat.digitChar (n / 16 / 16 % 16))
      (Nat.digitChar (n / 16 % 16)) (Nat.digitChar (n % 16)) = some n := by
  unfold hex4?
  rw [hexValue?_digitChar _ (by omega), hexValue?_digitChar _ (by omega),
    hexValue?_digitChar _ (by omega), hexValue?_digitChar _ (by omega)]
  simp only [Option.pure_def, Option.bind_eq_bind, Option.bind_some, Option.some.injEq]
  omega

/-- The UTF-16 units of a code point. -/
def units (n : Nat) : List Nat :=
  if n < 0x10000 then [n] else [0xD800 + (n - 0x10000) / 0x400, 0xDC00 + (n - 0x10000) % 0x400]

/-- Put several units in front of what was read. -/
def Part.pushAll (us : List Nat) (p : Part (List Nat)) : Part (List Nat) :=
  p.map fun (rest, after) => (us ++ rest, after)

theorem Part.pushAll_pushAll (us vs : List Nat) (p : Part (List Nat)) :
    (p.pushAll vs).pushAll us = p.pushAll (us ++ vs) := by
  cases p <;> simp [pushAll, Except.map]

section

variable {start offset : Nat} {n : Nat} {c : Char} {rest : List Char}

theorem stringUnits_unitEscape (unit : n < 0x10000) :
    stringUnits start offset (unitEscape n ++ c :: rest) =
      (stringUnits start (offset + 6) (c :: rest)).pushAll [n] := by
  rw [unitEscape, hexDigits_four]
  simp only [List.cons_append, List.nil_append, stringUnits, hex4?_digits unit]
  rfl

/-- A visible character that needs no escape stands for itself. -/
theorem stringUnits_char {d : Char} (quote : d ≠ '"') (escape : d ≠ '\\')
    (visible : 0x20 ≤ d.toNat) : stringUnits start offset (d :: rest) =
      (stringUnits start (offset + 1) rest).pushAll [d.toNat] := by
  rw [stringUnits.eq_def]
  split <;> simp_all
  · rw [if_neg (by omega)]
    rfl

theorem stringUnits_letter {d e : Char} (letter : escapeValue? d = some e) (other : d ≠ 'u') :
    stringUnits start offset ('\\' :: d :: rest) =
      (stringUnits start (offset + 2) rest).pushAll [e.toNat] := by
  rw [stringUnits, letter]
  · rfl
  · simp [other]
  · simp [other]

/-- A code point that is written as itself. -/
theorem stringUnits_plain (quote : n ≠ '"'.toNat) (escape : n ≠ '\\'.toNat)
    (visible : 0x20 ≤ n ∧ n < 0x7F) : stringUnits start offset (Char.ofNat n :: rest) =
      (stringUnits start (offset + 1) rest).pushAll [n] := by
  have value : (Char.ofNat n).toNat = n := by
    rw [Char.ofNat, dif_pos (.inl (by omega))]
    rfl
  have mark : Char.ofNat n ≠ '"' := fun same => quote (by rw [← value, same])
  have slash : Char.ofNat n ≠ '\\' := fun same => escape (by rw [← value, same])
  have read : stringUnits start offset (Char.ofNat n :: rest) = _ :=
    stringUnits_char mark slash (by omega)
  rwa [value] at read

/-- Two units that are written one after the other. -/
theorem stringUnits_unitEscapes {u v : Nat} (first : u < 0x10000) (second : v < 0x10000) :
    stringUnits start offset (unitEscape u ++ unitEscape v ++ c :: rest) =
      (stringUnits start (offset + 6 + 6) (c :: rest)).pushAll [u, v] := by
  have starts : unitEscape v = '\\' :: (unitEscape v).tail := rfl
  rw [List.append_assoc, starts, List.cons_append, stringUnits_unitEscape first, ← List.cons_append,
    ← starts, stringUnits_unitEscape second, Part.pushAll_pushAll]
  rfl

/-- What was written for a code point is read as its units. -/
theorem exists_stringUnits_writePoint (start offset : Nat) (code : n < 0x110000) (c : Char)
    (rest : List Char) : ∃ o, stringUnits start offset (writePoint n ++ c :: rest) =
      (stringUnits start o (c :: rest)).pushAll (units n) := by
  have basic (small : n < 0x10000) : units n = [n] := if_pos small
  unfold writePoint
  split
  case isTrue quote =>
    subst quote
    exact ⟨offset + 2, stringUnits_letter (d := '"') rfl (by decide)⟩
  split
  case isTrue escape =>
    subst escape
    exact ⟨offset + 2, stringUnits_letter (d := '\\') rfl (by decide)⟩
  split
  case isTrue feed =>
    subst feed
    exact ⟨offset + 2, stringUnits_letter (d := 'n') rfl (by decide)⟩
  split
  case isTrue ret =>
    subst ret
    exact ⟨offset + 2, stringUnits_letter (d := 'r') rfl (by decide)⟩
  split
  case isTrue tab =>
    subst tab
    exact ⟨offset + 2, stringUnits_letter (d := 't') rfl (by decide)⟩
  split
  case isTrue back =>
    subst back
    exact ⟨offset + 2, stringUnits_letter (d := 'b') rfl (by decide)⟩
  split
  case isTrue page =>
    subst page
    exact ⟨offset + 2, stringUnits_letter (d := 'f') rfl (by decide)⟩
  rename_i quote escape _ _ _ _ _
  split
  case isTrue visible =>
    rw [basic (by omega)]
    exact ⟨offset + 1, stringUnits_plain quote escape visible⟩
  split
  case isTrue small =>
    rw [basic small]
    exact ⟨offset + 6, stringUnits_unitEscape small⟩
  case isFalse large =>
    rw [units, if_neg large]
    exact ⟨offset + 6 + 6, stringUnits_unitEscapes (by omega) (by omega)⟩

/-- The points of a string are read as their units, up to the closing quote. -/
theorem exists_stringUnits (start : Nat) {points : List Nat} (codes : ∀ n ∈ points, n < 0x110000)
    (offset : Nat) (r : List Char) :
    ∃ o, stringUnits start offset (points.flatMap writePoint ++ '"' :: r) =
      .ok (points.flatMap units, o, r) := by
  induction points generalizing offset with
  | nil => exact ⟨offset + 1, rfl⟩
  | cons n points ih =>
      obtain ⟨d, text, shape⟩ : ∃ d text, points.flatMap writePoint ++ '"' :: r = d :: text :=
        List.exists_cons_of_ne_nil (by simp)
      obtain ⟨o, first⟩ := exists_stringUnits_writePoint start offset (codes n (by simp)) d text
      obtain ⟨o', rest⟩ := ih (fun m member => codes m (List.mem_cons_of_mem _ member)) o
      refine ⟨o', ?_⟩
      rw [List.flatMap_cons, List.append_assoc, shape, first, ← shape, rest]
      rfl

end

/-- A unit that is no surrogate is left alone. -/
theorem joinSurrogates_cons {n : Nat} (other : ¬ (0xD800 ≤ n ∧ n < 0xDC00)) (us : List Nat) :
    joinSurrogates (n :: us) = n :: joinSurrogates us := by
  cases us with
  | nil => rfl
  | cons m us =>
      rw [joinSurrogates, if_neg]
      exact fun pair => other ⟨pair.1, pair.2.1⟩

theorem joinSurrogates_units {n : Nat} (valid : n.isValidChar) (us : List Nat) :
    joinSurrogates (units n ++ us) = n :: joinSurrogates us := by
  unfold units
  split
  case isTrue small =>
    apply joinSurrogates_cons
    rcases valid with low | high <;> omega
  case isFalse large =>
    have bound : n < 0x110000 := by
      rcases valid with low | high <;> omega
    have code : 0x10000 + (0xD800 + (n - 0x10000) / 0x400 - 0xD800) * 0x400 +
        (0xDC00 + (n - 0x10000) % 0x400 - 0xDC00) = n := by omega
    rw [List.cons_append, List.cons_append, List.nil_append, joinSurrogates, if_pos (by omega), code]

theorem chars?_map (s : List Char) : Points.chars? (s.map Char.toNat) = some s := by
  induction s with
  | nil => rfl
  | cons c s ih =>
      rw [List.map_cons, Points.chars?, if_pos (show c.toNat.isValidChar from c.valid), ih, Option.map_some, Char.ofNat_toNat]

/-- A string is read back from the points that were written. -/
theorem exists_string (start : Nat) (s : String) (r : List Char) :
    ∃ o, string start ((Points.string s).toPoints.flatMap writePoint ++ '"' :: r) =
      .ok (.string s, o, r) := by
  have valid : ∀ n ∈ s.toList.map Char.toNat, n.isValidChar := by
    intro n member
    obtain ⟨c, -, rfl⟩ := List.mem_map.1 member
    exact c.valid
  have joined {points : List Nat} (valid : ∀ n ∈ points, n.isValidChar) :
      joinSurrogates (points.flatMap units) = points := by
    induction points with
    | nil => rfl
    | cons n points ih =>
        rw [List.flatMap_cons, joinSurrogates_units (valid n (by simp)),
          ih fun m member => valid m (List.mem_cons_of_mem _ member)]
  have codes : ∀ n ∈ s.toList.map Char.toNat, n < 0x110000 := by
    intro n member
    rcases valid n member with low | high <;> omega
  obtain ⟨o, read⟩ := exists_stringUnits start codes (start + 1) r
  refine ⟨o, ?_⟩
  rw [string, Points.toPoints, read]
  simp [Except.map, joined valid, Points.ofPoints, chars?_map]

end Quadrature.Json
