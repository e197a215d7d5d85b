/-
# Quadrature.Proofs.Caret.Shapes -- what an operand looks like

The search for operands runs over any text, also over one that no derivation spells. What it takes
is always a number, a name, a bracket or a call of what looks like a name, and in front of an
exponent perhaps a sign. Wherever such a text stands before a comma or a closing parenthesis, the
search that goes forwards stops at its end, also if it was found backwards.

* `SignedOperand.trim_eq`: an operand has no blanks at its ends;
* `Operand.operandStop_eq`: an operand ends before a comma and before a closing parenthesis.
-/
import Quadrature.Proofs.Caret.Operands
import Quadrature.Proofs.Caret.Partners
import Quadrature.Proofs.Text.Trim

namespace Quadrature.Caret

set_option autoImplicit false

open Quadrature.Text
open Quadrature.Lexeme

/-! ## Operands -/

/-- The text is a number, a name, a bracket or a call. -/
inductive Operand : List Char → Prop where
  | number {n : List Char} (number : Before n []) : Operand n
  | name {n : List Char} (name : isName n = true) : Operand n
  | group {s : List Char} (level : Level s) : Operand ('(' :: (s ++ [')']))
  | call {n g s : List Char} (name : isName n = true) (blank : ∀ c ∈ g, isBlank c = true)
      (level : Level s) : Operand (n ++ (g ++ '(' :: (s ++ [')'])))

/-- The text is an operand, perhaps behind a sign. -/
inductive SignedOperand : List Char → Prop where
  | plain {o : List Char} (operand : Operand o) : SignedOperand o
  | signed {c : Char} {g o : List Char} (sign : IsSign c) (blank : ∀ c ∈ g, isBlank c = true)
      (operand : Operand o) : SignedOperand (c :: (g ++ o))

theorem ofChar?_of_isSign {c : Char} (sign : IsSign c) : ofChar? c ≠ none := by
  rcases sign with rfl | rfl <;> simp [ofChar?]

theorem ink_of_isName {n : List Char} (name : isName n = true) :
    ∃ c s, n = c :: s ∧ isBlank c = false ∧ ¬ IsSign c := by
  obtain ⟨c, s, rfl, start, -⟩ := isName_iff.1 name
  obtain ⟨ink, -, -, other, -⟩ := nameStart_separate start
  exact ⟨c, s, rfl, ink, fun sign => ofChar?_of_isSign sign other⟩

/-- An operand begins with ink that is no sign. -/
theorem Operand.ink {o : List Char} (operand : Operand o) :
    ∃ c s, o = c :: s ∧ isBlank c = false ∧ ¬ IsSign c := by
  cases operand with
  | number number =>
      obtain ⟨c, s, rfl, numeric⟩ := number.head
      exact ⟨c, s, rfl, (numeric_separate numeric).1,
        fun sign => ofChar?_of_isSign sign (numeric_separate numeric).2.2⟩
  | name name => exact ink_of_isName name
  | group level => exact ⟨'(', _, rfl, by decide, by decide⟩
  | call name blank level =>
      obtain ⟨c, s, rfl, ink, unsigned⟩ := ink_of_isName name
      exact ⟨c, _, rfl, ink, unsigned⟩

/-- An operand ends with ink. -/
theorem Operand.last {o : List Char} (operand : Operand o) :
    ∀ c ∈ o.getLast?, isBlank c = false := by
  have closing (a : List Char) : ∀ c ∈ (a ++ [')']).getLast?, isBlank c = false := by
    intro c last
    obtain rfl : ')' = c := by simpa using last
    decide
  intro c last
  cases operand with
  | number number => exact (numeric_separate (number.last c last)).1
  | name name =>
      have word := isWordChar_of_isName name c (List.mem_of_mem_getLast? last)
      by_contra blank
      rw [(blank_separate (by simpa using blank)).2.2.2.1] at word
      simp at word
  | @group s level => exact closing ('(' :: s) c last
  | @call n g s name blank level =>
      have whole : n ++ (g ++ '(' :: (s ++ [')'])) = (n ++ (g ++ '(' :: s)) ++ [')'] := by simp
      rw [whole] at last
      exact closing _ c last

/-- An operand has no blanks at its ends, also behind a sign: the sign is ink. -/
theorem SignedOperand.trim_eq {e : List Char} (operand : SignedOperand e) : trim e = e := by
  cases operand with
  | plain operand =>
      obtain ⟨c, s, rfl, ink, -⟩ := operand.ink
      exact trimBy_of_ends (by simpa using ink) operand.last
  | @signed c g o sign blank operand =>
      have ink : isBlank c = false := by rcases sign with rfl | rfl <;> decide
      obtain ⟨c', s, rfl, -, -⟩ := operand.ink
      refine trimBy_of_ends (by simpa using ink) fun x last => operand.last x ?_
      simpa [List.getLast?_cons, List.getLast?_append] using last

/-- The comma and the parenthesis end every operand. -/
theorem edge_of_ends {d : Char} (ends : d = ',' ∨ d = ')') :
    isBlank d = false ∧ isWordChar d = false ∧ (ofChar? d).isSome = true ∧ d ≠ '(' := by
  rcases ends with rfl | rfl <;> exact ⟨by decide, by decide +kernel, rfl, by decide⟩

theorem Operand.operandStop_eq {a o r : List Char} {d : Char} (operand : Operand o)
    (ends : d = ',' ∨ d = ')') :
    operandStop (a ++ (o ++ d :: r)) a.length = some (a.length + o.length) := by
  obtain ⟨ink, stop, symbol, closed⟩ := edge_of_ends ends
  cases operand with
  | number number =>
      refine operandStop_number (number.of_end fun x first => .inr ?_)
      obtain rfl : d = x := by simpa using first
      exact symbol
  | name name =>
      obtain ⟨c, n, rfl, start, inside⟩ := isName_iff.1 name
      exact operandStop_alone (g := []) start inside (by simpa using stop) (by simp)
        (by simpa using ink) (by simpa using closed)
  | @group s level =>
      have found := operandStop_group (a := a) (r := d :: r) level
      simpa using found
  | @call n g s name blank level =>
      obtain ⟨c, n, rfl, start, inside⟩ := isName_iff.1 name
      have edge : ∀ x ∈ (g ++ '(' :: (s ++ ')' :: d :: r)).head?, isWordChar x = false := by
        intro x first
        cases g with
        | nil =>
            obtain rfl : '(' = x := by simpa using first
            decide +kernel
        | cons b g =>
            obtain rfl : b = x := by simpa using first
            exact (blank_separate (blank b (by simp))).2.2.2.1
      have found := operandStop_call (a := a) (r := d :: r) start inside edge blank level
      simpa using found

end Quadrature.Caret
