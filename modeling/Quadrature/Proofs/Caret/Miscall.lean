/-
# Quadrature.Proofs.Caret.Miscall -- a call that no expansion takes back

Where a letter stands right before `pow(`, the text calls a name that is longer than `pow`.
Expansion cuts a text at both ends of the base and of the exponent only. None of these places is
inside a call of a name of letters, whatever the text: a base does not begin inside a name, and an
exponent does not end in one. So a text with such a call keeps it through every expansion.

* `expandAt_split`: a power that is expanded has operands between joints;
* `Miscalled.expandTimes`: no expansion takes the call back.
-/
import Quadrature.Proofs.Caret.Step

namespace Quadrature.Caret

set_option autoImplicit false

open Quadrature.Text
open Quadrature.Lexeme

/-! ## Seams -/

/-- A letter or an underscore and the beginning of a call of `pow`. -/
def longCall (c : Char) : List Char := [c, 'p', 'o', 'w', '(']

/-- A name that is longer than `pow` and ends with it is called. -/
def Miscalled (text : List Char) : Prop :=
  ∃ c, isNameStart c = true ∧ longCall c <:+: text

/-- No such call is cut between the two texts. -/
def Seam (l r : List Char) : Prop :=
  ∀ c u v, isNameStart c = true → longCall c = c :: (u ++ v) → c :: u <:+ l → v <+: r → v = []

section Seams

variable {l r : List Char}

theorem Miscalled.of_infix (miscalled : Miscalled l) (inside : l <:+: r) : Miscalled r := by
  obtain ⟨c, start, call⟩ := miscalled
  exact ⟨c, start, call.trans inside⟩

/-- A call is on one side of a seam. -/
theorem Miscalled.of_append (miscalled : Miscalled (l ++ r)) (seam : Seam l r) :
    Miscalled l ∨ Miscalled r := by
  obtain ⟨c, start, inside⟩ := miscalled
  rcases List.infix_append_iff_ne_nil.1 inside with
    left | right | ⟨u, v, some, some', cut, ends, begins⟩
  · exact .inl ⟨c, start, left⟩
  · exact .inr ⟨c, start, right⟩
  · obtain ⟨c', u, rfl⟩ := List.exists_cons_of_ne_nil some
    obtain ⟨rfl, -⟩ := List.cons.inj cut
    exact absurd (seam c u v start cut ends begins) some'

theorem Joint.seam (joint : Joint l r) : Seam l r := by
  intro c u v start cut ends begins
  refine joint [c, 'p', 'o', 'w'] (c :: u) v ?_ cut (by simp) ends begins
  intro x member
  rcases List.mem_cons.1 member with rfl | member
  · exact start
  · exact List.all_eq_true.1 (show ['p', 'o', 'w'].all isNameStart = true from rfl) x member

end Seams

/-! ## Expansion -/

/-- Blanks around a caret hold no letter and no parenthesis. -/
theorem around_caret {g g' : List Char} {x : Char} (blank : ∀ c ∈ g, isBlank c = true)
    (blank' : ∀ c ∈ g', isBlank c = true) (member : x ∈ g ++ '^' :: g') :
    isNameStart x = false ∧ x ≠ '(' := by
  have blanks : isBlank x = true → isNameStart x = false ∧ x ≠ '(' := by
    intro blank
    refine ⟨(blank_separate blank).2.1, ?_⟩
    rintro rfl
    exact absurd blank (by decide)
  rcases List.mem_append.1 member with first | later
  · exact blanks (blank x first)
  · rcases List.mem_cons.1 later with rfl | last
    · decide
    · exact blanks (blank' x last)

/-- Where a power is expanded, its base and its exponent are operands between joints. -/
theorem expandAt_split {x y text : List Char}
    (expanded : expandAt (x ++ '^' :: y) x.length = some text) : ∃ a b g g' e c,
      x = a ++ b ++ g ∧ y = g' ++ (e ++ c) ∧ text = a ++ powerCall b e ++ c ∧
        (∀ c ∈ g, isBlank c = true) ∧ (∀ c ∈ g', isBlank c = true) ∧ Operand b ∧
        SignedOperand e ∧ (∀ r, Joint a (b ++ r)) ∧ Joint e c := by
  cases base : findBase (x ++ '^' :: y) x.length with
  | none => simp [Caret.expandAt, base] at expanded
  | some span =>
      cases exponent : findExponent (x ++ '^' :: y) x.length with
      | none => simp [Caret.expandAt, base, exponent] at expanded
      | some span' =>
          obtain ⟨start, stop⟩ := span
          obtain ⟨start', stop'⟩ := span'
          obtain ⟨a, b, g, rfl, rfl, rfl, blank, operand, joint⟩ := findBase_split base
          obtain ⟨g', e, c, rfl, rfl, rfl, blank', operand', joint'⟩ := findExponent_split exponent
          have text' : a ++ b ++ g ++ '^' :: (g' ++ (e ++ c)) =
              a ++ b ++ (g ++ '^' :: g') ++ e ++ c := by simp
          rw [text'] at base exponent expanded
          have found := expandAt_of_spans (i := (a ++ b ++ g).length) base (by simpa using exponent)
          obtain rfl := Option.some.inj (found.symm.trans expanded)
          exact ⟨a, b, g, g', e, c, rfl, rfl, rfl, blank, blank', operand, operand', joint, joint'⟩

/-- A call stays when a power is expanded. -/
theorem Miscalled.expandAt {x y text : List Char} (miscalled : Miscalled (x ++ '^' :: y))
    (expanded : expandAt (x ++ '^' :: y) x.length = some text) : Miscalled text := by
  obtain ⟨a, b, g, g', e, c, rfl, rfl, rfl, blank, blank', -, -, joint, joint'⟩ :=
    expandAt_split expanded
  rw [show a ++ b ++ g ++ '^' :: (g' ++ (e ++ c)) =
    a ++ (b ++ ((g ++ '^' :: g') ++ (e ++ c))) by simp] at miscalled
  have before : Joint b ((g ++ '^' :: g') ++ (e ++ c)) := joint_of_head fun x first => by
    rw [List.head?_append_of_ne_nil _ (by simp)] at first
    exact around_caret blank blank' (List.mem_of_head? first)
  have behind : Joint (g ++ '^' :: g') (e ++ c) := joint_of_last fun x last =>
    (around_caret blank blank' (List.mem_of_getLast? last)).1
  rw [powerCall_eq]
  -- The call is in front of the power, in an operand, between them or behind.
  rcases miscalled.of_append (joint _).seam with first | rest
  · exact first.of_infix ⟨[], _, by rw [List.nil_append, List.append_assoc]⟩
  rcases rest.of_append before.seam with base | rest
  · exact base.of_infix ⟨a ++ ['p', 'o', 'w', '('], [',', ' '] ++ e ++ [')'] ++ c, by simp⟩
  rcases rest.of_append behind.seam with ⟨x, letter, inside⟩ | rest
  · have none := around_caret blank blank'
      (inside.subset (show x ∈ longCall x by simp [longCall]))
    simp [none.1] at letter
  rcases rest.of_append joint'.seam with exponent | last
  · exact exponent.of_infix ⟨a ++ ['p', 'o', 'w', '('] ++ b ++ [',', ' '], ')' :: c, by simp⟩
  · exact last.of_infix ⟨_, [], by rw [List.append_nil]⟩

/-- No expansions take a call back. -/
theorem Miscalled.expandTimes {text : List Char} (n : Nat) (miscalled : Miscalled text) :
    Miscalled (expandTimes n text) := by
  induction n generalizing text with
  | zero => exact miscalled
  | succ n ih =>
      rw [Caret.expandTimes]
      split
      · next expanded =>
          obtain ⟨x, y, rfl, found, -⟩ := exists_rightmost expanded
          exact ih (miscalled.expandAt found)
      · exact miscalled

end Quadrature.Caret
