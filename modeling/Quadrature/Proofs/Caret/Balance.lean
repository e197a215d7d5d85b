/-
# Quadrature.Proofs.Caret.Balance -- partners of parentheses

Every parenthesis among the words of a derivation has its partner. In a text that spells such words
the count of parentheses, taken forwards or backwards, comes back to where it was, so it first falls
to zero at the partner of the parenthesis it began with. Such a text is called even.

* `matchingClose_eq`, `matchingOpen_eq`: the partner of a parenthesis around an even text;
* `Expression.nested`, `Primary.nested`: the words of a derivation have their partners.
-/
import Quadrature.Expr.Caret
import Quadrature.Proofs.Expr.Focus

namespace Quadrature

set_option autoImplicit false

open Quadrature.Text
open Quadrature.Piece (spell)

/-! ## Nested parentheses -/

/-- Every `up` has its partner, a `down`. -/
inductive Nested {α : Type} (up down : α) : List α → Prop where
  | nil : Nested up down []
  | cons {x : α} {s : List α} (opening : x ≠ up) (closing : x ≠ down)
      (rest : Nested up down s) : Nested up down (x :: s)
  | enclosed {s t : List α} (inside : Nested up down s) (after : Nested up down t) :
      Nested up down (up :: (s ++ down :: t))

namespace Nested

variable {α : Type} {up down x : α} {s t : List α}

theorem append (first : Nested up down s) (second : Nested up down t) :
    Nested up down (s ++ t) := by
  induction first with
  | nil => exact second
  | cons opening closing rest ih => exact .cons opening closing ih
  | enclosed inside after _ ih =>
      rw [List.cons_append, List.append_assoc, List.cons_append]
      exact .enclosed inside ih

theorem append_cons (opening : x ≠ up) (closing : x ≠ down) (first : Nested up down s)
    (second : Nested up down t) : Nested up down (s ++ x :: t) :=
  first.append (.cons opening closing second)

theorem group (inside : Nested up down s) : Nested up down (up :: (s ++ [down])) :=
  .enclosed inside .nil

/-- Read backwards, the partners change places. -/
theorem reverse (nested : Nested up down s) : Nested down up s.reverse := by
  induction nested with
  | nil => exact .nil
  | cons opening closing rest ih =>
      rw [List.reverse_cons]
      exact ih.append (.cons closing opening .nil)
  | @enclosed s t inside after ihi iha =>
      have back : (up :: (s ++ down :: t)).reverse =
          t.reverse ++ down :: (s.reverse ++ [up]) := by simp
      rw [back]
      exact iha.append ihi.group

end Nested

namespace Grammar

mutual

theorem Expression.nested : ∀ e : Expression, Nested .opening .closing e.lexemes
  | .last t => t.nested
  | .more t op pos rest => by
      rw [Expression.lexemes_more]
      exact t.nested.append_cons (by cases op <;> simp [Sign.lexeme])
        (by cases op <;> simp [Sign.lexeme]) rest.nested

theorem Term.nested : ∀ t : Term, Nested .opening .closing t.lexemes
  | .last u => u.nested
  | .more u op pos rest => by
      rw [Term.lexemes_more]
      exact u.nested.append_cons (by cases op <;> simp [Factor.lexeme])
        (by cases op <;> simp [Factor.lexeme]) rest.nested

theorem Unary.nested : ∀ u : Unary, Nested .opening .closing u.lexemes
  | .signed op pos operand =>
      .cons (by cases op <;> simp [Sign.lexeme]) (by cases op <;> simp [Sign.lexeme])
        operand.nested
  | .power p => p.nested

theorem Power.nested : ∀ p : Power, Nested .opening .closing p.lexemes
  | .plain base => base.nested
  | .raised base pos exponent => by
      rw [Power.lexemes_raised]
      exact base.nested.append_cons (by simp) (by simp) exponent.nested

theorem Primary.nested : ∀ b : Primary, Nested .opening .closing b.lexemes
  | .number _ _ | .name _ _ => .cons (by simp) (by simp) .nil
  | .call text pos opening args closing => by
      rw [Primary.lexemes_call]
      exact .cons (by simp) (by simp) args.nested.group
  | .group opening inner closing => by
      rw [Primary.lexemes_group]
      exact inner.nested.group

theorem Args.nested : ∀ a : Args, Nested .opening .closing a.lexemes
  | .last e => e.nested
  | .more e comma rest => by
      rw [Args.lexemes_more]
      exact e.nested.append_cons (by simp) (by simp) rest.nested

end

end Grammar

/-! ## Even texts -/

namespace Caret

variable {up down : Char} {s t : List Char}

/-- The count of parentheses comes back to where it was, and stays above zero until then. -/
def Passes (up down : Char) (s : List Char) : Prop :=
  ∀ (depth : Int) (r : List Char), 0 < depth →
    balanceAt up down depth (s ++ r) = (balanceAt up down depth r).map (· + s.length)

theorem passes_nil : Passes up down [] := by
  intro depth r _
  simp

theorem Passes.append (first : Passes up down s) (second : Passes up down t) :
    Passes up down (s ++ t) := by
  intro depth r above
  rw [List.append_assoc, first depth _ above, second depth _ above, Option.map_map,
    List.length_append]
  congr 1
  funext n
  simp only [Function.comp_apply]
  omega

theorem passes_singleton {c : Char} (other : c ≠ up) (other' : c ≠ down) :
    Passes up down [c] := by
  intro depth r _
  simp [balanceAt, other, other']

theorem passes_of_not_mem (other : up ∉ s) (other' : down ∉ s) : Passes up down s := by
  induction s with
  | nil => exact passes_nil
  | cons c s ih =>
      simp only [List.mem_cons, not_or] at other other'
      exact (passes_singleton (Ne.symm other.1) (Ne.symm other'.1)).append (ih other.2 other'.2)

theorem balanceAt_down (distinct : up ≠ down) {depth : Int} (above : 0 < depth) (r : List Char) :
    balanceAt up down (depth + 1) (down :: r) = (balanceAt up down depth r).map (· + 1) := by
  have high : depth + 1 ≠ 1 := by omega
  rw [balanceAt, if_neg distinct.symm, if_pos rfl, if_neg high, Int.add_sub_cancel]

theorem Passes.enclosed (distinct : up ≠ down) (inside : Passes up down s) :
    Passes up down (up :: (s ++ [down])) := by
  intro depth r above
  rw [List.cons_append, List.append_assoc, List.singleton_append, balanceAt, if_pos rfl,
    inside (depth + 1) _ (by omega), balanceAt_down distinct above, Option.map_map, Option.map_map]
  congr 1
  funext n
  simp only [Function.comp_apply, List.length_cons, List.length_append, List.length_nil]
  omega

/-- The count that begins at a parenthesis falls to zero at its partner. -/
theorem balanceAt_enclosed (distinct : up ≠ down) (inside : Passes up down s) (r : List Char) :
    balanceAt up down 0 (up :: (s ++ down :: r)) = some (s.length + 1) := by
  rw [balanceAt, if_pos rfl, Int.zero_add, inside 1 _ (by omega), balanceAt, if_neg distinct.symm,
    if_pos rfl, if_pos rfl, Option.map_some, Option.map_some, Nat.zero_add]

/-- The text is even forwards and backwards. -/
def Level (s : List Char) : Prop := Passes '(' ')' s ∧ Passes ')' '(' s.reverse

theorem matchingClose_eq (level : Level s) (a r : List Char) :
    matchingClose (a ++ '(' :: (s ++ ')' :: r)) a.length = some (a.length + (s.length + 1)) := by
  unfold matchingClose
  rw [List.drop_left, balanceAt_enclosed (by decide) level.1]
  rfl

theorem matchingOpen_eq (level : Level s) (a r : List Char) :
    matchingOpen (a ++ '(' :: (s ++ ')' :: r)) (a.length + (s.length + 1)) = some a.length := by
  have taken : (a ++ '(' :: (s ++ ')' :: r)).take (a.length + (s.length + 1) + 1) =
      a ++ '(' :: (s ++ [')']) := by
    have split : a ++ '(' :: (s ++ ')' :: r) = (a ++ '(' :: (s ++ [')'])) ++ r := by simp
    rw [split]
    exact List.take_left' (by simp; omega)
  unfold matchingOpen
  rw [taken]
  have back : (a ++ '(' :: (s ++ [')'])).reverse = ')' :: (s.reverse ++ '(' :: a.reverse) := by simp
  rw [back, balanceAt_enclosed (by decide) level.2]
  simp

theorem Level.append (first : Level s) (second : Level t) : Level (s ++ t) :=
  ⟨first.1.append second.1, by rw [List.reverse_append]; exact second.2.append first.2⟩

theorem Level.enclosed (inside : Level s) : Level ('(' :: (s ++ [')'])) := by
  refine ⟨inside.1.enclosed (by decide), ?_⟩
  have back : ('(' :: (s ++ [')'])).reverse = ')' :: (s.reverse ++ ['(']) := by simp
  rw [back]
  exact inside.2.enclosed (by decide)

theorem level_of_not_mem (opening : '(' ∉ s) (closing : ')' ∉ s) : Level s :=
  ⟨passes_of_not_mem opening closing, passes_of_not_mem (by simpa using closing)
    (by simpa using opening)⟩

theorem level_blanks (blank : ∀ c ∈ s, isBlank c = true) : Level s := by
  refine level_of_not_mem (fun member => ?_) (fun member => ?_)
  · exact absurd (blank _ member) (by decide)
  · exact absurd (blank _ member) (by decide)

/-- Words with their partners are spelled by an even text. -/
theorem level_spell {words : List Lexeme} (nested : Nested .opening .closing words) :
    ∀ {ps : List Piece}, ps.map Piece.word = words → Level (spell ps) := by
  induction nested with
  | nil =>
      intro ps same
      obtain rfl := List.map_eq_nil_iff.1 same
      exact ⟨passes_nil, passes_nil⟩
  | cons opening closing rest ih =>
      intro ps same
      obtain ⟨p, ps, rfl, rfl, later⟩ := List.map_eq_cons_iff.1 same
      have word : Level p.word.text.toList := level_of_not_mem
        (fun member => opening (p.fits.eq_of_mem rfl (by decide) member))
        (fun member => closing (p.fits.eq_of_mem rfl (by decide) member))
      exact (level_blanks p.blank).append (word.append (ih later))
  | enclosed inside after ihi iha =>
      intro ps same
      obtain ⟨p, ps, rfl, opens, later⟩ := List.map_eq_cons_iff.1 same
      obtain ⟨ps, qs, rfl, within, rest⟩ := List.map_eq_append_iff.1 later
      obtain ⟨q, qs, rfl, closes, after⟩ := List.map_eq_cons_iff.1 rest
      have group : Level ('(' :: (spell ps ++ q.gap ++ [')'])) :=
        ((ihi within).append (level_blanks q.blank)).enclosed
      have whole := (level_blanks p.blank).append (group.append (iha after))
      simpa [spell, opens, closes, Lexeme.text] using whole

end Caret

end Quadrature
