/-
# Quadrature.Proofs.Caret.Called -- the call at a name before a parenthesis

A name before a parenthesis, among the words of a derivation, is that of a call. The call is the
base of a power, and another power may be put in the place of that one: its words stand between the
same words, and the whole is accepted with it if the rest is.

* `Expression.callAt`: the call, and the derivation around it;
* `CallAt.called_known`: in an accepted derivation the name is that of a function;
* `exists_called`: letters before a parenthesis, in a text that spells a derivation.
-/
import Quadrature.Proofs.Caret.Step
import Quadrature.Proofs.Expr.Uses

namespace Quadrature.Grammar

set_option autoImplicit false

/-- The names of the operands where a power goes on. -/
def Power.usesOn : Option (Nat × Unary) → List Use
  | none => []
  | some (_, exponent) => exponent.uses

@[simp] theorem Power.uses_join (base : Primary) (tail : Option (Nat × Unary)) :
    (Power.join base tail).uses = base.uses ++ Power.usesOn tail := by
  cases tail <;> simp [Power.join, Power.usesOn, Power.uses]

@[simp] theorem Unary.uses_join (p : Power) (sign : Option (Sign × Nat)) :
    (Unary.join p sign).uses = p.uses := by
  cases sign <;> simp [Unary.join, Unary.uses]

/-- The call of a name between the words `u` and the words `v` behind its parenthesis, in a
derivation `a` with the given words and names. -/
inductive CallAt {α : Type} (free : String) (lexemes : α → List Lexeme) (uses : α → List Use)
    (a : α) (text : String) (u v : List Lexeme) : Prop where
  | mk (plug : Power → α) (pos opening : Nat) (args : Args) (closing : Nat)
      (goesOn : Option (Nat × Unary)) (after : List Lexeme) (others : Prop)
      (whole : plug (.join (.call text pos opening args closing) goesOn) = a)
      (right : v = args.lexemes ++ .closing :: (Power.goesOn goesOn ++ after))
      (words : ∀ p, lexemes (plug p) = u ++ (p.lexemes ++ after))
      (known : ∀ p, Known free (uses (plug p)) ↔ others ∧ Known free p.uses)

section Calls

variable {free text : String}

/-- The same call in a larger derivation. -/
theorem CallAt.lift {α β : Type} {lexemes : α → List Lexeme} {lexemes' : β → List Lexeme}
    {uses : α → List Use} {uses' : β → List Use} {a : α} {u v u' v' : List Lexeme}
    (wrap : α → β) (pre post : List Lexeme) (others : Prop)
    (call : CallAt free lexemes uses a text u v)
    (words : ∀ x, lexemes' (wrap x) = pre ++ (lexemes x ++ post))
    (known : ∀ x, Known free (uses' (wrap x)) ↔ others ∧ Known free (uses x))
    (left : u' = pre ++ u) (right : v' = v ++ post) :
    CallAt free lexemes' uses' (wrap a) text u' v' := by
  obtain ⟨plug, pos, opening, args, closing, goesOn, after, others', rfl, rfl, words', known'⟩ :=
    call
  refine ⟨fun p => wrap (plug p), pos, opening, args, closing, goesOn, after ++ post,
    others ∧ others', rfl, by simp [right], fun p => ?_, fun p => ?_⟩
  · rw [words, words', left]
    simp
  · rw [known, known', and_assoc]

/-- The name of the call is that of a function, if all names are known. -/
theorem CallAt.called_known {α : Type} {lexemes : α → List Lexeme} {uses : α → List Use} {a : α}
    {u v : List Lexeme} (call : CallAt free lexemes uses a text u v)
    (known : Known free (uses a)) : ∃ f, Builtin.named? text = some f := by
  obtain ⟨plug, pos, opening, args, closing, goesOn, after, others, rfl, -, -, known'⟩ := call
  have inside := ((known' _).1 known).2
  rw [Power.uses_join, Primary.uses, known_append, known_cons] at inside
  obtain ⟨f, named, -⟩ := inside.1.1
  exact ⟨f, named⟩

/-- What is no name before a parenthesis divides the words around one. -/
theorem call_cases {a b u v : List Lexeme} {w : Lexeme} (name : w ≠ .name text)
    (opening : w ≠ .opening) (same : a ++ w :: b = u ++ ([.name text, .opening] ++ v)) :
    (∃ v', a = u ++ ([.name text, .opening] ++ v') ∧ v = v' ++ w :: b) ∨
      ∃ u', u = a ++ w :: u' ∧ b = u' ++ ([.name text, .opening] ++ v) :=
  divided_cases (by simp) (by simp [name, opening]) same.symm

theorem call_before {a u v : List Lexeme} {w : Lexeme} (name : w ≠ .name text)
    (opening : w ≠ .opening) (same : a ++ [w] = u ++ ([.name text, .opening] ++ v)) :
    ∃ v', a = u ++ ([.name text, .opening] ++ v') ∧ v = v' ++ [w] := by
  rcases call_cases name opening same with before | ⟨u', -, none⟩
  · exact before
  · simp at none

theorem call_after {b u v : List Lexeme} {w : Lexeme} (name : w ≠ .name text)
    (same : w :: b = u ++ ([.name text, .opening] ++ v)) :
    ∃ u', u = w :: u' ∧ b = u' ++ ([.name text, .opening] ++ v) := by
  cases u with
  | nil => exact absurd (List.cons.inj same).1 name
  | cons w' u =>
      obtain ⟨rfl, rest⟩ := List.cons.inj same
      exact ⟨u, rfl, rest⟩

theorem sign_lexeme_ne (op : Sign) (text : String) :
    op.lexeme ≠ .name text ∧ op.lexeme ≠ .opening := by
  cases op <;> simp [Sign.lexeme]

theorem factor_lexeme_ne (op : Factor) (text : String) :
    op.lexeme ≠ .name text ∧ op.lexeme ≠ .opening := by
  cases op <;> simp [Factor.lexeme]

mutual

theorem Expression.callAt : ∀ (e : Expression) {u v : List Lexeme},
    e.lexemes = u ++ ([.name text, .opening] ++ v) →
    CallAt free Expression.lexemes Expression.uses e text u v
  | .last t, u, v, same =>
      (t.callAt same).lift Expression.last [] [] True (by simp) (by simp [Expression.uses]) rfl
        (by simp)
  | .more t op pos rest, u, v, same => by
      rw [Expression.lexemes_more] at same
      rcases call_cases (sign_lexeme_ne op text).1 (sign_lexeme_ne op text).2 same with
        ⟨v', inside, rfl⟩ | ⟨u', rfl, inside⟩
      · exact (t.callAt inside).lift (Expression.more · op pos rest) [] (op.lexeme :: rest.lexemes)
          (Known free rest.uses) (by simp) (by simp [Expression.uses, and_comm]) rfl rfl
      · exact (rest.callAt inside).lift (Expression.more t op pos) (t.lexemes ++ [op.lexeme]) []
          (Known free t.uses) (by simp) (by simp [Expression.uses]) (by simp) (by simp)

theorem Term.callAt : ∀ (t : Term) {u v : List Lexeme},
    t.lexemes = u ++ ([.name text, .opening] ++ v) →
    CallAt free Term.lexemes Term.uses t text u v
  | .last w, u, v, same =>
      (w.callAt same).lift Term.last [] [] True (by simp) (by simp [Term.uses]) rfl (by simp)
  | .more w op pos rest, u, v, same => by
      rw [Term.lexemes_more] at same
      rcases call_cases (factor_lexeme_ne op text).1 (factor_lexeme_ne op text).2 same with
        ⟨v', inside, rfl⟩ | ⟨u', rfl, inside⟩
      · exact (w.callAt inside).lift (Term.more · op pos rest) [] (op.lexeme :: rest.lexemes)
          (Known free rest.uses) (by simp) (by simp [Term.uses, and_comm]) rfl rfl
      · exact (rest.callAt inside).lift (Term.more w op pos) (w.lexemes ++ [op.lexeme]) []
          (Known free w.uses) (by simp) (by simp [Term.uses]) (by simp) (by simp)

theorem Unary.callAt : ∀ (w : Unary) {u v : List Lexeme},
    w.lexemes = u ++ ([.name text, .opening] ++ v) →
    CallAt free Unary.lexemes Unary.uses w text u v
  | .signed op pos operand, u, v, same => by
      rw [Unary.lexemes_signed] at same
      obtain ⟨u', rfl, inside⟩ := call_after (sign_lexeme_ne op text).1 same
      exact (operand.callAt inside).lift (Unary.signed op pos) [op.lexeme] [] True (by simp)
        (by simp [Unary.uses]) rfl (by simp)
  | .power p, u, v, same =>
      (p.callAt same).lift Unary.power [] [] True (by simp) (by simp [Unary.uses]) rfl (by simp)

theorem Power.callAt : ∀ (p : Power) {u v : List Lexeme},
    p.lexemes = u ++ ([.name text, .opening] ++ v) →
    CallAt free Power.lexemes Power.uses p text u v
  | .plain base, u, v, same => by
      rw [← List.append_nil v]
      exact base.callAt none same
  | .raised base pos exponent, u, v, same => by
      rw [Power.lexemes_raised] at same
      rcases call_cases (by simp) (by simp) same with ⟨v', inside, rfl⟩ | ⟨u', rfl, inside⟩
      · exact base.callAt (some (pos, exponent)) inside
      · exact (exponent.callAt inside).lift (Power.raised base pos) (base.lexemes ++ [.caret]) []
          (Known free base.uses) (by simp) (by simp [Power.uses]) (by simp) (by simp)

/-- A call that is no base itself is inside a bracket of the base. -/
theorem Primary.callAt : ∀ (b : Primary) (goesOn : Option (Nat × Unary)) {u v : List Lexeme},
    b.lexemes = u ++ ([.name text, .opening] ++ v) →
    CallAt free Power.lexemes Power.uses (.join b goesOn) text u (v ++ Power.goesOn goesOn)
  | .number t pos, goesOn, u, v, same => by
      have length := congrArg List.length same
      simp only [Primary.lexemes_number, List.length_append, List.length_cons] at length
      omega
  | .name t pos, goesOn, u, v, same => by
      have length := congrArg List.length same
      simp only [Primary.lexemes_name, List.length_append, List.length_cons] at length
      omega
  | .call t pos opening args closing, goesOn, u, v, same => by
      rw [Primary.lexemes_call] at same
      cases u with
      | nil =>
          obtain ⟨name, rest⟩ := List.cons.inj same
          obtain rfl : t = text := by simpa using name
          obtain rfl := (List.cons.inj rest).2
          exact ⟨id, pos, opening, args, closing, goesOn, [], True, rfl, by simp, by simp,
            by simp⟩
      | cons w u =>
          obtain ⟨rfl, rest⟩ := List.cons.inj same
          obtain ⟨u, rfl, within⟩ := call_after (by simp) rest
          obtain ⟨v, inside, rfl⟩ := call_before (by simp) (by simp) within
          exact args.callAt (fun args => Power.join (.call t pos opening args closing) goesOn)
            [.name t, .opening] (.closing :: Power.goesOn goesOn)
            ((Use.call t args.count).Known free ∧ Known free (Power.usesOn goesOn)) inside
            (by simp) (fun x same => by simp [Primary.uses, same]; tauto) rfl (by simp)
  | .group opening inner closing, goesOn, u, v, same => by
      rw [Primary.lexemes_group] at same
      obtain ⟨u, rfl, within⟩ := call_after (by simp) same
      obtain ⟨v, inside, rfl⟩ := call_before (by simp) (by simp) within
      exact (inner.callAt inside).lift (fun inner => Power.join (.group opening inner closing) goesOn)
        [.opening] (.closing :: Power.goesOn goesOn) (Known free (Power.usesOn goesOn)) (by simp)
        (by simp [Primary.uses, and_comm]) rfl (by simp)

/-- A call in an argument, in whatever holds the arguments and asks for their number. -/
theorem Args.callAt {β : Type} {lexemes : β → List Lexeme} {uses : β → List Use} :
    ∀ (a : Args) (wrap : Args → β) (pre post : List Lexeme) (others : Prop)
      {u v u' v' : List Lexeme}, a.lexemes = u ++ ([.name text, .opening] ++ v) →
    (∀ x, lexemes (wrap x) = pre ++ (x.lexemes ++ post)) →
    (∀ x : Args, x.count = a.count → (Known free (uses (wrap x)) ↔ others ∧ Known free x.uses)) →
    u' = pre ++ u → v' = v ++ post → CallAt free lexemes uses (wrap a) text u' v'
  | .last e, wrap, pre, post, others, u, v, u', v', same, words, known, left, right =>
      (e.callAt same).lift (fun e => wrap (.last e)) pre post others (by simp [words])
        (fun x => known (.last x) rfl) left right
  | .more e comma rest, wrap, pre, post, others, u, v, u', v', same, words, known, left, right => by
      rw [Args.lexemes_more] at same
      rcases call_cases (by simp) (by simp) same with ⟨v, inside, rfl⟩ | ⟨u, rfl, inside⟩
      · exact (e.callAt inside).lift (fun e => wrap (.more e comma rest)) pre
          (.comma :: (rest.lexemes ++ post)) (others ∧ Known free rest.uses) (by simp [words])
          (fun x => by
            rw [known (.more x comma rest) rfl, Args.uses, known_append]
            tauto) left (by simp [right])
      · exact rest.callAt (fun rest => wrap (.more e comma rest)) (pre ++ (e.lexemes ++ [.comma]))
          post (others ∧ Known free e.uses) inside (by simp [words])
          (fun x count => by
            rw [known (.more e comma x) (by simp [Args.count, count]), Args.uses, known_append]
            tauto) (by simp [left]) right

end

end Calls

end Quadrature.Grammar

namespace Quadrature.Caret

set_option autoImplicit false

open Quadrature.Text
open Quadrature.Lexeme
open Quadrature.Piece (spell)

/-- Letters right before a parenthesis are the end of a name, and the name is called: no letter is
right before a name. -/
theorem exists_called {ps : List Piece} {tail x w y : List Char}
    (apart : (ps.map Piece.word).IsChain Apart) (blank : ∀ c ∈ tail, isBlank c = true)
    (letters : ∀ c ∈ w, isNameStart c = true) (some : w ≠ [])
    (text : spell ps ++ tail = x ++ w ++ '(' :: y) :
    ∃ qs q o vs name stem, ps = qs ++ q :: o :: vs ∧ q.word = .name name ∧ o.word = .opening ∧
      name.toList = stem ++ w ∧ x = spell qs ++ q.gap ++ stem ∧ y = spell vs ++ tail := by
  obtain ⟨us, o, vs, rfl, opening, before, rfl⟩ :=
    exists_symbol_piece (w := .opening) rfl (by decide) blank text
  obtain ⟨w, c, rfl⟩ := exists_concat some
  have letter := letters c (by simp)
  obtain ⟨near, qs, q, t, rfl, last, suffix⟩ := exists_last_piece o.blank
    (nameStart_separate letter).1 (show w ++ [c] <:+ spell us ++ o.gap from ⟨x, before⟩)
  obtain ⟨name, word⟩ := exists_name_of_letter q.fits letter last
  have apart' : ((qs ++ [q]).map Piece.word).IsChain Apart := by
    rw [List.map_append] at apart
    exact (List.isChain_append.1 apart).1
  obtain ⟨stem, rfl⟩ : w <:+ t := by
    obtain ⟨u, same⟩ := suffix
    rcases List.append_eq_append_iff.1 same with ⟨a, front, rest⟩ | ⟨b, -, whole⟩
    · rcases List.eq_nil_or_concat a with rfl | ⟨a, d, rfl⟩
      · exact ⟨[], by simpa using rest⟩
      · rw [List.concat_eq_append] at front rest
        obtain ⟨ink, -, -, other, -⟩ := nameStart_separate (letters d (by simp [rest]))
        obtain ⟨w', symbol⟩ := exists_symbol_before_name apart' word ink ⟨u, front.symm⟩
        simp [other] at symbol
    · exact ⟨b, whole.symm⟩
  rw [word, Lexeme.text, List.append_assoc] at last
  refine ⟨qs, q, o, vs, name, stem, by simp, word, opening, last, ?_, rfl⟩
  rw [near, List.append_nil, spell_concat, word, Lexeme.text, last] at before
  exact List.append_cancel_right (before.trans (List.append_assoc _ _ _).symm)

end Quadrature.Caret
