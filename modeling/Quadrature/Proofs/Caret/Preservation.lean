/-
# Quadrature.Proofs.Caret.Preservation -- what expansion does to the compiled function

A text and its expansion are both compiled. Where a base is glued to what is before it, expansion
makes the call of a name that no function has, and nothing is compiled. Everywhere else the
expansion is compiled to what the text denotes as expansion groups powers: a chain of powers that
reaches an exponent with two signs is cut before its caret, so that `2^3^--2` has the value of
`(2^3)^--2`.

* `not_compiled_of_miscalled`: no text that calls such a name is compiled;
* `compiled_of_spelling`, `compiled_of_free`: what the expansion is compiled to;
* `compile_normalize_iff`: exactly when both compile to the same function.
-/
import Quadrature.Proofs.Caret.Called
import Quadrature.Proofs.Caret.Glue
import Quadrature.Proofs.Caret.Words

namespace Quadrature

set_option autoImplicit false

open Quadrature.Text
open Quadrature.Lexeme
open Quadrature.Piece (spell place)
open Quadrature.Grammar (Expression Known)
open Quadrature.Parse (parseWithin)

namespace Caret

/-! ## Calls of longer names -/

/-- No function has a name that is longer than `pow` and ends with it. -/
theorem builtin_longer {name : String} {s : List Char} {c : Char}
    (ends : name.toList = s ++ [c, 'p', 'o', 'w']) : Builtin.named? name = none := by
  have names : ∀ known ∈ Builtin.table.map (·.1),
      known.toList.getLast? = some 'w' → known.toList.length = 3 := by decide +kernel
  apply Option.eq_none_iff_forall_ne_some.2
  intro f found
  obtain ⟨entry, first, -⟩ := Option.map_eq_some_iff.1 found
  obtain rfl : entry.1 = name := by simpa using List.find?_some first
  have short := names entry.1 (List.mem_map_of_mem (List.mem_of_find?_eq_some first))
    (by rw [ends]; simp)
  rw [ends] at short
  simp at short

/-- The call in a text of words is that of a name that no function has. -/
theorem exists_unknown_call {ps : List Piece} {tail : List Char}
    (apart : (ps.map Piece.word).IsChain Apart) (blank : ∀ c ∈ tail, isBlank c = true)
    (miscalled : Miscalled (spell ps ++ tail)) :
    ∃ name u v, Builtin.named? name = none ∧
      ps.map Piece.word = u ++ ([.name name, .opening] ++ v) := by
  obtain ⟨c, letter, x, y, text⟩ := miscalled
  have split : spell ps ++ tail = x ++ [c, 'p', 'o', 'w'] ++ '(' :: y := by
    rw [← text]
    simp [longCall]
  have letters : ∀ x ∈ [c, 'p', 'o', 'w'], isNameStart x = true := by
    simp [letter]
    decide
  obtain ⟨qs, q, o, vs, name, stem, rfl, word, opening, ends, -⟩ :=
    exists_called apart blank letters (by simp) split
  exact ⟨name, qs.map Piece.word, vs.map Piece.word, builtin_longer ends, by simp [word, opening]⟩

/-- Behind settled carets no exponent makes a chain. -/
theorem whole_of_settled {e : Expression} {ps : List Piece}
    (words : ps.map Piece.word = e.lexemes) (settled : Settled ps) :
    ∀ u ∈ e.exponents, u.Whole := by
  intro u member
  obtain ⟨a, b, raised⟩ := e.raises u member
  obtain ⟨us, rest, rfl, -, behind⟩ := List.map_eq_append_iff.1 (words.trans raised)
  obtain ⟨cr, vs, rfl, caret, exponent⟩ := List.map_eq_cons_iff.1 behind
  have none := grouping_eq_none_of_twice exponent (settled us cr vs rfl caret)
  simp [Grammar.Unary.Whole, none]

end Caret

/-! ## Compiled texts -/

namespace Compiled

open Caret

variable {limit : Option Nat} {source free : String}

theorem ofTextWithin_eq {t : Expr} (identifier : isIdentifier free.toList = true)
    (read : parseWithin limit source.toList = .ok t) : ofTextWithin limit source free =
      (t.build limit free).map fun evaluate => ⟨source, free, t, evaluate⟩ := by
  unfold ofTextWithin
  rw [identifier, read]
  show (do return (⟨source, free, t, ← t.build limit free⟩ : Compiled)) = _
  cases t.build limit free <;> rfl

/-- A text is compiled if no node of its tree is faulty. -/
theorem exists_ofTextWithin {t : Expr} (identifier : isIdentifier free.toList = true)
    (read : parseWithin limit source.toList = .ok t) (sound : Expr.check free t = .ok ())
    (shallow : Parse.within limit (2 * t.levels + 2) = true) :
    ∃ f, ofTextWithin limit source free = .ok f := by
  obtain ⟨f, built⟩ := Expr.exists_build sound shallow
  rw [ofTextWithin_eq identifier read, built]
  exact ⟨_, rfl⟩

/-- A text is refused for the first fault of its tree. -/
theorem ofTextWithin_of_fault {t : Expr} {fault : CompileError}
    (identifier : isIdentifier free.toList = true)
    (read : parseWithin limit source.toList = .ok t) (faulty : Expr.check free t = .error fault)
    (shallow : Parse.within limit (2 * t.levels + 2) = true) :
    ofTextWithin limit source free = .error fault := by
  rw [ofTextWithin_eq identifier read, Expr.build_of_fault faulty shallow]
  rfl

/-- A text that is compiled is read and built within the limit. -/
theorem built_of_compiled {f : Compiled} (compiled : ofTextWithin limit source free = .ok f) :
    isIdentifier free.toList = true ∧ ∃ t, parseWithin limit source.toList = .ok t ∧
      t.build limit free = .ok f.evaluate := by
  have identifier : isIdentifier free.toList = true := by
    by_contra other
    simp [ofTextWithin, Bool.eq_false_iff.2 other] at compiled
  refine ⟨identifier, ?_⟩
  cases read : parseWithin limit source.toList with
  | error fault => simp [ofTextWithin, identifier, read, bind, Except.bind] at compiled
  | ok t =>
      rw [ofTextWithin_eq identifier read] at compiled
      cases built : t.build limit free with
      | error fault => simp [built, Except.map] at compiled
      | ok evaluate =>
          rw [built] at compiled
          obtain rfl := Except.ok.inj compiled
          exact ⟨t, rfl, built⟩

/-- A text is compiled to what its tree denotes. -/
theorem of_compiled {f : Compiled} (compiled : ofTextWithin limit source free = .ok f) :
    isIdentifier free.toList = true ∧ ∃ t, parseWithin none source.toList = .ok t ∧
      Expr.Accepted free t ∧ ∀ x, f.evaluate x = Expr.interpret free x t := by
  obtain ⟨identifier, t, read, built⟩ := built_of_compiled compiled
  have refined := t.build_refines limit free
  rw [built] at refined
  exact ⟨identifier, t, (Parse.parseWithin_limited limit _).eq_ok read, refined.1, refined.2⟩

/-- A text that is read as an accepted tree is compiled, unless it is nested too deeply. -/
theorem compiled_of {t : Expr} (identifier : isIdentifier free.toList = true)
    (read : parseWithin none source.toList = .ok t) (accepted : Expr.Accepted free t)
    (shallow : ofTextWithin limit source free ≠ .error .nestedTooDeeply) :
    ∃ f, ofTextWithin limit source free = .ok f ∧ ∀ x, f.evaluate x = Expr.interpret free x t := by
  rcases Parse.parseWithin_limited limit source.toList with same | deep
  · rw [ofTextWithin_eq identifier (same.trans read)] at shallow ⊢
    have refined := t.build_refines limit free
    cases built : t.build limit free with
    | error fault =>
        rw [built] at refined shallow
        rcases refined with checked | ⟨-, rfl⟩
        · exact absurd (checked.symm.trans accepted) (by simp)
        · exact absurd rfl shallow
    | ok evaluate =>
        rw [built] at refined
        exact ⟨⟨source, free, t, evaluate⟩, rfl, refined.2⟩
  · simp [ofTextWithin, identifier, deep, bind, Except.bind] at shallow

/-- No text that calls a name longer than `pow` that ends with it is compiled. -/
theorem not_compiled_of_miscalled {f : Compiled} (miscalled : Miscalled source.toList) :
    ofTextWithin limit source free ≠ .ok f := by
  intro compiled
  obtain ⟨-, t, read, accepted, -⟩ := of_compiled compiled
  obtain ⟨e, ps, tail, text, blank, -, words, rfl⟩ := Grammar.exists_spelling read
  have spelled : ps.map Piece.word = e.lexemes := by
    rw [Expression.lexemes, words, Piece.place_lexeme]
  rw [text] at miscalled
  obtain ⟨name, u, v, unknown, around⟩ := exists_unknown_call (spelled ▸ e.apart) blank miscalled
  obtain ⟨f, known⟩ := (e.callAt (spelled.symm.trans around)).called_known
    (e.accepted_tree.1 accepted)
  simp [unknown] at known

/-- A chain of powers that reaches no exponent with two signs is not cut. -/
theorem interpret_regrouped_of_whole {e : Expression} (whole : ∀ u ∈ e.exponents, u.Whole)
    (free : String) (x : Float) :
    Expr.interpret free x e.regrouped = Expr.interpret free x e.tree := by
  rw [Expression.regrouped_eq whole, Expr.interpret_unplaced, Expr.interpret_desugared]

/-- Where no base is glued in the pieces that spell a text, the expansion is compiled to what the
text denotes as expansion groups powers. -/
theorem compiled_of_spelling {e : Expression} {ps : List Piece} {tail : List Char}
    (identifier : isIdentifier free.toList = true) (text : source.toList = spell ps ++ tail)
    (words : ps.map Piece.word = e.lexemes) (blank : ∀ c ∈ tail, isBlank c = true)
    (known : Known free e.uses) (single : ¬ Glued ps)
    (shallow : ofTextWithin limit (normalizeString source) free ≠ .error .nestedTooDeeply) :
    ∃ g, ofTextWithin limit (normalizeString source) free = .ok g ∧
      ∀ x, g.evaluate x = Expr.interpret free x e.regrouped := by
  obtain ⟨e', ps', normal, words', regrouped, settled, -⟩ := normalize_run words blank single
  obtain ⟨e'', lexemes, regrouped', read'⟩ := Grammar.parse_spelling words' blank
  have same : e''.regrouped = e.regrouped := regrouped'.trans regrouped
  have accepted' : Expr.Accepted free e''.tree := by
    rw [← e''.accepted_regrouped, same, e.accepted_regrouped]
    exact e.accepted_tree.2 known
  rw [← normal, ← text, ← String.toList_ofList (l := normalize source.toList)] at read'
  obtain ⟨g, compiled', values⟩ := compiled_of identifier read' accepted' shallow
  refine ⟨g, compiled', fun x => ?_⟩
  have whole := whole_of_settled (words'.trans lexemes.symm) settled
  rw [values, ← same, interpret_regrouped_of_whole whole]

/-- Where a base is glued, the expansion is not compiled. -/
theorem not_compiled_of_glued {f : Compiled} {e : Expression} {ps : List Piece} {tail : List Char}
    (text : source.toList = spell ps ++ tail) (words : ps.map Piece.word = e.lexemes)
    (blank : ∀ c ∈ tail, isBlank c = true) (glued : Glued ps) :
    ofTextWithin limit (normalizeString source) free ≠ .ok f := by
  have miscalled := normalize_glued words blank glued
  rw [← text, ← String.toList_ofList (l := normalize source.toList)] at miscalled
  exact not_compiled_of_miscalled miscalled

/-- Where no base is glued, the expansion is compiled to what the text denotes as expansion groups
powers. -/
theorem compiled_of_free {f : Compiled} {tokens : Tokens} {e : Expression}
    (compiled : ofTextWithin limit source free = .ok f)
    (tokenized : Token.tokenize source.toList = .ok tokens) (derived : e.words = tokens.words)
    (shallow : ofTextWithin limit (normalizeString source) free ≠ .error .nestedTooDeeply)
    (single : ¬ Token.Glued tokens.words) :
    ∃ g, ofTextWithin limit (normalizeString source) free = .ok g ∧
      ∀ x, g.evaluate x = Expr.interpret free x e.regrouped := by
  obtain ⟨identifier, t, read, accepted, -⟩ := of_compiled compiled
  obtain ⟨e₀, ps, tail, text, blank, tokenized', words, rfl⟩ := Grammar.exists_spelling read
  obtain rfl := Except.ok.inj (tokenized.symm.trans tokenized')
  obtain rfl : e = e₀ := Expression.unambiguous (derived.trans words.symm)
  have spelled : ps.map Piece.word = e.lexemes := by
    rw [Expression.lexemes, words, Piece.place_lexeme]
  exact compiled_of_spelling identifier text spelled blank (e.accepted_tree.1 accepted)
    (mt glued_iff.2 single) shallow

/-- **When expansion keeps the compiled function**: a text and its expansion are compiled to the
same function if and only if no base of digits is glued to a hook, and at every point the text has
the value that it has where chains of powers are cut before an exponent with two signs. That is the
value of the text wherever no chain reaches such an exponent. -/
theorem compile_normalize_iff {source free : String} {f : Compiled} {tokens : Tokens}
    {e : Expression} (compiled : ofText source free = .ok f)
    (tokenized : Token.tokenize source.toList = .ok tokens) (derived : e.words = tokens.words)
    (shallow : ofText (normalizeString source) free ≠ .error .nestedTooDeeply) :
    ((∃ g, ofText (normalizeString source) free = .ok g ∧ ∀ x, g.evaluate x = f.evaluate x) ↔
      ¬ Token.Glued tokens.words ∧ ∀ x, Expr.interpret free x e.regrouped = f.evaluate x) ∧
    ((∀ u ∈ e.exponents, u.Whole) →
      ∀ x, Expr.interpret free x e.regrouped = f.evaluate x) := by
  refine ⟨⟨?_, ?_⟩, fun whole x => ?_⟩
  · rintro ⟨g, compiled', same⟩
    have single : ¬ Token.Glued tokens.words := by
      intro glued
      obtain ⟨identifier, t, read, -⟩ := of_compiled compiled
      obtain ⟨e₀, ps, tail, text, blank, tokenized', words, rfl⟩ := Grammar.exists_spelling read
      obtain rfl := Except.ok.inj (tokenized.symm.trans tokenized')
      have spelled : ps.map Piece.word = e₀.lexemes := by
        rw [Expression.lexemes, words, Piece.place_lexeme]
      exact not_compiled_of_glued text spelled blank (glued_iff.1 glued) compiled'
    obtain ⟨g', again, values⟩ := compiled_of_free compiled tokenized derived shallow single
    obtain rfl := Except.ok.inj (compiled'.symm.trans again)
    exact ⟨single, fun x => (values x).symm.trans (same x)⟩
  · rintro ⟨single, same⟩
    obtain ⟨g, compiled', values⟩ := compiled_of_free compiled tokenized derived shallow single
    exact ⟨g, compiled', fun x => (values x).trans (same x)⟩
  · obtain ⟨-, t, read, -, values⟩ := of_compiled compiled
    obtain ⟨e₀, words, rfl⟩ := (Grammar.parseWithin_none_eq_ok_iff tokenized).1 read
    obtain rfl : e = e₀ := Expression.unambiguous (derived.trans words.symm)
    rw [interpret_regrouped_of_whole whole, values]

/-- The theorem at a power with a signed exponent. -/
theorem compile_normalize_signed :
    ∃ f g, ofText "2^-x" "x" = .ok f ∧ ofText (normalizeString "2^-x") "x" = .ok g ∧
      ∀ x, g.evaluate x = f.evaluate x := by
  have identifier : isIdentifier "x".toList = true := by decide +kernel
  have tokenized : Token.tokenize "2^-x".toList =
      .ok ⟨[⟨.number "2", 0⟩, ⟨.caret, 1⟩, ⟨.minus, 2⟩, ⟨.name "x", 3⟩], 4⟩ := by decide +kernel
  have read : parseWithin (some Parse.depthLimit) "2^-x".toList = .ok (.binary .pow
      (.const (Parse.numberValue "2")) (.unary .sub (.var "x" 3))) := by
    rw [parseWithin, tokenized]
    rfl
  obtain ⟨f, compiled⟩ : ∃ f, ofText "2^-x" "x" = .ok f :=
    exists_ofTextWithin identifier read rfl rfl
  have normal : normalizeString "2^-x" = "pow(2, -x)" := by decide +kernel
  have tokenized' : Token.tokenize "pow(2, -x)".toList = .ok ⟨[⟨.name "pow", 0⟩, ⟨.opening, 3⟩,
      ⟨.number "2", 4⟩, ⟨.comma, 5⟩, ⟨.minus, 7⟩, ⟨.name "x", 8⟩, ⟨.closing, 9⟩], 10⟩ := by
    decide +kernel
  have read' : parseWithin (some Parse.depthLimit) "pow(2, -x)".toList = .ok (.call "pow"
      [.const (Parse.numberValue "2"), .unary .sub (.var "x" 8)] 0) := by
    rw [parseWithin, tokenized']
    rfl
  have shallow : ofText (normalizeString "2^-x") "x" ≠ .error .nestedTooDeeply := by
    obtain ⟨g, compiled'⟩ := exists_ofTextWithin identifier read' rfl rfl
    rw [normal, ofText, compiled']
    intro refused
    cases refused
  let e : Expression := .last (.last (.power (.raised (.number "2" 0) 1
    (.signed .minus 2 (.power (.plain (.name "x" 3)))))))
  have single : ¬ Token.Glued [⟨.number "2", 0⟩, ⟨.caret, 1⟩, ⟨.minus, 2⟩, ⟨.name "x", 3⟩] := by
    rintro ⟨us, a, b, n, caret, vs, digits, split, ⟨stem, digit, mark, op, name, -⟩, -⟩
    simp only [List.cons_eq_append_iff, List.cons.injEq] at split
    obtain ⟨-, rfl, -⟩ | ⟨_, -, split⟩ := split
    · cases name
    · simp at split
  have whole : ∀ u ∈ e.exponents, u.Whole := by
    intro u member
    obtain rfl : u = .signed .minus 2 (.power (.plain (.name "x" 3))) := by
      simpa [e, Expression.exponents, Grammar.Term.exponents, Grammar.Unary.exponents,
        Grammar.Power.exponents, Grammar.Primary.exponents] using member
    exact Grammar.Unary.whole _ (by
      simp [Grammar.Unary.exponents, Grammar.Power.exponents, Grammar.Primary.exponents])
  obtain ⟨same, uncut⟩ := compile_normalize_iff compiled tokenized (e := e) rfl shallow
  obtain ⟨g, compiled', values⟩ := same.2 ⟨single, uncut whole⟩
  exact ⟨f, g, compiled, compiled', values⟩

/-- A base that is glued: the text is compiled, and its expansion calls an unknown function. -/
theorem compile_normalize_glued :
    (∃ f, ofText "x1e+3^2" "x1e" = .ok f) ∧
      ofText (normalizeString "x1e+3^2") "x1e" = .error (.unknownFunction "xpow" 0) := by
  have identifier : isIdentifier "x1e".toList = true := by decide +kernel
  constructor
  · have tokenized : Token.tokenize "x1e+3^2".toList = .ok ⟨[⟨.name "x1e", 0⟩, ⟨.plus, 3⟩,
        ⟨.number "3", 4⟩, ⟨.caret, 5⟩, ⟨.number "2", 6⟩], 7⟩ := by decide +kernel
    have read : parseWithin (some Parse.depthLimit) "x1e+3^2".toList = .ok (.binary .add
        (.var "x1e" 0) (.binary .pow (.const (Parse.numberValue "3"))
          (.const (Parse.numberValue "2")))) := by
      rw [parseWithin, tokenized]
      rfl
    exact exists_ofTextWithin identifier read rfl rfl
  · have normal : normalizeString "x1e+3^2" = "xpow(1e+3, 2)" := by decide +kernel
    have tokenized : Token.tokenize "xpow(1e+3, 2)".toList = .ok ⟨[⟨.name "xpow", 0⟩, ⟨.opening, 4⟩,
        ⟨.number "1e+3", 5⟩, ⟨.comma, 9⟩, ⟨.number "2", 11⟩, ⟨.closing, 12⟩], 13⟩ := by
      decide +kernel
    have read : parseWithin (some Parse.depthLimit) "xpow(1e+3, 2)".toList = .ok (.call "xpow"
        [.const (Parse.numberValue "1e+3"), .const (Parse.numberValue "2")] 0) := by
      rw [parseWithin, tokenized]
      rfl
    rw [normal]
    exact ofTextWithin_of_fault identifier read rfl rfl

end Compiled

end Quadrature
