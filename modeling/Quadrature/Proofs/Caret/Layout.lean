/-
# Quadrature.Proofs.Caret.Layout -- blanks between the words of an expression

Blanks may be put between words, and before the first and after the last. The text is then spelled
by the same words with more blanks before them. Expansion looks at blanks for one reason only: a
number is glued to a sign and a name if nothing stands between them. More blanks glue nothing, and a
text in which something is glued is not compiled. So what the pipeline compiles it also compiles
with more blanks, to the same function.

* `exists_padded`: the pieces of the text with blanks put in;
* `Glued.of_spread`: more blanks glue nothing;
* `compile_padded`: the pipeline compiles both texts to the same function.
-/
import Mathlib.Data.List.Forall2
import Quadrature.Proofs.Caret.Rejection
import Quadrature.Proofs.Pipeline

namespace Quadrature

set_option autoImplicit false

open Quadrature.Text
open Quadrature.Piece (spell place)

namespace Caret

/-! ## Texts with blanks put in -/

/-- The text from an offset on, with `pad i` written before the character at the offset `i`, and
before its end. -/
def padded (pad : Nat → List Char) (offset : Nat) : List Char → List Char
  | [] => pad offset
  | c :: cs => pad offset ++ c :: padded pad (offset + 1) cs

/-- What is written are blanks, and nothing is written inside a word. -/
structure Pads (pad : Nat → List Char) (words : List Token) : Prop where
  blank : ∀ i, ∀ c ∈ pad i, isBlank c = true
  outside : ∀ t ∈ words, ∀ i, t.position < i →
    i < t.position + t.lexeme.text.toList.length → pad i = []

section Padding

variable {pad : Nat → List Char}

/-- A word stays in one piece. -/
theorem padded_word {w : List Char} (some : w ≠ []) (s : List Char) (n : Nat)
    (inside : ∀ i, n < i → i < n + w.length → pad i = []) :
    padded pad n (w ++ s) = pad n ++ (w ++ padded pad (n + w.length) s) := by
  induction w generalizing n with
  | nil => exact absurd rfl some
  | cons c w ih =>
      cases w with
      | nil => simp [padded]
      | cons d w =>
          have next : pad (n + 1) = [] := inside (n + 1) (by omega) (by simp)
          have later := ih (by simp) (n + 1) fun i after before => inside i (by omega) (by
            simp only [List.length_cons] at before ⊢
            omega)
          have length : n + 1 + (d :: w).length = n + (c :: d :: w).length := by
            simp only [List.length_cons]
            omega
          rw [List.cons_append, padded, later, next, length]
          rfl

/-- Blanks stay blanks, and do not vanish. -/
theorem exists_padded_blanks (blanks : ∀ i, ∀ c ∈ pad i, isBlank c = true) {g : List Char}
    (blank : ∀ c ∈ g, isBlank c = true) (s : List Char) (n : Nat) :
    ∃ g', (∀ c ∈ g', isBlank c = true) ∧ (g' = [] → g = []) ∧
      padded pad n (g ++ s) = g' ++ padded pad (n + g.length) s := by
  induction g generalizing n with
  | nil => exact ⟨[], by simp, by simp, by simp⟩
  | cons c g ih =>
      obtain ⟨g', blank', -, later⟩ := ih (fun c member => blank c (by simp [member])) (n + 1)
      refine ⟨pad n ++ c :: g', fun x member => ?_, by simp, ?_⟩
      · rcases List.mem_append.1 member with first | last
        · exact blanks n x first
        · rcases List.mem_cons.1 last with rfl | inside
          · exact blank x (by simp)
          · exact blank' x inside
      · have length : n + 1 + g.length = n + (c :: g).length := by
          simp only [List.length_cons]
          omega
        rw [List.cons_append, padded, later, length, List.append_assoc, List.cons_append]

end Padding

/-! ## Pieces further apart -/

/-- The same words, with blanks before a word wherever there were some. -/
def Spread (ps ps' : List Piece) : Prop :=
  List.Forall₂ (fun p p' => p'.word = p.word ∧ (p'.gap = [] → p.gap = [])) ps ps'

section Spreading

variable {ps xs ys : List Piece}

theorem Spread.words {ps' : List Piece} (spread : Spread ps ps') :
    ps'.map Piece.word = ps.map Piece.word := by
  induction spread with
  | nil => rfl
  | cons same _ ih => rw [List.map_cons, List.map_cons, same.1, ih]

theorem Spread.split (spread : Spread ps (xs ++ ys)) :
    ∃ us vs, ps = us ++ vs ∧ Spread us xs ∧ Spread vs ys :=
  ⟨ps.take xs.length, ps.drop xs.length, (List.take_append_drop xs.length ps).symm,
    List.forall₂_take_append ps xs ys spread, List.forall₂_drop_append ps xs ys spread⟩

theorem Spread.uncons {p' : Piece} (spread : Spread ps (p' :: ys)) :
    ∃ p vs, ps = p :: vs ∧ p'.word = p.word ∧ (p'.gap = [] → p.gap = []) ∧ Spread vs ys := by
  obtain ⟨p, vs, ⟨word, gap⟩, rest, rfl⟩ := List.forall₂_cons_right_iff.1 spread
  exact ⟨p, vs, rfl, word, gap, rest⟩

theorem Twice.spread (twice : Twice ps) (spread : Spread ps ys) : Twice ys := by
  obtain ⟨q, q', rest, op, op', rfl, sign, sign'⟩ := twice
  obtain ⟨p, us, ⟨word, -⟩, later, rfl⟩ := List.forall₂_cons_left_iff.1 spread
  obtain ⟨p', us, ⟨word', -⟩, -, rfl⟩ := List.forall₂_cons_left_iff.1 later
  exact ⟨p, p', us, op, op', rfl, word.trans sign, word'.trans sign'⟩

/-- More blanks glue nothing. -/
theorem Glued.of_spread (glued : Glued ys) (spread : Spread ps ys) : Glued ps := by
  obtain ⟨xs, p', q', n', cr', vs', rfl, ⟨⟨hook⟩, near, ⟨t, number⟩, digits, caret⟩, once⟩ := glued
  obtain ⟨us, window, rfl, -, spread⟩ := spread.split
  obtain ⟨p, window, rfl, same, -, spread⟩ := spread.uncons
  obtain ⟨q, window, rfl, same', gap', spread⟩ := spread.uncons
  obtain ⟨n, window, rfl, same'', gap'', spread⟩ := spread.uncons
  obtain ⟨cr, vs, rfl, same''', -, spread⟩ := spread.uncons
  exact ⟨us, p, q, n, cr, vs, rfl,
    ⟨⟨{ hook with
        name := same.symm.trans hook.name
        sign := same'.symm.trans hook.sign
        near := gap' hook.near }⟩,
      gap'' near, ⟨t, same''.symm.trans number⟩, same'' ▸ digits, same'''.symm.trans caret⟩,
    fun twice => once (twice.spread spread)⟩

end Spreading

/-- The text with blanks put in is spelled by the same words with more blanks before them. -/
theorem exists_padded {pad : Nat → List Char} {ps : List Piece} {tail : List Char} {n : Nat}
    (pads : Pads pad (place n ps)) (blank : ∀ c ∈ tail, isBlank c = true) :
    ∃ ps' tail', padded pad n (spell ps ++ tail) = spell ps' ++ tail' ∧
      (∀ c ∈ tail', isBlank c = true) ∧ Spread ps ps' := by
  obtain ⟨blanks, outside⟩ := pads
  induction ps generalizing n with
  | nil =>
      obtain ⟨g, blank', -, text⟩ := exists_padded_blanks blanks blank [] n
      refine ⟨[], g ++ pad (n + tail.length), ?_, fun c member => ?_, .nil⟩
      · rw [List.append_nil] at text
        exact text
      · rcases List.mem_append.1 member with first | last
        · exact blank' c first
        · exact blanks _ c last
  | cons p ps ih =>
      obtain ⟨ps', tail', later, blank', spread⟩ :=
        ih (n := n + p.gap.length + p.word.text.toList.length)
          fun t member => outside t (by simp [place, member])
      obtain ⟨g, blank'', kept, text⟩ := exists_padded_blanks blanks p.blank
        (p.word.text.toList ++ (spell ps ++ tail)) n
      obtain ⟨c, s, head, -⟩ := p.fits.head
      have word := padded_word (by simp [head]) (spell ps ++ tail) (n + p.gap.length)
        (outside ⟨p.word, n + p.gap.length⟩ (by simp [place]))
      refine ⟨⟨g ++ pad (n + p.gap.length), p.word, fun x member => ?_, p.fits⟩ :: ps', tail', ?_,
        blank', .cons ⟨rfl, fun none => kept (List.append_eq_nil_iff.1 none).1⟩ spread⟩
      · rcases List.mem_append.1 member with first | last
        · exact blank'' x first
        · exact blanks _ x last
      · rw [spell, List.append_assoc, List.append_assoc, text, word, later]
        simp [spell]

end Caret

namespace Pipeline

open Caret

/-- **The layout of an expression does not matter**: what the pipeline compiles is made of words,
and with blanks put between these, unless it reaches the limit of depth then, it is compiled to the
same function. -/
theorem compile_padded {config : Config} {source : String} {f : Compiled}
    (compiled : (compile config source).run.value = .ok f) :
    ∃ tokens, Token.tokenize source.toList = .ok tokens ∧
      ∀ pad, Pads pad tokens.words →
        (compile config (String.ofList (padded pad 0 source.toList))).run.value ≠
          .error .nestedTooDeeply →
        ∃ g, (compile config (String.ofList (padded pad 0 source.toList))).run.value = .ok g ∧
          ∀ x, g.evaluate x = f.evaluate x := by
  rw [compile_value] at compiled
  obtain ⟨identifier, t, read, accepted, -⟩ := Compiled.of_compiled compiled
  rw [normalizeString, String.toList_ofList] at read
  obtain ⟨e, ps, tail, text, blank, tokenized, words, known⟩ :=
    (Compiled.Readable.of_normalize ⟨t, read, accepted⟩).exists_spelling
  refine ⟨_, tokenized, fun pad pads shallow => ?_⟩
  -- Nothing is glued in a text that is compiled.
  have single : ¬ Glued ps := fun glued =>
    Compiled.not_compiled_of_glued text words blank glued compiled
  obtain ⟨f', again, values⟩ := Compiled.compiled_of_spelling identifier text words blank known
    single (by rw [show Compiled.ofTextWithin _ _ _ = .ok f from compiled]; simp)
  obtain rfl := Except.ok.inj (again.symm.trans compiled)
  obtain ⟨ps', tail', text', blank', spread⟩ := exists_padded pads blank
  rw [compile_value] at shallow ⊢
  obtain ⟨g, compiled', values'⟩ := Compiled.compiled_of_spelling identifier
    (by rw [String.toList_ofList, text, text']) (spread.words.trans words) blank' known
    (fun glued => single (glued.of_spread spread)) shallow
  exact ⟨g, compiled', fun x => (values' x).trans (values x).symm⟩

/-- The theorem at a power, with a blank before its caret and one at the end. -/
theorem compile_padded_signed : ∃ f g,
    (compile Config.standard "2^-x").run.value = .ok f ∧
      (compile Config.standard "2 ^-x ").run.value = .ok g ∧ ∀ x, g.evaluate x = f.evaluate x := by
  have identifier : isIdentifier Config.standard.variableName.toList = true := by decide +kernel
  have tokenized : Token.tokenize "2^-x".toList =
      .ok ⟨[⟨.number "2", 0⟩, ⟨.caret, 1⟩, ⟨.minus, 2⟩, ⟨.name "x", 3⟩], 4⟩ := by decide +kernel
  -- Both expansions are read as the same call.
  have reads : ∀ finish text, Token.tokenize text = .ok ⟨[⟨.name "pow", 0⟩, ⟨.opening, 3⟩,
      ⟨.number "2", 4⟩, ⟨.comma, 5⟩, ⟨.minus, 7⟩, ⟨.name "x", 8⟩, ⟨.closing, 9⟩], finish⟩ →
      Parse.parseWithin (some Parse.depthLimit) text = .ok (.call "pow"
        [.const (Parse.numberValue "2"), .unary .sub (.var "x" 8)] 0) := by
    intro finish text words
    rw [Parse.parseWithin, words]
    rfl
  have read := reads 10 "pow(2, -x)".toList (by decide +kernel)
  have read' := reads 11 "pow(2, -x) ".toList (by decide +kernel)
  obtain ⟨f, compiled⟩ : ∃ f, (compile Config.standard "2^-x").run.value = .ok f := by
    rw [compile_value, show normalizeString "2^-x" = "pow(2, -x)" by decide +kernel]
    exact Compiled.exists_ofTextWithin identifier read rfl rfl
  have shallow : (compile Config.standard "2 ^-x ").run.value ≠ .error .nestedTooDeeply := by
    obtain ⟨g, compiled'⟩ := Compiled.exists_ofTextWithin identifier read' rfl rfl
    rw [compile_value, show normalizeString "2 ^-x " = "pow(2, -x) " by decide +kernel,
      Compiled.ofText, compiled']
    intro refused
    cases refused
  let pad : Nat → List Char := fun i => if i = 1 ∨ i = 4 then [' '] else []
  have spaced : String.ofList (padded pad 0 "2^-x".toList) = "2 ^-x " := by decide +kernel
  obtain ⟨tokens, tokenized', layout⟩ := compile_padded compiled
  obtain rfl := Except.ok.inj (tokenized.symm.trans tokenized')
  have pads : Pads pad [⟨.number "2", 0⟩, ⟨.caret, 1⟩, ⟨.minus, 2⟩, ⟨.name "x", 3⟩] := by
    constructor
    · intro i c member
      by_cases some : i = 1 ∨ i = 4
      · exact isBlank_space c (by simpa [pad, some] using member)
      · simp [pad, some] at member
    · -- Every word is one character.
      intro t member i after before
      have short : t.lexeme.text.toList.length = 1 := by
        simp only [List.mem_cons, List.not_mem_nil, or_false] at member
        rcases member with rfl | rfl | rfl | rfl <;> rfl
      omega
  have padded := layout pad pads
  rw [spaced] at padded
  obtain ⟨g, compiled', values⟩ := padded shallow
  exact ⟨f, g, compiled, compiled', values⟩

end Pipeline

end Quadrature
