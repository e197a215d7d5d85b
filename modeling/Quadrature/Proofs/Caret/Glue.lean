/-
# Quadrature.Proofs.Caret.Glue -- what becomes of a glued base

In `x1e+3^2` the base is `3`, and expansion takes `1e+3`: it writes `pow(` behind the `x` and so
calls `xpow`. Other powers of the text may be expanded before, and none of them takes the hook and
the number away. The call of the longer name then stays to the end.

* `Site.expandAt_glued`: the power at a glued base becomes such a call;
* `Site.glued_of`: a glued base stays glued when another power is expanded;
* `normalize_glued`: a text with a glued base ends with such a call.
-/
import Quadrature.Proofs.Caret.Miscall
import Quadrature.Proofs.Caret.Run

namespace Quadrature.Caret

set_option autoImplicit false

open Quadrature.Text
open Quadrature.Lexeme
open Quadrature.Grammar (Expression Sign append_cons_cases)
open Quadrature.Piece (spell)

/-! ## The longer number -/

theorem isDigit_of_ascii {c : Char} (between : 0x30 ≤ c.toNat ∧ c.toNat ≤ 0x39) :
    isDigit c = true := by
  simp only [isDigit, digitValue?, Option.isSome_map, List.find?_isSome]
  exact ⟨0x30, by decide, by simp; omega⟩

/-- The digits of a hook can be taken to begin behind a letter. -/
theorem Hook.exists_letter {p q : Piece} (hook : Hook p q) : ∃ s c d, isNameStart c = true ∧
    hook.text.toList = s ++ [c] ++ d ++ [hook.mark] ∧ Digits d ∧ d ≠ [] := by
  obtain ⟨c₀, n, text, start, inside, -⟩ := fits_name_iff.1 (hook.name ▸ p.fits)
  obtain ⟨t, d, split, digits, last⟩ := exists_trailing isDigit (hook.stem ++ hook.digits)
  have whole : hook.text.toList = t ++ d ++ [hook.mark] := by rw [hook.split, split]
  have some : d ≠ [] := by
    rintro rfl
    obtain ⟨ds, x, tail⟩ := exists_concat hook.some
    have digit := hook.numeric x (by simp [tail])
    rw [List.append_nil] at split
    rw [← split, tail, ← List.append_assoc] at last
    simp [last x (by simp)] at digit
  rcases List.eq_nil_or_concat t with rfl | ⟨s, c, rfl⟩
  · -- A name begins with no digit.
    obtain ⟨x, d, rfl⟩ := List.exists_cons_of_ne_nil some
    obtain ⟨rfl, -⟩ := List.cons.inj (text.symm.trans whole)
    have digit := digits c₀ (by simp)
    simp [(nameStart_separate start).2.1] at digit
  · rw [List.concat_eq_append] at last whole
    have digit : isDigit c = false := last c (by simp)
    have member : c ∈ c₀ :: n := by
      rw [← text, whole]
      simp
    have inName : isNameChar c = true := by
      rcases List.mem_cons.1 member with rfl | later
      · exact (nameStart_separate start).2.2.1
      · exact inside c later
    refine ⟨s, c, d, ?_, whole, digits, some⟩
    rcases isNameChar_iff.1 inName with letter | ascii
    · exact letter
    · simp [isDigit_of_ascii ascii] at digit

/-- The longest number or name before the caret begins behind the letter. -/
theorem findBase_glued {a d n g r : List Char} {c mark sign : Char} (letter : isNameStart c = true)
    (digits : Digits d) (some : d ≠ []) (marked : IsMark mark) (signs : IsSign sign)
    (digits' : Digits n) (some' : n ≠ []) (blank : ∀ c ∈ g, isBlank c = true) :
    findBase (a ++ [c] ++ (d ++ [mark, sign] ++ n) ++ (g ++ '^' :: r))
        (a ++ [c] ++ (d ++ [mark, sign] ++ n) ++ g).length =
      Option.some ((a ++ [c]).length, (a ++ [c] ++ (d ++ [mark, sign] ++ n)).length) := by
  obtain ⟨n, x, rfl⟩ := exists_concat some'
  have digit : isDigit x = true := digits' x (by simp)
  have number : isNumber (d ++ [mark, sign] ++ n ++ [x]) = true := by
    have before : Before (d ++ mark :: sign :: (n ++ [x])) [] :=
      .exponent (.whole digits some) (.signed marked signs digits' some') noDigit_nil
    refine isNumber_iff.2 ?_
    simpa using before
  have longest : ∀ z, z ≠ [] → z <:+ a ++ [c] → (isNumber (z ++ (d ++ [mark, sign] ++ n ++ [x])) ||
      isName (z ++ (d ++ [mark, sign] ++ n ++ [x]))) = false := by
    intro z ne suffix
    obtain ⟨z, c', rfl⟩ := exists_concat ne
    obtain ⟨t, same⟩ := suffix
    rw [← List.append_assoc] at same
    obtain rfl : c' = c := by simpa using (List.append_inj' same rfl).2
    refine Bool.or_eq_false_iff.2 ⟨Bool.eq_false_iff.2 fun longer => ?_,
      Bool.eq_false_iff.2 fun name => ?_⟩
    · obtain ⟨m, mark', split, shape, -⟩ := Before.signed_split (r := [])
        (show Before ((z ++ [c'] ++ d ++ [mark]) ++ sign :: (n ++ [x])) [] by
          simpa using isNumber_iff.1 longer) signs
      obtain ⟨rfl, -⟩ := List.append_inj' split rfl
      obtain ⟨-, other, -, -, point⟩ := nameStart_separate letter
      have numeric := shape.chars c' (by simp)
      simp [other, point] at numeric
    · have inside := isWordChar_of_isName name sign (by simp)
      rcases signs with rfl | rfl <;> exact absurd inside (by decide +kernel)
  have found := findBase_word (r := '^' :: r) blank (digit_separate digit).1 (by
    rintro rfl
    exact absurd digit (by decide)) (by rw [number]; rfl) longest
  simpa [Nat.add_assoc, Nat.add_comm, Nat.add_left_comm] using found

/-! ## The power at a glued base -/

/-- A base that begins behind a letter makes the call of a longer name. -/
theorem expandAt_of_letter {text a r : List Char} {c : Char} {caret stop : Nat} {span : Nat × Nat}
    (letter : isNameStart c = true) (split : text = a ++ [c] ++ r)
    (base : findBase text caret = some ((a ++ [c]).length, stop))
    (exponent : findExponent text caret = some span) :
    ∃ text', expandAt text caret = some text' ∧ Miscalled text' := by
  have before : text.take (a ++ [c]).length = a ++ [c] := by rw [split, List.take_left]
  refine ⟨a ++ [c] ++ powerCall (slice text ((a ++ [c]).length, stop)) (slice text span) ++
    text.drop span.2, ?_, c, letter, ?_⟩
  · rw [expandAt_eq_slices, base, exponent]
    simp only [Option.bind_eq_bind, Option.bind_some, before]
    rfl
  · exact ⟨a, slice text ((a ++ [c]).length, stop) ++ (", ".toList ++ (slice text span ++
      (')' :: text.drop span.2))), by simp [longCall, powerCall_eq]⟩

/-- The text up to the number of a window: the longer number begins behind a letter of the name. -/
theorem Window.spell_eq {p q n cr : Piece} (window : Window p q n cr) (xs : List Piece) :
    ∃ s c d mark sign, p.word.text.toList = s ++ [c] ++ d ++ [mark] ∧
      spell (xs ++ [p, q, n]) = spell xs ++ p.gap ++ s ++ [c] ++
        (d ++ [mark, sign] ++ n.word.text.toList) ∧
      isNameStart c = true ∧ Digits d ∧ d ≠ [] ∧ IsMark mark ∧ IsSign sign := by
  obtain ⟨⟨hook⟩, near, -, -, -⟩ := window
  obtain ⟨s, c, d, letter, text, digits, some⟩ := hook.exists_letter
  obtain ⟨sign, symbol, signs⟩ := text_sign hook.op
  have name : p.word.text.toList = s ++ [c] ++ d ++ [hook.mark] := by
    rw [hook.name, Lexeme.text, text]
  have op : q.word.text.toList = [sign] := by rw [hook.sign, symbol]
  refine ⟨s, c, d, hook.mark, sign, name, ?_, letter, digits, some, hook.marked, signs⟩
  simp [spell, near, hook.near, name, op]

/-- The search for the base of a window finds the longer number. -/
theorem Window.findBase {p q n cr : Piece} (window : Window p q n cr) (xs : List Piece)
    (r : List Char) : ∃ a c b, isNameStart c = true ∧ spell (xs ++ [p, q, n]) = a ++ [c] ++ b ∧
      (spell xs ++ p.gap).length < (a ++ [c]).length ∧
      (a ++ [c]).length < (spell xs ++ p.gap ++ p.word.text.toList).length ∧
      findBase (spell (xs ++ [p, q, n]) ++ (cr.gap ++ '^' :: r))
          (spell (xs ++ [p, q, n]) ++ cr.gap).length =
        some ((a ++ [c]).length, (spell (xs ++ [p, q, n])).length) := by
  obtain ⟨s, c, d, mark, sign, name, before, letter, digits, some, marked, signs⟩ :=
    window.spell_eq xs
  have some' : n.word.text.toList ≠ [] := by
    obtain ⟨x, w, head, -⟩ := n.fits.head
    simp [head]
  refine ⟨spell xs ++ p.gap ++ s, c, _, letter, before, ?_, ?_, ?_⟩
  · simp only [List.length_append, List.length_singleton]
    omega
  · simp only [name, List.length_append, List.length_singleton]
    omega
  · rw [before]
    exact findBase_glued letter digits some marked signs window.digits some' cr.blank

namespace Site

variable {e : Expression} {us vs : List Piece} {cr : Piece} {tail : List Char}

theorem exists_findExponent (s : Site e us vs) (words : (us ++ cr :: vs).map Piece.word = e.lexemes)
    (caret : cr.word = .caret) (blank : ∀ c ∈ tail, isBlank c = true) :
    ∃ span, findExponent (spell (us ++ cr :: vs) ++ tail) (spell us ++ cr.gap).length =
      some span := by
  have apart : ((us ++ cr :: vs).map Piece.word).IsChain Apart := words ▸ e.apart
  obtain ⟨base, exponent, sign, goesOn, as, bs, es, cs, rfl, rfl, base_words, exponent_words,
    leading, other, -⟩ := s
  rw [List.map_append, List.map_cons] at apart
  rw [spell_caret caret, Piece.spell_append es cs, List.append_assoc (spell es)]
  exact ⟨_, findExponent_eq_some exponent sign exponent_words
    (List.isChain_append.1 apart).2.1.tail blank other⟩

/-- The power at a glued base becomes the call of a longer name. -/
theorem expandAt_glued (s : Site e us vs) (words : (us ++ cr :: vs).map Piece.word = e.lexemes)
    (blank : ∀ c ∈ tail, isBlank c = true) {xs : List Piece} {p q n : Piece}
    (left : us = xs ++ [p, q, n]) (window : Window p q n cr) :
    ∃ text, expandAt (spell (us ++ cr :: vs) ++ tail) (spell us ++ cr.gap).length = some text ∧
      Miscalled text := by
  obtain ⟨span, exponent⟩ := s.exists_findExponent words window.caret blank
  obtain ⟨a, c, b, letter, before, -, -, base⟩ := window.findBase xs (spell vs ++ tail)
  rw [← left, ← List.append_assoc, ← spell_caret window.caret] at base
  have split : spell (us ++ cr :: vs) ++ tail =
      a ++ [c] ++ (b ++ (cr.gap ++ '^' :: (spell vs ++ tail))) := by
    rw [spell_caret window.caret, left, before]
    simp
  exact expandAt_of_letter letter split base exponent

/-- A window before a power is in front of the base or inside it. -/
theorem window_cases (s : Site e us vs) {xs ys : List Piece} {p q n cr : Piece}
    (left : us = xs ++ ([p, q, n, cr] ++ ys)) (window : Window p q n cr) :
    (∃ ys', s.before = xs ++ ([p, q, n, cr] ++ ys') ∧ ys = ys' ++ s.basePieces) ∨
      ∃ xs', xs = s.before ++ xs' ∧ s.basePieces = xs' ++ ([p, q, n, cr] ++ ys) := by
  obtain ⟨t, ts, first, starts⟩ := s.base.words_head
  have words : s.basePieces.map Piece.word = t.lexeme :: ts.map Token.lexeme := by
    rw [s.base_words, Grammar.Primary.lexemes, first, List.map_cons]
  -- The base begins with a word of the window only if that is its first.
  have begins : ∀ w ws, s.basePieces = w :: ws → Grammar.startsPrimary w.word = true := by
    intro w ws base
    rw [base, List.map_cons] at words
    rw [(List.cons.inj words).1]
    exact starts
  obtain ⟨⟨hook⟩, -, ⟨number, word⟩, -, caret⟩ := window
  rcases List.append_eq_append_iff.1 (s.left.symm.trans left) with ⟨t, rfl, base⟩ | ⟨t, front, rest⟩
  · exact .inr ⟨t, rfl, base⟩
  rcases t with _ | ⟨p', _ | ⟨q', _ | ⟨n', _ | ⟨cr', ys'⟩⟩⟩⟩
  · rw [List.append_nil] at front
    exact .inr ⟨[], by simp [front], rest.symm⟩
  · have sign := begins q (n :: cr :: ys) (List.cons.inj rest).2.symm
    rw [hook.sign] at sign
    cases op : hook.op <;> simp [op, Sign.lexeme, Grammar.startsPrimary] at sign
  · have base : s.basePieces = n :: cr :: ys :=
      (List.cons.inj (List.cons.inj rest).2).2.symm
    have same := s.base_words
    rw [base] at same
    cases primary : s.base <;> simp [primary, word] at same
  · have first := begins cr ys (List.cons.inj (List.cons.inj (List.cons.inj rest).2).2).2.symm
    simp [caret, Grammar.startsPrimary] at first
  · simp only [List.cons_append, List.nil_append, List.cons.injEq] at rest
    obtain ⟨rfl, rfl, rfl, rfl, rfl⟩ := rest
    exact .inl ⟨ys', front, rfl⟩

/-- Pieces with other blanks before them hold the same windows. -/
theorem regap_window {p q n cr : Piece} (window : Window p q n cr) {gap : List Char}
    (blank : ∀ c ∈ gap, isBlank c = true) (xs ys : List Piece) :
    ∃ xs' p', Piece.regap gap blank (xs ++ ([p, q, n, cr] ++ ys)) = xs' ++ ([p', q, n, cr] ++ ys) ∧
      Window p' q n cr := by
  cases xs with
  | nil => exact ⟨[], { p with gap := gap, blank := blank }, rfl, window.of_word rfl⟩
  | cons x xs => exact ⟨{ x with gap := gap, blank := blank } :: xs, p, rfl, window⟩

/-- A base that is glued further left stays so. -/
theorem glued_of (s : Site e us vs) {xs ys : List Piece} {p q n cr cr' : Piece}
    (left : us = xs ++ ([p, q, n, cr'] ++ ys))
    (window : Window p q n cr') (once : ¬ Twice (ys ++ cr :: vs)) : Glued s.pieces := by
  rcases s.window_cases left window with ⟨ys', front, rfl⟩ | ⟨xs', rfl, base⟩
  · refine ⟨xs, p, q, n, cr', ys' ++ (Piece.powCall s.basePieces s.exponentPieces ++ s.after), ?_,
      window, fun twice => once ?_⟩
    · rw [pieces, front]
      simp
    · have inner := twice.of_append (unsigned_pow _ _)
      exact (inner.append _).append _
  · have none : ∀ c ∈ ([] : List Char), isBlank c = true := by simp
    obtain ⟨xs'', p', same, window'⟩ := regap_window window none xs' ys
    refine ⟨s.before ++ Piece.pow (Piece.lead s.basePieces) (lead_blank _) ::
      Piece.symbol .opening '(' rfl :: xs'', p', q, n, cr', ys ++ Piece.symbol .comma ',' rfl ::
        (Piece.regap [' '] isBlank_space s.exponentPieces ++
          Piece.symbol .closing ')' rfl :: s.after),
      ?_, window', fun twice => once ?_⟩
    · rw [pieces, Piece.powCall, base, same]
      simp
    · exact (twice.of_append (unsigned_comma _)).append _

end Site

/-! ## The run -/

section Run

variable {e : Expression} {tail : List Char}

/-- At a caret behind a glued base a power is expanded. -/
theorem expandAt_window {xs vs : List Piece} {p q n cr : Piece}
    (words : (xs ++ [p, q, n] ++ cr :: vs).map Piece.word = e.lexemes)
    (blank : ∀ c ∈ tail, isBlank c = true) (window : Window p q n cr) (once : ¬ Twice vs) :
    ∃ text, expandAt (spell (xs ++ [p, q, n] ++ cr :: vs) ++ tail)
      (spell (xs ++ [p, q, n]) ++ cr.gap).length = some text ∧ Miscalled text := by
  rcases twice_or_site words window.caret with twice | ⟨⟨s⟩⟩
  · exact absurd twice once
  · exact s.expandAt_glued words blank rfl window

/-- Expansion from the right where a base is glued: the call of a longer name is made, or a base is
still glued. -/
theorem expandRightmost_glued {ps : List Piece} (words : ps.map Piece.word = e.lexemes)
    (blank : ∀ c ∈ tail, isBlank c = true) (glued : Glued ps) :
    ∃ text, expandRightmost (spell ps ++ tail) = some text ∧
      (Miscalled text ∨ ∃ us cr vs, ps = us ++ cr :: vs ∧ cr.word = .caret ∧ ∃ s : Site e us vs,
        text = spell s.pieces ++ tail ∧ Glued s.pieces) := by
  obtain ⟨xs, p, q, n, cr', vs', rfl, window, once⟩ := glued
  have around : xs ++ ([p, q, n, cr'] ++ vs') = xs ++ [p, q, n] ++ cr' :: vs' := by simp
  rw [around] at words ⊢
  obtain ⟨made, here, miscalled⟩ := expandAt_window words blank window once
  cases expanded : expandRightmost (spell (xs ++ [p, q, n] ++ cr' :: vs') ++ tail) with
  | none =>
      rw [expandAt_eq_none_of_rightmost expanded (spell_caret window.caret)] at here
      simp at here
  | some text =>
      refine ⟨text, rfl, ?_⟩
      obtain ⟨x, y, split, found, later⟩ := exists_rightmost expanded
      obtain ⟨us, cr, vs, same, caret, rfl, rfl⟩ := exists_caret_piece blank split
      rcases append_cons_cases same with ⟨ys, left, right⟩ | ⟨rfl, rfl, rfl⟩ | ⟨ys, left, rfl⟩
      · -- No base further left: the search comes to the glued one first.
        have text : spell vs ++ tail = (spell ys ++ cr'.gap) ++ '^' :: (spell vs' ++ tail) := by
          rw [right]
          exact spell_caret window.caret
        have offset : spell us ++ cr.gap ++ '^' :: (spell ys ++ cr'.gap) =
            spell (xs ++ [p, q, n]) ++ cr'.gap := by
          rw [left]
          simp [spell, caret, Lexeme.text]
        have none := later _ _ text
        rw [offset, here] at none
        simp at none
      · -- The glued base itself.
        obtain rfl := Option.some.inj (here.symm.trans found)
        exact .inl miscalled
      · -- A base further right.
        rw [same] at words found ⊢
        rcases twice_or_site words caret with twice | ⟨⟨s⟩⟩
        · obtain ⟨r, r', rest, op, op', rfl, sign, sign'⟩ := twice
          rw [expandAt_eq_none caret sign sign'] at found
          simp at found
        by_cases free : ∀ xs p q n, us = xs ++ [p, q, n] → ¬ Window p q n cr
        · rw [s.expandAt_eq words caret (s.unglued caret free) blank] at found
          obtain rfl := Option.some.inj found
          have front : us = xs ++ ([p, q, n, cr'] ++ ys) := by simp [left]
          exact .inr ⟨us, cr, vs, rfl, caret, s, rfl, s.glued_of front window once⟩
        · simp only [not_forall, not_not] at free
          obtain ⟨xs', p', q', n', rfl, window'⟩ := free
          obtain ⟨made', here', miscalled'⟩ := expandAt_window words blank window' s.not_twice
          obtain rfl := Option.some.inj (here'.symm.trans found)
          exact .inl miscalled'

/-- Expansions of a text in which a base is glued, to the end: the call of a longer name is made. -/
theorem normalize_glued {ps : List Piece} (words : ps.map Piece.word = e.lexemes)
    (blank : ∀ c ∈ tail, isBlank c = true) (glued : Glued ps) :
    Miscalled (normalize (spell ps ++ tail)) := by
  unfold normalize
  rw [count_spell ps blank]
  generalize steps : (ps.map Piece.word).count .caret = k
  induction k generalizing e ps with
  | zero =>
      obtain ⟨xs, p, q, n, cr, vs, rfl, window, -⟩ := glued
      exact absurd (by simp [window.caret]) (List.count_eq_zero.1 steps)
  | succ k ih =>
      obtain ⟨text, expanded, made | ⟨us, cr, vs, rfl, caret, s, rfl, still⟩⟩ :=
        expandRightmost_glued words blank glued
      · rw [expandTimes, expanded]
        exact made.expandTimes k
      · have fewer := s.count_caret caret
        rw [steps] at fewer
        rw [expandTimes, expanded]
        exact ih s.result_words still (Nat.succ.inj fewer)

end Run

end Quadrature.Caret
