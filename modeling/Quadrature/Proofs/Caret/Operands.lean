/-
# Quadrature.Proofs.Caret.Operands -- where operands are found

The search for operands looks at characters, backwards for a base and forwards for an exponent.
Around the caret of a derivation it finds the primary before the caret, and the primary behind it
with at most one sign. Two signs behind the caret are no operand.

Backwards, one text misleads it: in `x1e+3^2` the longest number that ends before the caret is
`1e+3`, which begins inside the name `x1e`. Pieces `Hook` where a name ends like the start of an
exponent and a sign follows at once.

* `findBase_primary`, `findExponent_unsigned`, `findExponent_signed`, `findExponent_none`.
-/
import Quadrature.Proofs.Caret.Balance

namespace Quadrature.Caret

set_option autoImplicit false

open Quadrature.Text
open Quadrature.Lexeme
open Quadrature.Piece (spell)

/-! ## Ends and starts of texts -/

section Texts

variable {p : Char → Bool} {a b g r s : List Char}

theorem suffixStart_eq {p : List Char → Bool} (holds : p b = true) (some : b ≠ [])
    (longest : ∀ z, z ≠ [] → z <:+ a → p (z ++ b) = false) (offset : Nat) :
    suffixStart p offset (a ++ b) = Option.some (offset + a.length) := by
  induction a generalizing offset with
  | nil =>
      obtain ⟨c, b, rfl⟩ := List.exists_cons_of_ne_nil some
      rw [List.nil_append, suffixStart, if_pos holds]
      rfl
  | cons c a ih =>
      have shorter := longest (c :: a) (by simp) List.suffix_rfl
      rw [List.cons_append] at shorter ⊢
      rw [suffixStart, if_neg (by simp [shorter]),
        ih (fun z some suffix => longest z some (suffix.trans (List.suffix_cons c a)))]
      simp only [List.length_cons, Option.some.injEq]
      omega

theorem suffixStart_eq_none {p : List Char → Bool}
    (none : ∀ z, z ≠ [] → z <:+ a → p z = false) (offset : Nat) :
    suffixStart p offset a = Option.none := by
  induction a generalizing offset with
  | nil => rfl
  | cons c a ih =>
      rw [suffixStart, if_neg (by simp [none (c :: a) (by simp) List.suffix_rfl]),
        ih (fun z some suffix => none z some (suffix.trans (List.suffix_cons c a)))]

theorem lengthToLastInk_append (blank : ∀ c ∈ g, isBlank c = true)
    (ink : ∀ c ∈ s.getLast?, isBlank c = false) : lengthToLastInk (s ++ g) = s.length := by
  unfold lengthToLastInk
  rw [List.reverse_append, List.dropWhile_append_of_pos (by simpa using blank)]
  rw [← List.head?_reverse] at ink
  cases reversed : s.reverse with
  | nil => simp [List.reverse_eq_nil_iff.1 reversed]
  | cons c s' =>
      rw [reversed] at ink
      rw [List.dropWhile_cons_of_neg (by simpa using ink), ← reversed, List.length_reverse]

theorem skipBlanks_append (blank : ∀ c ∈ g, isBlank c = true)
    (ink : ∀ c ∈ r.head?, isBlank c = false) :
    skipBlanks (a ++ (g ++ r)) a.length = a.length + g.length := by
  unfold skipBlanks
  rw [List.drop_left, List.takeWhile_append_of_pos blank, List.length_append,
    length_takeWhile_isBlank ink, Nat.add_zero]

theorem isNumber_iff : isNumber s = true ↔ Before s [] := by
  rw [← numberLength_append_iff, List.append_nil]
  unfold isNumber
  simp only [Bool.and_eq_true, bne_iff_ne, ne_eq, List.isEmpty_iff]
  constructor
  · rintro ⟨some, whole⟩
    obtain ⟨w, r, rfl, length, ne, -⟩ := before_split some
    rw [← length, List.drop_left] at whole
    subst whole
    rw [List.append_nil] at length ⊢
    exact ⟨length.symm, ne⟩
  · rintro ⟨length, some⟩
    rw [length]
    exact ⟨by simpa using some, List.drop_length⟩

theorem isName_iff : isName s = true ↔
    ∃ c n, s = c :: n ∧ isNameStart c = true ∧ ∀ x ∈ n, isWordChar x = true := by
  unfold isName
  simp only [Bool.and_eq_true, bne_iff_ne, ne_eq, List.isEmpty_iff]
  constructor
  · rintro ⟨some, whole⟩
    obtain ⟨c, n, r, rfl, length, start, inside, -⟩ := name_split some
    rw [← length, ← List.length_cons (a := c), List.drop_left] at whole
    subst whole
    exact ⟨c, n, by simp, start, inside⟩
  · rintro ⟨c, n, rfl, start, inside⟩
    have length := nameLength_append (r := []) start inside (by simp)
    rw [List.append_nil] at length
    rw [length]
    exact ⟨by simp, List.drop_length⟩

/-- The characters of a name are word characters. -/
theorem isWordChar_of_isName (name : isName s = true) : ∀ c ∈ s, isWordChar c = true := by
  obtain ⟨c, n, rfl, start, inside⟩ := isName_iff.1 name
  intro x member
  rcases List.mem_cons.1 member with rfl | later
  · exact isWordChar_of_isNameChar (nameStart_separate start).2.2.1
  · exact inside x later

/-- The search for a base begins at the last ink before the caret. -/
theorem findBase_eq {c : Char} (blank : ∀ c ∈ g, isBlank c = true) (ink : isBlank c = false) :
    findBase (s ++ c :: (g ++ r)) (s.length + 1 + g.length) =
      if c = ')' then
        (matchingOpen (s ++ c :: (g ++ r)) s.length).map fun opening =>
          ((suffixStart isName 0 ((s ++ c :: (g ++ r)).take
            (lengthToLastInk ((s ++ c :: (g ++ r)).take opening)))).getD opening, s.length + 1)
      else
        (suffixStart (fun s => isNumber s || isName s) 0 (s ++ [c])).map (·, s.length + 1) := by
  have split : s ++ c :: (g ++ r) = (s ++ [c]) ++ (g ++ r) := by simp
  have stop : lengthToLastInk ((s ++ c :: (g ++ r)).take (s.length + 1 + g.length)) =
      s.length + 1 := by
    rw [split, ← List.append_assoc, List.take_left' (by simp; omega),
      lengthToLastInk_append blank (by simpa using ink), List.length_append, List.length_singleton]
  have last : (s ++ c :: (g ++ r))[s.length]? = some c := by simp
  have word : (s ++ c :: (g ++ r)).take (s.length + 1) = s ++ [c] := by
    rw [split, List.take_left' (by simp)]
  unfold findBase
  simp only [stop, Nat.add_sub_cancel, last, word, Option.some.injEq, Nat.zero_lt_succ,
    decide_true, Bool.and_true, decide_eq_true_eq]
  by_cases closing : c = ')'
  · rw [if_pos closing, if_pos closing]
    cases matchingOpen (s ++ c :: (g ++ r)) s.length <;> rfl
  · rw [if_neg closing, if_neg closing]
    cases suffixStart (fun s => isNumber s || isName s) 0 (s ++ [c]) <;> rfl

/-- A number or a name before the caret. -/
theorem findBase_word {c : Char} (blank : ∀ c ∈ g, isBlank c = true) (ink : isBlank c = false)
    (closing : c ≠ ')') (word : (isNumber (b ++ [c]) || isName (b ++ [c])) = true)
    (longest : ∀ z, z ≠ [] → z <:+ a →
      (isNumber (z ++ (b ++ [c])) || isName (z ++ (b ++ [c]))) = false) :
    findBase (a ++ b ++ c :: (g ++ r)) ((a ++ b).length + 1 + g.length) =
      some (a.length, (a ++ b).length + 1) := by
  rw [findBase_eq blank ink, if_neg closing, List.append_assoc a,
    suffixStart_eq (p := fun s => isNumber s || isName s) word (by simp) longest]
  simp

/-- A bracket before the caret, with the name before it if there is one. -/
theorem findBase_bracket (blank : ∀ c ∈ g, isBlank c = true) (level : Level s) :
    findBase (a ++ '(' :: s ++ ')' :: (g ++ r)) ((a ++ '(' :: s).length + 1 + g.length) =
      some ((suffixStart isName 0 (a.take (lengthToLastInk a))).getD a.length,
        (a ++ '(' :: s).length + 1) := by
  have opening : matchingOpen (a ++ '(' :: s ++ ')' :: (g ++ r)) (a ++ '(' :: s).length =
      some a.length := by
    rw [List.append_assoc, List.cons_append, List.length_append, List.length_cons]
    exact matchingOpen_eq level a _
  have short : lengthToLastInk a ≤ a.length := by
    unfold lengthToLastInk
    have := (List.dropWhile_suffix isBlank (l := a.reverse)).length_le
    simpa using this
  rw [findBase_eq blank (by decide), if_pos rfl, opening, Option.map_some, List.append_assoc,
    List.take_left, List.take_append_of_le_length short]

/-! ## Behind a caret -/

/-- The end of an operand in brackets. -/
theorem operandStop_group (level : Level s) :
    operandStop (a ++ '(' :: (s ++ ')' :: r)) a.length =
      some (a.length + ('(' :: (s ++ [')'])).length) := by
  unfold operandStop
  rw [List.drop_left, matchingClose_eq level]
  simp [Nat.add_assoc]

theorem operandStop_number {n : List Char} (before : Before n r) :
    operandStop (a ++ (n ++ r)) a.length = some (a.length + n.length) := by
  obtain ⟨length, some⟩ := numberLength_append_iff.2 before
  have positive : n.length ≠ 0 := by simpa using some
  obtain ⟨c, n', rfl, numeric⟩ := before.head
  unfold operandStop
  dsimp only
  rw [List.drop_left]
  split
  · next first =>
      obtain rfl : c = '(' := by simpa using first
      exact absurd (numeric_separate numeric).2.2 (by decide)
  · next none _ _ => exact absurd (length.symm.trans none) positive
  · next none _ _ => exact absurd (length.symm.trans none) positive
  · rw [length]

/-- A name stands for itself where no parenthesis follows it, and otherwise ends at the partner. -/
theorem operandStop_name {c : Char} {n : List Char} (start : isNameStart c = true)
    (inside : ∀ x ∈ n, isWordChar x = true) (stop : ∀ x ∈ r.head?, isWordChar x = false) :
    operandStop (a ++ (c :: n ++ r)) a.length =
      if (a ++ (c :: n ++ r))[skipBlanks (a ++ (c :: n ++ r)) (a.length + (n.length + 1))]? =
          some '(' then
        (matchingClose (a ++ (c :: n ++ r))
          (skipBlanks (a ++ (c :: n ++ r)) (a.length + (n.length + 1)))).map (· + 1)
      else some (a.length + (n.length + 1)) := by
  obtain ⟨-, digit, -, symbol, point⟩ := nameStart_separate start
  have number : numberLength (c :: n ++ r) = 0 := numberLength_eq_zero digit point
  have name : nameLength isWordChar (c :: n ++ r) = n.length + 1 :=
    nameLength_append start inside stop
  unfold operandStop
  dsimp only
  rw [List.drop_left]
  split
  · next first =>
      obtain rfl : c = '(' := by simpa using first
      exact absurd symbol (by decide)
  · next none => omega
  · rw [name]
  · next some _ => exact absurd number some

theorem getElem?_skipBlanks (blank : ∀ c ∈ g, isBlank c = true)
    (ink : ∀ c ∈ r.head?, isBlank c = false) :
    (a ++ (g ++ r))[skipBlanks (a ++ (g ++ r)) a.length]? = r.head? := by
  rw [skipBlanks_append blank ink, ← List.append_assoc,
    List.getElem?_append_right (by simp), List.length_append, Nat.sub_self,
    List.head?_eq_getElem?]

theorem operandStop_alone {c : Char} {n : List Char} (start : isNameStart c = true)
    (inside : ∀ x ∈ n, isWordChar x = true) (stop : ∀ x ∈ (g ++ r).head?, isWordChar x = false)
    (blank : ∀ c ∈ g, isBlank c = true) (ink : ∀ c ∈ r.head?, isBlank c = false)
    (closed : r.head? ≠ some '(') :
    operandStop (a ++ (c :: n ++ (g ++ r))) a.length = some (a.length + (n.length + 1)) := by
  have next : (a ++ (c :: n ++ (g ++ r)))[skipBlanks (a ++ (c :: n ++ (g ++ r)))
      (a.length + (n.length + 1))]? = r.head? := by
    have found := getElem?_skipBlanks (a := a ++ c :: n) blank ink
    simpa using found
  rw [operandStop_name start inside stop, next, if_neg closed]

theorem operandStop_call {c : Char} {n : List Char} (start : isNameStart c = true)
    (inside : ∀ x ∈ n, isWordChar x = true)
    (stop : ∀ x ∈ (g ++ '(' :: (s ++ ')' :: r)).head?, isWordChar x = false)
    (blank : ∀ c ∈ g, isBlank c = true) (level : Level s) :
    operandStop (a ++ (c :: n ++ (g ++ '(' :: (s ++ ')' :: r)))) a.length =
      some (a.length + (c :: n ++ (g ++ '(' :: (s ++ [')']))).length) := by
  have ink : ∀ x ∈ ('(' :: (s ++ ')' :: r)).head?, isBlank x = false := by
    intro x first
    obtain rfl : '(' = x := by simpa using first
    decide
  have partner := matchingClose_eq level (a ++ c :: n ++ g) r
  rw [List.append_assoc (a ++ c :: n), List.length_append] at partner
  have behind : a.length + (n.length + 1) = (a ++ c :: n).length := by simp
  rw [operandStop_name start inside stop, behind, ← List.append_assoc a,
    getElem?_skipBlanks blank ink, if_pos List.head?_cons, skipBlanks_append blank ink, partner]
  simp [Nat.add_comm, Nat.add_left_comm]

end Texts

/-! ## Pieces before a base -/

open Quadrature.Grammar (Leads leads)

theorem spell_concat (ps : List Piece) (p : Piece) :
    spell (ps ++ [p]) = spell ps ++ p.gap ++ p.word.text.toList := by
  simp [spell]

/-- The symbol of a word that an operand can follow. -/
theorem exists_symbol_of_leads {w : Lexeme} (leading : leads w = true) :
    ∃ c, ofChar? c = some w ∧ w.text.toList = [c] := by
  rcases w.isSymbol_or with ⟨t, rfl⟩ | ⟨t, rfl⟩ | ⟨c, symbol⟩
  · simp [leads] at leading
  · simp [leads] at leading
  · exact ⟨c, symbol, symbol_text symbol⟩

/-- What ends with ink ends before the blanks. -/
theorem suffix_of_ink {z s gap : List Char} {c : Char} (blank : ∀ c ∈ gap, isBlank c = true)
    (ink : isBlank c = false) (suffix : z ++ [c] <:+ s ++ gap) :
    gap = [] ∧ z ++ [c] <:+ s := by
  obtain ⟨u, same⟩ := suffix
  rcases List.eq_nil_or_concat gap with rfl | ⟨gap, c', rfl⟩
  · exact ⟨rfl, u, by simpa using same⟩
  · rw [List.concat_eq_append, ← List.append_assoc, ← List.append_assoc] at same
    obtain ⟨-, last⟩ := List.append_inj' same rfl
    obtain rfl : c = c' := by simpa using last
    simp [blank c (by simp)] at ink

theorem suffix_concat {z s : List Char} {c c' : Char} (suffix : z ++ [c] <:+ s ++ [c']) :
    c = c' ∧ z <:+ s := by
  obtain ⟨u, same⟩ := suffix
  rw [← List.append_assoc] at same
  obtain ⟨first, last⟩ := List.append_inj' same rfl
  exact ⟨by simpa using last, u, first⟩

/-- Where ink ends, a piece ends with it. -/
theorem exists_last_piece {z gap : List Char} {c : Char} {ps : List Piece}
    (blank : ∀ c ∈ gap, isBlank c = true) (ink : isBlank c = false)
    (suffix : z ++ [c] <:+ spell ps ++ gap) :
    gap = [] ∧ ∃ qs q t, ps = qs ++ [q] ∧ q.word.text.toList = t ++ [c] ∧
      z <:+ spell qs ++ q.gap ++ t := by
  obtain ⟨rfl, inked⟩ := suffix_of_ink blank ink suffix
  refine ⟨rfl, ?_⟩
  rcases List.eq_nil_or_concat ps with rfl | ⟨qs, q, rfl⟩
  · simp [spell] at inked
  · obtain ⟨c', s, head, -⟩ := q.fits.head
    obtain ⟨t, c'', last⟩ : ∃ t c'', q.word.text.toList = t ++ [c''] := by
      rcases List.eq_nil_or_concat q.word.text.toList with empty | ⟨t, c'', last⟩
      · simp [head] at empty
      · exact ⟨t, c'', by simpa using last⟩
    rw [List.concat_eq_append, spell_concat, last, ← List.append_assoc] at inked
    obtain ⟨rfl, rest⟩ := suffix_concat inked
    exact ⟨qs, q, t, by simp, last, rest⟩

/-- A name that ends in a digit and the mark of an exponent, and a sign right after it. -/
structure Hook (p q : Piece) where
  text : String
  /-- The name up to where the number would begin. -/
  stem : List Char
  digits : List Char
  mark : Char
  op : Grammar.Sign
  name : p.word = .name text
  split : text.toList = stem ++ digits ++ [mark]
  some : digits ≠ []
  numeric : Digits digits
  marked : IsMark mark
  sign : q.word = op.lexeme
  near : q.gap = []

theorem exists_concat {α : Type} {l : List α} (some : l ≠ []) : ∃ s c, l = s ++ [c] := by
  rcases List.eq_nil_or_concat l with rfl | ⟨s, c, rfl⟩
  · exact absurd rfl some
  · exact ⟨s, c, by simp⟩

theorem eq_of_singleton_eq_concat {s : List Char} {c c' : Char} (same : [c] = s ++ [c']) :
    s = [] ∧ c = c' := by
  obtain ⟨first, last⟩ := List.append_inj' (show [] ++ [c] = s ++ [c'] from same) rfl
  exact ⟨first.symm, by simpa using last⟩

theorem isBlank_of_numeral {c : Char}
    (numeral : isDigit c = true ∨ c = '.' ∨ IsMark c ∨ IsSign c) : isBlank c = false := by
  rcases numeral with digit | rfl | marked | sign
  · exact (digit_separate digit).1
  · exact point_separate.1
  · rcases marked with rfl | rfl <;> decide
  · rcases sign with rfl | rfl <;> decide

/-- Only a name ends with a letter. -/
theorem exists_name_of_letter {w : Lexeme} {n : List Char} {c : Char} (fits : Fits w [])
    (letter : isNameStart c = true) (last : w.text.toList = n ++ [c]) : ∃ t, w = .name t := by
  obtain ⟨-, digit, -, symbol, point⟩ := nameStart_separate letter
  rcases w.isSymbol_or with ⟨t, rfl⟩ | ⟨t, rfl⟩ | ⟨c', symbol'⟩
  · have numeral := (fits_number_iff.1 fits).last c (by
      rw [show t.toList = n ++ [c] from last]; simp)
    simp [digit, point] at numeral
  · exact ⟨t, rfl⟩
  · rw [symbol_text symbol'] at last
    obtain ⟨rfl, rfl⟩ := eq_of_singleton_eq_concat last
    simp [symbol] at symbol'

/-- Where the words before a name are apart from it, a symbol is right before it. -/
theorem exists_symbol_before_name {rs : List Piece} {p : Piece} {t : String} {m : List Char}
    {c : Char} (apart : ((rs ++ [p]).map Piece.word).IsChain Apart) (name : p.word = .name t)
    (ink : isBlank c = false) (suffix : m ++ [c] <:+ spell rs ++ p.gap) :
    ∃ w, ofChar? c = some w := by
  obtain ⟨-, rs, o, s, rfl, last, -⟩ := exists_last_piece p.blank ink suffix
  have neighbours : o.word.Apart p.word := by
    have chain := (List.isChain_append.1 (List.map_append ▸ apart)).2.2
    exact chain _ (by simp) _ (by simp)
  rcases neighbours with ⟨c', symbol⟩ | ⟨c', symbol⟩
  · rw [symbol_text symbol] at last
    obtain ⟨rfl, rfl⟩ := eq_of_singleton_eq_concat last
    exact ⟨o.word, symbol⟩
  · rw [name] at symbol
    exact absurd symbol (ofChar?_ne c' t).2

/-- A symbol in a number is a sign. -/
theorem exists_sign {w : Lexeme} {c : Char} (symbol : ofChar? c = some w)
    (numeral : isDigit c = true ∨ c = '.' ∨ IsMark c ∨ IsSign c) :
    IsSign c ∧ ∃ op : Grammar.Sign, w = op.lexeme := by
  obtain ⟨-, digit, -, -, -, point⟩ := symbol_separate symbol
  rcases numeral with numeral | rfl | marked | signs
  · simp [digit] at numeral
  · exact absurd rfl point
  · rcases marked with rfl | rfl <;> simp [ofChar?] at symbol
  · rcases signs with rfl | rfl
    · exact ⟨.inl rfl, .plus, (Option.some.inj symbol).symm⟩
    · exact ⟨.inr rfl, .minus, (Option.some.inj symbol).symm⟩

/-- A mantissa that ends in a name does not begin before it. -/
theorem exists_stem {rs : List Piece} {p : Piece} {t : String} {m n : List Char} {mark : Char}
    (apart : ((rs ++ [p]).map Piece.word).IsChain Apart) (name : p.word = .name t)
    (last : t.toList = n ++ [mark]) (shape : Mantissa m)
    (before : m <:+ spell rs ++ p.gap ++ n) : ∃ stem, n = stem ++ m := by
  obtain ⟨c, n', text, start, -⟩ := fits_name_iff.1 (name ▸ p.fits)
  obtain ⟨u, same⟩ := before
  rcases List.append_eq_append_iff.1 same with ⟨m', earlier, rfl⟩ | ⟨stem, -, whole⟩
  · cases n with
    | nil =>
        obtain ⟨m', c', rfl⟩ := exists_concat (by simpa using shape.ne_nil)
        have numeral := shape.chars c' (by simp)
        obtain ⟨w', symbol⟩ := exists_symbol_before_name apart name
          (isBlank_of_numeral (numeral.imp_right .inl)) ⟨u, by simpa using earlier.symm⟩
        obtain ⟨-, digit, -, -, -, point⟩ := symbol_separate symbol
        exact absurd numeral (by simp [digit, point])
    | cons c₁ n =>
        obtain ⟨rfl, -⟩ := List.cons.inj (text.symm.trans last)
        obtain ⟨-, digit, -, -, point⟩ := nameStart_separate start
        have numeral := shape.chars c (by simp)
        simp [digit, point] at numeral
  · exact ⟨stem, whole⟩

/-- A number that begins before a base begins in the name of a hook. -/
theorem exists_hook {ps : List Piece} {gap z w : List Char} (leading : Leads (ps.map Piece.word))
    (apart : (ps.map Piece.word).IsChain Apart) (blank : ∀ c ∈ gap, isBlank c = true)
    (some : z ≠ []) (suffix : z <:+ spell ps ++ gap) (number : Before (z ++ w) []) :
    gap = [] ∧ ∃ qs p q, ps = qs ++ [p, q] ∧ ∃ hook : Hook p q, ∃ sign,
      z = hook.digits ++ [hook.mark, sign] ∧ q.word.text.toList = [sign] ∧ Digits w ∧ w ≠ [] := by
  obtain ⟨z, sign, rfl⟩ := exists_concat some
  -- The text before the base ends with a symbol, which in a number is a sign.
  have numeral := number.chars sign (by simp)
  obtain ⟨rfl, qs, q, t, rfl, last, before⟩ :=
    exists_last_piece blank (isBlank_of_numeral numeral) suffix
  obtain ⟨c, symbol, text⟩ := exists_symbol_of_leads (leading q.word (by simp))
  rw [text] at last
  obtain ⟨rfl, rfl⟩ := eq_of_singleton_eq_concat last
  obtain ⟨signs, op, sign⟩ := exists_sign symbol numeral
  -- Before it stands the mark of the exponent, at the end of a name.
  obtain ⟨m, mark, rfl, shape, marked, digits, ne⟩ :=
    Before.signed_split (r := []) (by simpa using number) signs
  obtain ⟨near, rs, p, n, rfl, last, before⟩ := exists_last_piece q.blank
    (isBlank_of_numeral (.inr (.inr (.inl marked)))) (by simpa using before)
  obtain ⟨t, name⟩ := exists_name_of_letter p.fits (by rcases marked with rfl | rfl <;> decide) last
  rw [name, Lexeme.text] at last
  have apart' : ((rs ++ [p]).map Piece.word).IsChain Apart := by
    rw [List.map_append] at apart
    exact (List.isChain_append.1 apart).1
  obtain ⟨stem, rfl⟩ := exists_stem apart' name last shape before
  refine ⟨rfl, rs, p, q, by simp, ⟨t, stem, m, mark, op, name, last, shape.ne_nil, ?_, marked, sign,
    near⟩, c, by simp, text, digits, ne⟩
  -- The mantissa is in a name, so it has no point.
  intro x member
  refine (shape.chars x member).resolve_right ?_
  rintro rfl
  obtain ⟨c₀, n₀, text₀, start, inside, -⟩ := fits_name_iff.1 (name ▸ p.fits)
  have point : '.' ∈ c₀ :: n₀ := by
    rw [← text₀, last]
    simp [member]
  rcases List.mem_cons.1 point with rfl | later
  · exact absurd start (by decide)
  · exact absurd (inside _ later) (by decide)

/-- The text before a base ends with no word character, so no name goes on into the base. -/
theorem isName_append_eq_false {ps : List Piece} {gap z w : List Char}
    (leading : Leads (ps.map Piece.word)) (blank : ∀ c ∈ gap, isBlank c = true)
    (some : z ≠ []) (suffix : z <:+ spell ps ++ gap) : isName (z ++ w) = false := by
  apply Bool.eq_false_iff.2
  intro name
  obtain ⟨z, c, rfl⟩ := exists_concat some
  have inside : isWordChar c = true := isWordChar_of_isName name c (by simp)
  have ink : isBlank c = false := by
    apply Bool.eq_false_iff.2
    intro blank
    simp [(blank_separate blank).2.2.2.1] at inside
  obtain ⟨-, qs, q, t, rfl, last, -⟩ := exists_last_piece blank ink suffix
  obtain ⟨c', symbol, text⟩ := exists_symbol_of_leads (leading q.word (by simp))
  rw [text] at last
  obtain ⟨rfl, rfl⟩ := eq_of_singleton_eq_concat last
  simp [(symbol_separate symbol).2.2.2.2.1] at inside

/-- The text before a base, up to its last ink. -/
theorem lengthToLastInk_spell {ps : List Piece} {gap : List Char}
    (leading : Leads (ps.map Piece.word)) (blank : ∀ c ∈ gap, isBlank c = true) :
    lengthToLastInk (spell ps ++ gap) = (spell ps).length := by
  apply lengthToLastInk_append blank
  intro c last
  rcases List.eq_nil_or_concat ps with rfl | ⟨qs, q, rfl⟩
  · simp [spell] at last
  · obtain ⟨c', symbol, text⟩ := exists_symbol_of_leads (leading q.word (by simp))
    rw [List.concat_eq_append, spell_concat, text] at last
    obtain rfl : c' = c := by simpa using last
    exact (symbol_separate symbol).1

/-- The piece does not make a longer number with a hook right before it. -/
def Unglued (ps : List Piece) (p : Piece) : Prop :=
  p.gap = [] → Digits p.word.text.toList → ∀ qs p' q, ps = qs ++ [p', q] → IsEmpty (Hook p' q)

theorem isName_of_fits {t : String} {r : List Char} (fits : Fits (.name t) r) :
    isName t.toList = true := by
  obtain ⟨c, n, same, start, inside, -⟩ := fits_name_iff.1 fits
  exact isName_iff.2 ⟨c, n, same, start,
    fun x member => isWordChar_of_isNameChar (inside x member)⟩

/-- The piece is an operand by itself. -/
theorem isNumber_or_isName_of_fits {p : Piece}
    (word : (∃ t, p.word = .number t) ∨ ∃ t, p.word = .name t) :
    isNumber p.word.text.toList = true ∨ isName p.word.text.toList = true := by
  have fits := p.fits
  rcases word with ⟨t, word⟩ | ⟨t, word⟩
  · rw [word] at fits ⊢
    exact .inl (isNumber_iff.2 (fits_number_iff.1 fits))
  · rw [word] at fits ⊢
    exact .inr (isName_of_fits fits)

/-- The end of a number or a name is no blank and no parenthesis. -/
theorem last_of_operand {s : List Char} {c : Char}
    (operand : isNumber (s ++ [c]) = true ∨ isName (s ++ [c]) = true) :
    isBlank c = false ∧ c ≠ ')' := by
  rcases operand with number | name
  · have numeral := (isNumber_iff.1 number).chars c (by simp)
    refine ⟨isBlank_of_numeral numeral, ?_⟩
    rintro rfl
    exact absurd numeral (by decide)
  · have inside := isWordChar_of_isName name c (by simp)
    refine ⟨Bool.eq_false_iff.2 fun blank => ?_, ?_⟩
    · simp [(blank_separate blank).2.2.2.1] at inside
    · rintro rfl
      exact absurd inside (by decide +kernel)

/-- The base is a number or a name. -/
theorem findBase_piece {ps : List Piece} {p : Piece} {g r : List Char}
    (leading : Leads (ps.map Piece.word)) (apart : (ps.map Piece.word).IsChain Apart)
    (blank : ∀ c ∈ g, isBlank c = true) (unglued : Unglued ps p)
    (word : (∃ t, p.word = .number t) ∨ ∃ t, p.word = .name t) :
    findBase (spell ps ++ (p.gap ++ (p.word.text.toList ++ (g ++ r))))
        ((spell ps ++ p.gap ++ p.word.text.toList).length + g.length) =
      some ((spell ps ++ p.gap).length, (spell ps ++ p.gap ++ p.word.text.toList).length) := by
  obtain ⟨c₀, s, head, -⟩ := p.fits.head
  obtain ⟨b, c, text⟩ := exists_concat (l := p.word.text.toList) (by simp [head])
  have operand := isNumber_or_isName_of_fits word
  rw [text] at operand
  obtain ⟨ink, closing⟩ := last_of_operand operand
  have longest : ∀ z, z ≠ [] → z <:+ spell ps ++ p.gap →
      (isNumber (z ++ (b ++ [c])) || isName (z ++ (b ++ [c]))) = false := by
    intro z some suffix
    rw [isName_append_eq_false leading p.blank some suffix, Bool.or_false]
    apply Bool.eq_false_iff.2
    intro number
    obtain ⟨near, qs, p', q, rfl, hook, -, -, -, digits, -⟩ :=
      exists_hook leading apart p.blank some suffix (isNumber_iff.1 number)
    exact (unglued near (text ▸ digits) qs p' q rfl).false hook
  have found := findBase_word (r := r) blank ink closing (by simpa using operand) longest
  rw [text]
  simpa [Nat.add_assoc] using found

/-- The base is a bracket. -/
theorem findBase_group {ps inner : List Piece} {o cl : Piece} {g r : List Char}
    (leading : Leads (ps.map Piece.word)) (blank : ∀ c ∈ g, isBlank c = true)
    (level : Level (spell inner)) (opens : o.word = .opening) (closes : cl.word = .closing) :
    findBase (spell ps ++ (spell (o :: inner ++ [cl]) ++ (g ++ r)))
        ((spell ps ++ spell (o :: inner ++ [cl])).length + g.length) =
      some ((spell ps ++ o.gap).length, (spell ps ++ spell (o :: inner ++ [cl])).length) := by
  have found := findBase_bracket (a := spell ps ++ o.gap) (r := r) blank
    (level.append (level_blanks cl.blank))
  rw [lengthToLastInk_spell leading o.blank, List.take_left, suffixStart_eq_none] at found
  · simpa [spell, opens, closes, Lexeme.text, Nat.add_assoc, Nat.add_comm, Nat.add_left_comm]
      using found
  · intro z some suffix
    have none : ∀ c ∈ ([] : List Char), isBlank c = true := by simp
    have same : isName (z ++ []) = false :=
      isName_append_eq_false leading none some (by simpa using suffix)
    simpa using same

/-- The base is a call. -/
theorem findBase_call {ps inner : List Piece} {nm o cl : Piece} {t : String} {g r : List Char}
    (leading : Leads (ps.map Piece.word)) (blank : ∀ c ∈ g, isBlank c = true)
    (level : Level (spell inner)) (name : nm.word = .name t) (opens : o.word = .opening)
    (closes : cl.word = .closing) :
    findBase (spell ps ++ (spell (nm :: o :: inner ++ [cl]) ++ (g ++ r)))
        ((spell ps ++ spell (nm :: o :: inner ++ [cl])).length + g.length) =
      some ((spell ps ++ nm.gap).length,
        (spell ps ++ spell (nm :: o :: inner ++ [cl])).length) := by
  have found := findBase_bracket (a := spell ps ++ nm.gap ++ t.toList ++ o.gap) (r := r) blank
    (level.append (level_blanks cl.blank))
  have itself := isName_of_fits (name ▸ nm.fits)
  obtain ⟨c₀, s, head, -⟩ := nm.fits.head
  rw [name, Lexeme.text] at head
  obtain ⟨b, c, text⟩ := exists_concat (l := t.toList) (by simp [head])
  have ink := last_of_operand (.inr (text ▸ itself))
  rw [lengthToLastInk_append o.blank (by rw [text]; simpa using ink.1), List.take_left,
    suffixStart_eq itself (by simp [head])
      (fun z some suffix => isName_append_eq_false leading nm.blank some suffix)] at found
  simpa [spell, name, opens, closes, Lexeme.text, Nat.add_assoc, Nat.add_comm, Nat.add_left_comm]
    using found

/-- Before the caret of a derivation the search finds the base of the power. -/
theorem findBase_primary (base : Grammar.Primary) {ps bs : List Piece} {g r : List Char}
    (leading : Leads (ps.map Piece.word)) (apart : (ps.map Piece.word).IsChain Apart)
    (words : bs.map Piece.word = base.lexemes) (blank : ∀ c ∈ g, isBlank c = true)
    (unglued : ∀ p ∈ bs.head?, Unglued ps p) :
    findBase (spell ps ++ (spell bs ++ (g ++ r))) ((spell ps ++ spell bs).length + g.length) =
      some ((spell ps ++ Piece.lead bs).length, (spell ps ++ spell bs).length) := by
  cases base with
  | number t pos =>
      obtain ⟨p, rest, rfl, word, after⟩ := List.map_eq_cons_iff.1 words
      obtain rfl := List.map_eq_nil_iff.1 after
      have found := findBase_piece (r := r) leading apart blank (unglued p (by simp))
        (.inl ⟨t, word⟩)
      simpa [spell, Piece.lead, Nat.add_assoc] using found
  | name t pos =>
      obtain ⟨p, rest, rfl, word, after⟩ := List.map_eq_cons_iff.1 words
      obtain rfl := List.map_eq_nil_iff.1 after
      have found := findBase_piece (r := r) leading apart blank (unglued p (by simp))
        (.inr ⟨t, word⟩)
      simpa [spell, Piece.lead, Nat.add_assoc] using found
  | call t pos opening args closing =>
      rw [Grammar.Primary.lexemes_call] at words
      obtain ⟨nm, rest, rfl, name, after⟩ := List.map_eq_cons_iff.1 words
      obtain ⟨o, rest, rfl, opens, after⟩ := List.map_eq_cons_iff.1 after
      obtain ⟨inner, rest, rfl, inside, after⟩ := List.map_eq_append_iff.1 after
      obtain ⟨cl, rest, rfl, closes, after⟩ := List.map_eq_cons_iff.1 after
      obtain rfl := List.map_eq_nil_iff.1 after
      exact findBase_call leading blank (level_spell args.nested inside) name opens closes
  | group opening inner closing =>
      rw [Grammar.Primary.lexemes_group] at words
      obtain ⟨o, rest, rfl, opens, after⟩ := List.map_eq_cons_iff.1 words
      obtain ⟨within, rest, rfl, inside, after⟩ := List.map_eq_append_iff.1 after
      obtain ⟨cl, rest, rfl, closes, after⟩ := List.map_eq_cons_iff.1 after
      obtain rfl := List.map_eq_nil_iff.1 after
      exact findBase_group leading blank (level_spell inner.nested inside) opens closes

/-! ## Pieces behind a caret -/

/-- What follows a name is no word character. -/
theorem not_isWordChar_of_apart {p : Piece} {t : String} {cs : List Piece} {tail : List Char}
    (name : p.word = .name t) (apart : ((p :: cs).map Piece.word).IsChain Apart)
    (blank : ∀ c ∈ tail, isBlank c = true) :
    ∀ c ∈ (spell cs ++ tail).head?, isWordChar c = false := by
  intro c first
  cases cs with
  | nil => exact (blank_separate (blank c (List.mem_of_head? first))).2.2.2.1
  | cons q cs =>
      by_cases empty : q.gap = []
      · have apart : p.word.Apart q.word := by simpa using apart.rel
        rcases apart with ⟨c', symbol⟩ | ⟨c', symbol⟩
        · rw [name] at symbol
          exact absurd symbol (ofChar?_ne c' t).2
        · obtain rfl : c' = c := by simpa [spell, empty, symbol_text symbol] using first
          exact (symbol_separate symbol).2.2.2.2.1
      · rw [spell, List.append_assoc, List.head?_append_of_ne_nil _ empty] at first
        exact (blank_separate (q.blank c (List.mem_of_head? first))).2.2.2.1

/-- Pieces and the blanks after them, divided at the first ink. -/
theorem exists_blank_ink (cs : List Piece) {tail : List Char}
    (blank : ∀ c ∈ tail, isBlank c = true) :
    ∃ g r, spell cs ++ tail = g ++ r ∧ (∀ c ∈ g, isBlank c = true) ∧
      (∀ c ∈ r.head?, isBlank c = false) ∧
      ((∀ p ∈ cs.head?, p.word ≠ .opening) → r.head? ≠ some '(') := by
  cases cs with
  | nil => exact ⟨tail, [], by simp [spell], blank, by simp, by simp⟩
  | cons p cs =>
      obtain ⟨c, s, head, ink⟩ := p.fits.head
      refine ⟨p.gap, p.word.text.toList ++ spell cs ++ tail, by simp [spell], p.blank,
        by simpa [head] using ink, fun other first => ?_⟩
      obtain rfl : c = '(' := by simpa [head] using first
      have symbol : ofChar? '(' = some .opening := rfl
      exact other p (by simp) (p.fits.eq_of_mem symbol (by decide) (by simp [head]))

/-- The search finds the end of a primary that no parenthesis follows. -/
theorem operandStop_primary (b : Grammar.Primary) {es cs : List Piece} {a tail : List Char}
    (words : es.map Piece.word = b.lexemes)
    (apart : ((es ++ cs).map Piece.word).IsChain Apart) (blank : ∀ c ∈ tail, isBlank c = true)
    (other : ∀ p ∈ cs.head?, p.word ≠ .opening) :
    operandStop (a ++ (Piece.ink es ++ (spell cs ++ tail))) a.length =
      some (a.length + (Piece.ink es).length) := by
  cases b with
  | number t pos =>
      obtain ⟨p, rest, rfl, word, after⟩ := List.map_eq_cons_iff.1 words
      obtain rfl := List.map_eq_nil_iff.1 after
      have before : p.word.Fits (spell cs ++ tail) := Token.fits_spell (by simpa using apart) blank
      rw [word] at before
      have stop := operandStop_number (a := a) (fits_number_iff.1 before)
      simpa [Piece.ink, spell, word, Lexeme.text] using stop
  | name t pos =>
      obtain ⟨p, rest, rfl, word, after⟩ := List.map_eq_cons_iff.1 words
      obtain rfl := List.map_eq_nil_iff.1 after
      obtain ⟨c, n, text, start, inside, -⟩ := fits_name_iff.1 (word ▸ p.fits)
      have chars : ∀ x ∈ n, isWordChar x = true := fun x member =>
        isWordChar_of_isNameChar (inside x member)
      have edge := not_isWordChar_of_apart word (by simpa using apart) blank
      obtain ⟨g, r, split, blank', ink, closed⟩ := exists_blank_ink cs blank
      rw [split] at edge ⊢
      have stop := operandStop_alone (a := a) start chars edge blank' ink (closed other)
      simpa [Piece.ink, spell, word, Lexeme.text, text] using stop
  | call t pos opening args closing =>
      rw [Grammar.Primary.lexemes_call] at words
      obtain ⟨nm, rest, rfl, name, after⟩ := List.map_eq_cons_iff.1 words
      obtain ⟨o, rest, rfl, opens, after⟩ := List.map_eq_cons_iff.1 after
      obtain ⟨inner, rest, rfl, inside, after⟩ := List.map_eq_append_iff.1 after
      obtain ⟨cl, rest, rfl, closes, after⟩ := List.map_eq_cons_iff.1 after
      obtain rfl := List.map_eq_nil_iff.1 after
      obtain ⟨c, n, text, start, within, -⟩ := fits_name_iff.1 (name ▸ nm.fits)
      have chars : ∀ x ∈ n, isWordChar x = true := fun x member =>
        isWordChar_of_isNameChar (within x member)
      have bracket : spell (o :: inner ++ [cl] ++ cs) ++ tail =
          o.gap ++ '(' :: ((spell inner ++ cl.gap) ++ ')' :: (spell cs ++ tail)) := by
        simp [spell, opens, closes, Lexeme.text]
      have edge := not_isWordChar_of_apart name
        (show ((nm :: (o :: inner ++ [cl] ++ cs)).map Piece.word).IsChain Apart by
          simpa using apart) blank
      rw [bracket] at edge
      have stop := operandStop_call (a := a) start chars edge o.blank
        ((level_spell args.nested inside).append (level_blanks cl.blank))
      simpa [Piece.ink, spell, name, opens, closes, Lexeme.text, text] using stop
  | group opening inner closing =>
      rw [Grammar.Primary.lexemes_group] at words
      obtain ⟨o, rest, rfl, opens, after⟩ := List.map_eq_cons_iff.1 words
      obtain ⟨within, rest, rfl, inside, after⟩ := List.map_eq_append_iff.1 after
      obtain ⟨cl, rest, rfl, closes, after⟩ := List.map_eq_cons_iff.1 after
      obtain rfl := List.map_eq_nil_iff.1 after
      have stop := operandStop_group (a := a) (r := spell cs ++ tail)
        ((level_spell inner.nested inside).append (level_blanks cl.blank))
      simpa [Piece.ink, spell, opens, closes, Lexeme.text] using stop

/-- The search for an exponent passes over blanks, and over one sign and the blanks after it. It
does not look at the character it begins behind. -/
theorem findExponent_eq {x g r : List Char} {c k : Char} (blank : ∀ c ∈ g, isBlank c = true)
    (ink : isBlank c = false) :
    findExponent (x ++ k :: (g ++ c :: r)) x.length =
      (operandStop (x ++ k :: (g ++ c :: r))
        (if IsSign c then
          skipBlanks (x ++ k :: (g ++ c :: r)) (x ++ k :: (g ++ [c])).length
        else (x ++ k :: g).length)).map fun stop => ((x ++ k :: g).length, stop) := by
  have split : x ++ k :: (g ++ c :: r) = (x ++ [k]) ++ (g ++ c :: r) := by simp
  have start : skipBlanks (x ++ k :: (g ++ c :: r)) (x.length + 1) = (x ++ k :: g).length := by
    have skipped := skipBlanks_append (a := x ++ [k]) (r := c :: r) blank (by simpa using ink)
    rw [← split] at skipped
    simpa [Nat.add_assoc, Nat.add_comm, Nat.add_left_comm] using skipped
  have first : (x ++ k :: (g ++ c :: r))[(x ++ k :: g).length]? = some c := by
    have shape : x ++ k :: (g ++ c :: r) = (x ++ k :: g) ++ c :: r := by simp
    rw [shape, List.getElem?_append_right (by simp), Nat.sub_self, List.getElem?_cons_zero]
  unfold findExponent
  simp only [start, first, Option.some.injEq, Bool.or_eq_true, decide_eq_true_eq]
  congr 2
  by_cases sign : IsSign c
  · rw [if_pos sign, if_pos (show c = '+' ∨ c = '-' from sign)]
    congr 1
    simp only [List.length_append, List.length_cons, List.length_nil]
    omega
  · rw [if_neg sign, if_neg (show ¬ (c = '+' ∨ c = '-') from sign)]

/-- No operand begins with a sign. -/
theorem operandStop_sign {a r : List Char} {c : Char} (sign : IsSign c) :
    operandStop (a ++ c :: r) a.length = none := by
  have other : isDigit c = false ∧ c ≠ '.' ∧ isNameStart c = false ∧ c ≠ '(' := by
    rcases sign with rfl | rfl <;> decide
  obtain ⟨digit, point, start, opening⟩ := other
  unfold operandStop
  dsimp only
  rw [List.drop_left, numberLength_eq_zero digit point, nameLength_eq_zero start]
  split
  · next first =>
      rw [List.head?_cons, Option.some.injEq] at first
      exact absurd first opening
  · rfl
  · next some => exact absurd rfl some
  · next some _ => exact absurd rfl some

/-- A word that begins with a sign is one. -/
theorem startsPrimary_of_isSign {w : Lexeme} {c : Char} {s r : List Char} (fits : Fits w r)
    (head : w.text.toList = c :: s) (sign : IsSign c) : Grammar.startsPrimary w = false := by
  have symbol : ofChar? c ≠ none := by
    rcases sign with rfl | rfl <;> simp [ofChar?]
  rcases w.isSymbol_or with ⟨t, rfl⟩ | ⟨t, rfl⟩ | ⟨c', symbol'⟩
  · obtain ⟨c', s', same, numeric⟩ := (fits_number_iff.1 fits).head
    obtain ⟨rfl, -⟩ := List.cons.inj (same.symm.trans head)
    exact absurd (numeric_separate numeric).2.2 symbol
  · obtain ⟨c', n, same, start, -⟩ := fits_name_iff.1 fits
    obtain ⟨rfl, -⟩ := List.cons.inj (same.symm.trans head)
    exact absurd (nameStart_separate start).2.2.2.1 symbol
  · rw [symbol_text symbol'] at head
    obtain ⟨rfl, -⟩ := List.cons.inj head
    rcases sign with rfl | rfl
    · obtain rfl : Lexeme.plus = w := Option.some.inj symbol'
      rfl
    · obtain rfl : Lexeme.minus = w := Option.some.inj symbol'
      rfl

/-- The first character of a primary is no sign. -/
theorem ink_primary (b : Grammar.Primary) {es : List Piece}
    (words : es.map Piece.word = b.lexemes) :
    ∃ c s, Piece.ink es = c :: s ∧ isBlank c = false ∧ ¬ IsSign c := by
  obtain ⟨t, ts, first, starts⟩ := b.words_head
  have lexemes : b.lexemes = t.lexeme :: ts.map Token.lexeme := by
    rw [Grammar.Primary.lexemes, first, List.map_cons]
  obtain ⟨p, rest, rfl, word, -⟩ := List.map_eq_cons_iff.1 (words.trans lexemes)
  obtain ⟨c, s, head, ink⟩ := p.fits.head
  refine ⟨c, s ++ spell rest, by simp [Piece.ink, head], ink, fun sign => ?_⟩
  rw [← word, startsPrimary_of_isSign p.fits head sign] at starts
  exact Bool.false_ne_true starts

theorem text_sign (op : Grammar.Sign) : ∃ c, op.lexeme.text.toList = [c] ∧ IsSign c := by
  cases op
  · exact ⟨'+', rfl, .inl rfl⟩
  · exact ⟨'-', rfl, .inr rfl⟩

theorem lead_blank (ps : List Piece) : ∀ c ∈ Piece.lead ps, isBlank c = true := by
  cases ps with
  | nil => simp [Piece.lead]
  | cons p ps => exact p.blank

/-- Behind a caret the search finds a primary. -/
theorem findExponent_unsigned (b : Grammar.Primary) {es cs : List Piece} {x tail : List Char}
    (words : es.map Piece.word = b.lexemes)
    (apart : ((es ++ cs).map Piece.word).IsChain Apart) (blank : ∀ c ∈ tail, isBlank c = true)
    (other : ∀ p ∈ cs.head?, p.word ≠ .opening) :
    findExponent (x ++ '^' :: (spell es ++ (spell cs ++ tail))) x.length =
      some ((x ++ '^' :: Piece.lead es).length, (x ++ '^' :: spell es).length) := by
  obtain ⟨c, s, ink, inked, unsigned⟩ := ink_primary b words
  have stop := operandStop_primary b (a := x ++ '^' :: Piece.lead es) words apart blank other
  have found := findExponent_eq (x := x) (r := s ++ (spell cs ++ tail)) (k := '^') (lead_blank es)
    inked
  have text : x ++ '^' :: (spell es ++ (spell cs ++ tail)) =
      x ++ '^' :: (Piece.lead es ++ c :: (s ++ (spell cs ++ tail))) := by
    simp [Piece.spell_eq_lead_append_ink es, ink]
  have whole : (x ++ '^' :: spell es).length =
      (x ++ '^' :: Piece.lead es).length + (c :: s).length := by
    simp only [Piece.spell_eq_lead_append_ink es, ink, List.length_append, List.length_cons]
    omega
  rw [ink, List.append_assoc, List.cons_append, List.cons_append] at stop
  rw [if_neg unsigned, stop, Option.map_some] at found
  rw [text, found, whole]

/-- Behind a caret the search finds a primary with a sign. -/
theorem findExponent_signed (op : Grammar.Sign) (b : Grammar.Primary) {q : Piece}
    {es cs : List Piece} {x tail : List Char} (sign : q.word = op.lexeme)
    (words : es.map Piece.word = b.lexemes)
    (apart : ((es ++ cs).map Piece.word).IsChain Apart) (blank : ∀ c ∈ tail, isBlank c = true)
    (other : ∀ p ∈ cs.head?, p.word ≠ .opening) :
    findExponent (x ++ '^' :: (spell (q :: es) ++ (spell cs ++ tail))) x.length =
      some ((x ++ '^' :: q.gap).length, (x ++ '^' :: spell (q :: es)).length) := by
  obtain ⟨c, text, signs⟩ := text_sign op
  have inked : isBlank c = false := by rcases signs with rfl | rfl <;> decide
  obtain ⟨c', s, ink, inked', -⟩ := ink_primary b words
  have stop := operandStop_primary b (a := x ++ '^' :: (q.gap ++ c :: Piece.lead es)) words apart
    blank other
  have skipped := skipBlanks_append (a := x ++ '^' :: (q.gap ++ [c])) (g := Piece.lead es)
    (r := Piece.ink es ++ (spell cs ++ tail)) (lead_blank es) (by simpa [ink] using inked')
  have found := findExponent_eq (x := x) (r := spell es ++ (spell cs ++ tail)) (k := '^') q.blank
    inked
  -- The text divided before the exponent, before the blanks behind its sign, and before its base.
  have split : x ++ '^' :: (spell (q :: es) ++ (spell cs ++ tail)) =
      x ++ '^' :: (q.gap ++ c :: (spell es ++ (spell cs ++ tail))) := by
    simp [spell, sign, text]
  have split' : x ++ '^' :: (q.gap ++ [c]) ++ (Piece.lead es ++ (Piece.ink es ++
      (spell cs ++ tail))) = x ++ '^' :: (q.gap ++ c :: (spell es ++ (spell cs ++ tail))) := by
    simp [Piece.spell_eq_lead_append_ink es]
  have split'' : x ++ '^' :: (q.gap ++ c :: Piece.lead es) ++ (Piece.ink es ++
      (spell cs ++ tail)) = x ++ '^' :: (q.gap ++ c :: (spell es ++ (spell cs ++ tail))) := by
    simp [Piece.spell_eq_lead_append_ink es]
  have length : (x ++ '^' :: (q.gap ++ [c])).length + (Piece.lead es).length =
      (x ++ '^' :: (q.gap ++ c :: Piece.lead es)).length := by
    simp only [List.length_append, List.length_cons, List.length_nil]
    omega
  have whole : (x ++ '^' :: spell (q :: es)).length =
      (x ++ '^' :: (q.gap ++ c :: Piece.lead es)).length + (Piece.ink es).length := by
    simp only [spell, sign, text, Piece.spell_eq_lead_append_ink es, List.length_append,
      List.length_cons, List.length_nil]
    omega
  rw [split'] at skipped
  rw [split''] at stop
  rw [if_pos signs, skipped, length, stop, Option.map_some] at found
  rw [split, found, whole]

/-- Behind a caret the search finds nothing at two signs. -/
theorem findExponent_none {op op' : Grammar.Sign} {q q' : Piece} {x r : List Char}
    (sign : q.word = op.lexeme) (sign' : q'.word = op'.lexeme) :
    findExponent (x ++ '^' :: (spell [q, q'] ++ r)) x.length = none := by
  obtain ⟨c, text, signs⟩ := text_sign op
  obtain ⟨c', text', signs'⟩ := text_sign op'
  have inked : isBlank c = false := by rcases signs with rfl | rfl <;> decide
  have inked' : isBlank c' = false := by rcases signs' with rfl | rfl <;> decide
  have skipped := skipBlanks_append (a := x ++ '^' :: (q.gap ++ [c])) (g := q'.gap)
    (r := c' :: r) q'.blank (by simpa using inked')
  have found := findExponent_eq (x := x) (r := q'.gap ++ c' :: r) (k := '^') q.blank inked
  have split : x ++ '^' :: (spell [q, q'] ++ r) =
      x ++ '^' :: (q.gap ++ c :: (q'.gap ++ c' :: r)) := by
    simp [spell, sign, text, sign', text']
  have split' : x ++ '^' :: (q.gap ++ [c]) ++ (q'.gap ++ c' :: r) =
      x ++ '^' :: (q.gap ++ c :: (q'.gap ++ c' :: r)) := by simp
  have split'' : (x ++ '^' :: (q.gap ++ c :: q'.gap)) ++ c' :: r =
      x ++ '^' :: (q.gap ++ c :: (q'.gap ++ c' :: r)) := by simp
  have stop : operandStop ((x ++ '^' :: (q.gap ++ c :: q'.gap)) ++ c' :: r)
      (x ++ '^' :: (q.gap ++ c :: q'.gap)).length = none := operandStop_sign signs'
  have length : (x ++ '^' :: (q.gap ++ [c])).length + q'.gap.length =
      (x ++ '^' :: (q.gap ++ c :: q'.gap)).length := by
    simp only [List.length_append, List.length_cons, List.length_nil]
    omega
  rw [split'] at skipped
  rw [split''] at stop
  rw [if_pos signs, skipped, length, stop, Option.map_none] at found
  rw [split, found]

end Quadrature.Caret
