/-
# Quadrature.Proofs.Expr.Scanning -- a text is its words and the blanks between them

Each kind of word has its texts, which say nothing of how a text is scanned: `Kind.Matches`. The
scanner takes the longest of them, and it never has a choice between two kinds, since the first
character tells them apart. So what it finds is the only way to lay words along the text, and it stops
where no text of any kind begins. What stands before the stop is scanned as it was, since a word that
was not prolonged by what follows is not prolonged by less.

* `fits_iff_longest`: the word that comes first is the longest of its kind;
* `Token.laid_of_scan`, `Token.scan_of_laid`: the words that are found are laid along the text, and no
  others are;
* `Token.scan_error`: what stands before the stop, and what does not stand behind it;
* `Token.tokenize_lossless`: the words of any text, or why it has none.
-/
import Quadrature.Proofs.Expr.Spelling
import Quadrature.Proofs.Number.Numeral

namespace Quadrature

set_option autoImplicit false

open Quadrature.Text
open Quadrature.Number (Numeral.read? Numeral.read_of_before)

namespace Lexeme

/-! ## Kinds of words -/

/-- The kinds of words. -/
inductive Kind where
  | number
  | name
  | operator
  | opening
  | closing
  | comma

/-- The kind of a word. -/
def kind : Lexeme → Kind
  | .number _ => .number
  | .name _ => .name
  | .plus | .minus | .times | .over | .caret => .operator
  | .opening => .opening
  | .closing => .closing
  | .comma => .comma

/-- The texts of a kind. -/
def Kind.Matches : Kind → List Char → Prop
  | .number, s => ∃ m x, s = m ++ x ∧ Mantissa m ∧ (x = [] ∨ Exponent x)
  | .name, s => ∃ c n, s = c :: n ∧ isNameStart c = true ∧ ∀ x ∈ n, isNameChar x = true
  | .operator, s => ∃ c ∈ ['+', '-', '*', '/', '^'], s = [c]
  | .opening, s => s = ['(']
  | .closing, s => s = [')']
  | .comma, s => s = [',']

/-- `w` is the longest text of a kind with which `s` begins. -/
structure Longest (k : Kind) (w s : List Char) : Prop where
  here : w <+: s
  fits : k.Matches w
  longest : ∀ v, v <+: s → k.Matches v → v.length ≤ w.length

theorem matches_number_iff {s : List Char} : Kind.number.Matches s ↔ Before s [] := by
  constructor
  · rintro ⟨m, x, rfl, shape, rfl | raised⟩
    · rw [List.append_nil]
      exact .mantissa shape ⟨noDigit_nil, .inr (by simp)⟩ rfl
    · exact .exponent shape raised noDigit_nil
  · intro before
    cases before with
    | mantissa shape ends bare => exact ⟨s, [], by simp, shape, .inl rfl⟩
    | exponent shape raised stop => exact ⟨_, _, rfl, shape, .inr raised⟩

/-- The texts of a kind are numbers, names or symbols. -/
theorem Kind.Matches.cases {k : Kind} {s : List Char} (shape : k.Matches s) :
    (k = .number ∧ Before s []) ∨
      (k = .name ∧ ∃ c n, s = c :: n ∧ isNameStart c = true ∧ ∀ x ∈ n, isNameChar x = true) ∨
      ∃ c w, s = [c] ∧ ofChar? c = some w ∧ w.kind = k := by
  cases k with
  | number => exact .inl ⟨rfl, matches_number_iff.1 shape⟩
  | name => exact .inr (.inl ⟨rfl, shape⟩)
  | operator =>
      obtain ⟨c, member, rfl⟩ := shape
      have all : ∀ c ∈ ['+', '-', '*', '/', '^'], ∃ w, ofChar? c = some w ∧ w.kind = .operator := by
        simp [ofChar?, kind]
      obtain ⟨w, symbol, same⟩ := all c member
      exact .inr (.inr ⟨c, w, rfl, symbol, same⟩)
  | opening => exact .inr (.inr ⟨'(', .opening, shape, rfl, rfl⟩)
  | closing => exact .inr (.inr ⟨')', .closing, shape, rfl, rfl⟩)
  | comma => exact .inr (.inr ⟨',', .comma, shape, rfl, rfl⟩)

theorem matches_symbol {w : Lexeme} {c : Char} (symbol : ofChar? c = some w) :
    w.kind.Matches [c] := by
  unfold ofChar? at symbol
  split at symbol <;> simp only [Option.some.injEq, reduceCtorEq] at symbol <;> subst symbol <;>
    simp [kind, Kind.Matches]

/-- A word is a text of its kind. -/
theorem Fits.matches {w : Lexeme} {r : List Char} (fits : Fits w r) :
    w.kind.Matches w.text.toList := by
  rcases w.isSymbol_or with ⟨t, rfl⟩ | ⟨t, rfl⟩ | ⟨c, symbol⟩
  · exact matches_number_iff.2 ((fits_number_iff.1 (Fits.take (r := []) fits)))
  · obtain ⟨c, n, same, start, inside, -⟩ := fits_name_iff.1 fits
    exact ⟨c, n, same, start, inside⟩
  · rw [symbol_text symbol]
    exact matches_symbol symbol

/-! ## The longest text of a kind -/

theorem mantissaLength_ne_zero {m : List Char} (shape : Mantissa m) (r : List Char) :
    mantissaLength (m ++ r) ≠ 0 := by
  cases shape with
  | whole digits some =>
      obtain ⟨c, d, rfl⟩ := List.exists_cons_of_ne_nil some
      have run := digitRun_cons_ne_zero (digits c (by simp)) (d ++ r)
      simp only [mantissaLength, List.cons_append]
      split
      · split <;> omega
      · exact run
  | @point w f digits fraction some =>
      obtain ⟨d, r, rfl, -, digits', stop⟩ := digitRun_split r
      have all : Digits (f ++ d) := fun c member => (List.mem_append.1 member).elim (fraction c) (digits' c)
      have split : w ++ '.' :: f ++ (d ++ r) = w ++ '.' :: (f ++ d ++ r) := by simp
      have positive : w.length + (f ++ d).length ≠ 0 := by
        have := List.length_pos_of_ne_nil some
        simp only [List.length_append] at this ⊢
        omega
      rw [split, mantissaLength_point digits all stop, if_neg positive]
      omega

theorem numberLength_ne_zero {w : List Char} (before : Before w []) (r : List Char) :
    numberLength (w ++ r) ≠ 0 := by
  have long {m x : List Char} (shape : Mantissa m) : numberLength (m ++ x) ≠ 0 := by
    have positive := mantissaLength_ne_zero shape x
    unfold numberLength
    split
    · next zero => exact absurd zero positive
    · omega
  cases before with
  | mantissa shape ends bare => exact long shape
  | exponent shape raised stop =>
      rw [List.append_assoc]
      exact long shape

/-- A number that ends before a text is not a shorter part of a number. -/
theorem Before.eq_nil {w t r : List Char} (before : Before w (t ++ r)) (whole : Before (w ++ t) []) :
    t = [] := by
  have short := numberLength_of_before before.take
  have long := numberLength_of_before whole
  rw [List.append_nil] at long
  rw [long, List.length_append] at short
  exact List.length_eq_zero_iff.1 (by omega)

/-- A text is the longest of its kind if the kind has no longer one that begins with it. -/
theorem longest_iff {k : Kind} {w r : List Char} : Longest k w (w ++ r) ↔
    k.Matches w ∧ ∀ t r', r = t ++ r' → k.Matches (w ++ t) → t = [] := by
  constructor
  · rintro ⟨-, shape, longest⟩
    refine ⟨shape, fun t r' split longer => ?_⟩
    have short := longest (w ++ t) ⟨r', by rw [split, List.append_assoc]⟩ longer
    rw [List.length_append] at short
    exact List.length_eq_zero_iff.1 (by omega)
  · rintro ⟨shape, longest⟩
    refine ⟨⟨r, rfl⟩, shape, fun v here shape' => ?_⟩
    rcases Nat.le_total v.length w.length with short | long
    · exact short
    · obtain ⟨t, rfl⟩ := List.prefix_of_prefix_length_le ⟨r, rfl⟩ here long
      obtain ⟨r', split⟩ := here
      rw [List.append_assoc] at split
      simp [longest t r' (List.append_cancel_left split).symm shape']

theorem symbol_kind {w : Lexeme} {c : Char} (symbol : ofChar? c = some w) :
    w.kind ≠ .number ∧ w.kind ≠ .name := by
  unfold ofChar? at symbol
  split at symbol <;> simp only [Option.some.injEq, reduceCtorEq] at symbol <;> subst symbol <;>
    simp [kind]

/-- The longest number at the start of a text comes first. -/
theorem before_of_longest {w r : List Char} (longest : Longest .number w (w ++ r)) :
    Before w r := by
  obtain ⟨w', r', split, -, some, before⟩ :=
    before_split (numberLength_ne_zero (matches_number_iff.1 longest.fits) r)
  have shape' : Kind.number.Matches w' := matches_number_iff.2 (Before.take (r := []) before)
  have short := longest.longest w' ⟨r', split.symm⟩ shape'
  obtain ⟨t, rfl⟩ := List.prefix_of_prefix_length_le ⟨r', split.symm⟩ ⟨r, rfl⟩ short
  rw [List.append_assoc, List.append_cancel_left_eq] at split
  obtain rfl := Before.eq_nil (split ▸ before) (matches_number_iff.1 longest.fits)
  rwa [List.append_nil, show r = r' from split]

/-- The word that comes first is the longest of its kind. -/
theorem fits_iff_longest {w : Lexeme} {r : List Char} :
    Fits w r ↔ Longest w.kind w.text.toList (w.text.toList ++ r) := by
  constructor
  · intro fits
    refine longest_iff.2 ⟨fits.matches, fun t r' split longer => ?_⟩
    rcases w.isSymbol_or with ⟨s, rfl⟩ | ⟨s, rfl⟩ | ⟨c, symbol⟩
    · exact (split ▸ fits_number_iff.1 fits).eq_nil (matches_number_iff.1 longer)
    · obtain ⟨c, n, same, -, -, stop⟩ := fits_name_iff.1 fits
      obtain ⟨c', n', same', -, inside⟩ := longer
      cases t with
      | nil => rfl
      | cons x t =>
          rw [Lexeme.text, same, List.cons_append, List.cons.injEq] at same'
          have inside := inside x (by simp [← same'.2])
          simp [stop x (by simp [split])] at inside
    · rcases longer.cases with ⟨number, -⟩ | ⟨name, -⟩ | ⟨c', w', single, -⟩
      · exact absurd number (symbol_kind symbol).1
      · exact absurd name (symbol_kind symbol).2
      · rw [symbol_text symbol] at single
        exact (List.cons.inj single).2
  · intro longest
    rcases w.isSymbol_or with ⟨s, rfl⟩ | ⟨s, rfl⟩ | ⟨c, symbol⟩
    · exact fits_number_iff.2 (before_of_longest longest)
    · obtain ⟨⟨c, n, same, start, inside⟩, longest⟩ := longest_iff.1 longest
      refine fits_name_iff.2 ⟨c, n, same, start, inside, fun x first => ?_⟩
      obtain ⟨r, rfl⟩ := List.head?_eq_some_iff.1 first
      apply Bool.eq_false_iff.2
      intro goes
      refine absurd (longest [x] r rfl ⟨c, n ++ [x], by rw [same]; rfl, start, ?_⟩)
        (by simp)
      intro y member
      rcases List.mem_append.1 member with first | last
      · exact inside y first
      · rwa [List.mem_singleton.1 last]
    · exact fits_symbol symbol r

/-- What the scanner finds where it stops. -/
theorem first?_eq_none {c : Char} {s : List Char} (none : first? (c :: s) = none) :
    isBlank c = false ∧ numberLength (c :: s) = 0 ∧ isNameStart c = false ∧
      ofChar? c = Option.none := by
  have ink : isBlank c = false := by
    apply Bool.eq_false_iff.2
    intro blank
    simp [first?_eq_of_blank blank] at none
  have head : ∀ x ∈ (c :: s).head?, isBlank x = false := by simpa using ink
  have number : numberLength (c :: s) = 0 := by
    apply Classical.byContradiction
    intro some
    simp [first?_eq_of_number some head] at none
  have name : nameLength isNameChar (c :: s) = 0 := by
    apply Classical.byContradiction
    intro some
    simp [first?_eq_of_name number some head] at none
  rw [first?_eq_of_symbol number name head] at none
  refine ⟨ink, number, ?_, by simpa using none⟩
  apply Bool.eq_false_iff.2
  intro start
  simp [nameLength, start] at name

/-- No text of any kind begins where the scanner stops. -/
theorem Kind.Matches.not_prefix {k : Kind} {c : Char} {s v : List Char}
    (none : first? (c :: s) = none) (shape : k.Matches v) : ¬ v <+: c :: s := by
  obtain ⟨-, number, start, symbol⟩ := first?_eq_none none
  rintro ⟨r, split⟩
  rcases shape.cases with ⟨-, before⟩ | ⟨-, c', n, rfl, start', -⟩ | ⟨c', w, rfl, symbol', -⟩
  · exact numberLength_ne_zero before r (split ▸ number)
  · obtain rfl := (List.cons.inj split).1
    simp [start] at start'
  · obtain rfl := (List.cons.inj split).1
    simp [symbol] at symbol'

end Lexeme

open Lexeme (Longest)

namespace Token

/-! ## Tokens along a text -/

/-- The tokens are laid along a text that starts at an offset: each is the longest of its kind where it
stands, and there are only blanks between them. -/
inductive Laid : Nat → List Token → List Char → Prop where
  | done {n : Nat} {tail : List Char} (blank : ∀ c ∈ tail, isBlank c = true) : Laid n [] tail
  | word {n : Nat} {gap r : List Char} {w : Lexeme} {ts : List Token}
      (blank : ∀ c ∈ gap, isBlank c = true)
      (longest : Longest w.kind w.text.toList (w.text.toList ++ r))
      (rest : Laid (n + gap.length + w.text.toList.length) ts r) :
      Laid n (⟨w, n + gap.length⟩ :: ts) (gap ++ (w.text.toList ++ r))

/-- More blanks before the first token. -/
theorem Laid.blanks {n : Nat} {ts : List Token} {gap r : List Char}
    (blank : ∀ c ∈ gap, isBlank c = true) (laid : Laid (n + gap.length) ts r) :
    Laid n ts (gap ++ r) := by
  have all {gap' : List Char} (blank' : ∀ c ∈ gap', isBlank c = true) :
      ∀ c ∈ gap ++ gap', isBlank c = true := fun c member =>
    (List.mem_append.1 member).elim (blank c) (blank' c)
  cases laid with
  | done blank' => exact .done (all blank')
  | word blank' longest rest =>
      rw [Nat.add_assoc n, ← List.length_append] at rest ⊢
      rw [← List.append_assoc]
      exact .word (all blank') longest rest

/-- The words that are found are laid along the text. -/
theorem laid_of_scan {n : Nat} {ts : List Token} {s : List Char} (scanned : scan n s = .ok ts) :
    Laid n ts s := by
  induction n, s using scan_step generalizing ts with
  | done n =>
      obtain rfl : [] = ts := by simpa [scan_nil] using scanned
      exact .done (by simp)
  | blanks n gap r _ blank ink ih =>
      rw [scan_blanks n blank ink] at scanned
      exact (ih scanned).blanks blank
  | word n w r fits ih =>
      rw [scan_word n fits] at scanned
      cases rest : scan (n + w.text.toList.length) r with
      | error fault => simp [rest, Except.map] at scanned
      | ok us =>
          obtain rfl : ⟨w, n⟩ :: us = ts := by simpa [rest, Except.map] using scanned
          have none : ∀ c ∈ ([] : List Char), isBlank c = true := by simp
          exact .word none (Lexeme.fits_iff_longest.1 fits) (ih rest)
  | stop n c r none =>
      rw [scan_cons, none] at scanned
      simp at scanned

/-- Tokens that are laid along the text are found. -/
theorem scan_of_laid {n : Nat} {ts : List Token} {s : List Char} (laid : Laid n ts s) :
    scan n s = .ok ts := by
  induction laid with
  | @done n tail blank =>
      rw [← List.append_nil tail, scan_blanks n blank (by simp), scan_nil]
  | @word n gap r w ts blank longest _ ih =>
      have fits := Lexeme.fits_iff_longest.2 longest
      obtain ⟨c, s, text, ink⟩ := fits.head
      rw [scan_blanks n blank (by simpa [text] using ink), scan_word _ fits, ih]
      rfl

/-- The scanner has words for what stands before the character at which it stops, and nothing of the
language begins there. -/
theorem scan_error {n : Nat} {s : List Char} {fault : CompileError}
    (failed : scan n s = .error fault) : ∃ us c vs, s = us ++ c :: vs ∧
      fault = .unexpectedChar c (n + us.length) ∧ (∃ ts, scan n us = .ok ts) ∧
      Lexeme.first? (c :: vs) = none := by
  induction n, s using scan_step with
  | done n => simp [scan_nil] at failed
  | blanks n gap r _ blank ink ih =>
      rw [scan_blanks n blank ink] at failed
      obtain ⟨us, c, vs, rfl, rfl, ⟨ts, before⟩, none⟩ := ih failed
      have ink' : ∀ x ∈ us.head?, isBlank x = false := fun x first =>
        ink x (by rw [List.head?_append, Option.mem_def.1 first]; rfl)
      exact ⟨gap ++ us, c, vs, by simp, by simp [Nat.add_assoc],
        ⟨ts, (scan_blanks n blank ink').trans before⟩, none⟩
  | word n w r fits ih =>
      rw [scan_word n fits] at failed
      cases rest : scan (n + w.text.toList.length) r with
      | ok ts => simp [rest, Except.map] at failed
      | error fault' =>
          obtain rfl : fault' = fault := by simpa [rest, Except.map] using failed
          obtain ⟨us, c, vs, rfl, rfl, ⟨ts, before⟩, none⟩ := ih rest
          refine ⟨w.text.toList ++ us, c, vs, by simp, by simp [Nat.add_assoc],
            ⟨⟨w, n⟩ :: ts, ?_⟩, none⟩
          rw [scan_word n fits.take, before]
          rfl
  | stop n c r none =>
      rw [scan_cons, none] at failed
      obtain rfl := Except.error.inj failed
      exact ⟨[], c, r, rfl, rfl, ⟨[], scan_nil n⟩, none⟩

/-- A number that is laid along a text is read. -/
theorem Laid.read_number {n : Nat} {ts : List Token} {s : List Char} (laid : Laid n ts s)
    {t : Token} (member : t ∈ ts) (number : t.lexeme.kind = .number) :
    (Numeral.read? t.lexeme.text.toList).isSome = true := by
  induction laid with
  | done blank => simp at member
  | word blank longest rest ih =>
      rcases List.mem_cons.1 member with rfl | later
      · exact Numeral.read_of_before (Lexeme.matches_number_iff.1 (number ▸ longest.fits))
      · exact ih later

theorem laid_of_tokenize {text : List Char} {tokens : Tokens} (tokenized : tokenize text = .ok tokens) :
    Laid 0 tokens.words text := by
  cases scanned : scan 0 text with
  | ok ts =>
      obtain rfl : ⟨ts, text.length⟩ = tokens := by
        simpa [tokenize, scanned, Except.map] using tokenized
      exact laid_of_scan scanned
  | error fault => simp [tokenize, scanned, Except.map] at tokenized

/-- **Scanning loses nothing and takes the longest words.** Either the text is its tokens at their
positions with blanks between them, each the longest text of its kind where it stands, and no others
are; each number is one that is read, and the end is the end of the text. Or the scanner stops at a
character that is no blank and at which no text of any kind begins, and scans what stands before it. -/
theorem tokenize_lossless (text : List Char) :
    (∃ tokens, tokenize text = .ok tokens ∧ (∀ ts, Laid 0 ts text ↔ ts = tokens.words) ∧
        (∀ t ∈ tokens.words, t.lexeme.kind = .number →
          (Numeral.read? t.lexeme.text.toList).isSome = true) ∧
        tokens.finish = text.length) ∨
      ∃ c p, tokenize text = .error (.unexpectedChar c p) ∧ text[p]? = some c ∧
        (∃ tokens, tokenize (text.take p) = .ok tokens) ∧ isBlank c = false ∧
        ∀ (k : Lexeme.Kind) (v : List Char), k.Matches v → ¬ v <+: text.drop p := by
  cases scanned : scan 0 text with
  | ok ts =>
      have laid := laid_of_scan scanned
      have only : ∀ us, Laid 0 us text ↔ us = ts := fun us =>
        ⟨fun laid' => Except.ok.inj ((scan_of_laid laid').symm.trans scanned), fun same => same ▸ laid⟩
      exact .inl ⟨⟨ts, text.length⟩, by simp [tokenize, scanned, Except.map], only,
        fun t member number => laid.read_number member number, rfl⟩
  | error fault =>
      obtain ⟨us, c, vs, rfl, rfl, ⟨ts, before⟩, none⟩ := scan_error scanned
      refine .inr ⟨c, us.length, ?_, ?_, ?_, ?_, ?_⟩
      · simp [tokenize, scanned, Except.map]
      · simp
      · exact ⟨⟨ts, us.length⟩, by simp [tokenize, before, Except.map]⟩
      · exact (Lexeme.first?_eq_none none).1
      · intro k v shape
        rw [List.drop_left]
        exact shape.not_prefix none

end Token

end Quadrature
