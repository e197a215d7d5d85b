/-
# Quadrature.Proofs.Expr.Spelling -- texts as words with blanks between them

A text of the language is a list of pieces, each a word with the blanks before it, and the blanks
at its end. `Fits w r` says that a text that begins with the word `w` and goes on with `r` has `w`
as its first word.

* `scan_step`: what one step of the scanner does;
* `scan_split`: a text that is made of words is spelled by pieces;
* `scan_spell`: pieces of which two neighbours are never both numbers or names are read back, each
  at its place.
-/
import Mathlib.Data.List.Chain
import Quadrature.Proofs.Expr.NumberWord

namespace Quadrature

set_option autoImplicit false

open Quadrature.Text

namespace Lexeme

/-! ## Words that fit -/

/-- In a text that begins with the word and goes on with `r`, the word comes first. -/
def Fits (w : Lexeme) (r : List Char) : Prop :=
  first? (w.text.toList ++ r) = some (some w, w.text.toList.length)

/-- The word is a symbol. -/
def IsSymbol (w : Lexeme) : Prop := ∃ c, ofChar? c = some w

theorem length_takeWhile_eq_zero {p : Char → Bool} {c : Char} {s : List Char}
    (refused : p c = false) : ((c :: s).takeWhile p).length = 0 := by
  simp [List.takeWhile_cons_of_neg (show ¬ p c = true by simp [refused])]

theorem numberLength_eq_zero {c : Char} {s : List Char} (digit : isDigit c = false)
    (point : c ≠ '.') : numberLength (c :: s) = 0 := by
  have run : digitRun (c :: s) = 0 := length_takeWhile_eq_zero digit
  have mantissa : mantissaLength (c :: s) = 0 := by
    unfold mantissaLength
    simp only [run, List.drop_zero]
    split
    · next same => exact absurd (List.cons.inj same).1 point
    · rfl
  simp [numberLength, mantissa]

theorem nameLength_eq_zero {p : Char → Bool} {c : Char} {s : List Char}
    (start : isNameStart c = false) : nameLength p (c :: s) = 0 := by
  simp [nameLength, start]

/-- A symbol fits before any text. -/
theorem fits_symbol {c : Char} {w : Lexeme} (symbol : ofChar? c = some w) (r : List Char) :
    Fits w r := by
  obtain ⟨blank, digit, start, -, -, point⟩ := symbol_separate symbol
  unfold Fits first?
  rw [symbol_text symbol, List.singleton_append, length_takeWhile_eq_zero blank,
    numberLength_eq_zero digit point, nameLength_eq_zero start]
  simp [symbol]

theorem length_takeWhile_isBlank {s : List Char} (ink : ∀ c ∈ s.head?, isBlank c = false) :
    (s.takeWhile isBlank).length = 0 := by
  cases s with
  | nil => rfl
  | cons c s => exact length_takeWhile_eq_zero (ink c (by simp))

theorem first?_eq_of_number {s : List Char} (some : numberLength s ≠ 0)
    (ink : ∀ c ∈ s.head?, isBlank c = false) :
    first? s = Option.some (Option.some (.number (String.ofList (s.take (numberLength s)))),
      numberLength s) := by
  obtain ⟨n, length⟩ := Nat.exists_eq_succ_of_ne_zero some
  unfold first?
  rw [length_takeWhile_isBlank ink, length]
  rfl

theorem first?_eq_of_name {s : List Char} (none : numberLength s = 0)
    (some : nameLength isNameChar s ≠ 0) (ink : ∀ c ∈ s.head?, isBlank c = false) :
    first? s = Option.some (Option.some (.name (String.ofList (s.take (nameLength isNameChar s)))),
      nameLength isNameChar s) := by
  obtain ⟨n, length⟩ := Nat.exists_eq_succ_of_ne_zero some
  unfold first?
  rw [length_takeWhile_isBlank ink, none, length]
  rfl

theorem first?_eq_of_symbol {s : List Char} (none : numberLength s = 0)
    (none' : nameLength isNameChar s = 0) (ink : ∀ c ∈ s.head?, isBlank c = false) :
    first? s = (s.head?.bind ofChar?).map fun w => (Option.some w, 1) := by
  unfold first?
  rw [length_takeWhile_isBlank ink, none, none']
  rfl

theorem first?_eq_of_blank {c : Char} (blank : isBlank c = true) (s : List Char) :
    first? (c :: s) = some (none, ((c :: s).takeWhile isBlank).length) := by
  unfold first?
  rw [List.takeWhile_cons_of_pos blank, List.length_cons]
  rfl

/-- The three ways in which a word comes first. -/
theorem first?_eq_some {s : List Char} {w : Lexeme} {n : Nat}
    (first : first? s = some (some w, n)) :
    numberLength s = n ∧ n ≠ 0 ∧ w = .number (String.ofList (s.take n)) ∨
      numberLength s = 0 ∧ nameLength isNameChar s = n ∧ n ≠ 0 ∧
        w = .name (String.ofList (s.take n)) ∨
      n = 1 ∧ ∃ c ∈ s.head?, ofChar? c = some w := by
  have ink : ∀ c ∈ s.head?, isBlank c = false := by
    intro c head
    obtain ⟨s, rfl⟩ := List.head?_eq_some_iff.1 head
    apply Bool.eq_false_iff.2
    intro blank
    simp [first?_eq_of_blank blank] at first
  by_cases number : numberLength s = 0
  · by_cases name : nameLength isNameChar s = 0
    · rw [first?_eq_of_symbol number name ink] at first
      obtain ⟨w', found, same⟩ := Option.map_eq_some_iff.1 first
      obtain ⟨c, head, symbol⟩ := Option.bind_eq_some_iff.1 found
      obtain ⟨rfl, rfl⟩ : w' = w ∧ 1 = n := by simpa using same
      exact .inr (.inr ⟨rfl, c, head, symbol⟩)
    · rw [first?_eq_of_name number name ink] at first
      obtain ⟨rfl, rfl⟩ : Lexeme.name _ = w ∧ _ = n := by simpa using first
      exact .inr (.inl ⟨number, rfl, name, rfl⟩)
  · rw [first?_eq_of_number number ink] at first
    obtain ⟨rfl, rfl⟩ : Lexeme.number _ = w ∧ _ = n := by simpa using first
    exact .inl ⟨rfl, number, rfl⟩

/-- A number begins with a digit or with the point. -/
theorem Before.head {w r : List Char} (before : Before w r) :
    ∃ c s, w = c :: s ∧ (isDigit c = true ∨ c = '.') := by
  have first : ∀ {m x : List Char}, Mantissa m → ∃ c s, m ++ x = c :: s ∧
      (isDigit c = true ∨ c = '.') := by
    intro m x shape
    obtain ⟨c, s, rfl⟩ := List.exists_cons_of_ne_nil shape.ne_nil
    exact ⟨c, s ++ x, rfl, shape.chars c (by simp)⟩
  cases before with
  | mantissa shape ends bare => simpa using first (x := []) shape
  | exponent shape raised stop => exact first shape

theorem point_separate : isBlank '.' = false ∧ isNameStart '.' = false ∧ isNameChar '.' = false ∧
    isWordChar '.' = false ∧ ofChar? '.' = none := by decide +kernel

/-- What begins a number begins nothing else. -/
theorem numeric_separate {c : Char} (numeric : isDigit c = true ∨ c = '.') :
    isBlank c = false ∧ isNameStart c = false ∧ ofChar? c = none := by
  rcases numeric with digit | rfl
  · obtain ⟨blank, start, symbol, -⟩ := digit_separate digit
    exact ⟨blank, start, symbol⟩
  · exact ⟨point_separate.1, point_separate.2.1, point_separate.2.2.2.2⟩

theorem ofChar?_ne (c : Char) (t : String) :
    ofChar? c ≠ some (.number t) ∧ ofChar? c ≠ some (.name t) := by
  unfold ofChar?
  split <;> simp

theorem fits_number_iff {t : String} {r : List Char} :
    Fits (.number t) r ↔ Before t.toList r := by
  unfold Fits
  rw [← numberLength_append_iff]
  constructor
  · intro first
    rcases first?_eq_some first with ⟨length, some, -⟩ | ⟨-, -, -, same⟩ | ⟨-, c, -, symbol⟩
    · exact ⟨length, by simpa [Lexeme.text] using some⟩
    · simp at same
    · exact absurd symbol (ofChar?_ne c t).1
  · rintro ⟨length, some⟩
    obtain ⟨c, s, same, numeric⟩ := (numberLength_append_iff.1 ⟨length, some⟩).head
    have ink : ∀ c' ∈ (t.toList ++ r).head?, isBlank c' = false := by
      simpa [same] using (numeric_separate numeric).1
    rw [Lexeme.text, first?_eq_of_number (by simpa [length] using some) ink, length,
      List.take_left, String.ofList_toList]

theorem nameLength_append {p : Char → Bool} {c : Char} {s r : List Char}
    (start : isNameStart c = true) (inside : ∀ x ∈ s, p x = true)
    (stop : ∀ x ∈ r.head?, p x = false) : nameLength p (c :: s ++ r) = s.length + 1 := by
  rw [List.cons_append, nameLength, if_pos start, List.takeWhile_append_of_pos inside]
  cases r with
  | nil => simp [Nat.add_comm]
  | cons x r =>
      simp [List.takeWhile_cons_of_neg (show ¬ p x = true by simpa using stop), Nat.add_comm]

/-- Where a name starts, the text is that name and what does not prolong it. -/
theorem name_split {p : Char → Bool} {s : List Char} (some : nameLength p s ≠ 0) :
    ∃ c n r, s = c :: n ++ r ∧ n.length + 1 = nameLength p s ∧ isNameStart c = true ∧
      (∀ x ∈ n, p x = true) ∧ ∀ x ∈ r.head?, p x = false := by
  cases s with
  | nil => exact absurd rfl some
  | cons c s =>
      have start : isNameStart c = true := by
        refine Classical.byContradiction fun other => some ?_
        simp [nameLength, other]
      refine ⟨c, s.takeWhile p, s.dropWhile p, by simp, ?_, start,
        fun x member => List.all_eq_true.1 List.all_takeWhile _ member,
        refused_head?_dropWhile p s⟩
      rw [nameLength, if_pos start, Nat.add_comm]

/-- A name is a letter or underscore and characters of names, and ends before any other. -/
theorem fits_name_iff {t : String} {r : List Char} :
    Fits (.name t) r ↔ ∃ c n, t.toList = c :: n ∧ isNameStart c = true ∧
      (∀ x ∈ n, isNameChar x = true) ∧ ∀ x ∈ r.head?, isNameChar x = false := by
  unfold Fits
  constructor
  · intro first
    rcases first?_eq_some first with ⟨-, -, same⟩ | ⟨-, length, some, -⟩ | ⟨-, c, -, symbol⟩
    · simp at same
    · obtain ⟨c, n, r', same, length', start, inside, stop⟩ := name_split (length ▸ some)
      obtain ⟨same', rfl⟩ := List.append_inj same (by rw [List.length_cons, length', length])
      exact ⟨c, n, same', start, inside, stop⟩
    · exact absurd symbol (ofChar?_ne c t).2
  · rintro ⟨c, n, same, start, inside, stop⟩
    obtain ⟨blank, digit, -, -, point⟩ := nameStart_separate start
    have length := nameLength_append (s := n) (r := r) start inside stop
    rw [← same] at length
    have ink : ∀ c' ∈ (t.toList ++ r).head?, isBlank c' = false := by simpa [same] using blank
    have number : numberLength (t.toList ++ r) = 0 := by
      rw [same]
      exact numberLength_eq_zero digit point
    have whole : n.length + 1 = t.toList.length := by simp [same]
    rw [Lexeme.text, first?_eq_of_name number (by omega) ink, length, whole, List.take_left,
      String.ofList_toList]

/-! ## Other texts after a word -/

theorem isSymbol_or (w : Lexeme) :
    (∃ t, w = .number t) ∨ (∃ t, w = .name t) ∨ IsSymbol w := by
  cases w with
  | number t => exact .inl ⟨t, rfl⟩
  | name t => exact .inr (.inl ⟨t, rfl⟩)
  | plus => exact .inr (.inr ⟨'+', rfl⟩)
  | minus => exact .inr (.inr ⟨'-', rfl⟩)
  | times => exact .inr (.inr ⟨'*', rfl⟩)
  | «over» => exact .inr (.inr ⟨'/', rfl⟩)
  | caret => exact .inr (.inr ⟨'^', rfl⟩)
  | opening => exact .inr (.inr ⟨'(', rfl⟩)
  | closing => exact .inr (.inr ⟨')', rfl⟩)
  | comma => exact .inr (.inr ⟨',', rfl⟩)

theorem Fits.take {w : Lexeme} {r r' : List Char} (fits : Fits w (r ++ r')) : Fits w r := by
  rcases w.isSymbol_or with ⟨t, rfl⟩ | ⟨t, rfl⟩ | ⟨c, symbol⟩
  · exact fits_number_iff.2 (fits_number_iff.1 fits).take
  · obtain ⟨c, n, same, start, inside, stop⟩ := fits_name_iff.1 fits
    refine fits_name_iff.2 ⟨c, n, same, start, inside, fun x first => stop x ?_⟩
    obtain ⟨r, rfl⟩ := List.head?_eq_some_iff.1 first
    rfl
  · exact fits_symbol symbol r

/-- A number ends with a digit or with the point. -/
theorem Before.last {w r : List Char} (before : Before w r) :
    ∀ c ∈ w.getLast?, isDigit c = true ∨ c = '.' := by
  intro c last
  cases before with
  | mantissa shape ends bare => exact shape.chars c (List.mem_of_getLast? last)
  | exponent shape raised stop =>
      cases raised with
      | plain marked digits some =>
          rw [List.getLast?_append_of_ne_nil _ (by simp), List.getLast?_cons_of_ne_nil some] at last
          exact .inl (digits c (List.mem_of_getLast? last))
      | signed marked signs digits some =>
          rw [List.getLast?_append_of_ne_nil _ (by simp), List.getLast?_cons_of_ne_nil (by simp),
            List.getLast?_cons_of_ne_nil some] at last
          exact .inl (digits c (List.mem_of_getLast? last))

/-- A word that fits before the end fits before a blank and before a symbol. -/
theorem Fits.of_end {w : Lexeme} {r : List Char} (fits : Fits w [])
    (sealed : ∀ c ∈ r.head?, isBlank c = true ∨ (ofChar? c).isSome = true) : Fits w r := by
  rcases w.isSymbol_or with ⟨t, rfl⟩ | ⟨t, rfl⟩ | ⟨c, symbol⟩
  · exact fits_number_iff.2 ((fits_number_iff.1 fits).of_end sealed)
  · obtain ⟨c, n, same, start, inside, -⟩ := fits_name_iff.1 fits
    refine fits_name_iff.2 ⟨c, n, same, start, inside, fun x first => ?_⟩
    rcases sealed x first with blank | symbol
    · exact (blank_separate blank).2.2.1
    · obtain ⟨_, symbol⟩ := Option.isSome_iff_exists.1 symbol
      exact (symbol_separate symbol).2.2.2.1
  · exact fits_symbol symbol r

/-- A word that fits begins with a character that is no blank. -/
theorem Fits.head {w : Lexeme} {r : List Char} (fits : Fits w r) :
    ∃ c s, w.text.toList = c :: s ∧ isBlank c = false := by
  rcases w.isSymbol_or with ⟨t, rfl⟩ | ⟨t, rfl⟩ | ⟨c, symbol⟩
  · obtain ⟨c, s, same, numeric⟩ := (fits_number_iff.1 fits).head
    exact ⟨c, s, same, (numeric_separate numeric).1⟩
  · obtain ⟨c, n, same, start, -⟩ := fits_name_iff.1 fits
    exact ⟨c, n, same, (nameStart_separate start).1⟩
  · exact ⟨c, [], symbol_text symbol, (symbol_separate symbol).1⟩

/-- A symbol that is no sign makes up the word in which it stands. -/
theorem Fits.eq_of_mem {w w' : Lexeme} {c : Char} {r : List Char} (fits : Fits w r)
    (symbol : ofChar? c = some w') (unsigned : ¬ IsSign c) (member : c ∈ w.text.toList) :
    w = w' := by
  obtain ⟨-, digit, -, inside, -, point⟩ := symbol_separate symbol
  rcases w.isSymbol_or with ⟨t, rfl⟩ | ⟨t, rfl⟩ | ⟨c', symbol'⟩
  · rcases (fits_number_iff.1 fits).chars c member with numeral | rfl | marked | sign
    · simp [digit] at numeral
    · exact absurd rfl point
    · rcases marked with rfl | rfl <;> simp [ofChar?] at symbol
    · exact absurd sign unsigned
  · obtain ⟨c', n, same, start, chars, -⟩ := fits_name_iff.1 fits
    rw [Lexeme.text, same] at member
    have name : isNameChar c = true := by
      rcases List.mem_cons.1 member with rfl | later
      · exact (nameStart_separate start).2.2.1
      · exact chars c later
    simp [inside] at name
  · obtain rfl : c = c' := by simpa [symbol_text symbol'] using member
    exact Option.some.inj (symbol'.symm.trans symbol)

theorem first?_eq_none_word {s : List Char} {n : Nat} (first : first? s = some (none, n)) :
    n ≠ 0 ∧ n = (s.takeWhile isBlank).length := by
  cases s with
  | nil => simp [first?, numberLength, mantissaLength, digitRun, nameLength] at first
  | cons c s =>
      by_cases blank : isBlank c = true
      · rw [first?_eq_of_blank blank] at first
        obtain rfl : ((c :: s).takeWhile isBlank).length = n := by simpa using first
        exact ⟨by simp [List.takeWhile_cons_of_pos blank], rfl⟩
      · have ink : ∀ x ∈ (c :: s).head?, isBlank x = false := by simpa using blank
        by_cases number : numberLength (c :: s) = 0
        · by_cases name : nameLength isNameChar (c :: s) = 0
          · simp [first?_eq_of_symbol number name ink] at first
          · simp [first?_eq_of_name number name ink] at first
        · simp [first?_eq_of_number number ink] at first

/-- Where a word comes first, the text is that word and a rest before which it fits. -/
theorem first?_split {s : List Char} {w : Lexeme} {n : Nat}
    (first : first? s = some (some w, n)) :
    s = w.text.toList ++ s.drop n ∧ w.text.toList.length = n ∧ Fits w (s.drop n) := by
  have whole : w.text.toList = s.take n ∧ w.text.toList.length = n := by
    rcases first?_eq_some first with ⟨length, some, rfl⟩ | ⟨-, length, some, rfl⟩ |
      ⟨rfl, c, head, symbol⟩
    · obtain ⟨w, r, rfl, same, -⟩ := before_split (length ▸ some)
      simp [Lexeme.text, ← length, ← same]
    · obtain ⟨c, m, r, rfl, same, -⟩ := name_split (length ▸ some)
      obtain rfl : m.length + 1 = n := same.trans length
      simp [Lexeme.text]
    · obtain ⟨s, rfl⟩ := List.head?_eq_some_iff.1 head
      simp [symbol_text symbol]
  have same : s = w.text.toList ++ s.drop n := by rw [whole.1, List.take_append_drop]
  refine ⟨same, whole.2, ?_⟩
  rw [Fits, ← same, first, whole.2]

end Lexeme

/-! ## Pieces -/

/-- A word with the blanks before it. -/
structure Piece where
  gap : List Char
  word : Lexeme
  blank : ∀ c ∈ gap, isBlank c = true
  fits : word.Fits []

namespace Piece

/-- The text of pieces. -/
def spell : List Piece → List Char
  | [] => []
  | p :: ps => p.gap ++ (p.word.text.toList ++ spell ps)

/-- The words of pieces that begin at an offset. -/
def place (position : Nat) : List Piece → List Token
  | [] => []
  | p :: ps => ⟨p.word, position + p.gap.length⟩ ::
      place (position + p.gap.length + p.word.text.toList.length) ps

/-- The blanks before pieces. -/
def lead : List Piece → List Char
  | [] => []
  | p :: _ => p.gap

/-- The text of pieces without the blanks before them. -/
def ink : List Piece → List Char
  | [] => []
  | p :: ps => p.word.text.toList ++ spell ps

theorem spell_eq_lead_append_ink (ps : List Piece) : spell ps = lead ps ++ ink ps := by
  cases ps <;> rfl

@[simp] theorem spell_append (ps qs : List Piece) : spell (ps ++ qs) = spell ps ++ spell qs := by
  induction ps with
  | nil => rfl
  | cons p ps ih => simp [spell, ih]

@[simp] theorem place_lexeme (position : Nat) (ps : List Piece) :
    (place position ps).map Token.lexeme = ps.map word := by
  induction ps generalizing position with
  | nil => rfl
  | cons p ps ih => simp [place, ih]

end Piece

open Piece

/-- One of two neighbours is a symbol. -/
def Lexeme.Apart (w w' : Lexeme) : Prop := w.IsSymbol ∨ w'.IsSymbol

namespace Token

theorem scan_cons (n : Nat) (c : Char) (cs : List Char) :
    scan n (c :: cs) = match Lexeme.first? (c :: cs) with
      | none => .error (.unexpectedChar c n)
      | some (none, k) => scan (n + k) (cs.drop (k - 1))
      | some (some w, k) => (scan (n + k) (cs.drop (k - 1))).map (⟨w, n⟩ :: ·) := by
  refine (scan.eq_2 n c cs).trans ?_
  split <;> simp_all

theorem scan_nil (n : Nat) : scan n [] = .ok [] := by rw [scan]

/-- The scanner passes over blanks. -/
theorem scan_blanks (n : Nat) {gap r : List Char} (blank : ∀ c ∈ gap, isBlank c = true)
    (ink : ∀ c ∈ r.head?, isBlank c = false) : scan n (gap ++ r) = scan (n + gap.length) r := by
  cases gap with
  | nil => rfl
  | cons c gap =>
      have run : ((c :: (gap ++ r)).takeWhile isBlank).length = gap.length + 1 := by
        rw [← List.cons_append, List.takeWhile_append_of_pos blank]
        simp [List.length_eq_zero_iff.1 (Lexeme.length_takeWhile_isBlank ink)]
      rw [List.cons_append, scan_cons, Lexeme.first?_eq_of_blank (blank c (by simp)), run]
      simp

/-- The scanner takes a word that fits. -/
theorem scan_word (n : Nat) {w : Lexeme} {r : List Char} (fits : w.Fits r) :
    scan n (w.text.toList ++ r) = (scan (n + w.text.toList.length) r).map (⟨w, n⟩ :: ·) := by
  obtain ⟨c, s, same, -⟩ := fits.head
  rw [Lexeme.Fits, same] at fits
  rw [same, List.cons_append, scan_cons, ← List.cons_append, fits]
  simp

/-- What one step of the scanner does: nothing at the end, else it takes blanks, takes a word, or
stops. -/
theorem scan_step {motive : Nat → List Char → Prop} (done : ∀ n, motive n [])
    (blanks : ∀ n gap r, gap ≠ [] → (∀ c ∈ gap, isBlank c = true) →
      (∀ c ∈ r.head?, isBlank c = false) → motive (n + gap.length) r → motive n (gap ++ r))
    (word : ∀ n w r, Lexeme.Fits w r → motive (n + w.text.toList.length) r →
      motive n (w.text.toList ++ r))
    (stop : ∀ n c r, Lexeme.first? (c :: r) = none → motive n (c :: r)) (n : Nat) (s : List Char) :
    motive n s := by
  induction h : s.length using Nat.strongRecOn generalizing n s with
  | ind length ih =>
      subst h
      cases s with
      | nil => exact done n
      | cons c s =>
          cases first : Lexeme.first? (c :: s) with
          | none => exact stop n c s first
          | some found =>
              obtain ⟨w | w, k⟩ := found
              · obtain ⟨some, rfl⟩ := Lexeme.first?_eq_none_word first
                have gap : (c :: s).takeWhile isBlank ≠ [] := fun empty => some (by rw [empty]; rfl)
                rw [← List.takeWhile_append_dropWhile (p := isBlank) (l := c :: s)]
                refine blanks n _ _ gap
                  (fun x member => List.all_eq_true.1 List.all_takeWhile x member)
                  (Lexeme.refused_head?_dropWhile isBlank _) (ih _ ?_ _ _ rfl)
                have whole := congrArg List.length
                  (List.takeWhile_append_dropWhile (p := isBlank) (l := c :: s))
                rw [List.length_append] at whole
                omega
              · obtain ⟨same, length, fits⟩ := Lexeme.first?_split first
                obtain ⟨c', t, text, -⟩ := fits.head
                rw [same]
                refine word n w _ fits (ih _ ?_ _ _ rfl)
                have some : w.text.toList.length ≠ 0 := by simp [text]
                rw [List.length_drop, List.length_cons]
                omega

/-- The pieces with more blanks before the first. -/
theorem exists_spell_blanks {n : Nat} {gap tail : List Char} {ps : List Piece}
    (blank : ∀ c ∈ gap, isBlank c = true) (blank' : ∀ c ∈ tail, isBlank c = true) :
    ∃ (qs : List Piece) (tail' : List Char), gap ++ (spell ps ++ tail) = spell qs ++ tail' ∧
      (∀ c ∈ tail', isBlank c = true) ∧ place (n + gap.length) ps = place n qs := by
  cases ps with
  | nil =>
      refine ⟨[], gap ++ tail, rfl, fun c member => ?_, rfl⟩
      rcases List.mem_append.1 member with first | last
      · exact blank c first
      · exact blank' c last
  | cons p ps =>
      refine ⟨⟨gap ++ p.gap, p.word, fun c member => ?_, p.fits⟩ :: ps, tail, ?_, blank', ?_⟩
      · rcases List.mem_append.1 member with first | last
        · exact blank c first
        · exact p.blank c last
      · simp [spell]
      · simp [place, Nat.add_assoc]

/-- A text that is made of words is spelled by pieces, and blanks at its end. -/
theorem scan_split {n : Nat} {s : List Char} {ts : List Token} (scanned : scan n s = .ok ts) :
    ∃ (ps : List Piece) (tail : List Char), s = spell ps ++ tail ∧
      (∀ c ∈ tail, isBlank c = true) ∧ ts = place n ps := by
  induction n, s using scan_step generalizing ts with
  | done n =>
      obtain rfl : [] = ts := by simpa [scan_nil] using scanned
      exact ⟨[], [], rfl, by simp, rfl⟩
  | blanks n gap r _ blank ink ih =>
      rw [scan_blanks n blank ink] at scanned
      obtain ⟨ps, tail, rfl, blank', rfl⟩ := ih scanned
      exact exists_spell_blanks blank blank'
  | word n w r fits ih =>
      rw [scan_word n fits] at scanned
      cases rest : scan (n + w.text.toList.length) r with
      | error fault => simp [rest, Except.map] at scanned
      | ok us =>
          obtain rfl : ⟨w, n⟩ :: us = ts := by simpa [rest, Except.map] using scanned
          obtain ⟨ps, tail, rfl, blank, rfl⟩ := ih rest
          have fits' : w.Fits [] := Lexeme.Fits.take (show w.Fits ([] ++ _) from fits)
          exact ⟨⟨[], w, by simp, fits'⟩ :: ps, tail, by simp [spell], blank, by simp [place]⟩
  | stop n c r none =>
      rw [scan_cons, none] at scanned
      simp at scanned

/-- A piece fits before the pieces that follow it. -/
theorem fits_spell {p : Piece} {ps : List Piece} {tail : List Char}
    (apart : ((p :: ps).map word).IsChain Lexeme.Apart) (blank : ∀ c ∈ tail, isBlank c = true) :
    p.word.Fits (spell ps ++ tail) := by
  cases ps with
  | nil => exact p.fits.of_end fun c first => .inl (blank c (List.mem_of_head? first))
  | cons q qs =>
      have apart : p.word.Apart q.word := by simpa using apart.rel
      rcases apart with ⟨c, symbol⟩ | ⟨c, symbol⟩
      · exact Lexeme.fits_symbol symbol _
      · apply p.fits.of_end
        intro x first
        rw [spell, symbol_text symbol] at first
        by_cases empty : q.gap = []
        · obtain rfl : c = x := by simpa [empty] using first
          exact .inr (by simp [symbol])
        · rw [List.append_assoc, List.head?_append_of_ne_nil _ empty] at first
          exact .inl (q.blank x (List.mem_of_head? first))

/-- Pieces are read back where no two neighbours are numbers or names. -/
theorem scan_spell (n : Nat) {ps : List Piece} {tail : List Char}
    (apart : (ps.map word).IsChain Lexeme.Apart) (blank : ∀ c ∈ tail, isBlank c = true) :
    scan n (spell ps ++ tail) = .ok (place n ps) := by
  induction ps generalizing n with
  | nil =>
      rw [spell, List.nil_append, ← List.append_nil tail, scan_blanks n blank (by simp), scan_nil]
      rfl
  | cons p ps ih =>
      obtain ⟨c, s, head, ink⟩ := p.fits.head
      rw [spell, List.append_assoc, List.append_assoc,
        scan_blanks n p.blank (by simpa [head] using ink), scan_word _ (fits_spell apart blank),
        ih _ apart.tail]
      rfl

end Token

end Quadrature
