/-
# Quadrature.Proofs.Text.Separation -- classes of characters that do not meet

Blanks, digits, characters of names, the point and the symbols of the language are told apart by
their first character alone. The classes are tables, so each fact is checked on a table: blanks are
few, digits start at the ASCII ones or far above ASCII.
-/
import Quadrature.Expr.Token
import Quadrature.Text.Word

namespace Quadrature.Text

set_option autoImplicit false

open Quadrature.Lexeme (isNameStart isNameChar ofChar?)

/-! ## Blanks -/

/-- Every blank. -/
def blanks : List Char :=
  ([0x9, 0xA, 0xB, 0xC, 0xD, 0x1C, 0x1D, 0x1E, 0x1F, 0x20, 0x85, 0xA0, 0x1680, 0x2000, 0x2001,
    0x2002, 0x2003, 0x2004, 0x2005, 0x2006, 0x2007, 0x2008, 0x2009, 0x200A, 0x2028, 0x2029,
    0x202F, 0x205F, 0x3000] : List Nat).map Char.ofNat

theorem mem_blanks_of_isBlank {c : Char} (blank : isBlank c = true) : c ∈ blanks := by
  have points : c.toNat ∈ ([0x9, 0xA, 0xB, 0xC, 0xD, 0x1C, 0x1D, 0x1E, 0x1F, 0x20, 0x85, 0xA0,
      0x1680, 0x2000, 0x2001, 0x2002, 0x2003, 0x2004, 0x2005, 0x2006, 0x2007, 0x2008, 0x2009,
      0x200A, 0x2028, 0x2029, 0x202F, 0x205F, 0x3000] : List Nat) := by
    simp only [isBlank, isWhiteSpace, whiteSpaceRanges, Ranges.contains, List.any_cons,
      List.any_nil, Bool.or_eq_true, Bool.and_eq_true, decide_eq_true_eq, Bool.or_false] at blank
    simp only [List.mem_cons, List.not_mem_nil, or_false]
    omega
  exact List.mem_map.2 ⟨c.toNat, points, Char.ofNat_toNat c⟩

/-- A blank is nothing else. -/
theorem blank_separate {c : Char} (blank : isBlank c = true) :
    isDigit c = false ∧ isNameStart c = false ∧ isNameChar c = false ∧ isWordChar c = false ∧
      ofChar? c = none ∧ c ≠ '.' := by
  have all : (blanks.all fun c => isDigit c = false ∧ isNameStart c = false ∧
      isNameChar c = false ∧ isWordChar c = false ∧ ofChar? c = none ∧ c ≠ '.') = true := by
    decide +kernel
  simpa using List.all_eq_true.1 all c (mem_blanks_of_isBlank blank)

theorem isBlank_space : ∀ c ∈ [' '], isBlank c = true := List.all_eq_true.1 rfl

/-! ## Symbols -/

theorem symbol_cases {c : Char} {w : Lexeme} (symbol : ofChar? c = some w) :
    c ∈ ['+', '-', '*', '/', '^', '(', ')', ','] := by
  unfold ofChar? at symbol
  split at symbol <;> simp_all

/-- A symbol is nothing else. -/
theorem symbol_separate {c : Char} {w : Lexeme} (symbol : ofChar? c = some w) :
    isBlank c = false ∧ isDigit c = false ∧ isNameStart c = false ∧ isNameChar c = false ∧
      isWordChar c = false ∧ c ≠ '.' := by
  have all : (['+', '-', '*', '/', '^', '(', ')', ','].all fun c =>
      isBlank c = false ∧ isDigit c = false ∧ isNameStart c = false ∧ isNameChar c = false ∧
        isWordChar c = false ∧ c ≠ '.') = true := by decide +kernel
  simpa using List.all_eq_true.1 all c (symbol_cases symbol)

theorem symbol_text {c : Char} {w : Lexeme} (symbol : ofChar? c = some w) :
    w.text.toList = [c] := by
  unfold ofChar? at symbol
  split at symbol <;> simp only [Option.some.injEq, reduceCtorEq] at symbol <;> subst symbol <;> rfl

/-! ## Digits and names -/

/-- A digit is an ASCII digit or far above ASCII. -/
theorem digit_range {c : Char} (digit : isDigit c = true) :
    0x30 ≤ c.toNat ∧ c.toNat ≤ 0x39 ∨ 0x660 ≤ c.toNat := by
  simp only [isDigit, digitValue?, Option.isSome_map, List.find?_isSome] at digit
  obtain ⟨first, member, between⟩ := digit
  have low : ∀ z ∈ digitZeros, z = 0x30 ∨ 0x660 ≤ z := by decide
  simp only [Bool.and_eq_true, decide_eq_true_eq] at between
  rcases low first member with rfl | high <;> omega

theorem isUpper_iff {c : Char} : c.isUpper = true ↔ 0x41 ≤ c.toNat ∧ c.toNat ≤ 0x5A :=
  decide_eq_true_iff (p := 'A'.val ≤ c.val ∧ c.val ≤ 'Z'.val)

theorem isLower_iff {c : Char} : c.isLower = true ↔ 0x61 ≤ c.toNat ∧ c.toNat ≤ 0x7A :=
  Bool.and_eq_true_iff.trans (and_congr decide_eq_true_iff decide_eq_true_iff)

theorem isAlpha_iff {c : Char} : c.isAlpha = true ↔ c.isUpper = true ∨ c.isLower = true :=
  Bool.or_eq_true_iff

theorem nameStart_range {c : Char} (start : isNameStart c = true) :
    0x41 ≤ c.toNat ∧ c.toNat ≤ 0x5A ∨ 0x61 ≤ c.toNat ∧ c.toNat ≤ 0x7A ∨ c.toNat = 0x5F := by
  rw [isNameStart, Bool.or_eq_true, isAlpha_iff, isUpper_iff, isLower_iff, beq_iff_eq] at start
  rcases start with (upper | lower) | rfl
  · exact .inl upper
  · exact .inr (.inl lower)
  · exact .inr (.inr rfl)

theorem isNameChar_iff {c : Char} :
    isNameChar c = true ↔ isNameStart c = true ∨ 0x30 ≤ c.toNat ∧ c.toNat ≤ 0x39 := by
  simp only [isNameChar, isNameStart, Char.isAlphanum, Char.isDigit, ge_iff_le,
    UInt32.le_iff_toNat_le, Bool.or_eq_true, Bool.and_eq_true, decide_eq_true_eq]
  constructor
  · rintro ((alpha | digit) | underscore)
    · exact .inl (.inl alpha)
    · exact .inr digit
    · exact .inl (.inr underscore)
  · rintro ((alpha | underscore) | digit)
    · exact .inl (.inl alpha)
    · exact .inr underscore
    · exact .inl (.inr digit)

/-- A letter or underscore is no digit, blank, symbol or point, and may go on in a name. -/
theorem nameStart_separate {c : Char} (start : isNameStart c = true) :
    isBlank c = false ∧ isDigit c = false ∧ isNameChar c = true ∧ ofChar? c = none ∧ c ≠ '.' := by
  have range := nameStart_range start
  refine ⟨?_, ?_, isNameChar_iff.2 (.inl start), ?_, ?_⟩
  · apply Bool.eq_false_iff.2
    intro blank
    simp [(blank_separate blank).2.1] at start
  · apply Bool.eq_false_iff.2
    intro digit
    have := digit_range digit
    omega
  · apply Option.eq_none_iff_forall_ne_some.2
    intro w symbol
    simp [(symbol_separate symbol).2.2.1] at start
  · rintro rfl
    simp at range

/-- A digit is no blank, symbol or point, and begins no name. -/
theorem digit_separate {c : Char} (digit : isDigit c = true) :
    isBlank c = false ∧ isNameStart c = false ∧ ofChar? c = none ∧ c ≠ '.' := by
  refine ⟨?_, ?_, ?_, ?_⟩
  · apply Bool.eq_false_iff.2
    intro blank
    simp [(blank_separate blank).1] at digit
  · apply Bool.eq_false_iff.2
    intro start
    simp [(nameStart_separate start).2.1] at digit
  · apply Option.eq_none_iff_forall_ne_some.2
    intro w symbol
    simp [(symbol_separate symbol).2.1] at digit
  · rintro rfl
    exact absurd digit (by decide)

/-- A character of a name is a word character. -/
theorem isWordChar_of_isNameChar {c : Char} (inside : isNameChar c = true) :
    isWordChar c = true := by
  have range : c.toNat = 0x5F ∨ 0x30 ≤ c.toNat ∧ c.toNat ≤ 0x39 ∨
      0x41 ≤ c.toNat ∧ c.toNat ≤ 0x5A ∨ 0x61 ≤ c.toNat ∧ c.toNat ≤ 0x7A := by
    rcases isNameChar_iff.1 inside with start | digit
    · have := nameStart_range start
      omega
    · omega
  have ascii : (0x30, 0x39) ∈ alphanumericRanges ∧ (0x41, 0x5A) ∈ alphanumericRanges ∧
      (0x61, 0x7A) ∈ alphanumericRanges := by decide +kernel
  simp only [isWordChar, Bool.or_eq_true, beq_iff_eq, Ranges.contains, List.any_eq_true,
    Bool.and_eq_true, decide_eq_true_eq]
  rcases range with underscore | digit | upper | lower
  · exact .inl (by rw [← Char.ofNat_toNat c, underscore])
  · exact .inr ⟨_, ascii.1, digit⟩
  · exact .inr ⟨_, ascii.2.1, upper⟩
  · exact .inr ⟨_, ascii.2.2, lower⟩

end Quadrature.Text
