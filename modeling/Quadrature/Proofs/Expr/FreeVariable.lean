/-
# Quadrature.Proofs.Expr.FreeVariable -- which free variables are expressions

The free variable may be any identifier, and identifiers are of all scripts; a name in an expression is
of ASCII characters. Among these the two agree, so an identifier of ASCII characters is one word, and
its value is the variable's own even where a constant or a function has the name. In any other
identifier the name ends before the first character beyond ASCII. That character begins no word at
all, or it is a digit and begins a number; and no expression goes on from a name with a number.

* `Ranges.not_contains_of_apart`: classes of characters that do not meet;
* `identifierStart_of_ascii`, `identifierContinue_of_ascii`: where identifiers are names;
* `exists_beyond`, `scan_beyond`: the words of an identifier that is no name;
* `ofText_name`, `not_ofText_of_beyond`: identifiers as expressions;
* `ofText_self`: the free variables that are expressions.
-/
import Mathlib.Data.List.TakeWhile
import Quadrature.Proofs.Expr.Spelling
import Quadrature.Proofs.Expr.Unrolling

namespace Quadrature

set_option autoImplicit false

open Quadrature.Text
open Quadrature.Lexeme (isNameStart isNameChar ofChar? first? Fits)

/-! ## Characters of identifiers -/

namespace Text

/-- No range of the one meets a range of the other. -/
def Ranges.apart (a b : Ranges) : Bool :=
  a.all fun r => b.all fun s => Nat.blt r.2 s.1 || Nat.blt s.2 r.1

theorem Ranges.not_contains_of_apart {a b : Ranges} {n : Nat} (apart : a.apart b = true)
    (inside : a.contains n = true) : b.contains n = false := by
  obtain ⟨r, member, here⟩ := List.any_eq_true.1 inside
  apply Bool.eq_false_iff.2
  intro inside'
  obtain ⟨s, member', here'⟩ := List.any_eq_true.1 inside'
  have distinct := List.all_eq_true.1 (List.all_eq_true.1 apart r member) s member'
  simp only [Bool.and_eq_true, Bool.or_eq_true, decide_eq_true_eq, Nat.blt_eq] at here here' distinct
  omega

/-- The ranges of the decimal digits. -/
def digitRanges : Ranges := digitZeros.map fun z => (z, z + 9)

theorem isDigit_eq_contains (c : Char) : isDigit c = digitRanges.contains c.toNat := by
  rw [Bool.eq_iff_iff]
  simp [isDigit, digitValue?, digitRanges, Ranges.contains]

/-- The ranges of the blanks. -/
def blankRanges : Ranges := (0x1C, 0x1F) :: whiteSpaceRanges

theorem isBlank_eq_contains (c : Char) : isBlank c = blankRanges.contains c.toNat := by
  rw [isBlank, isWhiteSpace, Bool.or_comm]
  rfl

/-- Characters that are ASCII one by one. -/
theorem ascii_of_all {s : List Char} (all : s.all (fun c => decide (c.toNat < 0x80)) = true) :
    ∀ c ∈ s, c.toNat < 0x80 :=
  fun c member => of_decide_eq_true (List.all_eq_true.1 all c member)

/-- Among the ASCII characters, those of names begin an identifier. -/
theorem identifierStart_of_ascii {c : Char} (ascii : c.toNat < 0x80)
    (start : isIdentifierStart c = true) : isNameStart c = true := by
  rw [isIdentifierStart, Bool.or_eq_true, beq_iff_eq] at start
  rcases start with rfl | inside
  · rfl
  have low : ∀ r ∈ identifierStartRanges, r.1 < 0x80 → r ∈ [(0x41, 0x5A), (0x61, 0x7A)] := by
    decide +kernel
  obtain ⟨r, member, here⟩ := List.any_eq_true.1 inside
  simp only [Bool.and_eq_true, decide_eq_true_eq] at here
  rw [isNameStart, Bool.or_eq_true, isAlpha_iff, isUpper_iff, isLower_iff]
  rcases List.mem_pair.1 (low r member (by omega)) with rfl | rfl
  · exact .inl (.inl here)
  · exact .inl (.inr here)

/-- Among the ASCII characters, those of names go on in an identifier. -/
theorem identifierContinue_of_ascii {c : Char} (ascii : c.toNat < 0x80)
    (inside : isIdentifierContinue c = true) : isNameChar c = true := by
  have low : ∀ r ∈ identifierContinueRanges, r.1 < 0x80 →
      r ∈ [(0x30, 0x39), (0x5F, 0x5F), (0x41, 0x5A), (0x61, 0x7A)] := by decide +kernel
  obtain ⟨r, member, here⟩ := List.any_eq_true.1 inside
  simp only [Bool.and_eq_true, decide_eq_true_eq] at here
  have known := low r member (by omega)
  rw [isNameChar_iff, isNameStart, Bool.or_eq_true, isAlpha_iff, isUpper_iff, isLower_iff,
    beq_iff_eq]
  simp only [List.mem_cons, List.not_mem_nil, or_false] at known
  rcases known with rfl | rfl | rfl | rfl
  · exact .inr here
  · exact .inl (.inr (Char.toNat_inj.1 (Nat.le_antisymm here.2 here.1)))
  · exact .inl (.inl (.inl here))
  · exact .inl (.inl (.inr here))

theorem ascii_of_isNameChar {c : Char} (inside : isNameChar c = true) : c.toNat < 0x80 := by
  rcases isNameChar_iff.1 inside with start | digit
  · have := nameStart_range start
    omega
  · omega

/-- A character beyond ASCII that goes on in an identifier is no blank. -/
theorem ink_of_identifierContinue {c : Char} (inside : isIdentifierContinue c = true) :
    isBlank c = false := by
  rw [isBlank_eq_contains]
  exact Ranges.not_contains_of_apart (by decide +kernel) inside

/-- A character beyond ASCII that begins an identifier is no blank and no digit. -/
theorem identifierStart_separate {c : Char} (start : isIdentifierStart c = true)
    (beyond : 0x80 ≤ c.toNat) : isBlank c = false ∧ isDigit c = false := by
  rw [isIdentifierStart, Bool.or_eq_true, beq_iff_eq] at start
  rcases start with rfl | inside
  · exact absurd beyond (by decide)
  rw [isBlank_eq_contains, isDigit_eq_contains]
  exact ⟨Ranges.not_contains_of_apart (by decide +kernel) inside,
    Ranges.not_contains_of_apart (by decide +kernel) inside⟩

/-- A character beyond ASCII is no symbol, and does not occur in names. -/
theorem beyond_separate {c : Char} (beyond : 0x80 ≤ c.toNat) :
    ofChar? c = none ∧ isNameChar c = false ∧ isNameStart c = false ∧ c ≠ '.' := by
  have other : isNameChar c = false := by
    apply Bool.eq_false_iff.2
    intro inside
    have := ascii_of_isNameChar inside
    omega
  refine ⟨?_, other, ?_, ?_⟩
  · apply Option.eq_none_iff_forall_ne_some.2
    intro w symbol
    have := ascii_of_all (s := ['+', '-', '*', '/', '^', '(', ')', ',']) rfl c (symbol_cases symbol)
    omega
  · apply Bool.eq_false_iff.2
    intro start
    simp [isNameChar_iff.2 (.inl start)] at other
  · rintro rfl
    exact absurd beyond (by decide)

end Text

/-! ## Words of identifiers -/

section

variable {c d : Char} {s u r : List Char}

/-- An identifier that is no name: a name of ASCII characters, if any, and the first character beyond
them with what follows it. -/
theorem exists_beyond (identifier : isIdentifier s = true) (other : ¬ ∀ c ∈ s, c.toNat < 0x80) :
    ∃ u d r, s = u ++ d :: r ∧ 0x80 ≤ d.toNat ∧
      (u = [] ∧ isIdentifierStart d = true ∨
        isIdentifierContinue d = true ∧ ∃ c n, u = c :: n ∧ isNameStart c = true ∧
          ∀ x ∈ n, isNameChar x = true) := by
  cases s with
  | nil => exact absurd identifier (by decide)
  | cons c cs =>
      obtain ⟨start, inside⟩ := Bool.and_eq_true_iff.1 identifier
      by_cases ascii : c.toNat < 0x80
      · -- What stays of the text behind its longest run of ASCII characters begins beyond them.
        have stays : cs.dropWhile (·.toNat < 0x80) ≠ [] := by
          intro none
          rw [List.dropWhile_eq_nil_iff] at none
          refine other fun x member => ?_
          rcases List.mem_cons.1 member with rfl | later
          · exact ascii
          · simpa using none x later
        obtain ⟨d, r, rest⟩ := List.exists_cons_of_ne_nil stays
        have beyond : ¬ (d.toNat < 0x80) := by
          have first := List.head?_dropWhile_not (fun x : Char => decide (x.toNat < 0x80)) cs
          simpa [rest] using first
        have split := List.takeWhile_append_dropWhile (p := fun x : Char => decide (x.toNat < 0x80))
          (l := cs)
        have all := List.all_eq_true.1 inside
        rw [rest] at split
        refine ⟨c :: cs.takeWhile (·.toNat < 0x80), d, r, by rw [List.cons_append, split], by omega,
          .inr ⟨all d (by rw [← split]; simp), c, _, rfl, identifierStart_of_ascii ascii start, ?_⟩⟩
        intro x member
        have low : x.toNat < 0x80 := by simpa using List.all_eq_true.1 List.all_takeWhile x member
        exact identifierContinue_of_ascii low (all x (List.takeWhile_subset _ member))
      · exact ⟨[], c, cs, rfl, by omega, .inl ⟨rfl, start⟩⟩

/-- Only a number begins beyond ASCII within an identifier. -/
theorem scan_beyond (n : Nat) (beyond : 0x80 ≤ d.toNat) (ink : isBlank d = false) :
    (∃ fault, Token.scan n (d :: r) = .error fault) ∨
      ∃ t ts, Token.scan n (d :: r) = .ok (⟨.number t, n⟩ :: ts) := by
  obtain ⟨symbol, -, start, -⟩ := beyond_separate beyond
  rw [Token.scan_cons]
  cases first : first? (d :: r) with
  | none => exact .inl ⟨_, rfl⟩
  | some word =>
      obtain ⟨w, k⟩ := word
      cases w with
      | none =>
          obtain ⟨some, run⟩ := Lexeme.first?_eq_none_word first
          rw [Lexeme.length_takeWhile_eq_zero ink] at run
          exact absurd run some
      | some w =>
          rcases Lexeme.first?_eq_some first with ⟨-, -, rfl⟩ | ⟨-, length, some, -⟩ | ⟨-, x, head, word⟩
          · show (∃ fault, (Token.scan _ _).map _ = _) ∨ ∃ t ts, (Token.scan _ _).map _ = _
            cases Token.scan (n + k) (r.drop (k - 1)) with
            | error fault => exact .inl ⟨fault, rfl⟩
            | ok ts => exact .inr ⟨_, ts, rfl⟩
          · rw [Lexeme.nameLength_eq_zero start] at length
            exact absurd length.symm some
          · obtain rfl : x = d := by simpa using head.symm
            simp [symbol] at word

end

/-! ## Identifiers as expressions -/

namespace Compiled

variable {v : String}

/-- An identifier of ASCII characters is one word. -/
theorem fits_of_ascii (identifier : isIdentifier v.toList = true)
    (ascii : ∀ c ∈ v.toList, c.toNat < 0x80) : Fits (.name v) [] := by
  cases text : v.toList with
  | nil =>
      rw [text] at identifier
      exact absurd identifier (by decide)
  | cons c cs =>
      rw [text] at identifier ascii
      obtain ⟨start, inside⟩ := Bool.and_eq_true_iff.1 identifier
      exact Lexeme.fits_name_iff.2 ⟨c, cs, text, identifierStart_of_ascii (ascii c (by simp)) start,
        fun x member => identifierContinue_of_ascii (ascii x (List.mem_cons_of_mem c member))
          (List.all_eq_true.1 inside x member), by simp⟩

/-- A name that is the free variable is the identity. -/
theorem ofText_name (identifier : isIdentifier v.toList = true) (name : Fits (.name v) []) :
    ofText v v = .ok ⟨v, v, .var v 0, fun x => .ok x⟩ := by
  have words : Token.scan 0 v.toList = .ok [⟨.name v, 0⟩] := by
    have := Token.scan_word 0 name
    rwa [List.append_nil, Token.scan_nil] at this
  have tree : Parse.parseWithin (some Parse.depthLimit) v.toList = .ok (.var v 0) := by
    rw [Parse.parseWithin, Token.tokenize, words]
    rfl
  have built : (Expr.var v 0).build (some Parse.depthLimit) v = .ok fun x => .ok x := by
    rw [Expr.build, Expr.evaluator_var, Expr.resolve, if_pos rfl]
    rfl
  rw [ofText, ofTextWithin, identifier, tree]
  simp only [Bool.not_true, Bool.false_eq_true, if_false]
  show (do return (⟨v, v, .var v 0, ← (Expr.var v 0).build _ v⟩ : Compiled)) = _
  rw [built]
  rfl

/-- An identifier with a character beyond ASCII is no expression: a word ends before that character,
and none begins there or a number does. -/
theorem not_ofText_of_beyond (identifier : isIdentifier v.toList = true)
    (other : ¬ ∀ c ∈ v.toList, c.toNat < 0x80) (free : String) :
    ∃ fault, ofText v free = .error fault := by
  suffices failed : ∃ fault, Parse.parseWithin (some Parse.depthLimit) v.toList = .error fault by
    obtain ⟨fault, failed⟩ := failed
    rw [ofText, ofTextWithin, failed]
    split <;> exact ⟨_, rfl⟩
  obtain ⟨u, d, r, split, beyond, ⟨rfl, start⟩ | ⟨inside, c, n, rfl, start, names⟩⟩ :=
    exists_beyond identifier other
  · obtain ⟨ink, digit⟩ := identifierStart_separate start beyond
    obtain ⟨symbol, -, letter, point⟩ := beyond_separate beyond
    have none : first? (d :: r) = none := by
      rw [Lexeme.first?_eq_of_symbol (Lexeme.numberLength_eq_zero digit point)
        (Lexeme.nameLength_eq_zero letter) (by simpa using ink)]
      simp [symbol]
    rw [split, List.nil_append, Parse.parseWithin, Token.tokenize, Token.scan_cons, none]
    exact ⟨_, rfl⟩
  · have name : Fits (.name (String.ofList (c :: n))) (d :: r) :=
      Lexeme.fits_name_iff.2 ⟨c, n, by simp, start, names, by simpa using (beyond_separate beyond).2.1⟩
    have words := Token.scan_word 0 name
    rw [Lexeme.text, String.toList_ofList] at words
    rw [split, Parse.parseWithin, Token.tokenize, words]
    rcases scan_beyond (0 + (c :: n).length) beyond (ink_of_identifierContinue inside) with
      ⟨fault, failed⟩ | ⟨t, ts, scanned⟩
    · rw [failed]
      exact ⟨_, rfl⟩
    · rw [scanned]
      show ∃ fault, Parse.run _ _ _ _ = .error fault
      rw [Parse.run]
      exact ⟨_, rfl⟩

/-- **A free variable is an expression exactly if it is of ASCII characters**, and then it is the
identity. -/
theorem ofText_self (identifier : isIdentifier v.toList = true) :
    ((∃ f, ofText v v = .ok f) ↔ ∀ c ∈ v.toList, c.toNat < 0x80) ∧
      ∀ f, ofText v v = .ok f → ∀ x, f.evaluate x = .ok x := by
  by_cases ascii : ∀ c ∈ v.toList, c.toNat < 0x80
  · have compiled := ofText_name identifier (fits_of_ascii identifier ascii)
    refine ⟨iff_of_true ⟨_, compiled⟩ ascii, fun f known x => ?_⟩
    obtain rfl := Except.ok.inj (compiled.symm.trans known)
    rfl
  · obtain ⟨fault, failed⟩ := not_ofText_of_beyond identifier ascii v
    rw [failed]
    exact ⟨iff_of_false (by simp) ascii, by simp⟩

/-- The theorem at a free variable that has the name of a function. -/
theorem ofText_self_sin : isIdentifier "sin".toList = true ∧
    ∃ f, ofText "sin" "sin" = .ok f ∧ ∀ x, f.evaluate x = .ok x := by
  have identifier : isIdentifier "sin".toList = true := by decide +kernel
  obtain ⟨compiled, same⟩ := ofText_self identifier
  obtain ⟨f, known⟩ := compiled.2 (ascii_of_all (by decide +kernel))
  exact ⟨identifier, f, known, same f known⟩

/-- A letter beyond ASCII may be the free variable, and is no expression. -/
theorem not_ofText_accented : isIdentifier "é".toList = true ∧ ¬ ∃ f, ofText "é" "é" = .ok f := by
  have identifier : isIdentifier "é".toList = true := by decide +kernel
  have beyond : ¬ ∀ c ∈ "é".toList, c.toNat < 0x80 := fun ascii =>
    absurd (ascii 'é' (by decide +kernel)) (by decide)
  obtain ⟨fault, failed⟩ := not_ofText_of_beyond identifier beyond "é"
  exact ⟨identifier, by simp [failed]⟩

end Compiled

end Quadrature
