/-
# Quadrature.Proofs.Number.Written -- the texts that numbers are written as

Whole numbers and finite doubles are written alike: a sign, a whole part without superfluous zeros, a
fraction and an exponent. `NumberText` is such a text with its parts. A whole number has neither
fraction nor exponent, a double has at least one of them, so the two are told apart when they are
read back.

* `text_ofWhole`: how whole numbers are written;
* `Whole.read_write`: a whole number that can be written is read back.
-/
import Mathlib.Data.List.DropRight
import Quadrature.Number.Numeral
import Quadrature.Proofs.Text.Trim

namespace Quadrature.Number

set_option autoImplicit false

open Quadrature.Text

/-- All characters are ASCII digits. -/
def AllDigits (s : List Char) : Prop := ∀ c ∈ s, c.isDigit = true

theorem AllDigits.append {s t : List Char} (left : AllDigits s) (right : AllDigits t) :
    AllDigits (s ++ t) := by
  intro c member
  rcases List.mem_append.1 member with h | h
  · exact left c h
  · exact right c h

theorem AllDigits.of_subset {s t : List Char} (digits : AllDigits t) (sub : s ⊆ t) : AllDigits s :=
  fun c member => digits c (sub member)

theorem allDigits_toDigits (n : Nat) : AllDigits (Nat.toDigits 10 n) :=
  fun _ member => Nat.isDigit_of_mem_toDigits (by decide) (by decide) member

theorem allDigits_zeros (n : Nat) : AllDigits (List.replicate n '0') := by
  intro c member
  rw [List.eq_of_mem_replicate member]
  decide

theorem length_toDigits_le {n k : Nat} (some : 0 < k) (short : n < Nat.pow 10 k) :
    (Nat.toDigits 10 n).length ≤ k :=
  (Nat.length_toDigits_le_iff (by decide) some).2 short

/-- Only zero is written with a leading zero. -/
theorem toDigits_head (n : Nat) :
    ∃ d ds, Nat.toDigits 10 n = d :: ds ∧ (d = '0' → n = 0) := by
  induction n using Nat.strongRecOn with
  | ind n ih =>
      by_cases small : n < 10
      · refine ⟨n.digitChar, [], Nat.toDigits_of_lt_base small, ?_⟩
        simp
      · obtain ⟨d, ds, digits, zero⟩ := ih (n / 10) (by omega)
        refine ⟨d, ds ++ [(n % 10).digitChar], ?_, ?_⟩
        · rw [Nat.toDigits_of_base_le (by decide) (by omega), digits, List.cons_append]
        · intro lead
          have := zero lead
          omega

/-! ## Texts of numbers -/

/-- A number as it is written, with its parts. -/
structure NumberText where
  negative : Bool
  whole : List Char
  /-- The digits after the point; without them there is no point. -/
  fraction : List Char
  /-- The exponent, if there is one: whether it is negative, and its digits. -/
  exponent : Option (Bool × List Char)
  whole_digits : AllDigits whole
  whole_ne_nil : whole ≠ []
  /-- A whole part that starts with zero is zero. -/
  whole_lead : whole.head? = some '0' → whole = ['0']
  fraction_digits : AllDigits fraction
  exponent_digits : ∀ e ∈ exponent, e.2 ≠ [] ∧ AllDigits e.2

namespace NumberText

/-- The sign. -/
def signText (t : NumberText) : List Char := if t.negative then ['-'] else []

/-- The fraction with its point. -/
def fractionText (t : NumberText) : List Char :=
  if t.fraction = [] then [] else '.' :: t.fraction

/-- The exponent with its mark and sign. -/
def exponentText (t : NumberText) : List Char :=
  match t.exponent with
  | none => []
  | some (negative, digits) => 'e' :: (if negative then '-' else '+') :: digits

/-- The text. -/
def text (t : NumberText) : List Char :=
  t.signText ++ (t.whole ++ (t.fractionText ++ t.exponentText))

/-- The text is that of a whole number. -/
def IsWhole (t : NumberText) : Prop := t.fraction = [] ∧ t.exponent = none

theorem exists_whole (t : NumberText) : ∃ c cs, t.whole = c :: cs ∧ c.isDigit = true := by
  cases whole : t.whole with
  | nil => exact absurd whole t.whole_ne_nil
  | cons c cs => exact ⟨c, cs, rfl, t.whole_digits c (by simp [whole])⟩

/-- The characters of the text. -/
theorem mem_text {t : NumberText} {c : Char} (member : c ∈ t.text) :
    c.isDigit = true ∨ c ∈ ['-', '+', '.', 'e'] := by
  simp only [text, List.mem_append] at member
  rcases member with sign | whole | fraction | exponent
  · unfold signText at sign
    split at sign
    · exact .inr (by simp_all)
    · cases sign
  · exact .inl (t.whole_digits c whole)
  · unfold fractionText at fraction
    split at fraction
    · cases fraction
    · rcases List.mem_cons.1 fraction with rfl | digit
      · exact .inr (by simp)
      · exact .inl (t.fraction_digits c digit)
  · unfold exponentText at exponent
    split at exponent
    · cases exponent
    · rename_i negative digits some
      rcases List.mem_cons.1 exponent with rfl | later
      · exact .inr (by simp)
      · rcases List.mem_cons.1 later with rfl | digit
        · exact .inr (by cases negative <;> simp)
        · exact .inl ((t.exponent_digits _ some).2 c digit)

/-- The text with a sign in front. -/
def signed (t : NumberText) (negative : Bool) : NumberText := { t with negative := negative }

/-- A whole number in decimal. -/
def ofWhole (n : Int) : NumberText where
  negative := decide (n < 0)
  whole := Nat.toDigits 10 n.natAbs
  fraction := []
  exponent := none
  whole_digits := allDigits_toDigits _
  whole_ne_nil := Nat.toDigits_ne_nil
  whole_lead := by
    obtain ⟨d, ds, digits, zero⟩ := toDigits_head n.natAbs
    intro lead
    rw [digits] at lead
    rw [zero (Option.some.inj lead), Nat.toDigits_zero]
  fraction_digits := by simp [AllDigits]
  exponent_digits := by simp

theorem text_ofWhole (n : Int) : (ofWhole n).text = (Whole.write n).toList := by
  unfold Whole.write
  by_cases negative : n < 0 <;>
    simp [ofWhole, text, signText, fractionText, exponentText, negative]

end NumberText

/-! ## Kinds of doubles -/

theorem isNaN_of_isFinite {x : Float} (finite : x.isFinite = true) : x.isNaN = false := by
  unfold Float.isFinite Float.Model.isFinite at finite
  unfold Float.isNaN Float.Model.isNaN
  revert finite
  cases x.toModel.unpack <;> intro finite <;> first | rfl | cases finite

theorem isInf_of_isFinite {x : Float} (finite : x.isFinite = true) : x.isInf = false := by
  unfold Float.isFinite Float.Model.isFinite at finite
  unfold Float.isInf Float.Model.isInf
  revert finite
  cases x.toModel.unpack <;> intro finite <;> first | rfl | cases finite

/-- A double that is not finite is not-a-number or infinite. -/
theorem isNaN_or_isInf {x : Float} (other : x.isFinite = false) :
    x.isNaN = true ∨ x.isNaN = false ∧ x.isInf = true := by
  unfold Float.isFinite Float.Model.isFinite at other
  unfold Float.isNaN Float.Model.isNaN Float.isInf Float.Model.isInf
  revert other
  cases x.toModel.unpack <;> intro other <;>
    first | exact .inl rfl | exact .inr ⟨rfl, rfl⟩ | cases other

/-! ## Whole numbers -/

/-- The code points of the ASCII digits. -/
theorem toNat_of_isDigit {c : Char} (digit : c.isDigit = true) :
    0x30 ≤ c.toNat ∧ c.toNat ≤ 0x39 := by
  simpa [Char.isDigit, UInt32.le_iff_toNat_le] using digit

/-- The value of an ASCII digit. -/
theorem digitValue?_of_isDigit {c : Char} (digit : c.isDigit = true) :
    digitValue? c = some (c.toNat - '0'.toNat) := by
  simp [digitValue?, digitZeros, toNat_of_isDigit digit]

theorem isWhiteSpace_of_isDigit {c : Char} (digit : c.isDigit = true) : isWhiteSpace c = false := by
  have range := toNat_of_isDigit digit
  simp only [isWhiteSpace, whiteSpaceRanges, Ranges.contains]
  simp
  omega

theorem isBlank_of_isDigit {c : Char} (digit : c.isDigit = true) : isBlank c = false := by
  have range := toNat_of_isDigit digit
  rw [isBlank, isWhiteSpace_of_isDigit digit, Bool.false_or, Bool.and_eq_false_iff]
  simp only [decide_eq_false_iff_not]
  omega

namespace Whole

theorem underscoresSeparate_of_digits {s : List Char} (digits : AllDigits s) :
    underscoresSeparate s = true := by
  have other : '_' ∉ s := fun member => absurd (digits _ member) (by decide)
  clear digits
  fun_induction underscoresSeparate s with
  | case1 => rfl
  | case2 => simp at other
  | case3 => simp at other
  | case4 => simp at other
  | case5 _ rest _ _ ih => exact ih fun member => other (List.mem_cons_of_mem _ member)

theorem ofDigits_map (s : List Char) :
    ofDigits (s.map fun c => c.toNat - '0'.toNat) = Nat.ofDigitChars 10 s 0 := by
  rw [ofDigits, List.foldl_map, Nat.ofDigitChars_eq_foldl]

/-- A text of at most so many digits is read as the number that they denote. -/
theorem read_digits {sign digits : List Char} {negative : Bool} (all : AllDigits digits)
    (some : digits ≠ []) (short : digits.length ≤ maxDigits)
    (signed : sign = if negative then ['-'] else []) :
    read (sign ++ digits) = .ok (if negative then -(Nat.ofDigitChars 10 digits 0 : Int)
      else Nat.ofDigitChars 10 digits 0) := by
  have trimmed : trimBy isWhiteSpace (sign ++ digits) = sign ++ digits := by
    apply trimBy_eq_self
    intro c member
    rcases List.mem_append.1 member with h | h
    · cases negative <;> simp [signed] at h
      subst h
      decide
    · exact isWhiteSpace_of_isDigit (all c h)
  have split : splitSign (sign ++ digits) = (negative, digits) := by
    cases negative with
    | true => rw [signed]; rfl
    | false =>
        rw [signed]
        cases digits with
        | nil => exact absurd rfl some
        | cons c cs =>
            have digit := all c (by simp)
            show splitSign (c :: cs) = _
            unfold splitSign
            split
            · simp_all
            · simp_all
            · rfl
  have taken : digits.takeWhile (fun c => isDigit c || c == '_') = digits := by
    apply List.takeWhile_eq_self_iff.2
    intro c member
    simp [isDigit, digitValue?_of_isDigit (all c member)]
  have values : digits.filterMap digitValue? = digits.map fun c => c.toNat - '0'.toNat := by
    rw [← List.filterMap_eq_map]
    exact List.filterMap_congr fun c member => digitValue?_of_isDigit (all c member)
  have rest : digits.dropWhile (fun c => isDigit c || c == '_') = [] := by
    rw [List.dropWhile_eq_nil_iff]
    intro c member
    simp [isDigit, digitValue?_of_isDigit (all c member)]
  have filled : digits.isEmpty = false := by simpa using some
  unfold read
  simp only [trimmed, split, taken, values, rest, ofDigits_map, List.length_map, filled,
    underscoresSeparate_of_digits all, Nat.not_lt.2 short, List.isEmpty_nil, Bool.not_true,
    Bool.or_self, Bool.false_eq_true, if_false]

/-- A whole number that can be written is read back. -/
theorem read_write {n : Int} (short : n.natAbs < Nat.pow 10 maxDigits) :
    read (write n).toList = .ok n := by
  have length : (Nat.toDigits 10 n.natAbs).length ≤ maxDigits :=
    length_toDigits_le (by decide) short
  have text : (write n).toList =
      (if decide (n < 0) then ['-'] else []) ++ Nat.toDigits 10 n.natAbs := by
    unfold write
    by_cases negative : n < 0 <;> simp [negative]
  rw [text, read_digits (allDigits_toDigits _) Nat.toDigits_ne_nil length rfl,
    Nat.ofDigitChars_toDigits (by decide) (by decide)]
  by_cases negative : n < 0
  · simp only [negative, decide_true, if_true]
    congr 1
    omega
  · simp only [negative, decide_false, Bool.false_eq_true, if_false]
    congr 1
    omega

end Whole

end Quadrature.Number
