/-
# Quadrature.Proofs.Number.Numeral -- the texts that are read as doubles

A numeral is read in stages: white space off, digits to ASCII, underscores out, the sign off, and
what is left is a word for a special value or a decimal. The stages before the last drop or exchange
few characters, and the last takes few, so the characters of a readable text are known. A number of
the expression language passes every stage.

* `mem_of_read`: the characters of a text that is read;
* `read_trim`: the blanks around a numeral do not matter;
* `read_of_before`: every number of the expression language is read.
-/
import Quadrature.Proofs.Expr.NumberWord
import Quadrature.Proofs.Number.Written

namespace Quadrature.Number.Numeral

set_option autoImplicit false

open Quadrature.Text
open Quadrature.Number.Whole (splitSign)
open Quadrature.Lexeme (Mantissa Exponent Before Digits IsMark IsSign)

/-! ## The characters of a numeral -/

/-- White space, a digit of some script, or a character of a sign, a point, an exponent, an
underscore, `infinity` or `nan`. -/
def isNumeralChar (c : Char) : Bool :=
  isWhiteSpace c || isDigit c || ['.', '_', '+', '-'].contains c ||
    ['e', 'i', 'n', 'f', 't', 'y', 'a'].contains c.toLower

theorem isNumeralChar_of_isDigit {c : Char} (digit : c.isDigit = true) :
    isNumeralChar c = true := by
  simp [isNumeralChar, isDigit, digitValue?_of_isDigit digit]

/-- A sign goes, and nothing else. -/
theorem mem_splitSign {s : List Char} {c : Char} (member : c ∈ s) :
    isNumeralChar c = true ∨ c ∈ (splitSign s).2 := by
  unfold splitSign
  split
  · rcases List.mem_cons.1 member with rfl | rest
    · exact .inl (by decide)
    · exact .inr rest
  · rcases List.mem_cons.1 member with rfl | rest
    · exact .inl (by decide)
    · exact .inr rest
  · exact .inr member

theorem mem_of_exponent {s : List Char} {e : Int} (read : exponent? s = some e) :
    ∀ c ∈ s, isNumeralChar c = true := by
  intro c member
  cases s with
  | nil => simp at member
  | cons mark rest =>
      simp only [exponent?, Option.ite_none_right_eq_some, Bool.and_eq_true, Bool.or_eq_true,
        beq_iff_eq, List.all_eq_true] at read
      obtain ⟨⟨⟨marked, -⟩, digits⟩, -⟩ := read
      rcases List.mem_cons.1 member with rfl | member
      · rcases marked with rfl | rfl <;> decide
      · rcases mem_splitSign member with sign | digit
        · exact sign
        · exact isNumeralChar_of_isDigit (digits c digit)

theorem mem_of_decimal {s : List Char} {d : Decimal} (read : decimal? s = some d) :
    ∀ c ∈ s, isNumeralChar c = true := by
  have run {s : List Char} {c : Char} (member : c ∈ s.takeWhile Char.isDigit) :
      isNumeralChar c = true :=
    isNumeralChar_of_isDigit (List.all_eq_true.1 List.all_takeWhile c member)
  intro c member
  rw [← List.takeWhile_append_dropWhile (p := Char.isDigit) (l := s), List.mem_append] at member
  rcases member with whole | member
  · exact run whole
  · unfold decimal? at read
    split at read
    next fraction rest parts =>
    split at parts
    · next f point =>
      simp only [Prod.mk.injEq] at parts
      obtain ⟨rfl, rfl⟩ := parts
      obtain ⟨-, e, read, -⟩ : _ ∧ ∃ e, exponent? _ = some e ∧ _ := by simpa using read
      rw [point, List.mem_cons] at member
      rcases member with rfl | member
      · decide
      · rw [← List.takeWhile_append_dropWhile (p := Char.isDigit) (l := f), List.mem_append] at member
        rcases member with digit | member
        · exact run digit
        · exact mem_of_exponent read c member
    · next other =>
      simp only [Prod.mk.injEq] at parts
      obtain ⟨rfl, rfl⟩ := parts
      obtain ⟨-, e, read, -⟩ : _ ∧ ∃ e, exponent? _ = some e ∧ _ := by simpa using read
      exact mem_of_exponent read c member

theorem mem_of_unsigned {s : List Char} {x : Float} (read : unsigned? s = some x) :
    ∀ c ∈ s, isNumeralChar c = true := by
  intro c member
  have special (word : String)
      (letters : word.toList.all ['e', 'i', 'n', 'f', 't', 'y', 'a'].contains = true)
      (same : String.ofList (s.map Char.toLower) = word) : isNumeralChar c = true := by
    have inside : c.toLower ∈ word.toList := by
      rw [← same, String.toList_ofList]
      exact List.mem_map_of_mem member
    rw [isNumeralChar, List.all_eq_true.1 letters _ inside, Bool.or_true]
  unfold unsigned? at read
  simp only [Bool.or_eq_true, decide_eq_true_eq] at read
  split at read
  · next infinite =>
    rcases infinite with short | long
    · exact special "inf" (by decide +kernel) short
    · exact special "infinity" (by decide +kernel) long
  · split at read
    · next undefined => exact special "nan" (by decide +kernel) undefined
    · obtain ⟨d, read, -⟩ := Option.map_eq_some_iff.1 read
      exact mem_of_decimal read c member

theorem mem_of_plain {s : List Char} {x : Float} (read : plain? s = some x) :
    ∀ c ∈ s, isNumeralChar c = true := by
  intro c member
  obtain ⟨y, read, -⟩ := Option.map_eq_some_iff.1 read
  exact (mem_splitSign member).elim id (mem_of_unsigned read c)

theorem mem_dropUnderscores {s t : List Char} {c : Char} {after : Bool} (other : c ≠ '_')
    (dropped : dropUnderscores?.go after s = some t) (member : c ∈ s) : c ∈ t := by
  fun_induction dropUnderscores?.go after s generalizing t with
  | case1 => simp at member
  | case2 => simp at dropped
  | case3 after d rest between ih =>
      exact ih dropped ((List.mem_cons.1 member).resolve_left other)
  | case4 => simp at dropped
  | case5 after d rest kept ih =>
      obtain ⟨u, behind, rfl⟩ := Option.map_eq_some_iff.1 dropped
      rcases List.mem_cons.1 member with rfl | inside
      · exact List.mem_cons_self
      · exact List.mem_cons_of_mem d (ih behind inside)

theorem mem_asciiDigits {s : List Char} {c : Char} (other : isDigit c = false) (member : c ∈ s) :
    c ∈ asciiDigits s := by
  have none : digitValue? c = none := by simpa [isDigit] using other
  exact List.mem_map.2 ⟨c, member, by simp [none]⟩

/-- The characters of a text that is read. -/
theorem mem_of_read {s : List Char} {x : Float} (read : read? s = some x) :
    ∀ c ∈ s, isNumeralChar c = true := by
  intro c member
  obtain ⟨t, dropped, read⟩ := Option.bind_eq_some_iff.1 read
  by_cases white : isWhiteSpace c = true
  · simp [isNumeralChar, white]
  by_cases digit : isDigit c = true
  · simp [isNumeralChar, digit]
  by_cases underscore : c = '_'
  · subst underscore
    decide
  refine mem_of_plain read c (mem_dropUnderscores underscore dropped ?_)
  exact mem_asciiDigits (by simpa using digit) (mem_trimBy (by simpa using white) member)

/-- A blank in a numeral is white space. -/
theorem isWhiteSpace_of_isNumeralChar {c : Char} (numeral : isNumeralChar c = true)
    (blank : isBlank c = true) : isWhiteSpace c = true := by
  have all : (blanks.all fun c => !isNumeralChar c || isWhiteSpace c) = true := by decide +kernel
  simpa [numeral] using List.all_eq_true.1 all c (mem_blanks_of_isBlank blank)

/-- The blanks around a numeral do not matter. -/
theorem read_trim {s : List Char} {x : Float} (read : read? s = some x) :
    read? (trim s) = some x := by
  obtain ⟨g, h, split, before, after⟩ := trimBy_split isBlank s
  have white : ∀ c ∈ s, isBlank c = true → isWhiteSpace c = true := fun c member =>
    isWhiteSpace_of_isNumeralChar (mem_of_read read c member)
  rw [split] at white
  have same : trimBy isWhiteSpace s = trimBy isWhiteSpace (trim s) := by
    conv => lhs; rw [split]
    rw [trimBy_append_left fun c member => white c (by simp [member]) (before c member),
      trimBy_append_right fun c member => white c (by simp [member]) (after c member)]
    rfl
  rwa [read?, ← same]

/-! ## The numbers of the expression language -/

/-- Text without underscores stays as it is. -/
theorem dropUnderscores_eq_self {s : List Char} (after : Bool) (none : '_' ∉ s) :
    dropUnderscores?.go after s = some s := by
  induction s generalizing after with
  | nil => rfl
  | cons c s ih =>
      have other : c ≠ '_' := fun same => none (by simp [same])
      rw [dropUnderscores?.go, ih c.isDigit fun member => none (List.mem_cons_of_mem c member)]
      · rfl
      · exact other

theorem isDigit_digitChar : ∀ d < 10, (Nat.digitChar d).isDigit = true := by decide

theorem digitValue?_lt {c : Char} {d : Nat} (value : digitValue? c = some d) : d < 10 := by
  obtain ⟨z, found, rfl⟩ := Option.map_eq_some_iff.1 value
  have between := List.find?_some found
  simp only [Bool.and_eq_true, decide_eq_true_eq] at between
  omega

@[simp] theorem asciiDigits_append (s t : List Char) :
    asciiDigits (s ++ t) = asciiDigits s ++ asciiDigits t := List.map_append

theorem asciiDigits_cons_of_other {c : Char} (other : isDigit c = false) (s : List Char) :
    asciiDigits (c :: s) = c :: asciiDigits s := by
  have none : digitValue? c = none := by simpa [isDigit] using other
  simp [asciiDigits, none]

/-- Digits of every script become ASCII digits. -/
theorem allDigits_asciiDigits {d : List Char} (digits : Digits d) : AllDigits (asciiDigits d) := by
  intro c member
  obtain ⟨b, inside, rfl⟩ := List.mem_map.1 member
  obtain ⟨value, same⟩ := Option.isSome_iff_exists.1 (digits b inside)
  simpa [same] using isDigit_digitChar value (digitValue?_lt same)

theorem splitSign_of_digits {d : List Char} (digits : AllDigits d) : splitSign d = (false, d) := by
  unfold splitSign
  split
  · exact absurd (digits '-' (by simp)) (by decide)
  · exact absurd (digits '+' (by simp)) (by decide)
  · rfl

theorem exponent_isSome {x : List Char} (raised : Exponent x) :
    (exponent? (asciiDigits x)).isSome = true := by
  have filled {d : List Char} (some : d ≠ []) : asciiDigits d ≠ [] := by
    simpa [asciiDigits] using some
  cases raised with
  | @plain mark d marked digits some =>
      have all := allDigits_asciiDigits digits
      have mark : (mark == 'e' || mark == 'E') = true := by simpa [IsMark] using marked
      rw [asciiDigits_cons_of_other (Lexeme.isMark_separate marked).1]
      simp only [exponent?, splitSign_of_digits all, mark]
      simp only [Bool.true_and, List.isEmpty_eq_false_iff.2 (filled some), Bool.not_false, if_pos,
        List.all_eq_true.2 all, Option.isSome_some]
  | @signed mark sign d marked signs digits some =>
      have all := allDigits_asciiDigits digits
      have mark : (mark == 'e' || mark == 'E') = true := by simpa [IsMark] using marked
      have sign : isDigit sign = false ∧ ∀ s, (splitSign (sign :: s)).2 = s := by
        rcases signs with rfl | rfl <;> exact ⟨by decide, fun s => rfl⟩
      rw [asciiDigits_cons_of_other (Lexeme.isMark_separate marked).1,
        asciiDigits_cons_of_other sign.1]
      simp only [exponent?, sign.2, mark]
      simp only [Bool.true_and, List.isEmpty_eq_false_iff.2 (filled some), Bool.not_false, if_pos,
        List.all_eq_true.2 all, Option.isSome_some]

theorem decimal_isSome {m r : List Char} (shape : Mantissa m)
    (stop : ∀ c ∈ r.head?, c.isDigit = false ∧ c ≠ '.') (rest : (exponent? r).isSome = true) :
    (decimal? (asciiDigits m ++ r)).isSome = true := by
  have digit : ∀ c ∈ r.head?, c.isDigit = false := fun c first => (stop c first).1
  cases shape with
  | whole digits some =>
      have all := allDigits_asciiDigits digits
      have filled : asciiDigits m ≠ [] := by simpa [asciiDigits] using some
      have bare : r.head? ≠ Option.some '.' := fun first => (stop '.' first).2 rfl
      unfold decimal?
      rw [takeWhile_append_stop all digit, dropWhile_append_stop all digit]
      split
      next fraction r' parts =>
      split at parts
      · simp at bare
      · simp only [Prod.mk.injEq] at parts
        obtain ⟨rfl, rfl⟩ := parts
        simpa [filled] using rest
  | @point w f digits fraction some =>
      have point : ∀ t, ∀ c ∈ ('.' :: t : List Char).head?, c.isDigit = false := by simp
      have filled : (asciiDigits w ++ asciiDigits f).isEmpty = false := by
        simpa [asciiDigits] using some
      have split : asciiDigits (w ++ '.' :: f) ++ r =
          asciiDigits w ++ '.' :: (asciiDigits f ++ r) := by
        rw [asciiDigits_append, asciiDigits_cons_of_other (by decide), List.append_assoc,
          List.cons_append]
      unfold decimal?
      rw [split, takeWhile_append_stop (allDigits_asciiDigits digits) (point _),
        dropWhile_append_stop (allDigits_asciiDigits digits) (point _)]
      simp only [takeWhile_append_stop (allDigits_asciiDigits fraction) digit,
        dropWhile_append_stop (allDigits_asciiDigits fraction) digit, filled]
      simpa using rest

theorem head_asciiDigits {x : List Char} (raised : Exponent x) :
    ∀ c ∈ (asciiDigits x).head?, c.isDigit = false ∧ c ≠ '.' := by
  have mark {c : Char} (marked : IsMark c) (s : List Char) :
      ∀ d ∈ (asciiDigits (c :: s)).head?, d.isDigit = false ∧ d ≠ '.' := by
    rw [asciiDigits_cons_of_other (Lexeme.isMark_separate marked).1]
    rcases marked with rfl | rfl <;> simp
  cases raised with
  | plain marked digits some => exact mark marked _
  | signed marked signs digits some => exact mark marked _

/-- No sign stands before a decimal. -/
theorem splitSign_of_decimal {s : List Char} (decimal : (decimal? s).isSome = true) :
    splitSign s = (false, s) := by
  unfold splitSign
  split
  · simp [decimal?] at decimal
  · simp [decimal?] at decimal
  · rfl

theorem unsigned_isSome {s : List Char} (decimal : (decimal? s).isSome = true) :
    (unsigned? s).isSome = true := by
  unfold unsigned?
  lift_lets
  intro word
  split
  · rfl
  · split
    · rfl
    · rwa [Option.isSome_map]

/-- The characters of a number are no white space, and no underscores even in ASCII digits. -/
theorem number_char {c : Char} (number : isDigit c = true ∨ c = '.' ∨ IsMark c ∨ IsSign c) :
    isWhiteSpace c = false ∧ '_' ∉ asciiDigits [c] := by
  rcases number with digit | rfl | (rfl | rfl) | (rfl | rfl)
  · have ink := (digit_separate digit).1
    rw [isBlank, Bool.or_eq_false_iff] at ink
    have all := allDigits_asciiDigits (d := [c]) (by simpa [Digits] using digit)
    exact ⟨ink.1, fun member => absurd (all '_' member) (by decide)⟩
  all_goals decide

/-- Every number of the expression language is read. -/
theorem read_of_before {w r : List Char} (before : Before w r) : (read? w).isSome = true := by
  have decimal : (decimal? (asciiDigits w)).isSome = true := by
    cases before with
    | mantissa shape ends bare => simpa using decimal_isSome (r := []) shape (by simp) rfl
    | exponent shape raised stop =>
        rw [asciiDigits_append]
        exact decimal_isSome shape (head_asciiDigits raised) (exponent_isSome raised)
  have trimmed : trimBy isWhiteSpace w = w :=
    trimBy_eq_self fun c member => (number_char (before.chars c member)).1
  have plain : '_' ∉ asciiDigits w := by
    intro member
    obtain ⟨c, inside, same⟩ := List.mem_map.1 member
    exact (number_char (before.chars c inside)).2 (List.mem_map.2 ⟨c, by simp, same⟩)
  rw [read?, trimmed, dropUnderscores?, dropUnderscores_eq_self false plain, Option.bind_some,
    plain?, splitSign_of_decimal decimal]
  simpa using unsigned_isSome decimal

end Quadrature.Number.Numeral
