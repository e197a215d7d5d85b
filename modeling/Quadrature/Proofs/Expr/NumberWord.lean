/-
# Quadrature.Proofs.Expr.NumberWord -- the shape of numbers and where they end

A number is a mantissa, digits with at most one point, and perhaps an exponent. `Before w r` says
that `w` is a number and that the text `r` after it does not prolong it.

* `numberLength_append_iff`: `Before w r` is what the length of the longest number measures;
* `Before.take`, `Before.of_end`: a number still ends where it did when the text after it is cut
  off, or begins with a blank or a symbol.
-/
import Quadrature.Proofs.Text.Separation

namespace Quadrature.Lexeme

set_option autoImplicit false

open Quadrature.Text

/-! ## Runs of digits -/

/-- The text holds digits only. -/
def Digits (s : List Char) : Prop := ∀ c ∈ s, isDigit c = true

/-- The text does not begin with a digit. -/
def NoDigit (r : List Char) : Prop := ∀ c ∈ r.head?, isDigit c = false

theorem noDigit_nil : NoDigit [] := by simp [NoDigit]

@[simp] theorem noDigit_cons {c : Char} {r : List Char} :
    NoDigit (c :: r) ↔ isDigit c = false := by simp [NoDigit]

theorem refused_head?_dropWhile (p : Char → Bool) (s : List Char) :
    ∀ c ∈ (s.dropWhile p).head?, p c = false := by
  intro c first
  have refused := List.head?_dropWhile_not p s
  rwa [first] at refused

/-- A text is its run of digits and what no digit begins. -/
theorem digitRun_split (s : List Char) :
    ∃ d r, s = d ++ r ∧ d.length = digitRun s ∧ Digits d ∧ NoDigit r :=
  ⟨s.takeWhile isDigit, s.dropWhile isDigit, List.takeWhile_append_dropWhile.symm, rfl,
    fun _ member => List.all_eq_true.1 List.all_takeWhile _ member,
    refused_head?_dropWhile isDigit s⟩

theorem digitRun_append {d r : List Char} (digits : Digits d) (stop : NoDigit r) :
    digitRun (d ++ r) = d.length := by
  unfold digitRun
  rw [List.takeWhile_append_of_pos digits]
  cases r with
  | nil => simp
  | cons c r => simp [List.takeWhile_cons_of_neg (show ¬ isDigit c = true by simpa using stop)]

/-! ## Mantissas -/

/-- Digits with at most one point, not the point alone. -/
inductive Mantissa : List Char → Prop where
  | whole {w : List Char} (digits : Digits w) (some : w ≠ []) : Mantissa w
  | point {w f : List Char} (digits : Digits w) (fraction : Digits f) (some : w ++ f ≠ []) :
      Mantissa (w ++ '.' :: f)

/-- What follows does not prolong the mantissa. -/
structure MantissaEnds (m r : List Char) : Prop where
  digit : NoDigit r
  point : '.' ∈ m ∨ r.head? ≠ some '.'

theorem not_mem_point {d : List Char} (digits : Digits d) : '.' ∉ d := fun member =>
  absurd (digits _ member) (by decide)

theorem mantissaLength_whole {w r : List Char} (digits : Digits w) (stop : NoDigit r)
    (point : r.head? ≠ some '.') : mantissaLength (w ++ r) = w.length := by
  unfold mantissaLength
  simp only [digitRun_append digits stop, List.drop_left]
  split
  · simp at point
  · rfl

theorem mantissaLength_point {w f r : List Char} (digits : Digits w) (fraction : Digits f)
    (stop : NoDigit r) : mantissaLength (w ++ '.' :: (f ++ r)) =
      if w.length + f.length = 0 then 0 else w.length + 1 + f.length := by
  have run : digitRun (w ++ '.' :: (f ++ r)) = w.length :=
    digitRun_append digits (by simp; decide)
  unfold mantissaLength
  simp only [run, List.drop_left, digitRun_append fraction stop]

theorem mantissaLength_append {m r : List Char} (shape : Mantissa m) (ends : MantissaEnds m r) :
    mantissaLength (m ++ r) = m.length := by
  cases shape with
  | whole digits some =>
      exact mantissaLength_whole digits ends.digit (ends.point.resolve_left (not_mem_point digits))
  | @point w f digits fraction some =>
      have positive : w.length + f.length ≠ 0 := by
        rw [← List.length_append]
        simpa using some
      rw [List.append_assoc, List.cons_append, mantissaLength_point digits fraction ends.digit,
        if_neg positive, List.length_append, List.length_cons]
      omega

theorem mantissa_split {s : List Char} (some : mantissaLength s ≠ 0) :
    ∃ m r, s = m ++ r ∧ m.length = mantissaLength s ∧ Mantissa m ∧ MantissaEnds m r := by
  obtain ⟨w, r, rfl, -, digits, stop⟩ := digitRun_split s
  by_cases point : r.head? = Option.some '.'
  · obtain ⟨r, rfl⟩ := List.head?_eq_some_iff.1 point
    obtain ⟨f, r, rfl, -, fraction, stop'⟩ := digitRun_split r
    rw [mantissaLength_point digits fraction stop'] at some ⊢
    have positive : w.length + f.length ≠ 0 := fun zero => some (if_pos zero)
    refine ⟨w ++ '.' :: f, r, by simp, ?_, .point digits fraction ?_, stop', .inl (by simp)⟩
    · rw [if_neg positive, List.length_append, List.length_cons]
      omega
    · intro empty
      have := congrArg List.length empty
      simp only [List.length_append, List.length_nil] at this
      omega
  · rw [mantissaLength_whole digits stop point] at some ⊢
    exact ⟨w, r, rfl, rfl, .whole digits (by rintro rfl; exact some rfl), stop, .inr point⟩

theorem Mantissa.ne_nil {m : List Char} (shape : Mantissa m) : m ≠ [] := by
  cases shape with
  | whole digits some => exact some
  | point digits fraction some => simp

/-- A mantissa begins with a digit or with the point. -/
theorem Mantissa.chars {m : List Char} (shape : Mantissa m) :
    ∀ c ∈ m, isDigit c = true ∨ c = '.' := by
  intro c member
  cases shape with
  | whole digits some => exact .inl (digits c member)
  | point digits fraction some =>
      rcases List.mem_append.1 member with before | rest
      · exact .inl (digits c before)
      · rcases List.mem_cons.1 rest with rfl | after
        · exact .inr rfl
        · exact .inl (fraction c after)

/-! ## Exponents -/

/-- The mark of an exponent. -/
def IsMark (c : Char) : Prop := c = 'e' ∨ c = 'E'

/-- The sign of an exponent. -/
def IsSign (c : Char) : Prop := c = '+' ∨ c = '-'

instance (c : Char) : Decidable (IsMark c) := inferInstanceAs (Decidable (c = 'e' ∨ c = 'E'))

instance (c : Char) : Decidable (IsSign c) := inferInstanceAs (Decidable (c = '+' ∨ c = '-'))

/-- A mark, perhaps a sign, and digits. -/
inductive Exponent : List Char → Prop where
  | plain {mark : Char} {d : List Char} (marked : IsMark mark) (digits : Digits d)
      (some : d ≠ []) : Exponent (mark :: d)
  | signed {mark sign : Char} {d : List Char} (marked : IsMark mark) (signs : IsSign sign)
      (digits : Digits d) (some : d ≠ []) : Exponent (mark :: sign :: d)

theorem exponentLength_signed {mark sign : Char} (marked : IsMark mark) (signs : IsSign sign)
    (s : List Char) :
    exponentLength (mark :: sign :: s) = if digitRun s = 0 then 0 else 2 + digitRun s := by
  simp only [exponentLength, if_pos (show mark = 'e' ∨ mark = 'E' from marked)]
  rcases signs with rfl | rfl <;> cases run : digitRun s <;> simp [run]

theorem exponentLength_plain {mark : Char} (marked : IsMark mark) {s : List Char}
    (unsigned : ∀ c ∈ s.head?, ¬ IsSign c) :
    exponentLength (mark :: s) = if digitRun s = 0 then 0 else 1 + digitRun s := by
  simp only [exponentLength, if_pos (show mark = 'e' ∨ mark = 'E' from marked)]
  split
  · simp [IsSign] at unsigned
  · simp [IsSign] at unsigned
  · split
    · next zero => rw [if_pos zero]
    · next n length => rw [if_neg (by omega)]

theorem exponentLength_unmarked {s : List Char} (unmarked : ∀ c ∈ s.head?, ¬ IsMark c) :
    exponentLength s = 0 := by
  cases s with
  | nil => rfl
  | cons c s =>
      have unmarked : ¬ (c = 'e' ∨ c = 'E') := by simpa [IsMark] using unmarked
      simp only [exponentLength, if_neg unmarked]

theorem not_isSign_of_digit {c : Char} (digit : isDigit c = true) : ¬ IsSign c := by
  rintro (rfl | rfl) <;> exact absurd digit (by decide)

theorem exponentLength_append {x r : List Char} (shape : Exponent x) (stop : NoDigit r) :
    exponentLength (x ++ r) = x.length := by
  cases shape with
  | @plain mark d marked digits some =>
      have unsigned : ∀ c ∈ (d ++ r).head?, ¬ IsSign c := by
        cases d with
        | nil => exact absurd rfl some
        | cons c d => simpa using not_isSign_of_digit (digits c (by simp))
      rw [List.cons_append, exponentLength_plain marked unsigned, digitRun_append digits stop,
        if_neg (by simpa using some), List.length_cons, Nat.add_comm]
  | @signed mark sign d marked signs digits some =>
      rw [List.cons_append, List.cons_append, exponentLength_signed marked signs,
        digitRun_append digits stop, if_neg (by simpa using some), List.length_cons,
        List.length_cons, Nat.add_comm]

theorem exponent_split {s : List Char} (some : exponentLength s ≠ 0) :
    ∃ x r, s = x ++ r ∧ x.length = exponentLength s ∧ Exponent x ∧ NoDigit r := by
  have marked : ∃ c ∈ s.head?, IsMark c := by
    refine Classical.byContradiction fun unmarked => some (exponentLength_unmarked ?_)
    simpa using unmarked
  obtain ⟨mark, first, marked⟩ := marked
  obtain ⟨s, rfl⟩ := List.head?_eq_some_iff.1 first
  by_cases signed : ∃ c ∈ s.head?, IsSign c
  · obtain ⟨sign, first, signs⟩ := signed
    obtain ⟨s, rfl⟩ := List.head?_eq_some_iff.1 first
    obtain ⟨d, r, rfl, -, digits, stop⟩ := digitRun_split s
    rw [exponentLength_signed marked signs, digitRun_append digits stop] at some ⊢
    have positive : d.length ≠ 0 := fun zero => some (if_pos zero)
    refine ⟨mark :: sign :: d, r, rfl, ?_, .signed marked signs digits ?_, stop⟩
    · rw [if_neg positive, List.length_cons, List.length_cons]
      omega
    · exact fun empty => positive (by simp [empty])
  · have unsigned : ∀ c ∈ s.head?, ¬ IsSign c := fun c first sign => signed ⟨c, first, sign⟩
    obtain ⟨d, r, rfl, -, digits, stop⟩ := digitRun_split s
    rw [exponentLength_plain marked unsigned, digitRun_append digits stop] at some ⊢
    have positive : d.length ≠ 0 := fun zero => some (if_pos zero)
    refine ⟨mark :: d, r, rfl, ?_, .plain marked digits ?_, stop⟩
    · rw [if_neg positive, List.length_cons, Nat.add_comm]
    · exact fun empty => positive (by simp [empty])

/-- The mark of an exponent is no digit and not the point. -/
theorem isMark_separate {c : Char} (marked : IsMark c) : isDigit c = false ∧ c ≠ '.' := by
  rcases marked with rfl | rfl <;> decide

theorem Exponent.mantissaEnds {x : List Char} (shape : Exponent x) (m r : List Char) :
    MantissaEnds m (x ++ r) := by
  cases shape with
  | plain marked digits some =>
      obtain ⟨digit, point⟩ := isMark_separate marked
      exact ⟨by simpa using digit, .inr (by simpa using point)⟩
  | signed marked signs digits some =>
      obtain ⟨digit, point⟩ := isMark_separate marked
      exact ⟨by simpa using digit, .inr (by simpa using point)⟩

/-! ## Numbers -/

/-- `w` is a number, and the text `r` after it does not prolong it. -/
inductive Before : List Char → List Char → Prop where
  | mantissa {m r : List Char} (shape : Mantissa m) (ends : MantissaEnds m r)
      (bare : exponentLength r = 0) : Before m r
  | exponent {m x r : List Char} (shape : Mantissa m) (raised : Exponent x) (stop : NoDigit r) :
      Before (m ++ x) r

theorem Exponent.chars {x : List Char} (shape : Exponent x) :
    ∀ c ∈ x, isDigit c = true ∨ IsMark c ∨ IsSign c := by
  intro c member
  cases shape with
  | plain marked digits some =>
      rcases List.mem_cons.1 member with rfl | inside
      · exact .inr (.inl marked)
      · exact .inl (digits c inside)
  | signed marked signs digits some =>
      rcases List.mem_cons.1 member with rfl | after
      · exact .inr (.inl marked)
      · rcases List.mem_cons.1 after with rfl | inside
        · exact .inr (.inr signs)
        · exact .inl (digits c inside)

/-- The characters of a number. -/
theorem Before.chars {w r : List Char} (before : Before w r) :
    ∀ c ∈ w, isDigit c = true ∨ c = '.' ∨ IsMark c ∨ IsSign c := by
  intro c member
  cases before with
  | mantissa shape ends bare => exact (shape.chars c member).imp_right .inl
  | exponent shape raised stop =>
      rcases List.mem_append.1 member with first | last
      · exact (shape.chars c first).imp_right .inl
      · exact (raised.chars c last).imp_right .inr

theorem numberLength_of_before {w r : List Char} (before : Before w r) :
    numberLength (w ++ r) = w.length := by
  have nonzero : ∀ {m r : List Char}, Mantissa m → MantissaEnds m r →
      numberLength (m ++ r) = m.length + exponentLength r := by
    intro m r shape ends
    unfold numberLength
    rw [mantissaLength_append shape ends]
    split
    · next zero => exact absurd (List.length_eq_zero_iff.1 zero) shape.ne_nil
    · rw [List.drop_left]
  cases before with
  | mantissa shape ends bare => rw [nonzero shape ends, bare, Nat.add_zero]
  | exponent shape raised stop =>
      rw [List.append_assoc, nonzero shape (raised.mantissaEnds _ _),
        exponentLength_append raised stop, List.length_append]

/-- Where a number starts, the text is that number and what does not prolong it. -/
theorem before_split {s : List Char} (some : numberLength s ≠ 0) :
    ∃ w r, s = w ++ r ∧ w.length = numberLength s ∧ w ≠ [] ∧ Before w r := by
  have positive : mantissaLength s ≠ 0 := by
    intro zero
    simp [numberLength, zero] at some
  obtain ⟨m, r, rfl, length, shape, ends⟩ := mantissa_split positive
  have value : numberLength (m ++ r) = m.length + exponentLength r := by
    unfold numberLength
    split
    · next zero => exact absurd zero positive
    · rw [← length, List.drop_left]
  by_cases bare : exponentLength r = 0
  · exact ⟨m, r, rfl, by rw [value, bare, Nat.add_zero], shape.ne_nil, .mantissa shape ends bare⟩
  · obtain ⟨x, r, rfl, length', raised, stop⟩ := exponent_split bare
    refine ⟨m ++ x, r, by simp, ?_, by simp [shape.ne_nil], .exponent shape raised stop⟩
    rw [value, ← length', List.length_append]

theorem numberLength_append_iff {w r : List Char} :
    numberLength (w ++ r) = w.length ∧ w ≠ [] ↔ Before w r := by
  constructor
  · rintro ⟨length, some⟩
    obtain ⟨w', r', same, length', -, before⟩ :=
      before_split (s := w ++ r) (by rw [length]; simpa using some)
    obtain ⟨rfl, rfl⟩ := List.append_inj same (by rw [length', length])
    exact before
  · intro before
    refine ⟨numberLength_of_before before, ?_⟩
    cases before with
    | mantissa shape ends bare => exact shape.ne_nil
    | exponent shape raised stop => simp [shape.ne_nil]

/-- A word stands once in a text if it is neither in what is before it nor in what is after it. -/
theorem append_cons_inj_of_not_mem {a b a' b' : List Char} {c c' : Char}
    (same : a ++ c :: b = a' ++ c' :: b') (before : c ∉ a') (after : c ∉ b') :
    a = a' ∧ b = b' := by
  rcases List.append_eq_append_iff.1 same with ⟨t, rfl, rest⟩ | ⟨t, rfl, rest⟩
  · cases t with
    | nil => exact ⟨by simp, (List.cons.inj rest).2⟩
    | cons x t =>
        obtain ⟨rfl, -⟩ := List.cons.inj rest
        exact absurd (by simp) before
  · cases t with
    | nil => exact ⟨by simp, (List.cons.inj rest).2.symm⟩
    | cons x t =>
        obtain ⟨rfl, rfl⟩ := List.cons.inj rest
        exact absurd (by simp) after

/-- A sign inside a number is the one of its exponent. -/
theorem Before.signed_split {z w r : List Char} {sign : Char} (before : Before (z ++ sign :: w) r)
    (signs : IsSign sign) : ∃ m mark, z = m ++ [mark] ∧ Mantissa m ∧ IsMark mark ∧ Digits w ∧
      w ≠ [] := by
  have numeral : ¬ (isDigit sign = true ∨ sign = '.') := by
    rcases signs with rfl | rfl <;> decide
  have marks : ¬ IsMark sign := by
    rcases signs with rfl | rfl <;> decide
  generalize whole : z ++ sign :: w = s at before
  cases before with
  | mantissa shape ends bare => exact absurd (shape.chars sign (by simp [← whole])) numeral
  | @exponent m x r shape raised stop =>
      have outside : sign ∉ m := fun member => numeral (shape.chars sign member)
      cases raised with
      | @plain mark d marked digits some =>
          have member : sign ∈ m ++ mark :: d := by simp [← whole]
          simp only [List.mem_append, List.mem_cons] at member
          rcases member with first | rfl | last
          · exact absurd first outside
          · exact absurd marked marks
          · exact absurd (.inl (digits sign last)) numeral
      | @signed mark sign' d marked signs' digits some =>
          have split : z ++ sign :: w = (m ++ [mark]) ++ sign' :: d := by simp [whole]
          obtain ⟨rfl, rfl⟩ := append_cons_inj_of_not_mem split
            (by
              simp only [List.mem_append, List.mem_singleton, not_or]
              exact ⟨outside, by rintro rfl; exact marks marked⟩)
            (fun member => numeral (.inl (digits sign member)))
          exact ⟨m, mark, rfl, shape, marked, digits, some⟩

/-! ## Other texts after a number -/

theorem digitRun_cons_ne_zero {c : Char} (digit : isDigit c = true) (s : List Char) :
    digitRun (c :: s) ≠ 0 := by
  simp [digitRun, List.takeWhile_cons_of_pos digit]

/-- Up to three characters decide whether an exponent starts. -/
theorem exponentLength_ne_zero_iff {s : List Char} :
    exponentLength s ≠ 0 ↔ ∃ mark c r, IsMark mark ∧ isDigit c = true ∧
      (s = mark :: c :: r ∨ ∃ sign, IsSign sign ∧ s = mark :: sign :: c :: r) := by
  constructor
  · intro long
    obtain ⟨x, r, rfl, -, raised, -⟩ := exponent_split long
    cases raised with
    | @plain mark d marked digits some =>
        obtain ⟨c, d, rfl⟩ := List.exists_cons_of_ne_nil some
        exact ⟨mark, c, d ++ r, marked, digits c (by simp), .inl rfl⟩
    | @signed mark sign d marked signs digits some =>
        obtain ⟨c, d, rfl⟩ := List.exists_cons_of_ne_nil some
        exact ⟨mark, c, d ++ r, marked, digits c (by simp), .inr ⟨sign, signs, rfl⟩⟩
  · rintro ⟨mark, c, r, marked, digit, rfl | ⟨sign, signs, rfl⟩⟩
    · have unsigned : ∀ c' ∈ (c :: r).head?, ¬ IsSign c' := by
        simpa using not_isSign_of_digit digit
      rw [exponentLength_plain marked unsigned, if_neg (digitRun_cons_ne_zero digit r)]
      omega
    · rw [exponentLength_signed marked signs, if_neg (digitRun_cons_ne_zero digit r)]
      omega

theorem NoDigit.take {r r' : List Char} (stop : NoDigit (r ++ r')) : NoDigit r := by
  cases r with
  | nil => exact noDigit_nil
  | cons c r => simpa using stop

/-- A number still ends where it did when the text after it is cut off. -/
theorem Before.take {w r r' : List Char} (before : Before w (r ++ r')) : Before w r := by
  generalize whole : r ++ r' = s at before
  cases before with
  | mantissa shape ends bare =>
      subst whole
      refine .mantissa shape ⟨ends.digit.take, ?_⟩ ?_
      · apply ends.point.imp_right
        intro point
        cases r with
        | nil => simp
        | cons c r => simpa using point
      · apply Classical.byContradiction
        intro some
        obtain ⟨mark, c, rest, marked, digit, rfl | ⟨sign, signs, rfl⟩⟩ :=
          exponentLength_ne_zero_iff.1 some
        · exact exponentLength_ne_zero_iff.2 ⟨mark, c, rest ++ r', marked, digit, .inl rfl⟩ bare
        · exact exponentLength_ne_zero_iff.2
            ⟨mark, c, rest ++ r', marked, digit, .inr ⟨sign, signs, rfl⟩⟩ bare
  | exponent shape raised stop =>
      subst whole
      exact .exponent shape raised stop.take

/-- A number ends before a blank or a symbol. -/
theorem Before.of_end {w r : List Char} (before : Before w [])
    (sealed : ∀ c ∈ r.head?, isBlank c = true ∨ (ofChar? c).isSome = true) : Before w r := by
  have stop : NoDigit r := by
    intro c first
    rcases sealed c first with blank | symbol
    · exact (blank_separate blank).1
    · obtain ⟨_, symbol⟩ := Option.isSome_iff_exists.1 symbol
      exact (symbol_separate symbol).2.1
  generalize empty : ([] : List Char) = e at before
  cases before with
  | mantissa shape ends bare =>
      refine .mantissa shape ⟨stop, .inr ?_⟩ (exponentLength_unmarked ?_)
      · intro first
        exact absurd (sealed '.' first) (by decide)
      · intro c first marked
        have ends := sealed c first
        rcases marked with rfl | rfl <;> exact absurd ends (by decide)
  | exponent shape raised _ => exact .exponent shape raised stop

end Quadrature.Lexeme
