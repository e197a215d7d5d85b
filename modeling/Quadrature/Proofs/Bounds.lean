/-
# Quadrature.Proofs.Bounds -- which texts give bounds

Two numerals with a comma between them give bounds, with blanks around each of them and brackets
around both. Brackets are taken off each end of the text for itself, as many as stand there, so the
two sides of the comma never meet: `opened` is what is left of a side, and the right side is the left
one read backwards. The documented frames are none and one pair of brackets; a text in any other frame
of brackets gives bounds as well.

* `spaced_iff`: a numeral with blanks around it is what trimming leaves;
* `numbers?_eq_some_iff`: the texts that give two numbers;
* `Framed.unique`: the frame of a text is determined by it;
* `parse_framed`: the texts that give bounds, the documented ones among them, and the errors.
-/
import Quadrature.Bounds
import Quadrature.Proofs.Number.Numeral

namespace Quadrature.Bounds

set_option autoImplicit false

open Quadrature.Text
open Quadrature.Number
open Quadrature.Number.Numeral (isNumeralChar mem_of_read)

/-! ## Texts of bounds -/

/-- Blanks only. -/
def Blanks (s : List Char) : Prop := ∀ c ∈ s, isBlank c = true

/-- Square brackets only. -/
def Brackets (s : List Char) : Prop := ∀ c ∈ s, isBracket c = true

/-- A numeral of `x` with blanks around it. -/
inductive Spaced (x : Float) : List Char → Prop where
  | intro {g a h : List Char} (before : Blanks g) (read : Numeral.read? a = some x)
      (after : Blanks h) : Spaced x (g ++ (a ++ h))

/-- Numerals of `x0` and `x1` with a comma between them, `opening` before and `closing` behind them,
and blanks around all that. -/
inductive Framed (opening closing : List Char) (x0 x1 : Float) : List Char → Prop where
  | intro {w l r w' : List Char} (before : Blanks w) (left : Spaced x0 l) (right : Spaced x1 r)
      (after : Blanks w') : Framed opening closing x0 x1
        (w ++ (opening ++ (l ++ ',' :: (r ++ (closing ++ w')))))

/-- A pair of numbers as it is documented: without brackets, or with one opening and one closing
bracket. -/
def Documented (x0 x1 : Float) (text : List Char) : Prop :=
  Framed [] [] x0 x1 text ∨ Framed ['['] [']'] x0 x1 text

/-- A pair of numbers with any brackets at either end. -/
def Bracketed (x0 x1 : Float) (text : List Char) : Prop :=
  ∃ opening closing, Brackets opening ∧ Brackets closing ∧ Framed opening closing x0 x1 text

/-! ## Numerals with blanks around them -/

section

variable {s : List Char} {x : Float}

/-- A numeral with blanks around it is what trimming leaves. -/
theorem spaced_iff : Spaced x s ↔ Numeral.read? (trim s) = some x := by
  constructor
  · rintro ⟨before, read, after⟩
    rw [trim, trimBy_append_left before, trimBy_append_right after]
    exact Numeral.read_trim read
  · intro read
    obtain ⟨g, h, split, before, after⟩ := trimBy_split isBlank s
    rw [split]
    exact .intro before read after

theorem Spaced.chars (spaced : Spaced x s) : ∀ c ∈ s, isBlank c = true ∨ isNumeralChar c = true := by
  obtain ⟨before, read, after⟩ := spaced
  intro c member
  rcases List.mem_append.1 member with first | member
  · exact .inl (before c first)
  · rcases List.mem_append.1 member with inside | last
    · exact .inr (mem_of_read read c inside)
    · exact .inl (after c last)

theorem Spaced.not_mem_comma (spaced : Spaced x s) : ',' ∉ s := fun member =>
  absurd (spaced.chars ',' member) (by decide)

theorem isBracket_iff {c : Char} : isBracket c = true ↔ c = '[' ∨ c = ']' := by
  simp [isBracket]

theorem Spaced.not_bracket (spaced : Spaced x s) : ∀ c ∈ s, isBracket c = false := by
  intro c member
  apply Bool.eq_false_iff.2
  intro bracket
  rcases isBracket_iff.1 bracket with rfl | rfl <;> exact absurd (spaced.chars _ member) (by decide)

end

/-! ## The two sides of the comma -/

/-- The brackets in front of a text. -/
def opening (s : List Char) : List Char := (s.dropWhile isBlank).takeWhile isBracket

/-- A text without the blanks and brackets in front of it. -/
def opened (s : List Char) : List Char := (s.dropWhile isBlank).dropWhile isBracket

section

variable {w o c s : List Char} {x x0 x1 : Float} {text : List Char}

theorem isBlank_of_isBracket {c : Char} (bracket : isBracket c = true) : isBlank c = false := by
  rcases isBracket_iff.1 bracket with rfl | rfl <;> decide

/-- In front of a text without brackets, blanks and brackets go, and some blanks of the text. -/
theorem opened_append (before : Blanks w) (brackets : Brackets o)
    (none : ∀ c ∈ s, isBracket c = false) : opening (w ++ (o ++ s)) = o ∧
      ∃ k, Blanks k ∧ s = k ++ opened (w ++ (o ++ s)) := by
  have frame : ∃ k t, Blanks k ∧ s = k ++ t ∧ (w ++ (o ++ s)).dropWhile isBlank = o ++ t := by
    rw [List.dropWhile_append_of_pos before]
    cases o with
    | nil =>
        exact ⟨s.takeWhile isBlank, s.dropWhile isBlank,
          fun c member => List.all_eq_true.1 List.all_takeWhile c member,
          List.takeWhile_append_dropWhile.symm, rfl⟩
    | cons c o =>
        refine ⟨[], s, by simp [Blanks], rfl, ?_⟩
        rw [List.cons_append, List.dropWhile_cons, isBlank_of_isBracket (brackets c (by simp)),
          if_neg (by simp)]
  obtain ⟨k, t, blank, split, dropped⟩ := frame
  have stop : ∀ c ∈ t.head?, isBracket c = false := fun c first =>
    none c (by simp [split, List.mem_of_mem_head? first])
  refine ⟨?_, k, blank, ?_⟩
  · rw [opening, dropped, takeWhile_append_stop brackets stop]
  · rw [opened, dropped, dropWhile_append_stop brackets stop, split]

/-- A side of the comma: its brackets, and the numeral that is left without them. -/
theorem Spaced.side (spaced : Spaced x s) (before : Blanks w) (brackets : Brackets o) :
    ',' ∉ w ++ (o ++ s) ∧ opening (w ++ (o ++ s)) = o ∧ Spaced x (opened (w ++ (o ++ s))) := by
  obtain ⟨opens, k, blank, split⟩ := opened_append before brackets spaced.not_bracket
  refine ⟨?_, opens, ?_⟩
  · simp only [List.mem_append, not_or]
    exact ⟨fun member => absurd (before ',' member) (by decide),
      fun member => absurd (brackets ',' member) (by decide), spaced.not_mem_comma⟩
  · rw [spaced_iff, split, trim, trimBy_append_left blank] at spaced
    exact spaced_iff.2 spaced

/-- The other side, read backwards. -/
theorem Spaced.reverse_side (spaced : Spaced x s) (brackets : Brackets o) (after : Blanks w) :
    ',' ∉ s ++ (o ++ w) ∧ opening (s ++ (o ++ w)).reverse = o.reverse ∧
      Spaced x (opened (s ++ (o ++ w)).reverse).reverse := by
  obtain ⟨opens, k, blank, split⟩ := opened_append (w := w.reverse) (o := o.reverse) (s := s.reverse)
    (fun c member => after c (List.mem_reverse.1 member))
    (fun c member => brackets c (List.mem_reverse.1 member))
    (fun c member => spaced.not_bracket c (List.mem_reverse.1 member))
  have mirrored : w.reverse ++ (o.reverse ++ s.reverse) = (s ++ (o ++ w)).reverse := by simp
  rw [mirrored] at opens split
  refine ⟨?_, opens, ?_⟩
  · simp only [List.mem_append, not_or]
    exact ⟨spaced.not_mem_comma, fun member => absurd (brackets ',' member) (by decide),
      fun member => absurd (after ',' member) (by decide)⟩
  · rw [spaced_iff, ← List.reverse_reverse s, split, List.reverse_append, trim,
      trimBy_append_right fun c member => blank c (List.mem_reverse.1 member)] at spaced
    exact spaced_iff.2 spaced

/-- A framed pair of numbers, side by side. -/
theorem Framed.sides (opens : Brackets o) (closes : Brackets c) (frame : Framed o c x0 x1 text) :
    ∃ l r, text = l ++ ',' :: r ∧ (',' ∉ l ∧ opening l = o ∧ Spaced x0 (opened l)) ∧
      ',' ∉ r ∧ opening r.reverse = c.reverse ∧ Spaced x1 (opened r.reverse).reverse := by
  obtain @⟨w, l, r, w', before, left, right, after⟩ := frame
  exact ⟨w ++ (o ++ l), r ++ (c ++ w'), by simp, left.side before opens,
    right.reverse_side closes after⟩

/-- The brackets of a framed pair are determined by the text. -/
theorem Framed.unique {o' c' : List Char} {y0 y1 : Float} (opens : Brackets o)
    (closes : Brackets c) (opens' : Brackets o') (closes' : Brackets c')
    (frame : Framed o c x0 x1 text) (frame' : Framed o' c' y0 y1 text) : o = o' ∧ c = c' := by
  obtain ⟨l, r, split, ⟨-, left, -⟩, -, right, -⟩ := frame.sides opens closes
  obtain ⟨l', r', split', ⟨comma, left', -⟩, comma', right', -⟩ := frame'.sides opens' closes'
  obtain ⟨rfl, rfl⟩ := Lexeme.append_cons_inj_of_not_mem (split.symm.trans split') comma comma'
  exact ⟨left.symm.trans left', List.reverse_inj.1 (right.symm.trans right')⟩

end

/-! ## Two numbers -/

theorem splitCommas_eq_splitOn (s : List Char) : splitCommas s = s.splitOn ',' := by
  induction s with
  | nil => rfl
  | cons c s ih =>
      rw [List.splitOn_cons_eq_if_modifyHead, splitCommas, ih]
      by_cases comma : c = ','
      · simp [comma]
      · rw [if_neg comma, if_neg (by simpa using comma)]
        cases parts : s.splitOn ',' with
        | nil => exact absurd parts (List.splitOn_ne_nil ',' s)
        | cons part parts => rfl

theorem splitCommas_pair {l r : List Char} (left : ',' ∉ l) (right : ',' ∉ r) :
    splitCommas (l ++ ',' :: r) = [l, r] := by
  rw [splitCommas_eq_splitOn, List.splitOn_append_cons_self_of_not_mem left,
    List.splitOn_eq_singleton right]

theorem eq_of_splitCommas {s l r : List Char} (split : splitCommas s = [l, r]) :
    s = l ++ ',' :: r := by
  have joined : [','].intercalate (s.splitOn ',') = s := List.intercalate_splitOn ','
  rw [← splitCommas_eq_splitOn, split] at joined
  simpa [List.intercalate] using joined.symm

/-- The two numbers of a text. -/
def numbers? (text : List Char) : Option (Float × Float) :=
  (ends? text).bind fun (a, b) =>
    (Numeral.read? a).bind fun x0 => (Numeral.read? b).map fun x1 => (x0, x1)

theorem ends?_eq_some_iff {text a b : List Char} : ends? text = some (a, b) ↔
    ∃ l r, splitCommas (trimBy isBracket (trim text)) = [l, r] ∧ trim l = a ∧ trim r = b ∧
      a ≠ [] ∧ b ≠ [] := by
  unfold ends?
  rcases splitCommas (trimBy isBracket (trim text)) with _ | ⟨l, _ | ⟨r, _ | ⟨q, rest⟩⟩⟩
  · simp
  · simp
  · simp only [List.map_cons, List.map_nil, Bool.or_eq_true, List.isEmpty_iff, List.cons.injEq,
      and_true, Option.ite_none_left_eq_some, not_or, Option.some.injEq, Prod.mk.injEq]
    constructor
    · rintro ⟨⟨left, right⟩, rfl, rfl⟩
      exact ⟨l, r, ⟨rfl, rfl⟩, rfl, rfl, left, right⟩
    · rintro ⟨_, _, ⟨rfl, rfl⟩, rfl, rfl, left, right⟩
      exact ⟨⟨left, right⟩, rfl, rfl⟩
  · simp

theorem ne_nil_of_read {s : List Char} {x : Float} (read : Numeral.read? s = some x) : s ≠ [] := by
  rintro rfl
  exact nomatch read

variable {x0 x1 : Float} {text : List Char}

theorem bracketed_of_numbers? (read : numbers? text = some (x0, x1)) : Bracketed x0 x1 text := by
  obtain ⟨⟨a, b⟩, ends, read⟩ := Option.bind_eq_some_iff.1 read
  obtain ⟨x0, first, read⟩ := Option.bind_eq_some_iff.1 read
  obtain ⟨x1, second, same⟩ := Option.map_eq_some_iff.1 read
  obtain ⟨rfl, rfl⟩ := Prod.mk.inj same
  obtain ⟨l, r, parts, rfl, rfl, -, -⟩ := ends?_eq_some_iff.1 ends
  obtain ⟨w, w', outer, before, after⟩ := trimBy_split isBlank text
  obtain ⟨o, c, inner, opens, closes⟩ := trimBy_split isBracket (trim text)
  have frame : text = w ++ (o ++ (l ++ ',' :: (r ++ (c ++ w')))) := by
    have core : trim text = o ++ ((l ++ ',' :: r) ++ c) := by rw [← eq_of_splitCommas parts, ← inner]
    rw [outer, show trimBy isBlank text = trim text from rfl, core]
    simp
  exact ⟨o, c, opens, closes,
    frame ▸ .intro before (spaced_iff.2 first) (spaced_iff.2 second) after⟩

theorem numbers?_of_bracketed (frame : Bracketed x0 x1 text) : numbers? text = some (x0, x1) := by
  obtain ⟨o, c, opens, closes, frame⟩ := frame
  obtain ⟨l, r, rfl, ⟨-, -, left⟩, -, -, right⟩ := frame.sides opens closes
  have core : trimBy isBracket (trim (l ++ ',' :: r)) =
      opened l ++ ',' :: (opened r.reverse).reverse := by
    rw [trim, trimBy_append_cons (by decide), trimBy_append_cons (by decide), List.reverse_reverse]
    rfl
  have first := spaced_iff.1 left
  have second := spaced_iff.1 right
  have parts := splitCommas_pair left.not_mem_comma right.not_mem_comma
  have ends := ends?_eq_some_iff.2 ⟨_, _, core ▸ parts, rfl, rfl, ne_nil_of_read first,
    ne_nil_of_read second⟩
  simp only [numbers?, ends, first, second, Option.bind_some, Option.map_some]

/-- The texts that give two numbers. -/
theorem numbers?_eq_some_iff : numbers? text = some (x0, x1) ↔ Bracketed x0 x1 text :=
  ⟨bracketed_of_numbers?, numbers?_of_bracketed⟩

/-! ## Outcomes -/

/-- What a text gives, by its numbers. -/
theorem parse_eq (text : String) : parse text = match numbers? text.toList with
    | none => .error (.malformed text)
    | some (x0, x1) =>
      if h0 : x0.isFinite then
        if h1 : x1.isFinite then .ok ⟨x0, x1, h0, h1⟩
        else .error (.unusable (.notFinite "x1" (.float x1)))
      else .error (.unusable (.notFinite "x0" (.float x0))) := by
  unfold parse numbers?
  cases ends? text.toList with
  | none => rfl
  | some ends =>
      obtain ⟨a, b⟩ := ends
      cases first : Numeral.read? a with
      | none => simp [first]; rfl
      | some x0 =>
          cases second : Numeral.read? b with
          | none => simp [first, second]; rfl
          | some x1 =>
              by_cases h0 : x0.isFinite = true
              · by_cases h1 : x1.isFinite = true
                · simp [first, second, finiteEnd, h0, h1, bind, Except.bind]
                  rfl
                · simp [first, second, finiteEnd, h0, h1, bind, Except.bind]
              · simp [first, second, finiteEnd, h0, bind, Except.bind]

/-- The texts that give bounds. -/
theorem parse_eq_ok_iff {text : String} {b : Bounds} :
    parse text = .ok b ↔ Bracketed b.x0 b.x1 text.toList := by
  rw [parse_eq, ← numbers?_eq_some_iff]
  cases numbers? text.toList with
  | none => simp
  | some ends =>
      obtain ⟨x0, x1⟩ := ends
      simp only [Option.some.injEq, Prod.mk.injEq]
      constructor
      · intro read
        split at read
        · split at read
          · rw [← Except.ok.inj read]
            exact ⟨rfl, rfl⟩
          · simp at read
        · simp at read
      · rintro ⟨rfl, rfl⟩
        rw [dif_pos b.x0_finite, dif_pos b.x1_finite]

/-- Why a text gives no bounds: it is no pair of numbers, or one of them is not finite. -/
theorem parse_error {text : String} {e : BoundsError} (failed : parse text = .error e) :
    (e = .malformed text ∧ ∀ x0 x1, ¬ Bracketed x0 x1 text.toList) ∨
      ∃ x0 x1, Bracketed x0 x1 text.toList ∧
        ((x0.isFinite = false ∧ e = .unusable (.notFinite "x0" (.float x0))) ∨
          (x0.isFinite = true ∧ x1.isFinite = false ∧
            e = .unusable (.notFinite "x1" (.float x1)))) := by
  rw [parse_eq] at failed
  cases read : numbers? text.toList with
  | none =>
      rw [read] at failed
      refine .inl ⟨(Except.error.inj failed).symm, fun x0 x1 frame => ?_⟩
      rw [numbers?_eq_some_iff.2 frame] at read
      exact nomatch read
  | some ends =>
      obtain ⟨x0, x1⟩ := ends
      rw [read] at failed
      refine .inr ⟨x0, x1, numbers?_eq_some_iff.1 read, ?_⟩
      simp only at failed
      split at failed
      · next h0 =>
        split at failed
        · simp at failed
        · next h1 => exact .inr ⟨h0, by simpa using h1, (Except.error.inj failed).symm⟩
      · next h0 => exact .inl ⟨by simpa using h0, (Except.error.inj failed).symm⟩

theorem brackets_nil : Brackets [] := by simp [Brackets]

theorem brackets_pair : Brackets ['['] ∧ Brackets [']'] := by
  constructor <;> intro c member <;> rw [List.mem_singleton.1 member] <;> decide

/-- Which brackets make a framed pair a documented one. -/
theorem Framed.documented_iff {o c text : List Char} {x0 x1 : Float} (opens : Brackets o)
    (closes : Brackets c) (frame : Framed o c x0 x1 text) :
    Documented x0 x1 text ↔ (o = [] ∧ c = []) ∨ (o = ['['] ∧ c = [']']) := by
  constructor
  · rintro (bare | pair)
    · exact .inl (frame.unique opens closes brackets_nil brackets_nil bare)
    · exact .inr (frame.unique opens closes brackets_pair.1 brackets_pair.2 pair)
  · rintro (⟨rfl, rfl⟩ | ⟨rfl, rfl⟩)
    · exact .inl frame
    · exact .inr frame

/-- **The brackets of bounds are taken off each end for itself.** A text gives bounds exactly if it is
two finite numbers with a comma between them and any brackets at either end; it is a documented text
exactly if these brackets are none, or `[` in front and `]` behind. Every other text is refused, as
no pair of numbers or for the first number that is not finite. -/
theorem parse_framed (text : String) :
    (∀ b, parse text = .ok b ↔ Bracketed b.x0 b.x1 text.toList) ∧
      (∀ o c x0 x1, Brackets o → Brackets c → Framed o c x0 x1 text.toList →
        (Documented x0 x1 text.toList ↔ (o = [] ∧ c = []) ∨ (o = ['['] ∧ c = [']']))) ∧
      (∀ e, parse text = .error e →
        (e = .malformed text ∧ ∀ x0 x1, ¬ Bracketed x0 x1 text.toList) ∨
          ∃ x0 x1, Bracketed x0 x1 text.toList ∧
            ((x0.isFinite = false ∧ e = .unusable (.notFinite "x0" (.float x0))) ∨
              (x0.isFinite = true ∧ x1.isFinite = false ∧
                e = .unusable (.notFinite "x1" (.float x1))))) :=
  ⟨fun _ => parse_eq_ok_iff, fun _ _ _ _ opens closes frame => frame.documented_iff opens closes,
    fun _ => parse_error⟩

/-- A text with an opening bracket and no closing one gives bounds. -/
theorem parse_unclosed :
    (∃ b, parse "[0,1" = .ok b) ∧ ∀ x0 x1, ¬ Documented x0 x1 "[0,1".toList := by
  have accepted : (parse "[0,1").toBool = true := by decide +kernel
  have digits : (Numeral.read? ['0']).isSome = true ∧ (Numeral.read? ['1']).isSome = true := by
    decide +kernel
  obtain ⟨z, zero⟩ := Option.isSome_iff_exists.1 digits.1
  obtain ⟨u, one⟩ := Option.isSome_iff_exists.1 digits.2
  have none : Blanks [] := by simp [Blanks]
  have frame : Framed ['['] [] z u "[0,1".toList :=
    .intro none (.intro none zero none) (.intro none one none) none
  constructor
  · cases read : parse "[0,1" with
    | ok b => exact ⟨b, rfl⟩
    | error e => simp [read, Except.toBool] at accepted
  · rintro x0 x1 (bare | pair)
    · exact absurd (frame.unique brackets_pair.1 brackets_nil brackets_nil brackets_nil bare).1
        (by simp)
    · exact absurd
        (frame.unique brackets_pair.1 brackets_nil brackets_pair.1 brackets_pair.2 pair).2 (by simp)

end Quadrature.Bounds
