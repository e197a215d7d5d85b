/-
# Quadrature.Proofs.Number.Layout -- the text of a decimal has its value

A decimal is written in one of four forms: with zeros in front of its digits, with zeros behind them,
with a point among them, or with an exponent. The zeros at the end of its digits are left out before.
In each form the digits that are written, with the place of the point and the exponent, are a decimal
of the same value.

* `Layout.exists_renders`: the four forms;
* `Layout.exists_text`: the text of a decimal;
* `Numeral.read?_text`: it is read as the double of the decimal that it shows.
-/
import Mathlib
import Quadrature.Proofs.Number.Decimal
import Quadrature.Proofs.Number.Numeral

namespace Quadrature.Number

set_option autoImplicit false

open Quadrature.Text

/-! ## The decimal of a text -/

namespace NumberText

/-- The exponent of a text, as a number. -/
def exponentValue (t : NumberText) : ℤ :=
  match t.exponent with
  | none => 0
  | some (negative, digits) =>
    if negative then -(Nat.ofDigitChars 10 digits 0 : ℤ) else Nat.ofDigitChars 10 digits 0

/-- The decimal that a text shows, without its sign. -/
def decimal (t : NumberText) : Decimal :=
  ⟨Nat.ofDigitChars 10 (t.whole ++ t.fraction) 0, t.exponentValue - t.fraction.length⟩

/-- A number without sign. -/
def plain (whole fraction : List Char) (exponent : Option (Bool × List Char))
    (whole_digits : AllDigits whole) (whole_ne_nil : whole ≠ [])
    (whole_lead : whole.head? = some '0' → whole = ['0']) (fraction_digits : AllDigits fraction)
    (exponent_digits : ∀ e ∈ exponent, e.2 ≠ [] ∧ AllDigits e.2) : NumberText :=
  ⟨false, whole, fraction, exponent, whole_digits, whole_ne_nil, whole_lead, fraction_digits,
    exponent_digits⟩

/-- A number without sign and exponent, but with a fraction. -/
def pointed (whole fraction : List Char) (whole_digits : AllDigits whole) (whole_ne_nil : whole ≠ [])
    (whole_lead : whole.head? = some '0' → whole = ['0']) (fraction_digits : AllDigits fraction) :
    NumberText :=
  plain whole fraction none whole_digits whole_ne_nil whole_lead fraction_digits nofun

theorem text_pointed {whole fraction : List Char} (whole_digits : AllDigits whole)
    (whole_ne_nil : whole ≠ []) (whole_lead : whole.head? = some '0' → whole = ['0'])
    (fraction_digits : AllDigits fraction) (some : fraction ≠ []) :
    (pointed whole fraction whole_digits whole_ne_nil whole_lead fraction_digits).text =
      whole ++ '.' :: fraction := by
  simp [pointed, plain, text, signText, fractionText, exponentText, some]

/-- The value of a text without exponent. -/
theorem value_pointed {whole fraction : List Char} (whole_digits : AllDigits whole)
    (whole_ne_nil : whole ≠ []) (whole_lead : whole.head? = some '0' → whole = ['0'])
    (fraction_digits : AllDigits fraction) :
    (pointed whole fraction whole_digits whole_ne_nil whole_lead fraction_digits).decimal.value =
      Nat.ofDigitChars 10 (whole ++ fraction) 0 * 10 ^ (-(fraction.length : ℤ)) := by
  rw [Decimal.value, decimal, exponentValue]
  simp [pointed, plain]

end NumberText

namespace Layout

variable (layout : Layout)

/-- The exponent of a layout is its mark, a sign and digits. -/
theorem exists_exponentText (e : ℤ) : ∃ digits, digits ≠ [] ∧ AllDigits digits ∧
    Nat.ofDigitChars 10 digits 0 = e.natAbs ∧
      layout.exponentText e = (if decide (e < 0) then '-' else '+') :: digits := by
  refine ⟨_, ?_, (allDigits_zeros (layout.exponentWidth - (Nat.toDigits 10 e.natAbs).length)).append
    (allDigits_toDigits e.natAbs), ?_, ?_⟩
  · simp
  · rw [Nat.ofDigitChars_append, Nat.ofDigitChars_replicate_zero, Nat.mul_zero,
      Nat.ofDigitChars_ten_toDigits]
  · simp [exponentText]

/-- The text is the one that a layout writes for `0.digits · 10 ^ place`: it has no sign, it shows a
fraction or an exponent, and it shows the value. -/
structure Renders (digits : List Char) (place : ℤ) (t : NumberText) : Prop where
  plain : t.negative = false
  pointed : ¬ t.IsWhole
  written : t.text = layout.render digits place
  value : t.decimal.value = Nat.ofDigitChars 10 digits 0 * 10 ^ (place - digits.length)

section Forms

variable {d : Char} {ds : List Char} {place : ℤ}

/-- Digits behind the point, perhaps behind zeros. -/
theorem exists_renders_small (digits : AllDigits (d :: ds))
    (positional : layout.lowest ≤ place - 1 ∧ place - 1 < layout.below) (small : place ≤ 0) :
    ∃ t, layout.Renders (d :: ds) place t := by
  refine ⟨.pointed ['0'] (List.replicate (-place).toNat '0' ++ d :: ds) (allDigits_zeros 1)
    (by simp) (fun _ => rfl) ((allDigits_zeros _).append digits), rfl, ?_, ?_, ?_⟩
  · simp [NumberText.IsWhole, NumberText.pointed, NumberText.plain]
  · rw [NumberText.text_pointed _ _ _ _ (by simp)]
    simp [render, positional, small]
  · have number : Nat.ofDigitChars 10 (['0'] ++ (List.replicate (-place).toNat '0' ++ d :: ds)) 0 =
        Nat.ofDigitChars 10 (d :: ds) 0 := by
      rw [Nat.ofDigitChars_append, Nat.ofDigitChars_append, Nat.ofDigitChars_replicate_zero]
      rfl
    have exponent : -((List.replicate (-place).toNat '0' ++ d :: ds).length : ℤ) =
        place - (d :: ds).length := by
      rw [List.length_append, List.length_replicate]
      push_cast
      omega
    rw [NumberText.value_pointed, number, exponent]

/-- Digits before the point, perhaps before zeros, and one zero behind it. -/
theorem exists_renders_long {k : ℕ} (digits : AllDigits (d :: ds)) (lead : d ≠ '0')
    (positional : layout.lowest ≤ place - 1 ∧ place - 1 < layout.below)
    (above : place.toNat = k + 1) (long : ds.length ≤ k) :
    ∃ t, layout.Renders (d :: ds) place t := by
  have zeros : d :: (ds ++ List.replicate (k - ds.length) '0') =
      (d :: ds) ++ List.replicate (k - ds.length) '0' := rfl
  refine ⟨.pointed (d :: (ds ++ List.replicate (k - ds.length) '0')) ['0']
    (zeros ▸ digits.append (allDigits_zeros _)) (by simp)
    (fun same => absurd (Option.some.inj same) lead) (allDigits_zeros 1), rfl, ?_, ?_, ?_⟩
  · simp [NumberText.IsWhole, NumberText.pointed, NumberText.plain]
  · have large : ¬ place ≤ 0 := by omega
    rw [NumberText.text_pointed _ _ _ _ (by simp)]
    simp [render, positional, large, above, long]
  · have number : Nat.ofDigitChars 10
        (d :: (ds ++ List.replicate (k - ds.length) '0') ++ ['0']) 0 =
          10 ^ (k + 1 - ds.length) * Nat.ofDigitChars 10 (d :: ds) 0 := by
      have behind : d :: (ds ++ List.replicate (k - ds.length) '0') ++ ['0'] =
          (d :: ds) ++ List.replicate (k + 1 - ds.length) '0' := by
        rw [Nat.sub_add_comm long, List.replicate_succ']
        simp
      rw [behind, Nat.ofDigitChars_append, Nat.ofDigitChars_replicate_zero]
    have exponent : place - (d :: ds).length = ((k + 1 - ds.length : ℕ) : ℤ) - 1 := by
      rw [List.length_cons]
      omega
    rw [NumberText.value_pointed, number, exponent, sub_eq_add_neg, zpow_add₀ (by norm_num),
      zpow_natCast, Nat.cast_mul, Nat.cast_pow, ← mul_assoc, mul_comm ((10 : ℕ) ^ _ : ℚ)]
    rfl

/-- A point among the digits. -/
theorem exists_renders_among {k : ℕ} (digits : AllDigits (d :: ds)) (lead : d ≠ '0')
    (positional : layout.lowest ≤ place - 1 ∧ place - 1 < layout.below)
    (above : place.toNat = k + 1) (short : k < ds.length) :
    ∃ t, layout.Renders (d :: ds) place t := by
  have some : ds.drop k ≠ [] := by
    rw [ne_eq, List.drop_eq_nil_iff]
    omega
  have before : AllDigits (d :: ds.take k) :=
    digits.of_subset (List.cons_subset_cons d (List.take_subset _ _))
  have behind : AllDigits (ds.drop k) :=
    digits.of_subset (List.subset_cons_of_subset d (List.drop_subset _ _))
  refine ⟨.pointed (d :: ds.take k) (ds.drop k) before (by simp)
    (fun same => absurd (Option.some.inj same) lead) behind, rfl, ?_, ?_, ?_⟩
  · simp only [NumberText.IsWhole, NumberText.pointed, NumberText.plain]
    exact fun whole => some whole.1
  · have large : ¬ place ≤ 0 := by omega
    rw [NumberText.text_pointed _ _ _ _ some]
    simp [render, positional, large, above, short]
  · have exponent : -((ds.drop k).length : ℤ) = place - (d :: ds).length := by
      rw [List.length_drop, List.length_cons]
      omega
    rw [NumberText.value_pointed, List.cons_append, List.take_append_drop, exponent]

/-- One digit before the point, and an exponent. -/
theorem exists_renders_exponent (digits : AllDigits (d :: ds)) (lead : d ≠ '0')
    (scientific : ¬ (layout.lowest ≤ place - 1 ∧ place - 1 < layout.below)) :
    ∃ t, layout.Renders (d :: ds) place t := by
  obtain ⟨e, some, exponent, number, written⟩ := layout.exists_exponentText (place - 1)
  refine ⟨.plain [d] ds (.some (decide (place - 1 < 0), e)) (digits.of_subset (by simp)) (by simp)
    (fun same => absurd (Option.some.inj same) lead) (digits.of_subset (by simp))
    (by simpa using ⟨some, exponent⟩), rfl, ?_, ?_, ?_⟩
  · simp [NumberText.IsWhole, NumberText.plain]
  · have outside : (layout.lowest ≤ place - 1 && place - 1 < layout.below) = false := by
      simpa using scientific
    unfold render
    dsimp only
    rw [outside, written]
    cases ds <;>
      simp [NumberText.text, NumberText.signText, NumberText.fractionText,
        NumberText.exponentText, NumberText.plain]
  · have exponent : (if place - 1 < 0 then -((place - 1).natAbs : ℤ) else (place - 1).natAbs) =
        place - 1 := by
      split <;> omega
    have shifted : place - 1 - ds.length = place - (d :: ds).length := by
      rw [List.length_cons]
      omega
    simp only [Decimal.value, NumberText.decimal, NumberText.exponentValue, NumberText.plain,
      number, decide_eq_true_eq, exponent, shifted, List.singleton_append]

end Forms

/-- A layout writes a decimal with a fraction or an exponent, and the text shows its value. -/
theorem exists_renders {d : Char} {ds : List Char} (digits : AllDigits (d :: ds)) (lead : d ≠ '0')
    (place : ℤ) : ∃ t, layout.Renders (d :: ds) place t := by
  by_cases positional : layout.lowest ≤ place - 1 ∧ place - 1 < layout.below
  · by_cases small : place ≤ 0
    · exact layout.exists_renders_small digits positional small
    · obtain ⟨k, above⟩ : ∃ k, place.toNat = k + 1 := ⟨place.toNat - 1, by omega⟩
      rcases Nat.lt_or_ge k ds.length with short | long
      · exact layout.exists_renders_among digits lead positional above short
      · exact layout.exists_renders_long digits lead positional above long
  · exact layout.exists_renders_exponent digits lead positional

/-- The digits of a number without the zeros at their end. -/
theorem exists_dropTrailingZeros {n : ℕ} (some : n ≠ 0) : ∃ d ds z,
    dropTrailingZeros (Nat.toDigits 10 n) = d :: ds ∧ AllDigits (d :: ds) ∧ d ≠ '0' ∧
      Nat.toDigits 10 n = d :: ds ++ List.replicate z '0' := by
  obtain ⟨c, cs, digits, zero⟩ := toDigits_head n
  have lead : c ≠ '0' := fun same => some (zero same)
  have split : Nat.toDigits 10 n = dropTrailingZeros (Nat.toDigits 10 n) ++
      (Nat.toDigits 10 n).rtakeWhile (· == '0') := (List.rdropWhile_append_rtakeWhile ..).symm
  have zeros : (Nat.toDigits 10 n).rtakeWhile (· == '0') =
      List.replicate ((Nat.toDigits 10 n).rtakeWhile (· == '0')).length '0' :=
    List.eq_replicate_of_mem fun c member => by simpa using List.mem_rtakeWhile_imp member
  rw [zeros] at split
  cases rest : dropTrailingZeros (Nat.toDigits 10 n) with
  | nil =>
      have all := (List.rdropWhile_eq_nil_iff (p := (· == '0'))).1 rest
      have first := all c (by rw [digits]; simp)
      exact absurd (by simpa using first) lead
  | cons d ds =>
      rw [rest] at split
      have same := split
      rw [digits, List.cons_append] at same
      obtain ⟨rfl, -⟩ := List.cons.inj same
      have kept : AllDigits (c :: ds) := (allDigits_toDigits n).of_subset fun x member => by
        rw [split]
        exact List.mem_append_left _ member
      exact ⟨c, ds, _, rfl, kept, lead, split⟩

/-- The text of a decimal shows a fraction or an exponent, and its value. -/
theorem exists_text (d : Decimal) : ∃ t : NumberText, t.negative = false ∧ ¬ t.IsWhole ∧
    t.text = layout.text d ∧ t.decimal.value = d.value := by
  unfold text
  by_cases zero : d.digits = 0
  · rw [if_pos zero]
    have digit : AllDigits ['0'] := allDigits_zeros 1
    refine ⟨.pointed ['0'] ['0'] digit (by simp) (fun _ => rfl) digit, rfl, ?_, rfl, ?_⟩
    · simp [NumberText.IsWhole, NumberText.pointed, NumberText.plain]
    · have none : Nat.ofDigitChars 10 (['0'] ++ ['0']) 0 = 0 := rfl
      rw [NumberText.value_pointed, none, Decimal.value, zero, Nat.cast_zero, zero_mul, zero_mul]
  · rw [if_neg zero]
    obtain ⟨c, cs, z, kept, digits, lead, split⟩ := exists_dropTrailingZeros zero
    dsimp only
    rw [kept]
    obtain ⟨t, plain, pointed, written, value⟩ := layout.exists_renders digits lead
      ((Nat.toDigits 10 d.digits).length + d.exponent)
    refine ⟨t, plain, pointed, written, value.trans ?_⟩
    -- The zeros that are left out are a power of ten, which the place makes up for.
    have number : d.digits = 10 ^ z * Nat.ofDigitChars 10 (c :: cs) 0 := by
      rw [← Nat.ofDigitChars_ten_toDigits (n := d.digits), split, Nat.ofDigitChars_append,
        Nat.ofDigitChars_replicate_zero]
    have exponent : ((Nat.toDigits 10 d.digits).length : ℤ) + d.exponent - (c :: cs).length =
        z + d.exponent := by
      rw [split, List.length_append, List.length_replicate]
      push_cast
      ring
    rw [exponent, zpow_add₀ (by norm_num), zpow_natCast, Decimal.value]
    conv_rhs => rw [number]
    push_cast
    ring

end Layout

/-! ## Reading -/

namespace Numeral

variable (t : NumberText)

theorem exponent?_exponentText : exponent? t.exponentText = some t.exponentValue := by
  unfold NumberText.exponentText NumberText.exponentValue
  cases raised : t.exponent with
  | none => rfl
  | some e =>
      obtain ⟨negative, digits⟩ := e
      obtain ⟨some, all⟩ := t.exponent_digits _ raised
      have split : Whole.splitSign ((if negative then '-' else '+') :: digits) =
          (negative, digits) := by
        cases negative <;> rfl
      have filled : digits.isEmpty = false := by simpa using some
      simp only [exponent?, split, Whole.ofDigits_map, filled, List.all_eq_true.2 all]
      rfl

/-- What follows the digits of a text is no digit. -/
theorem exponentText_stop : ∀ c ∈ t.exponentText.head?, c.isDigit = false ∧ c ≠ '.' := by
  unfold NumberText.exponentText
  cases t.exponent <;> simp

theorem decimal?_text :
    decimal? (t.whole ++ (t.fractionText ++ t.exponentText)) = some t.decimal := by
  have stop : ∀ c ∈ t.exponentText.head?, c.isDigit = false := fun c first =>
    (exponentText_stop t c first).1
  have filled : (t.whole ++ t.fraction).isEmpty = false := by simp [t.whole_ne_nil]
  have read := exponent?_exponentText t
  unfold decimal? NumberText.fractionText NumberText.decimal
  split
  case isTrue none =>
    rw [none] at filled ⊢
    have bare : t.exponentText.head? ≠ some '.' := fun first => (exponentText_stop t '.' first).2 rfl
    rw [List.nil_append, takeWhile_append_stop t.whole_digits stop,
      dropWhile_append_stop t.whole_digits stop]
    split
    next fraction rest parts =>
    split at parts
    · next point =>
      rw [point] at bare
      exact absurd rfl bare
    · obtain ⟨rfl, rfl⟩ := Prod.mk.inj parts
      simp only [filled, read, Whole.ofDigits_map]
      rfl
  case isFalse some =>
    have point : ∀ c ∈ ('.' :: (t.fraction ++ t.exponentText)).head?, c.isDigit = false := by simp
    rw [List.cons_append, takeWhile_append_stop t.whole_digits point,
      dropWhile_append_stop t.whole_digits point]
    simp only [takeWhile_append_stop t.fraction_digits stop,
      dropWhile_append_stop t.fraction_digits stop, filled, read, Whole.ofDigits_map]
    rfl

theorem digitChar_of_isDigit {c : Char} (digit : c.isDigit = true) :
    Nat.digitChar (c.toNat - '0'.toNat) = c := by
  have range := toNat_of_isDigit digit
  apply Char.toNat_inj.1
  rw [Nat.toNat_digitChar_of_lt_ten (by show c.toNat - 48 < 10; omega)]
  show 48 + (c.toNat - 48) = c.toNat
  omega

theorem asciiDigits_text : asciiDigits t.text = t.text := by
  refine (List.map_congr_left fun c member => ?_).trans (List.map_id _)
  rcases NumberText.mem_text member with digit | other
  · rw [digitValue?_of_isDigit digit]
    exact digitChar_of_isDigit digit
  · obtain rfl | rfl | rfl | rfl : c = '-' ∨ c = '+' ∨ c = '.' ∨ c = 'e' := by simpa using other
    all_goals rfl

/-- A decimal begins with a digit, so it is no word. -/
theorem unsigned?_text : unsigned? (t.whole ++ (t.fractionText ++ t.exponentText)) =
    some t.decimal.toFloat := by
  obtain ⟨c, cs, whole, digit⟩ := t.exists_whole
  have lower : c.toLower = c := by
    have range := toNat_of_isDigit digit
    rw [Char.toLower, dif_neg]
    rintro ⟨capital, -⟩
    have : 0x41 ≤ c.toNat := capital
    omega
  have word {w : String} {d : Char} {ds : List Char} (letters : w.toList = d :: ds)
      (letter : d.isDigit = false) :
      String.ofList ((t.whole ++ (t.fractionText ++ t.exponentText)).map Char.toLower) ≠ w := by
    rintro rfl
    rw [String.toList_ofList, whole, List.cons_append, List.map_cons, lower] at letters
    rw [(List.cons.inj letters).1, letter] at digit
    cases digit
  have infinite := word (w := "inf") rfl rfl
  have infinite' := word (w := "infinity") rfl rfl
  have undefined := word (w := "nan") rfl rfl
  rw [unsigned?, decimal?_text]
  simp only [infinite, infinite', undefined, decide_false, Bool.or_self, Bool.false_eq_true, if_false,
    Option.map_some]

/-- A number as it is written is read as the double of the decimal that it shows. -/
theorem read?_text : read? t.text = some
    (if t.negative then -t.decimal.toFloat else t.decimal.toFloat) := by
  have ordinary : ∀ c ∈ t.text, isWhiteSpace c = false ∧ c ≠ '_' := by
    intro c member
    rcases NumberText.mem_text member with digit | other
    · refine ⟨isWhiteSpace_of_isDigit digit, ?_⟩
      rintro rfl
      exact absurd digit (by decide)
    · obtain rfl | rfl | rfl | rfl : c = '-' ∨ c = '+' ∨ c = '.' ∨ c = 'e' := by simpa using other
      all_goals decide
  have trimmed : trimBy isWhiteSpace t.text = t.text :=
    trimBy_eq_self fun c member => (ordinary c member).1
  have plain : '_' ∉ t.text := fun member => (ordinary '_' member).2 rfl
  have unsigned := unsigned?_text t
  have split : Whole.splitSign t.text =
      (t.negative, t.whole ++ (t.fractionText ++ t.exponentText)) := by
    unfold NumberText.text NumberText.signText
    cases t.negative with
    | true => rfl
    | false => exact splitSign_of_decimal (Option.isSome_of_eq_some (decimal?_text t))
  rw [read?, trimmed, asciiDigits_text, dropUnderscores?, dropUnderscores_eq_self false plain,
    Option.bind_some, plain?, split]
  simp only [unsigned, Option.map_some]

end Numeral

end Quadrature.Number
