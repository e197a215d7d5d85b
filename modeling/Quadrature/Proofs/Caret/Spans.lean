/-
# Quadrature.Proofs.Caret.Spans -- where the operands of a power are found

The base that is found before an offset and the exponent that is found behind it are operands, in
any text and at any offset. Both begin and end with ink, so a span holds no blank at its ends:
trimming it changes nothing. Nor does a base begin, or an exponent end, inside a call of a name of
letters.

* `Joint`: a place that is not inside a call of a name of letters;
* `findBase_split`, `findExponent_split`: what is found are operands between joints;
* `expandAt_eq_slices`: the call is made of the slices as they are.
-/
import Quadrature.Proofs.Caret.Shapes

namespace Quadrature.Caret

set_option autoImplicit false

open Quadrature.Text
open Quadrature.Lexeme

/-! ## Joints -/

/-- No call of a name of letters is cut between the two texts. -/
def Joint (l r : List Char) : Prop :=
  ∀ n u v, (∀ x ∈ n, isNameStart x = true) → n ++ ['('] = u ++ v → u ≠ [] → u <:+ l → v <+: r →
    v = []

section Joints

variable {l r u v : List Char}

theorem Joint.of_append {m : List Char} (joint : Joint (l ++ m) r) : Joint m r := by
  intro n u v all cut some ends begins
  exact joint n u v all cut some (ends.trans (List.suffix_append l m)) begins

/-- Where a call is cut, letters stand before the cut, and letters and the parenthesis behind it. -/
theorem call_cut {n : List Char} (all : ∀ x ∈ n, isNameStart x = true) (cut : n ++ ['('] = u ++ v)
    (some : v ≠ []) : ∃ v', v = v' ++ ['('] ∧ (∀ x ∈ u, isNameStart x = true) ∧
      ∀ x ∈ v', isNameStart x = true := by
  obtain ⟨v', c', rfl⟩ := exists_concat some
  rw [← List.append_assoc] at cut
  obtain ⟨rfl, last⟩ := List.append_inj' cut rfl
  obtain rfl : '(' = c' := by simpa using last
  exact ⟨v', rfl, fun x member => all x (by simp [member]),
    fun x member => all x (by simp [member])⟩

/-- Nothing is cut before what begins with no letter and no parenthesis. -/
theorem joint_of_head (other : ∀ x ∈ r.head?, isNameStart x = false ∧ x ≠ '(') : Joint l r := by
  intro n u v all cut _ _ begins
  by_contra some
  obtain ⟨v', rfl, -, letters⟩ := call_cut all cut some
  obtain ⟨r, rfl⟩ := begins
  cases v' with
  | nil => exact (other '(' rfl).2 rfl
  | cons x v' => simp [letters x (by simp)] at other

/-- Nothing is cut behind what ends with no letter. -/
theorem joint_of_last (other : ∀ x ∈ l.getLast?, isNameStart x = false) : Joint l r := by
  intro n u v all cut some' ends begins
  by_contra some
  obtain ⟨-, -, letters, -⟩ := call_cut all cut some
  obtain ⟨l, rfl⟩ := ends
  obtain ⟨u, x, rfl⟩ := exists_concat some'
  simp [letters x (by simp)] at other

/-- Letters are a name. -/
theorem isName_of_letters (letters : ∀ x ∈ u, isNameStart x = true) (some : u ≠ []) :
    isName u = true := by
  obtain ⟨c, u, rfl⟩ := List.exists_cons_of_ne_nil some
  exact isName_iff.2 ⟨c, u, rfl, letters c (by simp), fun x member =>
    isWordChar_of_isNameChar (nameStart_separate (letters x (by simp [member]))).2.2.1⟩

/-- Nothing is cut before the longest name that ends somewhere. -/
theorem joint_of_name {n : List Char} (name : isName n = true)
    (longest : ∀ z, z ≠ [] → z <:+ l → isName (z ++ n) = false) : Joint l (n ++ r) := by
  intro w u v all cut some' ends begins
  by_contra some
  obtain ⟨-, -, letters, -⟩ := call_cut all cut some
  obtain ⟨c', n', rfl, start', inside⟩ := isName_iff.1 name
  obtain ⟨c, u, rfl⟩ := List.exists_cons_of_ne_nil some'
  have longer : isName (c :: u ++ c' :: n') = true := by
    refine isName_iff.2 ⟨c, u ++ c' :: n', rfl, letters c (by simp), fun x member => ?_⟩
    rcases List.mem_append.1 member with first | last
    · exact isWordChar_of_isName (isName_of_letters letters some') x (by simp [first])
    · exact isWordChar_of_isName name x last
  rw [longest (c :: u) some' ends] at longer
  simp at longer

end Joints

/-! ## Where operands are found -/

section Spans

variable {x y : List Char} {start stop : Nat}

theorem suffixStart_split {p : List Char → Bool} {s : List Char} {offset n : Nat}
    (found : suffixStart p offset s = some n) : ∃ a b, s = a ++ b ∧ n = offset + a.length ∧
      p b = true ∧ ∀ z, z ≠ [] → z <:+ a → p (z ++ b) = false := by
  induction s generalizing offset with
  | nil => simp [suffixStart] at found
  | cons c s ih =>
      rw [suffixStart] at found
      split at found
      · next holds =>
          obtain rfl : offset = n := Option.some.inj found
          refine ⟨[], c :: s, rfl, rfl, holds, fun z some suffix => ?_⟩
          exact absurd (List.suffix_nil.1 suffix) some
      · next none =>
          obtain ⟨a, b, rfl, rfl, holds, longest⟩ := ih found
          refine ⟨c :: a, b, rfl, by simp only [List.length_cons]; omega, holds,
            fun z some suffix => ?_⟩
          rcases List.suffix_cons_iff.1 suffix with rfl | shorter
          · simpa using none
          · exact longest z some shorter

/-- The longest start of a text whose characters `p` holds of. -/
theorem exists_leading (p : Char → Bool) (s : List Char) : ∃ g r, s = g ++ r ∧
    (∀ c ∈ g, p c = true) ∧ ∀ c ∈ r.head?, p c = false :=
  ⟨s.takeWhile p, s.dropWhile p, List.takeWhile_append_dropWhile.symm,
    fun c member => List.all_eq_true.1 List.all_takeWhile c member,
    Lexeme.refused_head?_dropWhile p s⟩

/-- The longest end of a text whose characters `p` holds of. -/
theorem exists_trailing (p : Char → Bool) (s : List Char) : ∃ t g, s = t ++ g ∧
    (∀ c ∈ g, p c = true) ∧ ∀ c ∈ t.getLast?, p c = false := by
  refine ⟨(s.reverse.dropWhile p).reverse, (s.reverse.takeWhile p).reverse, ?_, fun c member => ?_,
    fun c last => ?_⟩
  · rw [← List.reverse_append, List.takeWhile_append_dropWhile, List.reverse_reverse]
  · exact List.all_eq_true.1 List.all_takeWhile c (List.mem_reverse.1 member)
  · rw [List.getLast?_reverse] at last
    exact Lexeme.refused_head?_dropWhile p _ c last

/-- There is no base behind nothing but blanks. -/
theorem findBase_blank {g r : List Char} (blank : ∀ c ∈ g, isBlank c = true) :
    findBase (g ++ r) g.length = none := by
  have stop : lengthToLastInk g = 0 := lengthToLastInk_append (s := []) blank (by simp)
  unfold findBase
  simp [stop, suffixStart]

theorem eq_false_of_suffixStart {p : List Char → Bool} {s : List Char} {offset : Nat}
    (none : suffixStart p offset s = none) : ∀ z, z ≠ [] → z <:+ s → p z = false := by
  intro z some suffix
  induction s generalizing offset with
  | nil => exact absurd (List.suffix_nil.1 suffix) some
  | cons c s ih =>
      rw [suffixStart] at none
      split at none
      · simp at none
      · next refused =>
          rcases List.suffix_cons_iff.1 suffix with rfl | shorter
          · simpa using refused
          · exact ih none shorter

/-- Nothing is cut before a parenthesis that no name is before. -/
theorem joint_of_opening {t g r : List Char} (blank : ∀ c ∈ g, isBlank c = true)
    (none : ∀ z, z ≠ [] → z <:+ t → isName z = false) : Joint (t ++ g) ('(' :: r) := by
  intro n u v all cut some' ends begins
  by_contra some
  obtain ⟨v', rfl, letters, letters'⟩ := call_cut all cut some
  have name := isName_of_letters letters some'
  obtain ⟨u, x, rfl⟩ := exists_concat some'
  have ink : isBlank x = false := (nameStart_separate (letters x (by simp))).1
  obtain ⟨rfl, suffix⟩ := suffix_of_ink blank ink ends
  rw [none _ (by simp) suffix] at name
  simp at name

/-- A bracket before a caret is an operand behind a joint, with the name before it if there is one. -/
theorem bracket_split {s r : List Char} (found : (matchingOpen (s ++ ')' :: r) s.length).map
    (fun opening => ((suffixStart isName 0 ((s ++ ')' :: r).take
      (lengthToLastInk ((s ++ ')' :: r).take opening)))).getD opening, s.length + 1)) =
        some (start, stop)) :
    ∃ a b, s ++ [')'] = a ++ b ∧ start = a.length ∧ stop = (a ++ b).length ∧ Operand b ∧
      ∀ r, Joint a (b ++ r) := by
  obtain ⟨n, opened, pair⟩ := Option.map_eq_some_iff.1 found
  obtain ⟨rfl, rfl⟩ := Prod.mk.inj pair
  obtain ⟨a, b, rfl, rfl, level⟩ := matchingOpen_level opened
  obtain ⟨t, g, rfl, blank, ink⟩ := exists_trailing isBlank a
  have before : (t ++ g ++ '(' :: b ++ ')' :: r).take (t ++ g).length = t ++ g := by
    rw [List.append_assoc, List.take_left]
  have inked : (t ++ g ++ '(' :: b ++ ')' :: r).take t.length = t := by
    rw [List.append_assoc, List.append_assoc, List.take_left]
  rw [before, lengthToLastInk_append blank ink, inked]
  cases named : suffixStart isName 0 t with
  | none =>
      refine ⟨t ++ g, '(' :: (b ++ [')']), by simp, rfl, by simp; omega, .group level,
        fun r => ?_⟩
      exact joint_of_opening blank (eq_false_of_suffixStart named)
  | some n =>
      obtain ⟨a, n, rfl, rfl, name, longest⟩ := suffixStart_split named
      refine ⟨a, n ++ (g ++ '(' :: (b ++ [')'])), by simp, by simp, by simp; omega,
        .call name blank level, fun r => ?_⟩
      have joint : Joint a (n ++ (g ++ '(' :: (b ++ [')']) ++ r)) := joint_of_name name longest
      simpa using joint

/-- A number or a name before a caret is an operand behind a joint. -/
theorem word_split {s : List Char}
    (found : (suffixStart (fun s => isNumber s || isName s) 0 s).map (·, s.length) =
      some (start, stop)) :
    ∃ a b, s = a ++ b ∧ start = a.length ∧ stop = (a ++ b).length ∧ Operand b ∧
      ∀ r, Joint a (b ++ r) := by
  obtain ⟨n, begun, pair⟩ := Option.map_eq_some_iff.1 found
  obtain ⟨rfl, rfl⟩ := Prod.mk.inj pair
  obtain ⟨a, b, rfl, rfl, word, longest⟩ := suffixStart_split begun
  rcases Bool.or_eq_true_iff.1 word with number | name
  · refine ⟨a, b, rfl, by simp, rfl, .number (isNumber_iff.1 number), fun r => ?_⟩
    obtain ⟨x, w, rfl, numeric⟩ := (isNumber_iff.1 number).head
    apply joint_of_head
    intro x first
    obtain rfl : _ = x := by simpa using first
    refine ⟨(numeric_separate numeric).2.1, ?_⟩
    rintro rfl
    exact absurd (numeric_separate numeric).2.2 (by decide)
  · refine ⟨a, b, rfl, by simp, rfl, .name name, fun r => ?_⟩
    exact joint_of_name name fun z some suffix =>
      (Bool.or_eq_false_iff.1 (longest z some suffix)).2

/-- The base of a power is an operand between two joints. -/
theorem findBase_split (found : findBase (x ++ y) x.length = some (start, stop)) :
    ∃ a b g, x = a ++ b ++ g ∧ start = a.length ∧ stop = (a ++ b).length ∧
      (∀ c ∈ g, isBlank c = true) ∧ Operand b ∧ ∀ r, Joint a (b ++ r) := by
  obtain ⟨s, g, rfl, blank, ink⟩ := exists_trailing isBlank x
  rcases List.eq_nil_or_concat s with rfl | ⟨s, c, rfl⟩
  · rw [List.nil_append, findBase_blank blank] at found
    simp at found
  rw [List.concat_eq_append] at ink found ⊢
  have inked : isBlank c = false := ink c (by simp)
  have same : s ++ [c] ++ g ++ y = s ++ c :: (g ++ y) := by simp
  have length : (s ++ [c] ++ g).length = s.length + 1 + g.length := by
    simp only [List.length_append, List.length_singleton]
  rw [same, length, findBase_eq blank inked] at found
  obtain ⟨a, b, split, rfl, rfl, operand, joint⟩ : ∃ a b, s ++ [c] = a ++ b ∧ start = a.length ∧
      stop = (a ++ b).length ∧ Operand b ∧ ∀ r, Joint a (b ++ r) := by
    split at found
    · next closing =>
        subst closing
        exact bracket_split found
    · exact word_split (by simpa using found)
  exact ⟨a, b, g, by rw [split], rfl, rfl, blank, operand, joint⟩

/-- Nothing is cut behind a parenthesis that closes. -/
theorem joint_of_closing (a c : List Char) : Joint (a ++ [')']) c := by
  apply joint_of_last
  intro x last
  obtain rfl : ')' = x := by simpa using last
  decide

/-- A name behind a caret is an operand that ends at a joint, with the bracket behind it if there is
one: the first ink behind the name tells. -/
theorem name_operand_split {a n r : List Char} {c : Char} (start : isNameStart c = true)
    (inside : ∀ x ∈ n, isWordChar x = true) (stops : ∀ x ∈ r.head?, isWordChar x = false)
    (found : operandStop (a ++ (c :: n ++ r)) a.length = some stop) :
    ∃ o c', c :: n ++ r = o ++ c' ∧ stop = (a ++ o).length ∧ Operand o ∧ Joint (a ++ o) c' := by
  have name : isName (c :: n) = true := isName_iff.2 ⟨c, n, rfl, start, inside⟩
  rw [operandStop_name start inside stops] at found
  obtain ⟨g, r, rfl, blank, ink⟩ := exists_leading isBlank r
  have whole : a ++ (c :: n ++ (g ++ r)) = (a ++ c :: n) ++ (g ++ r) := by simp
  have behind : a.length + (n.length + 1) = (a ++ c :: n).length := by simp
  rw [whole, behind, getElem?_skipBlanks blank ink, skipBlanks_append blank ink] at found
  split at found
  · next called =>
      obtain ⟨r, rfl⟩ := List.head?_eq_some_iff.1 called
      obtain ⟨k, closed, rfl⟩ := Option.map_eq_some_iff.1 found
      rw [← List.length_append, ← List.append_assoc] at closed
      obtain ⟨s, c', rfl, rfl, level⟩ := matchingClose_level closed
      refine ⟨c :: n ++ (g ++ '(' :: (s ++ [')'])), c', by simp, by simp; omega,
        .call name blank level, ?_⟩
      have last : a ++ (c :: n ++ (g ++ '(' :: (s ++ [')']))) =
          (a ++ (c :: n ++ (g ++ '(' :: s))) ++ [')'] := by simp
      rw [last]
      exact joint_of_closing _ c'
  · next bare =>
      obtain rfl := Option.some.inj found
      refine ⟨c :: n, g ++ r, rfl, rfl, .name name, joint_of_head fun x first => ⟨?_, ?_⟩⟩
      · apply Bool.eq_false_iff.2
        intro letter
        have inside := isWordChar_of_isNameChar (nameStart_separate letter).2.2.1
        rw [stops x first] at inside
        simp at inside
      · rintro rfl
        cases g with
        | nil => exact bare first
        | cons b g =>
            obtain rfl : b = '(' := by simpa using first
            exact absurd (blank '(' (by simp)) (by decide)

/-- What is found behind a caret is an operand that ends at a joint. -/
theorem operandStop_split {a r : List Char} (found : operandStop (a ++ r) a.length = some stop) :
    ∃ o c, r = o ++ c ∧ stop = (a ++ o).length ∧ Operand o ∧ Joint (a ++ o) c := by
  have counted := found
  unfold operandStop at counted
  dsimp only at counted
  rw [List.drop_left] at counted
  split at counted
  · next first =>
      obtain ⟨r, rfl⟩ := List.head?_eq_some_iff.1 first
      obtain ⟨n, closed, rfl⟩ := Option.map_eq_some_iff.1 counted
      obtain ⟨s, c, rfl, rfl, level⟩ := matchingClose_level closed
      refine ⟨'(' :: (s ++ [')']), c, by simp, by simp; omega, .group level, ?_⟩
      rw [← List.cons_append, ← List.append_assoc]
      exact joint_of_closing _ c
  · cases counted
  · next none some =>
      obtain ⟨c, n, r, rfl, -, start, inside, stops⟩ := name_split some
      exact name_operand_split start inside stops found
  · next some _ =>
      obtain ⟨w, r, rfl, length, -, before⟩ := before_split some
      rw [← length] at counted
      obtain rfl := Option.some.inj counted
      have number : Before w [] := Before.take (show Before w ([] ++ r) from before)
      refine ⟨w, r, rfl, by simp, .number number, joint_of_last fun x last => ?_⟩
      obtain ⟨c, w', rfl, -⟩ := before.head
      rw [List.getLast?_append_of_ne_nil _ (by simp)] at last
      exact (numeric_separate (before.last x last)).2.1

/-- There is no exponent where the search begins behind the end of the text. -/
theorem findExponent_of_end {text : List Char} {caret : Nat}
    (ends : text.length ≤ skipBlanks text (caret + 1)) : findExponent text caret = none := by
  have none : text[skipBlanks text (caret + 1)]? = Option.none := List.getElem?_eq_none ends
  have stop : operandStop text (skipBlanks text (caret + 1)) = Option.none := by
    unfold operandStop
    rw [List.drop_eq_nil_of_le ends]
    rfl
  unfold findExponent
  simp only [none, reduceCtorEq, decide_false, Bool.or_self, Bool.false_eq_true, if_false, stop,
    Option.map_none]

/-- There is no exponent before nothing but blanks. -/
theorem findExponent_blank {g : List Char} {k : Char} (blank : ∀ c ∈ g, isBlank c = true) :
    findExponent (x ++ k :: g) x.length = none := by
  have skipped := skipBlanks_append (a := x ++ [k]) (r := []) blank (by simp)
  refine findExponent_of_end (Nat.le_of_eq ?_)
  simpa [Nat.add_assoc, Nat.add_comm, Nat.add_left_comm] using skipped.symm

/-- The exponent of a power is an operand, perhaps behind a sign, and ends at a joint. -/
theorem findExponent_split {k : Char}
    (found : findExponent (x ++ k :: y) x.length = some (start, stop)) :
    ∃ g e c, y = g ++ (e ++ c) ∧ start = (x ++ k :: g).length ∧
      stop = (x ++ k :: g ++ e).length ∧ (∀ c ∈ g, isBlank c = true) ∧ SignedOperand e ∧
      Joint e c := by
  obtain ⟨g, r, rfl, blank, ink⟩ := exists_leading isBlank y
  cases r with
  | nil =>
      rw [List.append_nil, findExponent_blank blank] at found
      simp at found
  | cons d r =>
      rw [findExponent_eq blank (ink d rfl)] at found
      obtain ⟨n, stopped, pair⟩ := Option.map_eq_some_iff.1 found
      obtain ⟨rfl, rfl⟩ := Prod.mk.inj pair
      by_cases sign : IsSign d
      · -- The operand stands behind the sign and the blanks after it.
        obtain ⟨g', r, rfl, blank', ink'⟩ := exists_leading isBlank r
        have text : x ++ k :: (g ++ d :: (g' ++ r)) =
            (x ++ k :: (g ++ [d])) ++ (g' ++ r) := by simp
        have position : skipBlanks (x ++ k :: (g ++ d :: (g' ++ r)))
            (x ++ k :: (g ++ [d])).length = (x ++ k :: (g ++ [d]) ++ g').length := by
          rw [text, skipBlanks_append blank' ink', ← List.length_append]
        rw [if_pos sign, position, text, ← List.append_assoc] at stopped
        obtain ⟨o, c, rfl, rfl, operand, joint⟩ := operandStop_split stopped
        refine ⟨g, d :: (g' ++ o), c, by simp, rfl, by simp, blank,
          .signed sign blank' operand, ?_⟩
        have whole : x ++ k :: (g ++ [d]) ++ g' ++ o = (x ++ k :: g) ++ d :: (g' ++ o) := by simp
        rw [whole] at joint
        exact joint.of_append
      · have text : x ++ k :: (g ++ d :: r) = (x ++ k :: g) ++ d :: r := by simp
        rw [if_neg sign, text] at stopped
        obtain ⟨o, c, rest, rfl, operand, joint⟩ := operandStop_split stopped
        exact ⟨g, o, c, by rw [rest], rfl, rfl, blank, .plain operand, joint.of_append⟩

end Spans

/-! ## Slices -/

theorem findBase_length_take (text : List Char) (caret : Nat) :
    findBase text (text.take caret).length = findBase text caret := by
  unfold findBase
  rw [List.length_take, ← List.take_eq_take_min]

/-- The slice of a base has no blanks at its ends. -/
theorem trim_slice_base {text : List Char} {caret : Nat} {span : Nat × Nat}
    (found : findBase text caret = some span) : trim (slice text span) = slice text span := by
  obtain ⟨start, stop⟩ := span
  rw [← findBase_length_take] at found
  nth_rewrite 1 [← List.take_append_drop caret text] at found
  obtain ⟨a, b, g, before, rfl, rfl, -, operand, -⟩ := findBase_split found
  have cut : slice text (a.length, (a ++ b).length) = b := by
    rw [← List.take_append_drop caret text, before, List.append_assoc, List.append_assoc,
      List.length_append]
    exact slice_append a b _
  rw [cut, (SignedOperand.plain operand).trim_eq]

/-- The slice of an exponent has no blanks at its ends. -/
theorem trim_slice_exponent {text : List Char} {caret : Nat} {span : Nat × Nat}
    (found : findExponent text caret = some span) : trim (slice text span) = slice text span := by
  by_cases inside : caret < text.length
  · obtain ⟨start, stop⟩ := span
    obtain ⟨x, y, split, length⟩ := split_at (List.getElem?_eq_getElem inside)
    generalize text[caret] = k at split
    subst split length
    obtain ⟨g, e, c, rfl, rfl, rfl, -, operand, -⟩ := findExponent_split found
    have cut : slice (x ++ k :: (g ++ (e ++ c))) ((x ++ k :: g).length, (x ++ k :: g ++ e).length) =
        e := by
      have whole : x ++ k :: (g ++ (e ++ c)) = (x ++ k :: g) ++ (e ++ c) := by simp
      have length : (x ++ k :: g ++ e).length = (x ++ k :: g).length + e.length :=
        List.length_append
      rw [whole, length]
      exact slice_append _ e c
    rw [cut, operand.trim_eq]
  · have ends : text.length ≤ skipBlanks text (caret + 1) := by
      unfold skipBlanks
      omega
    rw [findExponent_of_end ends] at found
    cases found

/-- The call is made of the slices as they are: trimming leaves what the search finds. -/
theorem expandAt_eq_slices (text : List Char) (caret : Nat) :
    expandAt text caret = (do
      let base ← findBase text caret
      let exponent ← findExponent text caret
      return text.take base.1 ++ powerCall (slice text base) (slice text exponent)
        ++ text.drop exponent.2) := by
  unfold expandAt
  cases base : findBase text caret with
  | none => rfl
  | some span =>
      cases exponent : findExponent text caret with
      | none => rfl
      | some span' =>
          simp only [Option.bind_eq_bind, Option.bind_some, trim_slice_base base,
            trim_slice_exponent exponent]

end Quadrature.Caret
