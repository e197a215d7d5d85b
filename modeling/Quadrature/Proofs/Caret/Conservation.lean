/-
# Quadrature.Proofs.Caret.Conservation -- expansion moves carets and nothing else

An expanded text is made of bits: characters that stood in the text, each with its offset, and for
each expansion a `pow(`, a comma with a space, and a closing parenthesis. A further expansion cuts the
text at joints, and none of them is inside the `pow(` of an earlier one, so it cuts between bits: those
of the operands and around the power stay, those between the operands go, and these are blanks and one
caret of the text. So with every expansion one caret is gone, and one of each of the others is new.

* `Loop`: expand until nothing is left to expand, with the number of expansions;
* `cut`: where no call is cut, the bits of a text are those of its parts;
* `Conserved.expanded`, `Conserved.loop`: what one expansion does to the bits, and what all of them do;
* `normalize_conserves`: what any expanded text is made of.
-/
import Mathlib.Data.List.Nodup
import Quadrature.Proofs.Caret.FixedPoint

namespace Quadrature.Caret

set_option autoImplicit false

open Quadrature.Text

/-! ## Expanding until nothing is left to expand -/

/-- Expand as long as a power can be expanded, however often that is: the number of expansions, the
text and what becomes of it. -/
inductive Loop : Nat → List Char → List Char → Prop where
  | stop {text : List Char} (none : expandRightmost text = none) : Loop 0 text text
  | step {n : Nat} {text text' result : List Char} (expanded : expandRightmost text = some text')
      (rest : Loop n text' result) : Loop (n + 1) text result

section

variable {n k : Nat} {text result result' : List Char}

/-- Each expansion takes a caret away. -/
theorem Loop.count (loop : Loop n text result) : result.count '^' + n = text.count '^' := by
  induction loop with
  | stop none => rfl
  | step expanded rest ih =>
      have fewer := count_of_expandRightmost expanded
      omega

theorem Loop.unique (loop : Loop n text result) (loop' : Loop k text result') :
    n = k ∧ result = result' := by
  induction loop generalizing k with
  | stop none =>
      cases loop' with
      | stop none' => exact ⟨rfl, rfl⟩
      | step expanded rest => simp [none] at expanded
  | step expanded rest ih =>
      cases loop' with
      | stop none => simp [none] at expanded
      | step expanded' rest' =>
          obtain rfl := Option.some.inj (expanded.symm.trans expanded')
          obtain ⟨rfl, rfl⟩ := ih rest'
          exact ⟨rfl, rfl⟩

/-- With one expansion for each caret the loop has come to its end. -/
theorem exists_loop (enough : text.count '^' ≤ n) : ∃ k, Loop k text (expandTimes n text) := by
  induction n generalizing text with
  | zero =>
      have none := expandRightmost_expandTimes enough
      exact ⟨0, .stop none⟩
  | succ n ih =>
      rw [expandTimes]
      cases expanded : expandRightmost text with
      | none => exact ⟨0, .stop expanded⟩
      | some text' =>
          have one := count_of_expandRightmost expanded
          have fewer : text'.count '^' ≤ n := by omega
          obtain ⟨k, loop⟩ := ih fewer
          exact ⟨k + 1, .step expanded loop⟩

end

/-! ## Bits of an expanded text -/

/-- A part of an expanded text: a character that stood at an offset, or what an expansion wrote. -/
inductive Bit where
  | kept (c : Char) (offset : Nat)
  | call
  | comma
  | space
  | closing
deriving DecidableEq

namespace Bit

/-- The text of a bit. -/
def chars : Bit → List Char
  | kept c _ => [c]
  | call => ['p', 'o', 'w', '(']
  | comma => [',']
  | space => [' ']
  | closing => [')']

/-- The character that was kept, and where it stood. -/
def origin? : Bit → Option (Char × Nat)
  | kept c i => some (c, i)
  | _ => none

/-- The text of bits. -/
def spell (bits : List Bit) : List Char := bits.flatMap chars

/-- The characters that were kept, and where they stood. -/
def origins (bits : List Bit) : List (Char × Nat) := bits.filterMap origin?

@[simp] theorem spell_nil : spell [] = [] := rfl

@[simp] theorem spell_cons (b : Bit) (bits : List Bit) : spell (b :: bits) = b.chars ++ spell bits :=
  rfl

@[simp] theorem origins_cons (b : Bit) (bits : List Bit) :
    origins (b :: bits) = b.origin?.toList ++ origins bits := by
  cases b <;> rfl

@[simp] theorem spell_append (bits bits' : List Bit) :
    spell (bits ++ bits') = spell bits ++ spell bits' := List.flatMap_append

@[simp] theorem origins_append (bits bits' : List Bit) :
    origins (bits ++ bits') = origins bits ++ origins bits' := List.filterMap_append

theorem chars_cut {b : Bit} {l t r : List Char} (split : b.chars = l ++ t)
    (joint : Joint l (t ++ r)) : l = [] ∨ t = [] := by
  by_cases empty : l = []
  · exact .inl empty
  obtain ⟨c, l, rfl⟩ := List.exists_cons_of_ne_nil empty
  have single {d : Char} (same : [d] = c :: l ++ t) : t = [] :=
    (List.append_eq_nil_iff.1 (List.cons.inj same).2.symm).2
  right
  cases b with
  | kept d i => exact single split
  | call =>
      exact joint ['p', 'o', 'w'] (c :: l) t (List.all_eq_true.1 rfl) split empty List.suffix_rfl
        (List.prefix_append t r)
  | comma => exact single split
  | space => exact single split
  | closing => exact single split

/-- Where no call is cut, the bits of a text are those of its parts. -/
theorem cut {bits : List Bit} {l r : List Char} (text : spell bits = l ++ r) (joint : Joint l r) :
    ∃ bits' bits'', bits = bits' ++ bits'' ∧ spell bits' = l ∧ spell bits'' = r := by
  induction bits generalizing l with
  | nil =>
      obtain ⟨rfl, rfl⟩ : [] = l ∧ [] = r := by simpa using text
      exact ⟨[], [], rfl, rfl, rfl⟩
  | cons b bits ih =>
      rw [spell_cons] at text
      rcases List.append_eq_append_iff.1 text with ⟨t, rfl, rest⟩ | ⟨t, parts, rfl⟩
      · obtain ⟨bits', bits'', rfl, rfl, rfl⟩ := ih rest joint.of_append
        exact ⟨b :: bits', bits'', rfl, rfl, rfl⟩
      · rcases chars_cut parts joint with rfl | rfl
        · exact ⟨[], b :: bits, rfl, rfl, by rw [spell_cons, parts]; rfl⟩
        · exact ⟨[b], bits, rfl, by simpa using parts, rfl⟩

/-- A caret is a bit of its own, and no expansion wrote it. -/
theorem eq_caret_cons {bits : List Bit} {r : List Char} (text : spell bits = '^' :: r) :
    ∃ i bits', bits = kept '^' i :: bits' ∧ spell bits' = r := by
  cases bits with
  | nil => simp at text
  | cons b bits =>
      cases b with
      | kept c i =>
          obtain ⟨rfl, rest⟩ := List.cons.inj text
          exact ⟨i, bits, rfl, rest⟩
      | call | comma | space | closing => simp [chars] at text

/-- Bits that are blank are spaces or were kept. -/
theorem blank_bits {bits : List Bit} (blank : ∀ c ∈ spell bits, isBlank c = true) :
    (∀ b ∈ [call, comma, closing], bits.count b = 0) ∧
      (origins bits).filter (fun x => !isBlank x.1) = [] := by
  have part {b : Bit} (member : b ∈ bits) : ∀ c ∈ b.chars, isBlank c = true := fun c inside =>
    blank c (List.mem_flatMap.2 ⟨b, member, inside⟩)
  refine ⟨fun b fresh => List.count_eq_zero.2 fun member => ?_, ?_⟩
  · have ink : ([call, comma, closing].all fun b => b.chars.any fun c => !isBlank c) = true := by
      decide +kernel
    obtain ⟨c, inside, other⟩ := List.any_eq_true.1 (List.all_eq_true.1 ink b fresh)
    simp [part member c inside] at other
  · apply List.filter_eq_nil_iff.2
    intro x member
    obtain ⟨b, inside, origin⟩ := List.mem_filterMap.1 member
    cases b with
    | kept c i =>
        obtain rfl := Option.some.inj origin
        simpa using part inside c (by simp [chars])
    | call | comma | space | closing => cases origin

end Bit

open Bit (spell origins)

/-- An expansion cuts between bits: blanks and a caret go, and its own bits are new. -/
theorem exists_bits_of_expandAt {bits : List Bit} {x y text : List Char}
    (spelled : spell bits = x ++ '^' :: y)
    (expanded : expandAt (x ++ '^' :: y) x.length = some text) : ∃ a b g i g' e c,
      bits = a ++ (b ++ (g ++ .kept '^' i :: (g' ++ (e ++ c)))) ∧
        (∀ c ∈ spell g, isBlank c = true) ∧ (∀ c ∈ spell g', isBlank c = true) ∧
        text = spell (a ++ (.call :: b ++ (.comma :: .space :: e ++ .closing :: c))) := by
  obtain ⟨a, b, g, g', e, c, rfl, rfl, rfl, blank, blank', -, -, joint, joint'⟩ :=
    expandAt_split expanded
  have around {z : Char} (member : z ∈ g ++ '^' :: g') := around_caret blank blank' member
  have behind : Joint b (g ++ '^' :: g' ++ (e ++ c)) := joint_of_head fun z first => by
    rw [List.head?_append_of_ne_nil _ (by simp)] at first
    exact around (List.mem_of_head? first)
  have before : Joint g' (e ++ c) := joint_of_last fun z last =>
    (around (by simp [List.mem_of_getLast? last])).1
  have whole : a ++ b ++ g ++ '^' :: (g' ++ (e ++ c)) = a ++ (b ++ (g ++ '^' :: g' ++ (e ++ c))) := by
    simp
  obtain ⟨A, power, rfl, rfl, behindA⟩ := Bit.cut (spelled.trans whole) (joint _)
  obtain ⟨B, middle, rfl, rfl, behindB⟩ := Bit.cut behindA behind
  rw [List.append_assoc, List.cons_append] at behindB
  obtain ⟨G, caret, rfl, rfl, behindG⟩ := Bit.cut behindB (joint_of_head (by simp; decide))
  obtain ⟨i, exponent, rfl, behindCaret⟩ := Bit.eq_caret_cons behindG
  obtain ⟨G', rest, rfl, rfl, behindG'⟩ := Bit.cut behindCaret before
  obtain ⟨E, C, rfl, rfl, rfl⟩ := Bit.cut behindG' joint'
  exact ⟨A, B, G, i, G', E, C, rfl, blank, blank', by simp [powerCall_eq, Bit.chars]⟩

/-! ## What is kept and what is new -/

/-- The characters of a text that are no blanks, each with its offset, except those at some offsets. -/
def inkExcept (gone : List Nat) (text : List Char) : List (Char × Nat) :=
  text.zipIdx.filter fun x => !isBlank x.1 && decide (x.2 ∉ gone)

/-- The bits of a text after some expansions: what was kept is in order, of the characters that are no
blanks only a caret for each expansion is gone, and each expansion wrote one call. -/
structure Conserved (text : List Char) (k : Nat) (bits : List Bit) : Prop where
  ordered : (origins bits).Sublist text.zipIdx
  carets : ∃ gone : List Nat, gone.length = k ∧ gone.Nodup ∧ (∀ i ∈ gone, text[i]? = some '^') ∧
    (origins bits).filter (fun x => !isBlank x.1) = inkExcept gone text
  written : ∀ b ∈ [Bit.call, .comma, .closing], bits.count b = k

/-- A text as its own bits. -/
theorem exists_conserved (text : List Char) : ∃ bits, spell bits = text ∧ Conserved text 0 bits := by
  have spelled : spell (text.zipIdx.map fun x => .kept x.1 x.2) = text := by
    rw [Bit.spell, List.flatMap_map]
    exact (List.flatMap_pure_eq_map Prod.fst text.zipIdx).trans (List.zipIdx_map_fst 0 text)
  have origin : origins (text.zipIdx.map fun x => .kept x.1 x.2) = text.zipIdx := by
    simp [Bit.origins, List.filterMap_map, Function.comp_def, Bit.origin?]
  refine ⟨_, spelled, by rw [origin], ⟨[], rfl, .nil, by simp, by simp [origin, inkExcept]⟩, ?_⟩
  intro b fresh
  apply List.count_eq_zero.2
  intro member
  obtain ⟨x, -, rfl⟩ := List.mem_map.1 member
  simp at fresh

section

variable {text : List Char} {gone : List Nat} {l r : List (Char × Nat)} {i k : Nat}

theorem nodup_offsets (gone : List Nat) (text : List Char) :
    ((inkExcept gone text).map Prod.snd).Nodup := by
  refine List.Nodup.sublist (List.filter_sublist.map Prod.snd) ?_
  rw [List.zipIdx_map_snd]
  exact List.nodup_range'

/-- A character more that goes is one of the text that was still there. -/
theorem inkExcept_cons {c : Char} (split : l ++ (c, i) :: r = inkExcept gone text) :
    text[i]? = some c ∧ i ∉ gone ∧ l ++ r = inkExcept (i :: gone) text := by
  have here : (c, i) ∈ inkExcept gone text := by
    rw [← split]
    simp
  rw [inkExcept, List.mem_filter, List.mem_zipIdx_iff_getElem?, Bool.and_eq_true,
    decide_eq_true_eq] at here
  refine ⟨here.1, here.2.2, ?_⟩
  have nodup := nodup_offsets gone text
  rw [← split, List.map_append, List.map_cons, List.nodup_middle, List.nodup_cons,
    ← List.map_append] at nodup
  have others : ∀ x ∈ l ++ r, decide (x.2 ≠ i) = true := fun x member =>
    decide_eq_true fun same => nodup.1 (List.mem_map.2 ⟨x, member, same⟩)
  calc l ++ r
      = (l ++ (c, i) :: r).filter fun x => decide (x.2 ≠ i) := by
        rw [List.filter_append, List.filter_cons_of_neg (by simp), ← List.filter_append,
          List.filter_eq_self.2 others]
    _ = (inkExcept gone text).filter fun x => decide (x.2 ≠ i) := by rw [split]
    _ = inkExcept (i :: gone) text := by
        rw [inkExcept, List.filter_filter, inkExcept]
        refine List.filter_congr fun x _ => ?_
        simp [Bool.and_comm, Bool.and_assoc]

/-- What one expansion does to the bits. -/
theorem Conserved.expanded {a b g g' e c : List Bit}
    (conserved : Conserved text k (a ++ (b ++ (g ++ .kept '^' i :: (g' ++ (e ++ c))))))
    (blank : ∀ c ∈ spell g, isBlank c = true) (blank' : ∀ c ∈ spell g', isBlank c = true) :
    Conserved text (k + 1) (a ++ (.call :: b ++ (.comma :: .space :: e ++ .closing :: c))) := by
  obtain ⟨ordered, ⟨gone, length, nodup, carets, same⟩, written⟩ := conserved
  obtain ⟨none, blank⟩ := Bit.blank_bits blank
  obtain ⟨none', blank'⟩ := Bit.blank_bits blank'
  have ink : isBlank '^' = false := by decide
  simp only [Bit.origins_append, Bit.origins_cons, Bit.origin?, Option.toList_some,
    List.cons_append, List.nil_append] at ordered same
  simp only [List.filter_append, List.filter_cons, ink, Bool.not_false, if_true, blank, blank',
    List.nil_append] at same
  obtain ⟨stood, new, kept⟩ := inkExcept_cons ((List.append_assoc ..).trans same)
  constructor
  case ordered =>
    refine List.Sublist.trans ?_ ordered
    simp only [Bit.origins_append, Bit.origins_cons, Bit.origin?, Option.toList_none,
      List.cons_append, List.nil_append]
    refine .append_left (.append_left ?_ _) _
    exact (List.sublist_append_right (origins g') _).trans
      ((List.sublist_cons_self _ _).trans (List.sublist_append_right (origins g) _))
  case carets =>
    refine ⟨i :: gone, by simp [length], List.nodup_cons.2 ⟨new, nodup⟩, ?_, ?_⟩
    · intro j member
      rcases List.mem_cons.1 member with rfl | member
      · exact stood
      · exact carets j member
    · rw [← kept]
      simp [Bit.origin?]
  case written =>
    intro b fresh
    have before := written b fresh
    have gap := none b fresh
    have gap' := none' b fresh
    simp only [List.mem_cons, List.not_mem_nil, or_false] at fresh
    rcases fresh with rfl | rfl | rfl
    all_goals
      simp [gap, gap'] at before ⊢
      omega

/-- What all expansions do to the bits. -/
theorem Conserved.loop {n : Nat} {s result : List Char} {bits : List Bit} (loop : Loop n s result)
    (spelled : spell bits = s) (conserved : Conserved text k bits) :
    ∃ bits', spell bits' = result ∧ Conserved text (k + n) bits' := by
  induction loop generalizing k bits with
  | stop none => exact ⟨bits, spelled, conserved⟩
  | step expanded rest ih =>
      obtain ⟨x, y, rfl, here, -⟩ := exists_rightmost expanded
      obtain ⟨a, b, g, i, g', e, c, rfl, blank, blank', rfl⟩ :=
        exists_bits_of_expandAt spelled here
      obtain ⟨bits', same, conserved'⟩ := ih rfl (conserved.expanded blank blank')
      exact ⟨bits', same, by rwa [Nat.add_assoc, Nat.add_comm 1] at conserved'⟩

/-- **Expansion ends and moves nothing but carets.** The loop makes as many expansions as the text has
lost carets, and then comes to an end; what it ends with is expanded to itself. It is made of
characters of the text in their order, from which no character is missing that is no blank except one
caret for each expansion, and of one `pow(`, one comma and one closing parenthesis for each expansion,
and spaces. -/
theorem normalize_conserves (text : List Char) : ∃ k bits,
    (normalize text).count '^' + k = text.count '^' ∧
      (∀ n result, Loop n text result ↔ n = k ∧ result = normalize text) ∧
      normalize (normalize text) = normalize text ∧
      normalize text = spell bits ∧ Conserved text k bits := by
  obtain ⟨k, loop⟩ := exists_loop (le_refl (text.count '^'))
  obtain ⟨bits, spelled, conserved⟩ := exists_conserved text
  obtain ⟨bits', spelled', conserved'⟩ := conserved.loop loop spelled
  rw [Nat.zero_add] at conserved'
  refine ⟨k, bits', loop.count, fun n result => ⟨fun loop' => ?_, ?_⟩, normalize_normalize text,
    spelled'.symm, conserved'⟩
  · exact loop'.unique loop
  · rintro ⟨rfl, rfl⟩
    exact loop

end

end Quadrature.Caret
