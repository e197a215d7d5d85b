/-
# Quadrature.Proofs.Caret.Partners -- parentheses and their partners

The partner of a parenthesis is found by counting, forwards from one that opens and backwards from
one that closes. Either count first falls to zero at the parenthesis up to which all others are
nested, in any text, so both stop at the same pairs.

* `balanceAt_eq_some_iff`: where a count that begins at a parenthesis falls to zero;
* `matchingClose_eq_some_iff`, `matchingOpen_eq_some_iff`: what either search finds;
* `matching_inverse`: the searches are inverse to each other, and fail where there is no partner.
-/
import Quadrature.Proofs.Caret.Balance

namespace Quadrature

set_option autoImplicit false

open Caret

/-! ## Nested parentheses -/

namespace Nested

variable {up down : Char} {s : List Char}

theorem passes (distinct : up ≠ down) (nested : Nested up down s) : Passes up down s := by
  induction nested with
  | nil => exact passes_nil
  | cons opening closing rest ih => exact (passes_singleton opening closing).append ih
  | @enclosed s t inside after ihi iha =>
      have split : up :: (s ++ down :: t) = up :: (s ++ [down]) ++ t := by simp
      rw [split]
      exact (ihi.enclosed distinct).append iha

theorem level (nested : Nested '(' ')' s) : Caret.Level s :=
  ⟨nested.passes (by decide), nested.reverse.passes (by decide)⟩

theorem count_eq (nested : Nested up down s) (distinct : up ≠ down) :
    s.count up = s.count down := by
  induction nested with
  | nil => rfl
  | cons opening closing rest ih =>
      rw [List.count_cons_of_ne opening, List.count_cons_of_ne closing, ih]
  | enclosed inside after ihi iha =>
      rw [List.count_cons_self, List.count_cons_of_ne distinct, List.count_append,
        List.count_append, List.count_cons_of_ne distinct.symm, List.count_cons_self]
      omega

/-- No beginning closes more than it opens. -/
theorem count_take_le (nested : Nested up down s) (distinct : up ≠ down) (n : Nat) :
    (s.take n).count down ≤ (s.take n).count up := by
  induction nested generalizing n with
  | nil => simp
  | cons opening closing rest ih =>
      cases n with
      | zero => simp
      | succ n =>
          rw [List.take_succ_cons, List.count_cons_of_ne opening, List.count_cons_of_ne closing]
          exact ih n
  | @enclosed s t inside after ihi iha =>
      cases n with
      | zero => simp
      | succ n =>
          rw [List.take_succ_cons, List.take_append, List.count_cons_self,
            List.count_cons_of_ne distinct, List.count_append, List.count_append]
          have first := ihi n
          -- The beginning ends inside the pair, or holds all of the pair.
          cases beyond : n - s.length with
          | zero =>
              simp only [List.take_zero, List.count_nil]
              omega
          | succ k =>
              rw [List.take_succ_cons, List.count_cons_self, List.count_cons_of_ne distinct.symm,
                List.take_of_length_le (by omega), inside.count_eq distinct]
              have second := iha k
              omega

end Nested

namespace Caret

/-! ## Where a count falls to zero -/

section Counting

variable {up down : Char}

/-- Up to where the count falls below its start, all parentheses are nested. -/
theorem exists_nested (distinct : up ≠ down) {s : List Char} {depth : Int} {n : Nat}
    (above : 0 < depth) (found : balanceAt up down depth s = some n) :
    ∃ t r, s = t ++ down :: r ∧ Nested up down t := by
  -- By induction on the text: behind a parenthesis that opens, two shorter texts are passed.
  induction h : s.length using Nat.strongRecOn generalizing s depth n with
  | ind length ih =>
      subst h
      cases s with
      | nil => simp [balanceAt] at found
      | cons c s =>
          rw [balanceAt] at found
          by_cases opens : c = up
          · rw [if_pos opens] at found
            obtain ⟨k, inner, -⟩ := Option.map_eq_some_iff.1 found
            have higher : 0 < depth + 1 := by omega
            obtain ⟨t, r, rfl, inside⟩ := ih _ (by simp) higher inner rfl
            rw [inside.passes distinct (depth + 1) _ higher, balanceAt_down distinct above] at inner
            obtain ⟨j, inner, -⟩ := Option.map_eq_some_iff.1 inner
            obtain ⟨i, inner, -⟩ := Option.map_eq_some_iff.1 inner
            obtain ⟨t', r', rfl, after⟩ := ih _ (by simp; omega) above inner rfl
            exact ⟨up :: (t ++ down :: t'), r', by simp [opens], .enclosed inside after⟩
          · rw [if_neg opens] at found
            by_cases closes : c = down
            · exact ⟨[], s, by rw [closes]; rfl, .nil⟩
            · rw [if_neg closes] at found
              obtain ⟨k, inner, -⟩ := Option.map_eq_some_iff.1 found
              obtain ⟨t, r, rfl, inside⟩ := ih _ (by simp) above inner rfl
              exact ⟨c :: t, r, rfl, .cons opens closes inside⟩

/-- The count that begins at a parenthesis falls to zero behind nested parentheses, and nowhere
else. -/
theorem balanceAt_eq_some_iff (distinct : up ≠ down) {s : List Char} {n : Nat} :
    balanceAt up down 0 (up :: s) = some n ↔
      ∃ t r, s = t ++ down :: r ∧ n = t.length + 1 ∧ Nested up down t := by
  constructor
  · intro counted
    have fallen := counted
    rw [balanceAt, if_pos rfl] at fallen
    obtain ⟨k, inner, -⟩ := Option.map_eq_some_iff.1 fallen
    obtain ⟨t, r, rfl, inside⟩ := exists_nested distinct (by omega) inner
    rw [balanceAt_enclosed distinct (inside.passes distinct)] at counted
    exact ⟨t, r, rfl, (Option.some.inj counted).symm, inside⟩
  · rintro ⟨t, r, rfl, rfl, inside⟩
    exact balanceAt_enclosed distinct (inside.passes distinct) r

end Counting

/-! ## What either search finds -/

section Searches

variable {l r s text : List Char} {o c n : Nat}

theorem matchingClose_append_iff :
    matchingClose (l ++ '(' :: r) l.length = some n ↔
      ∃ s r', r = s ++ ')' :: r' ∧ n = l.length + (s.length + 1) ∧ Nested '(' ')' s := by
  unfold matchingClose
  rw [List.drop_left, Option.map_eq_some_iff]
  constructor
  · rintro ⟨k, counted, rfl⟩
    obtain ⟨s, r', split, rfl, inside⟩ := (balanceAt_eq_some_iff (by decide)).1 counted
    exact ⟨s, r', split, rfl, inside⟩
  · rintro ⟨s, r', split, rfl, inside⟩
    exact ⟨s.length + 1, (balanceAt_eq_some_iff (by decide)).2 ⟨s, r', split, rfl, inside⟩, rfl⟩

theorem matchingOpen_append_iff :
    matchingOpen (s ++ ')' :: r) s.length = some n ↔
      ∃ a b, s = a ++ '(' :: b ∧ n = a.length ∧ Nested '(' ')' b := by
  have taken : (s ++ ')' :: r).take (s.length + 1) = s ++ [')'] := by
    have split : s ++ ')' :: r = (s ++ [')']) ++ r := by simp
    rw [split]
    exact List.take_left' (by simp)
  unfold matchingOpen
  rw [taken, List.reverse_append, List.reverse_singleton, List.singleton_append,
    Option.map_eq_some_iff]
  constructor
  · rintro ⟨k, counted, rfl⟩
    obtain ⟨t, u, reversed, rfl, inside⟩ := (balanceAt_eq_some_iff (by decide)).1 counted
    obtain rfl : s = u.reverse ++ '(' :: t.reverse := by
      rw [← List.reverse_reverse s, reversed]
      simp
    refine ⟨u.reverse, t.reverse, rfl, ?_, inside.reverse⟩
    simp only [List.length_append, List.length_cons, List.length_reverse]
    omega
  · rintro ⟨a, b, rfl, rfl, inside⟩
    refine ⟨b.length + 1, (balanceAt_eq_some_iff (by decide)).2
      ⟨b.reverse, a.reverse, by simp, by simp, inside.reverse⟩, ?_⟩
    simp only [List.length_append, List.length_cons]
    omega

theorem matchingClose_level (found : matchingClose (l ++ '(' :: r) l.length = some n) :
    ∃ s r', r = s ++ ')' :: r' ∧ n = l.length + (s.length + 1) ∧ Level s := by
  obtain ⟨s, r', split, length, inside⟩ := matchingClose_append_iff.1 found
  exact ⟨s, r', split, length, inside.level⟩

theorem matchingOpen_level (found : matchingOpen (s ++ ')' :: r) s.length = some n) :
    ∃ a b, s = a ++ '(' :: b ∧ n = a.length ∧ Level b := by
  obtain ⟨a, b, split, length, inside⟩ := matchingOpen_append_iff.1 found
  exact ⟨a, b, split, length, inside.level⟩

/-- The parentheses at the two offsets are each other's partners: all between them are nested. -/
structure Partners (text : List Char) (o c : Nat) : Prop where
  before : o < c
  opening : text[o]? = some '('
  closing : text[c]? = some ')'
  inside : Nested '(' ')' (slice text (o + 1, c))

theorem split_at {x : Char} (here : text[o]? = some x) :
    ∃ a r, text = a ++ x :: r ∧ a.length = o := by
  obtain ⟨less, same⟩ := List.getElem?_eq_some_iff.1 here
  refine ⟨text.take o, text.drop (o + 1), ?_, by simp; omega⟩
  rw [← same, List.getElem_cons_drop, List.take_append_drop]

theorem slice_append (a s r : List Char) :
    slice (a ++ (s ++ r)) (a.length, a.length + s.length) = s := by
  unfold slice
  rw [List.drop_left, Nat.add_sub_cancel_left, List.take_left]

theorem slice_between (a s r : List Char) :
    slice (a ++ '(' :: (s ++ ')' :: r)) (a.length + 1, a.length + (s.length + 1)) = s := by
  have inner := slice_append (a ++ ['(']) s (')' :: r)
  simpa [Nat.add_assoc, Nat.add_comm, Nat.add_left_comm] using inner

theorem partners_iff : Partners text o c ↔ ∃ a s r, text = a ++ '(' :: (s ++ ')' :: r) ∧
    o = a.length ∧ c = a.length + (s.length + 1) ∧ Nested '(' ')' s := by
  constructor
  · rintro ⟨before, opening, closing, inside⟩
    obtain ⟨a, rest, rfl, rfl⟩ := split_at opening
    rw [List.getElem?_append_right before.le, List.getElem?_cons,
      if_neg (by omega)] at closing
    obtain ⟨s, r, rfl, length⟩ := split_at closing
    obtain rfl : c = a.length + (s.length + 1) := by omega
    rw [slice_between] at inside
    exact ⟨a, s, r, rfl, rfl, rfl, inside⟩
  · rintro ⟨a, s, r, rfl, rfl, rfl, inside⟩
    refine ⟨by omega, by simp, ?_, by rwa [slice_between]⟩
    rw [List.getElem?_append_right (by omega), Nat.add_sub_cancel_left, List.getElem?_cons_succ,
      List.getElem?_append_right le_rfl, Nat.sub_self, List.getElem?_cons_zero]

theorem matchingClose_eq_some_iff (opening : text[o]? = some '(') :
    matchingClose text o = some c ↔ Partners text o c := by
  rw [partners_iff]
  constructor
  · intro found
    obtain ⟨a, rest, rfl, rfl⟩ := split_at opening
    obtain ⟨s, r, rfl, rfl, inside⟩ := matchingClose_append_iff.1 found
    exact ⟨a, s, r, rfl, rfl, rfl, inside⟩
  · rintro ⟨a, s, r, rfl, rfl, rfl, inside⟩
    exact matchingClose_append_iff.2 ⟨s, r, rfl, rfl, inside⟩

theorem matchingOpen_eq_some_iff (closing : text[c]? = some ')') :
    matchingOpen text c = some o ↔ Partners text o c := by
  rw [partners_iff]
  constructor
  · intro found
    obtain ⟨front, r, rfl, rfl⟩ := split_at closing
    obtain ⟨a, s, rfl, rfl, inside⟩ := matchingOpen_append_iff.1 found
    refine ⟨a, s, r, by simp, rfl, ?_, inside⟩
    rw [List.length_append, List.length_cons]
  · rintro ⟨a, s, r, rfl, rfl, rfl, inside⟩
    have found := (matchingOpen_append_iff (s := a ++ '(' :: s) (r := r)).2
      ⟨a, s, rfl, rfl, inside⟩
    simpa using found

end Searches

/-! ## From partner to partner -/

/-- As many parentheses close as open, and in a proper beginning fewer close than open. -/
structure Balanced (s : List Char) : Prop where
  even : s.count '(' = s.count ')'
  open_before : ∀ t, t ≠ [] → t <+: s → t ≠ s → t.count ')' < t.count '('

/-- The text from a parenthesis to its partner is balanced. -/
theorem balanced_group {s : List Char} (inside : Nested '(' ')' s) :
    Balanced ('(' :: (s ++ [')'])) := by
  refine ⟨inside.group.count_eq (by decide), fun t some start proper => ?_⟩
  obtain ⟨n, taken, short⟩ : ∃ n, t = '(' :: s.take n ∧ n ≤ s.length := by
    obtain ⟨x, t, rfl⟩ := List.exists_cons_of_ne_nil some
    obtain ⟨rfl, inner⟩ := List.cons_prefix_cons.1 start
    have shorter : t.length ≤ s.length := by
      have most := inner.length_le
      have different : t.length ≠ (s ++ [')']).length := fun same =>
        proper (congrArg ('(' :: ·) (inner.eq_of_length same))
      rw [List.length_append, List.length_singleton] at most different
      omega
    refine ⟨t.length, ?_, shorter⟩
    have beyond : (s ++ [')']).take t.length = s.take t.length :=
      List.take_append_of_le_length shorter
    rw [← beyond, ← List.prefix_iff_eq_take.1 inner]
  have nested := inside.count_take_le (by decide) n
  rw [taken, List.count_cons_self, List.count_cons_of_ne (by decide)]
  omega

theorem Partners.balanced {text : List Char} {o c : Nat} (partners : Partners text o c) :
    Balanced (slice text (o, c + 1)) := by
  obtain ⟨a, s, r, rfl, rfl, rfl, inside⟩ := partners_iff.1 partners
  have whole := slice_append a ('(' :: (s ++ [')'])) r
  have segment : slice (a ++ '(' :: (s ++ ')' :: r)) (a.length, a.length + (s.length + 1) + 1) =
      '(' :: (s ++ [')']) := by simpa [Nat.add_assoc] using whole
  rw [segment]
  exact balanced_group inside

/-- **The two searches are inverse to each other**: from an opening and from a closing parenthesis
of a text, each finds the other if and only if the parentheses between them are nested, and the
text from one to the other is then balanced. Each finds nothing only where there is no partner. -/
theorem matching_inverse (text : List Char) :
    (∀ o c, text[o]? = some '(' → text[c]? = some ')' →
      (matchingClose text o = some c ↔ matchingOpen text c = some o) ∧
      (matchingClose text o = some c ↔ Partners text o c) ∧
      (Partners text o c → Balanced (slice text (o, c + 1)))) ∧
    (∀ o, text[o]? = some '(' → (matchingClose text o = none ↔ ∀ c, ¬ Partners text o c)) ∧
    ∀ c, text[c]? = some ')' → (matchingOpen text c = none ↔ ∀ o, ¬ Partners text o c) := by
  refine ⟨fun o c opening closing => ⟨?_, ?_, ?_⟩, fun o opening => ?_, fun c closing => ?_⟩
  · rw [matchingClose_eq_some_iff opening, matchingOpen_eq_some_iff closing]
  · exact matchingClose_eq_some_iff opening
  · exact Partners.balanced
  · simp only [Option.eq_none_iff_forall_ne_some, ne_eq, matchingClose_eq_some_iff opening]
  · simp only [Option.eq_none_iff_forall_ne_some, ne_eq, matchingOpen_eq_some_iff closing]

/-- The theorem at a text with a parenthesis too many on either side. -/
theorem matching_inverse_unbalanced :
    ")(a(b))(".toList[1]? = some '(' ∧ ")(a(b))(".toList[6]? = some ')' ∧
      matchingClose ")(a(b))(".toList 1 = some 6 ∧ matchingOpen ")(a(b))(".toList 6 = some 1 ∧
      Balanced (slice ")(a(b))(".toList (1, 7)) ∧
      (∀ c, ¬ Partners ")(a(b))(".toList 7 c) ∧ ∀ o, ¬ Partners ")(a(b))(".toList o 0 := by
  obtain ⟨pairs, unclosed, unopened⟩ := matching_inverse ")(a(b))(".toList
  have opening : ")(a(b))(".toList[1]? = some '(' := by decide
  have closing : ")(a(b))(".toList[6]? = some ')' := by decide
  have found : matchingClose ")(a(b))(".toList 1 = some 6 := by decide
  obtain ⟨inverse, partners, balanced⟩ := pairs 1 6 opening closing
  exact ⟨opening, closing, found, inverse.1 found, balanced (partners.1 found),
    (unclosed 7 (by decide)).1 (by decide), (unopened 0 (by decide)).1 (by decide)⟩

end Caret

end Quadrature
