/-
# Quadrature.Proofs.Caret.Origin -- where the characters of an expanded text come from

Expansion moves what stands behind a power. A text whose characters carry their offsets can be
expanded as well: the characters of the operands keep theirs, those of the call that are new have
none. So the expanded text tells of each of its characters where it stood, and an offset in it is
the offset in the text, shifted by what was written before it and back by what was dropped.

* `trace_chars`: with offsets or without, the text that results is the same;
* `Traced.expanded`, `traced_trace`: characters that were kept are those of the text, in its order,
  and neighbours among them were neighbours;
* `word_of_origins`: a word all of whose characters were kept stands in the text;
* `origin_shift`, `eq_of_unwritten`: how far an offset was shifted, and when it was not.
-/
import Mathlib.Data.List.Chain
import Mathlib.Data.List.Nodup
import Quadrature.Proofs.Caret.FixedPoint

namespace Quadrature.Caret

set_option autoImplicit false

open Quadrature.Text

/-- A character and the offset at which it stood, unless an expansion wrote it. -/
structure Mark where
  char : Char
  origin : Option Nat
deriving DecidableEq

/-- The characters of a text, each at its offset. -/
def numbered (text : List Char) : List Mark := text.zipIdx.map fun x => ⟨x.1, some x.2⟩

/-- Characters that an expansion writes. -/
def written (s : List Char) : List Mark := s.map (⟨·, none⟩)

/-- The power at `caret` written as a call, as by `expandAt`. No operand is trimmed here: there is
nothing to trim. -/
def traceAt (t : List Mark) (caret : Nat) : Option (List Mark) := do
  let base ← findBase (t.map Mark.char) caret
  let exponent ← findExponent (t.map Mark.char) caret
  return t.take base.1 ++
    (written "pow(".toList ++ (t.drop base.1).take (base.2 - base.1) ++ written ", ".toList ++
      (t.drop exponent.1).take (exponent.2 - exponent.1) ++ written [')']) ++ t.drop exponent.2

/-- The rightmost power that can be written as a call so written. -/
def traceRightmost (t : List Mark) : Option (List Mark) :=
  (carets 0 (t.map Mark.char)).reverse.findSome? (traceAt t)

/-- Expand up to a number of powers, as long as one can be expanded. -/
def traceTimes : Nat → List Mark → List Mark
  | 0, t => t
  | n + 1, t =>
    match traceRightmost t with
    | some t => traceTimes n t
    | none => t

/-- The expanded text, each character with the offset at which it stood. -/
def trace (text : List Char) : List Mark := traceTimes (text.count '^') (numbered text)

/-! ## The text that results -/

@[simp] theorem numbered_chars (text : List Char) : (numbered text).map Mark.char = text := by
  rw [numbered, List.map_map]
  exact List.zipIdx_map_fst 0 text

@[simp] theorem written_chars (s : List Char) : (written s).map Mark.char = s := by
  simp [written, Function.comp_def]

theorem traceAt_chars (t : List Mark) (caret : Nat) :
    (traceAt t caret).map (List.map Mark.char) = expandAt (t.map Mark.char) caret := by
  rw [traceAt, expandAt_eq_slices]
  cases findBase (t.map Mark.char) caret with
  | none => rfl
  | some base =>
      cases findExponent (t.map Mark.char) caret with
      | none => rfl
      | some exponent =>
          simp only [Option.bind_eq_bind, Option.bind_some, Option.pure_def, Option.map_some,
            List.map_append, List.map_take, List.map_drop, written_chars, slice, powerCall]

theorem traceRightmost_chars (t : List Mark) :
    (traceRightmost t).map (List.map Mark.char) = expandRightmost (t.map Mark.char) := by
  rw [traceRightmost, expandRightmost, List.map_findSome?]
  congr 1
  exact funext (traceAt_chars t)

theorem traceTimes_chars (n : Nat) (t : List Mark) :
    (traceTimes n t).map Mark.char = expandTimes n (t.map Mark.char) := by
  induction n generalizing t with
  | zero => rfl
  | succ n ih =>
      rw [traceTimes, expandTimes, ← traceRightmost_chars]
      cases traceRightmost t with
      | none => rfl
      | some t' => exact ih t'

/-- Offsets change nothing in the text that results. -/
theorem trace_chars (text : List Char) : (trace text).map Mark.char = normalize text := by
  rw [trace, traceTimes_chars, numbered_chars, normalize]

/-! ## What expansions keep -/

/-- The neighbours stood side by side, if both stood somewhere. -/
def Beside (m m' : Mark) : Prop := ∀ i ∈ m.origin, ∀ j ∈ m'.origin, j = i + 1

/-- The characters come from a text: each is the one at its offset, offsets grow, neighbours stood
side by side, and what is written moves nothing that stands before it. -/
structure Traced (text : List Char) (t : List Mark) : Prop where
  faithful : ∀ m ∈ t, ∀ i ∈ m.origin, text[i]? = some m.char
  ordered : (t.filterMap Mark.origin).Pairwise (· < ·)
  beside : t.IsChain Beside
  unmoved : ∀ n, (∀ m ∈ t.take n, m.origin.isSome = true) → t.take n = (numbered text).take n

section

variable {text s : List Char} {a b c e m t t' : List Mark}

theorem getElem?_numbered (text : List Char) (i : Nat) :
    (numbered text)[i]? = text[i]?.map fun c => ⟨c, some i⟩ := by
  rw [numbered, List.getElem?_map, List.getElem?_zipIdx, Option.map_map, Nat.zero_add]
  rfl

theorem numbered_origins (text : List Char) :
    (numbered text).map Mark.origin = (List.range text.length).map some := by
  rw [numbered, List.map_map, List.range_eq_range', ← List.zipIdx_map_snd 0 text, List.map_map]
  rfl

theorem traced_numbered (text : List Char) : Traced text (numbered text) := by
  constructor
  case faithful =>
    intro m member i here
    obtain ⟨k, at'⟩ := List.mem_iff_getElem?.1 member
    rw [getElem?_numbered] at at'
    obtain ⟨c, found, rfl⟩ := Option.map_eq_some_iff.1 at'
    obtain rfl : k = i := Option.some.inj here
    exact found
  case ordered =>
    have origins : (numbered text).filterMap Mark.origin = List.range text.length := by
      calc (numbered text).filterMap Mark.origin
          = ((numbered text).map Mark.origin).filterMap id := by rw [List.filterMap_map]; rfl
        _ = ((List.range text.length).map some).filterMap id := by rw [numbered_origins]
        _ = List.range text.length := by rw [List.filterMap_map]; exact List.filterMap_some
    rw [origins]
    exact List.pairwise_lt_range
  case beside =>
    have chain : ((numbered text).map Mark.origin).IsChain
        fun o o' => ∀ i ∈ o, ∀ j ∈ o', j = i + 1 := by
      rw [numbered_origins, List.isChain_iff_getElem]
      intro k inside i here j next
      simp only [List.getElem_map, List.getElem_range, Option.mem_def, Option.some_inj] at here next
      omega
    exact List.isChain_of_isChain_map Mark.origin (fun _ _ beside => beside) chain
  case unmoved => exact fun n _ => rfl

theorem origin_of_written {m : Mark} (member : m ∈ written s) : m.origin = none := by
  obtain ⟨c, -, rfl⟩ := List.mem_map.1 member
  rfl

theorem filterMap_written (s : List Char) : (written s).filterMap Mark.origin = [] :=
  List.filterMap_eq_nil_iff.2 fun _ => origin_of_written

/-- What is written between two texts parts them, so that nothing is asked of their ends. -/
theorem isChain_written (some : s ≠ []) (first : a.IsChain Beside) (last : b.IsChain Beside) :
    (a ++ (written s ++ b)).IsChain Beside := by
  have none : ∀ m ∈ written s, ∀ m', Beside m m' ∧ Beside m' m := by
    intro m member m'
    simp [Beside, origin_of_written member]
  have inside : (written s).IsChain Beside :=
    (List.pairwise_of_forall_mem_list fun m member m' _ => (none m member m').1).isChain
  refine first.append (inside.append last ?_) ?_
  · intro m final m' _
    exact (none m (List.mem_of_getLast? final) m').1
  · intro m _ m' initial
    rw [List.head?_append_of_ne_nil _ (by simpa [written] using some)] at initial
    exact (none m' (List.mem_of_head? initial) m).2

/-- An expansion keeps the operands and what stands around the power, and writes the rest. -/
theorem Traced.expanded (traced : Traced text (a ++ b ++ m ++ e ++ c)) : Traced text
    (a ++ (written "pow(".toList ++ b ++ written ", ".toList ++ e ++ written [')']) ++ c) := by
  constructor
  case faithful =>
    intro x member i here
    have fresh : ∀ s, x ∉ written s := by
      intro s member
      rw [origin_of_written member] at here
      cases here
    refine traced.faithful x ?_ i here
    simp only [List.mem_append, fresh, false_or, or_false] at member ⊢
    tauto
  case ordered =>
    have kept : (a ++ (b ++ (e ++ c))).Sublist (a ++ (b ++ (m ++ (e ++ c)))) :=
      .append_left (.append_left (List.sublist_append_right m _) b) a
    have ordered := traced.ordered
    simp only [List.append_assoc] at ordered
    simp only [List.filterMap_append, filterMap_written, List.nil_append, List.append_nil]
    simpa [List.filterMap_append] using ordered.sublist (kept.filterMap Mark.origin)
  case beside =>
    have parts := traced.beside
    have front := parts.left_of_append.left_of_append.left_of_append
    have chain := isChain_written (s := "pow(".toList) (by decide) front.left_of_append
      (isChain_written (s := ", ".toList) (by decide) front.right_of_append
        (isChain_written (s := [')']) (by decide) parts.left_of_append.right_of_append
          parts.right_of_append))
    simpa only [List.append_assoc] using chain
  case unmoved =>
    intro n kept
    have before : n ≤ a.length := by
      by_contra behind
      obtain ⟨k, rfl⟩ := Nat.exists_eq_add_of_lt (Nat.lt_of_not_le behind)
      have fresh := kept ⟨'p', none⟩ (by simp [written, List.take_append, Nat.add_assoc])
      cases fresh
    have same := traced.unmoved n
    simp only [List.append_assoc, List.take_append_of_le_length before] at kept same ⊢
    exact same kept

/-! ## Expansions of a text -/

theorem exists_of_mem_carets {offset i : Nat} (member : i ∈ carets offset s) :
    ∃ x y, s = x ++ '^' :: y ∧ i = offset + x.length := by
  induction s generalizing offset with
  | nil => simp [carets] at member
  | cons c s ih =>
      have later : i ∈ carets (offset + 1) s →
          ∃ x y, c :: s = x ++ '^' :: y ∧ i = offset + x.length := by
        intro member
        obtain ⟨x, y, rfl, rfl⟩ := ih member
        exact ⟨c :: x, y, rfl, by simp only [List.length_cons]; omega⟩
      rw [carets] at member
      split at member
      · next caret =>
          rcases List.mem_cons.1 member with rfl | member
          · exact ⟨[], s, by rw [caret]; rfl, rfl⟩
          · exact later member
      · exact later member

/-- The base and the exponent of a power stand apart, in this order. -/
theorem spans_split {x y : List Char} {base exponent : Nat × Nat}
    (found : findBase (x ++ '^' :: y) x.length = some base)
    (found' : findExponent (x ++ '^' :: y) x.length = some exponent) :
    ∃ a b m e c, x ++ '^' :: y = a ++ b ++ m ++ e ++ c ∧ base = (a.length, (a ++ b).length) ∧
      exponent = ((a ++ b ++ m).length, (a ++ b ++ m ++ e).length) := by
  obtain ⟨a, b, g, rfl, start, stop, -⟩ := findBase_split found
  obtain ⟨g', e, c, rfl, start', stop', -⟩ := findExponent_split found'
  refine ⟨a, b, g ++ '^' :: g', e, c, by simp, Prod.ext start stop, Prod.ext ?_ ?_⟩
  · rw [start', ← List.append_assoc]
  · rw [stop', ← List.append_assoc]

/-- Where a power is expanded, its operands and what stands around it are kept. -/
theorem traceAt_split {caret : Nat} (member : caret ∈ carets 0 (t.map Mark.char))
    (expanded : traceAt t caret = some t') : ∃ a b m e c, t = a ++ b ++ m ++ e ++ c ∧
      t' = a ++ (written "pow(".toList ++ b ++ written ", ".toList ++ e ++ written [')']) ++ c := by
  obtain ⟨x, y, text, rfl⟩ := exists_of_mem_carets member
  rw [Nat.zero_add] at expanded
  unfold traceAt at expanded
  rw [text] at expanded
  cases base : findBase (x ++ '^' :: y) x.length with
  | none => simp [base] at expanded
  | some span =>
      cases exponent : findExponent (x ++ '^' :: y) x.length with
      | none => simp [base, exponent] at expanded
      | some span' =>
          rw [base, exponent] at expanded
          obtain ⟨a, b, m, e, c, split, rfl, rfl⟩ := spans_split base exponent
          rw [split] at text
          simp only [List.map_eq_append_iff] at text
          obtain ⟨-, c, rfl, ⟨-, e, rfl, ⟨-, m, rfl, ⟨a, b, rfl, rfl, rfl⟩, rfl⟩, rfl⟩, rfl⟩ := text
          refine ⟨a, b, m, e, c, rfl, (Option.some.inj expanded).symm.trans ?_⟩
          simp only [← List.map_append, List.length_map]
          obtain ⟨front, power, exponent, rest⟩ := cut_spans a b m e c
          rw [front, power, exponent, rest]

theorem Traced.traceTimes (n : Nat) (traced : Traced text t) : Traced text (traceTimes n t) := by
  induction n generalizing t with
  | zero => exact traced
  | succ n ih =>
      rw [Caret.traceTimes]
      cases expanded : traceRightmost t with
      | none => exact traced
      | some t' =>
          obtain ⟨caret, member, here⟩ := List.exists_of_findSome?_eq_some expanded
          obtain ⟨a, b, m, e, c, rfl, rfl⟩ := traceAt_split (List.mem_reverse.1 member) here
          exact ih traced.expanded

/-- The characters of the expanded text come from the text. -/
theorem traced_trace (text : List Char) : Traced text (trace text) :=
  (traced_numbered text).traceTimes _

/-! ## Offsets of the expanded text -/

/-- The offset at which the text stood that the expanded text has at `n`: that of a character, none
if an expansion wrote the character, and behind all characters the end. -/
def origin (text : List Char) (n : Nat) : Option Nat :=
  (trace text)[n]?.elim (some text.length) Mark.origin

/-- How many of the first `n` characters of the expanded text were written by expansions. -/
def writtenBefore (text : List Char) (n : Nat) : Nat :=
  ((trace text).take n).countP fun m => m.origin.isNone

/-- How many of the first `q` characters of the text were dropped by expansions. -/
def droppedBefore (text : List Char) (q : Nat) : Nat :=
  (List.range q).countP fun i => some i ∉ (trace text).map Mark.origin

/-- The characters before an offset were all written, or stood before it and were not dropped. -/
theorem Traced.shift {l r : List Mark} {q : Nat} (traced : Traced text (l ++ r))
    (before : ∀ m ∈ l, ∀ i ∈ m.origin, i < q) (behind : ∀ m ∈ r, ∀ i ∈ m.origin, q ≤ i) :
    l.length + (List.range q).countP (fun i => some i ∉ (l ++ r).map Mark.origin) =
      q + l.countP fun m => m.origin.isNone := by
  have kept : l.countP (fun m => m.origin.isSome) =
      (List.range q).countP fun i => some i ∈ (l ++ r).map Mark.origin := by
    rw [← List.length_filterMap_eq_countP, List.countP_eq_length_filter]
    refine List.Perm.length_eq ((List.perm_ext_iff_of_nodup ?_ ?_).2 fun i => ?_)
    · have ordered := traced.ordered
      rw [List.filterMap_append] at ordered
      exact (List.pairwise_append.1 ordered).1.imp Nat.ne_of_lt
    · exact List.nodup_range.filter _
    · simp only [List.mem_filterMap, List.mem_filter, List.mem_range, List.mem_map,
        List.mem_append, decide_eq_true_eq]
      constructor
      · rintro ⟨m, member, here⟩
        exact ⟨before m member i here, m, .inl member, here⟩
      · rintro ⟨less, m, member | member, here⟩
        · exact ⟨m, member, here⟩
        · exact absurd (behind m member i here) (Nat.not_le.2 less)
  have all := List.length_eq_countP_add_countP (fun m : Mark => m.origin.isSome) (l := l)
  have range := List.length_eq_countP_add_countP
    (fun i => decide (some i ∈ (l ++ r).map Mark.origin)) (l := List.range q)
  simp only [List.length_range, Bool.not_eq_true, Option.isSome_eq_false_iff, decide_eq_true_eq,
    Bool.decide_eq_true] at all range
  omega

end

section

variable {text : List Char} {n q : Nat}

theorem length_trace (text : List Char) : (trace text).length = (normalize text).length := by
  rw [← trace_chars, List.length_map]

/-- An offset comes from that of the character there, or from the end. -/
theorem origin_cases (here : origin text n = some q) :
    (∃ m, (trace text)[n]? = some m ∧ m.origin = some q) ∨
      (trace text).length ≤ n ∧ q = text.length := by
  unfold origin at here
  cases found : (trace text)[n]? with
  | some m => exact .inl ⟨m, rfl, by simpa [found] using here⟩
  | none => exact .inr ⟨List.getElem?_eq_none_iff.1 found, by simpa [found] using here.symm⟩

theorem origin_le (here : origin text n = some q) : q ≤ text.length := by
  rcases origin_cases here with ⟨m, found, came⟩ | ⟨-, rfl⟩
  · have inside := (traced_trace text).faithful m (List.mem_of_getElem? found) q came
    exact (List.getElem?_eq_some_iff.1 inside).1.le
  · exact le_rfl

/-- The characters before an offset stood before the offset that it comes from, the others did not. -/
theorem origin_split (bound : n ≤ (normalize text).length) (here : origin text n = some q) :
    ∃ l r, trace text = l ++ r ∧ l.length = n ∧ (∀ m ∈ l, ∀ i ∈ m.origin, i < q) ∧
      ∀ m ∈ r, ∀ i ∈ m.origin, q ≤ i := by
  have traced := traced_trace text
  rw [← length_trace] at bound
  rcases origin_cases here with ⟨m, found, came⟩ | ⟨ends, rfl⟩
  · obtain ⟨inside, rfl⟩ := List.getElem?_eq_some_iff.1 found
    have split : trace text = (trace text).take n ++ (trace text)[n] :: (trace text).drop (n + 1) := by
      rw [← List.drop_eq_getElem_cons inside, List.take_append_drop]
    have ordered := traced.ordered
    rw [split, List.filterMap_append, List.filterMap_cons, came] at ordered
    obtain ⟨-, rest, across⟩ := List.pairwise_append.1 ordered
    refine ⟨_, _, split, List.length_take_of_le bound, fun m member i before => ?_,
      fun m member i behind => ?_⟩
    · exact across i (List.mem_filterMap.2 ⟨m, member, before⟩) q (by simp)
    · rcases List.mem_cons.1 member with rfl | member
      · rw [came] at behind
        exact (Option.some.inj behind).le
      · exact ((List.pairwise_cons.1 rest).1 i (List.mem_filterMap.2 ⟨m, member, behind⟩)).le
  · refine ⟨_, [], (List.append_nil _).symm, le_antisymm ends bound, fun m member i before => ?_,
      fun m member => nomatch member⟩
    exact (List.getElem?_eq_some_iff.1 (traced.faithful m member i before)).1

/-- An offset was shifted by what was written before it, and back by what was dropped. -/
theorem origin_shift (bound : n ≤ (normalize text).length) (here : origin text n = some q) :
    n + droppedBefore text q = q + writtenBefore text n := by
  obtain ⟨l, r, split, rfl, before, behind⟩ := origin_split bound here
  have traced := traced_trace text
  rw [split] at traced
  rw [droppedBefore, writtenBefore, split, List.take_left]
  exact traced.shift before behind

theorem writtenBefore_mono (text : List Char) {k : Nat} (less : n ≤ k) :
    writtenBefore text n ≤ writtenBefore text k :=
  (List.take_sublist_take_left less).countP_le

theorem kept_of_unwritten (unwritten : writtenBefore text n = 0) :
    ∀ m ∈ (trace text).take n, m.origin.isSome = true := by
  intro m member
  exact Option.ne_none_iff_isSome.1 fun none =>
    List.countP_eq_zero.1 unwritten m member (by rw [none]; rfl)

theorem isSome_of_unwritten (unwritten : writtenBefore text n = 0) {i : Nat} (less : i < n) :
    (origin text i).isSome = true := by
  unfold origin
  cases found : (trace text)[i]? with
  | none => rfl
  | some m =>
      exact kept_of_unwritten unwritten m
        (List.mem_of_getElem? ((List.getElem?_take_of_lt less).trans found))

/-- An offset that nothing was written before was not shifted. -/
theorem eq_of_unwritten (bound : n ≤ (normalize text).length) (here : origin text n = some q)
    (unwritten : writtenBefore text n = 0) : n = q := by
  have kept := kept_of_unwritten unwritten
  rw [← length_trace] at bound
  have same := (traced_trace text).unmoved (n + 1)
  rcases origin_cases here with ⟨m, found, came⟩ | ⟨ends, rfl⟩
  · have unmoved := same (by
      intro m' member
      rw [List.take_add_one, found] at member
      rcases List.mem_append.1 member with before | last
      · exact kept m' before
      · obtain rfl : m' = m := by simpa using last
        rw [came]
        rfl)
    have last : ((numbered text).take (n + 1))[n]? = some m := by
      rw [← unmoved, List.getElem?_take_of_lt n.lt_succ_self, found]
    rw [List.getElem?_take_of_lt n.lt_succ_self, getElem?_numbered] at last
    obtain ⟨c, -, rfl⟩ := Option.map_eq_some_iff.1 last
    exact Option.some.inj came
  · obtain rfl := le_antisymm bound ends
    have whole : (trace text).take ((trace text).length + 1) = trace text :=
      List.take_of_length_le (Nat.le_succ _)
    rw [List.take_length] at kept
    rw [whole] at same
    have length := congrArg List.length (same kept)
    rw [List.length_take, numbered, List.length_map, List.length_zipIdx] at length
    omega

theorem exists_mark {c : Char} (here : (normalize text)[n]? = some c) :
    ∃ m, (trace text)[n]? = some m ∧ m.char = c ∧ origin text n = m.origin := by
  rw [← trace_chars, List.getElem?_map] at here
  obtain ⟨m, found, rfl⟩ := Option.map_eq_some_iff.1 here
  exact ⟨m, found, rfl, by rw [origin, found]; rfl⟩

theorem beside_of_getElem? {m m' : Mark} (found : (trace text)[n]? = some m)
    (found' : (trace text)[n + 1]? = some m') : Beside m m' := by
  obtain ⟨-, rfl⟩ := List.getElem?_eq_some_iff.1 found
  obtain ⟨inside, rfl⟩ := List.getElem?_eq_some_iff.1 found'
  exact List.isChain_iff_getElem.1 (traced_trace text).beside n inside

/-- A word all of whose characters were kept stands in the text, where its first one stood. -/
theorem word_of_origins {w : List Char} (stands : w <+: (normalize text).drop n)
    (here : origin text n = some q) (kept : ∀ i < w.length, (origin text (n + i)).isSome = true) :
    w <+: text.drop q ∧ ∀ i < w.length, origin text (n + i) = some (q + i) := by
  -- Along the word: a character stood where its mark tells, and the next one beside it.
  induction w generalizing n q with
  | nil => exact ⟨List.nil_prefix, fun i less => nomatch less⟩
  | cons c w ih =>
      have at' : ∀ i < (c :: w).length, (normalize text)[n + i]? = (c :: w)[i]? := by
        intro i less
        rw [← List.getElem?_drop, List.prefix_iff_getElem?.1 stands i less,
          List.getElem?_eq_getElem less]
      obtain ⟨m, found, rfl, came⟩ := exists_mark (at' 0 (Nat.succ_pos _))
      rw [Nat.add_zero] at found came
      rw [here] at came
      have traced := traced_trace text
      have char := traced.faithful m (List.mem_of_getElem? found) q came.symm
      obtain ⟨inside, char⟩ := List.getElem?_eq_some_iff.1 char
      rw [List.drop_eq_getElem_cons inside, char, List.cons_prefix_cons]
      have tail : w <+: text.drop (q + 1) ∧
          ∀ i < w.length, origin text (n + 1 + i) = some (q + 1 + i) := by
        cases w with
        | nil => exact ⟨List.nil_prefix, fun i less => nomatch less⟩
        | cons c' w =>
            obtain ⟨m', found', -, came'⟩ := exists_mark (at' 1 (by simp))
            obtain ⟨j, next⟩ := Option.isSome_iff_exists.1 (kept 1 (by simp))
            obtain rfl : j = q + 1 :=
              beside_of_getElem? found found' q came.symm j (came'.symm.trans next)
            refine ih ?_ next fun i less => ?_
            · obtain ⟨z, same⟩ := stands
              rw [← List.tail_drop, ← same]
              exact List.prefix_append _ z
            · rw [Nat.add_right_comm]
              exact kept (i + 1) (Nat.succ_lt_succ less)
      refine ⟨⟨rfl, tail.1⟩, fun i less => ?_⟩
      cases i with
      | zero => exact here
      | succ i =>
          have last := tail.2 i (Nat.lt_of_succ_lt_succ less)
          rwa [Nat.add_right_comm, Nat.add_right_comm q] at last

end

end Quadrature.Caret
