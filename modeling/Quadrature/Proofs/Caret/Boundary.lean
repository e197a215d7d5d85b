/-
# Quadrature.Proofs.Caret.Boundary -- where the operands of powers are cut

The searches for the operands of a power read characters, to the left and to the right of a caret.
In a text that can be read, what they find begins and ends with words, and it is what the power of
the derivation has there: the primary before the caret, and the primary with at most one sign that
the exponent begins with. One base is cut elsewhere: in `x1e+3^2` it begins inside the name.

* `Piece.span?_place`: the span of words is that of their pieces;
* `findBase_words`, `findExponent_words`: what the searches find;
* `located`: the carets of a text and the operands found at each.
-/
import Quadrature.Proofs.Caret.Glue
import Quadrature.Proofs.Expr.Placement
import Quadrature.Proofs.Expr.Powers

namespace Quadrature

set_option autoImplicit false

open Quadrature.Text
open Quadrature.Piece (spell place)

/-! ## Spans of words -/

namespace Token

/-- The offset behind the last character of a word. -/
def stop (t : Token) : Nat := t.position + t.lexeme.text.toList.length

/-- From the start of the first word to the end of the last. -/
def span? (ts : List Token) : Option (Nat × Nat) :=
  ts.head?.bind fun first => ts.getLast?.map fun last => (first.position, last.stop)

/-- A word begins where the span begins, and one ends where it ends. -/
def Cuts (ts : List Token) (span : Nat × Nat) : Prop :=
  (∃ t ∈ ts, t.position = span.1) ∧ ∃ t ∈ ts, t.stop = span.2

/-- The offset is between two characters of a word. -/
def Inside (ts : List Token) (offset : Nat) : Prop :=
  ∃ t ∈ ts, t.position < offset ∧ offset < t.stop

theorem exists_span? {ts : List Token} (some : ts ≠ []) :
    ∃ span, span? ts = Option.some span ∧ ts.getLast?.map stop = Option.some span.2 := by
  obtain ⟨t, us, rfl⟩ := List.exists_cons_of_ne_nil some
  rw [span?, List.getLast?_eq_some_getLast some]
  exact ⟨_, rfl, rfl⟩

theorem cuts_of_span? {ts us : List Token} {span : Nat × Nat} (found : span? us = some span)
    (subset : us ⊆ ts) : Cuts ts span := by
  obtain ⟨first, head, found⟩ := Option.bind_eq_some_iff.1 found
  obtain ⟨last, final, rfl⟩ := Option.map_eq_some_iff.1 found
  exact ⟨⟨first, subset (List.mem_of_head? head), rfl⟩,
    last, subset (List.mem_of_getLast? final), rfl⟩

end Token

namespace Piece

theorem head?_place (n : Nat) {ps : List Piece} (some : ps ≠ []) :
    (place n ps).head?.map Token.position = Option.some (n + (lead ps).length) := by
  cases ps with
  | nil => exact absurd rfl some
  | cons p ps => rfl

theorem getLast?_place (n : Nat) {ps : List Piece} (some : ps ≠ []) :
    (place n ps).getLast?.map Token.stop = Option.some (n + (spell ps).length) := by
  obtain ⟨qs, q, rfl⟩ := Caret.exists_concat some
  rw [place_append, place, place, List.getLast?_concat, Option.map_some, Token.stop]
  simp [spell, Nat.add_assoc]

/-- The span of words begins behind the blanks of their pieces. -/
theorem span?_place (n : Nat) {ps : List Piece} (some : ps ≠ []) :
    Token.span? (place n ps) = Option.some (n + (lead ps).length, n + (spell ps).length) := by
  obtain ⟨a, first, position⟩ := Option.map_eq_some_iff.1 (head?_place n some)
  obtain ⟨b, last, stop⟩ := Option.map_eq_some_iff.1 (getLast?_place n some)
  rw [Token.span?, first, last, Option.bind_some, Option.map_some, position, stop]

/-- Each word starts where the one before it stops, or behind. -/
theorem stop_le_place (n : Nat) (ps : List Piece) :
    (place n ps).Pairwise fun t u => t.stop ≤ u.position := by
  induction ps generalizing n with
  | nil => exact .nil
  | cons p ps ih => exact List.pairwise_cons.2 ⟨fun u member => le_position member, ih _⟩

/-- No span begins inside a word. -/
theorem not_cuts_of_inside {n start stop : Nat} {ps : List Piece}
    (inside : Token.Inside (place n ps) start) : ¬ Token.Cuts (place n ps) (start, stop) := by
  rintro ⟨⟨u, member', same⟩, -⟩
  obtain ⟨t, member, after, before⟩ := inside
  have behind := stop_le_place n ps
  obtain ⟨us, vs, split⟩ := List.append_of_mem member
  rw [split] at behind member'
  obtain ⟨-, later, across⟩ := List.pairwise_append.1 behind
  rcases List.mem_append.1 member' with first | rest
  · have := across u first t (by simp)
    unfold Token.stop at this
    dsimp only at same
    omega
  rcases List.mem_cons.1 rest with rfl | second
  · exact absurd same (Nat.ne_of_lt after)
  · have := (List.pairwise_cons.1 later).1 u second
    dsimp only at same
    omega

/-- The pieces before and behind a caret. -/
theorem place_eq_caret {ps : List Piece} {us vs : List Token} {i : Nat}
    (placed : place 0 ps = us ++ ⟨.caret, i⟩ :: vs) : ∃ as cr cs, ps = as ++ cr :: cs ∧
      cr.word = .caret ∧ i = (spell as ++ cr.gap).length ∧ place 0 as = us ∧
      place (i + 1) cs = vs := by
  obtain ⟨as, rs, rfl, before, rest⟩ := place_eq_append placed
  obtain ⟨cr, cs, rfl, caret, after⟩ := place_eq_cons rest
  obtain ⟨word, rfl⟩ := Token.mk.inj caret
  refine ⟨as, cr, cs, rfl, word.symm, by simp, before, ?_⟩
  rw [← word] at after
  exact after

end Piece

namespace Caret

open Quadrature.Grammar (Expression Unary Primary Raising Leads Trails)
open Quadrature.Lexeme (Apart)
open Quadrature.Parse (parseWithin)

variable {ps : List Piece} {tail : List Char} {us vs : List Token} {i : Nat}

/-! ## The exponent -/

/-- Behind a caret the search finds what the exponent begins with. -/
theorem findExponent_words {u : Unary} (placed : place 0 ps = us ++ ⟨.caret, i⟩ :: (u.words ++ vs))
    (apart : (ps.map Piece.word).IsChain Apart) (trailing : Trails (vs.map Token.lexeme))
    (blank : ∀ c ∈ tail, isBlank c = true) :
    findExponent (spell ps ++ tail) i = u.taken?.bind Token.span? := by
  obtain ⟨as, cr, cs, rfl, caret, rfl, -, after⟩ := Piece.place_eq_caret placed
  rw [spell_caret caret]
  rcases u.taken?_cases with ⟨none, op, pos, op', pos', v, rfl⟩ |
    ⟨ts, base, sign, more, taken, split, words, next⟩
  · obtain ⟨q, rs, rfl, word, after⟩ := Piece.place_eq_cons after
    obtain ⟨q', rs, rfl, word', -⟩ := Piece.place_eq_cons after
    have found := findExponent_none (x := spell as ++ cr.gap) (r := spell rs ++ tail)
      (Token.mk.inj word).1.symm (Token.mk.inj word').1.symm
    rw [none, Option.bind_none, ← found]
    simp [spell]
  · rw [split, List.append_assoc] at after
    obtain ⟨es, rs, rfl, rfl, rest⟩ := Piece.place_eq_append after
    rw [Piece.place_lexeme] at words
    have apart' : ((es ++ rs).map Piece.word).IsChain Apart := by
      rw [List.map_append, List.map_cons] at apart
      exact (List.isChain_append.1 apart).2.1.tail
    have other : ∀ p ∈ rs.head?, p.word ≠ .opening := by
      intro p first opening
      obtain ⟨rs, rfl⟩ := List.head?_eq_some_iff.1 first
      cases more with
      | nil =>
          have last := trailing p.word (by rw [← show _ = vs from rest]; rfl)
          simp [opening, Grammar.trails] at last
      | cons t more =>
          obtain ⟨rfl, -⟩ := List.cons.inj rest
          simp [opening] at next
    have some : es ≠ [] := ne_nil_of_words (by simp [lexemes_ne_nil]) words
    have found := findExponent_eq_some base sign (x := spell as ++ cr.gap) words apart' blank other
    rw [taken, Option.bind_some, Piece.span?_place _ some, Piece.spell_append,
      List.append_assoc (spell es), found]
    simp [Nat.add_assoc, Nat.add_comm, Nat.add_left_comm]

/-! ## The base -/

/-- Before a caret the search finds the base where no number is glued. -/
theorem findBase_words {base : Primary}
    (placed : place 0 ps = us ++ (base.words ++ ⟨.caret, i⟩ :: vs))
    (apart : (ps.map Piece.word).IsChain Apart) (leading : Leads (us.map Token.lexeme))
    (free : ¬ Token.EndsGlued (us ++ base.words)) :
    findBase (spell ps ++ tail) i = Token.span? base.words := by
  rw [← List.append_assoc] at placed
  obtain ⟨as, cr, cs, rfl, caret, rfl, before, -⟩ := Piece.place_eq_caret placed
  rw [← before, endsGlued_iff caret] at free
  obtain ⟨as, bs, rfl, rfl, words⟩ := Piece.place_eq_append before
  have lexemes : bs.map Piece.word = base.lexemes := by
    rw [Primary.lexemes, ← words, Piece.place_lexeme]
  have some : bs ≠ [] := ne_nil_of_words (lexemes_ne_nil base) lexemes
  have apart' : (as.map Piece.word).IsChain Apart := by
    rw [List.append_assoc, List.map_append] at apart
    exact (List.isChain_append.1 apart).1
  rw [Piece.place_lexeme] at leading
  have found := findBase_primary base (r := '^' :: (spell cs ++ tail)) leading apart' lexemes
    cr.blank (unglued_of_words lexemes caret fun xs p q n same window =>
      free ⟨xs, p, q, n, same, window⟩)
  rw [spell_caret caret, ← words, Piece.span?_place _ some]
  simpa [Nat.add_assoc] using found

/-- A glued number is found with the end of the name before it. -/
theorem findBase_endsGlued (tail : List Char) (placed : place 0 ps = us ++ ⟨.caret, i⟩ :: vs)
    (glued : Token.EndsGlued us) : ∃ start stop,
      findBase (spell ps ++ tail) i = some (start, stop) ∧
        us.getLast?.map Token.stop = some stop ∧ Token.Inside us start := by
  obtain ⟨as, cr, cs, rfl, caret, rfl, rfl, -⟩ := Piece.place_eq_caret placed
  obtain ⟨xs, p, q, n, rfl, window⟩ := (endsGlued_iff caret).1 glued
  obtain ⟨a, c, b, -, -, after, before, found⟩ := window.findBase xs (spell cs ++ tail)
  rw [spell_caret caret, List.append_assoc (spell _)]
  refine ⟨_, _, found, ?_, ⟨p.word, (spell xs ++ p.gap).length⟩, ?_, after, ?_⟩
  · have some : xs ++ [p, q, n] ≠ [] := by simp
    simpa using Piece.getLast?_place 0 some
  · simp [Piece.place_append, place]
  · exact before.trans_eq List.length_append

/-! ## All powers of a text -/

/-- The words before the offset end with a glued number. -/
def GluedAt (tokens : Tokens) (i : Nat) : Prop := Token.EndsGlued (tokens.before i)

/-- What the searches find at the caret of a power: the words that its exponent begins with, and the
words of its base unless this is a glued number. -/
structure Located (text : List Char) (tokens : Tokens) (r : Raising) : Prop where
  exponent : findExponent text r.caret = r.exponent.taken?.bind Token.span?
  exponent_cuts : ∀ span, findExponent text r.caret = some span → Token.Cuts tokens.words span
  base : ∃ span, Token.span? r.base.words = some span ∧ Token.Cuts tokens.words span ∧
    (¬ GluedAt tokens r.caret → findBase text r.caret = some span) ∧
    (GluedAt tokens r.caret → ∃ start, findBase text r.caret = some (start, span.2) ∧
      Token.Inside tokens.words start ∧ ¬ Token.Cuts tokens.words (start, span.2))

theorem located_of_holds {e : Expression} {tokens : Tokens} {r : Raising}
    (tokenized : Token.tokenize (spell ps ++ tail) = .ok tokens) (words : tokens.words = place 0 ps)
    (same : e.words = place 0 ps) (blank : ∀ c ∈ tail, isBlank c = true)
    (holds : Grammar.Holds e.words r) : Located (spell ps ++ tail) tokens r := by
  have apart : (ps.map Piece.word).IsChain Apart := by
    rw [← Piece.place_lexeme 0, ← same]
    exact e.apart
  have inside : r.words ⊆ tokens.words := by
    rw [words, ← same]
    exact holds.subset
  obtain ⟨us, vs, split, leading, trailing⟩ := holds
  have placed : place 0 ps =
      us ++ (r.base.words ++ ⟨.caret, r.caret⟩ :: (r.exponent.words ++ vs)) := by
    rw [← same, split, Raising.words]
    simp
  have placed' := placed
  rw [← List.append_assoc] at placed'
  have before : tokens.before r.caret = us ++ r.base.words :=
    Tokens.before_eq tokenized (words.trans placed')
  have exponent := findExponent_words placed' apart trailing blank
  refine ⟨exponent, fun span found => ?_, ?_⟩
  · rw [exponent] at found
    obtain ⟨ts, taken, found⟩ := Option.bind_eq_some_iff.1 found
    exact Token.cuts_of_span? found fun t member =>
      inside (r.exponent_subset (Unary.taken?_subset taken member))
  · obtain ⟨t, ts, first, -⟩ := r.base.words_head
    have some : r.base.words ≠ [] := by simp [first]
    obtain ⟨span, spans, ends⟩ := Token.exists_span? some
    refine ⟨span, spans, Token.cuts_of_span? spans (List.Subset.trans r.base_subset inside),
      fun free => ?_, fun glued => ?_⟩
    · rw [GluedAt, before] at free
      rw [findBase_words placed apart leading free, spans]
    · rw [GluedAt, before] at glued
      obtain ⟨start, stop, found, last, t, member, after, short⟩ :=
        findBase_endsGlued tail placed' glued
      rw [List.getLast?_append_of_ne_nil _ some] at last
      obtain rfl := Option.some.inj (last.symm.trans ends)
      have inner : Token.Inside (place 0 ps) start := by
        refine ⟨t, ?_, after, short⟩
        rw [placed']
        exact List.mem_append_left _ member
      rw [words]
      exact ⟨start, found, inner, Piece.not_cuts_of_inside inner⟩

/-- **Operands are cut at words**: in a text that is read, the carets are those of the powers of its
one derivation, and at each of them the search for the exponent finds what this begins with, and the
search for the base finds the base, both from the start of a word to the end of one. The base alone
may be missed: a number glued to a name is found from the inside of this name on. -/
theorem located {limit : Option Nat} {text : List Char} {t : Expr}
    (parsed : parseWithin limit text = .ok t) :
    ∃ (tokens : Tokens) (e : Expression), Token.tokenize text = .ok tokens ∧
      e.words = tokens.words ∧ e.tree = t ∧
      (∀ i, text[i]? = some '^' ↔ ∃ r ∈ e.powers, r.caret = i) ∧
      ∀ r ∈ e.powers, Located text tokens r := by
  obtain ⟨e, ps, tail, rfl, blank, tokenized, words, tree⟩ :=
    Grammar.exists_spelling ((Parse.parseWithin_limited limit text).eq_ok parsed)
  refine ⟨_, e, tokenized, words, tree, fun i => ?_, fun r member =>
    located_of_holds tokenized rfl words blank (e.holds r member)⟩
  rw [← List.mem_map, ← e.carets, Grammar.mem_caretsOf, words]
  constructor
  · intro caret
    obtain ⟨a, b, split, rfl⟩ := split_at caret
    obtain ⟨us, cr, vs, rfl, word, rfl, -⟩ := exists_caret_piece blank split
    rw [Piece.place_append, place, word, Nat.zero_add, List.length_append]
    simp
  · intro member
    obtain ⟨us, vs, spelled, position⟩ := Piece.exists_of_mem_place member
    obtain rfl : i = us.length := by simpa using position
    rw [spelled]
    simp [Lexeme.text]

/-- The theorem at a number that a blank keeps from the sign before it. -/
theorem located_spaced :
    parseWithin (some Parse.depthLimit) "x1e + 3^-2".toList = .ok (.binary .add (.var "x1e" 0)
        (.binary .pow (.const (Parse.numberValue "3"))
          (.unary .sub (.const (Parse.numberValue "2"))))) ∧
      findBase "x1e + 3^-2".toList 7 = some (6, 7) ∧
      findExponent "x1e + 3^-2".toList 7 = some (8, 10) ∧
      ∃ (tokens : Tokens) (e : Expression), Token.tokenize "x1e + 3^-2".toList = .ok tokens ∧
        e.words = tokens.words ∧
        ∃ r ∈ e.powers, r.caret = 7 ∧ Located "x1e + 3^-2".toList tokens r := by
  have tokenized : Token.tokenize "x1e + 3^-2".toList = .ok ⟨[⟨.name "x1e", 0⟩, ⟨.plus, 4⟩,
      ⟨.number "3", 6⟩, ⟨.caret, 7⟩, ⟨.minus, 8⟩, ⟨.number "2", 9⟩], 10⟩ := by decide +kernel
  have parsed : parseWithin (some Parse.depthLimit) "x1e + 3^-2".toList = .ok (.binary .add
      (.var "x1e" 0) (.binary .pow (.const (Parse.numberValue "3"))
        (.unary .sub (.const (Parse.numberValue "2"))))) := by
    rw [parseWithin, tokenized]
    rfl
  obtain ⟨tokens, e, tokenized', words, -, carets, finds⟩ := located parsed
  obtain ⟨r, member, caret⟩ := (carets 7).1 (by decide +kernel)
  exact ⟨parsed, by decide +kernel, by decide +kernel, tokens, e, tokenized', words, r, member,
    caret, finds r member⟩

/-- The base of `x1e+3^2` is found from the inside of the name on. -/
theorem findBase_inside_name : ¬ ∀ (text : List Char) (t : Expr) (tokens : Tokens) (i : Nat)
    (base exponent : Nat × Nat), Parse.parse text = .ok t → Token.tokenize text = .ok tokens →
      text[i]? = some '^' → findBase text i = some base → findExponent text i = some exponent →
      Token.Cuts tokens.words base := by
  intro cuts
  have tokenized : Token.tokenize "x1e+3^2".toList = .ok ⟨[⟨.name "x1e", 0⟩, ⟨.plus, 3⟩,
      ⟨.number "3", 4⟩, ⟨.caret, 5⟩, ⟨.number "2", 6⟩], 7⟩ := by decide +kernel
  have parsed : Parse.parse "x1e+3^2".toList = .ok (.binary .add (.var "x1e" 0)
      (.binary .pow (.const (Parse.numberValue "3")) (.const (Parse.numberValue "2")))) := by
    rw [Parse.parse, parseWithin, tokenized]
    rfl
  obtain ⟨⟨t, member, start⟩, -⟩ := cuts _ _ _ 5 (1, 5) (6, 7) parsed tokenized (by decide +kernel)
    (by decide +kernel) (by decide +kernel)
  revert t
  decide

end Caret

end Quadrature
