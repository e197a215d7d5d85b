/-
# Quadrature.Proofs.Expr.LongChain -- the length of a chain costs no depth

Operands joined by `+ - * /` are read one behind the other, each as deep as it is alone, and the
tree of all of them has two levels more than the operands have, one for the products and one for
the sums. So a text with any number of operands is compiled within two levels more than are enough
for each of them.

* `Expression.depth_le_iff`, `Expression.levels_le`: what the operands of an expression are to the
  whole;
* `exists_chain`: joined operands have a derivation with these operands;
* `compile_joined`: joined operands are compiled.
-/
import Quadrature.Proofs.Caret.Preservation
import Quadrature.Proofs.Expr.Placement
import Quadrature.Proofs.Expr.Unplaced

namespace Quadrature

set_option autoImplicit false

open Quadrature.Text
open Quadrature.Lexeme (ofChar?)
open Quadrature.Parse (parseWithin within)
open Quadrature.Piece (spell place)

/-! ## Operands -/

namespace Grammar

/-- The operands of a product. -/
def Term.operands : Term → List Unary
  | .last u => [u]
  | .more u _ _ rest => u :: rest.operands

/-- The operands of the products of a sum. -/
def Expression.operands : Expression → List Unary
  | .last t => t.operands
  | .more t _ _ rest => t.operands ++ rest.operands

variable {n : Nat}

theorem Term.depth_le_iff (t : Term) : t.depth ≤ n ↔ ∀ u ∈ t.operands, u.depth ≤ n := by
  cases t with
  | last u => rw [Term.depth, Term.operands, List.forall_mem_singleton]
  | more u op pos rest =>
      rw [Term.depth, Term.operands, Nat.max_le, List.forall_mem_cons, rest.depth_le_iff]

/-- An expression goes as deep as the deepest of its operands. -/
theorem Expression.depth_le_iff (e : Expression) :
    e.depth ≤ n ↔ ∀ u ∈ e.operands, u.depth ≤ n := by
  cases e with
  | last t => exact t.depth_le_iff
  | more t op pos rest =>
      rw [Expression.depth, Expression.operands, Nat.max_le, List.forall_mem_append,
        t.depth_le_iff, rest.depth_le_iff]

theorem Term.known_iff {free : String} (t : Term) :
    Known free t.uses ↔ ∀ u ∈ t.operands, Known free u.uses := by
  cases t with
  | last u => rw [Term.uses, Term.operands, List.forall_mem_singleton]
  | more u op pos rest =>
      rw [Term.uses, Term.operands, known_append, List.forall_mem_cons, rest.known_iff]

theorem Expression.known_iff {free : String} (e : Expression) :
    Known free e.uses ↔ ∀ u ∈ e.operands, Known free u.uses := by
  cases e with
  | last t => exact t.known_iff
  | more t op pos rest =>
      rw [Expression.uses, Expression.operands, known_append, List.forall_mem_append, t.known_iff,
        rest.known_iff]

open Quadrature.Expr (Rope rope_of_levels_lt)

/-- A product adds one level to its operands: it is one rope, and so is what waits for it. -/
theorem Term.rope : ∀ (t : Term) {product : Expr → Expr},
    (∀ e : Expr, e.levels < n → Rope n (product e)) → (∀ u ∈ t.operands, u.tree.levels < n) →
      Rope n (t.under product)
  | .last u, product, waits, below => waits _ (below u (by simp [Term.operands]))
  | .more u op pos rest, product, waits, below => by
      simp only [Term.operands, List.forall_mem_cons] at below
      have chained : op.op.chained?.isSome = true := by cases op <;> rfl
      exact rest.rope (fun e next => (waits _ below.1).step chained next) below.2

/-- A sum adds one level to its products. -/
theorem Expression.rope : ∀ (e : Expression) {sum : Expr → Expr},
    (∀ e : Expr, Rope n e → Rope (n + 1) (sum e)) → (∀ u ∈ e.operands, u.tree.levels < n) →
      Rope (n + 1) (e.under sum id)
  | .last t, sum, waits, below => waits _ (t.rope (fun _ => rope_of_levels_lt) below)
  | .more t op pos rest, sum, waits, below => by
      simp only [Expression.operands, List.forall_mem_append] at below
      have chained : op.op.chained?.isSome = true := by cases op <;> rfl
      have left := waits (t.under id) (t.rope (fun _ => rope_of_levels_lt) below.1)
      exact rest.rope (fun e next => left.step chained (Nat.lt_succ_of_le next.1)) below.2

/-- An expression has two levels more than its operands. -/
theorem Expression.levels_le {e : Expression} (below : ∀ u ∈ e.operands, u.tree.levels ≤ n) :
    e.tree.levels ≤ n + 2 :=
  (e.rope (n := n + 1) (fun _ next => rope_of_levels_lt (Nat.lt_succ_of_le next.1))
    fun u member => Nat.lt_succ_of_le (below u member)).1

/-- An operand before an operator and an expression is one more operand. -/
theorem exists_before {op : Op} (chained : op.chained?.isSome = true) (u : Unary)
    (e : Expression) : ∃ (w : Lexeme) (c : Char) (e' : Expression), ofChar? c = some w ∧
      op.symbol.toList = [c] ∧ e'.lexemes = u.lexemes ++ w :: e.lexemes ∧
      e'.operands = u :: e.operands := by
  have product (factor : Factor) :
      (e.onFirst (Term.more u factor 0)).lexemes = u.lexemes ++ factor.lexeme :: e.lexemes ∧
        (e.onFirst (Term.more u factor 0)).operands = u :: e.operands := by
    cases e <;> simp [Expression.onFirst, Expression.operands, Term.operands]
  cases op with
  | add => exact ⟨.plus, '+', .more (.last u) .plus 0 e, rfl, rfl, by simp [Sign.lexeme], rfl⟩
  | sub => exact ⟨.minus, '-', .more (.last u) .minus 0 e, rfl, rfl, by simp [Sign.lexeme], rfl⟩
  | mul => exact ⟨.times, '*', e.onFirst (Term.more u .times 0), rfl, rfl, product .times⟩
  | div => exact ⟨.over, '/', e.onFirst (Term.more u .over 0), rfl, rfl, product .over⟩
  | pow => simp [Op.chained?] at chained
  | other symbol => simp [Op.chained?] at chained

end Grammar

/-! ## Joined texts -/

namespace Compiled

open Quadrature.Grammar (Expression Unary Known exists_before)

/-- Texts with operators between them, set off by spaces. -/
def joined (first : String) : List (Op × String) → String
  | [] => first
  | (op, next) :: rest => first ++ " " ++ op.symbol ++ " " ++ joined next rest

/-- The words of the text are a unary: a number, a name, a call, a group or a power, perhaps behind
signs. -/
def IsUnary (text : String) : Prop :=
  ∃ (tokens : Tokens) (u : Unary), Token.tokenize text.toList = .ok tokens ∧ u.words = tokens.words

/-- Two texts with an operator set off by spaces between them are spelled by the pieces of both. -/
theorem exists_spell_between (ps qs : List Piece) {tail tail' : List Char} {w : Lexeme} {c : Char}
    (symbol : ofChar? c = some w) (blank : ∀ x ∈ tail, isBlank x = true)
    (blank' : ∀ x ∈ tail', isBlank x = true) :
    ∃ (rs : List Piece) (tail'' : List Char),
      spell ps ++ tail ++ [' '] ++ [c] ++ [' '] ++ (spell qs ++ tail') = spell rs ++ tail'' ∧
        (∀ x ∈ tail'', isBlank x = true) ∧
        rs.map Piece.word = ps.map Piece.word ++ w :: qs.map Piece.word := by
  obtain ⟨rs, tail'', split, blank'', placed⟩ : ∃ (rs : List Piece) (tail'' : List Char),
      [' '] ++ (spell qs ++ tail') = spell rs ++ tail'' ∧
        (∀ x ∈ tail'', isBlank x = true) ∧ place (0 + [' '].length) qs = place 0 rs :=
    Token.exists_spell_blanks isBlank_space blank'
  have same : rs.map Piece.word = qs.map Piece.word := by
    rw [← Piece.place_lexeme 0 rs, ← placed, Piece.place_lexeme]
  have gap : ∀ x ∈ tail ++ [' '], isBlank x = true := by
    simpa only [List.forall_mem_append] using ⟨blank, isBlank_space⟩
  refine ⟨ps ++ ⟨tail ++ [' '], w, gap, Lexeme.fits_symbol symbol []⟩ :: rs, tail'', ?_, blank'',
    by rw [List.map_append, List.map_cons, same]⟩
  calc spell ps ++ tail ++ [' '] ++ [c] ++ [' '] ++ (spell qs ++ tail')
      = spell ps ++ (tail ++ [' ']) ++ [c] ++ ([' '] ++ (spell qs ++ tail')) := by simp
    _ = spell ps ++ (tail ++ [' ']) ++ [c] ++ (spell rs ++ tail'') := by rw [split]
    _ = spell (ps ++ ⟨tail ++ [' '], w, gap, Lexeme.fits_symbol symbol []⟩ :: rs) ++ tail'' := by
      simp [spell, Text.symbol_text symbol]

/-- Joined operands are spelled by pieces, and these have a derivation with the same operands. -/
theorem exists_chain {P : Unary → Prop} {first : String} {steps : List (Op × String)}
    (operands : ∀ text ∈ first :: steps.map Prod.snd, ∃ (tokens : Tokens) (u : Unary),
      Token.tokenize text.toList = .ok tokens ∧ u.words = tokens.words ∧ P u)
    (chained : ∀ step ∈ steps, step.1.chained?.isSome = true) :
    ∃ (e : Expression) (ps : List Piece) (tail : List Char),
      (joined first steps).toList = spell ps ++ tail ∧ (∀ c ∈ tail, isBlank c = true) ∧
        ps.map Piece.word = e.lexemes ∧ ∀ u ∈ e.operands, P u := by
  -- By induction on the steps: an operand is added before what the rest has.
  induction steps generalizing first with
  | nil =>
      obtain ⟨tokens, u, tokenized, words, holds⟩ := operands first (by simp)
      obtain ⟨ps, tail, same, blank, rfl⟩ := Token.tokenize_split tokenized
      have alone : ∀ v ∈ (Expression.last (.last u)).operands, P v := by
        simpa [Expression.operands, Grammar.Term.operands] using holds
      refine ⟨.last (.last u), ps, tail, same, blank, ?_, alone⟩
      show _ = u.lexemes
      rw [Unary.lexemes, words, Piece.place_lexeme]
  | cons step rest ih =>
      obtain ⟨op, next⟩ := step
      obtain ⟨tokens, u, tokenized, words, holds⟩ := operands first (by simp)
      obtain ⟨ps, tail, same, blank, rfl⟩ := Token.tokenize_split tokenized
      obtain ⟨e, qs, tail', same', blank', lexemes, others⟩ := ih
        (fun text member => operands text (List.mem_cons_of_mem _ member))
        (fun step member => chained step (by simp [member]))
      obtain ⟨w, c, e', symbol, written, lexemes', operands'⟩ :=
        exists_before (chained (op, next) (by simp)) u e
      obtain ⟨rs, tail'', split, blank'', words'⟩ :=
        exists_spell_between ps qs symbol blank blank'
      refine ⟨e', rs, tail'', ?_, blank'', ?_, ?_⟩
      · have later : (joined next rest).toList = spell qs ++ tail' := same'
        rw [joined, String.toList_append, String.toList_append, String.toList_append,
          String.toList_append, same, later, written]
        exact split
      · rw [words', lexemes', ← lexemes, Unary.lexemes, words, Piece.place_lexeme]
      · simpa [operands'] using ⟨holds, others⟩

/-- Spelled words of a derivation are read where they stand: as deep, with as many levels, and with
the same names. -/
theorem exists_read {e : Expression} {ps : List Piece} {tail : List Char}
    (words : ps.map Piece.word = e.lexemes) (blank : ∀ c ∈ tail, isBlank c = true) :
    ∃ t : Expr, (∀ limit, parseWithin limit (spell ps ++ tail) =
        Grammar.allowed limit e.depth (.ok t)) ∧
      t.levels = e.tree.levels ∧ ∀ free, Expr.Accepted free t ↔ Known free e.uses := by
  obtain ⟨e', placed, regrouped⟩ := e.exists_words ((Piece.place_lexeme 0 ps).trans words)
  have lexemes : e'.lexemes = e.lexemes := by
    rw [Expression.lexemes, placed, Piece.place_lexeme, words]
  have tokenized : Token.tokenize (spell ps ++ tail) =
      .ok ⟨place 0 ps, (spell ps ++ tail).length⟩ := by
    rw [Token.tokenize, Token.scan_spell 0 (words ▸ e.apart) blank]
    rfl
  refine ⟨e'.tree, fun limit => ?_, Expression.levels_eq lexemes, fun free => ?_⟩
  · rw [Grammar.parseWithin_eq tokenized placed, Expression.depth_eq lexemes]
  · rw [← e'.accepted_regrouped, Expression.regrouped, regrouped, ← Expression.regrouped,
      e.accepted_regrouped, e.accepted_tree]

/-- What a limit that a unary is compiled within says of its derivation. -/
theorem bounds_of_compiled {most : Nat} {text free : String} {tokens : Tokens} {u : Unary}
    {f : Compiled} (tokenized : Token.tokenize text.toList = .ok tokens)
    (words : u.words = tokens.words) (compiled : ofTextWithin (some most) text free = .ok f) :
    u.depth ≤ most ∧ 2 * u.tree.levels + 2 ≤ most ∧ Known free u.uses := by
  obtain ⟨-, t, read, built⟩ := built_of_compiled compiled
  have whole : parseWithin (some most) text.toList =
      Grammar.allowed (some most) u.depth (.ok u.tree) :=
    Grammar.parseWithin_eq (e := .last (.last u)) tokenized words
  rw [read, Grammar.allowed] at whole
  split at whole
  · next allows =>
      obtain rfl : t = u.tree := Except.ok.inj whole
      have refined := u.tree.build_refines (some most) free
      rw [built] at refined
      exact ⟨of_decide_eq_true allows, Expr.levels_of_build built, u.accepted_tree.1 refined.1⟩
  · simp at whole

/-- **Length costs no depth**: operands of any number, joined by any of `+ - * /`, are compiled, if
each alone is compiled within two levels less than the limit, at two steps of depth a level. -/
theorem compile_joined {limit budget : Nat} {free first : String} {steps : List (Op × String)}
    (spare : budget + 2 * 2 ≤ limit)
    (operands : ∀ text ∈ first :: steps.map Prod.snd,
      IsUnary text ∧ ∃ f, ofTextWithin (some budget) text free = .ok f)
    (chained : ∀ step ∈ steps, step.1.chained?.isSome = true) :
    ∃ f, ofTextWithin (some limit) (joined first steps) free = .ok f := by
  obtain ⟨-, f, compiled⟩ := operands first (by simp)
  obtain ⟨identifier, t, -, built⟩ := built_of_compiled compiled
  obtain ⟨e, ps, tail, same, blank, words, bounds⟩ :=
    exists_chain (P := fun u => u.depth ≤ budget ∧
      2 * u.tree.levels + 2 ≤ budget ∧ Known free u.uses) (fun text member => by
        obtain ⟨⟨tokens, u, tokenized, words⟩, f, compiled⟩ := operands text member
        exact ⟨tokens, u, tokenized, words, bounds_of_compiled tokenized words compiled⟩) chained
  obtain ⟨t', reads, levels, names⟩ := exists_read words blank
  have depth : e.depth ≤ budget := e.depth_le_iff.2 fun u member => (bounds u member).1
  have known : Known free e.uses := e.known_iff.2 fun u member => (bounds u member).2.2
  have shallow : 2 * t'.levels + 2 ≤ limit := by
    have most : e.tree.levels ≤ (budget - 2) / 2 + 2 := Expression.levels_le fun u member => by
      have within := (bounds u member).2.1
      omega
    have some := Expr.levels_of_build built
    omega
  have read : parseWithin (some limit) (joined first steps).toList = .ok t' := by
    rw [same, reads, Grammar.allowed, if_pos]
    exact decide_eq_true (by omega)
  exact exists_ofTextWithin identifier read ((names free).2 known) (decide_eq_true shallow)

/-- The theorem at thousands of operands, sums of products. -/
theorem compile_joined_thousands : ∃ f, ofText (joined "x"
    (List.replicate 2500 [(Op.add, "x"), (Op.mul, "-x^2")]).flatten) "x" = .ok f := by
  have identifier : isIdentifier "x".toList = true := by decide +kernel
  have name : IsUnary "x" ∧ ∃ f, ofTextWithin (some 976) "x" "x" = .ok f := by
    have tokenized : Token.tokenize "x".toList = .ok ⟨[⟨.name "x", 0⟩], 1⟩ := by decide +kernel
    have read : parseWithin (some 976) "x".toList = .ok (.var "x" 0) := by
      rw [parseWithin, tokenized]
      rfl
    exact ⟨⟨_, .power (.plain (.name "x" 0)), tokenized, rfl⟩,
      exists_ofTextWithin identifier read rfl rfl⟩
  have signed : IsUnary "-x^2" ∧ ∃ f, ofTextWithin (some 976) "-x^2" "x" = .ok f := by
    have tokenized : Token.tokenize "-x^2".toList = .ok ⟨[⟨.minus, 0⟩, ⟨.name "x", 1⟩, ⟨.caret, 2⟩,
        ⟨.number "2", 3⟩], 4⟩ := by decide +kernel
    have read : parseWithin (some 976) "-x^2".toList = .ok (.unary .sub
        (.binary .pow (.var "x" 1) (.const (Parse.numberValue "2")))) := by
      rw [parseWithin, tokenized]
      rfl
    exact ⟨⟨_, .signed .minus 0 (.power (.raised (.name "x" 1) 2
      (.power (.plain (.number "2" 3))))), tokenized, rfl⟩,
      exists_ofTextWithin identifier read rfl rfl⟩
  have steps : ∀ step ∈ (List.replicate 2500 [(Op.add, "x"), (Op.mul, "-x^2")]).flatten,
      step = (.add, "x") ∨ step = (.mul, "-x^2") := by
    intro step member
    obtain ⟨pair, among, inside⟩ := List.mem_flatten.1 member
    simpa [List.eq_of_mem_replicate among] using inside
  have spare : 976 + 2 * 2 ≤ Parse.depthLimit := by decide
  refine compile_joined spare (fun text member => ?_) fun step member => ?_
  · rcases List.mem_cons.1 member with rfl | later
    · exact name
    obtain ⟨step, among, rfl⟩ := List.mem_map.1 later
    rcases steps step among with rfl | rfl
    · exact name
    · exact signed
  · rcases steps step member with rfl | rfl <;> rfl

end Compiled

end Quadrature
