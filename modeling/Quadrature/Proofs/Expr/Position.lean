/-
# Quadrature.Proofs.Expr.Position -- what stands where a fault lies

A fault is found by the scanner, by the reader or by the compiler. The scanner stops at a character,
the reader at a word or at the end, the compiler at a name. In each case the text has at the position
that is reported what the diagnostic names, and a fault that names nothing lies at the end, or at the
beginning of a text of blanks.

* `Token.scan_error`, `Parse.run_stops`, `Grammar.Expression.blames_under`: where each stops;
* `Compiled.liesAt_of_ofTextWithin`: what is named stands at its position.
-/
import Quadrature.Proofs.Expr.NameFault
import Quadrature.Proofs.Expr.Scanning
import Quadrature.Proofs.Expr.ViablePrefix

namespace Quadrature

set_option autoImplicit false

open Quadrature.Text

namespace CompileError

/-- The character, the word or the name that the diagnostic gives for its position; nothing if that
is the end, or if there is no position. -/
def named : CompileError → List Char
  | .unexpectedChar c _ => [c]
  | .expectedOperand f | .callWithoutArguments _ f | .unclosedCall _ f | .unclosedGroup f
  | .unopenedGroup f | .trailingInput f => (f.text?.getD "").toList
  | .unknownName name _ _ | .functionWithoutArguments name _ | .unknownFunction name _
  | .wrongArity name _ _ _ => name.toList
  | _ => []

/-- The fault lies at an offset of a text, which goes on with what is named there. -/
structure LiesAt (text : List Char) (fault : CompileError) (n : Nat) : Prop where
  position : fault.position? = some (n : Int)
  bound : n ≤ text.length
  stands : fault.named <+: text.drop n
  ends : fault.named = [] → n = text.length ∨ n = 0 ∧ ∀ c ∈ text, isBlank c = true

theorem named_of_found? {fault : CompileError} {found : Found}
    (same : fault.found? = some found) : fault.named = (found.text?.getD "").toList := by
  cases fault <;> first | cases same; rfl | cases same

end CompileError

open CompileError (LiesAt)

variable {text : List Char} {fault : CompileError}

/-! ## Characters -/

theorem Token.liesAt_of_tokenize (failed : tokenize text = .error fault) :
    ∃ n, LiesAt text fault n := by
  have stopped : scan 0 text = .error fault := by
    cases scanned : scan 0 text with
    | ok ts => simp [tokenize, scanned, Except.map] at failed
    | error fault' => simpa [tokenize, scanned, Except.map] using failed
  obtain ⟨us, c, vs, rfl, rfl, -⟩ := scan_error stopped
  rw [Nat.zero_add]
  refine ⟨us.length, rfl, by simp, ?_, fun none => by cases none⟩
  rw [List.drop_left]
  exact ⟨vs, rfl⟩

/-! ## Words -/

namespace Tokens

variable {tokens : Tokens}

theorem text_ne_nil (tokenized : Token.tokenize text = .ok tokens) :
    ∀ t ∈ tokens.words, t.lexeme.text.toList ≠ [] := by
  intro t member
  obtain ⟨ps, tail, -, -, rfl⟩ := Token.tokenize_split tokenized
  exact Piece.text_ne_nil member

theorem finish_eq (tokenized : Token.tokenize text = .ok tokens) : tokens.finish = text.length := by
  obtain ⟨ps, tail, -, -, rfl⟩ := Token.tokenize_split tokenized
  rfl

/-- A word stands at its offset, so a fault that lies at it and names it lies in the text. -/
theorem liesAt (tokenized : Token.tokenize text = .ok tokens) {t : Token} (member : t ∈ tokens.words)
    (position : fault.position? = some (t.position : Int))
    (named : fault.named = t.lexeme.text.toList) : LiesAt text fault t.position := by
  refine ⟨position, ?_, named ▸ text_at tokenized t member, fun none => ?_⟩
  · exact finish_eq tokenized ▸ (lt_finish tokenized t member).le
  · exact absurd (named.symm.trans none) (text_ne_nil tokenized t member)

/-- A text without words is blank. -/
theorem blank_of_words (tokenized : Token.tokenize text = .ok tokens) (none : tokens.words = []) :
    ∀ c ∈ text, isBlank c = true := by
  obtain ⟨ps, tail, rfl, blank, rfl⟩ := Token.tokenize_split tokenized
  cases ps with
  | nil => exact blank
  | cons p ps => cases none

end Tokens

namespace Parse

variable {limit : Option Nat} {finish : Nat} {s : State} {ts : List Token}

/-- What was found is one of the words or the end. -/
def Stops (finish : Nat) (ts : List Token) (fault : CompileError) : Prop :=
  ∃ found, fault.found? = some found ∧ (found = ⟨none, finish⟩ ∨ ∃ t ∈ ts, found = t.found)

theorem Stops.mono {us : List Token} (stops : Stops finish ts fault) (among : ts ⊆ us) :
    Stops finish us fault := by
  obtain ⟨found, same, ends | ⟨t, member, word⟩⟩ := stops
  · exact ⟨found, same, .inl ends⟩
  · exact ⟨found, same, .inr ⟨t, among member, word⟩⟩

/-- The reader stops at one of the words or at the end. -/
theorem run_stops (failed : run limit finish s ts = .error fault)
    (shallow : fault ≠ .nestedTooDeeply) : Stops finish ts fault := by
  -- By induction along the words read: a word that is read leaves the others.
  fun_induction run limit finish s ts with
  | case1 p outer =>
      obtain rfl := Except.error.inj failed
      exact ⟨_, rfl, .inl rfl⟩
  | case2 p outer t ts text word ih => exact (ih failed).mono (List.subset_cons_self t ts)
  | case3 p outer t name word opening closing ts =>
      obtain rfl := Except.error.inj failed
      exact ⟨_, rfl, .inr ⟨⟨.closing, closing⟩, by simp, rfl⟩⟩
  | case4 p outer t name word opening ts more ih =>
      obtain ⟨-, failed⟩ := exists_of_descend failed shallow
      exact (ih _ failed).mono (List.subset_append_right [t, ⟨.opening, opening⟩] ts)
  | case5 p outer t name word ts bare plain ih =>
      exact (ih failed).mono (List.subset_cons_self t ts)
  | case6 p outer t ts word ih | case7 p outer t ts word ih | case8 p outer t ts word ih =>
      obtain ⟨-, failed⟩ := exists_of_descend failed shallow
      exact (ih _ failed).mono (List.subset_cons_self t ts)
  | case9 p outer t ts number name plus minus opening =>
      obtain rfl := Except.error.inj failed
      exact ⟨_, rfl, .inr ⟨t, by simp, rfl⟩⟩
  | case10 e p => cases failed
  | case11 e p outer inside =>
      obtain rfl := Except.error.inj failed
      exact ⟨_, misplaced_found? _ _ _, .inl rfl⟩
  | case12 e p outer t ts ih =>
      cases next : afterOperand limit e p outer t with
      | error fault' =>
          rw [next] at failed
          obtain rfl := Except.error.inj failed
          exact ⟨_, afterOperand_found? next shallow, .inr ⟨t, by simp, rfl⟩⟩
      | ok q =>
          rw [next] at failed
          exact (ih q failed).mono (List.subset_cons_self t ts)

theorem exists_tokens {r : Expr} (read : parseWithin limit text = .ok r) :
    ∃ tokens, Token.tokenize text = .ok tokens := by
  cases tokenized : Token.tokenize text with
  | ok tokens => exact ⟨tokens, rfl⟩
  | error fault =>
      rw [parseWithin, tokenized] at read
      cases read

/-- A fault of the reader lies at the word that it names, or at the end. -/
theorem liesAt_of_parseWithin (failed : parseWithin limit text = .error fault)
    (shallow : fault ≠ .nestedTooDeeply) : ∃ n, LiesAt text fault n := by
  cases tokenized : Token.tokenize text with
  | error fault' =>
      rw [parseWithin, tokenized] at failed
      obtain rfl := Except.error.inj failed
      exact Token.liesAt_of_tokenize tokenized
  | ok tokens =>
      have read : tree limit tokens = .error fault := by
        rw [← failed, parseWithin, tokenized]
        rfl
      by_cases some : tokens.words = []
      · obtain rfl : fault = .emptyText := by
          rw [tree, some] at read
          exact (Except.error.inj read).symm
        exact ⟨0, rfl, Nat.zero_le _, List.nil_prefix,
          fun _ => .inr ⟨rfl, Tokens.blank_of_words tokenized some⟩⟩
      · have stops : Stops tokens.finish tokens.words fault :=
          run_stops ((tree_eq_run some).symm.trans read) shallow
        obtain ⟨found, same, rfl | ⟨t, member, rfl⟩⟩ := stops
        · have position := CompileError.position?_of_found? same
          have named := CompileError.named_of_found? same
          have finish := Tokens.finish_eq tokenized
          exact ⟨tokens.finish, position, finish.le, named ▸ List.nil_prefix, fun _ => .inl finish⟩
        · have position := CompileError.position?_of_found? same
          have named := CompileError.named_of_found? same
          exact ⟨t.position, Tokens.liesAt tokenized member position named⟩

end Parse

/-! ## Names -/

namespace Grammar

open Quadrature.Expr (check checkAll check_binary)

variable {free : String} {words : List Token}

/-- If the outcome is a fault, it lies at one of the words and names it. -/
def Blames (words : List Token) (outcome : Except CompileError Unit) : Prop :=
  ∀ fault, outcome = .error fault → ∃ t ∈ words,
    fault.position? = some (t.position : Int) ∧ fault.named = t.lexeme.text.toList

theorem blames_ok : Blames words (.ok ()) := fun _ failed => nomatch failed

theorem Blames.bind {first second : Except CompileError Unit} (blames : Blames words first)
    (blames' : Blames words second) : Blames words (first >>= fun _ => second) := by
  cases first with
  | ok u => exact blames'
  | error fault => exact blames

theorem blames_word {t : Token} (member : t ∈ words)
    (position : fault.position? = some (t.position : Int))
    (named : fault.named = t.lexeme.text.toList) : Blames words (.error fault) := by
  intro fault' same
  obtain rfl := Except.error.inj same
  exact ⟨t, member, position, named⟩

theorem blames_name {text : String} {pos : Nat} (member : ⟨.name text, pos⟩ ∈ words) :
    Blames words (check free (.var text pos)) := by
  rw [check]
  split
  · exact blames_ok
  · split
    · exact blames_word member rfl rfl
    · exact blames_word member rfl rfl

theorem blames_call {text : String} {pos : Nat} {args : List Expr}
    (member : ⟨.name text, pos⟩ ∈ words) (blames : Blames words (checkAll free args)) :
    Blames words (check free (.call text args pos)) := by
  rw [check]
  split
  · exact blames_word member rfl rfl
  · split
    · exact blames
    · exact blames_word member rfl rfl

mutual

theorem Expression.blames_under {sum product : Expr → Expr}
    (sums : ∀ e, Blames words (check free e) → Blames words (check free (sum e)))
    (products : ∀ e, Blames words (check free e) → Blames words (check free (product e))) :
    ∀ e : Expression, e.words ⊆ words → Blames words (check free (e.under sum product))
  | .last t, among => sums _ (t.blames_under products among)
  | .more t op pos more, among => by
      have known : ∀ symbol, op.op ≠ .other symbol := by cases op <;> simp [Sign.op]
      rw [Expression.words, List.append_subset, List.cons_subset] at among
      rw [Expression.under]
      refine more.blames_under (fun right blames => ?_) (fun _ blames => blames) among.2.2
      rw [check_binary known]
      exact (sums _ (t.blames_under products among.1)).bind blames

theorem Term.blames_under {product : Expr → Expr}
    (products : ∀ e, Blames words (check free e) → Blames words (check free (product e))) :
    ∀ t : Term, t.words ⊆ words → Blames words (check free (t.under product))
  | .last u, among => products _ (u.blames_tree among)
  | .more u op pos more, among => by
      have known : ∀ symbol, op.op ≠ .other symbol := by cases op <;> simp [Factor.op]
      rw [Term.words, List.append_subset, List.cons_subset] at among
      rw [Term.under]
      refine more.blames_under (fun right blames => ?_) among.2.2
      rw [check_binary known]
      exact (products _ (u.blames_tree among.1)).bind blames

theorem Unary.blames_tree : ∀ u : Unary, u.words ⊆ words → Blames words (check free u.tree)
  | .signed op pos operand, among => by
      rw [Unary.words, List.cons_subset] at among
      rw [Unary.tree, check_unary]
      exact operand.blames_tree among.2
  | .power p, among => p.blames_tree among

theorem Power.blames_tree : ∀ p : Power, p.words ⊆ words → Blames words (check free p.tree)
  | .plain base, among => base.blames_tree among
  | .raised base pos exponent, among => by
      have known : ∀ symbol, Op.pow ≠ .other symbol := by simp
      rw [Power.words, List.append_subset, List.cons_subset] at among
      rw [Power.tree, check_binary known]
      exact (base.blames_tree among.1).bind (exponent.blames_tree among.2.2)

theorem Primary.blames_tree : ∀ b : Primary, b.words ⊆ words → Blames words (check free b.tree)
  | .number text pos, among => by
      rw [Primary.tree, check]
      exact blames_ok
  | .name text pos, among => blames_name (List.cons_subset.1 among).1
  | .call text pos opening args closing, among => by
      rw [Primary.words, List.cons_subset, List.cons_subset, List.append_subset] at among
      exact blames_call among.1 (args.blames_trees among.2.2.1)
  | .group opening inner closing, among => by
      rw [Primary.words, List.cons_subset, List.append_subset] at among
      exact inner.blames_under (fun _ blames => blames) (fun _ blames => blames) among.2.1

theorem Args.blames_trees : ∀ a : Args, a.words ⊆ words → Blames words (checkAll free a.trees)
  | .last e, among => by
      rw [Args.trees, checkAll, checkAll]
      exact (e.blames_under (fun _ blames => blames) (fun _ blames => blames) among).bind blames_ok
  | .more e comma more, among => by
      rw [Args.words, List.append_subset, List.cons_subset] at among
      rw [Args.trees, checkAll]
      exact (e.blames_under (fun _ blames => blames) (fun _ blames => blames) among.1).bind
        (more.blames_trees among.2.2)

end

/-- The fault of a tree lies at one of its words and names it. -/
theorem liesAt_of_check {r : Expr} (read : Parse.parseWithin none text = .ok r)
    (failed : check free r = .error fault) : ∃ n, LiesAt text fault n := by
  obtain ⟨tokens, tokenized⟩ := Parse.exists_tokens read
  obtain ⟨e, same, rfl⟩ := (parseWithin_none_eq_ok_iff tokenized).1 read
  have blames : Blames tokens.words (check free e.tree) :=
    e.blames_under (fun _ blames => blames) (fun _ blames => blames) (by rw [same]; exact fun _ => id)
  obtain ⟨t, member, position, named⟩ := blames fault failed
  exact ⟨t.position, Tokens.liesAt tokenized member position named⟩

end Grammar

/-- **What a fault names stands at its position**, whether it is a character, a word or a name; one
that names nothing lies at the end, or at the beginning of a text of blanks. -/
theorem Compiled.liesAt_of_ofTextWithin {limit : Option Nat} {source free : String} {p : Int}
    (refused : ofTextWithin limit source free = .error fault) (position : fault.position? = some p) :
    ∃ n, LiesAt source.toList fault n := by
  have shallow : fault ≠ .nestedTooDeeply := by
    rintro rfl
    cases position
  by_cases identifier : isIdentifier free.toList = true
  · cases read : Parse.parseWithin limit source.toList with
    | error fault' =>
        rw [ofTextWithin, identifier, read] at refused
        obtain rfl : fault' = fault := Except.error.inj refused
        exact Parse.liesAt_of_parseWithin read shallow
    | ok r =>
        have read : Parse.parseWithin none source.toList = .ok r :=
          (Parse.parseWithin_limited limit source.toList).eq_ok read
        rcases ofTextWithin_cases limit identifier read with
          ⟨-, deep⟩ | ⟨f, compiled, -⟩ | ⟨fault', failed, checked⟩
        · exact absurd (Except.error.inj (refused.symm.trans deep)) shallow
        · cases refused.symm.trans compiled
        · obtain rfl := Except.error.inj (refused.symm.trans failed)
          exact Grammar.liesAt_of_check read checked
  · rw [ofTextWithin, Bool.eq_false_iff.2 identifier] at refused
    obtain rfl := Except.error.inj refused
    cases position

end Quadrature
