/-
# Quadrature.Proofs.Expr.NameFault -- which name is reported

The words behind a name tell how it is used: as the name of a value, or called, with one argument
more than there are commas before the parenthesis is closed. The compiler goes through the tree of a
text, yet in the order of the words, a name before its arguments. So what it reports is the first
name of the text that is not known as it is used.

* `Expression.listed_words`: what the words tell of the names is what the derivation has;
* `Expression.reports_tree`: the fault of a tree lies at the first of its names that is not known;
* `Compiled.ofTextWithin_blames_name`: a text that is read is refused at its first such name.
-/
import Quadrature.Proofs.Caret.Preservation
import Quadrature.Proofs.Expr.Placement

namespace Quadrature

set_option autoImplicit false

open Quadrature.Text
open Quadrature.Grammar (Sign Factor Clear)

namespace Use

/-! ## What words tell of names -/

/-- How many commas stand in a bracket before it is closed, with `depth` brackets open inside it. -/
def commas : Nat → List Token → Nat
  | _, [] => 0
  | depth, t :: ts =>
    match t.lexeme, depth with
    | .opening, depth => commas (depth + 1) ts
    | .closing, 0 => 0
    | .closing, depth + 1 => commas depth ts
    | .comma, 0 => commas 0 ts + 1
    | _, depth => commas depth ts

/-- How a name is used before the words that follow it. -/
def told (text : String) : List Token → Use
  | ⟨.opening, _⟩ :: inside => .call text (commas 0 inside + 1)
  | _ => .name text

/-- The names among words, each with its use. -/
def listed : List Token → List (Token × Use)
  | [] => []
  | t :: ts =>
    match t.lexeme with
    | .name text => (t, told text ts) :: listed ts
    | _ => listed ts

/-- The word is a name that is not known as it is used before `rest`. -/
def Offends (free : String) (t : Token) (rest : List Token) : Prop :=
  ∃ text, t.lexeme = .name text ∧ ¬ (told text rest).Known free

/-- The word is one of those that offend. -/
def Offender (free : String) (words : List Token) (t : Token) : Prop :=
  ∃ before rest, words = before ++ t :: rest ∧ Offends free t rest

section

variable {free : String} {words rest : List Token} {t : Token} {depth : Nat}

theorem commas_sign (op : Sign) (pos : Nat) (ts : List Token) :
    commas depth (⟨op.lexeme, pos⟩ :: ts) = commas depth ts := by
  cases op <;> rfl

theorem commas_factor (op : Factor) (pos : Nat) (ts : List Token) :
    commas depth (⟨op.lexeme, pos⟩ :: ts) = commas depth ts := by
  cases op <;> rfl

theorem listed_sign (op : Sign) (pos : Nat) (ts : List Token) :
    listed (⟨op.lexeme, pos⟩ :: ts) = listed ts := by
  cases op <;> rfl

theorem listed_factor (op : Factor) (pos : Nat) (ts : List Token) :
    listed (⟨op.lexeme, pos⟩ :: ts) = listed ts := by
  cases op <;> rfl

theorem listed_name (text : String) (pos : Nat) (ts : List Token) :
    listed (⟨.name text, pos⟩ :: ts) = (⟨.name text, pos⟩, told text ts) :: listed ts := rfl

theorem told_of_clear (text : String) (clear : Clear [.opening] rest) :
    told text rest = .name text := by
  unfold told
  split
  · simp at clear
  · rfl

theorem mem_listed_iff {u : Use} : (t, u) ∈ listed words ↔ ∃ before rest text,
    words = before ++ t :: rest ∧ t.lexeme = .name text ∧ u = told text rest := by
  induction words with
  | nil => simp [listed]
  | cons w ws ih =>
      have later : (t, u) ∈ listed ws → ∃ before rest text,
          w :: ws = before ++ t :: rest ∧ t.lexeme = .name text ∧ u = told text rest := by
        intro member
        obtain ⟨before, rest, text, rfl, named⟩ := ih.1 member
        exact ⟨w :: before, rest, text, rfl, named⟩
      constructor
      · intro member
        rw [listed] at member
        split at member
        · next text word =>
            rcases List.mem_cons.1 member with here | member
            · obtain ⟨rfl, rfl⟩ := Prod.mk.inj here
              exact ⟨[], ws, text, rfl, word, rfl⟩
            · exact later member
        · exact later member
      · rintro ⟨before, rest, text, split, word, rfl⟩
        rw [listed]
        cases before with
        | nil =>
            obtain ⟨rfl, rfl⟩ := List.cons.inj split
            simp [word]
        | cons b before =>
            obtain ⟨rfl, rfl⟩ := List.cons.inj split
            have member := ih.2 ⟨before, rest, text, rfl, word, rfl⟩
            split
            · exact List.mem_cons_of_mem _ member
            · exact member

theorem offender_iff : Offender free words t ↔ ∃ u, (t, u) ∈ listed words ∧ ¬ u.Known free := by
  constructor
  · rintro ⟨before, rest, split, text, word, unknown⟩
    exact ⟨_, mem_listed_iff.2 ⟨before, rest, text, split, word, rfl⟩, unknown⟩
  · rintro ⟨u, member, unknown⟩
    obtain ⟨before, rest, text, split, word, rfl⟩ := mem_listed_iff.1 member
    exact ⟨before, rest, split, text, word, unknown⟩

/-- Names are listed in the order of the words. -/
theorem sublist_listed (words : List Token) : ((listed words).map Prod.fst).Sublist words := by
  induction words with
  | nil => exact .slnil
  | cons t ts ih =>
      rw [listed]
      split
      · exact ih.cons_cons t
      · exact ih.cons t

end

end Use

namespace Grammar

open Use (commas listed told)

/-! ## The names of a derivation -/

mutual

/-- The names of a derivation in order, each with its use. -/
def Expression.named : Expression → List (Token × Use)
  | .last t => t.named
  | .more t _ _ rest => t.named ++ rest.named

def Term.named : Term → List (Token × Use)
  | .last u => u.named
  | .more u _ _ rest => u.named ++ rest.named

def Unary.named : Unary → List (Token × Use)
  | .signed _ _ operand => operand.named
  | .power p => p.named

def Power.named : Power → List (Token × Use)
  | .plain base => base.named
  | .raised base _ exponent => base.named ++ exponent.named

def Primary.named : Primary → List (Token × Use)
  | .number _ _ => []
  | .name text pos => [(⟨.name text, pos⟩, .name text)]
  | .call text pos _ args _ => (⟨.name text, pos⟩, .call text args.count) :: args.named
  | .group _ inner _ => inner.named

def Args.named : Args → List (Token × Use)
  | .last e => e.named
  | .more e _ rest => e.named ++ rest.named

end

mutual

/-- A derivation closes what it opens, and its commas are in calls. -/
theorem Expression.commas_words (depth : Nat) (rest : List Token) :
    ∀ e : Expression, commas depth (e.words ++ rest) = commas depth rest
  | .last t => by rw [Expression.words, t.commas_words depth rest]
  | .more t op pos more => by
      rw [Expression.words, List.append_assoc, List.cons_append, t.commas_words, Use.commas_sign,
        more.commas_words depth rest]

theorem Term.commas_words (depth : Nat) (rest : List Token) :
    ∀ t : Term, commas depth (t.words ++ rest) = commas depth rest
  | .last u => by rw [Term.words, u.commas_words depth rest]
  | .more u op pos more => by
      rw [Term.words, List.append_assoc, List.cons_append, u.commas_words, Use.commas_factor,
        more.commas_words depth rest]

theorem Unary.commas_words (depth : Nat) (rest : List Token) :
    ∀ u : Unary, commas depth (u.words ++ rest) = commas depth rest
  | .signed op pos operand => by
      rw [Unary.words, List.cons_append, Use.commas_sign, operand.commas_words depth rest]
  | .power p => by rw [Unary.words, p.commas_words depth rest]

theorem Power.commas_words (depth : Nat) (rest : List Token) :
    ∀ p : Power, commas depth (p.words ++ rest) = commas depth rest
  | .plain base => by rw [Power.words, base.commas_words depth rest]
  | .raised base pos exponent => by
      rw [Power.words, List.append_assoc, List.cons_append, base.commas_words]
      exact exponent.commas_words depth rest

theorem Primary.commas_words (depth : Nat) (rest : List Token) :
    ∀ b : Primary, commas depth (b.words ++ rest) = commas depth rest
  | .number text pos => rfl
  | .name text pos => rfl
  | .call text pos opening args closing => by
      rw [Primary.words, List.cons_append, List.cons_append, List.append_assoc]
      exact args.commas_words depth (⟨.closing, closing⟩ :: rest)
  | .group opening inner closing => by
      rw [Primary.words, List.cons_append, List.append_assoc]
      exact inner.commas_words (depth + 1) (⟨.closing, closing⟩ :: rest)

/-- The commas of arguments are those of an inner bracket. -/
theorem Args.commas_words (depth : Nat) (rest : List Token) :
    ∀ a : Args, commas (depth + 1) (a.words ++ rest) = commas (depth + 1) rest
  | .last e => by rw [Args.words, e.commas_words (depth + 1) rest]
  | .more e comma more => by
      rw [Args.words, List.append_assoc, List.cons_append, e.commas_words]
      exact more.commas_words depth rest

end

/-- There is one argument more than there are commas. -/
theorem Args.commas_closing (closing : Nat) (rest : List Token) :
    ∀ a : Args, commas 0 (a.words ++ ⟨.closing, closing⟩ :: rest) + 1 = a.count
  | .last e => by rw [Args.words, e.commas_words, Args.count]; rfl
  | .more e comma args => by
      rw [Args.words, List.append_assoc, List.cons_append, e.commas_words, Args.count,
        ← args.commas_closing closing rest]
      rfl

mutual

/-- The words tell of the names what the derivation has. -/
theorem Expression.listed_words {rest : List Token} (clear : Clear [.opening] rest) :
    ∀ e : Expression, listed (e.words ++ rest) = e.named ++ listed rest
  | .last t => by rw [Expression.words, t.listed_words clear, Expression.named]
  | .more t op pos more => by
      rw [Expression.words, List.append_assoc, List.cons_append,
        t.listed_words (clear_sign op pos _ (by simp) (by simp)), Use.listed_sign,
        more.listed_words clear, Expression.named, List.append_assoc]

theorem Term.listed_words {rest : List Token} (clear : Clear [.opening] rest) :
    ∀ t : Term, listed (t.words ++ rest) = t.named ++ listed rest
  | .last u => by rw [Term.words, u.listed_words clear, Term.named]
  | .more u op pos more => by
      rw [Term.words, List.append_assoc, List.cons_append,
        u.listed_words (clear_factor op pos _ (by simp) (by simp)), Use.listed_factor,
        more.listed_words clear, Term.named, List.append_assoc]

theorem Unary.listed_words {rest : List Token} (clear : Clear [.opening] rest) :
    ∀ u : Unary, listed (u.words ++ rest) = u.named ++ listed rest
  | .signed op pos operand => by
      rw [Unary.words, List.cons_append, Use.listed_sign, operand.listed_words clear, Unary.named]
  | .power p => by rw [Unary.words, p.listed_words clear, Unary.named]

theorem Power.listed_words {rest : List Token} (clear : Clear [.opening] rest) :
    ∀ p : Power, listed (p.words ++ rest) = p.named ++ listed rest
  | .plain base => by rw [Power.words, base.listed_words clear, Power.named]
  | .raised base pos exponent => by
      rw [Power.words, List.append_assoc, List.cons_append, base.listed_words (by simp),
        Power.named, List.append_assoc, ← exponent.listed_words clear]
      rfl

theorem Primary.listed_words {rest : List Token} (clear : Clear [.opening] rest) :
    ∀ b : Primary, listed (b.words ++ rest) = b.named ++ listed rest
  | .number text pos => rfl
  | .name text pos => by
      rw [Primary.words, List.singleton_append, Use.listed_name, Use.told_of_clear text clear]
      rfl
  | .call text pos opening args closing => by
      have closed : Clear [.opening] (⟨.closing, closing⟩ :: rest) := by simp
      rw [Primary.words, List.cons_append, List.cons_append, List.append_assoc,
        List.singleton_append, Primary.named, ← args.commas_closing closing rest]
      exact congrArg (List.cons _) (args.listed_words closed)
  | .group opening inner closing => by
      have closed : Clear [.opening] (⟨.closing, closing⟩ :: rest) := by simp
      rw [Primary.words, List.cons_append, List.append_assoc, List.singleton_append, Primary.named]
      exact inner.listed_words closed

theorem Args.listed_words {rest : List Token} (clear : Clear [.opening] rest) :
    ∀ a : Args, listed (a.words ++ rest) = a.named ++ listed rest
  | .last e => by rw [Args.words, e.listed_words clear, Args.named]
  | .more e comma more => by
      rw [Args.words, List.append_assoc, List.cons_append, e.listed_words (by simp), Args.named,
        List.append_assoc, ← more.listed_words clear]
      rfl

end

/-! ## The fault of a tree -/

open Quadrature.Expr (check checkAll check_binary)

variable {free : String}

/-- The outcome is a fault at the first name that is not known, if there is one. -/
def Reports (free : String) (names : List (Token × Use)) : Except CompileError Unit → Prop
  | .ok () => ∀ n ∈ names, n.2.Known free
  | .error fault => ∃ before n after, names = before ++ n :: after ∧
      (∀ m ∈ before, m.2.Known free) ∧ ¬ n.2.Known free ∧
      fault.position? = some (n.1.position : Int)

theorem reports_nil : Reports free [] (.ok ()) := by
  intro n member
  simp at member

/-- A name that is not known is reported before all that follows it. -/
theorem reports_unknown {n : Token × Use} (names : List (Token × Use)) {fault : CompileError}
    (unknown : ¬ n.2.Known free) (position : fault.position? = some (n.1.position : Int)) :
    Reports free (n :: names) (.error fault) :=
  ⟨[], n, names, rfl, by simp, unknown, position⟩

theorem Reports.append {us vs : List (Token × Use)} {outcome : Except CompileError Unit}
    (known : ∀ n ∈ us, n.2.Known free) (reports : Reports free vs outcome) :
    Reports free (us ++ vs) outcome := by
  have both : ∀ ws, (∀ m ∈ ws, m.2.Known free) → ∀ m ∈ us ++ ws, m.2.Known free := by
    intro ws known' m member
    rcases List.mem_append.1 member with first | later
    · exact known m first
    · exact known' m later
  cases outcome with
  | ok u => exact both vs reports
  | error fault =>
      obtain ⟨before, n, after, rfl, known', unknown, position⟩ := reports
      exact ⟨us ++ before, n, after, by rw [List.append_assoc], both before known', unknown,
        position⟩

/-- What is looked at first is reported first. -/
theorem Reports.bind {us vs : List (Token × Use)} {first second : Except CompileError Unit}
    (reports : Reports free us first) (reports' : Reports free vs second) :
    Reports free (us ++ vs) (first >>= fun _ => second) := by
  cases first with
  | ok u => exact reports'.append reports
  | error fault =>
      obtain ⟨before, n, after, rfl, known, unknown, position⟩ := reports
      exact ⟨before, n, after ++ vs, by rw [List.append_assoc, List.cons_append], known, unknown,
        position⟩

theorem reports_name (text : String) (pos : Nat) :
    Reports free [(⟨.name text, pos⟩, .name text)] (check free (.var text pos)) := by
  rw [check]
  by_cases known : text = free ∨ (Constant.named? text).isSome
  · rw [if_pos known]
    intro n member
    obtain rfl := List.mem_singleton.1 member
    exact known
  · rw [if_neg known]
    split
    · exact reports_unknown [] known rfl
    · exact reports_unknown [] known rfl

/-- The name of a call comes before its arguments. -/
theorem reports_call {text : String} {pos : Nat} {args : List Expr} {names : List (Token × Use)}
    (reports : Reports free names (checkAll free args)) :
    Reports free ((⟨.name text, pos⟩, .call text args.length) :: names)
      (check free (.call text args pos)) := by
  rw [check]
  cases named : Builtin.named? text with
  | none =>
      refine reports_unknown names ?_ rfl
      rintro ⟨f, known, -⟩
      rw [named] at known
      cases known
  | some f =>
      dsimp only
      split
      case isTrue fits =>
        have here : ∀ n ∈ [((⟨.name text, pos⟩ : Token), Use.call text args.length)],
            n.2.Known free := by
          intro n member
          obtain rfl := List.mem_singleton.1 member
          exact ⟨f, named, fits⟩
        exact reports.append here
      case isFalse other =>
        refine reports_unknown names ?_ rfl
        rintro ⟨g, known, fits⟩
        obtain rfl : f = g := Option.some.inj (named.symm.trans known)
        exact other fits

/-- What waits for an operand has names that come before those of the operand. -/
def Carries (free : String) (f : Expr → Expr) (us : List (Token × Use)) : Prop :=
  ∀ e vs, Reports free vs (check free e) → Reports free (us ++ vs) (check free (f e))

theorem carries_id : Carries free id [] := fun _ _ reports => reports

theorem carries_binary {op : Op} (known : ∀ symbol, op ≠ .other symbol) {e : Expr}
    {us : List (Token × Use)} (reports : Reports free us (check free e)) :
    Carries free (.binary op e) us := by
  intro right vs reports'
  rw [check_binary known]
  exact reports.bind reports'

theorem check_unary (op : Sign) (e : Expr) : check free (.unary op.op e) = check free e := by
  rw [check]
  cases op <;> cases check free e <;> simp [Sign.op, bind, Except.bind]

mutual

theorem Expression.reports_under {sum product : Expr → Expr} {us vs : List (Token × Use)}
    (sums : Carries free sum us) (products : Carries free product vs) : ∀ e : Expression,
      Reports free (us ++ (vs ++ e.named)) (check free (e.under sum product))
  | .last t => sums _ _ (t.reports_under products)
  | .more t op pos more => by
      have known : ∀ symbol, op.op ≠ .other symbol := by cases op <;> simp [Sign.op]
      have reports := more.reports_under
        (carries_binary known (sums _ _ (t.reports_under products))) carries_id
      rw [Expression.under]
      simpa [Expression.named] using reports

theorem Term.reports_under {product : Expr → Expr} {vs : List (Token × Use)}
    (products : Carries free product vs) : ∀ t : Term,
      Reports free (vs ++ t.named) (check free (t.under product))
  | .last u => products _ _ u.reports_tree
  | .more u op pos more => by
      have known : ∀ symbol, op.op ≠ .other symbol := by cases op <;> simp [Factor.op]
      have reports := more.reports_under (carries_binary known (products _ _ u.reports_tree))
      rw [Term.under]
      simpa [Term.named] using reports

theorem Unary.reports_tree : ∀ u : Unary, Reports free u.named (check free u.tree)
  | .signed op pos operand => by
      rw [Unary.tree, check_unary, Unary.named]
      exact operand.reports_tree
  | .power p => p.reports_tree

theorem Power.reports_tree : ∀ p : Power, Reports free p.named (check free p.tree)
  | .plain base => base.reports_tree
  | .raised base pos exponent => by
      have known : ∀ symbol, Op.pow ≠ .other symbol := by simp
      rw [Power.tree, Power.named, check_binary known]
      exact base.reports_tree.bind exponent.reports_tree

theorem Primary.reports_tree : ∀ b : Primary, Reports free b.named (check free b.tree)
  | .number text pos => by
      rw [Primary.tree, check]
      exact reports_nil
  | .name text pos => reports_name text pos
  | .call text pos opening args closing => by
      rw [Primary.tree, Primary.named, ← @Args.length_trees free args]
      exact reports_call args.reports_trees
  | .group opening inner closing => inner.reports_under carries_id carries_id

theorem Args.reports_trees : ∀ a : Args, Reports free a.named (checkAll free a.trees)
  | .last e => by
      have reports := (e.reports_under carries_id carries_id).bind (@reports_nil free)
      rw [Args.trees, checkAll, checkAll, Args.named]
      simpa using reports
  | .more e comma more => by
      rw [Args.trees, checkAll, Args.named]
      exact (e.reports_under carries_id carries_id).bind more.reports_trees

end

/-- The fault of a tree lies at the first of its names that is not known. -/
theorem Expression.reports_tree (e : Expression) : Reports free e.named (check free e.tree) :=
  e.reports_under carries_id carries_id

/-- The names of a text that is read are reported in the order of its words. -/
theorem reports_listed {text : List Char} {tokens : Tokens} {r : Expr}
    (tokenized : Token.tokenize text = .ok tokens) (read : Parse.parseWithin none text = .ok r) :
    Reports free (listed tokens.words) (check free r) := by
  obtain ⟨e, words, rfl⟩ := (parseWithin_none_eq_ok_iff tokenized).1 read
  have names : listed tokens.words = e.named := by
    have told := e.listed_words (clear_nil [.opening])
    rwa [List.append_nil, words, listed, List.append_nil] at told
  rw [names]
  exact e.reports_tree

/-- The first name of a text that is not known has the smallest offset of all that are not. -/
theorem exists_leftmost {text : List Char} {tokens : Tokens} {fault : CompileError}
    (tokenized : Token.tokenize text = .ok tokens)
    (reports : Reports free (listed tokens.words) (.error fault)) :
    ∃ t, Use.Offender free tokens.words t ∧ fault.position? = some (t.position : Int) ∧
      (∀ u, Use.Offender free tokens.words u → t.position ≤ u.position) ∧
      t.lexeme.text.toList <+: text.drop t.position := by
  obtain ⟨before, ⟨t, use⟩, after, split, known, unknown, position⟩ := reports
  have offender : Use.Offender free tokens.words t :=
    Use.offender_iff.2 ⟨use, by rw [split]; simp, unknown⟩
  have grows := (Tokens.pairwise tokenized).sublist (Use.sublist_listed tokens.words)
  refine ⟨t, offender, position, fun u other => ?_, ?_⟩
  · obtain ⟨use', member, unknown'⟩ := Use.offender_iff.1 other
    rw [split] at grows member
    rcases List.mem_append.1 member with earlier | later
    · exact absurd (known _ earlier) unknown'
    · rcases List.mem_cons.1 later with here | later
      · obtain ⟨rfl, -⟩ := Prod.mk.inj here
        exact le_rfl
      · rw [List.map_append, List.map_cons] at grows
        obtain ⟨-, rest, -⟩ := List.pairwise_append.1 grows
        exact le_of_lt ((List.pairwise_cons.1 rest).1 u (List.mem_map_of_mem later))
  · obtain ⟨before, rest, words, -⟩ := offender
    exact Tokens.text_at tokenized t (by rw [words]; simp)

end Grammar

namespace Compiled

variable {source free : String} {tokens : Tokens} {r : Expr}

/-- A text that is read is compiled if its tree is accepted, and is otherwise refused for the fault
of its tree, unless it is nested too deeply. -/
theorem ofTextWithin_cases (limit : Option Nat) (identifier : isIdentifier free.toList = true)
    (read : Parse.parseWithin none source.toList = .ok r) :
    limit.isSome = true ∧ ofTextWithin limit source free = .error .nestedTooDeeply ∨
      (∃ f, ofTextWithin limit source free = .ok f ∧ Expr.check free r = .ok ()) ∨
      ∃ fault, ofTextWithin limit source free = .error fault ∧
        Expr.check free r = .error fault := by
  rcases Parse.parseWithin_limited limit source.toList with same | deep
  · rw [ofTextWithin_eq identifier (same.trans read)]
    have refined := r.build_refines limit free
    cases built : r.build limit free with
    | ok f =>
        rw [built] at refined
        exact .inr (.inl ⟨_, rfl, refined.1⟩)
    | error fault =>
        rw [built] at refined
        rcases refined with checked | ⟨limited, rfl⟩
        · exact .inr (.inr ⟨fault, rfl, checked⟩)
        · exact .inl ⟨limited, rfl⟩
  · refine .inl ⟨?_, ?_⟩
    · cases limit with
      | none => rw [read] at deep; cases deep
      | some most => rfl
    · simp [ofTextWithin, identifier, deep, bind, Except.bind]

/-- **A text that is read is refused at its leftmost name that is not known as it is used**, and
only where there is such a name; the name stands at the offset that is reported. Only a text that is
nested too deeply for the limit may be refused for that. -/
theorem ofTextWithin_blames_name (limit : Option Nat) (identifier : isIdentifier free.toList = true)
    (tokenized : Token.tokenize source.toList = .ok tokens)
    (read : Parse.parseWithin none source.toList = .ok r) :
    limit.isSome = true ∧ ofTextWithin limit source free = .error .nestedTooDeeply ∨
      ((∃ fault, ofTextWithin limit source free = .error fault) ↔
          ∃ t, Use.Offender free tokens.words t) ∧
        ∀ fault, ofTextWithin limit source free = .error fault →
          ∃ t, Use.Offender free tokens.words t ∧ fault.position? = some (t.position : Int) ∧
            (∀ u, Use.Offender free tokens.words u → t.position ≤ u.position) ∧
            t.lexeme.text.toList <+: source.toList.drop t.position := by
  have reports : Grammar.Reports free (Use.listed tokens.words) (Expr.check free r) :=
    Grammar.reports_listed tokenized read
  refine (ofTextWithin_cases limit identifier read).imp_right fun outcome => ?_
  rcases outcome with ⟨f, compiled, checked⟩ | ⟨fault, refused, checked⟩
  · rw [checked] at reports
    rw [compiled]
    refine ⟨iff_of_false (by simp) ?_, by simp⟩
    rintro ⟨t, offender⟩
    obtain ⟨use, member, unknown⟩ := Use.offender_iff.1 offender
    exact unknown (reports _ member)
  · rw [checked] at reports
    rw [refused]
    obtain ⟨t, offender, leftmost⟩ := Grammar.exists_leftmost tokenized reports
    refine ⟨iff_of_true ⟨fault, rfl⟩ ⟨t, offender⟩, ?_⟩
    rintro fault' same
    obtain rfl := Except.error.inj same
    exact ⟨t, offender, leftmost⟩

/-- The theorem at a text with an unknown name before a call with too many arguments. -/
theorem ofTextWithin_blames_name_unknown : ∃ tokens,
    Token.tokenize "sin(y) + cos(x, 2)".toList = .ok tokens ∧
      ofText "sin(y) + cos(x, 2)" "x" = .error (.unknownName "y" "x" 4) ∧
      ∃ t, Use.Offender "x" tokens.words t ∧ t.position = 4 ∧
        ∀ u, Use.Offender "x" tokens.words u → 4 ≤ u.position := by
  have tokenized : Token.tokenize "sin(y) + cos(x, 2)".toList = .ok ⟨[⟨.name "sin", 0⟩,
      ⟨.opening, 3⟩, ⟨.name "y", 4⟩, ⟨.closing, 5⟩, ⟨.plus, 7⟩, ⟨.name "cos", 9⟩, ⟨.opening, 12⟩,
      ⟨.name "x", 13⟩, ⟨.comma, 14⟩, ⟨.number "2", 16⟩, ⟨.closing, 17⟩], 18⟩ := by decide +kernel
  have reads : ∀ limit, limit = none ∨ limit = some Parse.depthLimit →
      Parse.parseWithin limit "sin(y) + cos(x, 2)".toList =
        .ok (.binary .add (.call "sin" [.var "y" 4] 0)
          (.call "cos" [.var "x" 13, .const (Parse.numberValue "2")] 9)) := by
    rintro limit (rfl | rfl) <;> (rw [Parse.parseWithin, tokenized]; rfl)
  have identifier : isIdentifier "x".toList = true := by decide +kernel
  have refused : ofText "sin(y) + cos(x, 2)" "x" = .error (.unknownName "y" "x" 4) :=
    ofTextWithin_of_fault identifier (reads _ (.inr rfl)) rfl rfl
  refine ⟨_, tokenized, refused, ?_⟩
  rcases ofTextWithin_blames_name (some Parse.depthLimit) identifier tokenized
    (reads _ (.inl rfl)) with ⟨-, deep⟩ | ⟨-, leftmost⟩
  · cases refused.symm.trans deep
  · obtain ⟨t, offender, position, least, -⟩ := leftmost _ refused
    have here : t.position = 4 := (Int.natCast_inj.1 (Option.some.inj position)).symm
    exact ⟨t, offender, here, fun u other => here ▸ least u other⟩

end Compiled

end Quadrature
