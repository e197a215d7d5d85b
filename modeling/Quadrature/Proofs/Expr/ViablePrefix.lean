/-
# Quadrature.Proofs.Expr.ViablePrefix -- a fault lies at the first word that no text can go on with

The reader goes from state to state, and each state can be completed: by an operand, if one has to
follow, and by a parenthesis for each open bracket. So the words read before a fault begin a text
that is accepted. The word at the fault leads to no state, whatever follows it.

Where a name is read, the next word tells whether it is called. So whether words are accepted
depends on the state behind the name only as long as no other parenthesis follows (`Reaches`).

* `exists_blamed`: where the reader fails, it has got to a state that the next word does not suit;
* `accepts_completion`: every state can be completed;
* `parseWithin_blames`: the words before a fault begin an accepted text, with the word at the fault
  they begin none.
-/
import Quadrature.Proofs.Expr.Placement

namespace Quadrature

set_option autoImplicit false

open Quadrature.Text
open Quadrature.Piece (spell place)
open Quadrature.Grammar (Clear Expression run_operand_number run_operand_name
  run_operand_call_within)

/-- What was found where something else should be, if the reader found the fault. -/
def CompileError.found? : CompileError → Option Found
  | .expectedOperand f | .callWithoutArguments _ f | .unclosedCall _ f | .unclosedGroup f
  | .unopenedGroup f | .trailingInput f => some f
  | _ => none

theorem CompileError.position?_of_found? {fault : CompileError} {found : Found}
    (same : fault.found? = some found) : fault.position? = some (found.position : Int) := by
  cases fault <;> first | cases same; rfl | cases same

namespace Parse

/-! ## States that words lead to -/

/-- The words lead from the state to a tree. -/
def Accepts (limit : Option Nat) (finish : Nat) (s : State) (ts : List Token) : Prop :=
  ∃ r, run limit finish s ts = .ok r

/-- Behind `before` the reader accepts what it accepts in the state `s'`. This is said of all words,
but of words that begin with a parenthesis only if `after` does too. -/
def Reaches (limit : Option Nat) (s : State) (before : List Token) (s' : State)
    (after : List Token) : Prop :=
  ∀ finish rest, (Clear [.opening] after → Clear [.opening] rest) →
    (Accepts limit finish s (before ++ rest) ↔ Accepts limit finish s' rest)

/-- Nothing that begins as `after` does is accepted, and not the end if there is nothing in it. -/
def Stuck (s : State) (after : List Token) : Prop :=
  ∀ finish rest, rest.head? = after.head? → ¬ Accepts none finish s rest

section

variable {limit l : Option Nat} {finish : Nat} {s s' s₁ q : State} {t : Token}
  {ws ts before after : List Token} {e : Expr} {p : Pending} {outer : Outer}
  {fault : CompileError}

theorem Reaches.refl (l : Option Nat) (s : State) (after : List Token) : Reaches l s [] s after :=
  fun _ _ _ => .rfl

theorem Reaches.trans (first : Reaches l s ws s₁ (before ++ after))
    (second : Reaches l s₁ before s' after) : Reaches l s (ws ++ before) s' after := by
  intro finish rest clear
  have clear' : Clear [.opening] (before ++ after) → Clear [.opening] (before ++ rest) := by
    cases before with
    | nil => exact clear
    | cons t before => simp
  rw [List.append_assoc, first finish _ clear', second finish rest clear]

/-- One word leads to the state that follows. -/
theorem reaches_of_next (next : Except CompileError State)
    (runs : ∀ finish rest, run l finish s (t :: rest) = (do run l finish (← next) rest))
    (entered : next = .ok q) : Reaches l s [t] q after := by
  intro finish rest _
  unfold Accepts
  rw [List.singleton_append, runs, entered]
  rfl

theorem reaches_number {text : String} (word : t.lexeme = .number text) :
    Reaches l (.operand p outer) [t] (.complete (.const (numberValue text)) p outer) after := by
  obtain ⟨lexeme, pos⟩ := t
  obtain rfl : lexeme = .number text := word
  exact reaches_of_next (.ok _) (fun finish rest => run_operand_number p outer text pos rest) rfl

/-- A name that is not called is an operand. -/
theorem reaches_name {name : String} (word : t.lexeme = .name name)
    (clear : Clear [.opening] after) :
    Reaches l (.operand p outer) [t] (.complete (.var name t.position) p outer) after := by
  obtain ⟨lexeme, pos⟩ := t
  obtain rfl : lexeme = .name name := word
  intro finish rest bare
  unfold Accepts
  rw [List.singleton_append, run_operand_name p outer name pos (bare clear)]

/-- Behind a name and a parenthesis a parenthesis that closes is accepted neither way. -/
theorem reaches_call {name : String} (word : t.lexeme = .name name) (opening : Nat)
    (entered : descend l .none ((.call name t.position [], p) :: outer) =
      .ok (.operand .none ((.call name t.position [], p) :: outer))) :
    Reaches l (.operand p outer) [t, ⟨.opening, opening⟩]
      (.operand .none ((.call name t.position [], p) :: outer)) after := by
  obtain ⟨lexeme, pos⟩ := t
  obtain rfl : lexeme = .name name := word
  intro finish rest _
  unfold Accepts
  rw [List.cons_append, List.singleton_append]
  by_cases clear : Clear [.closing] rest
  · rw [run_operand_call_within p outer name pos opening clear, entered]
    rfl
  · cases rest with
    | nil => simp at clear
    | cons u rest =>
        obtain ⟨lexeme, pos⟩ := u
        obtain rfl : lexeme = .closing := by simpa using clear
        exact iff_of_false (by simp [run]) (by simp [run])

/-! ## Where the reader fails -/

theorem exists_of_descend {p' : Pending} {outer' : Outer}
    (failed : (do run limit finish (← descend limit p' outer') ts) = .error fault)
    (shallow : fault ≠ .nestedTooDeeply) :
    descend limit p' outer' = .ok (.operand p' outer') ∧
      run limit finish (.operand p' outer') ts = .error fault := by
  unfold descend at failed ⊢
  split
  case isTrue entered =>
    rw [if_pos entered] at failed
    exact ⟨rfl, failed⟩
  case isFalse refused =>
    rw [if_neg refused] at failed
    exact absurd (Except.error.inj failed).symm shallow

theorem misplaced_found? (outer : Outer) (found : Found) (closes : Bool) :
    (misplaced outer found closes).found? = some found := by
  unfold misplaced
  repeat' split
  all_goals rfl

theorem eq_of_descend (failed : descend limit p outer = .error fault) :
    fault = .nestedTooDeeply := by
  unfold descend at failed
  split at failed
  · cases failed
  · exact (Except.error.inj failed).symm

/-- A word that leads nowhere was found there. -/
theorem afterOperand_found? (failed : afterOperand limit e p outer t = .error fault)
    (shallow : fault ≠ .nestedTooDeeply) : fault.found? = some t.found := by
  unfold afterOperand at failed
  split at failed
  case h_6 =>
    split at failed
    · cases failed
    · cases failed
    · rw [← Except.error.inj failed]
      exact misplaced_found? [] t.found true
  case h_7 =>
    split at failed
    · exact absurd (eq_of_descend failed) shallow
    · rw [← Except.error.inj failed]
      exact misplaced_found? outer t.found false
  case h_8 =>
    rw [← Except.error.inj failed]
    exact misplaced_found? outer t.found false
  all_goals exact absurd (eq_of_descend failed) shallow

/-- The fault lies at the first of `after`, at which the reader is stuck, and `before` leads there.
A call without arguments is refused before it is known whether an argument would be nested too
deeply. -/
structure Blamed (limit : Option Nat) (finish : Nat) (s : State) (ts : List Token)
    (fault : CompileError) (before after : List Token) (s' : State) : Prop where
  words : ts = before ++ after
  position : fault.position? = some ((after.head?.elim finish Token.position : Nat) : Int)
  stuck : Stuck s' after
  reaches : Reaches none s before s' after
  limited : (∀ name found, fault ≠ .callWithoutArguments name found) →
    Reaches limit s before s' after

theorem Blamed.step (blamed : Blamed limit finish s₁ ts fault before after s') (ws : List Token)
    (reaches : ∀ l, l = none ∨ l = limit → Reaches l s ws s₁ ts) :
    Blamed limit finish s (ws ++ ts) fault (ws ++ before) after s' := by
  rw [blamed.words] at reaches
  constructor
  case words => rw [blamed.words, List.append_assoc]
  case position => exact blamed.position
  case stuck => exact blamed.stuck
  case reaches => exact (reaches none (.inl rfl)).trans blamed.reaches
  case limited => exact fun other => (reaches limit (.inr rfl)).trans (blamed.limited other)

/-- A fault at the first word. -/
theorem blamed_here
    (position : fault.position? = some ((ts.head?.elim finish Token.position : Nat) : Int))
    (stuck : Stuck s ts) : Blamed limit finish s ts fault [] ts s :=
  ⟨rfl, position, stuck, .refl none s ts, fun _ => .refl limit s ts⟩

theorem stuck_nil (failed : ∀ finish, ¬ Accepts none finish s []) : Stuck s [] := by
  intro finish rest first
  obtain rfl : rest = [] := by simpa using first
  exact failed finish

theorem stuck_cons (failed : ∀ finish rest, ¬ Accepts none finish s (t :: rest)) :
    Stuck s (t :: ts) := by
  intro finish rest first
  obtain ⟨rest, rfl⟩ := List.head?_eq_some_iff.1 first
  exact failed finish rest

/-- What is entered within a limit is entered without one. -/
theorem entered_of_limited {p' : Pending} {outer' : Outer}
    (entered : descend limit p' outer' = .ok (.operand p' outer')) :
    ∀ l, l = none ∨ l = limit → descend l p' outer' = .ok (.operand p' outer') := by
  rintro l (rfl | rfl)
  · rfl
  · exact entered

/-- What a word behind an operand leads to within a limit, it leads to without one. -/
theorem afterOperand_of_limited {q : State} (next : afterOperand limit e p outer t = .ok q) :
    ∀ l, l = none ∨ l = limit → afterOperand l e p outer t = .ok q := by
  rintro l (rfl | rfl)
  · exact (afterOperand_limited limit e p outer t).eq_ok next
  · exact next

/-- A word behind an operand that leads nowhere leads nowhere without a limit either. -/
theorem stuck_of_afterOperand (failed : afterOperand limit e p outer t = .error fault)
    (shallow : fault ≠ .nestedTooDeeply) : Stuck (.complete e p outer) (t :: ts) := by
  refine stuck_cons fun finish rest => ?_
  have free : afterOperand none e p outer t = .error fault := by
    rcases afterOperand_limited limit e p outer t with same | deep
    · rw [← same, failed]
    · rw [failed] at deep
      exact absurd (Except.error.inj deep) shallow
  rintro ⟨r, accepted⟩
  rw [run, free] at accepted
  cases accepted

/-- Where the reader fails, the words before the fault lead to a state in which it is stuck. -/
theorem exists_blamed (failed : run limit finish s ts = .error fault)
    (shallow : fault ≠ .nestedTooDeeply) :
    ∃ before after s', Blamed limit finish s ts fault before after s' := by
  -- By induction along the words read: each word read leads to the next state.
  fun_induction run limit finish s ts with
  | case1 p outer =>
      obtain rfl := Except.error.inj failed
      refine ⟨_, _, _, blamed_here rfl (stuck_nil fun finish => ?_)⟩
      simp [Accepts, run]
  | case2 p outer t ts text word ih =>
      obtain ⟨before, after, s', blamed⟩ := ih failed
      exact ⟨_, _, _, blamed.step [t] fun l _ => reaches_number word⟩
  | case3 p outer t name word opening closing ts =>
      obtain rfl := Except.error.inj failed
      refine ⟨[t, ⟨.opening, opening⟩], ⟨.closing, closing⟩ :: ts, _, rfl, rfl,
        stuck_cons fun finish rest => ?_, reaches_call word opening rfl, fun other => ?_⟩
      · simp [Accepts, run]
      · exact absurd rfl (other _ _)
  | case4 p outer t name word opening ts more ih =>
      obtain ⟨entered, failed⟩ := exists_of_descend failed shallow
      obtain ⟨before, after, s', blamed⟩ := ih _ failed
      exact ⟨_, _, _, blamed.step [t, ⟨.opening, opening⟩] fun l bound =>
        reaches_call word opening (entered_of_limited entered l bound)⟩
  | case5 p outer t name word ts bare plain ih =>
      obtain ⟨before, after, s', blamed⟩ := ih failed
      refine ⟨_, _, _, blamed.step [t] fun l _ => reaches_name word ?_⟩
      intro u first opening
      obtain ⟨lexeme, pos⟩ := u
      obtain ⟨us, rfl⟩ := List.head?_eq_some_iff.1 first
      obtain rfl : lexeme = .opening := by simpa using opening
      exact plain _ _ rfl
  | case6 p outer t ts word ih | case7 p outer t ts word ih | case8 p outer t ts word ih =>
      obtain ⟨entered, failed⟩ := exists_of_descend failed shallow
      obtain ⟨before, after, s', blamed⟩ := ih _ failed
      exact ⟨_, _, _, blamed.step [t] fun l bound => reaches_of_next _
        (fun finish rest => by rw [run, word]) (entered_of_limited entered l bound)⟩
  | case9 p outer t ts number name plus minus opening =>
      obtain rfl := Except.error.inj failed
      refine ⟨_, _, _, blamed_here rfl (stuck_cons fun finish rest => ?_)⟩
      rintro ⟨r, accepted⟩
      rw [run] at accepted
      split at accepted <;> simp_all
  | case10 e p => cases failed
  | case11 e p outer inside =>
      obtain rfl := Except.error.inj failed
      refine ⟨_, _, _, blamed_here
        (CompileError.position?_of_found? (misplaced_found? outer ⟨none, finish⟩ false))
        (stuck_nil fun finish => ?_)⟩
      rintro ⟨r, accepted⟩
      rw [run] at accepted
      · cases accepted
      · exact inside
  | case12 e p outer t ts ih =>
      cases next : afterOperand limit e p outer t with
      | error fault' =>
          rw [next] at failed
          obtain rfl := Except.error.inj failed
          exact ⟨_, _, _, blamed_here
            (CompileError.position?_of_found? (afterOperand_found? next shallow))
            (stuck_of_afterOperand next shallow)⟩
      | ok q =>
          rw [next] at failed
          obtain ⟨before, after, s', blamed⟩ := ih q failed
          exact ⟨_, _, _, blamed.step [t] fun l bound => reaches_of_next _
            (fun finish rest => by rw [run]) (afterOperand_of_limited next l bound)⟩

/-! ## States that can be completed -/

/-- Words that complete a state: an operand, if one has to follow, and what closes the open
brackets. -/
def State.completion : State → List Lexeme
  | .operand _ outer => .number "0" :: List.replicate outer.length .closing
  | .complete _ _ outer => List.replicate outer.length .closing

theorem accepts_closing {ts : List Token}
    (words : ts.map Token.lexeme = List.replicate outer.length .closing) :
    Accepts limit finish (.complete e p outer) ts := by
  induction outer generalizing e p ts with
  | nil =>
      obtain rfl : ts = [] := by simpa using words
      exact ⟨_, by rw [run]⟩
  | cons level outer ih =>
      obtain ⟨⟨lexeme, pos⟩, ts, rfl, closing, rest⟩ := List.map_eq_cons_iff.1 words
      obtain rfl : lexeme = .closing := closing
      obtain ⟨bracket, q⟩ := level
      unfold Accepts
      rw [run]
      cases bracket with
      | group => exact ih rest
      | call name position args => exact ih rest

/-- Every state can be completed, within every limit. -/
theorem accepts_completion {s : State} {ts : List Token}
    (words : ts.map Token.lexeme = s.completion) : Accepts limit finish s ts := by
  cases s with
  | complete e p outer => exact accepts_closing words
  | operand p outer =>
      obtain ⟨⟨lexeme, pos⟩, ts, rfl, number, rest⟩ := List.map_eq_cons_iff.1 words
      obtain rfl : lexeme = .number "0" := number
      unfold Accepts
      rw [run]
      exact accepts_closing rest

theorem clear_completion {s : State} {ts : List Token}
    (words : ts.map Token.lexeme = s.completion) : Clear [.opening] ts := by
  intro t first
  obtain ⟨ts, rfl⟩ := List.head?_eq_some_iff.1 first
  cases s with
  | operand p outer =>
      obtain ⟨number, -⟩ := List.cons.inj words
      simp [number]
  | complete e p outer =>
      have closing : t.lexeme = .closing :=
        List.eq_of_mem_replicate (words ▸ (by simp : t.lexeme ∈ (t :: ts).map Token.lexeme))
      simp [closing]

end

/-! ## Accepted words -/

/-- The words are those of a text that is read within the limit. -/
def Accepted (limit : Option Nat) (words : List Lexeme) : Prop :=
  ∃ text tokens tree, Token.tokenize text = .ok tokens ∧
    tokens.words.map Token.lexeme = words ∧ parseWithin limit text = .ok tree

theorem tree_eq_run {limit : Option Nat} {finish : Nat} {ts : List Token} (some : ts ≠ []) :
    tree limit ⟨ts, finish⟩ = run limit finish (.operand .none []) ts := by
  obtain ⟨t, ts, rfl⟩ := List.exists_cons_of_ne_nil some
  rfl

/-- Pieces whose words the reader accepts spell a text that is read. -/
theorem accepted_of_accepts {limit : Option Nat} {ps : List Piece}
    (accepts : Accepts limit (spell ps).length (.operand .none []) (place 0 ps)) :
    Accepted limit (ps.map Piece.word) := by
  obtain ⟨r, ran⟩ := accepts
  have some : place 0 ps ≠ [] := by
    intro none
    rw [none, run] at ran
    cases ran
  rw [← tree_eq_run some] at ran
  obtain ⟨e, words, -⟩ := Grammar.tree_none_eq_ok_iff.1 ((tree_limited limit _).eq_ok ran)
  have lexemes : ps.map Piece.word = e.lexemes := by
    rw [Expression.lexemes, words, Piece.place_lexeme]
  have scanned : Token.scan 0 (spell ps ++ []) = .ok (place 0 ps) :=
    Token.scan_spell 0 (lexemes ▸ e.apart) (by simp)
  rw [List.append_nil] at scanned
  have tokenized : Token.tokenize (spell ps) = .ok ⟨place 0 ps, (spell ps).length⟩ := by
    rw [Token.tokenize, scanned]
    rfl
  refine ⟨spell ps, _, r, tokenized, Piece.place_lexeme 0 ps, ?_⟩
  rw [parseWithin, tokenized]
  exact ran

/-- Accepted words are accepted wherever they stand. -/
theorem accepts_of_accepted {finish : Nat} {ts : List Token}
    (accepted : Accepted none (ts.map Token.lexeme)) :
    Accepts none finish (.operand .none []) ts := by
  obtain ⟨text, tokens, r, tokenized, words, read⟩ := accepted
  obtain ⟨e, same, -⟩ := (Grammar.parseWithin_none_eq_ok_iff tokenized).1 read
  have lexemes : ts.map Token.lexeme = e.lexemes := by rw [Expression.lexemes, same, words]
  obtain ⟨e', placed, -⟩ := e.exists_words lexemes
  obtain ⟨w, ws, first, -⟩ := e'.words_head
  refine ⟨e'.tree, ?_⟩
  rw [← tree_eq_run (by rw [← placed, first]; simp)]
  exact Grammar.tree_none_eq_ok_iff.2 ⟨e', placed, rfl⟩

/-- The words that complete a state can be spelled. -/
theorem exists_completion_pieces (s : State) :
    ∃ qs : List Piece, qs.map Piece.word = s.completion := by
  have number : (Lexeme.number "0").Fits [] := by
    unfold Lexeme.Fits
    decide +kernel
  have closing : Lexeme.closing.Fits [] := Lexeme.fits_symbol (c := ')') rfl []
  have closings : ∀ n, ∃ qs : List Piece, qs.map Piece.word = List.replicate n .closing :=
    fun n => ⟨List.replicate n ⟨[], .closing, by simp, closing⟩, by simp⟩
  cases s with
  | operand p outer =>
      obtain ⟨qs, words⟩ := closings outer.length
      exact ⟨⟨[], .number "0", by simp, number⟩ :: qs, by simp [words, State.completion]⟩
  | complete e p outer => exact closings outer.length


/-- Where words lead to a state, they begin an accepted text. -/
theorem exists_accepted {limit : Option Nat} {ps : List Piece} {s' : State} {after : List Token}
    (reaches : Reaches limit (.operand .none []) (place 0 ps) s' after) :
    ∃ more, Accepted limit (ps.map Piece.word ++ more) := by
  obtain ⟨qs, words⟩ := exists_completion_pieces s'
  have completes : ∀ n, (place n qs).map Token.lexeme = s'.completion := fun n =>
    (Piece.place_lexeme n qs).trans words
  refine ⟨qs.map Piece.word, ?_⟩
  rw [← List.map_append]
  apply accepted_of_accepts
  rw [Piece.place_append]
  exact (reaches _ _ fun _ => clear_completion (completes _)).2 (accepts_completion (completes _))

/-- In a state in which the reader is stuck, no accepted words go on as it would have to. -/
theorem not_accepted {before after : List Token} {s' : State} (stuck : Stuck s' after)
    (reaches : Reaches none (.operand .none []) before s' after) (rest : List Token)
    (first : rest.head? = after.head?) : ¬ Accepted none ((before ++ rest).map Token.lexeme) := by
  intro accepted
  have clear : Clear [.opening] after → Clear [.opening] rest := by
    intro clear t here
    exact clear t (first ▸ here)
  exact stuck 0 rest first ((reaches 0 rest clear).1 (accepts_of_accepted accepted))

/-- **A fault lies at the first word that no text can go on with**: the words before it begin an
accepted text, and no accepted text begins with these words and the word at the fault, or consists
of these words if the fault lies at the end. Within a limit the same words begin an accepted text,
unless the fault is a call without arguments, which is refused before its arguments could be nested
too deeply. -/
theorem parseWithin_blames (limit : Option Nat) {text : List Char} {tokens : Tokens}
    {fault : CompileError} (tokenized : Token.tokenize text = .ok tokens)
    (some : tokens.words ≠ []) (refused : parseWithin limit text = .error fault)
    (shallow : fault ≠ .nestedTooDeeply) :
    ∃ p : Nat, fault.position? = Option.some (p : Int) ∧
      (∃ more, Accepted none ((tokens.before p).map Token.lexeme ++ more)) ∧
      ((∀ name found, fault ≠ .callWithoutArguments name found) →
        ∃ more, Accepted limit ((tokens.before p).map Token.lexeme ++ more)) ∧
      (p = tokens.finish ∧ ¬ Accepted none ((tokens.before p).map Token.lexeme) ∨
        ∃ t ∈ tokens.words, t.position = p ∧
          ∀ more, ¬ Accepted none ((tokens.before p).map Token.lexeme ++ t.lexeme :: more)) := by
  have failed : run limit tokens.finish (.operand .none []) tokens.words = .error fault := by
    rw [← tree_eq_run some, ← refused, parseWithin, tokenized]
    rfl
  obtain ⟨before, after, s', words, position, stuck, reaches, limited⟩ :=
    exists_blamed failed shallow
  obtain ⟨ps, tail, -, -, rfl⟩ := Token.tokenize_split tokenized
  obtain ⟨qs, rs, rfl, rfl, rfl⟩ := Piece.place_eq_append words
  refine ⟨_, position, ?_⟩
  have split := Tokens.before_eq tokenized words
  unfold Tokens.offset at split
  rw [split, Piece.place_lexeme]
  refine ⟨exists_accepted reaches, fun other => exists_accepted (limited other), ?_⟩
  cases rs with
  | nil =>
      have refused := not_accepted stuck reaches [] rfl
      rw [List.append_nil, Piece.place_lexeme] at refused
      exact .inl ⟨rfl, refused⟩
  | cons r rs =>
      refine .inr ⟨_, by rw [words]; simp [place], rfl, fun more => ?_⟩
      have refused := not_accepted stuck reaches
        (⟨r.word, 0 + (spell qs).length + r.gap.length⟩ :: more.map (⟨·, 0⟩)) rfl
      simpa [Function.comp_def] using refused

/-- The theorem at a group in which an operand is missing. -/
theorem parseWithin_blames_operand :
    (∃ tokens, Token.tokenize "2*(3+)".toList = .ok tokens ∧ tokens.words ≠ []) ∧
      parse "2*(3+)".toList = .error (.expectedOperand ⟨some ")", 5⟩) ∧
      (∃ more, Accepted (some depthLimit)
        ([.number "2", .times, .opening, .number "3", .plus] ++ more)) ∧
      ∀ more, ¬ Accepted none
        ([.number "2", .times, .opening, .number "3", .plus] ++ .closing :: more) := by
  have tokenized : Token.tokenize "2*(3+)".toList = .ok ⟨[⟨.number "2", 0⟩, ⟨.times, 1⟩,
      ⟨.opening, 2⟩, ⟨.number "3", 3⟩, ⟨.plus, 4⟩, ⟨.closing, 5⟩], 6⟩ := by decide +kernel
  have refused : parse "2*(3+)".toList = .error (.expectedOperand ⟨some ")", 5⟩) := by
    rw [parse, parseWithin, tokenized]
    rfl
  obtain ⟨p, position, -, within, last⟩ :=
    parseWithin_blames (some depthLimit) tokenized (by simp) refused (by simp)
  obtain rfl : 5 = p := Int.natCast_inj.1 (Option.some.inj position)
  refine ⟨⟨_, tokenized, by simp⟩, refused, within (by simp), ?_⟩
  rcases last with ⟨finish, -⟩ | ⟨t, member, here, never⟩
  · cases finish
  · obtain rfl : t = ⟨.closing, 5⟩ := by
      simp only [List.mem_cons, List.not_mem_nil, or_false] at member
      rcases member with rfl | rfl | rfl | rfl | rfl | rfl
      all_goals first | rfl | cases here
    exact never

end Parse

end Quadrature
