/-
# Quadrature.Expr.Parse -- from words to trees

The language, from the loosest operators to the tightest:

    expression = term { ("+" | "-") term }
    term       = unary { ("*" | "/") unary }
    unary      = ("+" | "-") unary | power
    power      = primary [ "^" unary ]
    primary    = number | name | name "(" expression { "," expression } ")" | "(" expression ")"

`run` reads the words one by one. What has been read and still waits for a right operand is kept
in `Pending`, one for each open parenthesis: at most one sum, at most one product, and then signs
and powers, which bind tighter than what stands to their left. A word that continues no tree is
reported at once, so the position of an error is the first word after which no continuation helps.

The depth of a state counts what encloses the next operand. A text whose depth passes the limit is
refused where it does.
-/
import Quadrature.Expr.Basic
import Quadrature.Expr.Token
import Quadrature.Number.Numeral

namespace Quadrature.Parse

set_option autoImplicit false

open Quadrature.Number

/-- A tight operator that waits for its operand on the right. -/
inductive Tight where
  | sign (op : Op)
  | power (base : Expr)

/-- The operators of one bracket level that wait for their right operand. -/
structure Pending where
  sum : Option (Op × Expr)
  product : Option (Op × Expr)
  /-- Signs and powers, the last read first. -/
  tight : List Tight

/-- Nothing is waiting. -/
def Pending.none : Pending := ⟨Option.none, Option.none, []⟩

/-- What a parenthesis opened. -/
inductive Bracket where
  | group
  /-- A call, with the arguments already read, the last first. -/
  | call (name : String) (position : Nat) (args : List Expr)

/-- The open brackets, the innermost first, each with what waits outside it. -/
abbrev Outer := List (Bracket × Pending)

/-- Where the reader stands. -/
inductive State where
  /-- An operand has to follow. -/
  | operand (pending : Pending) (outer : Outer)
  /-- An operand was completed. -/
  | complete (e : Expr) (pending : Pending) (outer : Outer)

/-! ## Completing what waits -/

/-- Give a tight operator its operand. -/
def Tight.apply (e : Expr) : Tight → Expr
  | .sign op => .unary op e
  | .power base => .binary .pow base e

namespace Pending

/-- Complete signs and powers. -/
def closeTight (p : Pending) (e : Expr) : Expr := p.tight.foldl Tight.apply e

/-- Complete signs, powers and the product. -/
def closeProduct (p : Pending) (e : Expr) : Expr :=
  match p.product with
  | some (op, left) => .binary op left (p.closeTight e)
  | Option.none => p.closeTight e

/-- Complete everything of this bracket level. -/
def closeSum (p : Pending) (e : Expr) : Expr :=
  match p.sum with
  | some (op, left) => .binary op left (p.closeProduct e)
  | Option.none => p.closeProduct e

/-- Wait for the right operand of a sign. -/
def withSign (p : Pending) (op : Op) : Pending := { p with tight := .sign op :: p.tight }

/-- Wait for the exponent of `base`. -/
def withPower (p : Pending) (base : Expr) : Pending := { p with tight := .power base :: p.tight }

/-- Wait for the right operand of a product. -/
def withProduct (p : Pending) (op : Op) (e : Expr) : Pending :=
  { p with product := some (op, p.closeProduct e), tight := [] }

/-- Wait for the right operand of a sum. -/
def withSum (p : Pending) (op : Op) (e : Expr) : Pending :=
  ⟨some (op, p.closeSum e), Option.none, []⟩

end Pending

/-! ## Depth -/

/-- What an operator adds to the depth of its right operand. -/
def Tight.cost : Tight → Nat
  | .sign _ => 1
  | .power _ => 2

/-- What a bracket adds to the depth of its contents. -/
def Bracket.cost : Bracket → Nat
  | .group => 5
  | .call .. => 6

/-- What the tight operators of a level add to the depth. -/
def Pending.cost (p : Pending) : Nat := p.tight.foldr (fun t total => t.cost + total) 0

/-- The depth of the next operand. -/
def depth (p : Pending) (outer : Outer) : Nat :=
  p.cost + outer.foldr (fun level total => level.1.cost + level.2.cost + total) 0

/-- The depth is within the limit, if there is one. -/
def within (limit : Option Nat) (depth : Nat) : Bool :=
  match limit with
  | some most => depth ≤ most
  | none => true

/-- Go on to an operand, unless it is nested too deeply. -/
def descend (limit : Option Nat) (p : Pending) (outer : Outer) : Except CompileError State :=
  if within limit (depth p outer) then .ok (.operand p outer) else .error .nestedTooDeeply

/-! ## Reading -/

/-- The value of a number. -/
def numberValue (text : String) : Float := (Numeral.read? text.toList).getD 0

/-- The fault of a word, or of the end, that follows a completed operand. -/
def misplaced (outer : Outer) (found : Found) (closes : Bool) : CompileError :=
  match outer with
  | [] => if closes then .unopenedGroup found else .trailingInput found
  | (.group, _) :: _ => .unclosedGroup found
  | (.call name _ _, _) :: _ => .unclosedCall name found

/-- Where a word leads after a completed operand. -/
def afterOperand (limit : Option Nat) (e : Expr) (p : Pending) (outer : Outer) (t : Token) :
    Except CompileError State :=
  match t.lexeme with
  | .caret => descend limit (p.withPower e) outer
  | .times => descend limit (p.withProduct .mul e) outer
  | .over => descend limit (p.withProduct .div e) outer
  | .plus => descend limit (p.withSum .add e) outer
  | .minus => descend limit (p.withSum .sub e) outer
  | .closing =>
    match outer with
    | (.group, q) :: outer => .ok (.complete (p.closeSum e) q outer)
    | (.call name position args, q) :: outer =>
      .ok (.complete (.call name (args.reverse ++ [p.closeSum e]) position) q outer)
    | [] => .error (misplaced [] t.found true)
  | .comma =>
    match outer with
    | (.call name position args, q) :: outer =>
      descend limit .none ((.call name position (p.closeSum e :: args), q) :: outer)
    | _ => .error (misplaced outer t.found false)
  | _ => .error (misplaced outer t.found false)

/-- The tree of the words that follow, from a state; `finish` is the offset of the end. -/
def run (limit : Option Nat) (finish : Nat) : State → List Token → Except CompileError Expr
  | .operand _ _, [] => .error (.expectedOperand ⟨none, finish⟩)
  | .operand p outer, t :: ts =>
    match t.lexeme with
    | .number text => run limit finish (.complete (.const (numberValue text)) p outer) ts
    | .name name =>
      match ts with
      | ⟨.opening, _⟩ :: ⟨.closing, at'⟩ :: _ =>
        .error (.callWithoutArguments name (Token.found ⟨.closing, at'⟩))
      | ⟨.opening, _⟩ :: ts => do
        run limit finish (← descend limit .none ((.call name t.position [], p) :: outer)) ts
      | ts => run limit finish (.complete (.var name t.position) p outer) ts
    | .plus => do run limit finish (← descend limit (p.withSign .add) outer) ts
    | .minus => do run limit finish (← descend limit (p.withSign .sub) outer) ts
    | .opening => do run limit finish (← descend limit .none ((.group, p) :: outer)) ts
    | _ => .error (.expectedOperand t.found)
  | .complete e p [], [] => .ok (p.closeSum e)
  | .complete _ _ outer, [] => .error (misplaced outer ⟨none, finish⟩ false)
  | .complete e p outer, t :: ts => do
    run limit finish (← afterOperand limit e p outer t) ts

/-- The tree of a sequence of words. -/
def tree (limit : Option Nat) (tokens : Tokens) : Except CompileError Expr :=
  match tokens.words with
  | [] => .error .emptyText
  | words => run limit tokens.finish (.operand .none []) words

/-- The tree of a text. -/
def parseWithin (limit : Option Nat) (text : List Char) : Except CompileError Expr := do
  tree limit (← Token.tokenize text)

/-- The depth that an expression may have, in the reader and in the compiler. -/
def depthLimit : Nat := 980

/-- The tree of a text of limited depth. -/
def parse (text : List Char) : Except CompileError Expr := parseWithin (some depthLimit) text

end Quadrature.Parse
