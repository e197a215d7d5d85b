/-
# Quadrature.Expr.Token -- the words of an expression

Numbers, names, the five operators, parentheses and the comma, separated by any blanks. A number
has decimal digits of any script, a point or an exponent; a name is of ASCII letters, digits and
underscores. Each word is the longest that fits, so `2e3` is one number and `2e` a number and a
name.
-/
import Quadrature.Expr.Error
import Quadrature.Text.Blank
import Quadrature.Text.Digit

namespace Quadrature

set_option autoImplicit false

open Quadrature.Text

/-- A word of the language. -/
inductive Lexeme where
  | number (text : String)
  | name (text : String)
  | plus
  | minus
  | times
  | over
  | caret
  | opening
  | closing
  | comma
deriving DecidableEq, Repr

/-- How a word is written. -/
def Lexeme.text : Lexeme → String
  | .number s | .name s => s
  | .plus => "+"
  | .minus => "-"
  | .times => "*"
  | .over => "/"
  | .caret => "^"
  | .opening => "("
  | .closing => ")"
  | .comma => ","

/-- A word and the offset of its first character. -/
structure Token where
  lexeme : Lexeme
  position : Nat
deriving DecidableEq, Repr

/-- The token as something found in the wrong place. -/
def Token.found (t : Token) : Found := ⟨some t.lexeme.text, t.position⟩

/-- The words of a text, and the offset of its end. -/
structure Tokens where
  words : List Token
  finish : Nat
deriving DecidableEq, Repr

namespace Lexeme

/-- How many decimal digits the text starts with. -/
def digitRun (s : List Char) : Nat := (s.takeWhile isDigit).length

/-- The length of the digits and point at the start of the text; 0 if no number starts there. -/
def mantissaLength (s : List Char) : Nat :=
  let whole := digitRun s
  match s.drop whole with
  | '.' :: rest =>
    let fraction := digitRun rest
    if whole + fraction = 0 then 0 else whole + 1 + fraction
  | _ => whole

/-- The length of the exponent at the start of the text; 0 if none starts there. -/
def exponentLength : List Char → Nat
  | mark :: rest =>
    let digits (sign : Nat) (s : List Char) : Nat :=
      match digitRun s with
      | 0 => 0
      | n => 1 + sign + n
    if mark = 'e' ∨ mark = 'E' then
      match rest with
      | '+' :: ds | '-' :: ds => digits 1 ds
      | ds => digits 0 ds
    else 0
  | [] => 0

/-- The length of the longest number at the start of the text; 0 if none starts there. -/
def numberLength (s : List Char) : Nat :=
  match mantissaLength s with
  | 0 => 0
  | n => n + exponentLength (s.drop n)

/-- The character can begin a name. -/
def isNameStart (c : Char) : Bool := c.isAlpha || c == '_'

/-- The character can stand in a name after its first character. -/
def isNameChar (c : Char) : Bool := c.isAlphanum || c == '_'

/-- The length of the longest name at the start of the text, if `continues` says which characters
follow the first; 0 if none starts there. -/
def nameLength (continues : Char → Bool) : List Char → Nat
  | c :: rest => if isNameStart c then 1 + (rest.takeWhile continues).length else 0
  | [] => 0

/-- The word that a single character makes. -/
def ofChar? : Char → Option Lexeme
  | '+' => some .plus
  | '-' => some .minus
  | '*' => some .times
  | '/' => some .over
  | '^' => some .caret
  | '(' => some .opening
  | ')' => some .closing
  | ',' => some .comma
  | _ => none

/-- What the text starts with, and its length: a word, or `none` for a run of blanks. There is no
answer where nothing of the language starts. -/
def first? (s : List Char) : Option (Option Lexeme × Nat) :=
  match (s.takeWhile isBlank).length, numberLength s, nameLength isNameChar s with
  | 0, 0, 0 => (s.head?.bind ofChar?).map fun w => (some w, 1)
  | 0, 0, n => some (some (.name (String.ofList (s.take n))), n)
  | 0, n, _ => some (some (.number (String.ofList (s.take n))), n)
  | n, _, _ => some (none, n)

end Lexeme

namespace Token

/-- The words of a text that starts at an offset. -/
def scan (position : Nat) : List Char → Except CompileError (List Token)
  | [] => .ok []
  | c :: cs =>
    match Lexeme.first? (c :: cs) with
    | none => .error (.unexpectedChar c position)
    | some (none, n) => scan (position + n) (cs.drop (n - 1))
    | some (some w, n) =>
      (scan (position + n) (cs.drop (n - 1))).map (⟨w, position⟩ :: ·)
termination_by s => s.length
decreasing_by all_goals simp only [List.length_drop, List.length_cons]; omega

/-- The words of a text. -/
def tokenize (text : List Char) : Except CompileError Tokens :=
  (scan 0 text).map fun words => ⟨words, text.length⟩

end Token

end Quadrature
