/-
# Quadrature.Proofs.Expr.DepthLimit -- what a depth limit changes

A depth limit only ever adds one fault: within the limit the reader does what it does without one,
and beyond it reports `nestedTooDeeply`.

* `parseWithin_limited`: with a limit the outcome of reading is the same or that fault.
-/
import Quadrature.Expr.Parse

namespace Quadrature

set_option autoImplicit false

namespace Parse

/-- The outcome with a limit is the one without, or the fault of the limit. -/
def Limited {α : Type} (limited unlimited : Except CompileError α) : Prop :=
  limited = unlimited ∨ limited = .error .nestedTooDeeply

theorem Limited.bind {α β : Type} {x y : Except CompileError α}
    {f g : α → Except CompileError β} (first : Limited x y) (rest : ∀ a, Limited (f a) (g a)) :
    Limited (x >>= f) (y >>= g) := by
  rcases first with rfl | deep
  · cases x with
    | error fault => exact .inl rfl
    | ok a => exact rest a
  · exact .inr (by rw [deep]; rfl)

theorem Limited.refl {α : Type} (x : Except CompileError α) : Limited x x := .inl rfl

/-- A result within a limit is the result without one. -/
theorem Limited.eq_ok {α : Type} {x y : Except CompileError α} {a : α} (h : Limited x y)
    (ok : x = .ok a) : y = .ok a := by
  rcases h with rfl | deep
  · exact ok
  · simp [deep] at ok

theorem descend_limited (limit : Option Nat) (p : Pending) (outer : Outer) :
    Limited (descend limit p outer) (descend none p outer) := by
  unfold descend
  by_cases h : within limit (depth p outer) = true
  · exact .inl (if_pos h)
  · exact .inr (if_neg h)

theorem afterOperand_limited (limit : Option Nat) (e : Expr) (p : Pending) (outer : Outer)
    (t : Token) : Limited (afterOperand limit e p outer t) (afterOperand none e p outer t) := by
  unfold afterOperand
  split
  any_goals exact descend_limited _ _ _
  · split <;> exact .refl _
  · split
    · exact descend_limited _ _ _
    · exact .refl _
  · exact .refl _

/-- By induction along the words read without change of course; a descent may stop at the limit. -/
theorem run_limited (limit : Option Nat) (finish : Nat) (state : State) (ts : List Token) :
    Limited (run limit finish state ts) (run none finish state ts) := by
  fun_induction run limit finish state ts with
  | case1 p outer => rw [run]; exact .refl _
  | case2 p outer t ts text word ih => rw [run, word]; exact ih
  | case3 p outer t name word pos at' ts => rw [run, word]; exact .refl _
  | case4 p outer t name word pos ts more ih =>
      rw [run, word]
      dsimp only
      split
      · next h => exact absurd (List.cons.inj h).2 (more _ _)
      · next h => cases h; exact (descend_limited _ _ _).bind ih
      · next h => exact absurd rfl (h _ _)
  | case5 p outer t name word ts bare plain ih =>
      rw [run, word]
      dsimp only
      split
      · exact (bare _ _ _ rfl).elim
      · exact (plain _ _ rfl).elim
      · exact ih
  | case6 p outer t ts word ih => rw [run, word]; exact (descend_limited _ _ _).bind ih
  | case7 p outer t ts word ih => rw [run, word]; exact (descend_limited _ _ _).bind ih
  | case8 p outer t ts word ih => rw [run, word]; exact (descend_limited _ _ _).bind ih
  | case9 p outer t ts number name plus minus opening =>
      rw [run]
      split <;> simp_all [Limited.refl]
  | case10 e p => rw [run]; exact .refl _
  | case11 e p outer inside =>
      rw [run]
      · exact .refl _
      · exact inside
  | case12 e p outer t ts ih =>
      rw [run]
      exact (afterOperand_limited _ _ _ _ _).bind ih

theorem tree_limited (limit : Option Nat) (tokens : Tokens) :
    Limited (tree limit tokens) (tree none tokens) := by
  unfold tree
  split
  · exact .refl _
  · exact run_limited _ _ _ _

/-- Reading within a limit is reading, or stops at the limit. -/
theorem parseWithin_limited (limit : Option Nat) (text : List Char) :
    Limited (parseWithin limit text) (parseWithin none text) :=
  (Limited.refl _).bind fun tokens => tree_limited limit tokens

end Parse

end Quadrature
