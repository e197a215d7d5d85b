/-
# Quadrature.Proofs.Failure -- what a computation can fail with

A property that the failures of all parts of a computation have is one that its own failures have
(`FailsOnly`). So what can go wrong in a sum or in the value of an expression is known from what can go
wrong in one term or at one node.
-/
import Quadrature.Failure

namespace Quadrature

set_option autoImplicit false

variable {α β : Type}

/-- Every failure of the computation has the property. -/
def FailsOnly (P : Failure → Prop) (r : Except Failure α) : Prop := ∀ e, r = .error e → P e

namespace FailsOnly

variable {P : Failure → Prop}

theorem ok (a : α) : FailsOnly P (.ok a) := by
  intro e failed
  cases failed

theorem error {e : Failure} (known : P e) : FailsOnly P (.error e : Except Failure α) := by
  rintro _ ⟨⟩
  exact known

theorem bind {r : Except Failure α} {f : α → Except Failure β} (first : FailsOnly P r)
    (rest : ∀ a, FailsOnly P (f a)) : FailsOnly P (r >>= f) := by
  intro e failed
  cases outcome : r with
  | error fault =>
      rw [outcome] at failed
      obtain rfl := Except.error.inj failed
      exact first fault outcome
  | ok a =>
      rw [outcome] at failed
      exact rest a e failed

end FailsOnly

end Quadrature
