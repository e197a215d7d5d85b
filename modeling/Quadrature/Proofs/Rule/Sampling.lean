/-
# Quadrature.Proofs.Rule.Sampling -- at which points a rule calls its integrand

A rule calls its integrand at one point after another and adds up what comes back. Run in a monad
that keeps the points, an integral leaves its calls on record. They are the points of its rule in
order, and a call that fails is the last: its failure is that of the integral.

* `Samples.bind`: what two computations sample one after the other;
* `Method.samples_sum`: a rule samples its points, on every grid;
* `integrate_samples`: so does an integral whose arguments are good.
-/
import Quadrature.Proofs.Number.Range
import Quadrature.Proofs.Rule.Refusal

namespace Quadrature

set_option autoImplicit false

open Quadrature.Number

variable {α β γ δ κ : Type}

/-! ## Calls on record -/

/-- A computation that keeps the points at which it calls an integrand. It fails with a failure that
is known here, or with any other that the integrand has. -/
abbrev Sampling (κ β α : Type) := ExceptT (Failure ⊕ κ) (StateM (List β)) α

namespace Sampling

instance : MonadExceptOf Failure (Sampling κ β) where
  throw e := throw (.inl e : Failure ⊕ κ)
  tryCatch c handle := tryCatch c fun
    | .inl e => handle e
    | .inr e => throw (.inr e : Failure ⊕ κ)

/-- The outcome, and the calls behind those that are on record already. -/
def record (former : List β) (c : Sampling κ β α) : Except (Failure ⊕ κ) α × List β :=
  c.run.run former

/-- A call of an integrand. -/
def call (f : β → Except (Failure ⊕ κ) α) (v : β) : Sampling κ β α := do
  modify (· ++ [v])
  ExceptT.mk (pure (f v))

theorem record_bind (former : List β) (c : Sampling κ β γ) (k : γ → Sampling κ β δ) :
    record former (c >>= k) =
      match record former c with
      | (.ok y, points) => record points (k y)
      | (.error e, points) => (.error e, points) := by
  show (ExceptT.bind c k).run.run former = _
  unfold ExceptT.bind record
  simp only [ExceptT.run_mk, StateT.run_bind]
  show StateT.run (ExceptT.bindCont k (c.run.run former).1) (c.run.run former).2 = _
  rcases c.run.run former with ⟨y | e, points⟩ <;> rfl

/-! ## Calls in order -/

/-- What comes of calling `f` at points in order: a value behind the last of them, or the failure at
the first at which `f` fails, and no call behind that. -/
inductive Sampled (f : β → Except (Failure ⊕ κ) α) :
    List β → Except (Failure ⊕ κ) γ × List β → Prop where
  | whole {points : List β} (y : γ) (known : ∀ v ∈ points, ∃ z, f v = .ok z) :
      Sampled f points (.ok y, points)
  | upTo {before : List β} {v : β} {e : Failure ⊕ κ} (after : List β)
      (known : ∀ u ∈ before, ∃ z, f u = .ok z) (failed : f v = .error e) :
      Sampled f (before ++ v :: after) (.error e, before ++ [v])

/-- Whatever is on record already, the computation calls `f` at the points in order. -/
def Samples (f : β → Except (Failure ⊕ κ) α) (points : List β) (c : Sampling κ β γ) : Prop :=
  ∀ former, ∃ r, Sampled f points r ∧ record former c = (r.1, former ++ r.2)

variable {f : β → Except (Failure ⊕ κ) α} {us vs points : List β}

/-- The points of a first part, all of which were called, come before those of the rest. -/
theorem Sampled.prepend {r : Except (Failure ⊕ κ) γ × List β}
    (known : ∀ v ∈ us, ∃ z, f v = .ok z) (sampled : Sampled f vs r) :
    Sampled f (us ++ vs) (r.1, us ++ r.2) := by
  have both {ws : List β} (known' : ∀ v ∈ ws, ∃ z, f v = .ok z) :
      ∀ v ∈ us ++ ws, ∃ z, f v = .ok z := by
    intro v member
    rcases List.mem_append.1 member with early | late
    · exact known v early
    · exact known' v late
  cases sampled with
  | whole y known' => exact .whole y (both known')
  | upTo after known' failed =>
      dsimp only
      rw [← List.append_assoc, ← List.append_assoc]
      exact .upTo after (both known') failed

/-- A failure is one that `f` has at some point. -/
theorem Sampled.exists_failed {e : Failure ⊕ κ} {calls : List β}
    (sampled : Sampled f points ((.error e : Except (Failure ⊕ κ) γ), calls)) :
    ∃ v, f v = .error e := by
  cases sampled with
  | upTo after known failed => exact ⟨_, failed⟩

namespace Samples

theorem pure (y : γ) : Samples f [] (Pure.pure y : Sampling κ β γ) := by
  intro former
  exact ⟨_, .whole y (by simp), by rw [List.append_nil]; rfl⟩

theorem call (v : β) : Samples f [v] (Sampling.call f v) := by
  intro former
  have ran : record former (Sampling.call f v) = (f v, former ++ [v]) := rfl
  rw [ran]
  cases outcome : f v with
  | ok y => exact ⟨_, .whole y (by simp [outcome]), rfl⟩
  | error e =>
      have first : Sampled f ([] ++ [v]) ((.error e : Except (Failure ⊕ κ) α), [] ++ [v]) :=
        .upTo [] (by simp) outcome
      exact ⟨_, first, rfl⟩

/-- The second part samples its points behind those of the first, unless the first fails. -/
theorem bind {c : Sampling κ β γ} {k : γ → Sampling κ β δ} (first : Samples f us c)
    (rest : ∀ y, Samples f vs (k y)) : Samples f (us ++ vs) (c >>= k) := by
  intro former
  rw [record_bind]
  obtain ⟨r, sampled, ran⟩ := first former
  rw [ran]
  cases sampled with
  | whole y known =>
      obtain ⟨r, sampled, ran⟩ := rest y (former ++ us)
      exact ⟨_, sampled.prepend known, by simp only [ran, List.append_assoc]⟩
  | upTo after known failed =>
      refine ⟨(.error _, _), ?_, rfl⟩
      rw [List.append_assoc, List.cons_append]
      exact .upTo (after ++ vs) known failed

/-- What is done with a value without a call adds no point. -/
theorem map {c : Sampling κ β γ} (k : γ → δ) (samples : Samples f us c) :
    Samples f us (c >>= fun y => Pure.pure (k y)) := by
  simpa using samples.bind fun y => pure (k y)

end Samples

end Sampling

/-! ## The points of the rules -/

open Sampling (Samples Sampled call record)

namespace Grid

section

variable [Arithmetic α]

/-- The grid of `n` steps from `x0` to `x1`; `at'` makes a number an argument of the integrand. -/
def between (at' : α → β) (x0 x1 : α) (n : Nat) : Grid α β :=
  ⟨at' x0, at' x1, x0, (x1 - x0) / Arithmetic.ofNat n, n⟩

/-- The points at which a rule calls its integrand, in order. -/
def samples (at' : α → β) (g : Grid α β) : Method → List β
  | .left => (List.range' 0 g.count).map fun i =>
      at' (g.origin + Arithmetic.ofNat i * g.step)
  | .right => (List.range' 1 g.count).map fun i =>
      at' (g.origin + Arithmetic.ofNat i * g.step)
  | .midpoint => (List.range' 0 g.count).map fun i =>
      at' (g.origin + (Arithmetic.ofNat i + Arithmetic.half) * g.step)
  | .trapezoidal => (List.range' 0 g.count).flatMap fun i =>
      [at' (g.origin + Arithmetic.ofNat i * g.step),
        at' (g.origin + Arithmetic.ofNat (i + 1) * g.step)]
  | .simpson => g.first :: g.last :: (List.range' 1 (g.count - 1)).map fun i =>
      at' (g.origin + Arithmetic.ofNat i * g.step)

end

end Grid

namespace Method

/-- How often a rule calls its integrand on a grid of `n` steps. -/
def calls (n : Nat) : Method → Nat
  | .left | .right | .midpoint => n
  | .trapezoidal => 2 * n
  | .simpson => n + 1

section

variable [Arithmetic α] {f : β → Except (Failure ⊕ κ) α}

theorem length_samples (at' : α → β) {g : Grid α β} (positive : 0 < g.count) (m : Method) :
    (g.samples at' m).length = m.calls g.count := by
  cases m with
  | left | right | midpoint => simp [Grid.samples, calls]
  | trapezoidal => simp [Grid.samples, calls, List.length_flatMap, Nat.mul_comm]
  | simpson =>
      simp only [Grid.samples, calls, List.length_cons, List.length_map, List.length_range']
      omega

/-- By induction on the number of terms. -/
theorem samples_accumulate {term : Nat → Sampling κ β α} {points : Nat → List β}
    (terms : ∀ i, Samples f (points i) (term i)) (count i : Nat) (total : α) :
    Samples f ((List.range' i count).flatMap points) (accumulate term count i total) := by
  induction count generalizing i total with
  | zero => exact .pure total
  | succ count ih =>
      rw [List.range'_succ, List.flatMap_cons]
      exact (terms i).bind fun y => ih (i + 1) (total + y)

/-- Terms with one call each. -/
theorem samples_accumulate_map {term : Nat → Sampling κ β α} {point : Nat → β}
    (terms : ∀ i, Samples f [point i] (term i)) (count i : Nat) (total : α) :
    Samples f ((List.range' i count).map point) (accumulate term count i total) := by
  rw [List.map_eq_flatMap]
  exact samples_accumulate terms count i total

/-- A rule samples its points. -/
theorem samples_sum (at' : α → β) (g : Grid α β) (m : Method) :
    Samples f (g.samples at' m) (m.sum (call f) at' g) := by
  cases m with
  | left | right | midpoint => exact (samples_accumulate_map (fun i => .call _) _ _ _).map _
  | trapezoidal =>
      refine (samples_accumulate (fun i => ?_) _ _ _).map _
      exact (Samples.call _).bind fun a => (Samples.call _).map _
  | simpson =>
      refine (Samples.call _).bind fun a => (Samples.call _).bind fun b => ?_
      exact (samples_accumulate_map (fun i => (Samples.call _).map _) _ _ _).map _

end

end Method

/-! ## Integrals -/

section

variable {x0 x1 : Float} {n : Nat} (m : Method)

theorem floatOfInt_of_lt (small : n < 2 ^ 1024 - 2 ^ 970) :
    floatOfInt n = .ok (Arithmetic.ofNat n) := by
  have finite := (Double.isFinite_ofDecimal n).2 small
  unfold floatOfInt Double.ofInt?
  dsimp only
  rw [Int.natAbs_natCast, if_pos finite, if_neg (by omega)]
  rfl

/-- Good arguments give the grid of equal steps between the ends. -/
theorem plan_between (finite0 : x0.isFinite = true) (finite1 : x1.isFinite = true)
    (positive : 0 < n) (small : n < 2 ^ 1024 - 2 ^ 970)
    (even : m.requiresEven = true → n % 2 = 0) :
    plan (.float x0) (.float x1) (.int n) (.text m.name) =
      .ok (m, .between .float x0 x1 n) := by
  rw [plan_eq m finite0 finite1 positive even]
  simp only [Grid.stepBetween, Grid.whole?, Value.toReal, floatOfInt_of_lt small, bind,
    Except.bind, pure, Except.pure, Except.map]
  rfl

/-- **An integral samples the points of its rule in order.** It calls the integrand at all of them,
or up to the first at which the integrand fails, and then this failure is the outcome. -/
theorem integrate_samples (f : Value → Except (Failure ⊕ κ) Float) (finite0 : x0.isFinite = true)
    (finite1 : x1.isFinite = true) (positive : 0 < n) (small : n < 2 ^ 1024 - 2 ^ 970)
    (even : m.requiresEven = true → n % 2 = 0) :
    Sampled f ((Grid.between Value.float x0 x1 n).samples Value.float m)
        (record [] (integrate (call f) (.float x0) (.float x1) (.int n) (.text m.name))) ∧
      ((Grid.between Value.float x0 x1 n).samples Value.float m).length = m.calls n := by
  refine ⟨?_, Method.length_samples _ positive m⟩
  unfold integrate
  rw [plan_between m finite0 finite1 positive small even]
  obtain ⟨r, sampled, ran⟩ :=
    Method.samples_sum (f := f) Value.float (Grid.between Value.float x0 x1 n) m []
  show Sampled f _ (record [] (m.sum (call f) Value.float (Grid.between Value.float x0 x1 n)))
  rw [ran, List.nil_append]
  exact sampled

/-- The theorem at an integrand that fails, in a way of its own, at the middle of the domain. -/
theorem integrate_samples_pole :
    let f : Value → Except (Failure ⊕ String) Float
      | .float x => if x == 0 then .error (.inr "pole") else .ok (1 / x)
      | v => .error (.inl (.notReal v))
    (-1 : Float).isFinite = true ∧ (1 : Float).isFinite = true ∧ 0 < 2 ∧ 2 < 2 ^ 1024 - 2 ^ 970 ∧
      (Method.trapezoidal.requiresEven = true → 2 % 2 = 0) ∧
      Sampled f [.float (-1), .float 0, .float 0, .float 1]
        (record [] (integrate (call f) (.float (-1)) (.float 1) (.int 2) (.text "TRAPEZOIDAL"))) ∧
      [Value.float (-1), .float 0, .float 0, .float 1].length = 4 := by
  intro f
  have finite : (-1 : Float).isFinite = true := by decide
  have finite' : (1 : Float).isFinite = true := by decide
  have points : (Grid.between Value.float (-1) 1 2).samples Value.float .trapezoidal =
      [.float (-1), .float 0, .float 0, .float 1] := by
    rfl
  have sampled := integrate_samples .trapezoidal f finite finite' (n := 2) (by decide) (by omega)
    (by decide)
  rw [points] at sampled
  exact ⟨finite, finite', by decide, by omega, by decide, sampled⟩

end

end Quadrature
