/-
# Quadrature.Proofs.Pipeline.Position -- what the position of a compile error refers to

The pipeline compiles the expanded text, so a position is an offset into that. It is the offset in
the expression only where expansion moved nothing. Otherwise what is named was written by an
expansion, or it stands in the expression as many characters away as were written and dropped
before it.

* `compile_position`: where what is named stands, in the expanded text and in the expression.
-/
import Quadrature.Proofs.Caret.Origin
import Quadrature.Proofs.Expr.Position
import Quadrature.Proofs.Pipeline

namespace Quadrature

set_option autoImplicit false

open Quadrature.Text
open Quadrature.Caret

namespace Caret

variable {text : List Char}

/-- An expansion leaves ink behind. -/
theorem blank_of_expandTimes {n : Nat} (blank : ∀ c ∈ expandTimes n text, isBlank c = true) :
    ∀ c ∈ text, isBlank c = true := by
  induction n generalizing text with
  | zero => exact blank
  | succ n ih =>
      rw [expandTimes] at blank
      split at blank
      · next expanded =>
          obtain ⟨x, y, rfl, here, -⟩ := exists_rightmost expanded
          obtain ⟨a, b, g, g', e, c, -, -, rfl, -⟩ := expandAt_split here
          have ink := ih blank 'p' (by simp [powerCall_eq])
          exact absurd ink (by decide)
      · exact blank

/-- A text that expands to blanks was not expanded. -/
theorem origin_zero_of_blank (blank : ∀ c ∈ normalize text, isBlank c = true) :
    origin text 0 = some 0 := by
  have blank := blank_of_expandTimes blank
  rw [origin, trace, count_caret_of_blanks blank, traceTimes, getElem?_numbered]
  cases text <;> rfl

end Caret

namespace Pipeline

variable {config : Config} {e : String} {fault : CompileError} {p : Int}

/-- What is named was all kept, then the offset comes from one of the expression. -/
theorem exists_origin {text : List Char} {n : Nat} (lies : fault.LiesAt (normalize text) n)
    (kept : ∀ i < fault.named.length, (origin text (n + i)).isSome = true) :
    ∃ q, origin text n = some q := by
  cases named : fault.named with
  | cons c w => exact Option.isSome_iff_exists.1 (kept 0 (by simp [named]))
  | nil =>
      rcases lies.ends named with ends | ⟨rfl, blank⟩
      · have none : (trace text)[n]? = none :=
          List.getElem?_eq_none (by rw [length_trace]; exact ends.ge)
        exact ⟨text.length, by rw [origin, none]; rfl⟩
      · exact ⟨0, origin_zero_of_blank blank⟩

/-- **The position of a compile error is an offset into the expanded text**, at which that has what
the diagnostic names. Of that an expansion wrote some character, or it all stands in the expression,
at an offset that differs by what expansions wrote and dropped before. So the position is one of the
expression where no expansion wrote anything before the end of what is named. -/
theorem compile_position (refused : (compile config e).run.value = .error fault)
    (position : fault.position? = some p) :
    ∃ n : ℕ, p = n ∧ n ≤ (normalize e.toList).length ∧
      fault.named <+: (normalize e.toList).drop n ∧
      ((∃ i < fault.named.length, origin e.toList (n + i) = none) ∨
        ∃ q ≤ e.toList.length, origin e.toList n = some q ∧ fault.named <+: e.toList.drop q ∧
          n + droppedBefore e.toList q = q + writtenBefore e.toList n) ∧
      (writtenBefore e.toList (n + fault.named.length) = 0 →
        n ≤ e.toList.length ∧ fault.named <+: e.toList.drop n) := by
  rw [compile_value] at refused
  obtain ⟨n, lies⟩ := Compiled.liesAt_of_ofTextWithin refused position
  rw [normalizeString, String.toList_ofList] at lies
  refine ⟨n, Option.some.inj (position.symm.trans lies.position), lies.bound, lies.stands, ?_, ?_⟩
  · by_cases kept : ∀ i < fault.named.length, (origin e.toList (n + i)).isSome = true
    · obtain ⟨q, here⟩ := exists_origin lies kept
      exact .inr ⟨q, origin_le here, here, (word_of_origins lies.stands here kept).1,
        origin_shift lies.bound here⟩
    · obtain ⟨i, less, fresh⟩ : ∃ i < fault.named.length, ¬ (origin e.toList (n + i)).isSome = true := by
        simpa using kept
      exact .inl ⟨i, less, Option.not_isSome_iff_eq_none.1 fresh⟩
  · intro unwritten
    have kept : ∀ i < fault.named.length, (origin e.toList (n + i)).isSome = true := fun i less =>
      isSome_of_unwritten unwritten (Nat.add_lt_add_left less n)
    obtain ⟨q, here⟩ := exists_origin lies kept
    have before := writtenBefore_mono e.toList (Nat.le_add_right n fault.named.length)
    obtain rfl := eq_of_unwritten lies.bound here (Nat.le_zero.1 (unwritten ▸ before))
    exact ⟨origin_le here, (word_of_origins lies.stands here kept).1⟩

/-- An unknown name behind a power is reported where it stands in the expanded text. -/
theorem compile_unknown_behind : (compile Config.standard "x^2 + y").run.value =
    .error (.unknownName "y" "x" 12) := by
  have identifier : isIdentifier Config.standard.variableName.toList = true := by decide +kernel
  have tokenized : Token.tokenize "pow(x, 2) + y".toList = .ok ⟨[⟨.name "pow", 0⟩, ⟨.opening, 3⟩,
      ⟨.name "x", 4⟩, ⟨.comma, 5⟩, ⟨.number "2", 7⟩, ⟨.closing, 8⟩, ⟨.plus, 10⟩,
      ⟨.name "y", 12⟩], 13⟩ := by decide +kernel
  have read : Parse.parseWithin (some Parse.depthLimit) "pow(x, 2) + y".toList = .ok (.binary .add
      (.call "pow" [.var "x" 4, .const (Parse.numberValue "2")] 0) (.var "y" 12)) := by
    rw [Parse.parseWithin, tokenized]
    rfl
  rw [compile_value, show normalizeString "x^2 + y" = "pow(x, 2) + y" by decide +kernel]
  exact Compiled.ofTextWithin_of_fault identifier read rfl rfl

/-- The theorem at an unknown name behind a power: it is reported at 12 and stands at 6. -/
theorem compile_position_behind : ∃ fault,
    (compile Config.standard "x^2 + y").run.value = .error fault ∧ fault.position? = some 12 ∧
      "x^2 + y".toList.drop 6 = ['y'] ∧ fault.named <+: "x^2 + y".toList.drop 6 := by
  refine ⟨.unknownName "y" "x" 12, compile_unknown_behind, rfl, rfl, ?_⟩
  obtain ⟨n, same, -, -, place, -⟩ :=
    compile_position compile_unknown_behind (p := 12) rfl
  obtain rfl : 12 = n := Int.natCast_inj.1 same
  have here : origin "x^2 + y".toList 12 = some 6 := by decide +kernel
  rcases place with ⟨i, less, fresh⟩ | ⟨q, -, here', stands, -⟩
  · obtain rfl : i = 0 := Nat.lt_one_iff.1 less
    cases here.symm.trans fresh
  · obtain rfl : 6 = q := Option.some.inj (here.symm.trans here')
    exact stands

/-- A position need not lie in the expression: this one is reported behind its end. -/
theorem not_compile_position : ¬ ∀ fault p,
    (compile Config.standard "x^2 + y").run.value = .error fault → fault.position? = some p →
      0 ≤ p ∧ p ≤ "x^2 + y".toList.length ∧ fault.named <+: "x^2 + y".toList.drop p.toNat := by
  intro inside
  have bound := (inside _ 12 compile_unknown_behind rfl).2.1
  exact absurd bound (by decide)

/-- A word that is named need not be one of the expression: at 2 the reader finds `pow`. -/
example : normalize "2 3^4".toList = "2 pow(3, 4)".toList ∧ origin "2 3^4".toList 2 = none := by
  decide +kernel

end Pipeline

end Quadrature
