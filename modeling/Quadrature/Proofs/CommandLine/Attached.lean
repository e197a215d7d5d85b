/-
# Quadrature.Proofs.CommandLine.Attached -- an option and its argument in one word

An option can have its argument attached to its long spelling by an equals sign. No spelling has an
equals sign, so the first one of the word ends the spelling, and what follows it is the argument: any
text, also an empty one or one that looks like another option.

* `Word.classify_attach`: the word is that option with that argument;
* `Arguments.parse_attach`: a command line of such words is its options, taken in order.
-/
import Quadrature.CommandLine.Arguments

namespace Quadrature

set_option autoImplicit false

/-! ## Words -/

namespace Flag

/-- The long spelling of an option. -/
def longName (f : Flag) : String := f.names.getLastD ""

/-- The word that is an option with an argument attached. -/
def attach (f : Flag) (argument : String) : String := f.longName ++ "=" ++ argument

theorem ofName?_longName (f : Flag) : ofName? f.longName = some f := by
  cases f <;> decide

theorem head?_longName (f : Flag) : f.longName.toList.head? = some '-' := by
  cases f <;> decide

theorem two_lt_length_longName (f : Flag) : 2 < f.longName.toList.length := by
  cases f <;> decide

theorem equals_not_mem_longName (f : Flag) : '=' ∉ f.longName.toList := by
  cases f <;> decide

/-- No spelling has an equals sign. -/
theorem ofName?_eq_none {text : String} (member : '=' ∈ text.toList) : ofName? text = none := by
  have plain : ∀ p ∈ spellings, '=' ∉ p.1.toList := by decide
  apply List.lookup_eq_none_iff.2
  intro p spelling
  rw [bne_iff_ne]
  rintro rfl
  exact plain p spelling member

theorem toList_attach (f : Flag) (argument : String) :
    (f.attach argument).toList = f.longName.toList ++ '=' :: argument.toList := by
  simp [attach]

theorem equals_mem_attach (f : Flag) (argument : String) : '=' ∈ (f.attach argument).toList := by
  simp [toList_attach]

end Flag

namespace Word

theorem splitEquals_append {start value : List Char} (plain : '=' ∉ start) :
    splitEquals (start ++ '=' :: value) = some (start, value) := by
  have before : ∀ c ∈ start, decide (c ≠ '=') = true := by
    intro c member
    rw [decide_eq_true_eq]
    rintro rfl
    exact plain member
  unfold splitEquals
  rw [List.dropWhile_append_of_pos before, List.takeWhile_append_of_pos before]
  simp

/-- What follows the first equals sign is the argument, whatever it is. -/
theorem classify_attach (f : Flag) (argument : String) : classify (f.attach argument) =
    .ok (.option f (some ⟨false, true, argument.toList⟩)) := by
  have first : (f.longName.toList ++ '=' :: argument.toList).head? = some '-' := by
    rw [List.head?_append, f.head?_longName, Option.some_or]
  have name := f.two_lt_length_longName
  have long : (f.longName.toList ++ '=' :: argument.toList).length ≠ 1 := by
    rw [List.length_append]
    omega
  have other : f.longName.toList.length ≠ 2 := by omega
  unfold classify
  simp only [Flag.ofName?_eq_none (f.equals_mem_attach argument), f.toList_attach, first, long,
    splitEquals_append f.equals_not_mem_longName, Option.bind_some, String.ofList_toList,
    Flag.ofName?_longName, Option.map_some, other, ne_eq, not_true_eq_false, if_false,
    decide_false]

theorem classifyAll_attach (options : List (Flag × String)) :
    classifyAll (options.map fun o => o.1.attach o.2) =
      .ok (options.map fun o => .option o.1 (some ⟨false, true, o.2.toList⟩)) := by
  induction options with
  | nil => rfl
  | cons o options ih =>
      have other : o.1.attach o.2 ≠ "--" := by
        intro same
        have member := o.1.equals_mem_attach o.2
        rw [same] at member
        exact absurd member (by decide)
      simp only [List.map_cons]
      rw [classifyAll, if_neg other, classify_attach, ih]
      rfl

end Word

/-! ## Command lines -/

namespace Arguments

theorem spelled_attach {following : List Word} {flag : Flag} {argument : String}
    (takes : flag.takesArgument = true) :
    spelled following flag (some ⟨false, true, argument.toList⟩) =
      .ok ⟨[(flag, argument)], false, []⟩ := by
  show spelledWith following flag false true argument.toList = _
  cases text : argument.toList with
  | nil =>
      obtain rfl := String.toList_eq_nil_iff.1 text
      rw [spelledWith, if_pos takes]
  | cons c rest => rw [spelledWith, if_pos takes, ← text, String.ofList_toList]

theorem takeAll_singleton (a : Arguments) (o : Flag × String) : a.takeAll [o] = a.take o.1 o.2 := by
  show (a.take o.1 o.2 >>= fun b => .ok b) = _
  cases a.take o.1 o.2 <;> rfl

/-- By induction along the words: each is one option, and none uses the word after it. -/
theorem read_attach {options : List (Flag × String)}
    (takes : ∀ o ∈ options, o.1.takesArgument = true) (a : Arguments) :
    read a [] false (options.map fun o => .option o.1 (some ⟨false, true, o.2.toList⟩)) =
      a.takeAll options := by
  induction options generalizing a with
  | nil => rfl
  | cons o options ih =>
      simp only [List.map_cons, read, Bool.false_eq_true, if_false, spelled_attach (takes o (by simp)),
        takeAll_singleton, List.nil_append]
      show (a.take o.1 o.2 >>= fun b => read b [] false _) =
        a.take o.1 o.2 >>= fun b => b.takeAll options
      congr 1
      funext b
      exact ih (fun p member => takes p (List.mem_cons_of_mem _ member)) b

/-- **A command line of options with their arguments attached is these options**, taken in order. -/
theorem parse_attach {options : List (Flag × String)}
    (takes : ∀ o ∈ options, o.1.takesArgument = true) :
    parse (options.map fun o => o.1.attach o.2) = takeAll {} options := by
  rw [parse, Word.classifyAll_attach]
  exact read_attach takes {}

end Arguments

end Quadrature
