/-
# Quadrature.Proofs.CommandLine.Arguments -- options are not lost

An option among the words of a command line is taken: no option before it swallows its word, since
only a word that is no option can be the argument of one. So a command line with an expression or a
request file asks for an integral (`NamesIntegral`) once it is read.

* `takes_of_spelled`: what a word with an option spells begins with that option;
* `read_names`: along the words an integral that is named stays named;
* `parse_names`: a command line that carries such an option names an integral.
-/
import Quadrature.CommandLine.Arguments

namespace Quadrature

set_option autoImplicit false

/-- The option asks for an integral. -/
def Flag.NamesIntegral (f : Flag) : Prop := f = .request ∨ f = .expression

namespace Arguments

/-- The arguments ask for an integral. -/
def NamesIntegral (a : Arguments) : Prop := a.request.isSome = true ∨ a.expression.isSome = true

variable {a b : Arguments} {flag : Flag} {following : List Word}

/-! ## Options of one word -/

/-- The first word is one that an option can use as its argument. -/
def StartsWithArgument (words : List Word) : Prop := ∃ text rest, words = .argument text :: rest

/-- An option is taken first, and uses the next word only if that is no option. -/
structure Spelled.Takes (s : Spelled) (flag : Flag) (following : List Word) : Prop where
  first : ∃ value rest, s.taken = (flag, value) :: rest
  next : s.usesNext = true → StartsWithArgument following

theorem Spelled.Takes.after {s : Spelled} {next : Flag} (takes : s.Takes next following)
    (flag : Flag) : (s.after flag).Takes flag following :=
  ⟨⟨"", s.taken, rfl⟩, takes.next⟩

theorem takes_of_spelledAlone {s : Spelled} (spelled : spelledAlone following flag = .ok s) :
    s.Takes flag following := by
  unfold spelledAlone at spelled
  split at spelled
  · split at spelled
    · obtain rfl := Except.ok.inj spelled
      exact ⟨⟨_, [], rfl⟩, fun _ => ⟨_, _, rfl⟩⟩
    · cases spelled
  · obtain rfl := Except.ok.inj spelled
    exact ⟨⟨"", [], rfl⟩, by simp⟩

theorem takes_of_map (next : Flag) {r : Except UsageError Spelled} {s : Spelled}
    (takes : ∀ inner, r = .ok inner → inner.Takes next following)
    (mapped : r.map (Spelled.after flag) = .ok s) : s.Takes flag following := by
  cases r with
  | error e => cases mapped
  | ok inner =>
      obtain rfl := Except.ok.inj mapped
      exact (takes inner rfl).after flag

theorem takes_of_spelledWith {s : Spelled} {short equals : Bool} {value : List Char}
    (spelled : spelledWith following flag short equals value = .ok s) : s.Takes flag following := by
  -- By induction on the letters: behind an option without argument there may be another one.
  fun_induction spelledWith following flag short equals value generalizing s with
  | case1 flag | case3 flag =>
      obtain rfl := Except.ok.inj spelled
      exact ⟨⟨_, [], rfl⟩, by simp⟩
  | case2 | case4 => cases spelled
  | case5 flag =>
      obtain rfl := Except.ok.inj spelled
      exact ⟨⟨"", [], rfl⟩, by simp⟩
  | case6 flag short equals c rest _ _ next _ ih =>
      refine takes_of_map next ?_ spelled
      intro inner
      split at ih
      · exact takes_of_spelledAlone
      · exact ih
      · exact ih

theorem takes_of_spelled {s : Spelled} {attached : Option Attached}
    (spelled : Arguments.spelled following flag attached = .ok s) : s.Takes flag following := by
  cases attached with
  | none => exact takes_of_spelledAlone spelled
  | some a => exact takes_of_spelledWith spelled

/-! ## Taking options -/

theorem names_of_take {argument : String} (taken : a.take flag argument = .ok b)
    (names : a.NamesIntegral ∨ flag.NamesIntegral) : b.NamesIntegral := by
  unfold NamesIntegral Flag.NamesIntegral at *
  unfold take at taken
  split at taken
  case h_9 =>
    split at taken
    · obtain rfl := Except.ok.inj taken
      simpa using names
    · cases taken
  case h_1 => cases taken
  all_goals
    obtain rfl := Except.ok.inj taken
    simp_all

theorem names_of_takeAll {taken : List (Flag × String)} (all : a.takeAll taken = .ok b)
    (names : a.NamesIntegral ∨ ∃ f ∈ taken, f.1.NamesIntegral) : b.NamesIntegral := by
  induction taken generalizing a with
  | nil =>
      obtain rfl := Except.ok.inj all
      simpa using names
  | cons f taken ih =>
      obtain ⟨flag, argument⟩ := f
      cases first : a.take flag argument with
      | error e =>
          rw [takeAll, first] at all
          cases all
      | ok c =>
          rw [takeAll, first] at all
          apply ih all
          rcases names with before | ⟨f, member, here⟩
          · exact .inl (names_of_take first (.inl before))
          · rcases List.mem_cons.1 member with rfl | later
            · exact .inl (names_of_take first (.inr here))
            · exact .inr ⟨f, later, here⟩

/-- An option that asks for an integral is among the words. -/
def Carries (words : List Word) : Prop :=
  ∃ flag attached, .option flag attached ∈ words ∧ flag.NamesIntegral

theorem Carries.tail {word : Word} {words : List Word} (carries : Carries (word :: words))
    (other : ∀ flag attached, word = .option flag attached → ¬ flag.NamesIntegral) :
    Carries words := by
  obtain ⟨flag, attached, member, name⟩ := carries
  rcases List.mem_cons.1 member with rfl | later
  · exact absurd name (other flag attached rfl)
  · exact ⟨flag, attached, later, name⟩

/-- By induction along the words: a word is skipped only if it is no option. -/
theorem read_names {extra : List String} {skip : Bool} {words : List Word}
    (ready : skip = true → StartsWithArgument words) (ok : read a extra skip words = .ok b)
    (names : a.NamesIntegral ∨ Carries words) : b.NamesIntegral := by
  fun_induction read a extra skip words with
  | case1 a extra skip empty =>
      obtain rfl := Except.ok.inj ok
      rcases names with here | ⟨flag, attached, member, -⟩
      · exact here
      · cases member
  | case2 => cases ok
  | case3 a extra word words ih =>
      obtain ⟨text, rest, same⟩ := ready rfl
      obtain ⟨rfl, rfl⟩ := List.cons.inj same
      exact ih (by simp) ok (names.imp_right fun later => later.tail (by simp))
  | case4 => cases ok
  | case5 a extra skip words _ flag attached s spelled ih =>
      obtain ⟨⟨value, more, taken⟩, next⟩ := takes_of_spelled spelled
      cases all : a.takeAll s.taken with
      | error e =>
          rw [all] at ok
          cases ok
      | ok c =>
          rw [all] at ok
          apply ih c next ok
          by_cases here : a.NamesIntegral ∨ flag.NamesIntegral
          · refine .inl (names_of_takeAll all ?_)
            rw [taken]
            exact here.imp_right fun name => ⟨(flag, value), by simp, name⟩
          · obtain ⟨-, other⟩ := not_or.1 here
            refine .inr ((names.resolve_left (not_or.1 here).1).tail ?_)
            rintro _ _ ⟨⟩
            exact other
  | case6 a extra skip words _ text ih =>
      exact ih (by simp) ok (names.imp_right fun later => later.tail (by simp))
  | case7 a extra skip words _ text ih =>
      exact ih (by simp) ok (names.imp_right fun later => later.tail (by simp))
  | case8 a extra skip words _ ih =>
      exact ih (by simp) ok (names.imp_right fun later => later.tail (by simp))

/-! ## Command lines -/

/-- A word that is not the separator keeps its kind in the command line. -/
theorem mem_of_classifyAll {texts : List String} {words : List Word}
    (classified : Word.classifyAll texts = .ok words) (plain : "--" ∉ texts) {text : String}
    {word : Word} (member : text ∈ texts) (kind : Word.classify text = .ok word) :
    word ∈ words := by
  induction texts generalizing words with
  | nil => cases member
  | cons first texts ih =>
      have other : first ≠ "--" := fun same => plain (by simp [same])
      rw [Word.classifyAll, if_neg other] at classified
      cases here : Word.classify first with
      | error e =>
          rw [here] at classified
          cases classified
      | ok w =>
          cases rest : Word.classifyAll texts with
          | error e =>
              rw [here, rest] at classified
              cases classified
          | ok ws =>
              rw [here, rest] at classified
              obtain rfl := Except.ok.inj classified
              rcases List.mem_cons.1 member with rfl | later
              · obtain rfl := Except.ok.inj (here.symm.trans kind)
                simp
              · have inside := ih rest (fun sep => plain (by simp [sep])) later
                exact List.mem_cons_of_mem _ inside

/-- **A command line that carries an expression or a request file names an integral**, if it is
understood at all. -/
theorem parse_names {texts : List String} {text : String} {attached : Option Attached}
    (plain : "--" ∉ texts) (member : text ∈ texts)
    (kind : Word.classify text = .ok (.option flag attached)) (name : flag.NamesIntegral)
    (parsed : parse texts = .ok a) : a.NamesIntegral := by
  unfold parse at parsed
  cases classified : Word.classifyAll texts with
  | error e =>
      rw [classified] at parsed
      cases parsed
  | ok words =>
      rw [classified] at parsed
      have inside := mem_of_classifyAll classified plain member kind
      exact read_names (by simp) parsed (.inr ⟨flag, attached, inside, name⟩)

end Arguments

end Quadrature
