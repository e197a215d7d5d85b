/-
# Quadrature.Proofs.CommandLine.Run -- a run prints a result or an error

A run that is asked for an integral ends in one of two ways (`Tells`): it prints one line, the result,
or it prints none and says beside the output what went wrong. Nothing else can happen: the check of
the result before it is printed never fails, and with JSON the line is read as a record that keeps the
contract of results. Only an argument that is missing stops the run before that.

* `tells_integrateRequest`: one integral;
* `run_settles`: all command lines that carry an expression or a request file.
-/
import Quadrature.CommandLine.Transcript
import Quadrature.Proofs.CommandLine.Arguments
import Quadrature.Proofs.Contract
import Quadrature.Proofs.Pipeline

namespace Quadrature

set_option autoImplicit false

open Quadrature.Text
open Quadrature.Number
open Quadrature.Recorded (outputs)
open Quadrature.Json (Visible)

/-! ## Lines -/

theorem visible_floatText (x : Float) : ∀ c ∈ (floatText x).toList, Visible c := by
  rw [floatText, String.toList_ofList]
  by_cases finite : x.isFinite = true
  · obtain ⟨t, -, text, -⟩ := exists_numberText_floatChars finite
    rw [← text]
    exact Json.visible_numberText t
  · have named : floatChars x ∈ [['n', 'a', 'n'], ['i', 'n', 'f'], ['-', 'i', 'n', 'f']] := by
      unfold floatChars
      rcases isNaN_or_isInf (Bool.eq_false_iff.2 finite) with nan | ⟨other, infinite⟩
      · rw [if_pos nan]
        simp
      · rw [if_neg (Bool.eq_false_iff.1 other), if_pos infinite]
        cases Double.isNegative x <;> simp
    simp only [List.mem_cons, List.not_mem_nil, or_false] at named
    rcases named with nan | infinite | infinite
    · rw [nan]
      exact Json.visible_of_all rfl
    · rw [infinite]
      exact Json.visible_of_all rfl
    · rw [infinite]
      exact Json.visible_of_all rfl

theorem Result.visible_summary (r : Result) : ∀ c ∈ r.summary.toList, Visible c := by
  have start : ∀ c ∈ "The approximate area under the curve using ".toList, Visible c :=
    Json.visible_of_all (by decide +kernel)
  have middle : ∀ c ∈ " method is: ".toList, Visible c :=
    Json.visible_of_all (by decide +kernel)
  have name : ∀ c ∈ r.method.displayName.toList, Visible c := by
    cases r.method <;> exact Json.visible_of_all (by decide +kernel)
  intro c member
  unfold Result.summary at member
  rw [String.toList_append, List.mem_append, String.toList_append, List.mem_append,
    String.toList_append, List.mem_append] at member
  rcases member with ((first | second) | third) | fourth
  · exact start c first
  · exact name c second
  · exact middle c third
  · exact visible_floatText r.area c fourth

namespace Recorded

variable {α : Type} (r : Recorded α) (level : Level)

@[simp] theorem value_atLevel : (r.atLevel level).value = r.value := rfl

/-- The level of the log does not touch what is printed. -/
@[simp] theorem outputs_atLevel : outputs (r.atLevel level).events = outputs r.events := by
  show outputs (r.events.filter (isAtLeast level)) = _
  induction r.events with
  | nil => rfl
  | cons e events ih =>
      rw [List.filter_cons]
      cases e with
      | log record => split <;> simpa using ih
      | output line => simpa [isAtLeast] using ih
      | notice line => simpa [isAtLeast] using ih
      | question => simpa [isAtLeast] using ih

/-- Notices are shown at every level. -/
theorem notice_mem_atLevel {text : String} :
    .notice text ∈ (r.atLevel level).events ↔ .notice text ∈ r.events := by
  show .notice text ∈ r.events.filter (isAtLeast level) ↔ _
  rw [List.mem_filter]
  exact and_iff_left rfl

end Recorded

namespace CommandLine

/-- The run printed one line, the result, or it printed none and said why. -/
inductive Tells (json : Bool) (r : Recorded Ending) : Prop where
  | result (line : String) (ended : r.value = .finished .success)
      (printed : outputs r.events = [line]) (visible : ∀ c ∈ line.toList, Visible c)
      (kept : json = true → ∃ v, Json.read line.toList = .ok v ∧ Contract.result.accepts v = true)
  | error (code : Code) (other : code ≠ .success) (ended : r.value = .finished code)
      (silent : outputs r.events = []) (text : String) (said : .notice text ∈ r.events)

variable (config : Config) (json : Bool) (request : Request)

theorem Tells.atLevel {json : Bool} {r : Recorded Ending} (tells : Tells json r) (level : Level) :
    Tells json (r.atLevel level) := by
  cases tells with
  | result line ended printed visible kept =>
      exact .result line ended (by rw [Recorded.outputs_atLevel, printed]) visible kept
  | error code other ended silent text said =>
      exact .error code other ended (by rw [Recorded.outputs_atLevel, silent]) text
        ((r.notice_mem_atLevel level).2 said)

/-- There is a line about every result of a run. -/
theorem exists_resultLine {function : Compiled} {result : Result}
    (ran : (Pipeline.run config request (some function)).run.value = .ok result) :
    ∃ line, resultLine json result = .ok line ∧ (∀ c ∈ line.toList, Visible c) ∧
      (json = true → ∃ v, Json.read line.toList = .ok v ∧ Contract.result.accepts v = true) := by
  cases json with
  | false => exact ⟨_, rfl, result.visible_summary, by simp⟩
  | true =>
      obtain ⟨short, x, rfl⟩ := Pipeline.exists_area_of_run config request ran
      have requested : request.partitions < Nat.pow 10 Whole.maxDigits := by
        exact lt_of_le_of_lt (Pipeline.le_partitionsFor config request) short
      have portable := Result.portable_toPayload (Pipeline.resultOf config request function x)
        rfl rfl requested short
      refine ⟨Json.writeString (Pipeline.resultOf config request function x).toPayload, ?_, ?_, ?_⟩
      · unfold resultLine
        rw [Result.firstViolation?_toPayload]
        rfl
      · rw [Json.writeString, String.toList_ofList]
        exact Json.visible_write _ portable
      · intro _
        refine ⟨_, ?_, (Pipeline.resultOf config request function x).accepts_toPayload⟩
        rw [Json.writeString, String.toList_ofList]
        exact Json.read_write portable

/-- Integrating a request prints the result or says why there is none. -/
theorem tells_integrateRequest : Tells json (integrateRequest config json request) := by
  have quiet := (Pipeline.quiet_compile config request.expression).outputs_eq_nil
  cases compiled : (Pipeline.compile config request.expression).run.value with
  | error e =>
      refine .error .failure (by decide) ?_ ?_ ("Error compiling the equation: " ++ e.message) ?_ <;>
        simp [integrateRequest, compiled, quiet]
  | ok f =>
      have silent := (Pipeline.quiet_run config request f).outputs_eq_nil
      cases ran : (Pipeline.run config request (some f)).run.value with
      | error e =>
          refine .error .failure (by decide) ?_ ?_ ("Error during integration: " ++ e.message) ?_ <;>
            cases raises : Session.raisesPartitions config request <;>
            simp [integrateRequest, compiled, ran, quiet, silent, raises]
      | ok result =>
          obtain ⟨line, written, visible, kept⟩ := exists_resultLine config json request ran
          refine .result line ?_ ?_ visible kept <;>
            cases raises : Session.raisesPartitions config request <;>
            simp [integrateRequest, compiled, ran, quiet, silent, raises, written]

theorem tells_proceed (given : Except RequestError Request) :
    Tells json (proceed config json given) := by
  cases given with
  | error e => exact .error .usage (by decide) rfl rfl e.message (by simp [proceed])
  | ok request => exact tells_integrateRequest config json request

/-! ## Command lines -/

/-- The separator is neither a word of the command line nor attached to an option. -/
def Unseparated (words : List String) : Prop :=
  ∀ text ∈ words, text ≠ "--" ∧
    ∀ flag a, Word.classify text = .ok (.option flag (some a)) → a.value ≠ ['-', '-']

/-- An option with an expression or a request file is among the words. -/
def CarriesIntegral (words : List String) : Prop :=
  ∃ text ∈ words, ∃ flag attached,
    Word.classify text = .ok (.option flag attached) ∧ flag.NamesIntegral

/-- The command line is not understood, or an expression lacks what goes with it. -/
def Misused (words : List String) : Prop :=
  (∃ e, Arguments.parse words = .error (.usage e)) ∨
    ∃ a, Arguments.parse words = .ok a ∧ a.request = none ∧ a.expression.isSome = true ∧
      missingNames a ≠ []

/-- A command line that names an integral is carried out or lacks an argument. -/
theorem perform_cases (world : Surroundings) (a : Arguments) (names : a.NamesIntegral) :
    Tells a.json (perform world config a) ∨
      (perform world config a).value = .stopped 2 ∧ a.request = none ∧
        a.expression.isSome = true ∧ missingNames a ≠ [] := by
  unfold perform
  split
  · exact .inl (tells_proceed config a.json _)
  · rename_i request expression
    rcases names with some | some <;> simp_all
  · rename_i request expression
    split
    · exact .inl (tells_proceed config a.json _)
    · rename_i missing
      refine .inr ⟨rfl, request, by simp [expression], ?_⟩
      unfold missingNames
      cases partitions : a.partitions with
      | none => simp
      | some n =>
          cases bounds : a.bounds with
          | none => simp
          | some b =>
              cases method : a.method with
              | none => simp
              | some m => exact absurd method (missing n b m partitions bounds)

/-- The lines of one line. -/
theorem joinLines_singleton (line : String) : Transcript.joinLines [line] = line ++ "\n" := by
  simp [Transcript.joinLines]

theorem joinLines_ne_empty {line : String} {lines : List String} (member : line ∈ lines) :
    Transcript.joinLines lines ≠ "" := by
  intro empty
  have none : (Transcript.joinLines lines).toList = [] := by rw [empty]; rfl
  rw [Transcript.joinLines, String.toList_join, List.flatMap_eq_nil_iff] at none
  have last := none (line ++ "\n") (List.mem_map_of_mem member)
  simp at last

theorem mem_errorLines {stamp text : String} {events : List Event} (said : .notice text ∈ events) :
    text ∈ Transcript.errorLines stamp events :=
  List.mem_filterMap.2 ⟨.notice text, said, rfl⟩

/-- What the two outputs of a run hold. -/
theorem Tells.transcript {json : Bool} {r : Recorded Ending} (tells : Tells json r)
    (stamp : String) : ∃ code, r.value = .finished code ∧
      (code = .success → ∃ line, (Transcript.ofRun stamp r).output = line ++ "\n" ∧
        '\n' ∉ line.toList ∧
        (json = true → ∃ v, Json.read line.toList = .ok v ∧ Contract.result.accepts v = true)) ∧
      (code ≠ .success → (Transcript.ofRun stamp r).output = "" ∧
        (Transcript.ofRun stamp r).errors ≠ "") := by
  cases tells with
  | result line ended printed visible kept =>
      refine ⟨.success, ended, fun _ => ⟨line, ?_, ?_, kept⟩, by simp⟩
      · show Transcript.joinLines (outputs r.events) = _
        rw [printed, joinLines_singleton]
      · intro feed
        exact absurd (visible _ feed) (by decide)
  | error code other ended silent text said =>
      refine ⟨code, ended, fun same => absurd same other, fun _ => ⟨?_, ?_⟩⟩
      · show Transcript.joinLines (outputs r.events) = _
        rw [silent]
        rfl
      · exact joinLines_ne_empty (mem_errorLines said)

/-- **A run prints a result or an error**, never both, and nothing else happens. -/
theorem run_settles (world : Surroundings) {words : List String} (plain : Unseparated words)
    (carries : CarriesIntegral words) (stamp : String) :
    (run world words).value = .stopped 0 ∧ Arguments.parse words = .error .help ∨
    (run world words).value = .stopped 2 ∧ Misused words ∨
    ∃ a code, Arguments.parse words = .ok a ∧ (run world words).value = .finished code ∧
      (code = .success → ∃ line,
        (Transcript.ofRun stamp (run world words)).output = line ++ "\n" ∧ '\n' ∉ line.toList ∧
        (a.json = true → ∃ v, Json.read line.toList = .ok v ∧ Contract.result.accepts v = true)) ∧
      (code ≠ .success → (Transcript.ofRun stamp (run world words)).output = "" ∧
        (Transcript.ofRun stamp (run world words)).errors ≠ "") := by
  obtain ⟨text, member, flag, attached, kind, name⟩ := carries
  have separate : "--" ∉ words := fun inside => (plain _ inside).1 rfl
  unfold run
  cases parsed : Arguments.parse words with
  | error stop =>
      cases stop with
      | help => exact .inl ⟨rfl, rfl⟩
      | usage e => exact .inr (.inl ⟨rfl, .inl ⟨e, parsed⟩⟩)
  | ok a =>
      have names : a.NamesIntegral := Arguments.parse_names separate member kind name parsed
      dsimp only
      cases configured : configOf world a with
      | error e =>
          have tells : Tells a.json (do
              Recorded.notice ("Invalid configuration: " ++ e.message)
              return .finished .usage) :=
            .error .usage (by decide) rfl rfl ("Invalid configuration: " ++ e.message) (by simp)
          obtain ⟨code, outcome⟩ := tells.transcript stamp
          exact .inr (.inr ⟨a, code, rfl, outcome⟩)
      | ok config =>
          rcases perform_cases config world a names with tells | ⟨stopped, none, some, missing⟩
          · obtain ⟨code, outcome⟩ := (tells.atLevel config.level).transcript stamp
            exact .inr (.inr ⟨a, code, rfl, outcome⟩)
          · exact .inr (.inl ⟨stopped, .inr ⟨a, parsed, none, some, missing⟩⟩)

/-- Surroundings without settings, files and input. -/
def bareSurroundings : Surroundings := ⟨fun _ => none, fun path => .error (.missing path), []⟩

/-- A command line that asks for an integral, as JSON. -/
def squareWords : List String :=
  ["-e", "x*x", "-n", "4", "-b", "[0,1]", "-m", "simpson", "--json"]

/-- The theorem at a command line with an expression, in surroundings without settings and files:
the run prints one line, and the line is read as a record that keeps the contract. -/
theorem run_settles_quadratic : ∃ line v,
    (run bareSurroundings squareWords).value = .finished .success ∧
    (Transcript.ofRun "" (run bareSurroundings squareWords)).output = line ++ "\n" ∧
    '\n' ∉ line.toList ∧ Json.read line.toList = .ok v ∧ Contract.result.accepts v = true := by
  have parsed : Arguments.parse squareWords = .ok
      ⟨some "x*x", some 4, some "[0,1]", some "simpson", none, none, true, none⟩ := by
    decide +kernel
  have kinds : squareWords.map Word.classify = [.ok (.option .expression none),
      .ok (.argument "x*x"), .ok (.option .partitions none), .ok (.argument "4"),
      .ok (.option .bounds none), .ok (.argument "[0,1]"), .ok (.option .method none),
      .ok (.argument "simpson"), .ok (.option .json none)] := by
    decide +kernel
  have separate : "--" ∉ squareWords := by decide
  have plain : Unseparated squareWords := by
    intro text member
    refine ⟨fun same => separate (same ▸ member), ?_⟩
    intro flag a attached
    have kind := List.mem_map.2 ⟨text, member, attached⟩
    rw [kinds] at kind
    simp at kind
  have carries : CarriesIntegral squareWords :=
    ⟨"-e", by decide, .expression, none, by decide +kernel, .inr rfl⟩
  have successful : (match (run bareSurroundings squareWords).value with
      | .finished .success => true
      | _ => false) = true := by
    decide +kernel
  rcases run_settles bareSurroundings plain carries "" with
    ⟨stopped, -⟩ | ⟨stopped, -⟩ | ⟨a, code, read, ended, printed, -⟩
  · rw [stopped] at successful
    cases successful
  · rw [stopped] at successful
    cases successful
  · rw [ended] at successful
    obtain rfl : code = .success := by cases code <;> first | rfl | cases successful
    obtain rfl := Except.ok.inj (parsed.symm.trans read)
    obtain ⟨line, output, single, kept⟩ := printed rfl
    obtain ⟨v, reread, accepted⟩ := kept rfl
    exact ⟨line, v, ended, output, single, reread, accepted⟩

end CommandLine

end Quadrature
