/-
# Quadrature.Proofs.CommandLine.Agreement -- a session and a command line agree

The four answers of a session can be given on a command line instead. The two ways judge them in a
different order and by different means: a session reads the number of partitions itself and takes the
rule from the menu before it looks at the expression, while on a command line the number is read with
the options and the rule may also have a name. For texts that both can take (`Plain`) the end is the
same, on every combination of bad answers, failing expressions and results.

* `parse_words`, `requestOf_eq_ok_iff`: what the command line makes of the texts;
* `Plain.asks_iff`: the answers of a session are understood exactly if they make a request;
* `agree_of_refused`, `agree_of_fails`, `agree_of_yields`: the ways a session can end;
* `run_agrees`: the two ways compared, for all texts.
-/
import Quadrature.Proofs.CommandLine.Attached
import Quadrature.Proofs.CommandLine.Run
import Quadrature.Proofs.Request
import Quadrature.Proofs.Session

namespace Quadrature

set_option autoImplicit false

open Quadrature.Text
open Quadrature.Number
open Quadrature.Recorded (outputs)
open Quadrature.Session (GivesPartitions GivesBounds GivesMethod Asks RefusedAt Fails Yields)

/-! ## Texts of the menu -/

/-- A text of digits chooses the same rule by either way of reading it. -/
theorem Method.parse_digits {text : String} (filled : text ≠ "")
    (digits : ∀ c ∈ text.toList, c.isDigit = true) :
    (parse text).toOption = Session.readMethod text := by
  have some : text.toList.isEmpty = false := by simpa using filled
  have like : text.toList.all isDigitLike = true := by
    apply List.all_eq_true.2
    intro c member
    simp [isDigitLike, isDigit, digitValue?_of_isDigit (digits c member)]
  have trimmed : trim text.toList = text.toList :=
    trimBy_eq_self fun c member => isBlank_of_isDigit (digits c member)
  unfold parse Session.readMethod
  simp only [trimmed, some, like, Bool.not_false, Bool.and_self, if_true]
  cases Whole.read text.toList <;> rfl

namespace CommandLine

/-- Texts that both ways can take as expression, number of partitions, bounds and number of the
menu. -/
structure Plain (e n b m : String) : Prop where
  inked : isInked e = true
  trimmed : trim n.toList = n.toList
  filled : m ≠ ""
  digits : ∀ c ∈ m.toList, c.isDigit = true
  separate : "--" ∉ [e, n, b, m]

/-- The command line with the given texts. -/
def wordsOf (e n b m : String) : List String :=
  ["--expression=" ++ e, "--partitions=" ++ n, "--bounds=" ++ b, "--method=" ++ m]

/-- The program ended with a code. -/
def EndsWith (r : Recorded Ending) (code : Code) : Prop :=
  r.value = .finished code ∨ r.value = .stopped code.toNat

/-- A session and a run of the program came to the same end. -/
structure Agree (session : Recorded (Except Report Code)) (r : Recorded Ending) (code : Code) :
    Prop where
  answered : session.value = .ok code
  ended : EndsWith r code
  /-- The last line of the session is the line that the program printed. -/
  line : code = .success → ∃ line,
    (outputs session.events).getLast? = some line ∧ outputs r.events = [line]
  notice : code = .success →
    (Session.incrementNotice ∈ outputs session.events ↔ .notice Session.incrementNotice ∈ r.events)

variable {e n b m : String}

/-! ## What the command line makes of the texts -/

theorem wordsOf_eq : wordsOf e n b m =
    [(Flag.expression, e), (.partitions, n), (.bounds, b), (.method, m)].map
      fun o => o.1.attach o.2 := by
  have expression : Flag.longName .expression ++ "=" = "--expression=" := by decide +kernel
  have partitions : Flag.longName .partitions ++ "=" = "--partitions=" := by decide +kernel
  have bounds : Flag.longName .bounds ++ "=" = "--bounds=" := by decide +kernel
  have method : Flag.longName .method ++ "=" = "--method=" := by decide +kernel
  simp only [List.map_cons, List.map_nil, Flag.attach, expression, partitions, bounds, method]
  rfl

theorem parse_words : Arguments.parse (wordsOf e n b m) = match Whole.readString n with
    | .ok k => .ok ⟨some e, some k, some b, some m, none, none, false, none⟩
    | .error _ => .error (.usage (.notWhole .partitions n)) := by
  rw [wordsOf_eq, Arguments.parse_attach (by simp [Flag.takesArgument])]
  simp only [Arguments.takeAll, Arguments.take]
  cases Whole.readString n <;> rfl

/-- Without settings and options for them, the settings are the standard ones. -/
theorem configOf_bare {world : Surroundings} (bare : ∀ setting, world.environment setting = none)
    {a : Arguments} (variableName : a.variableName = none) (levelName : a.levelName = none) :
    configOf world a = .ok .standard := by
  have build_standard : Config.build Config.standard.variableName true Config.standard.levelName =
      .ok .standard := by
    rw [Config.build, dif_pos Config.standard.isIdentifier_variableName,
      dif_pos Config.standard.isSome_level]
    rfl
  have name : trimString Config.defaultVariableName = Config.standard.variableName := by
    decide +kernel
  have level : upperString (trimString Config.defaultLevelName) = Config.standard.levelName := by
    decide +kernel
  have environment : Config.ofEnvironment world.environment = .ok .standard := by
    simp only [Config.ofEnvironment, bare, Option.getD_none, name, level]
    exact build_standard
  have override : Config.standard.override none none = .ok .standard := by
    rw [Config.override, Option.map_none, Option.getD_none, Option.getD_none]
    exact build_standard
  rw [configOf, environment, variableName, levelName]
  exact override

theorem requestOf_eq_ok_iff {k : Int} {r : Request} : requestOf e k b m = .ok r ↔
    r.expression = e ∧ k = r.partitions ∧ Bounds.parse b = .ok r.bounds ∧
      Method.parse m = .ok r.method := by
  unfold requestOf
  cases Bounds.parse b with
  | error fault => simp [Except.mapError, bind, Except.bind]
  | ok bounds =>
      cases Method.parse m with
      | error fault => simp [Except.mapError, bind, Except.bind]
      | ok method =>
          show (Request.ofParts e (.int k) bounds method.name).mapError RequestError.rejected =
            .ok r ↔ _
          rw [Checked.mapError_eq_ok_iff, Request.ofParts_eq_ok_iff, Except.ok.injEq, Except.ok.injEq]
          tauto

section

variable (plain : Plain e n b m)
include plain

theorem Plain.givesPartitions_iff {k : Int} :
    GivesPartitions [e, n, b, m] k ↔ Whole.readString n = .ok k ∧ 0 < k := by
  have second : [e, n, b, m][1]?.getD "" = n := rfl
  rw [GivesPartitions, second, plain.trimmed, Whole.readString]

theorem Plain.givesMethod_iff {method : Method} :
    GivesMethod [e, n, b, m] method ↔ Method.parse m = .ok method := by
  have last : [e, n, b, m][3]? = some m := rfl
  rw [← Session.bind_readMethod_eq_some, last, Option.bind_some,
    ← Method.parse_digits plain.filled plain.digits]
  cases Method.parse m <;> simp [Except.toOption]

/-- The answers are understood exactly if they are the arguments of a request. -/
theorem Plain.asks_iff {k : Int} {bounds : Bounds} {method : Method} :
    Asks [e, n, b, m] k bounds method ↔ Whole.readString n = .ok k ∧
      ∃ r, requestOf e k b m = .ok r ∧ r.bounds = bounds ∧ r.method = method := by
  constructor
  · rintro ⟨partitions, domain, rule⟩
    obtain ⟨read, positive⟩ := plain.givesPartitions_iff.1 partitions
    refine ⟨read, ⟨e, k.toNat, bounds, method, plain.inked, by omega⟩, ?_, rfl, rfl⟩
    apply requestOf_eq_ok_iff.2
    exact ⟨rfl, (Int.toNat_of_nonneg (by omega)).symm, domain, plain.givesMethod_iff.1 rule⟩
  · rintro ⟨read, r, made, rfl, rfl⟩
    obtain ⟨-, count, domain, rule⟩ := requestOf_eq_ok_iff.1 made
    have positive := r.partitions_pos
    exact ⟨plain.givesPartitions_iff.2 ⟨read, by omega⟩, domain, plain.givesMethod_iff.2 rule⟩

end

/-! ## Once the texts are judged -/

section

variable {config : Config} {request : Request} {k : Int} {bounds : Bounds} {method : Method}

theorem integrateRequest_of_not_compiled {json : Bool} {fault : CompileError}
    (failed : (Pipeline.compile config request.expression).run.value = .error fault) :
    (integrateRequest config json request).value = .finished .failure := by
  simp [integrateRequest, failed]

theorem integrateRequest_of_not_run {json : Bool} {f : Compiled} {fault : RunError}
    (compiled : (Pipeline.compile config request.expression).run.value = .ok f)
    (failed : (Pipeline.run config request (some f)).run.value = .error fault) :
    (integrateRequest config json request).value = .finished .failure := by
  cases raises : Session.raisesPartitions config request <;>
    simp [integrateRequest, compiled, failed, raises]

/-- A result is printed as a sentence, after a notice if the number of partitions was raised. -/
theorem integrateRequest_of_run {f : Compiled} {result : Result}
    (compiled : (Pipeline.compile config request.expression).run.value = .ok f)
    (ran : (Pipeline.run config request (some f)).run.value = .ok result) :
    (integrateRequest config false request).value = .finished .success ∧
      outputs (integrateRequest config false request).events = [result.summary] ∧
      (.notice Session.incrementNotice ∈ (integrateRequest config false request).events ↔
        result.partitionsUsed ≠ result.partitionsRequested) := by
  have quiet := Pipeline.quiet_compile config request.expression
  have silent := Pipeline.quiet_run config request f
  have raised : Session.raisesPartitions config request = true ↔
      result.partitionsUsed ≠ result.partitionsRequested := by
    obtain ⟨-, x, rfl⟩ := Pipeline.exists_area_of_run config request ran
    exact Session.raisesPartitions_iff config
  rw [← raised]
  cases raises : Session.raisesPartitions config request <;>
    simp [integrateRequest, compiled, ran, raises, resultLine, quiet.outputs_eq_nil,
      silent.outputs_eq_nil, quiet.notice_not_mem, silent.notice_not_mem]

end

/-! ## The end of both -/

section

variable {world : Surroundings} (bare : ∀ setting, world.environment setting = none)

theorem run_of_not_read {fault : Whole.ReadError} (unread : Whole.readString n = .error fault) :
    (run world (wordsOf e n b m)).value = .stopped 2 := by
  unfold run
  rw [parse_words, unread]
  rfl

include bare

theorem run_of_read {k : Int} (read : Whole.readString n = .ok k) : run world (wordsOf e n b m) =
    (proceed .standard false (requestOf e k b m)).atLevel Config.standard.level := by
  unfold run
  rw [parse_words, read]
  dsimp only
  rw [configOf_bare bare rfl rfl]
  rfl

variable (plain : Plain e n b m)
include plain

/-- Texts that are not understood end a run by the usage code, wherever that is noticed. -/
theorem endsWith_usage (unasked : ∀ k bounds method, ¬ Asks [e, n, b, m] k bounds method) :
    EndsWith (run world (wordsOf e n b m)) .usage := by
  cases read : Whole.readString n with
  | error fault => exact .inr (run_of_not_read read)
  | ok k =>
      left
      cases made : requestOf e k b m with
      | ok r => exact absurd (plain.asks_iff.2 ⟨read, r, made, rfl, rfl⟩) (unasked k _ _)
      | error fault =>
          rw [run_of_read bare read, made]
          rfl

/-- Texts that are understood ask for the integral that the answers ask for. -/
theorem run_of_asks {k : Int} {bounds : Bounds} {method : Method} {request : Request}
    (asked : Asks [e, n, b, m] k bounds method)
    (accepted : Request.ofParts e (.int k) bounds method.name = .ok request) :
    run world (wordsOf e n b m) =
      (integrateRequest .standard false request).atLevel Config.standard.level := by
  obtain ⟨read, r, made, rfl, rfl⟩ := plain.asks_iff.1 asked
  obtain ⟨expression, count, -, -⟩ := requestOf_eq_ok_iff.1 made
  have same := accepted.symm.trans (Request.ofParts_eq_ok_iff.2 ⟨expression, count, rfl, rfl⟩)
  obtain rfl := Except.ok.inj same
  rw [run_of_read bare read, made]
  rfl

theorem agree_of_refused {k : Nat} (refused : RefusedAt [e, n, b, m] k) :
    Agree (Session.run .standard [e, n, b, m]) (run world (wordsOf e n b m)) .usage := by
  obtain ⟨line, -, same⟩ := Session.run_of_refused .standard refused
  constructor
  case answered => rw [same _ rfl]
  case ended => exact endsWith_usage bare plain fun _ _ _ => refused.not_asks
  case line => simp
  case notice => simp

theorem agree_of_fails (fails : Fails .standard [e, n, b, m]) :
    Agree (Session.run .standard [e, n, b, m]) (run world (wordsOf e n b m)) .failure := by
  constructor
  case answered => exact (Session.run_of_fails .standard fails).1
  case ended =>
    left
    cases fails with
    | compiling asked failed =>
        rename_i k bounds method fault
        rw [Session.expressionOf_cons] at failed
        obtain ⟨request, accepted⟩ :=
          Request.exists_ofParts bounds method plain.inked asked.partitions.2
        obtain ⟨expression, -⟩ := Request.ofParts_eq_ok_iff.1 accepted
        rw [← expression] at failed
        rw [run_of_asks bare plain asked accepted, Recorded.value_atLevel]
        exact integrateRequest_of_not_compiled failed
    | integrating asked compiled accepted failed =>
        rw [Session.expressionOf_cons] at compiled accepted
        obtain ⟨expression, -⟩ := Request.ofParts_eq_ok_iff.1 accepted
        rw [← expression] at compiled
        rw [run_of_asks bare plain asked accepted, Recorded.value_atLevel]
        exact integrateRequest_of_not_run compiled failed
  case line => simp
  case notice => simp

theorem agree_of_yields {result : Result} (yields : Yields .standard [e, n, b, m] result) :
    Agree (Session.run .standard [e, n, b, m]) (run world (wordsOf e n b m)) .success := by
  obtain ⟨answered, before, lines, -⟩ := Session.run_of_yields .standard yields
  have raised := Session.notice_mem_iff .standard yields
  obtain ⟨asked, compiled, accepted, integrated⟩ := yields
  rw [Session.expressionOf_cons] at compiled accepted
  obtain ⟨expression, -⟩ := Request.ofParts_eq_ok_iff.1 accepted
  rw [← expression] at compiled
  obtain ⟨ended, printed, noticed⟩ := integrateRequest_of_run compiled integrated
  rw [run_of_asks bare plain asked accepted]
  constructor
  case answered => exact answered
  case ended => exact .inl ended
  case line =>
    intro _
    refine ⟨result.summary, ?_, ?_⟩
    · rw [lines, List.getLast?_concat]
    · rw [Recorded.outputs_atLevel, printed]
  case notice =>
    intro _
    rw [raised, Recorded.notice_mem_atLevel, noticed]

end

end CommandLine

end Quadrature
