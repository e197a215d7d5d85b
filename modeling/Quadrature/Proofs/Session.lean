/-
# Quadrature.Proofs.Session -- a session ends with a truthful code

Whatever the answers are, a session ends, and its code tells why. An answer that is not understood
stops it at once, before the expression is looked at (`RefusedAt`); otherwise the code says whether
the integral was found (`Yields`) or not (`Fails`). The request that the answers make is never
refused: a text that compiles is not blank.

* `run_of_refused`, `run_of_asks`: what a session is once its answers are judged;
* `run_truthful`: the code, the questions asked and the lines written, for all answers.
-/
import Quadrature.Proofs.Pipeline
import Quadrature.Proofs.Request
import Quadrature.Session

namespace Quadrature.Session

set_option autoImplicit false

open Quadrature.Text
open Quadrature.Number
open Quadrature.Recorded (outputs logs)

/-! ## What the answers say -/

/-- The expression: the first answer, or nothing. -/
def expressionOf (answers : List String) : String := answers[0]?.getD ""

/-- The second answer is a whole number above zero. -/
def GivesPartitions (answers : List String) (n : Int) : Prop :=
  Whole.read (trim (answers[1]?.getD "").toList) = .ok n ∧ 0 < n

/-- The third answer is a pair of finite numbers. -/
def GivesBounds (answers : List String) (b : Bounds) : Prop :=
  Bounds.parse (answers[2]?.getD "") = .ok b

/-- There is a fourth answer, and it is a number of the menu. -/
def GivesMethod (answers : List String) (m : Method) : Prop :=
  ∃ answer n, answers[3]? = some answer ∧ Whole.read (trim answer.toList) = .ok n ∧
    1 ≤ n ∧ n ≤ 5 ∧ Method.all[(n - 1).toNat]? = some m

/-- All answers are understood. -/
structure Asks (answers : List String) (n : Int) (b : Bounds) (m : Method) : Prop where
  partitions : GivesPartitions answers n
  bounds : GivesBounds answers b
  method : GivesMethod answers m

/-- The answer to the question with the given number is the first that is not understood. -/
inductive RefusedAt (answers : List String) : Nat → Prop where
  | partitions (other : ∀ n, ¬ GivesPartitions answers n) : RefusedAt answers 2
  | bounds {n : Int} (partitions : GivesPartitions answers n)
      (other : ∀ b, ¬ GivesBounds answers b) : RefusedAt answers 3
  | method {n : Int} {b : Bounds} (partitions : GivesPartitions answers n)
      (bounds : GivesBounds answers b) (other : ∀ m, ¬ GivesMethod answers m) :
      RefusedAt answers 4

/-- All answers are understood, and the expression does not compile or its integral fails. -/
inductive Fails (config : Config) (answers : List String) : Prop where
  | compiling {n : Int} {b : Bounds} {m : Method} {e : CompileError} (asked : Asks answers n b m)
      (failed : (Pipeline.compile config (expressionOf answers)).run.value = .error e)
  | integrating {n : Int} {b : Bounds} {m : Method} {f : Compiled} {request : Request}
      {e : RunError} (asked : Asks answers n b m)
      (compiled : (Pipeline.compile config (expressionOf answers)).run.value = .ok f)
      (accepted : Request.ofParts (expressionOf answers) (.int n) b m.name = .ok request)
      (failed : (Pipeline.run config request (some f)).run.value = .error e)

/-- All answers are understood, and they ask for an integral with the given result. -/
inductive Yields (config : Config) (answers : List String) (result : Result) : Prop where
  | intro {n : Int} {b : Bounds} {m : Method} {f : Compiled} {request : Request}
      (asked : Asks answers n b m)
      (compiled : (Pipeline.compile config (expressionOf answers)).run.value = .ok f)
      (accepted : Request.ofParts (expressionOf answers) (.int n) b m.name = .ok request)
      (integrated : (Pipeline.run config request (some f)).run.value = .ok result)

variable (config : Config) {answers : List String} {n : Int} {b : Bounds} {m : Method}

@[simp] theorem expressionOf_cons (e : String) (answers : List String) :
    expressionOf (e :: answers) = e := rfl

theorem readPartitions_eq_some {answer : String} : readPartitions answer = some n ↔
    Whole.read (trim answer.toList) = .ok n ∧ 0 < n := by
  unfold readPartitions
  cases Whole.read (trim answer.toList) with
  | error e => simp
  | ok k =>
      by_cases positive : 0 < k
      · simp only [positive, if_true, Option.some.injEq, Except.ok.injEq]
        constructor
        · rintro rfl
          exact ⟨rfl, positive⟩
        · exact And.left
      · simp only [positive, if_false, Except.ok.injEq]
        constructor
        · simp
        · rintro ⟨rfl, above⟩
          exact absurd above positive

/-- The menu has five numbers. -/
theorem ofChoice_toOption (n : Int) : (Method.ofChoice (.int n)).toOption = some m ↔
    1 ≤ n ∧ n ≤ 5 ∧ Method.all[(n - 1).toNat]? = some m := by
  simp only [Method.ofChoice, Method.ofNumber?]
  by_cases low : 1 ≤ n
  · rw [if_pos low]
    cases entry : Method.all[(n - 1).toNat]? with
    | none => simp [Except.toOption]
    | some k =>
        obtain ⟨short, -⟩ := List.getElem?_eq_some_iff.1 entry
        have high : n ≤ 5 := by
          have : (n - 1).toNat < 5 := short
          omega
        simp [Except.toOption, low, high]
  · simp [low, Except.toOption]

theorem bind_readMethod_eq_some : answers[3]?.bind readMethod = some m ↔ GivesMethod answers m := by
  unfold GivesMethod
  cases answers[3]? with
  | none => simp
  | some answer =>
      simp only [Option.bind_some, readMethod, Option.some.injEq, exists_and_left, exists_eq_left']
      cases Whole.read (trim answer.toList) with
      | error e => simp
      | ok k => simp [ofChoice_toOption]

theorem RefusedAt.not_asks {k : Nat} (refused : RefusedAt answers k) : ¬ Asks answers n b m := by
  intro asked
  cases refused with
  | partitions other => exact other n asked.partitions
  | bounds partitions other => exact other b asked.bounds
  | method partitions bounds other => exact other m asked.method

/-- Every list of answers is refused at some question or understood. -/
theorem refused_or_asks (answers : List String) :
    (∃ k, RefusedAt answers k) ∨ ∃ n b m, Asks answers n b m := by
  by_cases partitions : ∃ n, GivesPartitions answers n
  · obtain ⟨n, partitions⟩ := partitions
    by_cases bounds : ∃ b, GivesBounds answers b
    · obtain ⟨b, bounds⟩ := bounds
      by_cases method : ∃ m, GivesMethod answers m
      · obtain ⟨m, method⟩ := method
        exact .inr ⟨n, b, m, partitions, bounds, method⟩
      · exact .inl ⟨4, .method partitions bounds (not_exists.1 method)⟩
    · exact .inl ⟨3, .bounds partitions (not_exists.1 bounds)⟩
  · exact .inl ⟨2, .partitions (not_exists.1 partitions)⟩

/-! ## The questions -/

/-- What is said before each question. -/
def questions : List (List String) :=
  [["Enter an equation in terms of x"], ["How many partitions would you like?"],
    ["Enter domain bounds [x0,x1]: "], "Select an integration method:" :: menu]

/-- What happens until the given number of questions is asked. -/
def asking (k : Nat) : List Event :=
  (questions.take k).flatMap fun lines => lines.map .output ++ [.question]

/-- A session that is refused stops there, whatever the first answer is. -/
theorem run_of_refused {k : Nat} (refused : RefusedAt answers k) :
    ∃ line, line.toList.head? = some 'I' ∧ ∀ others : List String, others.tail = answers.tail →
      run config others = ⟨asking k ++ [.output line], .ok .usage⟩ := by
  have same {others : List String} (tails : others.tail = answers.tail) (i : Nat) :
      others[i + 1]? = answers[i + 1]? := by
    rw [← List.getElem?_tail, tails, List.getElem?_tail]
  cases refused with
  | partitions other =>
      refine ⟨"Invalid partitions value. Must be a positive integer.", rfl, ?_⟩
      intro others tails
      have none : readPartitions (answers[1]?.getD "") = none :=
        Option.eq_none_iff_forall_ne_some.2 fun n some => other n (readPartitions_eq_some.1 some)
      simp only [run, same tails 0, none]
      rfl
  | bounds partitions other =>
      refine ⟨"Invalid input format. Please enter values as [x0,x1].", rfl, ?_⟩
      intro others tails
      obtain ⟨e, unread⟩ : ∃ e, Bounds.parse (answers[2]?.getD "") = .error e := by
        cases parsed : Bounds.parse (answers[2]?.getD "") with
        | error e => exact ⟨e, rfl⟩
        | ok b => exact absurd parsed (other b)
      simp only [run, same tails 0, same tails 1, readPartitions_eq_some.2 partitions, unread]
      rfl
  | method partitions bounds other =>
      refine ⟨"Invalid method selection.", rfl, ?_⟩
      intro others tails
      have read : Bounds.parse (answers[2]?.getD "") = .ok _ := bounds
      have none : answers[3]?.bind readMethod = none :=
        Option.eq_none_iff_forall_ne_some.2 fun m some => other m (bind_readMethod_eq_some.1 some)
      simp only [run, same tails 0, same tails 1, same tails 2,
        readPartitions_eq_some.2 partitions, read, none]
      rfl

theorem run_of_asks (asked : Asks answers n b m) : run config answers =
    ⟨asking 4 ++ (conclude config (expressionOf answers) n b m).events,
      (conclude config (expressionOf answers) n b m).value⟩ := by
  have partitions := readPartitions_eq_some.2 asked.partitions
  have bounds : Bounds.parse (answers[2]?.getD "") = .ok b := asked.bounds
  have method := bind_readMethod_eq_some.2 asked.method
  simp only [run, partitions, bounds, method]
  rfl

/-! ## The lines -/

/-- The first letter tells a summary from all other lines. -/
theorem summary_head (r : Result) : r.summary.toList.head? = some 'T' := by
  have first : "The approximate area under the curve using ".toList.head? = some 'T' := by
    decide +kernel
  unfold Result.summary
  rw [String.toList_append, List.head?_append, String.toList_append, List.head?_append,
    String.toList_append, List.head?_append, first]
  rfl

theorem summary_not_mem {lines : List String}
    (other : ∀ line ∈ lines, line.toList.head? ≠ some 'T') (r : Result) : r.summary ∉ lines :=
  fun member => other _ member (summary_head r)

theorem head_of_mem_asking :
    ∀ k ≤ 4, ∀ line ∈ outputs (asking k), line.toList.head? ≠ some 'T' := by decide

theorem count_question_asking : ∀ k ≤ 4, (asking k).count .question = k := by decide

theorem logs_asking : ∀ k ≤ 4, logs (asking k) = [] := by decide

theorem incrementNotice_not_mem_asking : incrementNotice ∉ outputs (asking 4) := by decide

theorem RefusedAt.le {k : Nat} (refused : RefusedAt answers k) : k ≤ 4 := by
  cases refused <;> decide

/-! ## The end of a session -/

/-- A text that compiles makes a request, which holds the number of partitions. -/
theorem exists_request (asked : Asks answers n b m) {f : Compiled}
    (compiled : (Pipeline.compile config (expressionOf answers)).run.value = .ok f) :
    ∃ request, Request.ofParts (expressionOf answers) (.int n) b m.name = .ok request :=
  Request.exists_ofParts b m (Pipeline.inked_of_compiled config compiled) asked.partitions.2

section

variable {expression : String} {f : Compiled} {request : Request}

theorem conclude_of_not_compiled {e : CompileError}
    (failed : (Pipeline.compile config expression).run.value = .error e) :
    (conclude config expression n b m).value = .ok .failure ∧
      ∃ rest, outputs (conclude config expression n b m).events =
        ["Error compiling the equation: " ++ rest] := by
  have quiet := (Pipeline.quiet_compile config expression).outputs_eq_nil
  unfold conclude
  simp only [Recorded.events_bind, Recorded.value_bind, failed]
  exact ⟨rfl, _, by rw [Recorded.outputs_append, quiet]; rfl⟩

/-- The lines about the number of partitions. -/
def noticeLines (config : Config) (request : Request) : List String :=
  if raisesPartitions config request then [incrementNotice] else []

theorem conclude_of_compiled (compiled : (Pipeline.compile config expression).run.value = .ok f)
    (accepted : Request.ofParts expression (.int n) b m.name = .ok request) :
    match (Pipeline.run config request (some f)).run.value with
    | .error _ => (conclude config expression n b m).value = .ok .failure ∧
        ∃ rest, outputs (conclude config expression n b m).events =
          noticeLines config request ++ ["Error during integration: " ++ rest]
    | .ok result => (conclude config expression n b m).value = .ok .success ∧
        outputs (conclude config expression n b m).events =
          noticeLines config request ++ [result.summary] := by
  have quiet := (Pipeline.quiet_compile config expression).outputs_eq_nil
  have silent := (Pipeline.quiet_run config request f).outputs_eq_nil
  unfold conclude noticeLines
  simp only [Recorded.events_bind, Recorded.value_bind, compiled, accepted]
  cases ran : Recorded.value (Pipeline.run config request (some f)).run with
  | error e =>
      cases raisesPartitions config request <;>
        simp [quiet, silent, ran]
  | ok result =>
      cases raisesPartitions config request <;>
        simp [quiet, silent, ran]

end

theorem raisesPartitions_iff {request : Request} : raisesPartitions config request = true ↔
    Pipeline.partitionsFor config request ≠ request.partitions := by
  unfold raisesPartitions Pipeline.partitionsFor
  cases config.simpsonAutoIncrement <;> simp

theorem incrementNotice_mem_noticeLines {request : Request} :
    incrementNotice ∈ noticeLines config request ↔
      Pipeline.partitionsFor config request ≠ request.partitions := by
  rw [← raisesPartitions_iff, noticeLines]
  split <;> simp_all

theorem head_of_mem_noticeLines {request : Request} :
    ∀ line ∈ noticeLines config request, line.toList.head? ≠ some 'T' := by
  have plain : incrementNotice.toList.head? ≠ some 'T' := by decide +kernel
  intro line member
  unfold noticeLines at member
  split at member
  · obtain rfl := List.mem_singleton.1 member
    exact plain
  · cases member

/-! ## All sessions -/

/-- A session is refused, fails, or finds its integral. -/
theorem outcome_cases (answers : List String) :
    (∃ k, RefusedAt answers k) ∨ Fails config answers ∨ ∃ result, Yields config answers result := by
  rcases refused_or_asks answers with refused | ⟨n, b, m, asked⟩
  · exact .inl refused
  · right
    cases compiled : (Pipeline.compile config (expressionOf answers)).run.value with
    | error e => exact .inl (.compiling asked compiled)
    | ok f =>
        obtain ⟨request, accepted⟩ := exists_request config asked compiled
        cases integrated : (Pipeline.run config request (some f)).run.value with
        | error e => exact .inl (.integrating asked compiled accepted integrated)
        | ok result => exact .inr ⟨result, asked, compiled, accepted, integrated⟩

theorem run_of_fails (fails : Fails config answers) :
    (run config answers).value = .ok .failure ∧
      ∀ line ∈ outputs (run config answers).events, line.toList.head? ≠ some 'T' := by
  have prefixed (start rest : String) (first : start.toList.head? = some 'E') :
      (start ++ rest).toList.head? ≠ some 'T' := by
    rw [String.toList_append, List.head?_append, first]
    simp
  cases fails with
  | compiling asked failed =>
      rw [run_of_asks config asked]
      dsimp only
      obtain ⟨ended, rest, lines⟩ := conclude_of_not_compiled config failed
      refine ⟨ended, ?_⟩
      rw [Recorded.outputs_append, lines]
      intro line member
      rcases List.mem_append.1 member with early | last
      · exact head_of_mem_asking 4 le_rfl line early
      · obtain rfl := List.mem_singleton.1 last
        exact prefixed _ rest (by decide +kernel)
  | integrating asked compiled accepted failed =>
      rw [run_of_asks config asked]
      dsimp only
      have outcome := conclude_of_compiled config compiled accepted
      rw [failed] at outcome
      obtain ⟨ended, rest, lines⟩ := outcome
      refine ⟨ended, ?_⟩
      rw [Recorded.outputs_append, lines]
      intro line member
      rcases List.mem_append.1 member with early | late
      · exact head_of_mem_asking 4 le_rfl line early
      · rcases List.mem_append.1 late with notice | last
        · exact head_of_mem_noticeLines config line notice
        · obtain rfl := List.mem_singleton.1 last
          exact prefixed _ rest (by decide +kernel)

theorem run_of_yields {result : Result} (yields : Yields config answers result) :
    (run config answers).value = .ok .success ∧ ∃ before,
      outputs (run config answers).events = before ++ [result.summary] ∧
      (∀ line ∈ before, line.toList.head? ≠ some 'T') ∧
      (incrementNotice ∈ before ↔ result.partitionsUsed ≠ result.partitionsRequested) := by
  obtain ⟨asked, compiled, accepted, integrated⟩ := yields
  rename_i request
  rw [run_of_asks config asked]
  dsimp only
  have outcome := conclude_of_compiled config compiled accepted
  rw [integrated] at outcome
  obtain ⟨ended, lines⟩ := outcome
  refine ⟨ended, outputs (asking 4) ++ noticeLines config request, ?_, ?_, ?_⟩
  · rw [Recorded.outputs_append, lines, List.append_assoc]
  · intro line member
    rcases List.mem_append.1 member with early | notice
    · exact head_of_mem_asking 4 le_rfl line early
    · exact head_of_mem_noticeLines config line notice
  · obtain ⟨-, x, rfl⟩ := Pipeline.exists_area_of_run config request integrated
    rw [List.mem_append, incrementNotice_mem_noticeLines, or_iff_right incrementNotice_not_mem_asking]
    rfl

/-- A refused session asks the questions up to the one it stops at and writes no log, whatever the
expression is. -/
theorem events_of_refused {k : Nat} (refused : RefusedAt answers k) :
    (run config answers).events.count .question = k ∧ logs (run config answers).events = [] ∧
      ∀ expression,
        (run config (expression :: answers.tail)).events = (run config answers).events := by
  obtain ⟨line, -, same⟩ := run_of_refused config refused
  rw [same answers rfl]
  refine ⟨?_, ?_, ?_⟩
  · rw [List.count_append, count_question_asking k refused.le]
    rfl
  · rw [Recorded.logs_append, logs_asking k refused.le]
    rfl
  · intro expression
    rw [same (expression :: answers.tail) rfl]

theorem head_of_refused {k : Nat} (refused : RefusedAt answers k) :
    ∀ line ∈ outputs (run config answers).events, line.toList.head? ≠ some 'T' := by
  obtain ⟨last, first, same⟩ := run_of_refused config refused
  rw [same answers rfl, Recorded.outputs_append]
  intro line member
  rcases List.mem_append.1 member with early | late
  · exact head_of_mem_asking k refused.le line early
  · obtain rfl := List.mem_singleton.1 late
    rw [first]
    simp

section Code

variable {code : Code} (ended : (run config answers).value = .ok code)
include ended

/-- Each code belongs to one outcome. -/
theorem code_iff : (code.toNat = 2 ↔ ∃ k, RefusedAt answers k) ∧
    (code.toNat = 1 ↔ Fails config answers) ∧
    (code.toNat = 0 ↔ ∃ result, Yields config answers result) := by
  have refuse : (∃ k, RefusedAt answers k) → code.toNat = 2 := by
    rintro ⟨k, refused⟩
    obtain ⟨line, -, same⟩ := run_of_refused config refused
    rw [same answers rfl] at ended
    obtain rfl := Except.ok.inj ended
    rfl
  have fail : Fails config answers → code.toNat = 1 := by
    intro fails
    obtain rfl := Except.ok.inj ((run_of_fails config fails).1.symm.trans ended)
    rfl
  have find : (∃ result, Yields config answers result) → code.toNat = 0 := by
    rintro ⟨result, yields⟩
    obtain rfl := Except.ok.inj ((run_of_yields config yields).1.symm.trans ended)
    rfl
  refine ⟨⟨fun two => ?_, refuse⟩, ⟨fun one => ?_, fail⟩, ⟨fun zero => ?_, find⟩⟩
  · rcases outcome_cases config answers with refused | fails | found
    · exact refused
    · have := fail fails
      omega
    · have := find found
      omega
  · rcases outcome_cases config answers with refused | fails | found
    · have := refuse refused
      omega
    · exact fails
    · have := find found
      omega
  · rcases outcome_cases config answers with refused | fails | found
    · have := refuse refused
      omega
    · have := fail fails
      omega
    · exact found

/-- A summary is written exactly by a session that finds its integral. -/
theorem exists_summary_iff :
    (∃ r : Result, r.summary ∈ outputs (run config answers).events) ↔ code.toNat = 0 := by
  obtain ⟨-, -, success⟩ := code_iff config ended
  rw [success]
  constructor
  · rintro ⟨r, member⟩
    rcases outcome_cases config answers with ⟨k, refused⟩ | fails | found
    · exact absurd member (summary_not_mem (head_of_refused config refused) r)
    · exact absurd member (summary_not_mem (run_of_fails config fails).2 r)
    · exact found
  · rintro ⟨result, yields⟩
    obtain ⟨-, before, lines, -⟩ := run_of_yields config yields
    exact ⟨result, by rw [lines]; simp⟩

end Code

theorem notice_mem_iff {result : Result} (yields : Yields config answers result) :
    incrementNotice ∈ outputs (run config answers).events ↔
      result.partitionsUsed ≠ result.partitionsRequested := by
  obtain ⟨-, before, lines, -, notice⟩ := run_of_yields config yields
  have other : incrementNotice ≠ result.summary := by
    intro same
    have first := summary_head result
    rw [← same] at first
    exact absurd first (by decide +kernel)
  rw [lines, List.mem_append, List.mem_singleton, or_iff_left other, notice]

/-- What the code and the events of a session say about its answers. -/
structure Truthful (config : Config) (answers : List String) (code : Nat) (events : List Event) :
    Prop where
  usage_iff : code = 2 ↔ ∃ k, RefusedAt answers k
  failure_iff : code = 1 ↔ Fails config answers
  success_iff : code = 0 ↔ ∃ result, Yields config answers result
  /-- A refused session asks no later question and does not look at the expression. -/
  refused : ∀ k, RefusedAt answers k → events.count .question = k ∧ logs events = [] ∧
    ∀ expression, (run config (expression :: answers.tail)).events = events
  /-- The request for an expression that compiles is accepted. -/
  accepted : ∀ n b m f, Asks answers n b m →
    (Pipeline.compile config (expressionOf answers)).run.value = .ok f →
    ∃ request, Request.ofParts (expressionOf answers) (.int n) b m.name = .ok request
  summary_iff : (∃ result : Result, result.summary ∈ outputs events) ↔ code = 0
  /-- The summary is the last line and the only one of its kind. -/
  summary_last : ∀ result, Yields config answers result →
    ∃ before, outputs events = before ++ [result.summary] ∧ ∀ r : Result, r.summary ∉ before
  notice_iff : ∀ result, Yields config answers result →
    (incrementNotice ∈ outputs events ↔ result.partitionsUsed ≠ result.partitionsRequested)

/-- **A session always ends with a truthful code.** -/
theorem run_truthful (config : Config) (answers : List String) :
    ∃ code, (run config answers).value = .ok code ∧
      Truthful config answers code.toNat (run config answers).events := by
  obtain ⟨code, ended⟩ : ∃ code, (run config answers).value = .ok code := by
    rcases outcome_cases config answers with ⟨k, refused⟩ | fails | ⟨result, yields⟩
    · obtain ⟨line, -, same⟩ := run_of_refused config refused
      exact ⟨.usage, by rw [same answers rfl]⟩
    · exact ⟨.failure, (run_of_fails config fails).1⟩
    · exact ⟨.success, (run_of_yields config yields).1⟩
  obtain ⟨usage, failure, success⟩ := code_iff config ended
  refine ⟨code, ended, ?_⟩
  constructor
  case usage_iff => exact usage
  case failure_iff => exact failure
  case success_iff => exact success
  case refused =>
    intro k refused
    exact events_of_refused config refused
  case accepted =>
    intro n b m f asked compiled
    exact exists_request config asked compiled
  case summary_iff => exact exists_summary_iff config ended
  case summary_last =>
    intro result yields
    obtain ⟨-, before, lines, other, -⟩ := run_of_yields config yields
    exact ⟨before, lines, summary_not_mem other⟩
  case notice_iff =>
    intro result yields
    exact notice_mem_iff config yields

end Quadrature.Session
