/-
# Quadrature.Proofs.Recorded -- what a sequence of computations says

Events are only ever added: what a bind says is what its first part says and then what the rest says,
and a failure cuts the rest off. Most parts of a run are `Quiet`: they leave log records behind and
nothing else. Quiet parts can be left out of the lines for the reader.
-/
import Quadrature.Recorded

namespace Quadrature

set_option autoImplicit false

variable {α β ε ε' : Type}

namespace Recorded

@[simp] theorem events_pure (a : α) : (pure a : Recorded α).events = [] := rfl

@[simp] theorem value_pure (a : α) : (pure a : Recorded α).value = a := rfl

@[simp] theorem events_bind (r : Recorded α) (f : α → Recorded β) :
    (r >>= f).events = r.events ++ (f r.value).events := rfl

@[simp] theorem value_bind (r : Recorded α) (f : α → Recorded β) :
    (r >>= f).value = (f r.value).value := rfl

@[simp] theorem events_output (line : String) : (output line).events = [.output line] := rfl

@[simp] theorem events_notice (line : String) : (notice line).events = [.notice line] := rfl

@[simp] theorem events_log (level : Level) (source text : String) :
    (log level source text).events = [.log ⟨level, source, text⟩] := rfl

@[simp] theorem outputs_nil : outputs [] = [] := rfl

@[simp] theorem outputs_append (xs ys : List Event) :
    outputs (xs ++ ys) = outputs xs ++ outputs ys := List.filterMap_append

@[simp] theorem outputs_output (line : String) (xs : List Event) :
    outputs (.output line :: xs) = line :: outputs xs := rfl

@[simp] theorem outputs_notice (line : String) (xs : List Event) :
    outputs (.notice line :: xs) = outputs xs := rfl

@[simp] theorem outputs_log (record : LogRecord) (xs : List Event) :
    outputs (.log record :: xs) = outputs xs := rfl

@[simp] theorem outputs_question (xs : List Event) :
    outputs (.question :: xs) = outputs xs := rfl

@[simp] theorem logs_append (xs ys : List Event) : logs (xs ++ ys) = logs xs ++ logs ys :=
  List.filterMap_append

/-- The events are log records only. -/
def Quiet (events : List Event) : Prop := ∀ e ∈ events, ∃ record, e = .log record

theorem Quiet.nil : Quiet [] := by simp [Quiet]

theorem Quiet.append {xs ys : List Event} (first : Quiet xs) (second : Quiet ys) :
    Quiet (xs ++ ys) := by
  intro e member
  rcases List.mem_append.1 member with h | h
  · exact first e h
  · exact second e h

theorem Quiet.outputs_eq_nil {events : List Event} (quiet : Quiet events) :
    outputs events = [] := by
  apply List.filterMap_eq_nil_iff.2
  intro e member
  obtain ⟨record, rfl⟩ := quiet e member
  rfl

theorem Quiet.notice_not_mem {events : List Event} (quiet : Quiet events) (text : String) :
    .notice text ∉ events := by
  intro member
  obtain ⟨record, same⟩ := quiet _ member
  cases same

end Recorded

namespace Attempt

open Recorded (Quiet)

@[simp] theorem value_pure (a : α) : (pure a : Attempt ε α).run.value = .ok a := rfl

@[simp] theorem events_pure (a : α) : (pure a : Attempt ε α).run.events = [] := rfl

@[simp] theorem value_throw (e : ε) : (throw e : Attempt ε α).run.value = .error e := rfl

@[simp] theorem value_ofExcept (f : ε → ε') (r : Except ε α) :
    (ofExcept f r).run.value = r.mapError f := rfl

theorem value_bind (a : Attempt ε α) (f : α → Attempt ε β) :
    (a >>= f).run.value = a.run.value >>= fun x => (f x).run.value := by
  show (ExceptT.bind a f).run.value = _
  unfold ExceptT.bind ExceptT.bindCont
  simp only [ExceptT.run_mk, Recorded.value_bind]
  cases h : Recorded.value a with
  | ok x => exact (congrArg (fun v => v >>= fun x => (f x).run.value) h).symm
  | error e => exact (congrArg (fun v => v >>= fun x => (f x).run.value) h).symm

/-- A quiet computation followed by quiet ones is quiet, whether or not it fails. -/
theorem quiet_bind {a : Attempt ε α} {f : α → Attempt ε β} (first : Quiet a.run.events)
    (rest : ∀ x, Quiet (f x).run.events) : Quiet (a >>= f).run.events := by
  show Quiet (ExceptT.bind a f).run.events
  unfold ExceptT.bind ExceptT.bindCont
  simp only [ExceptT.run_mk, Recorded.events_bind]
  apply Quiet.append
  · exact first
  · cases Recorded.value a with
    | ok x => exact rest x
    | error e => exact .nil

theorem quiet_pure (a : α) : Quiet (pure a : Attempt ε α).run.events := .nil

theorem quiet_throw (e : ε) : Quiet (throw e : Attempt ε α).run.events := .nil

theorem quiet_ofExcept (f : ε → ε') (r : Except ε α) : Quiet (ofExcept f r).run.events := .nil

end Attempt

end Quadrature
