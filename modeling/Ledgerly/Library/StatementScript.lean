/-
This file is about database transactions that are run a statement at a time.

A script is a tree of statements that ends with a commit on every branch. Any statement can
fail, by what it does to the store or by a fault around it, and other transactions commit
between the statements. A script that fails is rolled back: what it wrote is gone and what
the others committed stays, whatever the script and wherever it fails.
-/

import Mathlib.Logic.Basic

variable {Store Failure Answer : Type}

/-- A transaction: statements that read and write the store, one after the other, and a commit
with an answer at the end. -/
inductive Script (Store Failure Answer : Type) : Type 1
  | commit (answer : Answer)
  | statement {Result : Type} (action : Store → Except Failure (Result × Store))
      (next : Result → Script Store Failure Answer)

/-- What happens around the statements of a transaction: the fault that a statement meets and
what others commit before it. -/
structure Surroundings (Store Failure : Type) where
  fault : Nat → Option Failure
  others : Nat → Store → Store

/-- How a transaction ends. A failure comes with the store that the statement saw, and with the
store the rollback leaves. -/
inductive Ending (Store Failure Answer : Type)
  | committed (answer : Answer) (store : Store)
  | rolledBack (failure : Failure) (seen left : Store)

namespace Surroundings

/-- Nothing happens. -/
def quiet : Surroundings Store Failure := ⟨fun _ => none, fun _ store => store⟩

/-- The store after what others commit before so many statements, from a given one on. -/
def changed (around : Surroundings Store Failure) (first : Nat) : Nat → Store → Store
  | 0, store => store
  | count + 1, store => around.changed (first + 1) count (around.others first store)

end Surroundings

namespace Script

/-- A statement that only reads. -/
def select {Result : Type} (read : Store → Result)
    (next : Result → Script Store Failure Answer) : Script Store Failure Answer :=
  .statement (fun store => .ok (read store, store)) next

/-- A statement that writes and always can. -/
def write (change : Store → Store) (next : Script Store Failure Answer) :
    Script Store Failure Answer :=
  .statement (fun store => .ok ((), change store)) fun _ => next

/-- A statement that writes unless the store refuses. -/
def tryWrite (change : Store → Except Failure Store) (next : Script Store Failure Answer) :
    Script Store Failure Answer :=
  .statement (fun store => (change store).map fun written => ((), written)) fun _ => next

/-- The rest of a script from a statement on, given the store as others have left it and the
store with what the script wrote. -/
def runFrom (around : Surroundings Store Failure) :
    Script Store Failure Answer → Nat → Store → Store → Ending Store Failure Answer
  | .commit answer, index, left, seen =>
    match around.fault index with
    | some failure => .rolledBack failure (around.others index seen) (around.others index left)
    | none => .committed answer (around.others index seen)
  | .statement action next, index, left, seen =>
    match around.fault index with
    | some failure => .rolledBack failure (around.others index seen) (around.others index left)
    | none =>
      match action (around.others index seen) with
      | .error failure => .rolledBack failure (around.others index seen) (around.others index left)
      | .ok (result, written) =>
        (next result).runFrom around (index + 1) (around.others index left) written

/-- A script is run on a store. -/
def run (around : Surroundings Store Failure) (script : Script Store Failure Answer)
    (store : Store) : Ending Store Failure Answer :=
  script.runFrom around 0 store store

/-! ### Rollback -/

theorem runFrom_rolledBack {around : Surroundings Store Failure}
    {script : Script Store Failure Answer} {index : Nat} {left seen : Store} {failure : Failure}
    {seenThen leftThen : Store}
    (failed : script.runFrom around index left seen = .rolledBack failure seenThen leftThen) :
    ∃ count, leftThen = around.changed index count left := by
  induction script generalizing index left seen with
  | commit answer =>
    rw [runFrom] at failed
    split at failed
    · cases failed
      exact ⟨1, rfl⟩
    · cases failed
  | statement action next inductionHypothesis =>
    rw [runFrom] at failed
    split at failed
    · cases failed
      exact ⟨1, rfl⟩
    · split at failed
      · cases failed
        exact ⟨1, rfl⟩
      · obtain ⟨count, same⟩ := inductionHypothesis _ failed
        exact ⟨count + 1, same⟩

/-- A transaction that fails leaves what the others committed meanwhile, and nothing of its
own. -/
theorem run_rolledBack {around : Surroundings Store Failure}
    {script : Script Store Failure Answer} {store : Store} {failure : Failure}
    {seen left : Store} (failed : script.run around store = .rolledBack failure seen left) :
    ∃ count, left = around.changed 0 count store :=
  runFrom_rolledBack failed

/-! ### A script that runs alone -/

/-- A script with nobody around: its answer and the store, or what it failed with on which
store. -/
def alone : Script Store Failure Answer → Store → Except (Failure × Store) (Answer × Store)
  | .commit answer, store => .ok (answer, store)
  | .statement action next, store =>
    match action store with
    | .error failure => .error (failure, store)
    | .ok (result, written) => (next result).alone written

/-- The end of a script that runs alone on a store it is rolled back to. -/
def endingOf (left : Store) : Except (Failure × Store) (Answer × Store) →
    Ending Store Failure Answer
  | .ok (answer, store) => .committed answer store
  | .error (failure, seen) => .rolledBack failure seen left

theorem runFrom_quiet (script : Script Store Failure Answer) (index : Nat) (left seen : Store) :
    script.runFrom .quiet index left seen = endingOf left (script.alone seen) := by
  induction script generalizing index seen with
  | commit answer => rfl
  | statement action next inductionHypothesis =>
    rw [runFrom, alone]
    simp only [Surroundings.quiet]
    cases action seen with
    | error failure => rfl
    | ok pair => exact inductionHypothesis pair.1 (index + 1) pair.2

theorem run_quiet (script : Script Store Failure Answer) (store : Store) :
    script.run .quiet store = endingOf store (script.alone store) :=
  runFrom_quiet script 0 store store

/-- Every answer the script can give has a property. -/
def Answers (holds : Answer → Prop) : Script Store Failure Answer → Prop
  | .commit answer => holds answer
  | .statement _ next => ∀ result, (next result).Answers holds

theorem Answers.alone {holds : Answer → Prop} {script : Script Store Failure Answer}
    (answers : script.Answers holds) {store written : Store} {answer : Answer}
    (ended : script.alone store = .ok (answer, written)) : holds answer := by
  induction script generalizing store with
  | commit given =>
    cases ended
    exact answers
  | statement action next inductionHypothesis =>
    rw [Script.alone] at ended
    split at ended
    · cases ended
    · exact inductionHypothesis _ (answers _) ended

section Alone

variable (store : Store)

@[simp] theorem alone_commit (answer : Answer) :
    (Script.commit answer : Script Store Failure Answer).alone store = .ok (answer, store) := rfl

@[simp] theorem alone_select {Result : Type} (read : Store → Result)
    (next : Result → Script Store Failure Answer) :
    (select read next).alone store = (next (read store)).alone store := rfl

@[simp] theorem alone_write (change : Store → Store) (next : Script Store Failure Answer) :
    (write change next).alone store = next.alone (change store) := rfl

theorem alone_tryWrite_ok {change : Store → Except Failure Store} {written : Store}
    (writes : change store = .ok written) (next : Script Store Failure Answer) :
    (tryWrite change next).alone store = next.alone written := by
  rw [tryWrite, alone, writes]
  rfl

theorem alone_tryWrite_error {change : Store → Except Failure Store} {failure : Failure}
    (fails : change store = .error failure) (next : Script Store Failure Answer) :
    (tryWrite change next).alone store = .error (failure, store) := by
  rw [tryWrite, alone, fails]
  rfl

end Alone

end Script
