/-
This file collects what the state machines of the development share: the run of
a step function over a list of inputs, the runs whose inputs all meet a guard at
the state they are given to, and the two rules that carry a fact along a run.

The second rule is the one an exact condition needs. When a step keeps an
invariant exactly if its input meets the guard, then the invariant holds at every
state of a run exactly if every input of the run meets the guard.
-/

import Mathlib.Data.List.Basic
import Mathlib.Data.List.Infix

namespace Machine

variable {State Input : Type*} (step : State → Input → State)

/-- The state a run of the machine ends in. -/
def run (start : State) (inputs : List Input) : State := inputs.foldl step start

@[simp] theorem run_nil (start : State) : run step start [] = start := rfl

@[simp] theorem run_cons (start : State) (input : Input) (rest : List Input) :
    run step start (input :: rest) = run step (step start input) rest := rfl

theorem run_append (start : State) (before after : List Input) :
    run step start (before ++ after) = run step (run step start before) after :=
  List.foldl_append

theorem run_concat (start : State) (before : List Input) (input : Input) :
    run step start (before ++ [input]) = step (run step start before) input := by
  rw [run_append, run_cons, run_nil]

/-- The state before the input at a position. -/
def stateAt (start : State) (inputs : List Input) (position : Nat) : State :=
  run step start (inputs.take position)

theorem stateAt_succ {start : State} {inputs : List Input} {position : Nat} {input : Input}
    (found : inputs[position]? = some input) :
    stateAt step start inputs (position + 1) =
      step (stateAt step start inputs position) input := by
  rw [stateAt, List.take_add_one, found, Option.toList_some, run_concat, stateAt]

/-- A later state of a run continues every earlier one. -/
theorem exists_run_stateAt (start : State) (inputs : List Input) {earlier later : Nat}
    (ordered : earlier ≤ later) :
    ∃ between, stateAt step start inputs later =
      run step (stateAt step start inputs earlier) between := by
  refine ⟨(inputs.take later).drop earlier, ?_⟩
  rw [stateAt, stateAt, ← run_append, ← Nat.min_eq_left ordered, ← List.take_take,
    Nat.min_eq_left ordered, List.take_append_drop]

/-- Every input of the run meets the guard at the state it is given to. -/
def Guarded (guard : State → Input → Prop) : State → List Input → Prop
  | _, [] => True
  | start, input :: rest => guard start input ∧ Guarded guard (step start input) rest

variable {step} {guard other : State → Input → Prop}

@[simp] theorem guarded_nil (start : State) : Guarded step guard start [] := trivial

@[simp] theorem guarded_cons (start : State) (input : Input) (rest : List Input) :
    Guarded step guard start (input :: rest) ↔
      guard start input ∧ Guarded step guard (step start input) rest := Iff.rfl

instance decidableGuarded [∀ state input, Decidable (guard state input)] :
    ∀ start inputs, Decidable (Guarded step guard start inputs)
  | _, [] => isTrue trivial
  | start, input :: rest =>
    @instDecidableAnd (guard start input) (Guarded step guard (step start input) rest) _
      (decidableGuarded _ rest)

theorem guarded_append (start : State) (before after : List Input) :
    Guarded step guard start (before ++ after) ↔
      Guarded step guard start before ∧ Guarded step guard (run step start before) after := by
  induction before generalizing start with
  | nil => simp
  | cons input rest inductionHypothesis =>
    rw [List.cons_append, guarded_cons, guarded_cons, inductionHypothesis, run_cons, and_assoc]

/-- A guarded run read position by position. -/
theorem guarded_iff_forall (start : State) (inputs : List Input) :
    Guarded step guard start inputs ↔
      ∀ before input after, inputs = before ++ input :: after →
        guard (run step start before) input := by
  induction inputs generalizing start with
  | nil =>
    refine ⟨fun _ before input after split => ?_, fun _ => trivial⟩
    exact absurd split (by simp)
  | cons head rest inductionHypothesis =>
    rw [guarded_cons, inductionHypothesis]
    constructor
    · rintro ⟨first, later⟩ before input after split
      cases before with
      | nil =>
        obtain ⟨rfl, rfl⟩ := List.cons.inj split
        exact first
      | cons first' before =>
        obtain ⟨rfl, tail⟩ := List.cons.inj split
        exact later before input after tail
    · intro all
      refine ⟨all [] head rest rfl, fun before input after split => ?_⟩
      exact all (head :: before) input after (by rw [split, List.cons_append])

/-! ### Carrying a fact along a run -/

/-- What every step keeps, every run keeps. -/
theorem run_invariant {invariant : State → Prop}
    (preserved : ∀ state input, invariant state → invariant (step state input))
    {start : State} (holds : invariant start) (inputs : List Input) :
    invariant (run step start inputs) := by
  induction inputs generalizing start with
  | nil => exact holds
  | cons input rest inductionHypothesis => exact inductionHypothesis (preserved _ _ holds)

/-- A fact about the inputs of one run may be used at each of its steps. -/
theorem run_invariant_of_mem {invariant : State → Prop} {inputs : List Input}
    (preserved : ∀ state, ∀ input ∈ inputs, invariant state → invariant (step state input))
    {start : State} (holds : invariant start) : invariant (run step start inputs) :=
  List.foldlRecOn inputs step holds fun state kept input member =>
    preserved state input member kept

/-- What every guarded step keeps, every guarded run keeps. -/
theorem guarded_invariant {invariant : State → Prop}
    (preserved : ∀ state input, invariant state → guard state input →
      invariant (step state input))
    {start : State} (holds : invariant start) {inputs : List Input}
    (guarded : Guarded step guard start inputs) : invariant (run step start inputs) := by
  induction inputs generalizing start with
  | nil => exact holds
  | cons input rest inductionHypothesis =>
    exact inductionHypothesis (preserved _ _ holds guarded.1) guarded.2

/-- A guard that keeps an invariant, and with it gives another guard at every step, gives that guard
for the whole run. -/
theorem guarded_imp {invariant : State → Prop}
    (kept : ∀ state input, invariant state → guard state input →
      invariant (step state input) ∧ other state input)
    {start : State} (holds : invariant start) {inputs : List Input}
    (guarded : Guarded step guard start inputs) : Guarded step other start inputs := by
  induction inputs generalizing start with
  | nil => exact trivial
  | cons input rest inductionHypothesis =>
    obtain ⟨next, now⟩ := kept start input holds guarded.1
    exact ⟨now, inductionHypothesis next guarded.2⟩

/-- The rule of the exact condition. `base` is kept by every step, `invariant` by exactly
the guarded ones; then `invariant` holds at every state the run passes through exactly if
the whole run is guarded. -/
theorem invariant_throughout_iff {base invariant : State → Prop}
    (basePreserved : ∀ state input, base state → base (step state input))
    (exact : ∀ state input, base state → invariant state →
      (invariant (step state input) ↔ guard state input))
    {start : State} (baseHolds : base start) (holds : invariant start) (inputs : List Input) :
    (∀ before, before <+: inputs → invariant (run step start before)) ↔
      Guarded step guard start inputs := by
  induction inputs generalizing start with
  | nil =>
    refine ⟨fun _ => trivial, fun _ before isPrefix => ?_⟩
    rw [List.prefix_nil.mp isPrefix]
    exact holds
  | cons input rest inductionHypothesis =>
    have next := @inductionHypothesis (step start input) (basePreserved _ _ baseHolds)
    rw [guarded_cons, ← exact start input baseHolds holds]
    constructor
    · intro throughout
      have kept : invariant (step start input) :=
        throughout [input] ⟨rest, rfl⟩
      refine ⟨kept, (next kept).mp fun before isPrefix => ?_⟩
      exact throughout (input :: before) (List.cons_prefix_cons.mpr ⟨rfl, isPrefix⟩)
    · rintro ⟨kept, guarded⟩ before isPrefix
      cases before with
      | nil => exact holds
      | cons head tail =>
        obtain ⟨rfl, tailPrefix⟩ := List.cons_prefix_cons.mp isPrefix
        exact (next kept).mpr guarded tail tailPrefix

/-- The rule of the exact condition at checkpoints. Within the domain of the run every step keeps
the invariant, except the checkpoints, which keep it exactly if they meet the guard; then the
invariant holds after every checkpoint exactly if every checkpoint meets the guard. -/
theorem checkpoints_iff {base invariant : State → Prop} {domain checkpoint : State → Input → Prop}
    (basePreserved : ∀ state input, base state → base (step state input))
    (kept : ∀ state input, base state → domain state input → invariant state →
      ¬checkpoint state input → invariant (step state input))
    (exact : ∀ state input, base state → invariant state → checkpoint state input →
      (invariant (step state input) ↔ guard state input))
    {start : State} (baseHolds : base start) (holds : invariant start) {inputs : List Input}
    (within : Guarded step domain start inputs) :
    (∀ before input after, inputs = before ++ input :: after →
      checkpoint (run step start before) input → invariant (run step start (before ++ [input]))) ↔
      Guarded step (fun state input => checkpoint state input → guard state input) start inputs := by
  induction inputs generalizing start with
  | nil =>
    refine ⟨fun _ => trivial, fun _ before input after split => ?_⟩
    exact absurd split (by simp)
  | cons head rest inductionHypothesis =>
    have next := fun kept => @inductionHypothesis (step start head) (basePreserved _ _ baseHolds)
      kept within.2
    rw [guarded_cons]
    constructor
    · intro throughout
      have first : checkpoint start head → invariant (step start head) :=
        throughout [] head rest rfl
      have keptHead : invariant (step start head) := by
        by_cases isCheckpoint : checkpoint start head
        · exact first isCheckpoint
        · exact kept _ _ baseHolds within.1 holds isCheckpoint
      refine ⟨fun isCheckpoint => (exact _ _ baseHolds holds isCheckpoint).mp keptHead,
        (next keptHead).mp fun before input after split => ?_⟩
      exact throughout (head :: before) input after (by rw [split, List.cons_append])
    · rintro ⟨meets, guarded⟩ before input after split
      have keptHead : invariant (step start head) := by
        by_cases isCheckpoint : checkpoint start head
        · exact (exact _ _ baseHolds holds isCheckpoint).mpr (meets isCheckpoint)
        · exact kept _ _ baseHolds within.1 holds isCheckpoint
      cases before with
      | nil =>
        obtain ⟨rfl, rfl⟩ := List.cons.inj split
        exact fun _ => keptHead
      | cons first before =>
        obtain ⟨rfl, tail⟩ := List.cons.inj split
        exact (next keptHead).mpr guarded before input after tail

end Machine
