/-
This file compares two machines that answer one list of inputs.

They run in lockstep if every input gets the same answer from both and leaves them in
states of which a given relation holds. The rule at the end is the exact form of a
simulation: where a relation between the states decides, input by input, whether the
machines stay together, they run in lockstep exactly on the guarded runs.
-/

import Ledgerly.Library.Run

namespace Machine

variable {Left Right Input Answer : Type*} (stepLeft : Left → Input → Left)
  (answerLeft : Left → Input → Answer) (stepRight : Right → Input → Right)
  (answerRight : Right → Input → Answer) (same : Left → Right → Prop)

/-- Both machines give one answer to an input and are then in the same state, as far as
`same` can tell. -/
def Together (left : Left) (right : Right) (input : Input) : Prop :=
  answerLeft left input = answerRight right input ∧
    same (stepLeft left input) (stepRight right input)

/-- The machines stay together over a list of inputs. -/
def Lockstep : Left → Right → List Input → Prop
  | _, _, [] => True
  | left, right, input :: rest =>
    Together stepLeft answerLeft stepRight answerRight same left right input ∧
      Lockstep (stepLeft left input) (stepRight right input) rest

variable {stepLeft answerLeft stepRight answerRight same}

/-- In a lockstep run the final states are the same, whatever the length of the run. -/
theorem Lockstep.final {inputs : List Input} {left : Left} {right : Right}
    (start : same left right)
    (lockstep : Lockstep stepLeft answerLeft stepRight answerRight same left right inputs) :
    same (run stepLeft left inputs) (run stepRight right inputs) := by
  induction inputs generalizing left right with
  | nil => exact start
  | cons input rest inductionHypothesis =>
    exact inductionHypothesis lockstep.1.2 lockstep.2

/-- If a relation decides at each input whether the machines stay together, and holds on
where they do, the lockstep runs are the guarded ones. -/
theorem lockstep_iff_guarded {related : Left → Right → Prop} {guard : Left → Input → Prop}
    (decides : ∀ left right input, related left right →
      (Together stepLeft answerLeft stepRight answerRight same left right input ↔
        guard left input))
    (kept : ∀ left right input, related left right →
      Together stepLeft answerLeft stepRight answerRight same left right input →
        related (stepLeft left input) (stepRight right input))
    {left : Left} {right : Right} (start : related left right) (inputs : List Input) :
    Lockstep stepLeft answerLeft stepRight answerRight same left right inputs ↔
      Guarded stepLeft guard left inputs := by
  induction inputs generalizing left right with
  | nil => exact Iff.rfl
  | cons input rest inductionHypothesis =>
    rw [guarded_cons, ← decides left right input start]
    constructor
    · rintro ⟨together, later⟩
      exact ⟨together, (inductionHypothesis (kept left right input start together)).mp later⟩
    · rintro ⟨together, later⟩
      exact ⟨together, (inductionHypothesis (kept left right input start together)).mpr later⟩

end Machine
