/-
This file is about machines that tell what they do. A step emits a list of events, and the
trace of a run is all that its steps emit, in order.

The rule at the end reads the events of one machine as the inputs of another one, the
specification. If every step of the first takes the specification along, through inputs it
allows, then the specification allows the whole trace.
-/

import Ledgerly.Library.Run

namespace Machine

variable {State Input Event : Type*} (step : State → Input → State)
  (emits : State → Input → List Event)

/-- All that a run emits. -/
def trace : State → List Input → List Event
  | _, [] => []
  | start, input :: rest => emits start input ++ trace (step start input) rest

@[simp] theorem trace_nil (start : State) : trace step emits start [] = [] := rfl

@[simp] theorem trace_cons (start : State) (input : Input) (rest : List Input) :
    trace step emits start (input :: rest) =
      emits start input ++ trace step emits (step start input) rest := rfl

variable {step emits}

/-- What is true of every event that a step can emit is true of every event of a trace. -/
theorem forall_mem_trace {invariant : State → Prop} {holds : Event → Prop}
    (preserved : ∀ state input, invariant state → invariant (step state input))
    (emitted : ∀ state input, invariant state → ∀ event ∈ emits state input, holds event)
    {start : State} (begins : invariant start) (inputs : List Input) :
    ∀ event ∈ trace step emits start inputs, holds event := by
  induction inputs generalizing start with
  | nil => exact fun event member => absurd member List.not_mem_nil
  | cons input rest inductionHypothesis =>
    intro event member
    rcases List.mem_append.mp member with now | later
    · exact emitted start input begins event now
    · exact inductionHypothesis (preserved start input begins) event later

/-- A machine that reads its inputs through a translation runs as the machine of the translated
inputs. -/
theorem guarded_map {Spec Letter : Type*} {specStep : Spec → Letter → Spec}
    {allowed : Spec → Letter → Prop} (letter : Event → Letter) (start : Spec)
    (events : List Event) :
    Guarded specStep allowed start (events.map letter) ↔
      Guarded (fun state event => specStep state (letter event))
        (fun state event => allowed state (letter event)) start events := by
  induction events generalizing start with
  | nil => exact Iff.rfl
  | cons event rest inductionHypothesis =>
    rw [List.map_cons, guarded_cons, guarded_cons, inductionHypothesis]

/-- A specification that every step takes along allows the trace. -/
theorem guarded_trace {Spec : Type*} {specStep : Spec → Event → Spec}
    {allowed : Spec → Event → Prop} (view : State → Spec) {invariant : State → Prop}
    (preserved : ∀ state input, invariant state → invariant (step state input))
    (follows : ∀ state input, invariant state →
      Guarded specStep allowed (view state) (emits state input) ∧
        run specStep (view state) (emits state input) = view (step state input))
    {start : State} (begins : invariant start) (inputs : List Input) :
    Guarded specStep allowed (view start) (trace step emits start inputs) := by
  induction inputs generalizing start with
  | nil => exact guarded_nil _
  | cons input rest inductionHypothesis =>
    obtain ⟨now, reached⟩ := follows start input begins
    rw [trace_cons, guarded_append, reached]
    exact ⟨now, inductionHypothesis (preserved start input begins)⟩

end Machine
