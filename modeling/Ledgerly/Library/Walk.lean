/-
This file is about walks: from one state to another along a list of labels, each of which
allows some steps from a state.

Unlike the run of a function a walk may be stuck. It can be cut and put together at any label,
every step of it may be replaced by one of a larger relation, and what each step keeps holds at
its end.
-/

import Mathlib.Data.List.Basic

namespace Walk

variable {State Label : Type*} {step other : State → Label → State → Prop}

/-- The labels lead from one state to another. -/
def Leads (step : State → Label → State → Prop) : State → List Label → State → Prop
  | start, [], final => final = start
  | start, label :: rest, final => ∃ next, step start label next ∧ Leads step next rest final

@[simp] theorem leads_nil {start final : State} : Leads step start [] final ↔ final = start :=
  Iff.rfl

@[simp] theorem leads_cons {start final : State} {label : Label} {rest : List Label} :
    Leads step start (label :: rest) final ↔
      ∃ next, step start label next ∧ Leads step next rest final := Iff.rfl

theorem leads_append {start final : State} {before after : List Label} :
    Leads step start (before ++ after) final ↔
      ∃ between, Leads step start before between ∧ Leads step between after final := by
  induction before generalizing start with
  | nil => simp
  | cons label rest inductionHypothesis =>
    rw [List.cons_append, leads_cons]
    constructor
    · rintro ⟨next, first, later⟩
      obtain ⟨between, toBetween, toFinal⟩ := inductionHypothesis.mp later
      exact ⟨between, ⟨next, first, toBetween⟩, toFinal⟩
    · rintro ⟨between, ⟨next, first, toBetween⟩, toFinal⟩
      exact ⟨next, first, inductionHypothesis.mpr ⟨between, toBetween, toFinal⟩⟩

/-- One more label. -/
theorem Leads.concat {start between final : State} {labels : List Label} {label : Label}
    (leads : Leads step start labels between) (last : step between label final) :
    Leads step start (labels ++ [label]) final :=
  leads_append.mpr ⟨between, leads, final, last, rfl⟩

/-- A walk of one relation is one of any larger relation. -/
theorem Leads.mono {start final : State} {labels : List Label}
    (leads : Leads step start labels final)
    (larger : ∀ state label next, step state label next → other state label next) :
    Leads other start labels final := by
  induction labels generalizing start with
  | nil => exact leads
  | cons label rest inductionHypothesis =>
    obtain ⟨next, first, later⟩ := leads
    exact ⟨next, larger _ _ _ first, inductionHypothesis later⟩

/-- Every label of a walk is one of its steps. -/
theorem Leads.exists_step {start final : State} {labels : List Label}
    (leads : Leads step start labels final) {label : Label} (member : label ∈ labels) :
    ∃ before after, step before label after := by
  induction labels generalizing start with
  | nil => exact absurd member List.not_mem_nil
  | cons first rest inductionHypothesis =>
    obtain ⟨next, taken, later⟩ := leads
    rcases List.mem_cons.mp member with rfl | further
    · exact ⟨start, next, taken⟩
    · exact inductionHypothesis later further

end Walk
