/-
This file is about tickets that are issued, used while they are live, and end: a ticket ends
when it is spent, which can be done once, or when it is revoked, which can be done at any time
after it was issued. What has ended stays so.
-/

import Mathlib.Logic.Function.Basic
import Ledgerly.Library.Run

namespace Lifecycle

open Machine

/-- A ticket is not issued yet, may be used, or is used up. -/
inductive Stage where
  | unborn
  | live
  | dead
  deriving DecidableEq

/-- What happens to a ticket. -/
inductive Event (Ticket : Type*) where
  | issue (ticket : Ticket)
  | use (ticket : Ticket)
  | spend (ticket : Ticket)
  | revoke (ticket : Ticket)

variable {Ticket : Type*}

/-- When an event may happen. -/
def Allowed (stages : Ticket → Stage) : Event Ticket → Prop
  | .issue ticket => stages ticket = .unborn
  | .use ticket => stages ticket = .live
  | .spend ticket => stages ticket = .live
  | .revoke ticket => stages ticket ≠ .unborn

/-- The events that ask for a live ticket. -/
inductive Event.Asks (ticket : Ticket) : Event Ticket → Prop where
  | use : Event.Asks ticket (.use ticket)
  | spend : Event.Asks ticket (.spend ticket)

/-- The events that end a ticket. -/
inductive Event.Ends (ticket : Ticket) : Event Ticket → Prop where
  | spend : Event.Ends ticket (.spend ticket)
  | revoke : Event.Ends ticket (.revoke ticket)

theorem Event.Asks.live {stages : Ticket → Stage} {ticket : Ticket} {event : Event Ticket}
    (asks : event.Asks ticket) (allowed : Allowed stages event) : stages ticket = .live := by
  cases asks with
  | use => exact allowed
  | spend => exact allowed

variable [DecidableEq Ticket]

/-- What an event does to the stages. -/
def advance (stages : Ticket → Stage) : Event Ticket → Ticket → Stage
  | .issue ticket => Function.update stages ticket .live
  | .use _ => stages
  | .spend ticket => Function.update stages ticket .dead
  | .revoke ticket => Function.update stages ticket .dead

theorem Event.Ends.dead {ticket : Ticket} {event : Event Ticket} (ends : event.Ends ticket)
    (stages : Ticket → Stage) : advance stages event ticket = .dead := by
  cases ends with
  | spend => exact Function.update_self _ _ _
  | revoke => exact Function.update_self _ _ _

/-- No event that is allowed brings a ticket back. -/
theorem advance_dead {stages : Ticket → Stage} {event : Event Ticket} {ticket : Ticket}
    (dead : stages ticket = .dead) (allowed : Allowed stages event) :
    advance stages event ticket = .dead := by
  cases event with
  | issue other =>
    have different : ticket ≠ other := by
      rintro rfl
      exact absurd (dead.symm.trans allowed) (by decide)
    exact (Function.update_of_ne different _ _).trans dead
  | use _ => exact dead
  | spend other =>
    by_cases same : ticket = other
    · rw [same]; exact Function.update_self _ _ _
    · exact (Function.update_of_ne same _ _).trans dead
  | revoke other =>
    by_cases same : ticket = other
    · rw [same]; exact Function.update_self _ _ _
    · exact (Function.update_of_ne same _ _).trans dead

/-- Nothing that asks for a live ticket happens once it is dead. -/
theorem not_asks_of_dead {stages : Ticket → Stage} {ticket : Ticket} {events : List (Event Ticket)}
    (dead : stages ticket = .dead) (guarded : Guarded advance Allowed stages events) :
    ∀ event ∈ events, ¬event.Asks ticket := by
  induction events generalizing stages with
  | nil => exact fun event member => absurd member List.not_mem_nil
  | cons head rest inductionHypothesis =>
    obtain ⟨allowed, later⟩ := guarded
    intro event member asks
    rcases List.mem_cons.mp member with rfl | inRest
    · exact absurd (dead.symm.trans (asks.live allowed)) (by decide)
    · exact inductionHypothesis (advance_dead dead allowed) later event inRest asks

/-- After the end of a ticket it is neither used nor spent. -/
theorem not_asks_after {stages : Ticket → Stage} {ticket : Ticket}
    {before after : List (Event Ticket)} {last : Event Ticket}
    (guarded : Guarded advance Allowed stages (before ++ last :: after))
    (ends : last.Ends ticket) : ∀ event ∈ after, ¬event.Asks ticket := by
  rw [guarded_append, guarded_cons] at guarded
  exact not_asks_of_dead (ends.dead _) guarded.2.2

end Lifecycle
