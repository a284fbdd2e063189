/-
This file is about sessions that take locks and keep them until they end, and about an order of
the requests under which none of them ever wait in a circle.

A session runs a program: a tree of requests and reads, where the answer of a read decides how
it goes on. The answers are left open, so that what is proved holds whatever the sessions read.
Every request has a rank, and every lock that is held a bound on the ranks of the requests that
it makes wait. If a program asks only for what ranks above the bounds of all it holds, then
whoever waits has a request of a smaller rank than the one it waits for.
-/

import Mathlib.Logic.Function.Basic
import Mathlib.Logic.Relation
import Mathlib.Order.MinMax

namespace Locking

/-- A request for a lock in a mode. -/
structure Request (Lock Mode : Type) where
  lock : Lock
  mode : Mode

/-- What a session does between its begin and its end. -/
inductive Program (Lock Mode : Type) : Type 1 where
  | done
  | ask (request : Request Lock Mode) (next : Program Lock Mode)
  | read {Answer : Type} (next : Answer → Program Lock Mode)

/-- A session in the middle of a program. -/
structure State (Lock Mode : Type) : Type 1 where
  held : List (Request Lock Mode)
  program : Program Lock Mode

variable {Lock Mode Session : Type}

/-- A session that runs nothing. -/
def State.idle : State Lock Mode := ⟨[], .done⟩

section Waiting

variable (conflict : Mode → Mode → Prop)

/-- A request has to wait for a lock that is held. -/
def Clash (request held : Request Lock Mode) : Prop :=
  request.lock = held.lock ∧ conflict request.mode held.mode

/-- A session waits for a lock that another one holds. -/
def WaitsFor (table : Session → State Lock Mode) (first second : Session) : Prop :=
  first ≠ second ∧ ∃ request next, (table first).program = .ask request next ∧
    ∃ held ∈ (table second).held, Clash conflict request held

variable [DecidableEq Session] (starts : Program Lock Mode → Prop)

/-- One step of one session. It may end at any point, and then lets go of all its locks. -/
inductive Step (table : Session → State Lock Mode) : (Session → State Lock Mode) → Prop where
  | start (session : Session) {program : Program Lock Mode} (allowed : starts program)
      (idle : table session = .idle) :
      Step table (Function.update table session ⟨[], program⟩)
  | read (session : Session) {Answer : Type} {next : Answer → Program Lock Mode}
      (asks : (table session).program = .read next) (answer : Answer) :
      Step table (Function.update table session ⟨(table session).held, next answer⟩)
  | take (session : Session) {request : Request Lock Mode} {next : Program Lock Mode}
      (asks : (table session).program = .ask request next)
      (free : ∀ other, other ≠ session → ∀ held ∈ (table other).held,
        ¬Clash conflict request held) :
      Step table (Function.update table session ⟨request :: (table session).held, next⟩)
  | finish (session : Session) : Step table (Function.update table session .idle)

/-- What the sessions can come to from the start. -/
def Reachable (table : Session → State Lock Mode) : Prop :=
  Relation.ReflTransGen (Step conflict starts) (fun _ => .idle) table

end Waiting

/-! ### Rising programs -/

section Order

variable {Rank : Type*} [LinearOrder Rank] (rank bound : Request Lock Mode → Rank)

/-- Every request of the program ranks above the level, which the locks it has taken raise. -/
def Rises : Rank → Program Lock Mode → Prop
  | _, .done => True
  | level, .ask request next => level < rank request ∧ Rises (max level (bound request)) next
  | level, .read next => ∀ answer, Rises level (next answer)

/-- The locks that are held are below a level above which the program rises. -/
def Rising (state : State Lock Mode) : Prop :=
  state.held = [] ∧ state.program = .done ∨
    ∃ level, (∀ held ∈ state.held, bound held ≤ level) ∧ Rises rank bound level state.program

variable {rank bound} {conflict : Mode → Mode → Prop} {starts : Program Lock Mode → Prop}

/-- A program that rises above a level rises above every lower one. -/
theorem Rises.mono {low high : Rank} {program : Program Lock Mode}
    (rises : Rises rank bound high program) (lower : low ≤ high) :
    Rises rank bound low program := by
  induction program generalizing low high with
  | done => trivial
  | ask request next inductionHypothesis =>
    exact ⟨lt_of_le_of_lt lower rises.1,
      inductionHypothesis rises.2 (max_le_max lower le_rfl)⟩
  | read next inductionHypothesis =>
    exact fun answer => inductionHypothesis answer (rises answer) lower

/-- Whoever waits has a request of a smaller rank than the one it waits for. -/
theorem rank_lt_of_waits {table : Session → State Lock Mode}
    (bounded : ∀ request held : Request Lock Mode, Clash conflict request held →
      rank request ≤ bound held)
    (rising : ∀ session, Rising rank bound (table session)) {first second : Session}
    (waits : Relation.TransGen (WaitsFor conflict table) first second)
    {low high : Request Lock Mode} {lowNext highNext : Program Lock Mode}
    (asksLow : (table first).program = .ask low lowNext)
    (asksHigh : (table second).program = .ask high highNext) : rank low < rank high := by
  have edge : ∀ {one two : Session} {low high : Request Lock Mode} {lowNext highNext},
      WaitsFor conflict table one two → (table one).program = .ask low lowNext →
      (table two).program = .ask high highNext → rank low < rank high := by
    rintro one two low high lowNext highNext ⟨-, request, next, asks, held, member, clash⟩ isLow
      isHigh
    rw [isLow] at asks
    cases asks
    rcases rising two with ⟨-, isDone⟩ | ⟨level, below, rises⟩
    · rw [isHigh] at isDone
      cases isDone
    · rw [isHigh] at rises
      exact lt_of_le_of_lt ((bounded _ _ clash).trans (below held member)) rises.1
  induction waits generalizing high highNext with
  | single waits => exact edge waits asksLow asksHigh
  | tail before last inductionHypothesis =>
    obtain ⟨-, request, next, asks, -⟩ := id last
    exact (inductionHypothesis asks).trans (edge last asks asksHigh)

variable [DecidableEq Session]

/-- Every step keeps every session rising. -/
theorem Step.rising {bottom : Rank} (allowed : ∀ program, starts program →
      Rises rank bound bottom program)
    {before after : Session → State Lock Mode} (step : Step conflict starts before after)
    (rising : ∀ session, Rising rank bound (before session)) (session : Session) :
    Rising rank bound (after session) := by
  have onlyOne : ∀ {moved : Session} {state : State Lock Mode}, Rising rank bound state →
      Rising rank bound (Function.update before moved state session) := by
    intro moved state here
    by_cases same : session = moved
    · subst same
      rwa [Function.update_self]
    · rw [Function.update_of_ne same]
      exact rising session
  cases step with
  | start moved isAllowed idle =>
    exact onlyOne (Or.inr ⟨bottom, fun _ none => absurd none List.not_mem_nil,
      allowed _ isAllowed⟩)
  | read moved asks answer =>
    refine onlyOne ?_
    rcases rising moved with ⟨-, isDone⟩ | ⟨level, below, rises⟩
    · rw [asks] at isDone
      cases isDone
    · rw [asks] at rises
      exact Or.inr ⟨level, below, rises answer⟩
  | @take moved request next asks free =>
    refine onlyOne ?_
    rcases rising moved with ⟨-, isDone⟩ | ⟨level, below, rises⟩
    · rw [asks] at isDone
      cases isDone
    · rw [asks] at rises
      refine Or.inr ⟨max level (bound request), fun held member => ?_, rises.2⟩
      rcases List.mem_cons.mp member with rfl | old
      · exact le_max_right _ _
      · exact (below held old).trans (le_max_left _ _)
  | finish moved => exact onlyOne (Or.inl ⟨rfl, rfl⟩)

/-- If all programs rise, no session is ever part of a circle of sessions that wait for each
other. -/
theorem no_circle {bottom : Rank} (bounded : ∀ request held : Request Lock Mode,
      Clash conflict request held → rank request ≤ bound held)
    (allowed : ∀ program, starts program → Rises rank bound bottom program)
    {table : Session → State Lock Mode} (reachable : Reachable conflict starts table)
    (session : Session) : ¬Relation.TransGen (WaitsFor conflict table) session session := by
  have rising : ∀ session, Rising rank bound (table session) := by
    induction reachable with
    | refl => exact fun _ => Or.inl ⟨rfl, rfl⟩
    | tail _ step inductionHypothesis => exact step.rising allowed inductionHypothesis
  intro circle
  obtain ⟨other, ⟨-, request, next, asks, -⟩, -⟩ := Relation.TransGen.head'_iff.mp circle
  exact lt_irrefl _ (rank_lt_of_waits bounded rising circle asks asks)

end Order

end Locking
