/-
This file is about patterns that are matched by backtracking. At a place of a text a pattern has
several ways to take what stands there, and the matcher tries them in an order that the pattern
fixes: as much as possible for a greedy repetition, as little as possible for a lazy one.

Which beginnings of a text a pattern can take is its language, whatever the order; `mem_ways` says
so for every pattern. Which one it takes is its first way. The search for a pattern with a group
takes the first place with any way at all, and there the first way.
-/

import Mathlib.Computability.Language
import Mathlib.Data.List.Infix

namespace Matching

variable {α : Type*}

/-- A pattern: the ways to take a beginning of a text, each with the rest, in the order of the
matcher. They are the splits of the text whose first part is in the language. -/
structure Pattern (α : Type*) where
  language : Language α
  ways : List α → List (List α × List α)
  mem_ways : ∀ text taken rest,
    (taken, rest) ∈ ways text ↔ taken ++ rest = text ∧ taken ∈ language

/-! ### The patterns -/

/-- The pattern that takes nothing. -/
def nothing : Pattern α where
  language := 1
  ways text := [([], text)]
  mem_ways text taken rest := by
    rw [List.mem_singleton, Prod.mk.injEq, Language.mem_one]
    constructor
    · rintro ⟨rfl, rfl⟩
      exact ⟨rfl, rfl⟩
    · rintro ⟨split, rfl⟩
      exact ⟨rfl, split⟩

/-- One item of a class. -/
def one (p : α → Bool) : Pattern α where
  language := {word | ∃ item, word = [item] ∧ p item = true}
  ways
    | [] => []
    | item :: rest => if p item then [([item], rest)] else []
  mem_ways text taken rest := by
    cases text with
    | nil =>
      constructor
      · intro member
        cases member
      · rintro ⟨split, item, rfl, -⟩
        cases split
    | cons item others =>
      constructor
      · intro member
        dsimp only at member
        by_cases isItem : p item = true
        · rw [if_pos isItem, List.mem_singleton, Prod.mk.injEq] at member
          obtain ⟨rfl, rfl⟩ := member
          exact ⟨rfl, item, rfl, isItem⟩
        · rw [if_neg isItem] at member
          cases member
      · rintro ⟨split, item', rfl, isItem⟩
        obtain ⟨rfl, rfl⟩ := List.cons.inj split
        dsimp only
        rw [if_pos isItem]
        exact List.mem_singleton_self _

/-- One of some words, an earlier one first. -/
def oneOf [DecidableEq α] (words : List (List α)) : Pattern α where
  language := {word | word ∈ words}
  ways text := (words.filter fun word => word.isPrefixOf text).map fun word =>
    (word, text.drop word.length)
  mem_ways text taken rest := by
    simp only [List.mem_map, List.mem_filter, List.isPrefixOf_iff_prefix, Prod.mk.injEq]
    constructor
    · rintro ⟨word, ⟨member, tail, rfl⟩, rfl, rfl⟩
      rw [List.drop_left]
      exact ⟨rfl, member⟩
    · rintro ⟨rfl, member⟩
      exact ⟨taken, ⟨member, List.prefix_append taken rest⟩, rfl, List.drop_left⟩

/-- One pattern after another. -/
def seq (p q : Pattern α) : Pattern α where
  language := p.language * q.language
  ways text := (p.ways text).flatMap fun first =>
    (q.ways first.2).map fun second => (first.1 ++ second.1, second.2)
  mem_ways text taken rest := by
    simp only [List.mem_flatMap, List.mem_map, Prod.exists, Prod.mk.injEq, Language.mem_mul]
    constructor
    · rintro ⟨one, between, takesOne, two, rest, takesTwo, rfl, rfl⟩
      obtain ⟨rfl, isOne⟩ := (p.mem_ways _ _ _).mp takesOne
      obtain ⟨rfl, isTwo⟩ := (q.mem_ways _ _ _).mp takesTwo
      exact ⟨List.append_assoc _ _ _, one, isOne, two, isTwo, rfl⟩
    · rintro ⟨rfl, one, isOne, two, isTwo, rfl⟩
      exact ⟨one, two ++ rest, (p.mem_ways _ _ _).mpr ⟨(List.append_assoc _ _ _).symm, isOne⟩, two,
        rest, (q.mem_ways _ _ _).mpr ⟨rfl, isTwo⟩, rfl, rfl⟩

/-- A pattern or nothing, the pattern first. -/
def optional (p : Pattern α) : Pattern α where
  language := p.language + 1
  ways text := p.ways text ++ [([], text)]
  mem_ways text taken rest := by
    rw [List.mem_append, p.mem_ways, Language.mem_add, Language.mem_one, List.mem_singleton,
      Prod.mk.injEq]
    constructor
    · rintro (⟨split, isIn⟩ | ⟨rfl, rfl⟩)
      · exact ⟨split, Or.inl isIn⟩
      · exact ⟨rfl, Or.inr rfl⟩
    · rintro ⟨split, isIn | rfl⟩
      · exact Or.inl ⟨split, isIn⟩
      · exact Or.inr ⟨rfl, split⟩

section Repetition

/-- The splits of a text after items of a class, the longest first. -/
def longestFirst (p : α → Bool) : List α → List (List α × List α)
  | [] => [([], [])]
  | item :: rest =>
    if p item then ((longestFirst p rest).map fun way => (item :: way.1, way.2)) ++ [([], item :: rest)]
    else [([], item :: rest)]

theorem mem_longestFirst (p : α → Bool) (text taken rest : List α) :
    (taken, rest) ∈ longestFirst p text ↔
      taken ++ rest = text ∧ ∀ item ∈ taken, p item = true := by
  induction text generalizing taken with
  | nil =>
    rw [longestFirst, List.mem_singleton, Prod.mk.injEq, List.append_eq_nil_iff]
    constructor
    · rintro ⟨rfl, rfl⟩
      exact ⟨⟨rfl, rfl⟩, fun _ member => nomatch member⟩
    · exact fun split => split.1
  | cons item others inductionHypothesis =>
    have shortest : (taken, rest) ∈ [(([] : List α), item :: others)] ↔
        taken = [] ∧ rest = item :: others := by
      rw [List.mem_singleton, Prod.mk.injEq]
    cases taken with
    | nil =>
      rw [longestFirst]
      refine Iff.trans ?_ (⟨fun split => ⟨split, fun _ member => nomatch member⟩, And.left⟩ :
        rest = item :: others ↔ _)
      by_cases isItem : p item = true
      · rw [if_pos isItem, List.mem_append, shortest, List.mem_map]
        constructor
        · rintro (⟨way, -, ⟨⟩⟩ | ⟨-, split⟩)
          exact split
        · exact fun split => Or.inr ⟨rfl, split⟩
      · rw [if_neg isItem, shortest]
        exact ⟨And.right, fun split => ⟨rfl, split⟩⟩
    | cons first taken =>
      rw [longestFirst, List.cons_append, List.cons.injEq, List.forall_mem_cons]
      by_cases isItem : p item = true
      · rw [if_pos isItem, List.mem_append, shortest, List.mem_map]
        constructor
        · rintro (⟨way, member, same⟩ | ⟨none, -⟩)
          · obtain ⟨⟨rfl, rfl⟩, rfl⟩ : (item = first ∧ way.1 = taken) ∧ way.2 = rest := by
              simpa only [Prod.mk.injEq, List.cons.injEq] using same
            obtain ⟨split, all⟩ := (inductionHypothesis _).mp member
            exact ⟨⟨rfl, split⟩, isItem, all⟩
          · cases none
        · rintro ⟨⟨rfl, split⟩, -, all⟩
          exact Or.inl ⟨(taken, rest), (inductionHypothesis _).mpr ⟨split, all⟩, rfl⟩
      · rw [if_neg isItem, shortest]
        constructor
        · rintro ⟨none, -⟩
          cases none
        · rintro ⟨⟨rfl, -⟩, isFirst, -⟩
          exact absurd isFirst isItem

/-- Any number of items of a class, as many as possible first. -/
def greedy (p : α → Bool) : Pattern α where
  language := {word | ∀ item ∈ word, p item = true}
  ways := longestFirst p
  mem_ways := mem_longestFirst p

/-- Any number of items of a class, as few as possible first. -/
def reluctant (p : α → Bool) : Pattern α where
  language := {word | ∀ item ∈ word, p item = true}
  ways text := (longestFirst p text).reverse
  mem_ways text taken rest := by
    rw [List.mem_reverse]
    exact mem_longestFirst p text taken rest

end Repetition

/-- A pattern with one group in it. -/
structure Grouped (α : Type*) where
  before : Pattern α
  group : Pattern α
  after : Pattern α

/-- What the group takes in the ways at one place. -/
def Grouped.groups (regex : Grouped α) (text : List α) : List (List α) :=
  (regex.before.ways text).flatMap fun first =>
    (regex.group.ways first.2).flatMap fun second =>
      (regex.after.ways second.2).map fun _ => second.1

/-- What the group takes at the first place where the pattern has a way. -/
def Grouped.find (regex : Grouped α) : List α → Option (List α)
  | [] => (regex.groups []).head?
  | item :: rest => (regex.groups (item :: rest)).head?.or (regex.find rest)

variable {regex : Grouped α}

/-- What holds at every place of a text holds of every split of it. -/
theorem forall_split {text : List α} {holds : List α → α → List α → Prop}
    (everywhere : ∀ index, ∀ inside : index < text.length,
      holds (text.take index) text[index] (text.drop (index + 1)))
    {start rest : List α} {item : α} (split : text = start ++ item :: rest) :
    holds start item rest := by
  subst split
  have inside : start.length < (start ++ item :: rest).length := by
    rw [List.length_append, List.length_cons]
    omega
  have here := everywhere start.length inside
  have dropped : (start ++ item :: rest).drop (start.length + 1) = rest := by
    rw [← List.drop_drop, List.drop_left]
    rfl
  rw [List.take_left, dropped] at here
  simpa using here

end Matching
