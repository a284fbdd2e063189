/-
This file is about partial functions: two after one another succeed exactly if both do, also where
they have a state that stays when they fail, and mapping one over a list succeeds exactly if it
succeeds on every element, and then element by element.
-/

import Mathlib.Data.List.Forall2
import Mathlib.Tactic.Choose

/-- A chain of two steps that may fail succeeds exactly if both do. -/
theorem Except.bind_eq_ok.{u, v} {ε : Type u} {α β : Type v} {first : Except ε α}
    {next : α → Except ε β} {result : β} :
    (first >>= next) = .ok result ↔ ∃ between, first = .ok between ∧ next between = .ok result := by
  cases first with
  | error error => exact ⟨fun impossible => (nomatch impossible), fun ⟨_, impossible, _⟩ =>
      (nomatch impossible)⟩
  | ok between =>
    constructor
    · exact fun made => ⟨between, rfl, made⟩
    · rintro ⟨_, isBetween, made⟩
      obtain rfl := Except.ok.inj isBetween
      exact made

/-- A step that succeeds hands on its result. -/
theorem Except.chained.{u, v} {ε : Type u} {α β : Type v} {first : Except ε α}
    {next : α → Except ε β} {between : α} {result : β} (here : first = .ok between)
    (later : next between = .ok result) : (first >>= next) = .ok result :=
  bind_eq_ok.mpr ⟨between, here, later⟩

/-- A chain of two steps that may fail fails where one of them does. -/
theorem Except.bind_eq_error.{u, v} {ε : Type u} {α β : Type v} {first : Except ε α}
    {next : α → Except ε β} {error : ε} :
    (first >>= next) = .error error ↔
      first = .error error ∨ ∃ between, first = .ok between ∧ next between = .error error := by
  cases first with
  | error other =>
    constructor
    · exact fun failed => Or.inl (congrArg Except.error (Except.error.inj failed))
    · rintro (same | ⟨_, impossible, _⟩)
      · exact congrArg Except.error (Except.error.inj same)
      · cases impossible
  | ok between =>
    constructor
    · exact fun failed => Or.inr ⟨between, rfl, failed⟩
    · rintro (impossible | ⟨_, isBetween, failed⟩)
      · cases impossible
      · obtain rfl := Except.ok.inj isBetween
        exact failed

/-- Two steps that keep what they have done when they fail succeed exactly if both do. -/
theorem EStateM.bind_eq_ok.{u} {ε σ α β : Type u} {first : EStateM ε σ α} {next : α → EStateM ε σ β}
    {state after : σ} {result : β} :
    (first >>= next) state = .ok result after ↔
      ∃ value between, first state = .ok value between ∧ next value between = .ok result after := by
  show EStateM.bind first next state = _ ↔ _
  rw [EStateM.bind]
  cases first state with
  | ok value between =>
    constructor
    · exact fun made => ⟨value, between, rfl, made⟩
    · rintro ⟨_, _, same, made⟩
      cases same
      exact made
  | error error between =>
    constructor
    · exact fun impossible => by cases impossible
    · rintro ⟨_, _, impossible, -⟩
      cases impossible

/-- They fail where one of them does. -/
theorem EStateM.bind_eq_error.{u} {ε σ α β : Type u} {first : EStateM ε σ α}
    {next : α → EStateM ε σ β} {state after : σ} {error : ε} :
    (first >>= next) state = .error error after ↔
      first state = .error error after ∨
        ∃ value between, first state = .ok value between ∧
          next value between = .error error after := by
  show EStateM.bind first next state = _ ↔ _
  rw [EStateM.bind]
  cases first state with
  | ok value between =>
    constructor
    · exact fun failed => Or.inr ⟨value, between, rfl, failed⟩
    · rintro (impossible | ⟨_, _, same, failed⟩)
      · cases impossible
      · cases same
        exact failed
  | error other between =>
    constructor
    · intro failed
      cases failed
      exact Or.inl rfl
    · rintro (same | ⟨_, _, impossible, -⟩)
      · cases same
        rfl
      · cases impossible

/-- What every round of a loop fails with, the loop fails with. -/
theorem List.foldlM_eq_error.{u, v, w} {ε : Type u} {σ : Type v} {α : Type w}
    {f : σ → α → Except ε σ} {P : ε → Prop}
    (each : ∀ state item error, f state item = .error error → P error) {items : List α}
    {state : σ} {error : ε} (failed : items.foldlM f state = .error error) : P error := by
  induction items generalizing state with
  | nil => cases failed
  | cons item rest inductionHypothesis =>
    rw [List.foldlM_cons] at failed
    rcases Except.bind_eq_error.mp failed with here | ⟨_, -, later⟩
    · exact each state item error here
    · exact inductionHypothesis later

/-- Loops whose rounds agree agree. -/
theorem List.foldlM_congr_of_mem.{u, v, w} {ε : Type u} {σ : Type v} {α : Type w}
    {f g : σ → α → Except ε σ} {items : List α}
    (each : ∀ item ∈ items, ∀ state, f state item = g state item) (state : σ) :
    items.foldlM f state = items.foldlM g state := by
  induction items generalizing state with
  | nil => rfl
  | cons item rest inductionHypothesis =>
    rw [List.foldlM_cons, List.foldlM_cons, each item List.mem_cons_self]
    exact bind_congr fun next =>
      inductionHypothesis (fun other member => each other (List.mem_cons_of_mem _ member)) next

/-- What every round of a loop demands of its item holds of every item where the loop succeeds. -/
theorem List.forall_of_foldlM_ok.{u, v, w} {ε : Type u} {σ : Type v} {α : Type w}
    {f : σ → α → Except ε σ} {P : α → Prop}
    (each : ∀ state item next, f state item = .ok next → P item) {items : List α}
    {state result : σ} (succeeded : items.foldlM f state = .ok result) : ∀ item ∈ items, P item := by
  induction items generalizing state with
  | nil => exact nofun
  | cons item rest inductionHypothesis =>
    rw [List.foldlM_cons] at succeeded
    obtain ⟨next, here, later⟩ := Except.bind_eq_ok.mp succeeded
    exact List.forall_mem_cons.mpr ⟨each state item next here, inductionHypothesis later⟩

/-- What every round of a loop keeps, the loop keeps. -/
theorem List.invariant_of_foldlM_ok.{u, v, w} {ε : Type u} {σ : Type v} {α : Type w}
    {f : σ → α → Except ε σ} {P : σ → Prop} {items : List α}
    (each : ∀ item ∈ items, ∀ state next, P state → f state item = .ok next → P next)
    {state result : σ} (holds : P state) (succeeded : items.foldlM f state = .ok result) :
    P result := by
  induction items generalizing state with
  | nil => exact Except.ok.inj succeeded ▸ holds
  | cons item rest inductionHypothesis =>
    rw [List.foldlM_cons] at succeeded
    obtain ⟨next, here, later⟩ := Except.bind_eq_ok.mp succeeded
    exact inductionHypothesis (fun other member => each other (List.mem_cons_of_mem _ member))
      (each item List.mem_cons_self state next holds here) later

namespace List

variable {α β : Type*} {f : α → Option β}

theorem mapM_eq_some_iff {items : List α} {results : List β} :
    items.mapM f = some results ↔ Forall₂ (fun item result => f item = some result) items results := by
  induction items generalizing results with
  | nil =>
    rw [mapM_nil, forall₂_nil_left_iff]
    exact ⟨fun same => (Option.some.inj same).symm, fun same => by rw [same]; rfl⟩
  | cons item rest inductionHypothesis =>
    rw [mapM_cons, forall₂_cons_left_iff]
    constructor
    · intro made
      obtain ⟨result, first, later⟩ := Option.bind_eq_some_iff.mp made
      obtain ⟨others, tail, same⟩ := Option.bind_eq_some_iff.mp later
      exact ⟨result, others, first, inductionHypothesis.mp tail, (Option.some.inj same).symm⟩
    · rintro ⟨result, others, first, tail, rfl⟩
      rw [inductionHypothesis.mpr tail, first]
      rfl

theorem length_of_mapM_eq_some {items : List α} {results : List β}
    (made : items.mapM f = some results) : results.length = items.length :=
  (mapM_eq_some_iff.mp made).length_eq.symm

/-- Every result is that of an element. -/
theorem exists_of_mapM_eq_some {items : List α} {results : List β}
    (made : items.mapM f = some results) {result : β} (member : result ∈ results) :
    ∃ item ∈ items, f item = some result := by
  induction mapM_eq_some_iff.mp made with
  | nil => exact absurd member not_mem_nil
  | cons first _ inductionHypothesis =>
    rcases mem_cons.mp member with rfl | later
    · exact ⟨_, mem_cons_self, first⟩
    · rename_i tail
      obtain ⟨item, itemMember, same⟩ := inductionHypothesis (mapM_eq_some_iff.mpr tail) later
      exact ⟨item, mem_cons_of_mem _ itemMember, same⟩

/-- The map succeeds if it succeeds on every element. -/
theorem exists_mapM_eq_some {items : List α}
    (each : ∀ item ∈ items, ∃ result, f item = some result) :
    ∃ results, items.mapM f = some results := by
  induction items with
  | nil => exact ⟨[], mapM_nil⟩
  | cons item rest inductionHypothesis =>
    obtain ⟨result, first⟩ := each item mem_cons_self
    obtain ⟨results, later⟩ := inductionHypothesis fun other member =>
      each other (mem_cons_of_mem _ member)
    refine ⟨result :: results, mapM_eq_some_iff.mpr (.cons first (mapM_eq_some_iff.mp later))⟩

/-- Elements put beside their results. -/
theorem mapM_pair_eq_some_iff {items : List α} {pairs : List (α × β)} (otherwise : β) :
    (items.mapM fun item => (f item).map fun result => (item, result)) = some pairs ↔
      (∀ item ∈ items, (f item).isSome) ∧
        pairs = items.map fun item => (item, (f item).getD otherwise) := by
  induction items generalizing pairs with
  | nil =>
    rw [mapM_nil]
    exact ⟨fun same => ⟨fun _ member => absurd member not_mem_nil, (Option.some.inj same).symm⟩,
      fun both => congrArg some both.2.symm⟩
  | cons item rest inductionHypothesis =>
    rw [mapM_cons, forall_mem_cons]
    constructor
    · intro made
      obtain ⟨pair, first, later⟩ := Option.bind_eq_some_iff.mp made
      obtain ⟨others, tail, same⟩ := Option.bind_eq_some_iff.mp later
      obtain ⟨result, found, rfl⟩ := Option.map_eq_some_iff.mp first
      obtain ⟨all, rfl⟩ := inductionHypothesis.mp tail
      refine ⟨⟨Option.isSome_of_eq_some found, all⟩, ?_⟩
      rw [← Option.some.inj same, map_cons, found]
      rfl
    · rintro ⟨⟨present, all⟩, rfl⟩
      obtain ⟨result, found⟩ := Option.isSome_iff_exists.mp present
      rw [inductionHypothesis.mpr ⟨all, rfl⟩, map_cons, found]
      rfl

/-- A fallible function that succeeds on every element succeeds on the list. -/
theorem mapM_eq_ok {ε : Type*} {f : α → Except ε β} {g : α → β} {items : List α}
    (each : ∀ item ∈ items, f item = .ok (g item)) : items.mapM f = .ok (items.map g) := by
  induction items with
  | nil => rfl
  | cons item rest inductionHypothesis =>
    rw [mapM_cons, each item mem_cons_self,
      inductionHypothesis fun other member => each other (mem_cons_of_mem _ member)]
    rfl

/-- A fallible function that succeeds on every key fills a table with what is made of the
results. -/
theorem exists_mapM_table {ε γ : Type*} [Nonempty β] {f : α → Except ε β} {P : α → β → Prop}
    (entry : β → γ) {keys : List α}
    (each : ∀ key ∈ keys, ∃ result, f key = .ok result ∧ P key result) :
    ∃ g : α → β, (keys.mapM fun key => (f key).map fun result => (key, entry result)) =
        .ok (keys.map fun key => (key, entry (g key))) ∧ ∀ key ∈ keys, P key (g key) := by
  choose! g made holds using each
  refine ⟨g, mapM_eq_ok fun key member => ?_, holds⟩
  rw [made key member]
  rfl

/-- A table that was filled has the results of the function. -/
theorem exists_of_mapM_table {ε γ : Type*} [Nonempty β] {f : α → Except ε β} {entry : β → γ}
    {keys : List α} {table : List (α × γ)}
    (made : (keys.mapM fun key => (f key).map fun result => (key, entry result)) = .ok table) :
    ∃ g : α → β, (∀ key ∈ keys, f key = .ok (g key)) ∧
      table = keys.map fun key => (key, entry (g key)) := by
  have each : ∀ (keys : List α) (table : List (α × γ)),
      (keys.mapM fun key => (f key).map fun result => (key, entry result)) = .ok table →
        ∀ key ∈ keys, ∃ result, f key = .ok result := by
    intro keys
    induction keys with
    | nil => exact fun _ _ _ member => absurd member not_mem_nil
    | cons first rest inductionHypothesis =>
      intro table made key member
      rw [mapM_cons] at made
      cases result : f first with
      | error error =>
        rw [result] at made
        cases made
      | ok value =>
        rcases mem_cons.mp member with rfl | later
        · exact ⟨value, result⟩
        · rw [result] at made
          cases tail : rest.mapM fun key => (f key).map fun result => (key, entry result) with
          | error error =>
            rw [tail] at made
            cases made
          | ok others => exact inductionHypothesis others tail key later
  obtain ⟨g, filled, same⟩ := exists_mapM_table (P := fun key result => f key = .ok result) entry
    fun key member => (each keys table made key member).imp fun _ found => ⟨found, found⟩
  exact ⟨g, same, Except.ok.inj (made.symm.trans filled)⟩

/-! ### Tables by key -/

variable [DecidableEq α]

theorem lookup_map_self (g : α → β) {keys : List α} {key : α} (member : key ∈ keys) :
    (keys.map fun key => (key, g key)).lookup key = some (g key) := by
  induction keys with
  | nil => exact absurd member not_mem_nil
  | cons first rest inductionHypothesis =>
    rw [map_cons, lookup_cons]
    by_cases same : key = first
    · rw [same, beq_self_eq_true]
    · rw [beq_false_of_ne same]
      exact inductionHypothesis ((mem_cons.mp member).resolve_left same)

/-- A table without its empty lists gives the same lists. -/
theorem lookup_filterMap_nonempty (g : α → List β) {keys : List α} {key : α}
    (member : key ∈ keys) :
    ((keys.filterMap fun key => if (g key).isEmpty then none else some (key, g key)).lookup
      key).getD [] = g key := by
  have always : ∀ keys : List α, ((keys.filterMap fun key =>
      if (g key).isEmpty then none else some (key, g key)).lookup key).getD [] =
        if key ∈ keys then g key else [] := by
    intro keys
    induction keys with
    | nil => rfl
    | cons first rest inductionHypothesis =>
      cases empty : (g first).isEmpty with
      | true =>
        rw [filterMap_cons_none (by rw [empty]; rfl), inductionHypothesis]
        by_cases same : key = first
        · rw [same, isEmpty_iff.mp empty, ite_self, ite_self]
        · simp only [mem_cons, same, false_or]
      | false =>
        rw [filterMap_cons_some (b := (first, g first)) (by rw [empty]; rfl), lookup_cons]
        by_cases same : key = first
        · rw [same, beq_self_eq_true, if_pos mem_cons_self]
          rfl
        · rw [beq_false_of_ne same]
          simp only [mem_cons, same, false_or]
          exact inductionHypothesis
  rw [always, if_pos member]

end List

/-- What is related to a list in order has an element for each of it. -/
theorem List.Forall₂.exists_of_mem.{u, v} {α : Type u} {β : Type v} {related : α → β → Prop}
    {one : List α} {two : List β} (all : List.Forall₂ related one two) {item : α}
    (member : item ∈ one) : ∃ other ∈ two, related item other := by
  induction all with
  | nil => exact absurd member List.not_mem_nil
  | cons here _ inductionHypothesis =>
    rcases List.mem_cons.mp member with rfl | later
    · exact ⟨_, List.mem_cons_self, here⟩
    · obtain ⟨other, isOther, isRelated⟩ := inductionHypothesis later
      exact ⟨other, List.mem_cons_of_mem _ isOther, isRelated⟩
