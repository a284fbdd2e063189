/-
This file is about the regular files of a directory and of those beneath it, by their paths
in components: no file is beneath another file. A directory is there if a file is beneath it.
-/

import Ledgerly.Library.KeyMap

/-- The files of a directory. -/
structure FileTree (Name Content : Type*) [DecidableEq Name] where
  files : KeyMap (List Name) Content
  apart : ∀ one two, (files.lookup one).isSome → (files.lookup two).isSome → one <+: two →
    one = two

namespace FileTree

variable {Name Content : Type*} [DecidableEq Name]

/-- A directory without files. -/
def empty : FileTree Name Content := ⟨∅, fun _ _ one => absurd one (by simp)⟩

/-- The file at a path. -/
def lookup (tree : FileTree Name Content) (path : List Name) : Option Content :=
  tree.files.lookup path

/-- No other file has the path beneath it or is beneath the path. -/
def Free (tree : FileTree Name Content) (path : List Name) : Prop :=
  ∀ other ∈ tree.files.keys, other ≠ path → ¬other <+: path ∧ ¬path <+: other

instance (tree : FileTree Name Content) (path : List Name) : Decidable (tree.Free path) :=
  inferInstanceAs (Decidable (∀ other ∈ tree.files.keys, _))

theorem free_iff {tree : FileTree Name Content} {path : List Name} :
    tree.Free path ↔ ∀ other, (tree.lookup other).isSome → other ≠ path →
      ¬other <+: path ∧ ¬path <+: other :=
  ⟨fun free other present => free other (AList.lookup_isSome.mp present),
    fun free other member => free other (AList.lookup_isSome.mpr member)⟩

/-- A file with all directories above it, or nothing where a file is in the way of a directory
or a directory in the way of the file. A file that is there is overwritten. -/
def create (tree : FileTree Name Content) (path : List Name) (content : Content) :
    Option (FileTree Name Content) :=
  if free : tree.Free path then
    some {
      files := tree.files.insert path content
      apart := by
        intro one two inOne inTwo above
        rw [KeyMap.lookup_insert_eq] at inOne inTwo
        by_cases first : one = path
        · by_contra different
          rw [if_neg fun second => different (first.trans second.symm)] at inTwo
          exact (free_iff.mp free two inTwo fun second => different (first.trans second.symm)).2
            (first ▸ above)
        · rw [if_neg first] at inOne
          by_cases second : two = path
          · exact absurd (second ▸ above) (free_iff.mp free one inOne first).1
          · rw [if_neg second] at inTwo
            exact tree.apart one two inOne inTwo above }
  else none

/-- A file is made where nothing is in the way, and nothing else changes. -/
theorem exists_create {tree : FileTree Name Content} {path : List Name} (content : Content)
    (free : tree.Free path) :
    ∃ after, tree.create path content = some after ∧
      ∀ other, after.lookup other = if other = path then some content else tree.lookup other := by
  refine ⟨_, dif_pos free, fun other => ?_⟩
  exact KeyMap.lookup_insert_eq tree.files path other content

/-- What a file was made in. -/
theorem eq_of_create {tree after : FileTree Name Content} {path : List Name} {content : Content}
    (created : tree.create path content = some after) (other : List Name) :
    after.lookup other = if other = path then some content else tree.lookup other := by
  by_cases free : tree.Free path
  · obtain ⟨made, isMade, lookups⟩ := exists_create content free
    obtain rfl := Option.some.inj (created.symm.trans isMade)
    exact lookups other
  · rw [create, dif_neg free] at created
    cases created

theorem lookup_create {tree : FileTree Name Content} {path : List Name} (content : Content)
    (free : tree.Free path) (otherwise : FileTree Name Content) (other : List Name) :
    ((tree.create path content).getD otherwise).lookup other =
      if other = path then some content else tree.lookup other := by
  obtain ⟨after, created, lookups⟩ := exists_create content free
  rw [created, Option.getD_some, lookups]

@[simp]
theorem lookup_empty (path : List Name) : (empty : FileTree Name Content).lookup path = none :=
  AList.lookup_empty path

/-- Nothing is in the way in an empty directory. -/
theorem free_empty (path : List Name) : (empty : FileTree Name Content).Free path := by
  refine free_iff.mpr fun other present => ?_
  rw [lookup_empty] at present
  cases present

/-- A directory with one file. -/
theorem lookup_create_empty (path other : List Name) (content : Content) :
    ((empty.create path content).getD empty).lookup other =
      if other = path then some content else none :=
  (lookup_create content (free_empty path) empty other).trans (by rw [lookup_empty])

/-- The files with their paths. -/
def entries (tree : FileTree Name Content) : List (List Name × Content) :=
  tree.files.entries.map fun entry => (entry.1, entry.2)

theorem mem_entries_iff {tree : FileTree Name Content} {path : List Name} {content : Content} :
    (path, content) ∈ tree.entries ↔ tree.lookup path = some content := by
  rw [entries, List.mem_map, lookup, ← Option.mem_def, AList.mem_lookup_iff]
  constructor
  · rintro ⟨⟨_, _⟩, member, same⟩
    obtain ⟨rfl, rfl⟩ := Prod.mk.inj same
    exact member
  · exact fun member => ⟨⟨path, content⟩, member, rfl⟩

theorem paths_nodup (tree : FileTree Name Content) : (tree.entries.map Prod.fst).Nodup := by
  rw [entries, List.map_map]
  exact tree.files.nodupKeys

/-- The tree as a directory of that name. -/
def within (tree : FileTree Name Content) (name : Name) : FileTree Name Content where
  files := tree.files.mapKeys (List.cons name) (List.cons_injective)
  apart := by
    intro one two inOne inTwo above
    obtain ⟨_, foundOne⟩ := Option.isSome_iff_exists.mp inOne
    obtain ⟨_, foundTwo⟩ := Option.isSome_iff_exists.mp inTwo
    obtain ⟨restOne, rfl, isOne⟩ := (KeyMap.lookup_mapKeys List.cons_injective).mp foundOne
    obtain ⟨restTwo, rfl, isTwo⟩ := (KeyMap.lookup_mapKeys List.cons_injective).mp foundTwo
    rw [tree.apart restOne restTwo (Option.isSome_of_eq_some isOne) (Option.isSome_of_eq_some isTwo)
      (List.prefix_cons_inj name |>.mp above)]

theorem lookup_within {tree : FileTree Name Content} {name : Name} {path : List Name}
    {content : Content} :
    (tree.within name).lookup path = some content ↔
      ∃ rest, path = name :: rest ∧ tree.lookup rest = some content := by
  refine (KeyMap.lookup_mapKeys List.cons_injective).trans (exists_congr fun rest => ?_)
  exact and_congr_left' eq_comm

theorem lookup_within_cons (tree : FileTree Name Content) (name : Name) (path : List Name) :
    (tree.within name).lookup (name :: path) = tree.lookup path := by
  refine Option.ext fun content => lookup_within.trans ⟨?_, fun found => ⟨path, rfl, found⟩⟩
  rintro ⟨rest, same, found⟩
  obtain ⟨-, rfl⟩ := List.cons.inj same
  exact found

/-- A loop that makes one file in each round, where nothing is in the way of the files, makes them
all and keeps those that were there. `Ready` is what a round needs besides, with the rounds to come. -/
theorem foldlM_creates.{u, v, w} {Error : Type u} {State : Type v} {Item : Type w}
    (tree : State → FileTree Name Content) (path : Item → List Name) (content : Item → Content)
    (step : State → Item → Except Error State) (Ready : State → List Item → Prop)
    (each : ∀ state item rest, Ready state (item :: rest) → (tree state).Free (path item) →
      ∃ next, step state item = .ok next ∧ Ready next rest ∧
        (tree next).lookup (path item) = some (content item) ∧
        ∀ other, other ≠ path item → (tree next).lookup other = (tree state).lookup other)
    {items : List Item}
    (apart : items.Pairwise fun one two => ¬path one <+: path two ∧ ¬path two <+: path one)
    {state : State} (ready : Ready state items)
    (room : ∀ item ∈ items, ∀ other, ((tree state).lookup other).isSome →
      ¬other <+: path item ∧ ¬path item <+: other) :
    ∃ after, items.foldlM step state = .ok after ∧ Ready after [] ∧ ∀ other made,
      (tree after).lookup other = some made ↔
        (∃ item ∈ items, path item = other ∧ content item = made) ∨
          (tree state).lookup other = some made := by
  induction items generalizing state with
  | nil => exact ⟨state, rfl, ready, fun other made => by simp⟩
  | cons item rest inductionHypothesis =>
    obtain ⟨apartFirst, apartRest⟩ := List.pairwise_cons.mp apart
    have free : (tree state).Free (path item) :=
      free_iff.mpr fun other present _ => room item List.mem_cons_self other present
    obtain ⟨next, made, nextReady, here, elsewhere⟩ := each state item rest ready free
    obtain ⟨after, folds, afterReady, contents⟩ := inductionHypothesis apartRest nextReady (by
      intro later member other present
      by_cases same : other = path item
      · exact same ▸ apartFirst later member
      · rw [elsewhere other same] at present
        exact room later (List.mem_cons_of_mem _ member) other present)
    refine ⟨after, ?_, afterReady, fun other found => ?_⟩
    · rw [List.foldlM_cons, made]
      exact folds
    · rw [contents, List.exists_mem_cons_iff]
      by_cases same : other = path item
      · subst same
        rw [here, Option.some.injEq]
        constructor
        · rintro (later | same)
          · exact Or.inl (Or.inr later)
          · exact Or.inl (Or.inl ⟨rfl, same⟩)
        · rintro ((⟨-, same⟩ | later) | before)
          · exact Or.inr same
          · exact Or.inl later
          · exact absurd List.prefix_rfl
              (room item List.mem_cons_self _ (Option.isSome_of_eq_some before)).1
      · rw [elsewhere other same]
        constructor
        · rintro (later | before)
          · exact Or.inl (Or.inr later)
          · exact Or.inr before
        · rintro ((⟨found, -⟩ | later) | before)
          · exact absurd found.symm same
          · exact Or.inl later
          · exact Or.inr before

end FileTree
