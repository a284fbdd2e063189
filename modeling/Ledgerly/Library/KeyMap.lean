/-
This file adds to Mathlib's association lists what a hash map or a table with a
primary key is scanned for: the list of its values, and the values a test selects.
The order of the values stands for the unspecified iteration order of a hash map;
nothing below depends on it. Partial unique indexes are stated here too, with the
condition under which one write keeps an index unique.
-/

import Mathlib.Data.List.AList

/-- A map with unique keys of one value type. -/
abbrev KeyMap (Key Value : Type*) := AList fun _ : Key => Value

namespace KeyMap

variable {Key Value : Type*} [DecidableEq Key]

/-- The values of a map, in its iteration order. -/
def values (map : KeyMap Key Value) : List Value := map.entries.map Sigma.snd

theorem mem_values_iff {map : KeyMap Key Value} {value : Value} :
    value ∈ map.values ↔ ∃ key, map.lookup key = some value := by
  simp only [values, List.mem_map, ← Option.mem_def, AList.mem_lookup_iff]
  constructor
  · rintro ⟨⟨key, _⟩, member, rfl⟩
    exact ⟨key, member⟩
  · rintro ⟨key, member⟩
    exact ⟨⟨key, value⟩, member, rfl⟩

theorem mem_values_of_lookup {map : KeyMap Key Value} {key : Key} {value : Value}
    (found : map.lookup key = some value) : value ∈ map.values :=
  mem_values_iff.mpr ⟨key, found⟩

/-- Maps with the same values under the same keys have the same values, in some order. -/
theorem values_perm {map other : KeyMap Key Value}
    (same : ∀ key, map.lookup key = other.lookup key) : map.values.Perm other.values := by
  refine List.Perm.map _ (List.lookup_ext map.nodupKeys other.nodupKeys fun key value => ?_)
  exact iff_of_eq (congrArg (value ∈ ·) (same key))

/-- Inserting under one key: what the map holds afterwards, key by key. -/
theorem lookup_insert_eq (map : KeyMap Key Value) (key other : Key) (value : Value) :
    (map.insert key value).lookup other = if other = key then some value else map.lookup other := by
  by_cases same : other = key
  · rw [if_pos same, same, AList.lookup_insert]
  · rw [if_neg same, AList.lookup_insert_ne same]

/-- A value of the updated map is the inserted one or sits under another key. -/
theorem lookup_insert_eq_some {map : KeyMap Key Value} {key other : Key} {value found : Value}
    (holds : (map.insert key value).lookup other = some found) :
    (other = key ∧ found = value) ∨ (other ≠ key ∧ map.lookup other = some found) := by
  rw [lookup_insert_eq] at holds
  by_cases same : other = key
  · rw [if_pos same] at holds
    exact Or.inl ⟨same, (Option.some.inj holds).symm⟩
  · rw [if_neg same] at holds
    exact Or.inr ⟨same, holds⟩

/-- The value under a key, if there is one, changed. -/
def modify (map : KeyMap Key Value) (key : Key) (change : Value → Value) : KeyMap Key Value :=
  match map.lookup key with
  | some value => map.insert key (change value)
  | none => map

theorem lookup_modify (map : KeyMap Key Value) (key other : Key) (change : Value → Value) :
    (map.modify key change).lookup other =
      (map.lookup other).map fun value => if other = key then change value else value := by
  unfold modify
  cases found : map.lookup key with
  | none =>
    by_cases same : other = key
    · rw [same, found]
      rfl
    · simp only [if_neg same, Option.map_id']
  | some value =>
    simp only [lookup_insert_eq]
    by_cases same : other = key
    · rw [if_pos same, same, found, Option.map_some, if_pos rfl]
    · simp only [if_neg same, Option.map_id']

/-- Values changed under distinct keys. -/
theorem lookup_foldl_modify {Item : Type*} (keyOf : Item → Key) (change : Value → Value)
    (map : KeyMap Key Value) (items : List Item) (distinct : (items.map keyOf).Nodup) (key : Key) :
    (items.foldl (fun map item => map.modify (keyOf item) change) map).lookup key =
      (map.lookup key).map fun value =>
        if key ∈ items.map keyOf then change value else value := by
  induction items generalizing map with
  | nil => simp
  | cons item rest inductionHypothesis =>
    rw [List.map_cons, List.nodup_cons] at distinct
    rw [List.foldl_cons, inductionHypothesis _ distinct.2, lookup_modify, Option.map_map]
    congr 1
    funext value
    rw [Function.comp_apply, List.map_cons]
    by_cases same : key = keyOf item
    · rw [if_pos same, if_neg (same ▸ distinct.1), if_pos (same ▸ List.mem_cons_self)]
    · rw [if_neg same]
      simp only [List.mem_cons, same, false_or]

/-- The values under the keys that are kept. -/
def filterKeys (map : KeyMap Key Value) (keep : Key → Prop) [DecidablePred keep] :
    KeyMap Key Value where
  entries := map.entries.filter fun entry => keep entry.1
  nodupKeys := map.nodupKeys.sublist List.filter_sublist

theorem lookup_filterKeys (map : KeyMap Key Value) (keep : Key → Prop) [DecidablePred keep]
    (key : Key) :
    (map.filterKeys keep).lookup key = if keep key then map.lookup key else none := by
  ext value
  rw [← Option.mem_def, AList.mem_lookup_iff]
  show _ ∈ map.entries.filter _ ↔ _
  rw [List.mem_filter, ← AList.mem_lookup_iff, decide_eq_true_eq]
  by_cases kept : keep key
  · rw [if_pos kept, Option.mem_def]
    exact and_iff_left kept
  · rw [if_neg kept]
    exact ⟨fun both => absurd both.2 kept, nofun⟩

/-- The values under other keys, of which none are made the same. -/
def mapKeys {Other : Type*} (map : KeyMap Key Value) (rename : Key → Other)
    (injective : Function.Injective rename) : KeyMap Other Value where
  entries := map.entries.map fun entry => ⟨rename entry.1, entry.2⟩
  nodupKeys := by
    have renamed : ((map.entries.map Sigma.fst).map rename).Nodup :=
      List.Nodup.map injective map.nodupKeys
    rw [List.map_map] at renamed
    rw [List.NodupKeys, List.keys, List.map_map]
    exact renamed

theorem lookup_mapKeys {Other : Type*} [DecidableEq Other] {map : KeyMap Key Value}
    {rename : Key → Other} (injective : Function.Injective rename) {other : Other} {value : Value} :
    (map.mapKeys rename injective).lookup other = some value ↔
      ∃ key, rename key = other ∧ map.lookup key = some value := by
  rw [← Option.mem_def, AList.mem_lookup_iff, mapKeys, List.mem_map]
  constructor
  · rintro ⟨⟨key, _⟩, member, same⟩
    obtain ⟨rfl, rfl⟩ := Sigma.mk.injEq .. ▸ same
    exact ⟨key, rfl, AList.mem_lookup_iff.mpr member⟩
  · rintro ⟨key, rfl, found⟩
    exact ⟨⟨key, value⟩, AList.mem_lookup_iff.mp found, rfl⟩

/-- Values that know their keys know different ones. -/
theorem map_values_nodup {map : KeyMap Key Value} {keyOf : Value → Key}
    (keyed : ∀ key value, map.lookup key = some value → keyOf value = key) :
    (map.values.map keyOf).Nodup := by
  have same : map.values.map keyOf = map.keys := by
    rw [values, List.map_map, AList.keys, List.keys]
    refine List.map_congr_left fun entry member => ?_
    exact keyed entry.1 entry.2 (AList.mem_lookup_iff.mpr member)
  rw [same]
  exact map.keys_nodup

/-- Values put under their keys where there are none yet: what was there stays, and the first
value of a missing key is put. -/
theorem lookup_foldl_insert_missing {State Item : Type*} (mapOf : State → KeyMap Key Value)
    (keyOf : Item → Key) (valueOf : Item → Value) (step : State → Item → State)
    (steps : ∀ state item, mapOf (step state item) =
      if ((mapOf state).lookup (keyOf item)).isSome then mapOf state
      else (mapOf state).insert (keyOf item) (valueOf item))
    (start : State) (items : List Item) (key : Key) :
    (mapOf (items.foldl step start)).lookup key =
      ((mapOf start).lookup key).or ((items.find? fun item => keyOf item = key).map valueOf) := by
  induction items generalizing start with
  | nil => rw [List.foldl_nil, List.find?_nil, Option.map_none, Option.or_none]
  | cons item rest inductionHypothesis =>
    rw [List.foldl_cons, inductionHypothesis, steps]
    by_cases same : keyOf item = key
    · rw [List.find?_cons_of_pos (by simpa using same), Option.map_some]
      subst same
      split
      · rename_i present
        obtain ⟨value, found⟩ := Option.isSome_iff_exists.mp present
        rw [found, Option.some_or, Option.some_or]
      · rename_i missing
        rw [AList.lookup_insert, Option.some_or, Option.not_isSome_iff_eq_none.mp missing,
          Option.none_or]
    · rw [List.find?_cons_of_neg (by simpa using same)]
      split
      · rfl
      · rw [AList.lookup_insert_ne fun equal => same equal.symm]

/-! ### Partial unique indexes -/

variable {Index : Type*}

/-- A partial unique index: a value is in the index where `index` gives an entry, and no two
keys have one entry. -/
def UniqueBy (index : Value → Option Index) (map : KeyMap Key Value) : Prop :=
  ∀ first second one two entry, map.lookup first = some one → map.lookup second = some two →
    index one = some entry → index two = some entry → first = second

theorem uniqueBy_empty (index : Value → Option Index) :
    UniqueBy index (∅ : KeyMap Key Value) := by
  intro first second one two entry found
  rw [AList.lookup_empty] at found
  cases found

/-- Writing a value keeps the index unique exactly if its entry is not taken under another
key. -/
theorem uniqueBy_insert_iff {index : Value → Option Index} {map : KeyMap Key Value}
    (unique : map.UniqueBy index) (key : Key) (value : Value) :
    UniqueBy index (map.insert key value) ↔
      ¬∃ entry other taken, index value = some entry ∧ other ≠ key ∧
        map.lookup other = some taken ∧ index taken = some entry := by
  constructor
  · rintro after ⟨entry, other, taken, inIndex, different, found, conflict⟩
    exact different (after other key taken value entry
      ((AList.lookup_insert_ne different).trans found) (AList.lookup_insert _) conflict inIndex)
  · intro free first second one two entry foundOne foundTwo inOne inTwo
    rcases lookup_insert_eq_some foundOne with ⟨atKey, rfl⟩ | ⟨notKey, oldOne⟩
    · rcases lookup_insert_eq_some foundTwo with ⟨alsoKey, rfl⟩ | ⟨other, oldTwo⟩
      · rw [atKey, alsoKey]
      · exact absurd ⟨entry, second, two, inOne, other, oldTwo, inTwo⟩ free
    · rcases lookup_insert_eq_some foundTwo with ⟨alsoKey, rfl⟩ | ⟨other, oldTwo⟩
      · exact absurd ⟨entry, first, one, inTwo, notKey, oldOne, inOne⟩ free
      · exact unique first second one two entry oldOne oldTwo inOne inTwo

end KeyMap
