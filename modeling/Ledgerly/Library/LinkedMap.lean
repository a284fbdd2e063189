/-
This file is about maps that keep the order in which their keys were first put: what a
scan of such a map sees is fixed, unlike that of a hash map. The last part compares two maps
key by key and brings the first to the second: what is put and what is removed when only the
values that are told apart are put.
-/

import Mathlib.Data.List.Nodup
import Mathlib.Data.List.Perm.Lattice

/-- A map with unique keys in the order in which they came. -/
structure LinkedMap (Key Value : Type*) where
  entries : List (Key × Value)
  nodup : (entries.map Prod.fst).Nodup

namespace LinkedMap

variable {Key Value : Type*}

/-- A map without entries. -/
def empty : LinkedMap Key Value := ⟨[], List.nodup_nil⟩

/-- The keys in their order, -/
def keys (map : LinkedMap Key Value) : List Key := map.entries.map Prod.fst

/-- and the values. -/
def values (map : LinkedMap Key Value) : List Value := map.entries.map Prod.snd

variable [DecidableEq Key]

/-- The value of a key. -/
def lookup (map : LinkedMap Key Value) (key : Key) : Option Value :=
  (map.entries.find? fun entry => entry.1 = key).map Prod.snd

/-- A present key keeps its place and gets the value, a new key comes last. -/
def put (map : LinkedMap Key Value) (key : Key) (value : Value) : LinkedMap Key Value :=
  if present : key ∈ map.entries.map Prod.fst then
    { entries := map.entries.map fun entry => if entry.1 = key then (key, value) else entry
      nodup := by
        have same : (map.entries.map fun entry => if entry.1 = key then (key, value) else entry).map
            Prod.fst = map.entries.map Prod.fst := by
          rw [List.map_map]
          refine List.map_congr_left fun entry _ => ?_
          by_cases equal : entry.1 = key
          · rw [Function.comp_apply, if_pos equal, equal]
          · rw [Function.comp_apply, if_neg equal]
        rw [same]
        exact map.nodup }
  else
    { entries := map.entries ++ [(key, value)]
      nodup := by
        rw [List.map_append, List.nodup_append]
        refine ⟨map.nodup, List.nodup_singleton _, fun old member new last => ?_⟩
        rw [List.map_singleton, List.mem_singleton] at last
        rintro rfl
        rw [last] at member
        exact present member }

/-- The map without a key. The others keep their order. -/
def remove (map : LinkedMap Key Value) (key : Key) : LinkedMap Key Value where
  entries := map.entries.filter fun entry => entry.1 ≠ key
  nodup := map.nodup.sublist (List.filter_sublist.map _)

/-! ### What a map holds -/

theorem lookup_eq_some_iff {map : LinkedMap Key Value} {key : Key} {value : Value} :
    map.lookup key = some value ↔ (key, value) ∈ map.entries := by
  obtain ⟨entries, nodup⟩ := map
  unfold lookup
  dsimp only
  induction entries with
  | nil => exact ⟨nofun, nofun⟩
  | cons entry rest inductionHypothesis =>
    rw [List.map_cons, List.nodup_cons] at nodup
    by_cases same : entry.1 = key
    · rw [List.find?_cons_of_pos (by simpa using same), Option.map_some, Option.some.injEq,
        List.mem_cons]
      refine ⟨fun equal => Or.inl (Prod.ext same.symm equal.symm), ?_⟩
      rintro (equal | member)
      · rw [← equal]
      · exact absurd (List.mem_map.mpr ⟨(key, value), member, rfl⟩) (same ▸ nodup.1)
    · rw [List.find?_cons_of_neg (by simpa using same), inductionHypothesis nodup.2, List.mem_cons]
      refine ⟨Or.inr, ?_⟩
      rintro (equal | member)
      · exact absurd (congrArg Prod.fst equal).symm same
      · exact member

theorem mem_keys_iff {map : LinkedMap Key Value} {key : Key} :
    key ∈ map.keys ↔ (map.lookup key).isSome := by
  rw [keys, List.mem_map, Option.isSome_iff_exists]
  constructor
  · rintro ⟨entry, member, rfl⟩
    exact ⟨entry.2, lookup_eq_some_iff.mpr member⟩
  · rintro ⟨value, found⟩
    exact ⟨(key, value), lookup_eq_some_iff.mp found, rfl⟩

theorem lookup_eq_none_iff {map : LinkedMap Key Value} {key : Key} :
    map.lookup key = none ↔ key ∉ map.keys := by
  rw [mem_keys_iff, Option.isSome_iff_ne_none, not_not]

theorem mem_values_iff {map : LinkedMap Key Value} {value : Value} :
    value ∈ map.values ↔ ∃ key, map.lookup key = some value := by
  simp only [values, List.mem_map, lookup_eq_some_iff]
  exact ⟨fun ⟨entry, member, equal⟩ => ⟨entry.1, equal ▸ member⟩,
    fun ⟨key, member⟩ => ⟨(key, value), member, rfl⟩⟩

/-- Maps that hold the same list the same values, in some order. -/
theorem values_perm {one two : LinkedMap Key Value}
    (same : ∀ key, one.lookup key = two.lookup key) : one.values.Perm two.values := by
  refine List.Perm.map _ ((List.perm_ext_iff_of_nodup ?_ ?_).mpr ?_)
  · exact one.nodup.of_map _
  · exact two.nodup.of_map _
  · rintro ⟨key, value⟩
    rw [← lookup_eq_some_iff, ← lookup_eq_some_iff, same]

/-- Where a value gives its key away, the values alone tell what the maps hold. -/
theorem values_perm_iff {one two : LinkedMap Key Value} (keyOf : Value → Key)
    (named : ∀ key value, one.lookup key = some value ∨ two.lookup key = some value →
      keyOf value = key) :
    one.values.Perm two.values ↔ ∀ key, one.lookup key = two.lookup key := by
  refine ⟨fun perm key => Option.ext fun value => ?_, values_perm⟩
  constructor
  · intro held
    obtain ⟨other, found⟩ := mem_values_iff.mp (perm.mem_iff.mp (mem_values_iff.mpr ⟨key, held⟩))
    rwa [← named key value (Or.inl held), named other value (Or.inr found)]
  · intro held
    obtain ⟨other, found⟩ := mem_values_iff.mp (perm.mem_iff.mpr (mem_values_iff.mpr ⟨key, held⟩))
    rwa [← named key value (Or.inr held), named other value (Or.inl found)]

@[simp]
theorem lookup_empty (key : Key) : (empty : LinkedMap Key Value).lookup key = none := rfl

theorem lookup_put (map : LinkedMap Key Value) (key other : Key) (value : Value) :
    (map.put key value).lookup other = if other = key then some value else map.lookup other := by
  ext found
  rw [lookup_eq_some_iff]
  unfold put
  by_cases present : key ∈ map.entries.map Prod.fst
  · rw [dif_pos present]
    dsimp only
    rw [List.mem_map]
    by_cases same : other = key
    · rw [if_pos same, Option.some.injEq]
      constructor
      · rintro ⟨entry, member, equal⟩
        by_cases here : entry.1 = key
        · rw [if_pos here] at equal
          exact congrArg Prod.snd equal
        · rw [if_neg here] at equal
          exact absurd ((congrArg Prod.fst equal).trans same) here
      · rintro rfl
        obtain ⟨entry, member, here⟩ := List.mem_map.mp present
        exact ⟨entry, member, by rw [if_pos here, same]⟩
    · rw [if_neg same, lookup_eq_some_iff]
      constructor
      · rintro ⟨entry, member, equal⟩
        by_cases here : entry.1 = key
        · rw [if_pos here] at equal
          exact absurd (congrArg Prod.fst equal).symm same
        · rw [if_neg here] at equal
          exact equal ▸ member
      · exact fun member => ⟨(other, found), member, if_neg same⟩
  · rw [dif_neg present]
    dsimp only
    rw [List.mem_append, List.mem_singleton]
    by_cases same : other = key
    · rw [if_pos same, Option.some.injEq, Prod.mk.injEq]
      constructor
      · rintro (member | ⟨-, equal⟩)
        · exact absurd (List.mem_map.mpr ⟨(other, found), member, same⟩) present
        · exact equal.symm
      · exact fun equal => Or.inr ⟨same, equal.symm⟩
    · rw [if_neg same, lookup_eq_some_iff, Prod.mk.injEq]
      exact ⟨fun member => member.resolve_right fun equal => same equal.1, Or.inl⟩

/-- A new key comes last. -/
theorem entries_put_of_lookup_eq_none {map : LinkedMap Key Value} {key : Key}
    (new : map.lookup key = none) (value : Value) :
    (map.put key value).entries = map.entries ++ [(key, value)] := by
  have absent : key ∉ map.entries.map Prod.fst := lookup_eq_none_iff.mp new
  unfold put
  rw [dif_neg absent]

theorem lookup_remove (map : LinkedMap Key Value) (key other : Key) :
    (map.remove key).lookup other = if other = key then none else map.lookup other := by
  ext found
  rw [lookup_eq_some_iff, remove, List.mem_filter, ← lookup_eq_some_iff]
  by_cases same : other = key
  · simp [same]
  · simp [same]

/-- Keys removed one after the other. -/
theorem lookup_foldl_remove (map : LinkedMap Key Value) (removed : List Key) (key : Key) :
    (removed.foldl remove map).lookup key = if key ∈ removed then none else map.lookup key := by
  induction removed generalizing map with
  | nil => rw [List.foldl_nil, if_neg List.not_mem_nil]
  | cons first rest inductionHypothesis =>
    rw [List.foldl_cons, inductionHypothesis, lookup_remove]
    by_cases later : key ∈ rest
    · rw [if_pos later, if_pos (List.mem_cons_of_mem _ later)]
    · by_cases same : key = first
      · rw [if_neg later, if_pos same, if_pos (same ▸ List.mem_cons_self)]
      · rw [if_neg later, if_neg same, if_neg (by simp [same, later])]

/-- Entries of another map put one after the other. -/
theorem lookup_foldl_put (map : LinkedMap Key Value) (added : List (Key × Value))
    (distinct : (added.map Prod.fst).Nodup) (key : Key) :
    (added.foldl (fun map entry => map.put entry.1 entry.2) map).lookup key =
      ((LinkedMap.mk added distinct).lookup key).or (map.lookup key) := by
  induction added generalizing map with
  | nil => rfl
  | cons first rest inductionHypothesis =>
    have notLater := (List.nodup_cons.mp distinct).1
    rw [List.foldl_cons, inductionHypothesis _ (List.nodup_cons.mp distinct).2, lookup_put]
    unfold lookup
    dsimp only
    by_cases same : key = first.1
    · rw [List.find?_cons_of_pos (by simpa using same.symm), if_pos same,
        List.find?_eq_none.mpr fun entry member => ?_]
      · rfl
      · simp only [decide_eq_true_eq]
        rintro rfl
        exact notLater (List.mem_map.mpr ⟨entry, member, same⟩)
    · rw [List.find?_cons_of_neg (by simpa using Ne.symm same), if_neg same]

/-! ### Differences -/

variable {base current : LinkedMap Key Value}

/-- The entries of the current map that the base has not, as far as the test tells. -/
def changed (same : Value → Value → Bool) (current base : LinkedMap Key Value) :
    List (Key × Value) :=
  current.entries.filter fun entry => !((base.lookup entry.1).any fun old => same old entry.2)

/-- The keys of the base that the current map has not. -/
def missing (current base : LinkedMap Key Value) : List Key :=
  base.keys.filter fun key => (current.lookup key).isNone

theorem changed_nodup (same : Value → Value → Bool) (current base : LinkedMap Key Value) :
    ((current.changed same base).map Prod.fst).Nodup :=
  current.nodup.sublist (List.filter_sublist.map _)

theorem mem_missing_iff {key : Key} :
    key ∈ current.missing base ↔ (base.lookup key).isSome ∧ current.lookup key = none := by
  rw [missing, List.mem_filter, mem_keys_iff, Option.isNone_iff_eq_none]

theorem lookup_changed (same : Value → Value → Bool) (current base : LinkedMap Key Value)
    (key : Key) :
    (LinkedMap.mk _ (current.changed_nodup same base)).lookup key =
      (current.lookup key).filter fun value => !((base.lookup key).any fun old => same old value) := by
  ext value
  rw [lookup_eq_some_iff]
  show (key, value) ∈ current.entries.filter _ ↔ _
  rw [List.mem_filter, ← lookup_eq_some_iff, Option.filter_eq_some_iff]

/-- The base without its missing keys and with what changed holds what the current map
holds, if the test tells all values apart. -/
theorem lookup_patch {same : Value → Value → Bool}
    (tells : ∀ old new, base.lookup key = some old → current.lookup key = some new →
      same old new → old = new) :
    ((current.changed same base).foldl (fun map entry => map.put entry.1 entry.2)
      ((current.missing base).foldl remove base)).lookup key = current.lookup key := by
  rw [lookup_foldl_put _ _ (current.changed_nodup same base), lookup_changed, lookup_foldl_remove]
  cases now : current.lookup key with
  | none =>
    rw [Option.filter_none, Option.none_or]
    by_cases member : key ∈ current.missing base
    · rw [if_pos member]
    · rw [if_neg member]
      by_contra held
      exact member (mem_missing_iff.mpr ⟨Option.isSome_iff_ne_none.mpr held, now⟩)
  | some new =>
    have stays : key ∉ current.missing base := fun member =>
      absurd ((mem_missing_iff.mp member).2.symm.trans now) nofun
    rw [if_neg stays]
    cases before : base.lookup key with
    | none => rfl
    | some old =>
      cases equal : same old new with
      | true =>
        obtain rfl := tells old new before now equal
        simp [Option.filter, equal]
      | false => simp [Option.filter, equal]

/-! ### The order of a patched map -/

theorem keys_put (map : LinkedMap Key Value) (key : Key) (value : Value) :
    (map.put key value).keys = map.keys ++ if key ∈ map.keys then [] else [key] := by
  by_cases present : key ∈ map.entries.map Prod.fst
  · rw [if_pos (show key ∈ map.keys from present), List.append_nil, put, dif_pos present, keys, keys,
      List.map_map]
    refine List.map_congr_left fun entry _ => ?_
    by_cases equal : entry.1 = key
    · rw [Function.comp_apply, if_pos equal, equal]
    · rw [Function.comp_apply, if_neg equal]
  · rw [if_neg (show key ∉ map.keys from present), put, dif_neg present, keys, keys, List.map_append]
    rfl

theorem keys_foldl_put (map : LinkedMap Key Value) (added : List (Key × Value))
    (distinct : (added.map Prod.fst).Nodup) :
    (added.foldl (fun map entry => map.put entry.1 entry.2) map).keys =
      map.keys ++ (added.map Prod.fst).filter fun key => key ∉ map.keys := by
  induction added generalizing map with
  | nil => exact (List.append_nil _).symm
  | cons first rest inductionHypothesis =>
    obtain ⟨notLater, others⟩ := List.nodup_cons.mp distinct
    rw [List.foldl_cons, inductionHypothesis _ others, keys_put, List.map_cons, List.append_assoc]
    congr 1
    -- The keys that follow are others than the first.
    have same : (rest.map Prod.fst).filter (fun key =>
          decide (key ∉ map.keys ++ if first.1 ∈ map.keys then [] else [first.1])) =
        (rest.map Prod.fst).filter fun key => decide (key ∉ map.keys) := by
      refine List.filter_congr fun key member => ?_
      have other : key ≠ first.1 := fun equal => notLater (equal ▸ member)
      by_cases present : first.1 ∈ map.keys
      · rw [if_pos present, List.append_nil]
      · rw [if_neg present]
        simp [other]
    rw [same]
    by_cases present : first.1 ∈ map.keys
    · rw [if_pos present, List.filter_cons_of_neg (by simpa using present)]
      rfl
    · rw [if_neg present, List.filter_cons_of_pos (by simpa using present)]
      rfl

theorem keys_foldl_remove (map : LinkedMap Key Value) (removed : List Key) :
    (removed.foldl remove map).keys = map.keys.filter fun key => key ∉ removed := by
  induction removed generalizing map with
  | nil => simp
  | cons first rest inductionHypothesis =>
    rw [List.foldl_cons, inductionHypothesis, keys, keys, remove, List.filter_map, List.filter_filter,
      List.filter_map]
    congr 1
    refine List.filter_congr fun entry _ => ?_
    simp [Bool.and_comm]

theorem values_eq (map : LinkedMap Key Value) : map.values = map.keys.filterMap map.lookup := by
  rw [values, keys, List.filterMap_map, ← List.filterMap_eq_map]
  refine List.filterMap_congr fun entry member => ?_
  exact (lookup_eq_some_iff.mpr member).symm

/-- A patched map keeps the order of the base, and what is new comes last. -/
theorem values_patch {same : Value → Value → Bool}
    (tells : ∀ key old new, base.lookup key = some old → current.lookup key = some new →
      same old new → old = new) :
    ((current.changed same base).foldl (fun map entry => map.put entry.1 entry.2)
      ((current.missing base).foldl remove base)).values =
    base.keys.filterMap current.lookup ++
      (current.keys.filter fun key => key ∉ base.keys).filterMap current.lookup := by
  have kept : ((current.missing base).foldl remove base).keys =
      base.keys.filter fun key => (current.lookup key).isSome := by
    rw [keys_foldl_remove]
    refine List.filter_congr fun key member => ?_
    rw [Bool.eq_iff_iff, decide_eq_true_iff, mem_missing_iff, ← Option.isNone_iff_eq_none]
    simp [mem_keys_iff.mp member, Option.isSome_iff_ne_none]
  have patched : ((current.changed same base).foldl (fun map entry => map.put entry.1 entry.2)
      ((current.missing base).foldl remove base)).lookup = current.lookup :=
    funext fun key => lookup_patch (tells key)
  rw [values_eq, patched, keys_foldl_put _ _ (current.changed_nodup same base), kept,
    List.filterMap_append]
  congr 1
  · rw [List.filterMap_filter]
    refine List.filterMap_congr fun key _ => ?_
    cases current.lookup key with
    | none => rfl
    | some value => rfl
  · congr 1
    have listed : current.keys = current.entries.map Prod.fst := rfl
    rw [changed, List.filter_map, List.filter_filter, listed, List.filter_map]
    congr 1
    refine List.filter_congr fun entry member => ?_
    have held := lookup_eq_some_iff.mpr member
    by_cases old : entry.1 ∈ base.keys
    · simp [old, held]
    · simp [old, lookup_eq_none_iff.mpr old]

/-! ### Overlays -/

/-- Entries with new keys come last, in their order. -/
theorem entries_foldl_put (map : LinkedMap Key Value) (added : List (Key × Value))
    (distinct : (map.keys ++ added.map Prod.fst).Nodup) :
    (added.foldl (fun map entry => map.put entry.1 entry.2) map).entries = map.entries ++ added := by
  induction added generalizing map with
  | nil => exact (List.append_nil _).symm
  | cons first rest inductionHypothesis =>
    rw [List.map_cons] at distinct
    have new : map.lookup first.1 = none := lookup_eq_none_iff.mpr fun member =>
      (List.nodup_append.mp distinct).2.2 _ member _ List.mem_cons_self rfl
    have entries := entries_put_of_lookup_eq_none new first.2
    have keys : (map.put first.1 first.2).keys = map.keys ++ [first.1] := by
      rw [LinkedMap.keys, entries, List.map_append]
      rfl
    rw [List.foldl_cons, inductionHypothesis _ (by rw [keys, List.append_assoc]; exact distinct),
      entries, List.append_assoc]
    rfl

theorem foldl_put_empty (added : List (Key × Value)) (distinct : (added.map Prod.fst).Nodup) :
    added.foldl (fun (map : LinkedMap Key Value) entry => map.put entry.1 entry.2) empty =
      ⟨added, distinct⟩ := by
  have listed := entries_foldl_put empty added distinct
  cases made : added.foldl (fun (map : LinkedMap Key Value) entry => map.put entry.1 entry.2) empty
    with
  | mk entries nodup =>
    rw [made] at listed
    obtain rfl : entries = added := listed
    rfl

/-- Some entries of a map put over another, and keys removed. -/
theorem lookup_overlay (base current : LinkedMap Key Value) (chosen : Key → Bool)
    (removed : List Key) (key : Key) :
    (removed.foldl remove ((current.entries.filter fun entry => chosen entry.1).foldl
      (fun map entry => map.put entry.1 entry.2) base)).lookup key =
    if key ∈ removed then none
    else if chosen key then (current.lookup key).or (base.lookup key) else base.lookup key := by
  have distinct : ((current.entries.filter fun entry => chosen entry.1).map Prod.fst).Nodup :=
    current.nodup.sublist (List.filter_sublist.map _)
  have put : (LinkedMap.mk _ distinct).lookup key =
      if chosen key then current.lookup key else none := by
    ext value
    rw [lookup_eq_some_iff]
    show (key, value) ∈ current.entries.filter _ ↔ _
    rw [List.mem_filter, ← lookup_eq_some_iff]
    cases chosen key with
    | true => simp
    | false => simp
  rw [lookup_foldl_remove, lookup_foldl_put _ _ distinct, put]
  cases chosen key with
  | true => rfl
  | false => rfl

end LinkedMap
