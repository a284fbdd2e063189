/-
This file is about logs whose entries each act on one key of a map.

An entry says what becomes of the value under its key, given the value that is there,
if any. Replaying a log then never mixes keys: what it leaves under a key is what the
entries of that key do to what was there, in the order of the log.
-/

import Ledgerly.Library.KeyMap

namespace KeyedLog

variable {Entry Key Value : Type*} [DecidableEq Key]

/-- Put a value under a key, or clear the key. -/
def write (map : KeyMap Key Value) (key : Key) : Option Value → KeyMap Key Value
  | some value => map.insert key value
  | none => map.erase key

theorem lookup_write (map : KeyMap Key Value) (key other : Key) (value : Option Value) :
    (write map key value).lookup other = if other = key then value else map.lookup other := by
  cases value with
  | some value => exact KeyMap.lookup_insert_eq map key other value
  | none =>
    rw [write]
    by_cases same : other = key
    · rw [if_pos same, same, AList.lookup_erase]
    · rw [if_neg same, AList.lookup_erase_ne same]

variable (keyOf : Entry → Key) (act : Entry → Option Value → Option Value)

/-- One entry, applied to a map. -/
def applyEntry (map : KeyMap Key Value) (entry : Entry) : KeyMap Key Value :=
  write map (keyOf entry) (act entry (map.lookup (keyOf entry)))

/-- A whole log, applied to a map. -/
def replay (map : KeyMap Key Value) (log : List Entry) : KeyMap Key Value :=
  log.foldl (applyEntry keyOf act) map

theorem replay_append (map : KeyMap Key Value) (before after : List Entry) :
    replay keyOf act map (before ++ after) =
      replay keyOf act (replay keyOf act map before) after :=
  List.foldl_append

theorem lookup_applyEntry (map : KeyMap Key Value) (entry : Entry) (key : Key) :
    (applyEntry keyOf act map entry).lookup key =
      if key = keyOf entry then act entry (map.lookup key) else map.lookup key := by
  rw [applyEntry, lookup_write]
  by_cases same : key = keyOf entry
  · rw [if_pos same, if_pos same, same]
  · rw [if_neg same, if_neg same]

/-- The value a replay leaves under a key depends on the entries of that key only. -/
theorem lookup_replay (map : KeyMap Key Value) (log : List Entry) (key : Key) :
    (replay keyOf act map log).lookup key =
      (log.filter fun entry => keyOf entry = key).foldl (fun value entry => act entry value)
        (map.lookup key) := by
  induction log generalizing map with
  | nil => rfl
  | cons entry rest inductionHypothesis =>
    have stepped := inductionHypothesis (applyEntry keyOf act map entry)
    rw [lookup_applyEntry] at stepped
    refine stepped.trans ?_
    by_cases same : keyOf entry = key
    · rw [List.filter_cons_of_pos (by simpa using same), if_pos same.symm, List.foldl_cons]
    · rw [List.filter_cons_of_neg (by simpa using same), if_neg fun equal => same equal.symm]

/-- A key no entry acts on keeps its value. -/
theorem lookup_replay_of_forall_ne (map : KeyMap Key Value) (log : List Entry) (key : Key)
    (others : ∀ entry ∈ log, keyOf entry ≠ key) :
    (replay keyOf act map log).lookup key = map.lookup key := by
  have none : (log.filter fun entry => keyOf entry = key) = [] :=
    List.filter_eq_nil_iff.mpr fun entry member => by simpa using others entry member
  rw [lookup_replay, none, List.foldl_nil]

/-- The last entry of a key decides, if it does not look at what was there. -/
theorem lookup_replay_last (map : KeyMap Key Value) (before rest : List Entry) (entry : Entry)
    (last : ∀ later ∈ rest, keyOf later ≠ keyOf entry) {value : Option Value}
    (sets : ∀ known, act entry known = value) :
    (replay keyOf act map (before ++ entry :: rest)).lookup (keyOf entry) = value := by
  have tail : replay keyOf act map (before ++ entry :: rest) =
      replay keyOf act (applyEntry keyOf act (replay keyOf act map before) entry) rest :=
    replay_append keyOf act map before (entry :: rest)
  rw [tail, lookup_replay_of_forall_ne keyOf act _ rest _ last, lookup_applyEntry, if_pos rfl, sets]

/-- One more entry changes its own key only. -/
theorem lookup_replay_concat (map : KeyMap Key Value) (log : List Entry) (entry : Entry)
    (key : Key) :
    (replay keyOf act map (log ++ [entry])).lookup key =
      if key = keyOf entry then act entry ((replay keyOf act map log).lookup key)
      else (replay keyOf act map log).lookup key := by
  rw [replay_append]
  exact lookup_applyEntry keyOf act _ entry key

/-! ### What a log does to one key -/

/-- What the entries of a key leave of what was there, in the order of the log. -/
def fate (log : List Entry) (key : Key) (value : Option Value) : Option Value :=
  (log.filter fun entry => keyOf entry = key).foldl (fun value entry => act entry value) value

theorem lookup_replay_fate (map : KeyMap Key Value) (log : List Entry) (key : Key) :
    (replay keyOf act map log).lookup key = fate keyOf act log key (map.lookup key) :=
  lookup_replay keyOf act map log key

theorem fate_append (before after : List Entry) (key : Key) (value : Option Value) :
    fate keyOf act (before ++ after) key value =
      fate keyOf act after key (fate keyOf act before key value) := by
  rw [fate, List.filter_append, List.foldl_append]
  rfl

/-- A key no entry acts on keeps what was there. -/
theorem fate_of_forall_ne {log : List Entry} {key : Key}
    (others : ∀ entry ∈ log, keyOf entry ≠ key) (value : Option Value) :
    fate keyOf act log key value = value := by
  have none : (log.filter fun entry => keyOf entry = key) = [] :=
    List.filter_eq_nil_iff.mpr fun entry member => by simpa using others entry member
  rw [fate, none, List.foldl_nil]

/-- Where no entry looks at what was there, one entry of the key is enough for the log to decide
alone. -/
theorem fate_congr_of_mem {log : List Entry} {key : Key}
    (sets : ∀ entry ∈ log, ∀ known other, act entry known = act entry other)
    (acted : ∃ entry ∈ log, keyOf entry = key) (value other : Option Value) :
    fate keyOf act log key value = fate keyOf act log key other := by
  obtain ⟨entry, member, isKey⟩ := acted
  obtain ⟨before, after, rfl⟩ := List.append_of_mem member
  rw [fate_append, fate_append keyOf act before]
  have kept : (entry :: after).filter (fun entry => decide (keyOf entry = key)) =
      entry :: after.filter fun entry => decide (keyOf entry = key) :=
    List.filter_cons_of_pos (by simpa using isKey)
  have decided : ∀ known, fate keyOf act (entry :: after) key known =
      fate keyOf act after key (act entry known) := by
    intro known
    rw [fate, kept, List.foldl_cons, fate]
  rw [decided, decided, sets entry member _ (fate keyOf act before key other)]

end KeyedLog
