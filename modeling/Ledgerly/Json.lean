/-
This file models `serde_json::Value`, the type every sync payload has on the
server, with the readers the sync handlers use: `get`, `as_str`, `as_array` and
the map's `insert`.

A number is kept as its literal text, so that every literal is covered. The sync
handlers read no number from a payload; the one reader of numbers is the job that
books recurring transactions.
-/

import Ledgerly.Text

namespace Ledgerly

/-- `serde_json::Value`. -/
inductive Json where
  | null
  | bool (value : Bool)
  | num (literal : String)
  | str (value : String)
  | arr (items : List Json)
  | obj (fields : List (String × Json))

namespace Json

/-- `Value::get` with a string index: `None` on every value that is not an object. -/
def get? : Json → String → Option Json
  | .obj fields, key => fields.lookup key
  | _, _ => none

/-- `Value::as_str`. -/
def asStr? : Json → Option String
  | .str value => some value
  | _ => none

/-- `Value::as_array`. -/
def asArray? : Json → Option (List Json)
  | .arr items => some items
  | _ => none

/-- `Map::insert`: the value of a present key is replaced, a new key is added. -/
def insertField (key : String) (value : Json) : List (String × Json) → List (String × Json)
  | [] => [(key, value)]
  | field :: rest =>
    if key = field.1 then (key, value) :: rest else field :: insertField key value rest

/-- `Map::insert` under `as_object_mut`: values that are not objects stay as they are. -/
def insert (payload : Json) (key : String) (value : Json) : Json :=
  match payload with
  | .obj fields => .obj (insertField key value fields)
  | other => other

/-- An optional text in the form `serde_json` and `jsonEncode` give it. -/
def ofOption : Option String → Json
  | some value => .str value
  | none => .null

/-- `Map::contains_key` under `as_object`. -/
def containsKey (payload : Json) (key : String) : Bool := (payload.get? key).isSome

/-- The number of elements of the array under a key. -/
def arrayLength (payload : Json) (key : String) : Nat :=
  (((payload.get? key).bind asArray?).getD []).length

theorem lookup_insertField_self (key : String) (value : Json) (fields : List (String × Json)) :
    (insertField key value fields).lookup key = some value := by
  induction fields with
  | nil => simp [insertField]
  | cons field rest inductionHypothesis =>
    obtain ⟨name, old⟩ := field
    unfold insertField
    split
    · simp
    · rename_i different
      rw [List.lookup_cons, beq_false_of_ne different]
      exact inductionHypothesis

theorem lookup_insertField_of_ne (key other : String) (value : Json)
    (fields : List (String × Json)) (different : other ≠ key) :
    (insertField key value fields).lookup other = fields.lookup other := by
  induction fields with
  | nil => simp [insertField, different]
  | cons field rest inductionHypothesis =>
    obtain ⟨name, old⟩ := field
    unfold insertField
    split
    · rename_i same
      subst same
      rw [List.lookup_cons, List.lookup_cons, beq_false_of_ne different]
    · rw [List.lookup_cons, List.lookup_cons, inductionHypothesis]

/-- Inserting a field changes no other field. -/
@[simp] theorem get?_insert_of_ne (payload : Json) (key other : String) (value : Json)
    (different : other ≠ key) : (payload.insert key value).get? other = payload.get? other := by
  cases payload with
  | obj fields => exact lookup_insertField_of_ne key other value fields different
  | _ => rfl

/-- An inserted field is read back, in an object. -/
theorem get?_insert_self (fields : List (String × Json)) (key : String) (value : Json) :
    ((Json.obj fields).insert key value).get? key = some value :=
  lookup_insertField_self key value fields

/-- Only an object has fields. -/
theorem exists_obj_of_get? {payload field : Json} {key : String}
    (found : payload.get? key = some field) : ∃ fields, payload = .obj fields := by
  cases payload with
  | obj fields => exact ⟨fields, rfl⟩
  | _ => exact absurd found (by simp [get?])

theorem insertField_insertField (key : String) (first second : Json)
    (fields : List (String × Json)) :
    insertField key second (insertField key first fields) = insertField key second fields := by
  induction fields with
  | nil => exact if_pos rfl
  | cons field rest inductionHypothesis =>
    by_cases same : key = field.1
    · rw [insertField, if_pos same, insertField, if_pos rfl, insertField, if_pos same]
    · rw [insertField, if_neg same, insertField, if_neg same, inductionHypothesis, insertField,
        if_neg same]

theorem insertField_of_lookup {key : String} {value : Json} {fields : List (String × Json)}
    (found : fields.lookup key = some value) : insertField key value fields = fields := by
  induction fields with
  | nil => cases found
  | cons field rest inductionHypothesis =>
    obtain ⟨name, old⟩ := field
    rw [List.lookup_cons] at found
    by_cases same : key = name
    · subst same
      rw [beq_self_eq_true] at found
      obtain rfl := Option.some.inj found
      rw [insertField, if_pos rfl]
    · rw [beq_false_of_ne same] at found
      rw [insertField, if_neg same, inductionHypothesis found]

/-- The last value that is inserted under a key stays. -/
theorem insert_insert (payload : Json) (key : String) (first second : Json) :
    (payload.insert key first).insert key second = payload.insert key second := by
  cases payload with
  | obj fields => exact congrArg Json.obj (insertField_insertField key first second fields)
  | _ => rfl

/-- Inserting the value that is there changes nothing. -/
theorem insert_of_get? {payload value : Json} {key : String}
    (found : payload.get? key = some value) : payload.insert key value = payload := by
  obtain ⟨fields, rfl⟩ := exists_obj_of_get? found
  exact congrArg Json.obj (insertField_of_lookup found)

@[simp] theorem asStr?_str (value : String) : (Json.str value).asStr? = some value := rfl

@[simp] theorem asArray?_arr (items : List Json) : (Json.arr items).asArray? = some items := rfl

theorem asStr?_eq_some {value : Json} {text : String} (read : value.asStr? = some text) :
    value = .str text := by
  cases value with
  | str value => exact congrArg Json.str (Option.some.inj read)
  | _ => cases read

theorem asArray?_eq_some {value : Json} {items : List Json}
    (read : value.asArray? = some items) : value = .arr items := by
  cases value with
  | arr values => exact congrArg Json.arr (Option.some.inj read)
  | _ => cases read

end Json

end Ledgerly
