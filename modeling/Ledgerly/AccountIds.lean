/-
This file follows an account id from the device to the server and back.

The ids of one book are renamed to those of another by their prefix, and the renaming is a
bijection between the two, whatever the books are called: that one is the prefix of the other
does not matter, because the prefix that is stripped ends in the colon. The payloads are renamed
entry by entry and come back as they were, with one exception: a transaction payload without
a list under `entries` comes back with an empty one.
-/

import Ledgerly.SyncService

namespace Ledgerly

/-- The account ids that are scoped to a book. -/
def scopedIds (bookId : String) : Set String :=
  {id | ∃ key, id = bookId ++ ":" ++ key}

/-- Two objects with the same keys in the same order and, at all keys but one, the same values. -/
def Json.SameBut (key : String) : Json → Json → Prop
  | .obj before, .obj after =>
    List.Forall₂ (fun old new => old.1 = new.1 ∧ (old.1 ≠ key → old.2 = new.2)) before after
  | _, _ => False

/-- An entry whose account is scoped to a book. -/
def Json.EntryOf (bookId : String) (entry : Json) : Prop :=
  ∃ id ∈ scopedIds bookId, entry.get? "accountId" = some (.str id)

/-- A transaction payload whose accounts are scoped to a book. -/
def Json.TransactionOf (bookId : String) (payload : Json) (items : List Json) : Prop :=
  payload.get? "entries" = some (.arr items) ∧ ∀ item ∈ items, item.EntryOf bookId

/-- An account payload whose parent, if there is one, is scoped to a book. -/
def Json.AccountOf (bookId : String) (fields : List (String × Json)) : Prop :=
  ∀ parent, (Json.obj fields).get? "parentAccountId" = some parent →
    parent = .null ∨ ∃ id ∈ scopedIds bookId, parent = .str id

/-- What has become of an account id under a key. -/
def Json.RenamedAt (key fromBook toBook : String) (before after : Json) : Prop :=
  before.SameBut key after ∧
    ∀ id, before.get? key = some (.str id) →
      after.get? key = some (.str (rewriteAccountId id fromBook toBook))

/-! ### Objects -/

namespace Json

theorem sameBut_insert {payload old : Json} {key : String} (found : payload.get? key = some old)
    (new : Json) : payload.SameBut key (payload.insert key new) := by
  obtain ⟨fields, rfl⟩ := exists_obj_of_get? found
  have kept : ∀ rest : List (String × Json), List.Forall₂
      (fun old new : String × Json => old.1 = new.1 ∧ (old.1 ≠ key → old.2 = new.2)) rest rest :=
    fun rest => List.forall₂_same.mpr fun _ _ => ⟨rfl, fun _ => rfl⟩
  show List.Forall₂ _ fields (insertField key new fields)
  induction fields with
  | nil => cases found
  | cons field rest inductionHypothesis =>
    obtain ⟨name, value⟩ := field
    by_cases same : key = name
    · rw [insertField, if_pos same]
      exact .cons ⟨same.symm, fun different => absurd same.symm different⟩ (kept rest)
    · rw [insertField, if_neg same]
      have later : rest.lookup key = some old := by
        rwa [get?, List.lookup_cons, beq_false_of_ne same] at found
      exact .cons ⟨rfl, fun _ => rfl⟩ (inductionHypothesis later)

end Json

/-! ### Ids -/

section Renaming

variable (fromBook toBook : String)

theorem rewriteAccountId_scoped (key : String) :
    rewriteAccountId (fromBook ++ ":" ++ key) fromBook toBook = toBook ++ ":" ++ key := by
  rw [rewriteAccountId, stripPrefix_append]

/-- The renaming takes the ids of a book to those of the other. -/
theorem mapsTo_rewriteAccountId :
    Set.MapsTo (fun id => rewriteAccountId id fromBook toBook) (scopedIds fromBook)
      (scopedIds toBook) := by
  rintro _ ⟨key, rfl⟩
  exact ⟨key, rewriteAccountId_scoped fromBook toBook key⟩

/-- The renaming back undoes it. -/
theorem leftInvOn_rewriteAccountId :
    Set.LeftInvOn (fun id => rewriteAccountId id toBook fromBook)
      (fun id => rewriteAccountId id fromBook toBook) (scopedIds fromBook) := by
  rintro _ ⟨key, rfl⟩
  show rewriteAccountId (rewriteAccountId _ fromBook toBook) toBook fromBook = _
  rw [rewriteAccountId_scoped, rewriteAccountId_scoped]

theorem bijOn_rewriteAccountId :
    Set.BijOn (fun id => rewriteAccountId id fromBook toBook) (scopedIds fromBook)
      (scopedIds toBook) :=
  Set.InvOn.bijOn ⟨leftInvOn_rewriteAccountId fromBook toBook,
    leftInvOn_rewriteAccountId toBook fromBook⟩ (mapsTo_rewriteAccountId fromBook toBook)
    (mapsTo_rewriteAccountId toBook fromBook)

/-! ### Payloads -/

variable {fromBook toBook}

/-- An entry is renamed at its account, and comes back. -/
theorem rewriteEntry_back {entry : Json} (ofBook : entry.EntryOf fromBook) :
    ∃ sent, rewriteEntry fromBook toBook entry = some sent ∧
      entry.RenamedAt "accountId" fromBook toBook sent ∧
      rewriteEntry toBook fromBook sent = some entry := by
  obtain ⟨id, inBook, account⟩ := ofBook
  obtain ⟨fields, rfl⟩ := Json.exists_obj_of_get? account
  have sentId : ((Json.obj fields).insert "accountId"
      (.str (rewriteAccountId id fromBook toBook))).get? "accountId" =
        some (.str (rewriteAccountId id fromBook toBook)) := Json.get?_insert_self _ _ _
  refine ⟨_, by rw [rewriteEntry, account], ⟨Json.sameBut_insert account _, ?_⟩, ?_⟩
  · intro other same
    obtain rfl := Json.str.inj (Option.some.inj (account.symm.trans same))
    exact sentId
  · have back := leftInvOn_rewriteAccountId fromBook toBook inBook
    dsimp only at back
    rw [rewriteEntry, sentId]
    dsimp only
    rw [back, Json.insert_insert, Json.insert_of_get? account]

/-- The entries are renamed one by one, and come back. -/
theorem rewriteEntries_back {items : List Json} (ofBook : ∀ item ∈ items, item.EntryOf fromBook) :
    ∃ sent, items.mapM (rewriteEntry fromBook toBook) = some sent ∧
      List.Forall₂ (Json.RenamedAt "accountId" fromBook toBook) items sent ∧
      sent.mapM (rewriteEntry toBook fromBook) = some items := by
  induction items with
  | nil => exact ⟨[], List.mapM_nil, .nil, List.mapM_nil⟩
  | cons item rest inductionHypothesis =>
    obtain ⟨first, others⟩ := List.forall_mem_cons.mp ofBook
    obtain ⟨sentItem, made, renamed, back⟩ := @rewriteEntry_back fromBook toBook item first
    obtain ⟨sent, restMade, restRenamed, restBack⟩ := inductionHypothesis others
    rw [List.mapM_eq_some_iff] at restMade restBack
    exact ⟨sentItem :: sent, List.mapM_eq_some_iff.mpr (.cons made restMade),
      .cons renamed restRenamed, List.mapM_eq_some_iff.mpr (.cons back restBack)⟩

theorem rewriteTransactionPayload_of_list {payload : Json} {items sent : List Json}
    (listed : payload.get? "entries" = some (.arr items))
    (made : items.mapM (rewriteEntry fromBook toBook) = some sent) :
    rewriteTransactionPayload payload fromBook toBook =
      some (payload.insert "entries" (.arr sent)) := by
  obtain ⟨fields, rfl⟩ := Json.exists_obj_of_get? listed
  rw [rewriteTransactionPayload, entryList, listed]
  simp only [Option.bind_some, made, Option.map_some]

/-- A transaction payload with a list of entries comes back. -/
theorem rewriteTransactionPayload_back {payload : Json} {items : List Json}
    (ofBook : payload.TransactionOf fromBook items) :
    ∃ sent entries, rewriteTransactionPayload payload fromBook toBook = some sent ∧
      payload.SameBut "entries" sent ∧ sent.get? "entries" = some (.arr entries) ∧
      List.Forall₂ (Json.RenamedAt "accountId" fromBook toBook) items entries ∧
      rewriteTransactionPayload sent toBook fromBook = some payload := by
  obtain ⟨listed, each⟩ := ofBook
  obtain ⟨entries, made, renamed, back⟩ := @rewriteEntries_back fromBook toBook items each
  obtain ⟨fields, rfl⟩ := Json.exists_obj_of_get? listed
  have sentList := Json.get?_insert_self fields "entries" (.arr entries)
  refine ⟨_, entries, rewriteTransactionPayload_of_list listed made, Json.sameBut_insert listed _,
    sentList, renamed, ?_⟩
  rw [rewriteTransactionPayload_of_list sentList back, Json.insert_insert,
    Json.insert_of_get? listed]

/-- A transaction payload without a list of entries gets an empty one. -/
theorem rewriteTransactionPayload_unlisted {fields : List (String × Json)}
    (unlisted : (Json.obj fields).get? "entries" = none ∨
      (Json.obj fields).get? "entries" = some .null) :
    rewriteTransactionPayload (.obj fields) fromBook toBook =
      some ((Json.obj fields).insert "entries" (.arr [])) := by
  rcases unlisted with absent | isNull
  · rw [rewriteTransactionPayload, entryList, absent]
    rfl
  · rw [rewriteTransactionPayload, entryList, isNull]
    rfl

/-- An account payload comes back. -/
theorem rewriteAccountPayload_back {fields : List (String × Json)}
    (ofBook : Json.AccountOf fromBook fields) :
    ∃ sent, rewriteAccountPayload (.obj fields) fromBook toBook = some sent ∧
      (Json.obj fields).RenamedAt "parentAccountId" fromBook toBook sent ∧
      rewriteAccountPayload sent toBook fromBook = some (.obj fields) := by
  cases parent : (Json.obj fields).get? "parentAccountId" with
  | none =>
    have untouched : ∀ first second,
        rewriteAccountPayload (.obj fields) first second = some (.obj fields) := by
      intro first second
      rw [rewriteAccountPayload, parent]
    refine ⟨.obj fields, untouched _ _, ⟨?_, fun id found => ?_⟩, untouched _ _⟩
    · exact List.forall₂_same.mpr fun _ _ => ⟨rfl, fun _ => rfl⟩
    · cases parent.symm.trans found
  | some value =>
    rcases ofBook value parent with rfl | ⟨id, inBook, rfl⟩
    · have untouched : ∀ first second,
          rewriteAccountPayload (.obj fields) first second = some (.obj fields) := by
        intro first second
        rw [rewriteAccountPayload, parent]
        exact congrArg some (Json.insert_of_get? parent)
      refine ⟨.obj fields, untouched _ _, ⟨?_, fun id found => ?_⟩, untouched _ _⟩
      · exact List.forall₂_same.mpr fun _ _ => ⟨rfl, fun _ => rfl⟩
      · cases parent.symm.trans found
    · have sentParent := Json.get?_insert_self fields "parentAccountId"
        (.str (rewriteAccountId id fromBook toBook))
      have back := leftInvOn_rewriteAccountId fromBook toBook inBook
      dsimp only at back
      refine ⟨_, by rw [rewriteAccountPayload, parent], ⟨Json.sameBut_insert parent _, ?_⟩, ?_⟩
      · intro other same
        obtain rfl := Json.str.inj (Option.some.inj (parent.symm.trans same))
        exact sentParent
      · rw [Json.insert] at sentParent
        rw [Json.insert, rewriteAccountPayload, sentParent]
        dsimp only
        rw [back, ← Json.insert, Json.insert_insert, Json.insert_of_get? parent]

end Renaming

/-- For every two books: the ids scoped to the one are renamed to those scoped to the other, each
to one of its own, and come back. A transaction payload with a list of entries and an account
payload are the same on the way but for their account ids, and come back as they were. A
transaction payload without a list gets an empty one on the way and keeps it. -/
theorem account_ids_survive (localBook remoteBook : String) :
    Set.BijOn (fun id => rewriteAccountId id localBook remoteBook) (scopedIds localBook)
      (scopedIds remoteBook) ∧
    Set.LeftInvOn (fun id => rewriteAccountId id remoteBook localBook)
      (fun id => rewriteAccountId id localBook remoteBook) (scopedIds localBook) ∧
    (∀ payload items, payload.TransactionOf localBook items →
      ∃ sent entries, rewriteTransactionPayload payload localBook remoteBook = some sent ∧
        payload.SameBut "entries" sent ∧ sent.get? "entries" = some (.arr entries) ∧
        List.Forall₂ (Json.RenamedAt "accountId" localBook remoteBook) items entries ∧
        rewriteTransactionPayload sent remoteBook localBook = some payload) ∧
    (∀ fields, (Json.obj fields).get? "entries" = none ∨
        (Json.obj fields).get? "entries" = some .null →
      let sent := (Json.obj fields).insert "entries" (.arr [])
      rewriteTransactionPayload (.obj fields) localBook remoteBook = some sent ∧
        rewriteTransactionPayload sent remoteBook localBook = some sent) ∧
    (∀ fields, Json.AccountOf localBook fields →
      ∃ sent, rewriteAccountPayload (.obj fields) localBook remoteBook = some sent ∧
        (Json.obj fields).RenamedAt "parentAccountId" localBook remoteBook sent ∧
        rewriteAccountPayload sent remoteBook localBook = some (.obj fields)) := by
  refine ⟨bijOn_rewriteAccountId localBook remoteBook,
    leftInvOn_rewriteAccountId localBook remoteBook,
    fun payload items ofBook => rewriteTransactionPayload_back ofBook, fun fields unlisted => ?_,
    fun fields ofBook => rewriteAccountPayload_back ofBook⟩
  refine ⟨rewriteTransactionPayload_unlisted unlisted, ?_⟩
  rw [rewriteTransactionPayload_of_list (Json.get?_insert_self fields "entries" (.arr []))
    List.mapM_nil, Json.insert_insert]

/-- The entries of a lunch. -/
def lunchEntries : List Json :=
  [.obj [("accountId", .str "book:expense:food"), ("amountMinor", .str "1200")],
    .obj [("accountId", .str "book:asset:cash"), ("amountMinor", .str "-1200")]]

/-- A lunch in a book whose id is the beginning of that of the other. -/
theorem lunch_survives :
    ∃ sent entries, rewriteTransactionPayload
        (.obj [("entries", .arr lunchEntries), ("description", .str "Lunch")]) "book"
          "bookkeeping" = some sent ∧
      (Json.obj [("entries", .arr lunchEntries), ("description", .str "Lunch")]).SameBut
        "entries" sent ∧
      sent.get? "entries" = some (.arr entries) ∧
      List.Forall₂ (Json.RenamedAt "accountId" "book" "bookkeeping") lunchEntries entries ∧
      rewriteTransactionPayload sent "bookkeeping" "book" =
        some (.obj [("entries", .arr lunchEntries), ("description", .str "Lunch")]) := by
  refine (account_ids_survive "book" "bookkeeping").2.2.1 _ lunchEntries ⟨rfl, ?_⟩
  rw [lunchEntries, List.forall_mem_cons, List.forall_mem_singleton]
  exact ⟨⟨_, ⟨"expense:food", rfl⟩, rfl⟩, ⟨_, ⟨"asset:cash", rfl⟩, rfl⟩⟩

/-- A payload without entries comes back with an empty list of them. -/
theorem missing_entries_come_back :
    (rewriteTransactionPayload (.obj [("description", .str "Lunch")]) "book" "cloud").bind
        (fun sent => rewriteTransactionPayload sent "cloud" "book") =
      some (.obj [("description", .str "Lunch"), ("entries", .arr [])]) ∧
    ¬ (rewriteTransactionPayload (.obj [("description", .str "Lunch")]) "book" "cloud").bind
        (fun sent => rewriteTransactionPayload sent "cloud" "book") =
      some (.obj [("description", .str "Lunch")]) := by
  have back : (rewriteTransactionPayload (.obj [("description", .str "Lunch")]) "book"
      "cloud").bind (fun sent => rewriteTransactionPayload sent "cloud" "book") =
        some (.obj [("description", .str "Lunch"), ("entries", .arr [])]) := rfl
  refine ⟨back, ?_⟩
  rw [back]
  simp

end Ledgerly
