/-
This file settles which writers of the ledger admit only what the sync handlers would admit.

What `validate_balanced` and the account check of `push` demand of a transaction is one
property of its stored entries, `LedgerTables.Admits`. A push always has it. The transactions
endpoint runs the first check and not the second, and the recurring job adds up the amounts
and leaves the rest to the constraints of the database, which know accounts but no books and
no currencies.
-/

import Ledgerly.ChangeLog
import Ledgerly.LedgerWriters
import Ledgerly.Library.Partial

namespace Ledgerly

/-- The stored entries pass `validate_balanced`, on accounts of the transaction's book. -/
def LedgerTables.Admits (tables : LedgerTables) (record : TxRecord) : Prop :=
  validateBalanced (record.entries.map StoredEntry.draft) = .ok () ∧
    ∀ entry ∈ record.entries,
      accountInBook tables.accounts record.bookId entry.accountId = true

/-- When a writer admits only what it should: a push always, the endpoint if the request names
accounts of its book only, the job if moreover the rule has one currency. -/
def LedgerWrite.Uniform : LedgerWrite → Prop
  | .push _ _ => True
  | .pushPg _ _ => True
  | .create store _ request _ => ∀ entry ∈ request.entries,
      accountInBook store.accounts request.bookId entry.accountId = true
  | .recurring store rule _ => ∃ currency, IsCurrencyCode currency ∧
      ∀ item ∈ ((rule.payload.get? "entries").bind Json.asArray?).getD [],
        (readEntry item).currency = currency ∧
          accountInBook store.accounts rule.bookId (readEntry item).accountId = true

/-! ### What the writers store -/

/-- Entries stored from checked drafts are admitted exactly if the accounts are. -/
theorem admits_iff_of_balanced {tables : LedgerTables} {record : TxRecord}
    {drafts : List EntryDraft} (balanced : validateBalanced drafts = .ok ())
    (stored : record.entries = drafts.map EntryDraft.stored) :
    tables.Admits record ↔ ∀ draft ∈ drafts,
      accountInBook tables.accounts record.bookId draft.accountId = true := by
  rw [LedgerTables.Admits, stored, stored_draft balanced, List.forall_mem_map]
  exact and_iff_right balanced

/-- The drafts of a request have the accounts of its entries. -/
theorem forall_draft_iff {entries : List EntryDto} {drafts : List EntryDraft}
    (parsed : entries.mapM EntryDto.draft = some drafts) (known : String → Prop) :
    (∀ draft ∈ drafts, known draft.accountId) ↔ ∀ entry ∈ entries, known entry.accountId := by
  induction List.mapM_eq_some_iff.mp parsed with
  | nil => simp
  | cons first _ inductionHypothesis =>
    obtain ⟨amount, -, rfl⟩ := Option.map_eq_some_iff.mp first
    rename_i rest
    rw [List.forall_mem_cons, List.forall_mem_cons,
      inductionHypothesis (List.mapM_eq_some_iff.mpr rest)]

/-- The job reads account and currency of an entry as the sync handlers do. -/
theorem recurringEntry_read {item : Json} {draft : EntryDraft}
    (read : recurringEntry item = .ok draft) :
    draft.accountId = (readEntry item).accountId ∧ draft.currency = (readEntry item).currency := by
  unfold recurringEntry at read
  split at read
  · cases read
  · rename_i accountId named
    split at read
    · cases read
    · cases read
      exact ⟨by rw [readEntry, named]; rfl, rfl⟩

theorem forall_recurringEntries_iff {items : List Json} {drafts : List EntryDraft}
    (read : recurringEntries items = .ok drafts) (known : String → String → Prop) :
    (∀ draft ∈ drafts, known draft.currency draft.accountId) ↔
      ∀ item ∈ items, known (readEntry item).currency (readEntry item).accountId := by
  induction items generalizing drafts with
  | nil =>
    cases read
    simp
  | cons item rest inductionHypothesis =>
    rw [recurringEntries] at read
    split at read
    · cases read
    · rename_i draft first
      split at read
      · cases read
      · rename_i later tail
        cases read
        obtain ⟨account, currency⟩ := recurringEntry_read first
        rw [List.forall_mem_cons, List.forall_mem_cons, inductionHypothesis tail, account, currency]

/-- The drafts the job books pass `validate_balanced` exactly if they have one currency. -/
theorem validateBalanced_recurring_iff {items : List Json} {drafts : List EntryDraft}
    (fits : items.length ≤ isizeMax) (enough : 2 ≤ items.length)
    (read : recurringEntries items = .ok drafts) (zero : recurringSum drafts = 0)
    (nonzero : ∀ draft ∈ drafts, draft.amountMinor ≠ 0) :
    validateBalanced drafts = .ok () ↔
      ∃ currency, IsCurrencyCode currency ∧ ∀ draft ∈ drafts, draft.currency = currency := by
  obtain ⟨length, inRange⟩ := recurringEntries_spec read
  rw [← length] at fits enough
  rw [validateBalanced_iff fits]
  constructor
  · intro balanced
    obtain ⟨currency, sound⟩ := balanced.oneCurrency
    match drafts, enough with
    | first :: second :: rest, _ =>
      have head := sound first List.mem_cons_self
      exact ⟨currency, head.currencyEq ▸ head.currencyCode,
        fun draft member => (sound draft member).currencyEq⟩
  · rintro ⟨currency, code, same⟩
    refine ⟨enough, ⟨currency, fun draft member => ?_⟩, ?_⟩
    · exact ⟨same draft member, (same draft member).symm ▸ code, nonzero draft member,
        inRange draft member⟩
    · rw [← wrapI128_sum fits inRange, ← recurringSum_eq, zero]

/-! ### The writers -/

/-- A writer that stores entries stores admitted ones exactly if it is `Uniform`: a push on
either backend always does, the transactions endpoint does if every account of the request is
one of the book, and the recurring job if its rule has one currency and accounts of the book
only. -/
theorem admits_iff_uniform [Rfc3339] {write : LedgerWrite} {row : ChangeRecord}
    {record : TxRecord} (appends : write.Appends row record)
    (isUpsert : row.operation = "upsert") :
    write.before.Admits record ↔ write.Uniform := by
  cases write with
  | push store step =>
    rcases push_appends appends with ⟨-, isDelete⟩ | ⟨upserts, -⟩
    · exact absurd (isUpsert.symm.trans isDelete) (by decide)
    · obtain ⟨drafts, -, balanced, stored, known⟩ := upserts.checked
      exact iff_of_true ((admits_iff_of_balanced balanced stored).mpr known) trivial
  | pushPg store step =>
    rcases pushPg_appends appends with ⟨-, isDelete⟩ | ⟨upserts, -⟩
    · exact absurd (isUpsert.symm.trans isDelete) (by decide)
    · obtain ⟨drafts, -, balanced, stored, known⟩ := upserts.checked
      exact iff_of_true ((admits_iff_of_balanced balanced stored).mpr known) trivial
  | create store userId request new =>
    obtain ⟨drafts, parsed, balanced, -, -, rfl⟩ := create_appends appends
    rw [admits_iff_of_balanced balanced rfl]
    exact forall_draft_iff parsed fun accountId =>
      accountInBook store.accounts request.bookId accountId = true
  | recurring store rule new =>
    obtain ⟨items, drafts, present, enough, read, zero, allowed, -, -, -, rfl⟩ :=
      recurring_appends appends
    have fits : items.length ≤ isizeMax := by
      have bound := rule.entriesFit
      rwa [Json.arrayLength, present] at bound
    have inRange := (recurringEntries_spec read).2
    have checked := validateBalanced_recurring_iff fits enough read zero
      (PgStore.allows_nonzero allowed)
    have drafted : (rule.row drafts new).entries.map StoredEntry.draft = drafts := by
      refine (List.map_map ..).trans ((List.map_congr_left fun draft member => ?_).trans
        (List.map_id drafts))
      simp only [Function.comp_apply, StoredEntry.draft, EntryDraft.stored,
        asI64_of_fits (inRange draft member), id_eq]
    have listed : ((rule.payload.get? "entries").bind Json.asArray?).getD [] = items := by
      rw [present]
      rfl
    rw [LedgerTables.Admits, drafted, checked, LedgerWrite.Uniform, listed,
      show (rule.row drafts new).entries = drafts.map EntryDraft.stored from rfl,
      List.forall_mem_map, ← exists_and_right]
    refine exists_congr fun currency => ?_
    rw [and_assoc]
    refine and_congr_right fun _ => ?_
    have same := forall_recurringEntries_iff read fun found accountId =>
      found = currency ∧ accountInBook store.accounts rule.bookId accountId = true
    rw [← same, ← forall_and]
    exact forall_congr' fun draft => forall_and.symm

/-! ### Two writers that admit more -/

/-- The owner of a book without transactions. -/
def ownedBook : MemoryStore :=
  .initial ((∅ : KeyMap String BookRecord).insert "book" ⟨"book", "Book", "user"⟩)
    (withAccounts "book" ∅)

/-- A request for the book with entries on two accounts. -/
def requestOn (first second : String) : CreateTransactionRequest where
  bookId := "book"
  description := none
  entries := [⟨first, "-100", "CNY"⟩, ⟨second, "100", "CNY"⟩]
  entriesFit := two_le_isizeMax

/-- The ids and the time that the sample request draws. -/
def newTransaction : NewTransaction := ⟨"transaction", "commit", epoch⟩

/-- A request on accounts of the book is admitted. -/
theorem create_on_own_accounts : let := epochClock
    ∃ row record, (LedgerWrite.create ownedBook "user" (requestOn "book:cash" "book:food")
        newTransaction).Appends row record ∧ ownedBook.tables.Admits record := by
  intro clock
  have appends : (LedgerWrite.create ownedBook "user" (requestOn "book:cash" "book:food")
      newTransaction).Appends _ _ :=
    createTransaction_appends [⟨"book:cash", -100, "CNY"⟩, ⟨"book:food", 100, "CNY"⟩] rfl
      (by decide) (by decide) rfl
  have known : ∀ entry ∈ (requestOn "book:cash" "book:food").entries,
      accountInBook ownedBook.accounts "book" entry.accountId = true := by decide
  exact ⟨_, _, appends, (admits_iff_uniform appends rfl).mpr known⟩

/-- A rule of the book that moves yuan out of one account and dollars into another one. -/
def twoCurrencies : RecurringRule where
  id := "rule"
  bookId := "book"
  name := "Exchange"
  payload := .obj [("entries", .arr
    [.obj [("accountId", .str "book:cash"), ("amountMinor", .str "-100"), ("currency", .str "CNY")],
      .obj [("accountId", .str "book:food"), ("amountMinor", .str "100"),
        ("currency", .str "USD")]])]

/-- The transactions endpoint accepts a request on accounts that nobody has, and the recurring
job books a rule in two currencies. -/
theorem writers_admit_more : let := epochClock
    (∃ row record, (LedgerWrite.create ownedBook "user" (requestOn "other:cash" "other:food")
        newTransaction).Appends row record ∧ row.operation = "upsert" ∧
      ¬ownedBook.tables.Admits record) ∧
    ∃ row record, (LedgerWrite.recurring (.initial (withAccounts "book" ∅)) twoCurrencies
        newTransaction).Appends row record ∧ row.operation = "upsert" ∧
      ¬(PgStore.initial (withAccounts "book" ∅)).tables.Admits record := by
  intro clock
  refine ⟨⟨_, _, createTransaction_appends
    [⟨"other:cash", -100, "CNY"⟩, ⟨"other:food", 100, "CNY"⟩] rfl (by decide) (by decide) rfl,
    rfl, ?_⟩, ⟨_, _, generateRecurring_appends
    [⟨"book:cash", -100, "CNY"⟩, ⟨"book:food", 100, "USD"⟩] rfl (by decide) (by decide)
    (by decide) (by decide), rfl, ?_⟩⟩
  · rintro ⟨-, known⟩
    exact absurd (known ⟨"other:cash", -100, "CNY"⟩ (by decide)) (by decide)
  · rintro ⟨balanced, -⟩
    exact absurd balanced (by decide)

end Ledgerly
