/-
This file is about the categories of a device as a forest: whether every parent is a root, so
that no chain is longer than one step and every budget can be computed.

The local calls check what they write, on the accounts that they read a moment before. An upsert
that comes from the server is written as it is. So the forest stays shallow exactly in the runs
in which every parent that is written is a root of another account, and is written to an account
without children.
-/

import Ledgerly.DefaultCategories
import Ledgerly.DeviceActions

namespace Ledgerly

open Machine

/-- Where a call is. A checked one has the write it is about to make. -/
inductive CategoryPhase where
  | idle
  | called (call : CategoryCall)
  | creating (id name type : String) (parentCategoryId : Option String) (mutationId : String)
  | updating (categoryId name : String) (parentCategoryId : Option String) (mutationId : String)
  | returned (result : Except CategoryError Unit)

/-- What happens next: a call is made or goes on, an account of a pulled change is applied, or a
category that the server rejected becomes a root. -/
inductive CategoryAction (Name : Type) where
  | call (name : Name) (call : CategoryCall)
  | go (name : Name)
  | upsert (entityId : String) (payload : Json)
  | retryAsRoot (mutationId newId : String)

/-- The device, and the calls on it that are running. -/
structure CategoryWorld (Name : Type) where
  device : Device
  phase : Name → CategoryPhase

namespace CategoryWorld

variable {Name : Type} [DecidableEq Name] [DartText] (world : CategoryWorld Name)

/-- A call comes to a phase. -/
def enter (name : Name) (phase : CategoryPhase) : CategoryWorld Name :=
  { world with phase := Function.update world.phase name phase }

/-- The end of a call: a write that throws leaves the device as it is. -/
def finish (name : Name) (written : Option Device) : CategoryWorld Name :=
  match written with
  | some device =>
    { device := device
      phase := Function.update world.phase name (.returned (.ok ())) }
  | none => world.enter name (.returned (.error .repository))

/-- The next part of a call. -/
def proceed (name : Name) : CategoryCall → CategoryWorld Name
  | .create newId categoryName type parentCategoryId mutationId =>
    match checkCreate world.device.accounts categoryName type parentCategoryId with
    | .error error => world.enter name (.returned (.error error))
    | .ok normalizedName =>
      world.enter name (.creating (accountId world.device.bookId newId) normalizedName type
        parentCategoryId mutationId)
  | .update categoryId categoryName parentCategoryId mutationId =>
    match checkUpdate world.device.accounts categoryId categoryName parentCategoryId with
    | .error error => world.enter name (.returned (.error error))
    | .ok normalizedName =>
      world.enter name (.updating categoryId normalizedName parentCategoryId mutationId)
  | .rename categoryId categoryName mutationId =>
    match findCategory world.device.accounts categoryId with
    | .error error => world.enter name (.returned (.error error))
    | .ok category =>
      world.enter name
        (.called (.update categoryId categoryName category.parentAccountId mutationId))

/-- A call is made, or goes on to its next statement. -/
def step : CategoryAction Name → CategoryWorld Name
  | .call name call =>
    match world.phase name with
    | .idle => world.enter name (.called call)
    | _ => world
  | .go name =>
    match world.phase name with
    | .called call => world.proceed name call
    | .creating id categoryName type parentCategoryId mutationId =>
      world.finish name
        (world.device.createLocalAccount id ⟨categoryName, type, "CNY", parentCategoryId⟩
          mutationId)
    | .updating categoryId categoryName parentCategoryId mutationId =>
      world.finish name
        (world.device.updateLocalCategory categoryId categoryName parentCategoryId mutationId)
    | _ => world
  | .upsert entityId payload =>
    { world with
      device := (world.device.applyRemoteAccountUpsert entityId payload).getD world.device }
  | .retryAsRoot mutationId newId =>
    { world with
      device := (world.device.retryCategoryMutationAsRoot mutationId newId).getD world.device }

end CategoryWorld

/-! ### The promise and the condition -/

/-- The parent that a chain goes to from an account. -/
def accountParent (accounts : KeyMap String LocalAccount) (id : String) : Option String :=
  namedParent ((accounts.lookup id).bind LocalAccount.parentAccountId)

/-- No chain goes further than one step, and every budget can be computed, over the accounts of a
type and over all. -/
structure ShallowForest (accounts : KeyMap String LocalAccount) : Prop where
  chains : ParentChain.Shallow (accountParent accounts)
  budgets : ∀ type budgetCategoryId transactions, ∃ fuel,
    (spentForBudget fuel budgetCategoryId transactions (parentById accounts type)).isSome
  allBudgets : ∀ budgetCategoryId transactions, ∃ fuel,
    (spentForBudget fuel budgetCategoryId transactions fun id =>
      (accounts.lookup id).bind LocalAccount.parentAccountId).isSome

/-- An account may get a parent: another account, that has no parent, while no account has the
written one as its parent. -/
def Placeable (accounts : KeyMap String LocalAccount) (id : String)
    (parentAccountId : Option String) : Prop :=
  ∀ parent, namedParent parentAccountId = some parent →
    parent ≠ id ∧ accountParent accounts parent = none ∧
      ∀ child, accountParent accounts child ≠ some id

/-- The parent that an upsert gives an account: the one of the payload, or the one it has. -/
def upsertedParent (accounts : KeyMap String LocalAccount) (entityId : String) (payload : Json) :
    Option String :=
  if payload.containsKey "parentAccountId" then
    (payload.get? "parentAccountId").bind Json.asStr?
  else (accounts.lookup entityId).bind LocalAccount.parentAccountId

/-- The condition on a step: a parent that is written, by a local call or by an upsert, may be. -/
def CategoryWorld.Places {Name : Type} (world : CategoryWorld Name) :
    CategoryAction Name → Prop
  | .go name =>
    match world.phase name with
    | .creating id categoryName type parentCategoryId mutationId =>
      (world.device.createLocalAccount id ⟨categoryName, type, "CNY", parentCategoryId⟩
        mutationId).isSome → Placeable world.device.accounts id parentCategoryId
    | .updating categoryId categoryName parentCategoryId mutationId =>
      (world.device.updateLocalCategory categoryId categoryName parentCategoryId
        mutationId).isSome → Placeable world.device.accounts categoryId parentCategoryId
    | _ => True
  | .upsert entityId payload =>
    (world.device.applyRemoteAccountUpsert entityId payload).isSome →
      Placeable world.device.accounts entityId
        (upsertedParent world.device.accounts entityId payload)
  | _ => True

/-! ### Forests -/

section Forests

variable {accounts : KeyMap String LocalAccount}

theorem accountParent_insert (id : String) (account : LocalAccount) :
    accountParent (accounts.insert id account) =
      Function.update (accountParent accounts) id (namedParent account.parentAccountId) := by
  funext other
  unfold accountParent
  by_cases same : other = id
  · subst same
    rw [AList.lookup_insert, Function.update_self]
    rfl
  · rw [AList.lookup_insert_ne same, Function.update_of_ne same]

theorem matchesCategory_isSome {parents : String → Option String}
    (shallow : ParentChain.Shallow fun id => namedParent (parents id))
    (transactionCategoryId budgetCategoryId : String) :
    (matchesCategory 2 transactionCategoryId budgetCategoryId parents).isSome := by
  unfold matchesCategory
  split_ifs
  · rfl
  · exact ParentChain.seek_isSome shallow _ _

theorem spentForBudget_isSome {parents : String → Option String}
    (shallow : ParentChain.Shallow fun id => namedParent (parents id))
    (budgetCategoryId : String) (transactions : List BudgetedTransaction) :
    (spentForBudget 2 budgetCategoryId transactions parents).isSome := by
  unfold spentForBudget
  generalize (0 : Int) = spent
  induction transactions generalizing spent with
  | nil => rfl
  | cons tx rest inductionHypothesis =>
    rw [List.foldlM_cons]
    split_ifs with notExpense
    · exact inductionHypothesis spent
    · obtain ⟨inBudget, decided⟩ := Option.isSome_iff_exists.mp
        (matchesCategory_isSome shallow (tx.categoryAccountId.getD "") budgetCategoryId)
      rw [decided]
      exact inductionHypothesis _

theorem parentById_within (type : String) : ∀ child parent,
    namedParent (parentById accounts type child) = some parent →
      accountParent accounts child = some parent := by
  intro child parent named
  unfold parentById at named
  unfold accountParent
  cases found : accounts.lookup child with
  | none =>
    rw [found] at named
    cases named
  | some account =>
    rw [found, Option.filter_some] at named
    split_ifs at named
    · exact named
    · cases named

/-- Shallow chains are all that the budgets need. -/
theorem shallowForest_iff :
    ShallowForest accounts ↔ ParentChain.Shallow (accountParent accounts) := by
  refine ⟨ShallowForest.chains, fun shallow => ⟨shallow, fun type budget txs => ⟨2, ?_⟩,
    fun budget txs => ⟨2, ?_⟩⟩⟩
  · exact spentForBudget_isSome (shallow.mono (parentById_within type)) budget txs
  · exact spentForBudget_isSome shallow budget txs

theorem shallowForest_insert_iff (shallow : ShallowForest accounts) (id : String)
    (account : LocalAccount) :
    ShallowForest (accounts.insert id account) ↔
      Placeable accounts id account.parentAccountId := by
  rw [shallowForest_iff, accountParent_insert]
  exact ParentChain.shallow_update_iff shallow.chains id _

end Forests

/-! ### Writes -/

section Writes

variable {device after : Device}

/-- An upsert that is read puts in a row with the parent of the payload or the known one. -/
theorem Device.applyRemoteAccountUpsert_eq_some {entityId : String} {payload : Json}
    (applied : device.applyRemoteAccountUpsert entityId payload = some after) :
    ∃ account, account.parentAccountId = upsertedParent device.accounts entityId payload ∧
      after.accounts = device.accounts.insert entityId account := by
  unfold applyRemoteAccountUpsert at applied
  split at applied
  · rename_i name type currency parentAccountId _ _ _ readParent
    obtain rfl := Option.some.inj applied
    refine ⟨_, ?_, rfl⟩
    unfold upsertedParent
    dsimp only
    split_ifs with hasParent
    · unfold optionalText at readParent
      split at readParent
      · rename_i missing
        rw [Json.containsKey, missing] at hasParent
        cases hasParent
      · rename_i isNull
        rw [isNull, ← Option.some.inj readParent]
        rfl
      · rename_i text isText
        rw [isText, ← Option.some.inj readParent]
        rfl
      · cases readParent
    · rfl
  · cases applied

/-- The retry as a root leaves the accounts alone, or makes one of them a root. -/
theorem Device.retryCategoryMutationAsRoot_eq_some {mutationId newId : String}
    (retried : device.retryCategoryMutationAsRoot mutationId newId = some after) :
    after.accounts = device.accounts ∨ ∃ id account, account.parentAccountId = none ∧
      after.accounts = device.accounts.insert id account := by
  unfold retryCategoryMutationAsRoot at retried
  split at retried
  · obtain rfl := Option.some.inj retried
    exact .inl rfl
  · rename_i pending _
    split_ifs at retried
    split at retried
    · rename_i account _ _
      unfold requeue at retried
      split_ifs at retried
      obtain rfl := Option.some.inj retried
      exact .inr ⟨pending.entityId, { account with parentAccountId := none }, rfl, rfl⟩
    · cases retried

end Writes

/-! ### One step -/

section Steps

variable {Name : Type} [DecidableEq Name] [DartText] {world : CategoryWorld Name}

omit [DartText] [DecidableEq Name] in
/-- A root may stand anywhere. -/
theorem placeable_none (accounts : KeyMap String LocalAccount) (id : String) :
    Placeable accounts id none := fun _ named => nomatch named

theorem proceed_device (name : Name) (call : CategoryCall) :
    (world.proceed name call).device = world.device := by
  unfold CategoryWorld.proceed
  split
  all_goals
    split <;> rfl

omit [DartText] in
theorem finish_accounts (name : Name) (written : Option Device) :
    (world.finish name written).device.accounts = (written.getD world.device).accounts := by
  unfold CategoryWorld.finish
  cases written <;> rfl

omit [DartText] [DecidableEq Name] in
/-- A write that may throw keeps the forest shallow exactly if its row may stand where it is put. -/
theorem shallowForest_getD_iff (shallow : ShallowForest world.device.accounts)
    {written : Option Device} {id : String} {parentAccountId : Option String}
    (effect : ∀ after, written = some after → ∃ account,
      account.parentAccountId = parentAccountId ∧
        after.accounts = world.device.accounts.insert id account) :
    ShallowForest (written.getD world.device).accounts ↔
      (written.isSome → Placeable world.device.accounts id parentAccountId) := by
  cases written with
  | none => exact iff_of_true shallow fun impossible => nomatch impossible
  | some after =>
    obtain ⟨account, isParent, isAfter⟩ := effect after rfl
    rw [Option.getD_some, isAfter, shallowForest_insert_iff shallow, isParent]
    exact ⟨fun placeable _ => placeable, fun placeable => placeable rfl⟩

theorem shallowForest_step (shallow : ShallowForest world.device.accounts)
    (action : CategoryAction Name) :
    ShallowForest (world.step action).device.accounts ↔ world.Places action := by
  cases action with
  | call name call =>
    refine iff_of_true ?_ trivial
    rw [CategoryWorld.step]
    cases world.phase name <;> exact shallow
  | go name =>
    rw [CategoryWorld.step, CategoryWorld.Places]
    cases world.phase name with
    | called call =>
      refine iff_of_true ?_ trivial
      dsimp only
      rwa [proceed_device]
    | creating id categoryName type parentCategoryId mutationId =>
      dsimp only
      rw [finish_accounts]
      refine shallowForest_getD_iff shallow fun after created => ?_
      obtain ⟨-, row, -, -, rfl⟩ := Device.createLocalAccount_eq_some created
      exact ⟨_, rfl, rfl⟩
    | updating categoryId categoryName parentCategoryId mutationId =>
      dsimp only
      rw [finish_accounts]
      refine shallowForest_getD_iff shallow fun after updated => ?_
      obtain ⟨account, -, row, -, -, rfl⟩ := Device.updateLocalAccount_eq_some updated
      exact ⟨_, rfl, rfl⟩
    | _ => exact iff_of_true shallow trivial
  | upsert entityId payload =>
    rw [CategoryWorld.step, CategoryWorld.Places]
    exact shallowForest_getD_iff shallow fun after applied =>
      Device.applyRemoteAccountUpsert_eq_some applied
  | retryAsRoot mutationId newId =>
    refine iff_of_true ?_ trivial
    rw [CategoryWorld.step]
    dsimp only
    cases retried : world.device.retryCategoryMutationAsRoot mutationId newId with
    | none => exact shallow
    | some after =>
      rw [Option.getD_some]
      rcases Device.retryCategoryMutationAsRoot_eq_some retried with same | ⟨id, account, root, made⟩
      · rwa [same]
      · rw [made, shallowForest_insert_iff shallow, root]
        exact placeable_none _ _

end Steps

/-! ### What the checks give -/

section Checks

variable [DartText] {accounts : KeyMap String LocalAccount}

end Checks

/-! ### Runs -/

namespace CategoryWorld

/-- A device on which no call runs. -/
def start (Name : Type) (device : Device) : CategoryWorld Name := ⟨device, fun _ => .idle⟩

end CategoryWorld

/-- The default accounts are a shallow forest. -/
theorem seeded_shallow (bookId : String) :
    ShallowForest (ensureDefaultBookAccounts ∅ bookId) := by
  refine shallowForest_iff.mpr fun child parent named => ?_
  rw [accountParent, namedParent] at named
  obtain ⟨row, found, names⟩ :=
    Option.bind_eq_some_iff.mp (Option.filter_eq_some_iff.mp named).1
  obtain ⟨account, member, rfl, rfl⟩ := seeded_lookup_iff.mp found
  obtain ⟨parentKey, isKey, rfl⟩ := Option.map_eq_some_iff.mp names
  obtain ⟨-, above, aboveMember, rfl, root, -⟩ :=
    defaultAccounts_parent account member parentKey isKey
  rw [accountParent, seeded_lookup_iff.mpr ⟨above, aboveMember, rfl, rfl⟩, Option.bind_some,
    DefaultAccount.localRow, root]
  rfl

/-- A local book starts with a shallow forest, and a run keeps the forest shallow throughout
exactly if every parent that is written may be. -/
theorem shallow_forest_iff {Name : Type} [DecidableEq Name] [DartText] :
    (∀ bookId, ShallowForest (ensureDefaultBookAccounts ∅ bookId)) ∧
    ∀ (device : Device) (inputs : List (CategoryAction Name)), ShallowForest device.accounts →
      ((∀ before, before <+: inputs → ShallowForest
          (run CategoryWorld.step (CategoryWorld.start Name device) before).device.accounts) ↔
        Guarded CategoryWorld.step CategoryWorld.Places (CategoryWorld.start Name device)
          inputs) := by
  refine ⟨seeded_shallow, fun device inputs shallow => ?_⟩
  have nothing : ∀ (world : CategoryWorld Name) (action : CategoryAction Name), True → True :=
    fun _ _ holds => holds
  have exact : ∀ (world : CategoryWorld Name) action, True → ShallowForest world.device.accounts →
      (ShallowForest (world.step action).device.accounts ↔ world.Places action) :=
    fun _ action _ holds => shallowForest_step holds action
  have startShallow : ShallowForest (CategoryWorld.start Name device).device.accounts := shallow
  exact Machine.invariant_throughout_iff nothing exact trivial startShallow inputs

/-! ### A run in which a cycle arises -/

/-- A phone with those of the default accounts of its book that the moves are about. -/
def expensePhone : Device :=
  Device.initial "phone" "local"
    ((((∅ : KeyMap String LocalAccount).insert "local:acc_other_expense"
      ⟨"Other Expense", "expense", "CNY", none⟩)).insert "local:acc_food"
        ⟨"Food", "expense", "CNY", none⟩)

/-- The phone creates a category, which it pushes, and moves it under another one; the tablet has
moved that one under the new category before the phone pushes again. -/
def crossedMoves : List (CategoryAction Bool) :=
  [.call true (.create "pets" "Pets" "expense" none "create"), .go true, .go true,
    .call false (.update "local:pets" "Pets" (some "local:acc_other_expense") "move"),
    .go false, .go false,
    .upsert "local:acc_other_expense"
      (canonicalAccountPayload "Other Expense" "expense" "CNY" (some "local:pets"))]

/-- The accounts that the crossed moves leave on the phone. -/
@[irreducible] def crossedAccounts : KeyMap String LocalAccount :=
  (run (@CategoryWorld.step Bool _ asciiText) (CategoryWorld.start Bool expensePhone)
    crossedMoves).device.accounts

/-- The two categories are each other's parents, and the search for a third one from the first
never ends. -/
theorem crossed_moves_cycle :
    ¬ShallowForest crossedAccounts ∧
      ∀ fuel, spentForBudget fuel "local:acc_food" [⟨.expense, 100, some "local:pets"⟩]
        (fun id => (crossedAccounts.lookup id).bind LocalAccount.parentAccountId) = none := by
  have parents : accountParent crossedAccounts "local:pets" = some "local:acc_other_expense" ∧
      accountParent crossedAccounts "local:acc_other_expense" = some "local:pets" := by
    decide +kernel
  have endless : ∀ fuel, ParentChain.seek (accountParent crossedAccounts) "local:acc_food" fuel
      "local:pets" = none := by
    have closed : ∀ id, (id = "local:pets" ∨ id = "local:acc_other_expense") →
        ∃ parent, accountParent crossedAccounts id = some parent ∧
          (parent = "local:pets" ∨ parent = "local:acc_other_expense") := by
      rintro id (rfl | rfl)
      · exact ⟨_, parents.1, Or.inr rfl⟩
      · exact ⟨_, parents.2, Or.inl rfl⟩
    exact fun fuel => ParentChain.seek_eq_none (by decide) closed fuel _ (Or.inl rfl)
  refine ⟨fun shallow => ?_, fun fuel => ?_⟩
  · exact nomatch (shallow.chains _ _ parents.1).symm.trans parents.2
  · unfold spentForBudget matchesCategory
    rw [List.foldlM_cons, if_neg (by decide), if_neg (by decide)]
    show (((ParentChain.seek (accountParent crossedAccounts) "local:acc_food" fuel
      "local:pets").map _).bind _) = none
    rw [endless]
    rfl

end Ledgerly
