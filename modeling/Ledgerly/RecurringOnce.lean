/-
This file proves when `catchUp` posts every due occurrence of the recurring rules exactly once.

A call knows what has been posted by the keys of the ledger at its start and of what it posts
itself. A posted occurrence whose rule was not advanced, because the call was interrupted in
between, is posted a second time unless its key is among them, and an occurrence is never posted
if the key of something else is its own. The last condition is that a call has passes enough for
every rule.
-/

import Ledgerly.RecurringScheduler
import Ledgerly.Library.Run

namespace Ledgerly

/-! ### Occurrences -/

/-- The dates of a rule: the one it is to run on next, and those it is advanced to. -/
def LocalRecurringRule.occurrence (rule : LocalRecurringRule) : Nat → Int
  | 0 => rule.nextRunDate
  | index + 1 => RecurringDate.advanceOneMonth (rule.occurrence index) rule.dayOfMonth

/-- A rule that is to run on one of its occurrences next. -/
def LocalRecurringRule.at (rule : LocalRecurringRule) (index : Nat) : LocalRecurringRule :=
  { rule with nextRunDate := rule.occurrence index }

section Occurrence

variable (rule : LocalRecurringRule)

@[simp] theorem LocalRecurringRule.at_id (index : Nat) : (rule.at index).id = rule.id := rfl

@[simp] theorem LocalRecurringRule.at_active (index : Nat) :
    (rule.at index).active = rule.active := rfl

@[simp] theorem LocalRecurringRule.at_nextRunDate (index : Nat) :
    (rule.at index).nextRunDate = rule.occurrence index := rfl

/-- The occurrences from a later one on are those of the rule advanced to it. -/
theorem LocalRecurringRule.occurrence_at (first index : Nat) :
    (rule.at first).occurrence index = rule.occurrence (first + index) := by
  induction index with
  | zero => rfl
  | succ index inductionHypothesis =>
    show RecurringDate.advanceOneMonth ((rule.at first).occurrence index) rule.dayOfMonth = _
    rw [inductionHypothesis]
    rfl

theorem LocalRecurringRule.at_at (first index : Nat) :
    (rule.at first).at index = rule.at (first + index) := by
  unfold LocalRecurringRule.at
  rw [← LocalRecurringRule.occurrence_at]
  rfl

theorem LocalRecurringRule.occurrence_lt_iff {index other : Nat} :
    rule.occurrence index < rule.occurrence other ↔ index < other :=
  (strictMono_nat_of_lt_succ fun _ => RecurringDate.lt_advanceOneMonth _ _).lt_iff_lt

theorem LocalRecurringRule.occurrence_le {index other : Nat} (atMost : index ≤ other) :
    rule.occurrence index ≤ rule.occurrence other :=
  Int.not_lt.mp fun before => absurd (rule.occurrence_lt_iff.mp before) (Nat.not_lt.mpr atMost)

theorem LocalRecurringRule.occurrence_inj {index other : Nat}
    (same : rule.occurrence index = rule.occurrence other) : index = other := by
  refine le_antisymm (Nat.not_lt.mp fun after => ?_) (Nat.not_lt.mp fun before => ?_)
  · exact absurd same.symm (rule.occurrence_lt_iff.mpr after).ne
  · exact absurd same (rule.occurrence_lt_iff.mpr before).ne

/-- Two occurrences of one rule have different keys. -/
theorem LocalRecurringRule.rowKey_inj [LocalClock] {index other : Nat}
    (same : (rule.at index).rowKey = (rule.at other).rowKey) : index = other := by
  have date := congrArg PostedRowKey.date same
  simp only [rowKey, postedRowKey, LocalClock.dateOf_noon] at date
  exact rule.occurrence_inj date

end Occurrence

/-! ### Histories -/

/-- The transaction a call made for an occurrence of a rule. -/
structure Posting where
  ruleId : String
  date : Int
  clock : Int
  txId : String

/-- The scheduler with its history: how often each rule was advanced, what was posted, and the
dates of the calls that came to their end. -/
structure RecurringHistory where
  scheduler : RecurringScheduler
  advanced : String → Nat
  postings : List Posting
  completed : List Int

/-- The history before the first call. -/
def RecurringHistory.initial (rules : List LocalRecurringRule) (device : Device) :
    RecurringHistory where
  scheduler := ⟨rules, device, none⟩
  advanced _ := 0
  postings := []
  completed := []

/-- A turn of a call, with what it adds to the history. -/
def RecurringHistory.afterTurn [LocalClock] (history : RecurringHistory) (call : CatchUp)
    (txId : String) (turn : CatchUpTurn) : RecurringHistory where
  scheduler := history.scheduler.afterTurn call turn
  advanced := match turn with
    | .advanced rule _ =>
      Function.update history.advanced rule.id (history.advanced rule.id + 1)
    | _ => history.advanced
  postings := match turn with
    | .posted rule _ => ⟨rule.id, rule.nextRunDate, call.clock, txId⟩ :: history.postings
    | _ => history.postings
  completed := match turn with
    | .finished => call.clock :: history.completed
    | _ => history.completed

/-- One step. A step that cannot happen now changes nothing. One call of `catchUp` runs at a time: a
call that is started while another one runs is left out, though the app can make one. -/
def catchUpStep [DartText] [LocalClock] (history : RecurringHistory) :
    RecurringEvent → RecurringHistory
  | .start clock =>
    match history.scheduler.catchUp, history.scheduler.ledgerKeys with
    | none, some keys =>
      { history with
        scheduler := { history.scheduler with catchUp := some ⟨clock, keys, 36, [], false⟩ } }
    | _, _ => history
  | .resume txId newId =>
    match history.scheduler.catchUp with
    | none => history
    | some call => history.afterTurn call txId (history.scheduler.turn call txId newId)
  | .interrupt => { history with scheduler := { history.scheduler with catchUp := none } }
  | .ledger device => { history with scheduler := { history.scheduler with device := device } }

/-- How many transactions were posted for an occurrence. -/
def RecurringHistory.postingsOf (history : RecurringHistory) (ruleId : String) (date : Int) : Nat :=
  history.postings.countP fun posting => posting.ruleId = ruleId ∧ posting.date = date

/-- Every occurrence that was due for a call that came to its end has exactly one transaction, and
every transaction is for an occurrence of an active rule that was due for the call that posted
it. -/
structure RecurringHistory.ExactlyOnce (rules : List LocalRecurringRule)
    (history : RecurringHistory) : Prop where
  due : ∀ clock ∈ history.completed, ∀ rule ∈ rules, rule.active → ∀ index,
    rule.occurrence index ≤ clock → history.postingsOf rule.id (rule.occurrence index) = 1
  only : ∀ posting ∈ history.postings, ∃ rule ∈ rules, rule.active ∧ rule.id = posting.ruleId ∧
    (∃ index, rule.occurrence index = posting.date) ∧ posting.date ≤ posting.clock

/-- A call on a date can tell what has been posted: the ledger has the key of an occurrence that is
due exactly if the occurrence was posted, the occurrences of two rules that fall on one day differ
in their keys, and there are passes enough for all that is due. -/
structure RecurringHistory.Tells [LocalClock] (history : RecurringHistory) (clock : Int)
    (keys : List PostedRowKey) : Prop where
  posted : ∀ rule ∈ history.scheduler.rules, rule.active → ∀ index, rule.occurrence index ≤ clock →
    ((rule.at index).rowKey ∈ keys ↔ 0 < history.postingsOf rule.id (rule.occurrence index))
  apart : ∀ rule ∈ history.scheduler.rules, rule.active → ∀ other ∈ history.scheduler.rules,
    other.active → ∀ index position, rule.occurrence index ≤ clock →
    (rule.at index).rowKey = (other.at position).rowKey → rule.id = other.id
  passes : ∀ rule ∈ history.scheduler.rules, rule.active → clock < rule.occurrence 36

/-- Whenever a call starts, it can tell what has been posted. -/
def CallsTell [LocalClock] (history : RecurringHistory) : RecurringEvent → Prop
  | .start clock => history.scheduler.catchUp = none →
    ∀ keys, history.scheduler.ledgerKeys = some keys → history.Tells clock keys
  | _ => True

/-! ### The invariant -/

/-- What holds of the call in progress. -/
structure RecurringHistory.InCall [LocalClock] (rules : List LocalRecurringRule)
    (history : RecurringHistory) (call : CatchUp) : Prop where
  due : ∀ row ∈ call.due, ∃ rule ∈ rules, rule.active ∧ row = rule.at (history.advanced rule.id) ∧
    row.nextRunDate ≤ call.clock
  distinct : (call.due.map LocalRecurringRule.id).Nodup
  keys : ∀ rule ∈ rules, rule.active → ∀ index, history.advanced rule.id ≤ index →
    rule.occurrence index ≤ call.clock →
    ((rule.at index).rowKey ∈ call.postedKeys ↔
      0 < history.postingsOf rule.id (rule.occurrence index))
  apart : ∀ rule ∈ rules, rule.active → ∀ other ∈ rules, other.active → ∀ index position,
    history.advanced rule.id ≤ index → history.advanced other.id ≤ position →
    rule.occurrence index ≤ call.clock → (rule.at index).rowKey = (other.at position).rowKey →
    rule.id = other.id
  handled : call.handled = true → ∀ row rest, call.due = row :: rest →
    history.postingsOf row.id row.nextRunDate = 1
  passes : ∀ rule ∈ rules, rule.active → call.clock < rule.occurrence
    (history.advanced rule.id + call.passes +
      if rule.id ∈ call.due.map LocalRecurringRule.id then 1 else 0)

/-- What holds in every state: each rule is to run on the occurrence it was advanced to, the
occurrences before it have one transaction, it has one at most, and those after it have none. -/
structure RecurringHistory.Tracked [LocalClock] (rules : List LocalRecurringRule)
    (history : RecurringHistory) : Prop where
  current : history.scheduler.rules = rules.map fun rule => rule.at (history.advanced rule.id)
  before : ∀ rule ∈ rules, rule.active → ∀ index < history.advanced rule.id,
    history.postingsOf rule.id (rule.occurrence index) = 1
  now : ∀ rule ∈ rules, rule.active →
    history.postingsOf rule.id (rule.occurrence (history.advanced rule.id)) ≤ 1
  after : ∀ rule ∈ rules, rule.active → ∀ index, history.advanced rule.id < index →
    history.postingsOf rule.id (rule.occurrence index) = 0
  only : ∀ posting ∈ history.postings, ∃ rule ∈ rules, rule.active ∧ rule.id = posting.ruleId ∧
    (∃ index, rule.occurrence index = posting.date) ∧ posting.date ≤ posting.clock
  completed : ∀ clock ∈ history.completed, ∀ rule ∈ rules, rule.active →
    clock < rule.occurrence (history.advanced rule.id)
  call : ∀ call, history.scheduler.catchUp = some call → history.InCall rules call

section Recurring

variable [LocalClock] {rules : List LocalRecurringRule} {history : RecurringHistory}
  {call : CatchUp} {rule other : LocalRecurringRule}

/-- What was posted for the occurrences that are over is what was due. -/
theorem RecurringHistory.Tracked.exactlyOnce (tracked : history.Tracked rules) :
    history.ExactlyOnce rules where
  due clock member rule inRules active index due := by
    have past := due.trans_lt (tracked.completed clock member rule inRules active)
    exact tracked.before rule inRules active index (rule.occurrence_lt_iff.mp past)
  only := tracked.only

theorem RecurringHistory.initial_tracked (rules : List LocalRecurringRule) (device : Device) :
    (initial rules device).Tracked rules where
  current := (List.map_id rules).symm
  before _ _ _ _ earlier := absurd earlier (Nat.not_lt_zero _)
  now _ _ _ := Nat.zero_le _
  after _ _ _ _ _ := rfl
  only _ member := absurd member List.not_mem_nil
  completed _ member := absurd member List.not_mem_nil
  call _ := nofun

omit [LocalClock] in
/-- The id of a rule is its primary key. -/
theorem rule_eq_of_id (ids : (rules.map LocalRecurringRule.id).Nodup) (inRules : rule ∈ rules)
    (otherIn : other ∈ rules) (same : rule.id = other.id) : rule = other :=
  List.inj_on_of_nodup_map ids inRules otherIn same

/-- A call that can tell what has been posted starts with all it has to know. -/
theorem RecurringHistory.Tracked.start (tracked : history.Tracked rules) {clock : Int}
    {keys : List PostedRowKey} (tells : history.Tells clock keys) :
    history.InCall rules ⟨clock, keys, 36, [], false⟩ where
  due _ member := absurd member List.not_mem_nil
  distinct := List.nodup_nil
  keys rule inRules active index later due := by
    obtain ⟨steps, rfl⟩ := Nat.exists_eq_add_of_le later
    have posted := tells.posted (rule.at (history.advanced rule.id))
      (by rw [tracked.current]; exact List.mem_map_of_mem inRules) active steps
    rw [LocalRecurringRule.occurrence_at, LocalRecurringRule.at_at] at posted
    exact posted due
  apart rule inRules active other otherIn otherActive index position later otherLater due same := by
    obtain ⟨steps, rfl⟩ := Nat.exists_eq_add_of_le later
    obtain ⟨otherSteps, rfl⟩ := Nat.exists_eq_add_of_le otherLater
    have apart := tells.apart (rule.at (history.advanced rule.id))
      (by rw [tracked.current]; exact List.mem_map_of_mem inRules) active
      (other.at (history.advanced other.id))
      (by rw [tracked.current]; exact List.mem_map_of_mem otherIn) otherActive steps otherSteps
    rw [LocalRecurringRule.occurrence_at, LocalRecurringRule.at_at,
      LocalRecurringRule.at_at] at apart
    exact apart due same
  handled := nofun
  passes rule inRules active := by
    have passes := tells.passes (rule.at (history.advanced rule.id))
      (by rw [tracked.current]; exact List.mem_map_of_mem inRules) active
    rw [LocalRecurringRule.occurrence_at] at passes
    exact passes

/-! ### The turns of a call -/

/-- The rules that are due are the active ones whose occurrence has come. -/
theorem RecurringHistory.Tracked.mem_dueRules (tracked : history.Tracked rules) {clock : Int}
    {row : LocalRecurringRule} : row ∈ dueRules history.scheduler.rules clock ↔
      ∃ rule ∈ rules, rule.active ∧ row = rule.at (history.advanced rule.id) ∧
        row.nextRunDate ≤ clock := by
  rw [dueRules, List.mem_filter, tracked.current]
  constructor
  · rintro ⟨inRows, due⟩
    obtain ⟨rule, inRules, rfl⟩ := List.mem_map.mp inRows
    obtain ⟨active, due⟩ := Bool.and_eq_true_iff.mp due
    exact ⟨rule, inRules, active, rfl, of_decide_eq_true due⟩
  · rintro ⟨rule, inRules, active, rfl, due⟩
    exact ⟨List.mem_map_of_mem inRules, Bool.and_eq_true_iff.mpr ⟨active, decide_eq_true due⟩⟩

/-- At the end of a call nothing is due. -/
theorem RecurringHistory.InCall.finished (inCall : history.InCall rules call)
    (tracked : history.Tracked rules) (empty : call.due = [])
    (past : call.passes = 0 ∨ dueRules history.scheduler.rules call.clock = [])
    (inRules : rule ∈ rules) (active : rule.active) :
    call.clock < rule.occurrence (history.advanced rule.id) := by
  obtain none | nothing := past
  · have passes := inCall.passes rule inRules active
    rw [none, empty] at passes
    exact passes
  · by_contra due
    have member := tracked.mem_dueRules.mpr ⟨rule, inRules, active, rfl, Int.not_lt.mp due⟩
    rw [nothing] at member
    exact List.not_mem_nil member

/-- A pass takes every active rule that is due. -/
theorem RecurringHistory.InCall.pass (inCall : history.InCall rules call)
    (tracked : history.Tracked rules) (ids : (rules.map LocalRecurringRule.id).Nodup)
    (empty : call.due = []) (left : 0 < call.passes) :
    history.InCall rules
      { call with
        passes := call.passes - 1
        due := dueRules history.scheduler.rules call.clock
        handled := false } where
  due row member := tracked.mem_dueRules.mp member
  distinct := by
    have rowIds : history.scheduler.rules.map LocalRecurringRule.id =
        rules.map LocalRecurringRule.id := by
      rw [tracked.current, List.map_map]
      rfl
    exact (List.filter_sublist.map _).nodup (rowIds ▸ ids)
  keys := inCall.keys
  apart := inCall.apart
  handled := nofun
  passes rule inRules active := by
    have passes := inCall.passes rule inRules active
    rw [empty, List.map_nil, if_neg List.not_mem_nil, add_zero] at passes
    dsimp only
    split
    · rwa [Nat.add_assoc, Nat.sub_add_cancel left]
    · rename_i absent
      have later : call.clock < rule.occurrence (history.advanced rule.id) := by
        by_contra due
        exact absent (List.mem_map.mpr ⟨rule.at (history.advanced rule.id),
          tracked.mem_dueRules.mpr ⟨rule, inRules, active, rfl, Int.not_lt.mp due⟩, rfl⟩)
      exact later.trans_le (rule.occurrence_le (by omega))

/-- A posting counts for its own occurrence only. -/
theorem RecurringHistory.postingsOf_posted (history : RecurringHistory) (call : CatchUp)
    (ids : (rules.map LocalRecurringRule.id).Nodup) (inRules : rule ∈ rules)
    (otherIn : other ∈ rules) (first index : Nat) (txId : String) (device : Device) :
    (history.afterTurn call txId (.posted (rule.at first) device)).postingsOf other.id
        (other.occurrence index) =
      history.postingsOf other.id (other.occurrence index) +
        if rule = other ∧ first = index then 1 else 0 := by
  have same : (rule.id = other.id ∧ rule.occurrence first = other.occurrence index) ↔
      rule = other ∧ first = index := by
    constructor
    · rintro ⟨id, date⟩
      obtain rfl := rule_eq_of_id ids inRules otherIn id
      exact ⟨rfl, rule.occurrence_inj date⟩
    · rintro ⟨rfl, rfl⟩
      exact ⟨rfl, rfl⟩
  simp only [postingsOf, afterTurn, List.countP_cons, LocalRecurringRule.at_id,
    LocalRecurringRule.at_nextRunDate, decide_eq_true_eq, same]

/-- An occurrence whose key is unknown to the call was not posted yet, and is now. -/
theorem RecurringHistory.Tracked.posted (tracked : history.Tracked rules)
    (ids : (rules.map LocalRecurringRule.id).Nodup) {row : LocalRecurringRule}
    {rest : List LocalRecurringRule} (running : history.scheduler.catchUp = some call)
    (due : call.due = row :: rest) (unknown : row.rowKey ∉ call.postedKeys) (txId : String)
    (device : Device) : (history.afterTurn call txId (.posted row device)).Tracked rules := by
  have inCall := tracked.call call running
  obtain ⟨rule, inRules, active, rfl, reached⟩ :=
    inCall.due row (by rw [due]; exact List.mem_cons_self)
  have unposted : history.postingsOf rule.id (rule.occurrence (history.advanced rule.id)) = 0 := by
    have known := inCall.keys rule inRules active _ le_rfl reached
    exact Nat.eq_zero_of_not_pos fun posted => unknown (known.mpr posted)
  have counted := fun (other : LocalRecurringRule) (otherIn : other ∈ rules) (index : Nat) =>
    postingsOf_posted history call ids inRules otherIn (history.advanced rule.id) index txId device
  refine ⟨tracked.current, fun other otherIn otherActive index earlier => ?_,
    fun other otherIn otherActive => ?_, fun other otherIn otherActive index later => ?_,
    fun posting member => ?_, tracked.completed, fun next nextRunning => ?_⟩
  · have elsewhere : ¬(rule = other ∧ history.advanced rule.id = index) := by
      rintro ⟨rfl, rfl⟩
      exact Nat.lt_irrefl _ earlier
    rw [counted other otherIn, if_neg elsewhere]
    exact tracked.before other otherIn otherActive index earlier
  · show (history.afterTurn call txId _).postingsOf other.id
      (other.occurrence (history.advanced other.id)) ≤ 1
    rw [counted other otherIn]
    split
    · rename_i same
      obtain ⟨rfl, -⟩ := same
      rw [unposted]
    · exact tracked.now other otherIn otherActive
  · have elsewhere : ¬(rule = other ∧ history.advanced rule.id = index) := by
      rintro ⟨rfl, rfl⟩
      exact Nat.lt_irrefl _ later
    rw [counted other otherIn, if_neg elsewhere]
    exact tracked.after other otherIn otherActive index later
  · obtain rfl | member := List.mem_cons.mp member
    · exact ⟨rule, inRules, active, rfl, ⟨_, rfl⟩, reached⟩
    · exact tracked.only posting member
  · obtain rfl := Option.some.inj nextRunning
    refine ⟨inCall.due, inCall.distinct, fun other otherIn otherActive index later otherDue => ?_,
      inCall.apart, fun _ head tail split => ?_, inCall.passes⟩
    · rw [counted other otherIn, List.mem_cons, inCall.keys other otherIn otherActive index later
        otherDue]
      by_cases same : rule = other ∧ history.advanced rule.id = index
      · obtain ⟨rfl, rfl⟩ := same
        simp
      · rw [if_neg same, add_zero, or_iff_right]
        intro key
        have id := inCall.apart other otherIn otherActive rule inRules active index _ later le_rfl
          otherDue key
        obtain rfl := rule_eq_of_id ids otherIn inRules id
        exact same ⟨rfl, (other.rowKey_inj key).symm⟩
    · obtain ⟨rfl, -⟩ := List.cons.inj (due.symm.trans split)
      show (history.afterTurn call txId _).postingsOf rule.id
        (rule.occurrence (history.advanced rule.id)) = 1
      rw [counted rule inRules, unposted, if_pos ⟨rfl, rfl⟩]

omit [LocalClock] in
/-- Only the row of the rule moves to its next occurrence. -/
theorem LocalRecurringRule.advance_at (ids : (rules.map LocalRecurringRule.id).Nodup)
    (inRules : rule ∈ rules) (advanced : String → Nat) :
    (rule.at (advanced rule.id)).advance (rules.map fun other => other.at (advanced other.id)) =
      rules.map fun other =>
        other.at (Function.update advanced rule.id (advanced rule.id + 1) other.id) := by
  rw [advance, List.map_map]
  refine List.map_congr_left fun other otherIn => ?_
  rw [Function.comp_apply]
  by_cases same : other.id = rule.id
  · obtain rfl := rule_eq_of_id ids otherIn inRules same
    rw [if_pos rfl, Function.update_self]
    rfl
  · rw [LocalRecurringRule.at_id, LocalRecurringRule.at_id, if_neg same, Function.update_of_ne same]

section Advanced

variable (history : RecurringHistory) (call : CatchUp) (row : LocalRecurringRule)
  (rest : List LocalRecurringRule) (txId : String) {id : String}

theorem RecurringHistory.advanced_self :
    (history.afterTurn call txId (.advanced row rest)).advanced row.id =
      history.advanced row.id + 1 :=
  Function.update_self ..

theorem RecurringHistory.advanced_of_ne (different : id ≠ row.id) :
    (history.afterTurn call txId (.advanced row rest)).advanced id = history.advanced id :=
  Function.update_of_ne different ..

theorem RecurringHistory.le_advanced (id : String) :
    history.advanced id ≤ (history.afterTurn call txId (.advanced row rest)).advanced id := by
  by_cases same : id = row.id
  · rw [same, advanced_self]
    exact Nat.le_succ _
  · rw [advanced_of_ne history call row rest txId same]

end Advanced

/-- The occurrence a rule is advanced from has its transaction. -/
theorem RecurringHistory.Tracked.advanced (tracked : history.Tracked rules)
    (ids : (rules.map LocalRecurringRule.id).Nodup) {row : LocalRecurringRule}
    {rest : List LocalRecurringRule} (running : history.scheduler.catchUp = some call)
    (due : call.due = row :: rest) (handled : call.handled = true) (txId : String) :
    (history.afterTurn call txId (.advanced row rest)).Tracked rules := by
  have inCall := tracked.call call running
  obtain ⟨rule, inRules, active, rfl, -⟩ :=
    inCall.due row (by rw [due]; exact List.mem_cons_self)
  have once : history.postingsOf rule.id (rule.occurrence (history.advanced rule.id)) = 1 :=
    inCall.handled handled _ _ due
  have moved : (history.afterTurn call txId
      (.advanced (rule.at (history.advanced rule.id)) rest)).advanced rule.id =
      history.advanced rule.id + 1 := advanced_self ..
  have kept := fun (other : LocalRecurringRule) (otherIn : other ∈ rules) (different : rule ≠ other) =>
    advanced_of_ne history call (rule.at (history.advanced rule.id)) rest txId
      fun same : other.id = rule.id => different (rule_eq_of_id ids inRules otherIn same.symm)
  have grows := le_advanced history call (rule.at (history.advanced rule.id)) rest txId
  refine ⟨?_, fun other otherIn otherActive index earlier => ?_,
    fun other otherIn otherActive => ?_, fun other otherIn otherActive index later => ?_,
    tracked.only, fun clock member other otherIn otherActive => ?_, fun next nextRunning => ?_⟩
  · show (rule.at (history.advanced rule.id)).advance history.scheduler.rules = _
    rw [tracked.current]
    exact LocalRecurringRule.advance_at ids inRules history.advanced
  · by_cases same : rule = other
    · obtain rfl := same
      rw [moved] at earlier
      obtain earlier | rfl := Nat.lt_succ_iff_lt_or_eq.mp earlier
      · exact tracked.before rule inRules active index earlier
      · exact once
    · rw [kept other otherIn same] at earlier
      exact tracked.before other otherIn otherActive index earlier
  · by_cases same : rule = other
    · obtain rfl := same
      rw [moved]
      exact (tracked.after rule inRules active _ (Nat.lt_succ_self _)).le.trans (Nat.zero_le _)
    · rw [kept other otherIn same]
      exact tracked.now other otherIn otherActive
  · exact tracked.after other otherIn otherActive index ((grows other.id).trans_lt later)
  · exact (tracked.completed clock member other otherIn otherActive).trans_le
      (other.occurrence_le (grows other.id))
  · obtain rfl := Option.some.inj nextRunning
    have split := inCall.distinct
    rw [due, List.map_cons, List.nodup_cons] at split
    obtain ⟨absent, distinct⟩ := split
    refine ⟨fun row member => ?_, distinct, fun other otherIn otherActive index later => ?_,
      fun other otherIn otherActive third thirdIn thirdActive index position later thirdLater => ?_,
      nofun, fun other otherIn otherActive => ?_⟩
    · obtain ⟨other, otherIn, otherActive, rfl, reached⟩ :=
        inCall.due row (by rw [due]; exact List.mem_cons_of_mem _ member)
      have different : rule ≠ other := by
        rintro rfl
        exact absent (List.mem_map_of_mem member)
      refine ⟨other, otherIn, otherActive, ?_, reached⟩
      rw [kept other otherIn different]
    · exact inCall.keys other otherIn otherActive index ((grows other.id).trans later)
    · exact inCall.apart other otherIn otherActive third thirdIn thirdActive index position
        ((grows other.id).trans later) ((grows third.id).trans thirdLater)
    · have passes := inCall.passes other otherIn otherActive
      rw [due, List.map_cons, LocalRecurringRule.at_id] at passes
      by_cases same : rule = other
      · obtain rfl := same
        rw [if_pos List.mem_cons_self] at passes
        rw [moved, if_neg (show rule.id ∉ rest.map LocalRecurringRule.id from absent), add_zero,
          Nat.succ_add]
        exact passes
      · rw [kept other otherIn same]
        have elsewhere : other.id ≠ rule.id := fun equal =>
          same (rule_eq_of_id ids inRules otherIn equal.symm)
        simpa only [LocalRecurringRule.at_id, List.mem_cons, elsewhere, false_or] using passes

/-! ### Every step -/

/-- What a step leaves of the rules and of the history it leaves of the invariant, if the call in
progress is in order. -/
theorem RecurringHistory.Tracked.reschedule (tracked : history.Tracked rules)
    {scheduler : RecurringScheduler} (same : scheduler.rules = history.scheduler.rules)
    (inCall : ∀ call, scheduler.catchUp = some call → history.InCall rules call) :
    ({ history with scheduler := scheduler } : RecurringHistory).Tracked rules where
  current := same.trans tracked.current
  before := tracked.before
  now := tracked.now
  after := tracked.after
  only := tracked.only
  completed := tracked.completed
  call call running :=
    let inCall := inCall call running
    ⟨inCall.due, inCall.distinct, inCall.keys, inCall.apart, inCall.handled, inCall.passes⟩

/-- An occurrence whose key is known to the call was posted. -/
theorem RecurringHistory.InCall.recognised (inCall : history.InCall rules call)
    (tracked : history.Tracked rules) {row : LocalRecurringRule} {rest : List LocalRecurringRule}
    (due : call.due = row :: rest) (known : row.rowKey ∈ call.postedKeys) :
    history.InCall rules { call with handled := true } where
  due := inCall.due
  distinct := inCall.distinct
  keys := inCall.keys
  apart := inCall.apart
  handled _ head tail split := by
    obtain ⟨rfl, -⟩ := List.cons.inj (due.symm.trans split)
    obtain ⟨rule, inRules, active, rfl, reached⟩ :=
      inCall.due row (by rw [due]; exact List.mem_cons_self)
    have posted := (inCall.keys rule inRules active _ le_rfl reached).mp known
    exact Nat.le_antisymm (tracked.now rule inRules active) posted
  passes := inCall.passes

theorem catchUpStep_tracked [DartText] (ids : (rules.map LocalRecurringRule.id).Nodup)
    (history : RecurringHistory) (event : RecurringEvent) (tracked : history.Tracked rules)
    (tells : CallsTell history event) : (catchUpStep history event).Tracked rules := by
  cases event with
  | start clock =>
    rw [catchUpStep]
    split
    · rename_i keys idle read
      refine tracked.reschedule rfl fun call running => ?_
      obtain rfl := Option.some.inj running
      exact tracked.start (tells idle keys read)
    · exact tracked
  | resume txId newId =>
    rw [catchUpStep]
    split
    · exact tracked
    · rename_i call running
      have inCall := tracked.call call running
      obtain ⟨empty, past, turn⟩ | ⟨empty, left, turn⟩ | ⟨row, rest, due, turn⟩ :=
        history.scheduler.turn_cases call txId newId
      · rw [turn]
        refine ⟨tracked.current, tracked.before, tracked.now, tracked.after, tracked.only,
          fun clock member rule inRules active => ?_, fun _ => nofun⟩
        obtain rfl | member := List.mem_cons.mp member
        · exact inCall.finished tracked empty past inRules active
        · exact tracked.completed clock member rule inRules active
      · rw [turn]
        refine tracked.reschedule rfl fun next nextRunning => ?_
        obtain rfl := Option.some.inj nextRunning
        exact inCall.pass tracked ids empty left
      · obtain ⟨handled, turn⟩ | ⟨-, known, turn⟩ | ⟨-, unknown, turn | ⟨device, turn⟩⟩ := turn
        · rw [turn]
          exact tracked.advanced ids running due handled txId
        · rw [turn]
          refine tracked.reschedule rfl fun next nextRunning => ?_
          obtain rfl := Option.some.inj nextRunning
          exact inCall.recognised tracked due known
        · rw [turn]
          exact tracked.reschedule rfl fun _ => nofun
        · rw [turn]
          exact tracked.posted ids running due unknown txId device
  | interrupt => exact tracked.reschedule rfl fun _ => nofun
  | ledger device => exact tracked.reschedule rfl tracked.call

end Recurring

/-- The recurring rules are posted exactly once, wherever the calls are interrupted and whatever
else happens to the ledger, if every call can tell at its start what has been posted. -/
theorem recurring_exactlyOnce [DartText] [LocalClock] (rules : List LocalRecurringRule)
    (device : Device) (ids : (rules.map LocalRecurringRule.id).Nodup)
    (events : List RecurringEvent)
    (tells : Machine.Guarded catchUpStep CallsTell (.initial rules device) events) :
    (Machine.run catchUpStep (.initial rules device) events).ExactlyOnce rules :=
  (Machine.guarded_invariant (fun history event => catchUpStep_tracked ids history event)
    (RecurringHistory.initial_tracked rules device) tells).exactlyOnce

/-! ### Two rules of one name -/

/-- A device in the time zone of Greenwich. -/
@[reducible] def greenwich : LocalClock where
  noon date := (date * 86400 + 43200) * 1000000
  dateOf instant := instant / 86400000000
  dateOf_noon date := by omega

/-- A rent of 900.00, due on the last day of January 2024. -/
def rentRule (id : String) : LocalRecurringRule where
  id := id
  name := "Rent"
  kind := "expense"
  amountMinor := 90000
  categoryAccountId := "book:acc_other_expense"
  accountId := "book:acc_bank"
  dayOfMonth := 31
  nextRunDate := 19753
  active := true

/-- A call posts the rent and is interrupted before it advances the rule. -/
def interruptedRent : List RecurringEvent :=
  [.start 19760, .resume "" "", .resume "t1" "m1", .interrupt]

/-- The next call recognises the rent and advances the rule. -/
def resumedRent : List RecurringEvent :=
  interruptedRent ++ [.start 19760, .resume "" "", .resume "t2" "m2", .resume "" "", .resume "" ""]

/-- One call for two flats. -/
def twoRents : List RecurringEvent :=
  [.start 19760, .resume "" "", .resume "t1" "m1", .resume "" "", .resume "t2" "m2",
    .resume "" "", .resume "" ""]

/-- The rent of one flat is posted once, although the first call is interrupted. -/
theorem recurring_exactlyOnce_resumed :
    (Machine.run (@catchUpStep asciiText greenwich) (.initial [rentRule "flat"] walletDevice)
      resumedRent).ExactlyOnce [rentRule "flat"] := by
  have later : ∀ index, 0 < index → (19760 : Int) < (rentRule "flat").occurrence index := by
    intro index positive
    have first : (19760 : Int) < (rentRule "flat").occurrence 1 := by decide +kernel
    exact first.trans_le ((rentRule "flat").occurrence_le positive)
  have tells : ∀ (history : RecurringHistory) (keys : List PostedRowKey),
      history.scheduler.rules = [rentRule "flat"] →
      (@LocalRecurringRule.rowKey greenwich (rentRule "flat") ∈ keys ↔
        0 < history.postingsOf "flat" 19753) →
      @RecurringHistory.Tells greenwich history 19760 keys := by
    intro history keys current known
    refine @RecurringHistory.Tells.mk greenwich _ _ _ (fun rule member _ index due => ?_)
      (fun rule member _ other otherIn _ _ _ _ _ => ?_) fun rule member _ => ?_
    · rw [current, List.mem_singleton] at member
      obtain rfl := member
      cases index with
      | zero => exact known
      | succ index => exact absurd (later _ (Nat.succ_pos index)) (not_lt_of_ge due)
    · rw [current, List.mem_singleton] at member otherIn
      rw [member, otherIn]
    · rw [current, List.mem_singleton] at member
      rw [member]
      exact later 36 (by decide)
  refine @recurring_exactlyOnce asciiText greenwich [rentRule "flat"] walletDevice
    (List.nodup_singleton _) resumedRent ?_
  rw [resumedRent, Machine.guarded_append]
  refine ⟨⟨fun _ keys read => ?_, trivial, trivial, trivial, trivial⟩,
    ⟨fun _ keys read => ?_, trivial, trivial, trivial, trivial, trivial⟩⟩
  · obtain rfl := Option.some.inj read
    exact tells _ _ rfl (by decide +kernel)
  · have shown : @RecurringScheduler.ledgerKeys greenwich
        (Machine.run (@catchUpStep asciiText greenwich)
          (.initial [rentRule "flat"] walletDevice) interruptedRent).scheduler =
        some [@LocalRecurringRule.rowKey greenwich (rentRule "flat")] := by decide +kernel
    obtain rfl := Option.some.inj (shown.symm.trans read)
    exact tells _ _ (by decide +kernel) (by decide +kernel)

/-- Of two rules with one name, amount and date, only the first is posted. -/
theorem recurring_skips_twin :
    ([rentRule "flat", rentRule "garage"].map LocalRecurringRule.id).Nodup ∧
      ¬(Machine.run (@catchUpStep asciiText greenwich)
        (.initial [rentRule "flat", rentRule "garage"] walletDevice) twoRents).ExactlyOnce
        [rentRule "flat", rentRule "garage"] := by
  refine ⟨by decide, fun exactlyOnce => ?_⟩
  have completed : (Machine.run (@catchUpStep asciiText greenwich)
      (.initial [rentRule "flat", rentRule "garage"] walletDevice) twoRents).completed =
      [19760] := by decide +kernel
  have once := exactlyOnce.due 19760 (by rw [completed]; exact List.mem_cons_self)
    (rentRule "garage") (by simp) rfl 0 (by decide)
  have none : (Machine.run (@catchUpStep asciiText greenwich)
      (.initial [rentRule "flat", rentRule "garage"] walletDevice) twoRents).postingsOf "garage"
      19753 = 0 := by decide +kernel
  exact absurd (none.symm.trans once) (by decide)

end Ledgerly
