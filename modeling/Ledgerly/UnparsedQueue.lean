/-
This file models the queue of the notifications that the parser could not read, and proves when it
holds one entry for every distinct notification.

An entry is found again by its id, which is made of the package, the timestamp and a hash of the
beginning of the text. So two notifications are one entry exactly if these agree, and that is the
same as their being one notification in a run that never delivers one again with another timestamp
and never two at once whose beginnings have one hash.
-/

import Ledgerly.BackupContainers
import Ledgerly.Library.Run
import Ledgerly.PaymentParser
import Mathlib.Data.Finset.Card

namespace Ledgerly

/-! ### The queue -/

/-- The arguments of `saveUnparsed`. -/
structure UnparsedCall where
  packageName : String
  platform : Option String
  reasonTag : String
  content : String
  timestamp : Int
  deriving DecidableEq

/-- An entry of the queue. -/
structure UnparsedEvent where
  id : String
  packageName : String
  platform : Option String
  reasonTag : String
  rawText : String
  timestamp : Int
  deriving DecidableEq

/-- The loop of `buildUnparsedId`. The mask keeps the low 31 bits, which the overflow of `Int` does
not touch. -/
def contentHash (content : String) : Nat :=
  ((utf16Units content).take 120).foldl (fun hash unit => (hash * 31 + unit) % 2 ^ 31) 0

/-- `buildUnparsedId`. -/
def buildUnparsedId (packageName : String) (timestamp : Int) (content : String) : String :=
  "unparsed-" ++ packageName ++ "-" ++ decimalText timestamp ++ "-" ++
    String.ofList (Nat.toDigits 16 (contentHash content))

namespace UnparsedCall

/-- The id of the entry. -/
def id (call : UnparsedCall) : String :=
  buildUnparsedId call.packageName call.timestamp call.content

/-- The notification of a call, whenever and however often it is delivered. -/
def notification (call : UnparsedCall) : String × String := (call.packageName, call.content)

/-- The entry, with the text cut to 2000 units. -/
def entry (call : UnparsedCall) : UnparsedEvent where
  id := call.id
  packageName := call.packageName
  platform := call.platform
  reasonTag := call.reasonTag
  rawText := PaymentParser.take 2000 call.content
  timestamp := call.timestamp

end UnparsedCall

/-- `PaymentEventStore.saveUnparsed`. -/
def saveUnparsed (queue : List UnparsedEvent) (call : UnparsedCall) : List UnparsedEvent :=
  if queue.any fun queued => queued.id = call.id then queue
  else
    let array := queue ++ [call.entry]
    array.drop (array.length - maxQueued)

/-- The queue after some calls. -/
def unparsedAfter (calls : List UnparsedCall) : List UnparsedEvent :=
  Machine.run saveUnparsed [] calls

/-- The queue holds one entry for each of the notifications: it is the entries of some of the
calls, one of each notification. -/
def OneEntryEach (calls : List UnparsedCall) (queue : List UnparsedEvent) : Prop :=
  ∃ kept, kept ⊆ calls ∧ queue = kept.map UnparsedCall.entry ∧
    (kept.map UnparsedCall.notification).Nodup ∧
    ∀ call ∈ calls, call.notification ∈ kept.map UnparsedCall.notification

/-- The id of a call is one that was used before exactly if its notification was delivered
before. -/
def ToldApart (done : List UnparsedCall) (call : UnparsedCall) : Prop :=
  call.id ∈ done.map UnparsedCall.id ↔ call.notification ∈ done.map UnparsedCall.notification

instance (done : List UnparsedCall) (call : UnparsedCall) : Decidable (ToldApart done call) :=
  inferInstanceAs (Decidable (_ ↔ _))

/-- The number of distinct notifications. -/
def notificationCount (calls : List UnparsedCall) : Nat :=
  (calls.map UnparsedCall.notification).toFinset.card

/-! ### The ids -/

/-- No hexadecimal digit is a minus sign. -/
theorem minus_not_mem_toDigits (value : Nat) : '-' ∉ Nat.toDigits 16 value := by
  have noMinus : ∀ digit, Nat.digitChar digit ≠ '-' := fun digit => Nat.digitChar_ne '-' (by decide)
  induction value using Nat.strongRecOn with
  | ind value inductionHypothesis =>
    rw [Nat.toDigits_eq_if (by decide)]
    by_cases single : value < 16
    · rw [if_pos single, List.mem_singleton]
      exact (noMinus value).symm
    · rw [if_neg single, List.mem_append, List.mem_singleton, not_or]
      exact ⟨inductionHypothesis (value / 16) (by omega), (noMinus _).symm⟩

theorem toDigits_inj {first second : Nat}
    (same : Nat.toDigits 16 first = Nat.toDigits 16 second) : first = second := by
  have digits : ∀ one < 16, ∀ two < 16, Nat.digitChar one = Nat.digitChar two → one = two := by
    decide
  have longer : ∀ (value : Nat) (last digit : Char), Nat.toDigits 16 value ++ [last] ≠ [digit] := by
    intro value last digit equal
    have lengths := congrArg List.length equal
    rw [List.length_append, List.length_singleton, List.length_singleton] at lengths
    have positive : 0 < (Nat.toDigits 16 value).length := Nat.length_toDigits_pos
    omega
  induction first using Nat.strongRecOn generalizing second with
  | ind first inductionHypothesis =>
    rw [Nat.toDigits_eq_if (by decide), @Nat.toDigits_eq_if 16 second (by decide)] at same
    by_cases oneDigit : first < 16
    · by_cases otherDigit : second < 16
      · rw [if_pos oneDigit, if_pos otherDigit] at same
        exact digits first oneDigit second otherDigit (List.singleton_inj.mp same)
      · rw [if_pos oneDigit, if_neg otherDigit] at same
        exact absurd same.symm (longer _ _ _)
    · by_cases otherDigit : second < 16
      · rw [if_neg oneDigit, if_pos otherDigit] at same
        exact absurd same (longer _ _ _)
      · rw [if_neg oneDigit, if_neg otherDigit] at same
        obtain ⟨front, last⟩ := List.append_inj' same rfl
        have quotients := inductionHypothesis (first / 16) (by omega) front
        have remainders := digits _ (Nat.mod_lt first (by decide)) _ (Nat.mod_lt second (by decide))
          (List.singleton_inj.mp last)
        omega

/-- Two ids of one package agree exactly where the timestamps and the hashes do. -/
theorem buildUnparsedId_eq_iff {packageName : String} {first second : Int} {one two : String} :
    buildUnparsedId packageName first one = buildUnparsedId packageName second two ↔
      first = second ∧ contentHash one = contentHash two := by
  constructor
  · intro same
    have lists := congrArg String.toList same
    simp only [buildUnparsedId, String.toList_append, String.toList_ofList, List.append_assoc,
      List.append_cancel_left_eq] at lists
    -- the hash stands behind the last minus sign
    have stops : ∀ value (front : List Char),
        ((Nat.toDigits 16 value).reverse ++ '-' :: front).takeWhile (fun digit => digit ≠ '-') =
          (Nat.toDigits 16 value).reverse := by
      intro value front
      rw [List.takeWhile_append_of_pos, List.takeWhile_cons_of_neg (by decide), List.append_nil]
      intro digit member
      refine decide_eq_true ?_
      rintro rfl
      exact minus_not_mem_toDigits value (List.mem_reverse.mp member)
    have minus : "-".toList.reverse = ['-'] := rfl
    have reversed := congrArg List.reverse lists
    simp only [List.reverse_append, minus, List.append_assoc, List.singleton_append] at reversed
    have hashes := congrArg (List.takeWhile fun digit => digit ≠ '-') reversed
    rw [stops, stops] at hashes
    rw [hashes] at reversed
    have times := List.reverse_inj.mp (List.cons.inj (List.append_cancel_left reversed)).2
    exact ⟨decimalText_injective (String.toList_inj.mp times),
      toDigits_inj (List.reverse_inj.mp hashes)⟩
  · rintro ⟨rfl, hashes⟩
    rw [buildUnparsedId, buildUnparsedId, hashes]

/-- A notification that an app delivers again, when nothing of the app came at that time before, is
not told apart. -/
theorem not_toldApart_of_later {done : List UnparsedCall} {call : UnparsedCall}
    (oneApp : ∀ earlier ∈ done, earlier.packageName = call.packageName)
    (later : ∀ earlier ∈ done, earlier.timestamp ≠ call.timestamp)
    (again : call.notification ∈ done.map UnparsedCall.notification) : ¬ToldApart done call := by
  intro apart
  obtain ⟨earlier, member, same⟩ := List.mem_map.mp (apart.mpr again)
  rw [UnparsedCall.id, UnparsedCall.id, oneApp earlier member] at same
  exact later earlier member (buildUnparsedId_eq_iff.mp same).1

/-! ### One call -/

/-- What the queue remembers of the calls so far: the calls whose entries it holds. -/
structure Collapsed (done kept : List UnparsedCall) : Prop where
  subset : kept ⊆ done
  distinct : (kept.map UnparsedCall.notification).Nodup
  notifications : ∀ call ∈ done, call.notification ∈ kept.map UnparsedCall.notification
  ids : ∀ call ∈ done, call.id ∈ kept.map UnparsedCall.id

variable {done kept calls : List UnparsedCall} {call : UnparsedCall}

theorem saveUnparsed_known (known : call.id ∈ kept.map UnparsedCall.id) :
    saveUnparsed (kept.map UnparsedCall.entry) call = kept.map UnparsedCall.entry := by
  obtain ⟨other, member, same⟩ := List.mem_map.mp known
  refine if_pos (List.any_eq_true.mpr ⟨other.entry, List.mem_map_of_mem member, ?_⟩)
  exact decide_eq_true same

theorem saveUnparsed_new (fresh : call.id ∉ kept.map UnparsedCall.id) :
    saveUnparsed (kept.map UnparsedCall.entry) call =
      ((kept ++ [call]).map UnparsedCall.entry).drop (kept.length + 1 - maxQueued) := by
  have absent : ¬((kept.map UnparsedCall.entry).any fun queued => queued.id = call.id) = true := by
    rw [List.any_eq_true]
    rintro ⟨queued, member, same⟩
    obtain ⟨other, isKept, rfl⟩ := List.mem_map.mp member
    exact fresh (List.mem_map.mpr ⟨other, isKept, of_decide_eq_true same⟩)
  rw [saveUnparsed, if_neg absent]
  dsimp only
  rw [List.length_append, List.length_map, List.length_singleton, List.map_append]
  rfl

/-- Kept calls of distinct notifications are as many as the notifications they are of. -/
theorem length_eq_card (distinct : (kept.map UnparsedCall.notification).Nodup) :
    kept.length = (kept.map UnparsedCall.notification).toFinset.card := by
  rw [List.toFinset_card_of_nodup distinct, List.length_map]

theorem length_le_of_subset (distinct : (kept.map UnparsedCall.notification).Nodup)
    (subset : kept ⊆ calls) : kept.length ≤ notificationCount calls := by
  rw [length_eq_card distinct]
  refine Finset.card_le_card fun notification member => ?_
  rw [List.mem_toFinset] at member ⊢
  exact List.map_subset _ subset member

theorem length_eq_of_covers (distinct : (kept.map UnparsedCall.notification).Nodup)
    (subset : kept ⊆ calls)
    (covers : ∀ call ∈ calls, call.notification ∈ kept.map UnparsedCall.notification) :
    kept.length = notificationCount calls := by
  refine le_antisymm (length_le_of_subset distinct subset) ?_
  rw [length_eq_card distinct]
  refine Finset.card_le_card fun notification member => ?_
  rw [List.mem_toFinset] at member ⊢
  obtain ⟨call, isCall, rfl⟩ := List.mem_map.mp member
  exact covers call isCall

theorem OneEntryEach.length_eq {queue : List UnparsedEvent} (each : OneEntryEach calls queue) :
    queue.length = notificationCount calls := by
  obtain ⟨kept, subset, rfl, distinct, covers⟩ := each
  rw [List.length_map]
  exact length_eq_of_covers distinct subset covers

theorem notificationCount_concat (done : List UnparsedCall) (call : UnparsedCall) :
    notificationCount (done ++ [call]) =
      if call.notification ∈ done.map UnparsedCall.notification then notificationCount done
      else notificationCount done + 1 := by
  have inserted : ((done ++ [call]).map UnparsedCall.notification).toFinset =
      insert call.notification (done.map UnparsedCall.notification).toFinset := by
    ext notification
    simp only [List.mem_toFinset, List.map_append, List.mem_append, List.map_singleton,
      List.mem_singleton, Finset.mem_insert]
    exact or_comm
  rw [notificationCount, inserted, notificationCount]
  by_cases delivered : call.notification ∈ done.map UnparsedCall.notification
  · rw [if_pos delivered, Finset.insert_eq_of_mem (List.mem_toFinset.mpr delivered)]
  · rw [if_neg delivered,
      Finset.card_insert_of_notMem fun member => delivered (List.mem_toFinset.mp member)]

theorem notificationCount_le (done rest : List UnparsedCall) :
    notificationCount done ≤ notificationCount (done ++ rest) := by
  refine Finset.card_le_card fun notification member => ?_
  rw [List.mem_toFinset] at member ⊢
  exact List.map_subset _ (List.subset_append_left _ _) member

/-- A call that is told apart keeps the memory of the queue, if there is room. -/
theorem Collapsed.step (collapsed : Collapsed done kept) (apart : ToldApart done call)
    (few : notificationCount (done ++ [call]) ≤ maxQueued) :
    ∃ kept', saveUnparsed (kept.map UnparsedCall.entry) call = kept'.map UnparsedCall.entry ∧
      Collapsed (done ++ [call]) kept' := by
  by_cases known : call.id ∈ kept.map UnparsedCall.id
  · refine ⟨kept, saveUnparsed_known known, ?_, collapsed.distinct, ?_, ?_⟩
    · exact fun other member => List.mem_append_left _ (collapsed.subset member)
    · rw [List.forall_mem_append, List.forall_mem_singleton]
      refine ⟨collapsed.notifications, ?_⟩
      obtain ⟨earlier, member, same⟩ :=
        List.mem_map.mp (apart.mp (List.map_subset _ collapsed.subset known))
      rw [← same]
      exact collapsed.notifications earlier member
    · rw [List.forall_mem_append, List.forall_mem_singleton]
      exact ⟨collapsed.ids, known⟩
  · have fresh : call.notification ∉ kept.map UnparsedCall.notification := by
      intro delivered
      obtain ⟨earlier, member, same⟩ :=
        List.mem_map.mp (apart.mpr (List.map_subset _ collapsed.subset delivered))
      rw [← same] at known
      exact known (collapsed.ids earlier member)
    have distinct : ((kept ++ [call]).map UnparsedCall.notification).Nodup := by
      rw [List.map_append, List.nodup_append_comm]
      exact List.nodup_cons.mpr ⟨fresh, collapsed.distinct⟩
    have subset : kept ++ [call] ⊆ done ++ [call] :=
      List.append_subset.mpr ⟨fun other member => List.mem_append_left _ (collapsed.subset member),
        List.subset_append_right _ _⟩
    have room : kept.length + 1 - maxQueued = 0 := by
      have bound := length_le_of_subset distinct subset
      rw [List.length_append, List.length_singleton] at bound
      exact Nat.sub_eq_zero_of_le (bound.trans few)
    refine ⟨kept ++ [call], ?_, subset, distinct, ?_, ?_⟩
    · rw [saveUnparsed_new known, room, List.drop_zero]
    · rw [List.forall_mem_append, List.forall_mem_singleton, List.map_append]
      exact ⟨fun other member => List.mem_append_left _ (collapsed.notifications other member),
        List.mem_append_right _ List.mem_cons_self⟩
    · rw [List.forall_mem_append, List.forall_mem_singleton, List.map_append]
      exact ⟨fun other member => List.mem_append_left _ (collapsed.ids other member),
        List.mem_append_right _ List.mem_cons_self⟩

theorem Collapsed.length_eq (collapsed : Collapsed done kept) :
    kept.length = notificationCount done :=
  length_eq_of_covers collapsed.distinct collapsed.subset collapsed.notifications

theorem Collapsed.oneEntryEach (collapsed : Collapsed done kept) :
    OneEntryEach done (kept.map UnparsedCall.entry) :=
  ⟨kept, collapsed.subset, rfl, collapsed.distinct, collapsed.notifications⟩

/-- Where the call leaves room and one entry each, it was told apart. -/
theorem Collapsed.toldApart (collapsed : Collapsed done kept)
    (room : notificationCount (done ++ [call]) < maxQueued)
    (each : OneEntryEach (done ++ [call]) (saveUnparsed (kept.map UnparsedCall.entry) call)) :
    ToldApart done call := by
  have length := each.length_eq
  have before := collapsed.length_eq
  have fits := notificationCount_le done [call]
  by_cases known : call.id ∈ kept.map UnparsedCall.id
  · rw [saveUnparsed_known known, List.length_map, before, notificationCount_concat] at length
    refine ⟨fun _ => ?_, fun _ => List.map_subset _ collapsed.subset known⟩
    by_contra fresh
    rw [if_neg fresh] at length
    omega
  · have noTrim : kept.length + 1 - maxQueued = 0 := by omega
    rw [saveUnparsed_new known, noTrim, List.drop_zero, List.length_map, List.length_append,
      List.length_singleton, before, notificationCount_concat] at length
    refine ⟨fun used => ?_, fun delivered => ?_⟩
    · obtain ⟨earlier, member, same⟩ := List.mem_map.mp used
      rw [← same] at known
      exact absurd (collapsed.ids earlier member) known
    · rw [if_pos delivered] at length
      omega

/-! ### A run of calls -/

/-- Every call of the run is told apart from those before it. -/
def AllToldApart (calls : List UnparsedCall) : Prop :=
  ∀ done call rest, calls = done ++ call :: rest → ToldApart done call

/-- After every call of the run there is one entry each. -/
def AlwaysOneEntryEach (calls : List UnparsedCall) : Prop :=
  ∀ done rest, calls = done ++ rest → OneEntryEach done (unparsedAfter done)

theorem unparsedAfter_concat (done : List UnparsedCall) (call : UnparsedCall) :
    unparsedAfter (done ++ [call]) = saveUnparsed (unparsedAfter done) call :=
  Machine.run_concat _ _ _ _

theorem exists_collapsed (few : notificationCount calls ≤ maxQueued) (apart : AllToldApart calls) :
    ∃ kept, unparsedAfter calls = kept.map UnparsedCall.entry ∧ Collapsed calls kept := by
  induction calls using List.reverseRecOn with
  | nil => exact ⟨[], rfl, ⟨List.Subset.refl _, List.nodup_nil, nofun, nofun⟩⟩
  | append_singleton done call inductionHypothesis =>
    obtain ⟨kept, queue, collapsed⟩ := inductionHypothesis
      ((notificationCount_le done [call]).trans few)
      fun earlier other rest split => apart earlier other (rest ++ [call]) (by
        rw [split, List.append_assoc, List.cons_append])
    rw [unparsedAfter_concat, queue]
    exact collapsed.step (apart done call [] rfl) few

/-- Over at most as many notifications as the queue has room for, it holds one entry each after
every call, if every call is told apart from those before it; and only then, if the notifications
leave room in the queue. -/
theorem saveUnparsed_collapses (calls : List UnparsedCall)
    (few : notificationCount calls ≤ maxQueued) :
    (AllToldApart calls → AlwaysOneEntryEach calls) ∧
      (notificationCount calls < maxQueued → AlwaysOneEntryEach calls → AllToldApart calls) := by
  constructor
  · rintro apart done rest rfl
    obtain ⟨kept, queue, collapsed⟩ := exists_collapsed ((notificationCount_le done rest).trans few)
      fun earlier call later split => apart earlier call (later ++ rest) (by
        rw [split, List.append_assoc, List.cons_append])
    rw [queue]
    exact collapsed.oneEntryEach
  · intro room each
    induction calls using List.reverseRecOn with
    | nil =>
      intro done call rest split
      exact absurd split.symm (List.append_ne_nil_of_right_ne_nil _ (List.cons_ne_nil _ _))
    | append_singleton calls last inductionHypothesis =>
      have fewer := notificationCount_le calls [last]
      have earlierApart := inductionHypothesis (fewer.trans few) (fewer.trans_lt room)
        fun done rest split => each done (rest ++ [last]) (by rw [split, List.append_assoc])
      obtain ⟨kept, queue, collapsed⟩ := exists_collapsed (fewer.trans few) earlierApart
      have lastEach := each (calls ++ [last]) [] (List.append_nil _).symm
      rw [unparsedAfter_concat, queue] at lastEach
      intro done call rest split
      rcases List.eq_nil_or_concat' rest with rfl | ⟨rest, other, rfl⟩
      · obtain ⟨rfl, same⟩ := List.append_inj' split rfl
        obtain rfl := List.singleton_inj.mp same
        exact collapsed.toldApart room lastEach
      · rw [← List.cons_append, ← List.append_assoc] at split
        obtain ⟨rfl, -⟩ := List.append_inj' split rfl
        exact earlierApart done call rest rfl

/-! ### Notifications of one morning -/

/-- A notification of WeChat that names no amount. -/
def wechatNotice (content : String) (timestamp : Int) : UnparsedCall where
  packageName := "com.tencent.mm"
  platform := some "wechat"
  reasonTag := "no_amount"
  content
  timestamp

/-- A notice of a payment without an amount. -/
def paidNotice (timestamp : Int) : UnparsedCall := wechatNotice "微信支付\n付款成功" timestamp

/-- Two texts that differ behind 120 characters. -/
def longNotice (ending : String) : UnparsedCall :=
  wechatNotice ("付款" ++ String.ofList (List.replicate 120 '!') ++ ending) 1788705000000

/-- Delivered again at its time, a notification is one entry. -/
theorem saveUnparsed_collapses_again :
    OneEntryEach [paidNotice 1, paidNotice 1] (unparsedAfter [paidNotice 1, paidNotice 1]) := by
  refine (saveUnparsed_collapses [paidNotice 1, paidNotice 1] (by decide +kernel)).1
    (fun done call rest split => ?_) _ [] rfl
  exact @Matching.forall_split _ _ (fun done call _ => ToldApart done call) (by decide +kernel)
    _ _ _ split

/-- Delivered a moment later it is two; and two notifications of one moment that begin alike are
one. -/
theorem saveUnparsed_splits_and_merges :
    ¬OneEntryEach [paidNotice 1, paidNotice 2] (unparsedAfter [paidNotice 1, paidNotice 2]) ∧
      ¬OneEntryEach [longNotice "一", longNotice "二"]
        (unparsedAfter [longNotice "一", longNotice "二"]) :=
  ⟨fun each => absurd each.length_eq (by decide +kernel),
    fun each => absurd each.length_eq (by decide +kernel)⟩

end Ledgerly
