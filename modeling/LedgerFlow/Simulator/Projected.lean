import LedgerFlow.LifecycleGrammar
import LedgerFlow.Simulator.Readings
import LedgerFlow.Store.PoisonRecords

/-!
# What a rebuild makes of a generated batch

The events of a generated transaction are a grammatical history, so that a rebuild writes one
state for each transaction and no exception. With the shipped rules its ledger is short enough
for every sum of a summary.
-/

namespace LedgerFlow.Simulator

open PyText Grouping

/-! ## Histories -/

section Histories

variable {gate : Gate} {transaction : Transaction} {stages : List Stage}

/-- The events of stages of a transaction. -/
def eventsOf (gate : Gate) (transaction : Transaction) (stages : List Stage) :
    List PaymentEvent :=
  stages.map fun stage => eventOf gate (transaction, stage)

/-- The versions of the events of a regular lifecycle increase in the order of its stages. -/
theorem regular_increasing (regular : Regular stages) :
    (eventsOf gate transaction stages).Pairwise fun first second =>
      first.transactionVersion < second.transactionVersion := by
  rw [eventsOf, List.pairwise_map]
  show stages.Pairwise fun first second => (first.version : Int) < second.version
  cases regular with
  | captured pair => simp [pair.first, pair.second]
  | reversed pair third => simp [pair.first, pair.second, third]

/-- The events of a regular lifecycle are in the order of their versions. -/
theorem regular_sorted (regular : Regular stages) :
    sortedByVersion (eventsOf gate transaction stages) = eventsOf gate transaction stages :=
  ((regular_increasing regular).imp fun less => le_of_lt less).insertionSort_eq

/-- The events of a regular lifecycle are in the order of a history. -/
theorem regular_in_order (regular : Regular stages) :
    (eventsOf gate transaction stages).insertionSort inOrder =
      eventsOf gate transaction stages := by
  have ordered : (eventsOf gate transaction stages).Pairwise inOrder :=
    (regular_increasing regular).imp fun less => Prod.Lex.toLex_le_toLex.mpr (.inl less)
  exact ordered.insertionSort_eq

/-- The versions of the events of a regular lifecycle count from one without a gap. -/
theorem regular_versions_count (regular : Regular stages) :
    (eventsOf gate transaction stages).map PaymentEvent.transactionVersion =
      firstVersions (eventsOf gate transaction stages).length := by
  have versions : (eventsOf gate transaction stages).map PaymentEvent.transactionVersion =
      (stages.map Stage.version).map Nat.cast := by
    rw [eventsOf, List.map_map, List.map_map]
    rfl
  rw [versions, eventsOf, List.length_map]
  cases regular with
  | captured pair =>
    simp only [List.map_cons, List.map_nil, pair.first, pair.second]
    rfl
  | reversed pair third =>
    simp only [List.map_cons, List.map_nil, pair.first, pair.second, third]
    rfl

/-- The types of the events of a regular lifecycle form a word of the lifecycle language. -/
theorem regular_word (regular : Regular stages) :
    (eventsOf gate transaction stages).map PaymentEvent.eventType ∈ lifecycle.matches' := by
  have types : (eventsOf gate transaction stages).map PaymentEvent.eventType =
      stages.map Stage.eventType := by
    rw [eventsOf, List.map_map]
    rfl
  rw [types, mem_lifecycle]
  cases regular with
  | captured pair =>
    rw [List.map_cons, List.map_cons, pair.opens, pair.captures]
    exact ⟨_, rfl, .inr ⟨_, rfl, fun _ member => absurd member List.not_mem_nil⟩⟩
  | @reversed _ _ last pair third reverses =>
    rw [List.map_cons, List.map_cons, pair.opens, pair.captures]
    refine ⟨_, rfl, .inr ⟨_, rfl, fun eventType member => ?_⟩⟩
    rw [List.map_cons, List.map_nil, List.mem_singleton] at member
    rintro rfl
    rw [← member] at reverses
    rcases reverses with other | other <;> cases other

/-- The total of the stages of a type. -/
def stagesAmount (eventType : EventType) (stages : List Stage) : Int :=
  ((stages.filter fun stage => stage.eventType = eventType).map fun stage =>
    (stage.amountMinor : Int)).sum

/-- The amount of the events of one type is that of the stages of that type. -/
theorem events_amount (eventType : EventType) (stages : List Stage) :
    amount (ofType eventType (eventsOf gate transaction stages)) =
      stagesAmount eventType stages := by
  rw [ofType, eventsOf, List.filter_map, amount, List.map_map]
  rfl

/-- In a regular lifecycle no total exceeds the one it draws on: captures stay within
authorizations, and refunds and chargebacks within captures. -/
theorem regular_covered (regular : Regular stages) :
    stagesAmount .capture stages ≤ stagesAmount .authorization stages ∧
      stagesAmount .refund stages + stagesAmount .chargeback stages ≤
        stagesAmount .capture stages := by
  cases regular with
  | captured pair =>
    simp [stagesAmount, pair.opens, pair.captures, pair.amount]
  | @reversed _ _ last pair third reverses covered =>
    rcases reverses with refund | chargeback
    · simp [stagesAmount, pair.opens, pair.captures, pair.amount, refund]
      exact pair.amount ▸ covered
    · simp [stagesAmount, pair.opens, pair.captures, pair.amount, chargeback]
      exact pair.amount ▸ covered

/-- What is the same for all stages is the same for all events. -/
theorem events_constant {α : Type} {field : PaymentEvent → α} {value : α}
    (same : ∀ stage, field (eventOf gate (transaction, stage)) = value) :
    ∀ event ∈ eventsOf gate transaction stages, field event = value := by
  intro event member
  obtain ⟨stage, _, rfl⟩ := List.mem_map.mp member
  exact same stage

/-- The events of a regular lifecycle form a grammatical history, so the store finds nothing to
refuse in it. -/
theorem regular_grammatical (regular : Regular stages) :
    Grammatical (eventsOf gate transaction stages) where
  versions := by
    rw [regular_sorted regular]
    exact regular_versions_count regular
  currency := ⟨currencyOf transaction.number, events_constant fun _ => rfl⟩
  processor := ⟨⟨_, processor_id_valid transaction.number⟩, events_constant fun _ => rfl⟩
  merchant := ⟨⟨_, merchant_id_valid transaction.number⟩, events_constant fun _ => rfl⟩
  word := by
    rw [regular_sorted regular]
    exact regular_word regular
  captured := by
    rw [capturedMinor, authorizedMinor, events_amount, events_amount]
    exact (regular_covered regular).1
  reversed := by
    rw [refundedMinor, chargebackMinor, capturedMinor, events_amount, events_amount, events_amount]
    exact (regular_covered regular).2

end Histories

/-! ## The rebuild -/

section Rebuild

variable {sources : List Source} (gate : Gate) (batch : Batch sources)

/-- The events of a lifecycle. -/
def Lifecycle.events (lifecycle : Lifecycle) : List PaymentEvent :=
  eventsOf gate lifecycle.transaction lifecycle.stages

/-- The transaction of a lifecycle. -/
def Lifecycle.id (lifecycle : Lifecycle) : Identifier := lifecycle.transaction.id

/-- The events of a batch are those of its lifecycles, one after another. -/
theorem Batch.events_lifecycles :
    batch.events gate = batch.lifecycles.flatMap (Lifecycle.events gate) := by
  rw [Batch.events, Batch.staged, List.map_flatMap]
  refine List.flatMap_congr fun lifecycle _ => ?_
  rw [Lifecycle.staged, List.map_map]
  rfl

/-- There are fewer transactions in a batch than 10^12, since their times lie in the calendar; so
a padded number keeps its width. -/
theorem Batch.lifecycles_bound : batch.lifecycles.length < 10 ^ 12 := by
  have last : batch.lifecycles.length ∈ batch.lifecycles.map Lifecycle.number := by
    rw [Batch.lifecycles, batch.numbered.numbers, List.mem_range'_1, List.length_cons]
    omega
  obtain ⟨lifecycle, _, same⟩ := List.mem_map.mp last
  exact same ▸ lifecycle.transaction.inRange

/-- The lifecycles of a batch are of different transactions, as their numbers differ. -/
theorem Batch.lifecycles_keyed : Keyed Lifecycle.id batch.lifecycles := by
  have numbers : (batch.lifecycles.map Lifecycle.number).Nodup := by
    rw [Batch.lifecycles, batch.numbered.numbers]
    exact List.nodup_range'
  rw [List.Nodup, List.pairwise_map] at numbers
  rw [Keyed, List.Nodup, List.pairwise_map]
  exact numbers.imp fun apart same => apart (transaction_id_inj same)

/-- The accepted transactions of a batch are the transactions of its lifecycles, each of them and
no other. -/
theorem Batch.mem_transaction_ids {transactionId : Identifier} :
    transactionId ∈ transactionIds (batch.events gate) ↔
      ∃ lifecycle ∈ batch.lifecycles, lifecycle.id = transactionId := by
  rw [LedgerFlow.mem_transaction_ids, Batch.events_lifecycles]
  constructor
  · rintro ⟨event, member, rfl⟩
    obtain ⟨lifecycle, listed, inside⟩ := List.mem_flatMap.mp member
    exact ⟨lifecycle, listed, (events_constant (fun _ => rfl) event inside).symm⟩
  · rintro ⟨lifecycle, listed, rfl⟩
    obtain ⟨opening, capture, more, starts⟩ := regular_starts lifecycle.regular
    have inside : eventOf gate (lifecycle.transaction, opening) ∈ lifecycle.events gate :=
      List.mem_map_of_mem (starts ▸ List.mem_cons_self)
    exact ⟨_, List.mem_flatMap.mpr ⟨lifecycle, listed, inside⟩, rfl⟩

/-- There are as many accepted transactions as lifecycles: the identifiers are distinct, and each
lifecycle has an event. -/
theorem Batch.transaction_ids_length :
    (transactionIds (batch.events gate)).length = batch.lifecycles.length := by
  have same : (transactionIds (batch.events gate)).Perm (batch.lifecycles.map Lifecycle.id) := by
    refine (List.perm_ext_iff_of_nodup (transaction_ids_nodup _) batch.lifecycles_keyed).mpr ?_
    intro transactionId
    rw [batch.mem_transaction_ids gate, List.mem_map]
  rw [same.length_eq, List.length_map]

/-- The history of a transaction among all events of the batch is the events of its own lifecycle,
in their order. -/
theorem Batch.history_lifecycle {lifecycle : Lifecycle} (listed : lifecycle ∈ batch.lifecycles) :
    history (batch.events gate) lifecycle.id = lifecycle.events gate := by
  rw [history, Batch.events_lifecycles, group_flat_map Lifecycle.id (Lifecycle.events gate)
    batch.lifecycles_keyed (fun other _ event member => events_constant (fun _ => rfl) event member)
    listed]
  exact regular_in_order lifecycle.regular

/-- A lifecycle has two or three events, as many as it has stages. -/
theorem Lifecycle.events_length (lifecycle : Lifecycle) :
    2 ≤ (lifecycle.events gate).length ∧ (lifecycle.events gate).length ≤ 3 := by
  rw [Lifecycle.events, eventsOf, List.length_map]
  exact regular_length lifecycle.regular

/-- What is projected for a lifecycle: no exception, all of its events posted with their lines,
and one state. -/
theorem Lifecycle.projected (rules : PostingRules) (lifecycle : Lifecycle) :
    ∃ state, projection rules (lifecycle.events gate) =
      ⟨[], (lifecycle.events gate).flatMap (postedRows rules),
        (lifecycle.events gate).flatMap (postings rules), [state]⟩ := by
  have size := lifecycle.events_length gate
  have nonempty : lifecycle.events gate ≠ [] := by
    rw [← List.length_pos_iff]
    omega
  obtain ⟨current, last⟩ := last_exists nonempty
  have valid := (valid_grammatical nonempty).mpr (regular_grammatical lifecycle.regular)
  exact ⟨_, projection_valid last (verdict_none.mpr valid)⟩

/-- A rebuild of the batch has no exception and a state for every lifecycle. -/
theorem Batch.projected (rules : PostingRules) :
    (projectAll rules (batch.events gate)).exceptions = [] ∧
      (projectAll rules (batch.events gate)).states.length = batch.lifecycles.length := by
  have rows {transactionId : Identifier}
      (member : transactionId ∈ transactionIds (batch.events gate)) :
      (projection rules (history (batch.events gate) transactionId)).exceptions = [] ∧
        (projection rules (history (batch.events gate) transactionId)).states.length = 1 := by
    obtain ⟨lifecycle, listed, rfl⟩ := (batch.mem_transaction_ids gate).mp member
    obtain ⟨state, same⟩ := lifecycle.projected gate rules
    rw [batch.history_lifecycle gate listed, same]
    exact ⟨rfl, rfl⟩
  constructor
  · rw [project_all_exceptions, List.flatMap_eq_nil_iff]
    exact fun transactionId member => (rows member).1
  · rw [project_all_states, List.length_flatMap,
      List.map_congr_left fun transactionId member => (rows member).2, List.map_const',
      List.sum_replicate_nat, Nat.mul_one, batch.transaction_ids_length gate]

end Rebuild

/-! ## The ledger -/

/-- The shipped rules balance for every event type, and each of their lines posts the amount with
one sign or the other. -/
theorem shipped_multipliers (eventType : EventType) : multiplierSum (shippedLines eventType) = 0 ∧
    ∀ entry ∈ shippedLines eventType, Encodable entry.1 ∧ (entry.2 = 1 ∨ entry.2 = -1) := by
  cases eventType <;> refine ⟨rfl, ?_⟩
  · exact fun _ member => absurd member List.not_mem_nil
  all_goals
    simp only [shippedLines, List.forall_mem_cons]
    exact ⟨⟨by decide, by decide⟩, ⟨by decide, by decide⟩,
      fun _ member => absurd member List.not_mem_nil⟩

/-- A line of a modest event is for its amount, with either sign. -/
theorem shipped_line {event : PaymentEvent} (modest : Modest event) {line : PostingLine}
    (member : line ∈ postings shippedRules event) :
    Encodable line.account ∧ line.postingRuleVersion = 1 ∧ line.signedMinor.natAbs ≤ 500001 := by
  obtain ⟨_, _, _, _, _, version, _, entry, listed, account, signed⟩ := numbered_line member
  obtain ⟨encodable, sign⟩ := (shipped_multipliers event.eventType).2 entry listed
  have amount := modest.amount
  have positive := event.amountPositive
  refine ⟨account ▸ encodable, version, ?_⟩
  rcases sign with plus | minus
  · rw [signed, plus]
    omega
  · rw [signed, minus]
    omega

/-- A modest event can be posted under the shipped rules: its amounts fit into the columns of the
ledger. -/
theorem modest_postable {event : PaymentEvent} (modest : Modest event) :
    Postable shippedRules event := by
  refine ⟨⟨_, rfl, (shipped_multipliers event.eventType).1⟩, fun line member => ?_⟩
  obtain ⟨encodable, version, amount⟩ := shipped_line modest member
  refine ⟨encodable, ?_, version ▸ by decide⟩
  unfold Int64
  omega

/-- The running sums of a modest event fit, since its two lines cancel. -/
theorem shipped_fits {event : PaymentEvent} (modest : Modest event) :
    RunningFits 0 ((postings shippedRules event).map PostingLine.signedMinor) := by
  have amount := modest.amount
  have positive := event.amountPositive
  cases kind : event.eventType <;>
    simp only [postings, shippedRules, kind, Option.getD_some, shippedLines, numberedLines,
      postingLine, List.map_cons, List.map_nil, RunningFits, Int64, and_true] <;> omega

/-- Modest events can be summed by SQLite: the sum over the lines of one event stays within 64
bits, and no sum is over more. -/
theorem shipped_summable {accepted : List PaymentEvent}
    (modest : ∀ event ∈ accepted, Modest event) : Summable shippedRules accepted := by
  intro event member
  obtain ⟨transactionId, _, inside⟩ := List.mem_flatMap.mp member
  split at inside
  · exact shipped_fits (modest event (mem_history.mp inside).1)
  · cases inside

end LedgerFlow.Simulator
