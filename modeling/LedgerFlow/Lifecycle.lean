import LedgerFlow.Identity
import LedgerFlow.Postings
import Mathlib.Data.Prod.Lex

/-!
# The lifecycle of a transaction and its projection

The definitions follow `_project_transaction` in `store.py`: `verdict` is its chain of
tests, in order, and `paymentStatus` its status cascade. `projection` collects the rows
it writes for one history and `projectAll` those of a whole rebuild, which handles the
transactions one by one in the order of their identifiers.

A rebuild is a function of the set of accepted events: histories are sorted by version,
time and event identifier, which is antisymmetric on events with distinct identifiers,
and nothing reads the receipt time.
-/

namespace LedgerFlow

open PyText PyDateTime Grouping

/-! ## Data model -/

/-- The reasons of business exceptions. -/
inductive Violation where
  | transactionVersionConflict
  | transactionVersionGap
  | currencyMutation
  | processorMutation
  | merchantMutation
  | duplicateAuthorization
  | captureWithoutAuthorization
  | missingAuthorization
  | captureBeforeAuthorization
  | reversalWithoutCapture
  | reversalBeforeCapture
  | captureExceedsAuthorization
  | refundOrChargebackExceedsCapture
  deriving DecidableEq

/-- The reason as the tables spell it. -/
def Violation.text : Violation → Str
  | .transactionVersionConflict => str "transaction_version_conflict"
  | .transactionVersionGap => str "transaction_version_gap"
  | .currencyMutation => str "currency_mutation"
  | .processorMutation => str "processor_mutation"
  | .merchantMutation => str "merchant_mutation"
  | .duplicateAuthorization => str "duplicate_authorization"
  | .captureWithoutAuthorization => str "capture_without_authorization"
  | .missingAuthorization => str "missing_authorization"
  | .captureBeforeAuthorization => str "capture_before_authorization"
  | .reversalWithoutCapture => str "reversal_without_capture"
  | .reversalBeforeCapture => str "reversal_before_capture"
  | .captureExceedsAuthorization => str "capture_exceeds_authorization"
  | .refundOrChargebackExceedsCapture => str "refund_or_chargeback_exceeds_capture"

/-- The statuses of a payment. -/
inductive PaymentStatus where
  | authorized
  | partiallyCaptured
  | captured
  | partiallyRefunded
  | refunded
  | partiallyChargedback
  | chargedback
  deriving DecidableEq

/-- The status as the tables spell it. -/
def PaymentStatus.text : PaymentStatus → Str
  | .authorized => str "AUTHORIZED"
  | .partiallyCaptured => str "PARTIALLY_CAPTURED"
  | .captured => str "CAPTURED"
  | .partiallyRefunded => str "PARTIALLY_REFUNDED"
  | .refunded => str "REFUNDED"
  | .partiallyChargedback => str "PARTIALLY_CHARGEDBACK"
  | .chargedback => str "CHARGEDBACK"

/-- A row of `business_exception`. -/
structure ExceptionRow where
  eventId : Identifier
  transactionId : Identifier
  reason : Violation
  deriving DecidableEq

/-- A row of `posted_event`. -/
structure PostedRow where
  eventId : Identifier
  transactionId : Identifier
  processorId : Identifier
  merchantId : Identifier
  eventType : EventType
  amountMinor : Int
  currency : Currency
  eventTime : Timestamp
  deriving DecidableEq

/-- A row of `payment_state`. -/
structure StateRow where
  transactionId : Identifier
  currentVersion : Int
  currentEventId : Identifier
  status : PaymentStatus
  authorizedMinor : Int
  capturedMinor : Int
  refundedMinor : Int
  chargebackMinor : Int
  currency : Currency
  processorId : Identifier
  merchantId : Identifier
  deriving DecidableEq

/-! ## Totals, verdict and status -/

/-- The events of one type. -/
def ofType (eventType : EventType) (events : List PaymentEvent) : List PaymentEvent :=
  events.filter fun event => event.eventType = eventType

/-- The refunds and chargebacks. -/
def reversals (events : List PaymentEvent) : List PaymentEvent :=
  events.filter fun event => event.eventType = .refund ∨ event.eventType = .chargeback

/-- `sum(event.amount_minor for event in events)` -/
def amount (events : List PaymentEvent) : Int := (events.map PaymentEvent.amountMinor).sum

/-- The authorized, captured, refunded and charged back totals of a history. -/
def authorizedMinor (events : List PaymentEvent) : Int := amount (ofType .authorization events)
def capturedMinor (events : List PaymentEvent) : Int := amount (ofType .capture events)
def refundedMinor (events : List PaymentEvent) : Int := amount (ofType .refund events)
def chargebackMinor (events : List PaymentEvent) : Int := amount (ofType .chargeback events)

/-- `min(event.transaction_version for event in events)` of a nonempty list. -/
def leastVersion (events : List PaymentEvent) : Int :=
  ((events.map PaymentEvent.transactionVersion).min?).getD 0

/-- `max(event.transaction_version for event in events)` of a nonempty list. -/
def greatestVersion (events : List PaymentEvent) : Int :=
  ((events.map PaymentEvent.transactionVersion).max?).getD 0

section Extremes

variable {events : List PaymentEvent}

/-- A nonempty history has a least version, and it is the one that the state row is compared with;
the default of the definition is never used. -/
theorem least_some (nonempty : events ≠ []) :
    (events.map PaymentEvent.transactionVersion).min? = some (leastVersion events) := by
  unfold leastVersion
  cases least : (events.map PaymentEvent.transactionVersion).min? with
  | none => exact absurd (List.map_eq_nil_iff.mp (List.min?_eq_none_iff.mp least)) nonempty
  | some n => rfl

/-- A nonempty history has a greatest version; the default of the definition is never used. -/
theorem greatest_some (nonempty : events ≠ []) :
    (events.map PaymentEvent.transactionVersion).max? = some (greatestVersion events) := by
  unfold greatestVersion
  cases greatest : (events.map PaymentEvent.transactionVersion).max? with
  | none => exact absurd (List.map_eq_nil_iff.mp (List.max?_eq_none_iff.mp greatest)) nonempty
  | some n => rfl

/-- The least version is the version of an event and below every other. -/
theorem least_version_spec (nonempty : events ≠ []) :
    (∃ event ∈ events, event.transactionVersion = leastVersion events) ∧
      ∀ event ∈ events, leastVersion events ≤ event.transactionVersion := by
  obtain ⟨attained, below⟩ := List.min?_eq_some_iff.mp (least_some nonempty)
  exact ⟨List.mem_map.mp attained, fun event member => below _ (List.mem_map_of_mem member)⟩

/-- The greatest version is the version of an event and above every other. -/
theorem greatest_version_spec (nonempty : events ≠ []) :
    (∃ event ∈ events, event.transactionVersion = greatestVersion events) ∧
      ∀ event ∈ events, event.transactionVersion ≤ greatestVersion events := by
  obtain ⟨attained, above⟩ := List.max?_eq_some_iff.mp (greatest_some nonempty)
  exact ⟨List.mem_map.mp attained, fun event member => above _ (List.mem_map_of_mem member)⟩

end Extremes

/-- The size of a set comprehension over the events. -/
def distinct {α : Type} [DecidableEq α] (field : PaymentEvent → α) (events : List PaymentEvent) :
    Nat := (events.map field).dedup.length

/-- The first failing lifecycle test of a nonempty history, if any. -/
def verdict (events : List PaymentEvent) : Option Violation :=
  let authorizations := ofType .authorization events
  let captures := ofType .capture events
  let reversed := reversals events
  if distinct PaymentEvent.transactionVersion events ≠ events.length then
    some .transactionVersionConflict
  else if leastVersion events ≠ 1 ∨ greatestVersion events ≠ events.length then
    some .transactionVersionGap
  else if distinct PaymentEvent.currency events ≠ 1 then some .currencyMutation
  else if distinct PaymentEvent.processorId events ≠ 1 then some .processorMutation
  else if distinct PaymentEvent.merchantId events ≠ 1 then some .merchantMutation
  else if 1 < authorizations.length then some .duplicateAuthorization
  else if authorizations = [] ∧ captures ≠ [] then some .captureWithoutAuthorization
  else if authorizations = [] then some .missingAuthorization
  else if captures ≠ [] ∧ leastVersion captures ≤
      (authorizations.head?.map PaymentEvent.transactionVersion).getD 0 then
    some .captureBeforeAuthorization
  else if reversed ≠ [] ∧ captures = [] then some .reversalWithoutCapture
  else if reversed ≠ [] ∧ leastVersion reversed ≤ leastVersion captures then
    some .reversalBeforeCapture
  else if authorizedMinor events < capturedMinor events then some .captureExceedsAuthorization
  else if capturedMinor events < refundedMinor events + chargebackMinor events then
    some .refundOrChargebackExceedsCapture
  else none

/-- The status cascade of a valid history. -/
def paymentStatus (events : List PaymentEvent) : PaymentStatus :=
  let authorized := authorizedMinor events
  let captured := capturedMinor events
  let refunded := refundedMinor events
  let chargedBack := chargebackMinor events
  if 0 < chargedBack then
    if refunded + chargedBack = captured then .chargedback else .partiallyChargedback
  else if 0 < refunded then
    if refunded = captured then .refunded else .partiallyRefunded
  else if 0 < captured then
    if captured = authorized then .captured else .partiallyCaptured
  else .authorized

/-! ## Projections -/

/-- The rows a rebuild writes. -/
structure Projection where
  exceptions : List ExceptionRow
  posted : List PostedRow
  ledger : List PostingLine
  states : List StateRow
  deriving DecidableEq

/-- The exception row of an event. -/
def exceptionRow (reason : Violation) (event : PaymentEvent) : ExceptionRow :=
  ⟨event.eventId, event.transactionId, reason⟩

/-- The posted row of an event. -/
def postedRow (event : PaymentEvent) : PostedRow :=
  ⟨event.eventId, event.transactionId, event.processorId, event.merchantId, event.eventType,
    event.amountMinor, event.currency, event.eventTime⟩

/-- The posted row of an event that has postings. -/
def postedRows (rules : PostingRules) (event : PaymentEvent) : List PostedRow :=
  if postings rules event = [] then [] else [postedRow event]

/-- The state row of a history whose last event is `current`. -/
def stateRow (events : List PaymentEvent) (current : PaymentEvent) : StateRow :=
  ⟨current.transactionId, current.transactionVersion, current.eventId, paymentStatus events,
    authorizedMinor events, capturedMinor events, refundedMinor events, chargebackMinor events,
    current.currency, current.processorId, current.merchantId⟩

/-- The rows of one sorted history. -/
def projection (rules : PostingRules) (events : List PaymentEvent) : Projection :=
  match events.getLast? with
  | none => ⟨[], [], [], []⟩
  | some current =>
      match verdict events with
      | some reason => ⟨events.map (exceptionRow reason), [], [], []⟩
      | none => ⟨[], events.flatMap (postedRows rules), events.flatMap (postings rules),
          [stateRow events current]⟩

/-- `ORDER BY transaction_version, event_time, event_id` -/
def sortKey (event : PaymentEvent) : Lex (Int × Lex (Str × Str)) :=
  toLex (event.transactionVersion, toLex (event.eventTime.isoformat, event.eventId.1))

/-- The order of a history. -/
def inOrder (first second : PaymentEvent) : Prop := sortKey first ≤ sortKey second

instance : DecidableRel inOrder := fun first second =>
  inferInstanceAs (Decidable (sortKey first ≤ sortKey second))

instance : Std.Total inOrder := ⟨fun first second => le_total (sortKey first) (sortKey second)⟩

instance : IsTrans PaymentEvent inOrder := ⟨fun _ _ _ => le_trans⟩

/-- The accepted events of a transaction, in order. -/
def history (accepted : List PaymentEvent) (transactionId : Identifier) : List PaymentEvent :=
  (group PaymentEvent.transactionId transactionId accepted).insertionSort inOrder

/-- The order of transaction identifiers. -/
def byText (first second : Identifier) : Prop := first.1 ≤ second.1

instance : DecidableRel byText := fun first second =>
  inferInstanceAs (Decidable (first.1 ≤ second.1))

instance : Std.Total byText := ⟨fun first second => le_total first.1 second.1⟩

instance : IsTrans Identifier byText := ⟨fun _ _ _ => le_trans⟩

/-- `SELECT DISTINCT transaction_id FROM accepted_event ORDER BY transaction_id` -/
def transactionIds (accepted : List PaymentEvent) : List Identifier :=
  (accepted.map PaymentEvent.transactionId).dedup.insertionSort byText

/-- The rows of a whole rebuild. -/
def projectAll (rules : PostingRules) (accepted : List PaymentEvent) : Projection :=
  let parts := (transactionIds accepted).map fun transactionId =>
    projection rules (history accepted transactionId)
  ⟨parts.flatMap Projection.exceptions, parts.flatMap Projection.posted,
    parts.flatMap Projection.ledger, parts.flatMap Projection.states⟩

/-! ## Histories -/

/-- The history of a transaction holds its accepted events, whichever their order, and no event of
another transaction. -/
theorem mem_history {accepted : List PaymentEvent} {transactionId : Identifier}
    {event : PaymentEvent} :
    event ∈ history accepted transactionId ↔
      event ∈ accepted ∧ event.transactionId = transactionId := by
  rw [history, List.mem_insertionSort, mem_group]

/-- The transactions of some accepted events are those that one of the events names. -/
theorem mem_transaction_ids {accepted : List PaymentEvent} {transactionId : Identifier} :
    transactionId ∈ transactionIds accepted ↔
      ∃ event ∈ accepted, event.transactionId = transactionId := by
  rw [transactionIds, List.mem_insertionSort, List.mem_dedup, List.mem_map]

/-- Each transaction is listed once, however many events it has, so the projection meets each
history once. -/
theorem transaction_ids_nodup (accepted : List PaymentEvent) :
    (transactionIds accepted).Nodup :=
  (List.perm_insertionSort byText _).nodup_iff.mpr (List.nodup_dedup _)

/-- The projection goes through the listed transactions only, so it never meets an empty
history. -/
theorem history_nonempty {accepted : List PaymentEvent} {transactionId : Identifier}
    (listed : transactionId ∈ transactionIds accepted) : history accepted transactionId ≠ [] := by
  obtain ⟨event, member, same⟩ := mem_transaction_ids.mp listed
  exact List.ne_nil_of_mem (mem_history.mpr ⟨member, same⟩)

/-- Event identifiers stay unique in a history, since it selects and sorts but repeats nothing. -/
theorem history_keyed {accepted : List PaymentEvent} (keyed : Keyed PaymentEvent.eventId accepted)
    (transactionId : Identifier) : Keyed PaymentEvent.eventId (history accepted transactionId) := by
  have part : Keyed PaymentEvent.eventId
      (group PaymentEvent.transactionId transactionId accepted) :=
    keyed.sublist (List.filter_sublist.map _)
  exact ((List.perm_insertionSort inOrder _).map _).nodup_iff.mpr part

/-! ## Order and receipt times do not matter -/

/-- The event with its receipt time forgotten. -/
def erased (event : PaymentEvent) : PaymentEvent := { event with receivedAt := event.eventTime }

/-- Alike events are the events with one erased form. To be blind to receipt times is therefore to
commute with the erasure. -/
theorem alike_iff_erased {first second : PaymentEvent} :
    Alike first second ↔ erased first = erased second := by
  cases first
  cases second
  simp [Alike, erased]

/-- A column that the erasure leaves alone is the same column of the erased events. -/
theorem map_erased {α : Type} (field : PaymentEvent → α) (events : List PaymentEvent)
    (blind : ∀ event, field (erased event) = field event) :
    (events.map erased).map field = events.map field := by
  rw [List.map_map]
  exact List.map_congr_left fun event _ => blind event

/-- A selection that does not look at what is erased commutes with the erasure. -/
theorem filter_erased (keep : PaymentEvent → Bool) (events : List PaymentEvent)
    (blind : ∀ event, keep (erased event) = keep event) :
    (events.map erased).filter keep = (events.filter keep).map erased := by
  rw [List.filter_map]
  exact congrArg _ (List.filter_congr fun event _ => blind event)

/-- The type of an event is not erased, so the events of one type are selected alike. -/
theorem of_type_erased (eventType : EventType) (events : List PaymentEvent) :
    ofType eventType (events.map erased) = (ofType eventType events).map erased :=
  filter_erased _ events fun _ => rfl

/-- The type of an event is not erased, so neither is what counts as a reversal. -/
theorem reversals_erased (events : List PaymentEvent) :
    reversals (events.map erased) = (reversals events).map erased :=
  filter_erased _ events fun _ => rfl

/-- The amounts are not erased, so a sum over the erased events is the same sum. -/
theorem amount_erased (events : List PaymentEvent) : amount (events.map erased) = amount events :=
  congrArg List.sum (map_erased PaymentEvent.amountMinor events fun _ => rfl)

/-- The four totals do not read receipt times: they select by type and add amounts. -/
theorem totals_erased (events : List PaymentEvent) :
    authorizedMinor (events.map erased) = authorizedMinor events ∧
      capturedMinor (events.map erased) = capturedMinor events ∧
      refundedMinor (events.map erased) = refundedMinor events ∧
      chargebackMinor (events.map erased) = chargebackMinor events := by
  simp only [authorizedMinor, capturedMinor, refundedMinor, chargebackMinor, of_type_erased,
    amount_erased, and_self]

/-- The least version of some events does not depend on when they were received. -/
theorem least_erased (events : List PaymentEvent) :
    leastVersion (events.map erased) = leastVersion events := by
  rw [leastVersion, map_erased PaymentEvent.transactionVersion events fun _ => rfl, leastVersion]

/-- The greatest version does not depend on it either. -/
theorem greatest_erased (events : List PaymentEvent) :
    greatestVersion (events.map erased) = greatestVersion events := by
  rw [greatestVersion, map_erased PaymentEvent.transactionVersion events fun _ => rfl,
    greatestVersion]

/-- The number of values in a column that the erasure leaves alone is not changed. -/
theorem distinct_erased {α : Type} [DecidableEq α] (field : PaymentEvent → α)
    (events : List PaymentEvent) (blind : ∀ event, field (erased event) = field event) :
    distinct field (events.map erased) = distinct field events := by
  rw [distinct, map_erased field events blind, distinct]

/-- The version that a history starts with does not depend on it. -/
theorem head_version_erased (events : List PaymentEvent) :
    (events.map erased).head?.map PaymentEvent.transactionVersion =
      events.head?.map PaymentEvent.transactionVersion := by
  cases events <;> rfl

/-- The verdict does not read receipt times: every test is about types, versions, amounts or the
fields of the parties. -/
theorem verdict_erased (events : List PaymentEvent) :
    verdict (events.map erased) = verdict events := by
  obtain ⟨authorized, captured, refunded, chargedBack⟩ := totals_erased events
  simp only [verdict, of_type_erased, reversals_erased, authorized, captured, refunded,
    chargedBack, least_erased, greatest_erased, head_version_erased, List.length_map, ne_eq,
    List.map_eq_nil_iff, distinct_erased PaymentEvent.transactionVersion events fun _ => rfl,
    distinct_erased PaymentEvent.currency events fun _ => rfl,
    distinct_erased PaymentEvent.processorId events fun _ => rfl,
    distinct_erased PaymentEvent.merchantId events fun _ => rfl]

/-- The ledger lines of an event do not mention when it was received, so they are those of the
erased event. -/
theorem numbered_lines_erased (event : PaymentEvent) (version : Int) (position : Nat)
    (entries : List (Str × Int)) :
    numberedLines (erased event) version position entries =
      numberedLines event version position entries := by
  induction entries generalizing position with
  | nil => rfl
  | cons entry rest inductionHypothesis =>
    rw [numberedLines, inductionHypothesis]
    rfl

/-- Postings do not read receipt times. A rule has its entries by type, and a line its amounts by
multiplier. -/
theorem postings_erased (rules : PostingRules) (event : PaymentEvent) :
    postings rules (erased event) = postings rules event :=
  numbered_lines_erased event rules.version 1 _

/-- The rows of a history do not read receipt times.

Proof: a case for an invalid history, whose exceptions name the events, and one for a valid one,
whose rows are built event by event from fields that are kept. -/
theorem projection_erased (rules : PostingRules) (events : List PaymentEvent) :
    projection rules (events.map erased) = projection rules events := by
  obtain ⟨authorized, captured, refunded, chargedBack⟩ := totals_erased events
  unfold projection
  rw [List.getLast?_map, verdict_erased]
  cases events.getLast? with
  | none => rfl
  | some current =>
    have status : paymentStatus (events.map erased) = paymentStatus events := by
      simp only [paymentStatus, authorized, captured, refunded, chargedBack]
    have state : stateRow (events.map erased) (erased current) = stateRow events current := by
      simp only [stateRow, status, authorized, captured, refunded, chargedBack]
      rfl
    cases verdict events with
    | some reason => exact congrArg (Projection.mk · [] [] []) (map_erased _ events fun _ => rfl)
    | none =>
      simp only [Option.map_some, state, List.flatMap_map, postings_erased, postedRows]
      rfl

/-- Erasing keeps the transaction of an event, so it commutes with the grouping by transaction. -/
theorem group_erased (transactionId : Identifier) (accepted : List PaymentEvent) :
    group PaymentEvent.transactionId transactionId (accepted.map erased) =
      (group PaymentEvent.transactionId transactionId accepted).map erased :=
  filter_erased _ accepted fun _ => rfl

/-- The history of the erased events is the erased history.

Proof: the order of a history looks at no receipt time, so the sort makes the same comparisons on
both sides. -/
theorem history_erased (accepted : List PaymentEvent) (transactionId : Identifier) :
    history (accepted.map erased) transactionId = (history accepted transactionId).map erased := by
  rw [history, history, group_erased, ← List.map_insertionSort (r := inOrder) (s := inOrder)]
  exact fun _ _ _ _ => Iff.rfl

/-- A rebuild does not read receipt times, as it projects the histories one by one. -/
theorem project_all_erased (rules : PostingRules) (accepted : List PaymentEvent) :
    projectAll rules (accepted.map erased) = projectAll rules accepted := by
  have ids : transactionIds (accepted.map erased) = transactionIds accepted := by
    rw [transactionIds, map_erased PaymentEvent.transactionId accepted fun _ => rfl, transactionIds]
  simp only [projectAll, ids, history_erased, projection_erased]

/-- A history depends only on which events are accepted, and not on the order in which they were.

Proof: the sort key ends with the event identifier, so that among events of different identifiers
the sorted list is unique. -/
theorem history_perm {first second : List PaymentEvent} (same : first.Perm second)
    (keyed : Keyed PaymentEvent.eventId first) (transactionId : Identifier) :
    history first transactionId = history second transactionId := by
  refine sort_perm (same.filter _) fun a left b right before after => ?_
  have keys : sortKey a = sortKey b := le_antisymm before after
  have parts := Prod.mk.inj (toLex_inj.mp keys)
  have ids : a.eventId.1 = b.eventId.1 := (Prod.mk.inj (toLex_inj.mp parts.2)).2
  exact keyed.unique (mem_group.mp left).1 (mem_group.mp right).1 (Subtype.ext ids)

/-- A rebuild depends only on which events are accepted: the transactions are sorted, and so is
each history. -/
theorem project_all_perm {first second : List PaymentEvent} (rules : PostingRules)
    (same : first.Perm second) (keyed : Keyed PaymentEvent.eventId first) :
    projectAll rules first = projectAll rules second := by
  have ids : transactionIds first = transactionIds second :=
    sort_perm (same.map _).dedup fun a _ b _ before after =>
      Subtype.ext (le_antisymm before after)
  simp only [projectAll, ids, history_perm same keyed]

end LedgerFlow
