import LedgerFlow.Store.Invariant
import LedgerFlow.Store.Returns

/-!
# Arrival order and batching do not matter

A history is a sequence of successful calls on a new store under one gate and one set
of posting rules. The accepted events of the store it leaves were each read from an
arrival, and every contract-valid arrival has its identifier accepted. Where one
identifier always comes with one fingerprint, an accepted event is alike to every
arrival of its identifier, so the set of arrivals determines the accepted events up to
their receipt times; the projections do not read those.
-/

namespace LedgerFlow

open PyText PyJson Grouping Programs Programs.Program

/-! ## Histories -/

/-- The batches of a sequence of successful calls on a new store, and the database
that the last one leaves. -/
inductive History (gate : Gate) (rules : PostingRules) : List (List Fields) → Database → Prop
  | empty : History gate rules [] emptyDatabase
  | call {batches : List (List Fields)} {database : Database} {result : Summary} {after : Store}
      (call : ProcessCall) (earlier : History gate rules batches database)
      (sameRules : call.postingRules = rules)
      (returned : (process gate call).run.eval perform database.opened = (.ok result, after)) :
      History gate rules (batches ++ [call.records]) after.durable

/-- A contract-valid raw event of some batch, and the event it reads as. -/
def Arrival (gate : Gate) (batches : List (List Fields)) (raw : Fields) (event : PaymentEvent) :
    Prop :=
  raw ∈ batches.flatten ∧ validateEvent gate.runtime gate.registry gate.tokenKey raw = .ok event

section Histories

variable {gate : Gate} {rules : PostingRules} {batches : List (List Fields)} {database : Database}

/-- The database of a history is reachable, and any data commits were under its rules. -/
theorem History.reachable (history : History gate rules batches database) :
    ∃ last, Reachable database last ∧ (last = none ∨ last = some rules) := by
  induction history with
  | empty => exact ⟨none, .empty, .inl rfl⟩
  | @call batches database result after call earlier sameRules returned inductionHypothesis =>
    obtain ⟨last, reachable, known⟩ := inductionHypothesis
    have run := eval_undisturbed (process gate call) database.opened
    rw [returned] at run
    refine ⟨_, .process gate call reachable run, ?_⟩
    rw [sameRules]
    split
    · exact .inr rfl
    · exact known

/-- The database of a history is the rebuild of its accepted events: each successful call ends
with one, under the one set of rules. -/
theorem History.projected (history : History gate rules batches database) :
    Identified database.tables ∧
      database.tables.projection = projectAll rules database.tables.events := by
  obtain ⟨last, reachable, known⟩ := history.reachable
  obtain ⟨identified, projected⟩ := reachable_consistent reachable
  refine ⟨identified, ?_⟩
  rcases known with rfl | rfl
  · rw [projected.1, projected.2]
    rfl
  · exact projected.2

/-- A successful call adds the admitted events of its batch, in their order, and takes none
away. -/
theorem returned_events {call : ProcessCall} {result : Summary} {after : Store}
    {last : Option PostingRules} (reachable : Reachable database last)
    (returned : (process gate call).run.eval perform database.opened = (.ok result, after)) :
    after.durable.tables.events =
      database.tables.events ++ admitted gate database.tables.seenIds call.records := by
  obtain ⟨isAdmitted, ended, ran, _⟩ := process_returns.mp returned
  have identified := (reachable_consistent reachable).identified
  obtain ⟨completes, rfl⟩ :=
    (ran_completes identified (reachable_referenced reachable) isAdmitted).mp ran
  have left : after.durable = updateRun call.runId (succeededRow call)
      (completion gate call (journaled database call)) := by
    rw [← (completed_ran isAdmitted ran).1, completed, returned]
  rw [left]
  exact (@completion_tables gate call (journaled database call) identified completes.gateable).2.1

/-- Every accepted event of a history was read from one of its arrivals. -/
theorem History.source (history : History gate rules batches database) {event : PaymentEvent}
    (member : event ∈ database.tables.events) : ∃ raw, Arrival gate batches raw event := by
  induction history with
  | empty => cases member
  | @call batches database result after call earlier sameRules returned inductionHypothesis =>
    obtain ⟨last, reachable, _⟩ := earlier.reachable
    rw [returned_events reachable returned] at member
    unfold Arrival
    rw [List.flatten_append]
    rcases List.mem_append.mp member with old | new
    · obtain ⟨raw, listed, valid⟩ := inductionHypothesis old
      exact ⟨raw, List.mem_append_left _ listed, valid⟩
    · obtain ⟨raw, listed, valid⟩ := admitted_source new
      exact ⟨raw, List.mem_append_right _ (by simpa using listed), valid⟩

/-- Every arrival of a history has its identifier accepted, by this arrival or by an earlier one.

Proof: by induction on the calls. The batch of the last call admits each identifier that is not
there yet. -/
theorem History.covers (history : History gate rules batches database) {raw : Fields}
    {event : PaymentEvent} (arrival : Arrival gate batches raw event) :
    ∃ stored ∈ database.tables.events, stored.eventId = event.eventId := by
  induction history with
  | empty => cases arrival.1
  | @call batches database result after call earlier sameRules returned inductionHypothesis =>
    obtain ⟨last, reachable, _⟩ := earlier.reachable
    have identified := (reachable_consistent reachable).identified
    rw [returned_events reachable returned]
    obtain ⟨listed, valid⟩ := arrival
    rw [List.flatten_append] at listed
    rcases List.mem_append.mp listed with old | new
    · obtain ⟨stored, member, same⟩ := inductionHypothesis ⟨old, valid⟩
      exact ⟨stored, List.mem_append_left _ member, same⟩
    · have inside : raw ∈ call.records := by simpa using new
      have covered := @admitted_covers gate database.tables.seenIds call.records raw event inside valid
      have seen : database.tables.seenIds = _ := identified.sameIds
      rcases List.mem_append.mp covered with old | added
      · rw [seen] at old
        obtain ⟨stored, member, same⟩ := List.mem_map.mp old
        exact ⟨stored, List.mem_append_left _ member, same⟩
      · obtain ⟨stored, member, same⟩ := List.mem_map.mp added
        exact ⟨stored, List.mem_append_right _ member, same⟩

end Histories

/-! ## Confluence -/

/-- The accepted rows are the same but for their receipt times and the copies of these
in the payloads, which are the texts of the events. -/
structure SameAccepted (first second : Tables) : Prop where
  events : (first.events.map erased).Perm (second.events.map erased)
  payload : ∀ row ∈ first.acceptedEvent ++ second.acceptedEvent,
    row.safePayload = canonicalJson (.obj row.event.safeDict)

/-- Among these arrivals, one event identifier comes with one fingerprint. -/
def OneIdentity (gate : Gate) (batches : List (List Fields)) : Prop :=
  ∀ raw other event otherEvent, Arrival gate batches raw event →
    Arrival gate batches other otherEvent → event.eventId = otherEvent.eventId →
      identityFingerprint gate.runtime raw = identityFingerprint gate.runtime other

/-- SHA-256 does not collide on the identity texts of these arrivals. -/
def DistinctDigests (gate : Gate) (batches : List (List Fields)) : Prop :=
  CollisionFree gate.runtime fun text =>
    ∃ raw event, Arrival gate batches raw event ∧ text = identityText gate.runtime raw

/-- Every contract-valid arrival of the first batches is one of the second, up to its
receipt time. -/
def Covered (gate : Gate) (first second : List (List Fields)) : Prop :=
  ∀ raw event, Arrival gate first raw event →
    ∃ other otherEvent, Arrival gate second other otherEvent ∧ SameSubmission raw other

section Confluence

variable {gate : Gate} {rules : PostingRules} {first second : List (List Fields)}
variable {left right : Database}

/-- Arrivals with one identifier read as alike events: they have one fingerprint by assumption,
and distinct digests make it one identity text. -/
theorem arrivals_alike {batches : List (List Fields)} (oneIdentity : OneIdentity gate batches)
    (digests : DistinctDigests gate batches) {raw other : Fields} {event otherEvent : PaymentEvent}
    (arrival : Arrival gate batches raw event) (again : Arrival gate batches other otherEvent)
    (same : event.eventId = otherEvent.eventId) : Alike event otherEvent := by
  have texts : identityText gate.runtime raw = identityText gate.runtime other :=
    digests _ _ ⟨raw, event, arrival, rfl⟩ ⟨other, otherEvent, again, rfl⟩
      (oneIdentity raw other event otherEvent arrival again same)
  exact same_identity_alike (validate_event_ok arrival.2) (validate_event_ok again.2) texts

/-- Each accepted event of the first history is accepted in the second, up to its
receipt time. -/
theorem accepted_transfer (leftHistory : History gate rules first left)
    (rightHistory : History gate rules second right) (covered : Covered gate first second)
    (oneIdentity : OneIdentity gate (first ++ second))
    (digests : DistinctDigests gate (first ++ second)) {event : PaymentEvent}
    (member : event ∈ left.tables.events) :
    erased event ∈ right.tables.events.map erased := by
  have inFirst {raw : Fields} {event : PaymentEvent} (arrival : Arrival gate first raw event) :
      Arrival gate (first ++ second) raw event :=
    ⟨List.flatten_append ▸ List.mem_append_left _ arrival.1, arrival.2⟩
  have inSecond {raw : Fields} {event : PaymentEvent} (arrival : Arrival gate second raw event) :
      Arrival gate (first ++ second) raw event :=
    ⟨List.flatten_append ▸ List.mem_append_right _ arrival.1, arrival.2⟩
  obtain ⟨raw, arrival⟩ := leftHistory.source member
  obtain ⟨other, otherEvent, again, submission⟩ := covered raw event arrival
  obtain ⟨stored, present, sameId⟩ := rightHistory.covers again
  obtain ⟨source, sourced⟩ := rightHistory.source present
  have sent : Alike event otherEvent :=
    same_identity_alike (validate_event_ok arrival.2) (validate_event_ok again.2)
      (same_submission_identity submission)
  have kept : Alike otherEvent stored :=
    arrivals_alike oneIdentity digests (inSecond again) (inSecond sourced) sameId.symm
  exact List.mem_map.mpr ⟨stored, present, (alike_iff_erased.mp (sent.trans kept)).symm⟩

/-- Erased events with distinct identifiers are distinct, since no erasure touches the identifier.
So the accepted events of two histories can be compared as sets. -/
theorem erased_nodup {events : List PaymentEvent} (keyed : Keyed PaymentEvent.eventId events) :
    (events.map erased).Nodup := by
  have ids : ((events.map erased).map PaymentEvent.eventId).Nodup := by
    rw [map_erased PaymentEvent.eventId events fun _ => rfl]
    exact keyed
  exact ids.of_map _

/-- Arrival order and batching do not matter. Two histories of successful calls, under
one gate and one set of posting rules, whose contract-valid arrivals are the same up to
receipt times, and in which one event identifier always comes with one fingerprint,
leave the same accepted events up to receipt times and the same projections. -/
theorem arrival_order_irrelevant (leftHistory : History gate rules first left)
    (rightHistory : History gate rules second right) (forward : Covered gate first second)
    (backward : Covered gate second first) (oneIdentity : OneIdentity gate (first ++ second))
    (digests : DistinctDigests gate (first ++ second)) :
    SameAccepted left.tables right.tables ∧
      left.tables.postedEvent = right.tables.postedEvent ∧
      left.tables.ledgerEntry = right.tables.ledgerEntry ∧
      left.tables.paymentState = right.tables.paymentState ∧
      left.tables.businessException = right.tables.businessException := by
  obtain ⟨leftIdentified, leftProjected⟩ := leftHistory.projected
  obtain ⟨rightIdentified, rightProjected⟩ := rightHistory.projected
  have swap {raw : Fields} {event : PaymentEvent}
      (arrival : Arrival gate (second ++ first) raw event) :
      Arrival gate (first ++ second) raw event := by
    refine ⟨?_, arrival.2⟩
    have listed := arrival.1
    rw [List.flatten_append] at listed ⊢
    exact (List.mem_append.mp listed).elim (List.mem_append_right _) (List.mem_append_left _)
  have events : (left.tables.events.map erased).Perm (right.tables.events.map erased) := by
    rw [List.perm_ext_iff_of_nodup (erased_nodup leftIdentified.keyed)
      (erased_nodup rightIdentified.keyed)]
    intro event
    constructor
    · intro member
      obtain ⟨source, present, rfl⟩ := List.mem_map.mp member
      exact accepted_transfer leftHistory rightHistory forward oneIdentity digests present
    · intro member
      obtain ⟨source, present, rfl⟩ := List.mem_map.mp member
      refine accepted_transfer rightHistory leftHistory backward ?_ ?_ present
      · intro raw other event otherEvent arrival again same
        exact oneIdentity raw other event otherEvent (swap arrival) (swap again) same
      · rintro text otherText ⟨raw, event, arrival, rfl⟩ ⟨other, otherEvent, again, rfl⟩ same
        exact digests _ _ ⟨raw, event, swap arrival, rfl⟩ ⟨other, otherEvent, swap again, rfl⟩ same
  have projections : left.tables.projection = right.tables.projection := by
    have keyed : Keyed PaymentEvent.eventId (left.tables.events.map erased) := by
      unfold Keyed
      rw [map_erased PaymentEvent.eventId left.tables.events fun _ => rfl]
      exact leftIdentified.keyed
    rw [leftProjected, rightProjected, ← project_all_erased rules left.tables.events,
      ← project_all_erased rules right.tables.events]
    exact project_all_perm rules events keyed
  have ⟨exceptions, posted, ledger, states⟩ := Projection.mk.inj projections
  refine ⟨⟨events, fun row member => ?_⟩, posted, ledger, states, exceptions⟩
  rcases List.mem_append.mp member with here | there
  · exact leftIdentified.payloads row here
  · exact rightIdentified.payloads row there

end Confluence

/-! ## A sample -/

/-- An arrival's claimed identifier is that of its event; the claim is read from the record
without validating it. -/
theorem Arrival.claimed {gate : Gate} {batches : List (List Fields)} {raw : Fields}
    {event : PaymentEvent} (arrival : Arrival gate batches raw event) :
    claimedEventId raw = some event.eventId.1 := by
  rw [claimedEventId, (validate_event_ok arrival.2).eventId]

/-- One identity can be checked on all records, contract-valid or not, which is a computation on a
concrete batch. -/
theorem one_identity_of_records {gate : Gate} {batches : List (List Fields)}
    (checked : ∀ raw ∈ batches.flatten, ∀ other ∈ batches.flatten,
      claimedEventId raw = claimedEventId other →
        identityFingerprint gate.runtime raw = identityFingerprint gate.runtime other) :
    OneIdentity gate batches := by
  intro raw other event otherEvent arrival again same
  refine checked raw arrival.1 other again.1 ?_
  rw [arrival.claimed, again.claimed, same]

/-- Distinct digests can be checked on all records, as only finitely many texts are hashed. -/
theorem distinct_digests_of_records {gate : Gate} {batches : List (List Fields)}
    (checked : ∀ raw ∈ batches.flatten, ∀ other ∈ batches.flatten,
      identityFingerprint gate.runtime raw = identityFingerprint gate.runtime other →
        identityText gate.runtime raw = identityText gate.runtime other) :
    DistinctDigests gate batches := by
  rintro text otherText ⟨raw, event, arrival, rfl⟩ ⟨other, otherEvent, again, rfl⟩ same
  exact checked raw arrival.1 other again.1 same

/-- The sample authorization, received before the sample batch. -/
def sampleEarly : List Fields :=
  [sampleRaw "evt-1" .authorization 1 1000 "2026-01-01T00:00:30+00:00"]

/-- What the early authorization leaves in a new store. -/
@[irreducible] def sampleEarlyDatabase : Database :=
  (completed sampleGate (sampleCall "run-1" sampleEarly) emptyDatabase).durable

/-- What the sample batch leaves after the early authorization. -/
@[irreducible] def sampleLateDatabase : Database :=
  (completed sampleGate (sampleCall "run-2" sampleBatch) sampleEarlyDatabase).durable

/-- The sample batch alone, and after an early copy of its authorization, leaves the same
financial rows. -/
theorem arrival_order_irrelevant_sample :
    sampleDatabase.tables.postedEvent = sampleLateDatabase.tables.postedEvent ∧
      sampleDatabase.tables.ledgerEntry = sampleLateDatabase.tables.ledgerEntry ∧
      sampleDatabase.tables.paymentState = sampleLateDatabase.tables.paymentState ∧
      sampleDatabase.tables.businessException = sampleLateDatabase.tables.businessException := by
  have leftHistory : History sampleGate shippedRules [sampleBatch] sampleDatabase := by
    obtain ⟨result, returned⟩ :=
      @returned_of_ok sampleGate (sampleCall "run-1" sampleBatch) emptyDatabase (by decide +kernel)
    unfold sampleDatabase
    exact .call (sampleCall "run-1" sampleBatch) .empty rfl returned
  have earlyHistory : History sampleGate shippedRules [sampleEarly] sampleEarlyDatabase := by
    obtain ⟨result, returned⟩ :=
      @returned_of_ok sampleGate (sampleCall "run-1" sampleEarly) emptyDatabase (by decide +kernel)
    unfold sampleEarlyDatabase
    exact .call (sampleCall "run-1" sampleEarly) .empty rfl returned
  have rightHistory :
      History sampleGate shippedRules [sampleEarly, sampleBatch] sampleLateDatabase := by
    obtain ⟨result, returned⟩ :=
      @returned_of_ok sampleGate (sampleCall "run-2" sampleBatch) sampleEarlyDatabase
        (by decide +kernel)
    unfold sampleLateDatabase
    exact .call (sampleCall "run-2" sampleBatch) earlyHistory rfl returned
  have forward : Covered sampleGate [sampleBatch] [sampleEarly, sampleBatch] := by
    intro raw event arrival
    exact ⟨raw, event, ⟨List.mem_append_right sampleEarly arrival.1, arrival.2⟩, fun _ _ => rfl⟩
  have backward : Covered sampleGate [sampleEarly, sampleBatch] [sampleBatch] := by
    intro raw event arrival
    have member : raw ∈ sampleEarly ∨ raw ∈ [sampleBatch].flatten :=
      List.mem_append.mp arrival.1
    rcases member with early | late
    · rw [List.mem_singleton.mp early]
      have ok : (validateEvent sampleGate.runtime sampleGate.registry sampleGate.tokenKey
          sampleAuthorization).isOk = true := by decide +kernel
      cases valid : validateEvent sampleGate.runtime sampleGate.registry sampleGate.tokenKey
          sampleAuthorization with
      | error error =>
        rw [valid] at ok
        cases ok
      | ok event =>
        refine ⟨sampleAuthorization, event, ⟨?_, valid⟩,
          sample_submission "evt-1" .authorization 1 1000 _ _⟩
        simp [sampleBatch]
    · exact ⟨raw, event, ⟨late, arrival.2⟩, fun _ _ => rfl⟩
  exact (arrival_order_irrelevant leftHistory rightHistory forward backward
    (one_identity_of_records (by decide +kernel))
    (distinct_digests_of_records (by decide +kernel))).2

end LedgerFlow
