import LedgerFlow.Store.Rebuild

/-!
# What the identity gate does to the store

`gateStep` is the effect of one raw event: its outcome is counted, and a quarantine
row or the rows of a newly accepted event are appended. `Gateable` says of a whole
batch that none of its records fails the run: no record raises anything but a contract
error, what is quarantined can be redacted and bound, and the numbers of a new event can be
bound.

`Identified` is the invariant of the identity tables. Seen and accepted events have the
same distinct identifiers, stored numbers fit, and every accepted row holds its event's
safe payload.
-/

namespace LedgerFlow

open PyText PyJson Grouping Programs

/-! ## Steps -/

/-- Append a quarantine row. -/
def Database.quarantined (database : Database) (runId : Str) (eventId : Option Str)
    (reason redactedPayload : Str) : Database :=
  { database with
    tables := { database.tables with
      quarantine := database.tables.quarantine ++
        [⟨database.tables.quarantineSequence + 1, runId, eventId, reason, redactedPayload⟩]
      quarantineSequence := database.tables.quarantineSequence + 1 } }

/-- Append the rows of an accepted event. -/
def Database.accepting (database : Database) (runId : Str) (event : PaymentEvent)
    (fingerprint : AsciiText) : Database :=
  { database with
    tables := { database.tables with
      seenEvent := database.tables.seenEvent ++ [⟨event.eventId, fingerprint, runId⟩]
      acceptedEvent := database.tables.acceptedEvent ++
        [⟨event, canonicalJson (.obj event.safeDict)⟩] } }

/-- The identifiers of the seen events. -/
def Tables.seenIds (tables : Tables) : List Identifier := tables.seenEvent.map SeenRow.eventId

/-- The stored fingerprint of an event. -/
def Tables.identityOf (tables : Tables) (eventId : Identifier) : Option AsciiText :=
  (tables.seenEvent.find? fun row => row.eventId = eventId).map SeenRow.identitySha256

/-- The effect of one raw event that does not fail the run. -/
def gateStep (gate : Gate) (runId : Str) (raw : Fields) (counts : Counts) (database : Database) :
    Counts × Database :=
  match validateEvent gate.runtime gate.registry gate.tokenKey raw with
  | .error error =>
      (countOne .quarantined error.text counts,
        database.quarantined runId (claimedEventId raw) error.text
          (redactedPayload gate.runtime raw))
  | .ok event =>
      match database.tables.identityOf event.eventId with
      | some stored =>
          if stored = identityFingerprint gate.runtime raw then
            (countOne .duplicate (str "exact_event_replay") counts, database)
          else
            (countOne .quarantined conflictReason counts,
              database.quarantined runId (some event.eventId.1) conflictReason
                (redactedPayload gate.runtime raw))
      | none =>
          (countOne .accepted (str "contract_and_identity_passed") counts,
            database.accepting runId event (identityFingerprint gate.runtime raw))

/-- The effect of the loop over the raw events. -/
def gateRun (gate : Gate) (runId : Str) : List Fields → Counts → Database → Counts × Database
  | [], counts, database => (counts, database)
  | raw :: rest, counts, database =>
      let next := gateStep gate runId raw
        (countOne .arrival (str "raw_record_read") counts) database
      gateRun gate runId rest next.1 next.2

/-- The record does not fail the run, given the identifiers seen before it. -/
def Passable (gate : Gate) (seen : List Identifier) (raw : Fields) : Prop :=
  match validateEvent gate.runtime gate.registry gate.tokenKey raw with
  | .error (.contract reason) => redactFrames gate.runtime raw ≤ gate.runtime.frames ∧
      Encodable ((claimedEventId raw).getD []) ∧ Encodable reason
  | .error _ => False
  | .ok event => event.eventId ∈ seen ∨ Storable event

/-- The identifiers seen after a record. -/
def seenAfter (gate : Gate) (seen : List Identifier) (raw : Fields) : List Identifier :=
  match validateEvent gate.runtime gate.registry gate.tokenKey raw with
  | .error _ => seen
  | .ok event => if event.eventId ∈ seen then seen else seen ++ [event.eventId]

/-- No record of the batch fails the run, given the identifiers seen before it. -/
def Gateable (gate : Gate) : List Identifier → List Fields → Prop
  | _, [] => True
  | seen, raw :: rest => Passable gate seen raw ∧ Gateable gate (seenAfter gate seen raw) rest

/-- The events that a batch adds, given the identifiers seen before it. -/
def admitted (gate : Gate) : List Identifier → List Fields → List PaymentEvent
  | _, [] => []
  | seen, raw :: rest =>
      match validateEvent gate.runtime gate.registry gate.tokenKey raw with
      | .error _ => admitted gate seen rest
      | .ok event =>
          if event.eventId ∈ seen then admitted gate seen rest
          else event :: admitted gate (seen ++ [event.eventId]) rest

/-- Every admitted event was read from a record of the batch.

Proof: by induction on the records, with one case for each way the gate goes. -/
theorem admitted_source {gate : Gate} {seen : List Identifier} {records : List Fields}
    {event : PaymentEvent} (member : event ∈ admitted gate seen records) :
    ∃ raw ∈ records, validateEvent gate.runtime gate.registry gate.tokenKey raw = .ok event := by
  induction records generalizing seen with
  | nil => cases member
  | cons raw rest inductionHypothesis =>
    have later {others : List Identifier} (inside : event ∈ admitted gate others rest) :
        ∃ source ∈ raw :: rest,
          validateEvent gate.runtime gate.registry gate.tokenKey source = .ok event := by
      obtain ⟨source, listed, valid⟩ := inductionHypothesis inside
      exact ⟨source, List.mem_cons_of_mem raw listed, valid⟩
    rw [admitted] at member
    cases valid : validateEvent gate.runtime gate.registry gate.tokenKey raw with
    | error error =>
      rw [valid] at member
      exact later member
    | ok read =>
      simp only [valid] at member
      split at member
      · exact later member
      · rcases List.mem_cons.mp member with rfl | inside
        · exact ⟨raw, List.mem_cons_self, valid⟩
        · exact later inside

/-- After a batch, the identifier of each of its contract-valid records is seen. -/
theorem admitted_covers {gate : Gate} {seen : List Identifier} {records : List Fields}
    {raw : Fields} {event : PaymentEvent} (member : raw ∈ records)
    (valid : validateEvent gate.runtime gate.registry gate.tokenKey raw = .ok event) :
    event.eventId ∈ seen ++ (admitted gate seen records).map PaymentEvent.eventId := by
  induction records generalizing seen with
  | nil => cases member
  | cons head rest inductionHypothesis =>
    rw [admitted]
    rcases List.mem_cons.mp member with rfl | inside
    · rw [valid]
      by_cases known : event.eventId ∈ seen
      · exact List.mem_append_left _ known
      · simp [known]
    · cases first : validateEvent gate.runtime gate.registry gate.tokenKey head with
      | error error => exact inductionHypothesis inside
      | ok read =>
        simp only
        split
        · exact inductionHypothesis inside
        · have later := @inductionHypothesis (seen ++ [read.eventId]) inside
          rw [List.append_assoc] at later
          exact later

/-- The invariant of the identity tables. -/
structure Identified (tables : Tables) : Prop where
  sameIds : tables.seenIds = tables.events.map PaymentEvent.eventId
  keyed : Keyed PaymentEvent.eventId tables.events
  storable : ∀ event ∈ tables.events, Storable event
  payloads : ∀ row ∈ tables.acceptedEvent,
    row.safePayload = canonicalJson (.obj row.event.safeDict)

/-! ## One record -/

section OneRecord

variable {gate : Gate} {runId : Str} {raw : Fields} {counts : Counts} {database : Database}

/-- No identity is stored for an event exactly where its id has not been seen. -/
theorem identity_of_none {tables : Tables} {eventId : Identifier} :
    tables.identityOf eventId = none ↔ eventId ∉ tables.seenIds := by
  rw [Tables.identityOf, Option.map_eq_none_iff, List.find?_eq_none, Tables.seenIds, List.mem_map]
  simp

/-- Within a journaled run, the quarantine row is inserted exactly where its texts can be
encoded. -/
theorem quarantine_ok {eventId : Option Str} {reason : Str} {after : Database}
    (encodable : Encodable runId)
    (journaled : runId ∈ database.runJournal.map JournalRow.runId) :
    (Statement.insertQuarantine runId eventId reason (redactedPayload gate.runtime raw)).run
        database = .ok after ↔
      (Encodable (eventId.getD []) ∧ Encodable reason) ∧
        after = database.quarantined runId eventId reason (redactedPayload gate.runtime raw) := by
  have payload : Encodable (redactedPayload gate.runtime raw) := (canonical_ascii _).encodable
  simp only [Statement.run, bind_ok, bind_text_ok, constrained_ok, exists_const, encodable, payload,
    journaled, true_and, and_assoc]
  rfl

/-- A fresh event is inserted into both tables exactly where its version and amount fit into 64
bits. -/
theorem accept_ok {event : PaymentEvent} {fingerprint : AsciiText} {after : Database}
    (encodable : Encodable runId)
    (journaled : runId ∈ database.runJournal.map JournalRow.runId)
    (identified : Identified database.tables) (fresh : event.eventId ∉ database.tables.seenIds) :
    (∃ middle,
      (Statement.insertSeenEvent ⟨event.eventId, fingerprint, runId⟩).run database = .ok middle ∧
      (Statement.insertAcceptedEvent ⟨event, canonicalJson (.obj event.safeDict)⟩).run middle =
        .ok after) ↔
      Storable event ∧ after = database.accepting runId event fingerprint := by
  have payload : Encodable (canonicalJson (.obj event.safeDict)) := (canonical_ascii _).encodable
  have unaccepted : event.eventId ∉ database.tables.events.map PaymentEvent.eventId :=
    identified.sameIds ▸ fresh
  have first {middle : Database} :
      (Statement.insertSeenEvent ⟨event.eventId, fingerprint, runId⟩).run database = .ok middle ↔
        middle = { database with tables := { database.tables with
          seenEvent := database.tables.seenEvent ++ [⟨event.eventId, fingerprint, runId⟩] } } := by
    have unseen : event.eventId ∉ database.tables.seenEvent.map SeenRow.eventId := fresh
    simp only [Statement.run, bind_ok, bind_text_ok, constrained_ok, exists_const, encodable,
      unseen, journaled, not_false_eq_true, true_and]
  simp only [first, exists_eq_left]
  simp only [Statement.run, bind_ok, bind_text_ok, bind_integer_ok, constrained_ok, exists_const,
    payload, true_and, Storable, and_assoc]
  refine and_congr_right fun _ => and_congr_right fun _ => ?_
  exact ⟨fun holds => holds.2.2, fun same => ⟨unaccepted, by simp, same⟩⟩

/-- A stored fingerprint belongs to a seen event: the lookup is by the primary key of the
table. -/
theorem identity_of_some {tables : Tables} {eventId : Identifier} {stored : AsciiText}
    (found : tables.identityOf eventId = some stored) : eventId ∈ tables.seenIds := by
  by_contra unknown
  rw [identity_of_none.mpr unknown] at found
  cases found

/-- The step of a record that is not contract-valid: it is quarantined under the reason of its
error, redacted, and with the event id that it claims if that is a text. -/
theorem gate_step_invalid {error : PyError}
    (invalid : validateEvent gate.runtime gate.registry gate.tokenKey raw = .error error) :
    gateStep gate runId raw counts database =
      (countOne .quarantined error.text counts,
        database.quarantined runId (claimedEventId raw) error.text
          (redactedPayload gate.runtime raw)) := by
  rw [gateStep, invalid]

/-- The step of a new event: it is accepted, and its identity stored. -/
theorem gate_step_fresh {event : PaymentEvent}
    (valid : validateEvent gate.runtime gate.registry gate.tokenKey raw = .ok event)
    (fresh : database.tables.identityOf event.eventId = none) :
    gateStep gate runId raw counts database =
      (countOne .accepted (str "contract_and_identity_passed") counts,
        database.accepting runId event (identityFingerprint gate.runtime raw)) := by
  simp only [gateStep, valid, fresh]

/-- The step of an event that is already seen. An equal fingerprint is counted as a replay, and
another one quarantines the record as a conflict; neither changes the accepted events. -/
theorem gate_step_known {event : PaymentEvent} {stored : AsciiText}
    (valid : validateEvent gate.runtime gate.registry gate.tokenKey raw = .ok event)
    (known : database.tables.identityOf event.eventId = some stored) :
    gateStep gate runId raw counts database =
      if stored = identityFingerprint gate.runtime raw then
        (countOne .duplicate (str "exact_event_replay") counts, database)
      else
        (countOne .quarantined conflictReason counts,
          database.quarantined runId (some event.eventId.1) conflictReason
            (redactedPayload gate.runtime raw)) := by
  simp only [gateStep, valid, known]

/-- A refused record is passed exactly when it can be redacted and its row can be bound. An error
other than `ContractError` leaves the loop. -/
theorem ingest_refused_ok {result : Counts × Database} {error : PyError}
    (encodable : Encodable runId) (journaled : runId ∈ database.runJournal.map JournalRow.runId)
    (invalid : validateEvent gate.runtime gate.registry gate.tokenKey raw = .error error) :
    within (ingestOne gate runId raw counts).run database = .ok result ↔
      Passable gate database.tables.seenIds raw ∧
        result = gateStep gate runId raw counts database := by
  obtain ⟨counted, after⟩ := result
  rw [gate_step_invalid invalid]
  unfold ingestOne Passable
  rw [invalid]
  cases error with
  | contract reason =>
    simp only [within_bind_ok, within_raising_ok, redact_payload_ok, within_execute_ok,
      within_pure, Except.ok.injEq, Prod.mk.injEq, PyError.text]
    constructor
    · rintro ⟨_, _, ⟨⟨redactable, rfl⟩, rfl⟩, _, _, inserted, rfl, rfl⟩
      obtain ⟨bound, rfl⟩ := (quarantine_ok encodable journaled).mp inserted
      exact ⟨⟨redactable, bound⟩, rfl, rfl⟩
    · rintro ⟨⟨redactable, bound⟩, rfl, rfl⟩
      exact ⟨_, _, ⟨⟨redactable, rfl⟩, rfl⟩, (), _,
        (quarantine_ok encodable journaled).mpr ⟨bound, rfl⟩, rfl, rfl⟩
  | _ => simp only [within_throw, reduceCtorEq, false_and]

/-- Fetching the identity of an event changes nothing and cannot fail. -/
theorem identity_fetched (eventId : Identifier) {next : Option AsciiText → Sql Counts} :
    within (select (.identityOf eventId) >>= next).run database =
      within (next (database.tables.identityOf eventId)).run database := rfl

/-- A valid record whose event is new is passed exactly when the event can be stored. -/
theorem ingest_fresh_ok {result : Counts × Database} {event : PaymentEvent}
    (encodable : Encodable runId) (journaled : runId ∈ database.runJournal.map JournalRow.runId)
    (identified : Identified database.tables)
    (valid : validateEvent gate.runtime gate.registry gate.tokenKey raw = .ok event)
    (stored : database.tables.identityOf event.eventId = none) :
    within (ingestOne gate runId raw counts).run database = .ok result ↔
      Storable event ∧ result = gateStep gate runId raw counts database := by
  obtain ⟨counted, after⟩ := result
  have accepting {next : Database} := @accept_ok runId database event
    (identityFingerprint gate.runtime raw) next encodable journaled identified
    (identity_of_none.mp stored)
  rw [gate_step_fresh valid stored]
  simp only [ingestOne, valid, identity_fetched event.eventId, stored]
  simp only [within_bind_ok, within_execute_ok, within_pure, Except.ok.injEq, Prod.mk.injEq]
  constructor
  · rintro ⟨_, middle, seen, _, _, accepted, rfl, rfl⟩
    obtain ⟨storable, rfl⟩ := accepting.mp ⟨middle, seen, accepted⟩
    exact ⟨storable, rfl, rfl⟩
  · rintro ⟨storable, rfl, rfl⟩
    obtain ⟨middle, seen, accepted⟩ := accepting.mpr ⟨storable, rfl⟩
    exact ⟨(), middle, seen, (), _, accepted, rfl, rfl⟩

/-- A valid record whose event is known is always passed: what a conflict binds is the
identifier, which is ASCII, and a constant. -/
theorem ingest_known_ok {result : Counts × Database} {event : PaymentEvent}
    {fingerprint : AsciiText}
    (encodable : Encodable runId) (journaled : runId ∈ database.runJournal.map JournalRow.runId)
    (valid : validateEvent gate.runtime gate.registry gate.tokenKey raw = .ok event)
    (stored : database.tables.identityOf event.eventId = some fingerprint) :
    within (ingestOne gate runId raw counts).run database = .ok result ↔
      result = gateStep gate runId raw counts database := by
  obtain ⟨counted, after⟩ := result
  have bound : Encodable event.eventId.1 ∧ Encodable conflictReason :=
    ⟨(identifier_ascii event.eventId).encodable, by decide⟩
  rw [gate_step_known valid stored]
  simp only [ingestOne, valid, identity_fetched event.eventId, stored]
  by_cases same : fingerprint = identityFingerprint gate.runtime raw
  · simp [same, eq_comm]
  · simp only [same, ↓reduceIte, within_bind_ok, within_execute_ok,
      quarantine_ok encodable journaled, within_pure, Except.ok.injEq, Prod.mk.injEq]
    constructor
    · rintro ⟨_, _, ⟨_, rfl⟩, rfl, rfl⟩
      exact ⟨rfl, rfl⟩
    · rintro ⟨rfl, rfl⟩
      exact ⟨(), _, ⟨bound, rfl⟩, rfl, rfl⟩

/-- One record is passed exactly when it is passable; its effect is the step. -/
theorem ingest_one_ok {result : Counts × Database} (encodable : Encodable runId)
    (journaled : runId ∈ database.runJournal.map JournalRow.runId)
    (identified : Identified database.tables) :
    within (ingestOne gate runId raw counts).run database = .ok result ↔
      Passable gate database.tables.seenIds raw ∧
        result = gateStep gate runId raw counts database := by
  cases valid : validateEvent gate.runtime gate.registry gate.tokenKey raw with
  | error error => exact ingest_refused_ok encodable journaled valid
  | ok event =>
    rw [Passable, valid]
    cases stored : database.tables.identityOf event.eventId with
    | none =>
      rw [ingest_fresh_ok encodable journaled identified valid stored]
      simp only [identity_of_none.mp stored, false_or]
    | some fingerprint =>
      rw [ingest_known_ok encodable journaled valid stored]
      simp only [identity_of_some stored, true_or, true_and]

/-- What a step can do to the identity tables and to what the rest of the batch
admits: nothing, or accept a new event. -/
theorem gate_step_tables (gate : Gate) (runId : Str) (raw : Fields) (counts : Counts)
    (database : Database) (rest : List Fields) :
    let after := (gateStep gate runId raw counts database).2
    let seen := database.tables.seenIds
    (after.tables.seenEvent = database.tables.seenEvent ∧
        after.tables.acceptedEvent = database.tables.acceptedEvent ∧
        seenAfter gate seen raw = seen ∧
        admitted gate seen (raw :: rest) = admitted gate seen rest) ∨
      ∃ event, validateEvent gate.runtime gate.registry gate.tokenKey raw = .ok event ∧
        event.eventId ∉ seen ∧
        after = database.accepting runId event (identityFingerprint gate.runtime raw) ∧
        seenAfter gate seen raw = seen ++ [event.eventId] ∧
        admitted gate seen (raw :: rest) =
          event :: admitted gate (seen ++ [event.eventId]) rest := by
  cases valid : validateEvent gate.runtime gate.registry gate.tokenKey raw with
  | error error =>
    rw [gate_step_invalid valid]
    refine .inl ⟨rfl, rfl, ?_, ?_⟩
    · rw [seenAfter, valid]
    · rw [admitted, valid]
  | ok event =>
    have after : seenAfter gate database.tables.seenIds raw =
        if event.eventId ∈ database.tables.seenIds then database.tables.seenIds
        else database.tables.seenIds ++ [event.eventId] := by
      rw [seenAfter, valid]
    have added : admitted gate database.tables.seenIds (raw :: rest) =
        if event.eventId ∈ database.tables.seenIds then
          admitted gate database.tables.seenIds rest
        else event :: admitted gate (database.tables.seenIds ++ [event.eventId]) rest := by
      rw [admitted, valid]
    cases stored : database.tables.identityOf event.eventId with
    | none =>
      have fresh := identity_of_none.mp stored
      rw [gate_step_fresh valid stored]
      rw [if_neg fresh] at after added
      exact .inr ⟨event, rfl, fresh, rfl, after, added⟩
    | some fingerprint =>
      have known := identity_of_some stored
      rw [gate_step_known valid stored]
      rw [if_pos known] at after added
      refine .inl ?_
      split <;> exact ⟨rfl, rfl, after, added⟩

end OneRecord

/-! ## The batch -/

section Batch

variable {gate : Gate} {runId : Str}

/-- The tables a gate never touches. -/
structure SameProjections (before after : Database) : Prop where
  journal : after.runJournal = before.runJournal
  outcomes : after.tables.runOutcome = before.tables.runOutcome
  exceptions : after.tables.businessException = before.tables.businessException
  posted : after.tables.postedEvent = before.tables.postedEvent
  ledger : after.tables.ledgerEntry = before.tables.ledgerEntry
  states : after.tables.paymentState = before.tables.paymentState

/-- The gate does not touch the projections, which the rebuild writes after the whole batch. -/
theorem gate_step_same (raw : Fields) (counts : Counts) (database : Database) :
    SameProjections database (gateStep gate runId raw counts database).2 := by
  unfold gateStep
  repeat' split
  all_goals exact ⟨rfl, rfl, rfl, rfl, rfl, rfl⟩

/-- A passed record keeps the identity tables identified and adds its identifier to
the seen ones. -/
theorem gate_step_identified {raw : Fields} {counts : Counts} {database : Database}
    (identified : Identified database.tables)
    (passable : Passable gate database.tables.seenIds raw) :
    Identified (gateStep gate runId raw counts database).2.tables ∧
      (gateStep gate runId raw counts database).2.tables.seenIds =
        seenAfter gate database.tables.seenIds raw := by
  rcases gate_step_tables gate runId raw counts database [] with
    ⟨seen, accepted, same, _⟩ | ⟨event, valid, fresh, next, same, _⟩
  · have events : (gateStep gate runId raw counts database).2.tables.events =
        database.tables.events := congrArg (List.map AcceptedRow.event) accepted
    have ids : (gateStep gate runId raw counts database).2.tables.seenIds =
        database.tables.seenIds := congrArg (List.map SeenRow.eventId) seen
    refine ⟨⟨?_, ?_, ?_, ?_⟩, ids.trans same.symm⟩
    · rw [ids, events]
      exact identified.sameIds
    · rw [events]
      exact identified.keyed
    · rw [events]
      exact identified.storable
    · rw [accepted]
      exact identified.payloads
  · have storable : Storable event := by
      simp only [Passable, valid] at passable
      exact passable.resolve_left fresh
    have events : (database.accepting runId event
        (identityFingerprint gate.runtime raw)).tables.events =
          database.tables.events ++ [event] := by
      simp [Database.accepting, Tables.events]
    have ids : (database.accepting runId event
        (identityFingerprint gate.runtime raw)).tables.seenIds =
          database.tables.seenIds ++ [event.eventId] := by
      simp [Database.accepting, Tables.seenIds]
    rw [next]
    refine ⟨⟨?_, ?_, ?_, ?_⟩, ids.trans same.symm⟩
    · rw [ids, events, identified.sameIds, List.map_append, List.map_singleton]
    · rw [events]
      exact identified.keyed.append_row (identified.sameIds ▸ fresh)
    · rw [events]
      intro other member
      rcases List.mem_append.mp member with old | new
      · exact identified.storable other old
      · exact List.mem_singleton.mp new ▸ storable
    · intro row member
      rcases List.mem_append.mp member with old | new
      · exact identified.payloads row old
      · exact List.mem_singleton.mp new ▸ rfl

/-- The loop over the raw events ends exactly when the iterator does not raise and no
record fails the run; its effect is the run of the gate. -/
theorem ingest_all_ok {raises : Option PyError} {records : List Fields} {counts : Counts}
    {database : Database} {result : Counts × Database} (encodable : Encodable runId)
    (journaled : runId ∈ database.runJournal.map JournalRow.runId)
    (identified : Identified database.tables) :
    within (ingestAll gate runId raises records counts).run database = .ok result ↔
      raises = none ∧ Gateable gate database.tables.seenIds records ∧
        result = gateRun gate runId records counts database := by
  induction records generalizing counts database with
  | nil =>
    cases raises with
    | none => simp [ingestAll, Gateable, gateRun, eq_comm]
    | some error => simp [ingestAll]
  | cons raw rest inductionHypothesis =>
    have one {next : Counts × Database} := @ingest_one_ok gate runId raw
      (countOne .arrival (str "raw_record_read") counts) database next encodable journaled identified
    let next := gateStep gate runId raw (countOne .arrival (str "raw_record_read") counts) database
    have later (passable : Passable gate database.tables.seenIds raw) :
        within (ingestAll gate runId raises rest next.1).run next.2 = .ok result ↔
          raises = none ∧ Gateable gate (seenAfter gate database.tables.seenIds raw) rest ∧
            result = gateRun gate runId rest next.1 next.2 := by
      have ⟨kept, ids⟩ := @gate_step_identified gate runId raw
        (countOne .arrival (str "raw_record_read") counts) database identified passable
      rw [← ids]
      refine inductionHypothesis ?_ kept
      rw [(gate_step_same raw _ database).journal]
      exact journaled
    rw [ingestAll, within_bind_ok]
    constructor
    · rintro ⟨counted, middle, first, others⟩
      obtain ⟨passable, same⟩ := one.mp first
      obtain ⟨rfl, rfl⟩ := Prod.mk.inj same
      obtain ⟨quiet, gateable, ended⟩ := (later passable).mp others
      exact ⟨quiet, ⟨passable, gateable⟩, ended⟩
    · rintro ⟨quiet, ⟨passable, gateable⟩, ended⟩
      exact ⟨next.1, next.2, one.mpr ⟨passable, rfl⟩, (later passable).mpr ⟨quiet, gateable, ended⟩⟩

/-- A gateable batch appends the events it admits and keeps the rest of the tables, and counts one
outcome for each record.

Proof: by induction on the records. A step keeps what later steps rely on: the seen identifiers
are those of before and of the admitted events. -/
theorem gate_run_spec {records : List Fields} {counts : Counts} {database : Database}
    (identified : Identified database.tables)
    (gateable : Gateable gate database.tables.seenIds records) :
    let after := (gateRun gate runId records counts database).2
    Identified after.tables ∧ SameProjections database after ∧
      after.tables.events =
        database.tables.events ++ admitted gate database.tables.seenIds records := by
  induction records generalizing counts database with
  | nil => exact ⟨identified, ⟨rfl, rfl, rfl, rfl, rfl, rfl⟩, by simp [gateRun, admitted]⟩
  | cons raw rest inductionHypothesis =>
    obtain ⟨passable, others⟩ := gateable
    have step := gate_step_tables gate runId raw (countOne .arrival (str "raw_record_read") counts)
      database rest
    have same := @gate_step_same gate runId raw (countOne .arrival (str "raw_record_read") counts)
      database
    have ⟨kept, ids⟩ := @gate_step_identified gate runId raw
      (countOne .arrival (str "raw_record_read") counts) database identified passable
    rw [gateRun]
    generalize gateStep gate runId raw (countOne .arrival (str "raw_record_read") counts)
      database = next at step same kept ids
    obtain ⟨counted, middle⟩ := next
    have ⟨identified, projections, events⟩ := @inductionHypothesis counted middle kept
      (ids ▸ others)
    refine ⟨identified, ?_, ?_⟩
    · exact ⟨projections.journal.trans same.journal, projections.outcomes.trans same.outcomes,
        projections.exceptions.trans same.exceptions, projections.posted.trans same.posted,
        projections.ledger.trans same.ledger, projections.states.trans same.states⟩
    · rcases step with ⟨_, accepted, same, added⟩ | ⟨event, _, _, rfl, same, added⟩
      · rw [events, ids, same, added]
        exact congrArg (List.map AcceptedRow.event · ++ _) accepted
      · rw [events, ids, same, added]
        simp [Database.accepting, Tables.events]

end Batch

end LedgerFlow
