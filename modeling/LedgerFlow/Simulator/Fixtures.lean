import LedgerFlow.Simulator.Calendar
import LedgerFlow.Simulator.ShippedRuns

/-!
# The fixtures of the failure laboratory

The definitions follow `lifecycle_violation_fixture` and `unique_crash_fixture` in
`simulator.py`. The gate reads the events of both; the first is a capture without an
authorization, so that a rebuild has an exception for it and no ledger entry.
-/

namespace LedgerFlow.Simulator

open PyText PyJson PyDateTime Grouping

/-! ## Fixtures -/

/-- `next(source for source in registry.values() if source.mode == "stream")` -/
def streamSource (registry : Registry) : Py Source :=
  match (registry.map Prod.snd).find? fun source => source.mode = str "stream" with
  | some source => .ok source
  | none => .error (.other [])

/-- Every month has a first day, whatever its year. -/
theorem first_day (year month : Nat) : 1 ≤ 1 ∧ 1 ≤ daysInMonth year month := by
  have nonempty : 1 ≤ daysInMonth year month := by
    unfold daysInMonth
    split <;> (try split) <;> omega
  exact ⟨le_refl 1, nonempty⟩

/-- February is a month of the calendar. -/
theorem february_range : 1 ≤ 2 ∧ 2 ≤ 12 := by decide

/-- March is a month of the calendar. -/
theorem march_range : 1 ≤ 3 ∧ 3 ≤ 12 := by decide

/-- `datetime(2026, 2, 1, tzinfo=UTC)` -/
def violationBase : Timestamp :=
  { newYear with
    date := ⟨2026, 2, 1, february_range, first_day 2026 2⟩, yearRange := newYear.yearRange }

/-- `datetime(2026, 3, 1, tzinfo=UTC)` -/
def crashBase : Timestamp :=
  { newYear with
    date := ⟨2026, 3, 1, march_range, first_day 2026 3⟩, yearRange := newYear.yearRange }

/-- `lifecycle_violation_fixture` -/
def lifecycleViolationFixture (registry : Registry) : Py (List Fields) := do
  let source ← streamSource registry
  let capture ← event 999999 1 .capture 50000 source violationBase
  .ok [assign (str "transaction_id") (.str (str "fixture:lifecycle-violation"))
    (assign (str "event_id") (.str (str "fixture:capture-without-authorization")) capture)]

/-- `unique_crash_fixture` -/
def uniqueCrashFixture (registry : Registry) : Py (List Fields) := do
  let source ← streamSource registry
  let authorization ← event 888888 1 .authorization 75000 source crashBase
  let capture ← event 888888 2 .capture 75000 source crashBase
  .ok [authorization, capture]

/-! ## Events that are read -/

section Reading

variable {gate : Gate} {transaction : Transaction} {stage : Stage}

/-- The gate reads the event that the entries spell: in any order of the entries, under the
supported schema version, with the event's own amount and a token key that is long enough. -/
theorem reads_spelled {raw : Fields} {values : Values} {given : PaymentEvent}
    (same : raw.Perm values.fields)
    (spells : values.Spells gate.runtime gate.registry gate.tokenKey given)
    (long : 32 ≤ gate.tokenKey.length) (schema : values.schemaVersion = schemaVersion)
    (amount : values.amountMinor = given.amountMinor) : Reads gate raw given := by
  have positive : 0 < values.amountMinor := amount ▸ given.amountPositive
  rw [Reads, validate_values same spells long, if_pos schema, dif_pos positive]
  refine congrArg Except.ok ?_
  simp only [amount]

/-- A stage is made for any version and amount of a generated event. -/
theorem event_made {year version amountMinor : Nat} {eventType : EventType} {timestamp : Timestamp}
    (whole : Whole timestamp) (starts : Within year timestamp) (room : year + 2 ≤ 9999)
    (versionRange : 1 ≤ version ∧ version ≤ 3)
    (amountRange : 0 < amountMinor ∧ amountMinor ≤ 500000) :
    ∃ stage : Stage, event transaction.number version eventType amountMinor transaction.source
        timestamp = .ok (stage.values transaction).fields ∧
      stage.version = version ∧ stage.eventType = eventType ∧ stage.amountMinor = amountMinor := by
  obtain ⟨_, _, _, _, _, built⟩ := @event_within year transaction.number version amountMinor
    eventType transaction.source timestamp starts versionRange.2 room
  obtain ⟨stage, same, given⟩ := event_stage whole versionRange amountRange built
  exact ⟨stage, same ▸ built, given⟩

/-- A stream source is a lifecycle source: it is found among those that the lifecycles are drawn
from. -/
theorem stream_source_listed {registry : Registry} {source : Source}
    (found : streamSource registry = .ok source) : source ∈ lifecycleSources registry := by
  unfold streamSource at found
  split at found
  · next first =>
    cases found
    have mode := List.find?_some first
    exact List.mem_filter.mpr ⟨List.mem_of_find?_eq_some first,
      decide_eq_true (.inl (of_decide_eq_true mode))⟩
  · cases found

end Reading

/-! ## Invalid transactions -/

/-- A rebuild of one invalid transaction has an exception for each event and nothing else. -/
theorem project_all_invalid {rules : PostingRules} {events : List PaymentEvent}
    {transactionId : Identifier} {reason : Violation} (nonempty : events ≠ [])
    (one : ∀ event ∈ events, event.transactionId = transactionId)
    (ordered : events.Pairwise inOrder) (invalid : verdict events = some reason) :
    projectAll rules events = ⟨events.map (exceptionRow reason), [], [], []⟩ := by
  have ids : transactionIds events = [transactionId] := by
    have same : events.map PaymentEvent.transactionId =
        List.replicate events.length transactionId := List.map_eq_replicate_iff.mpr one
    rw [transactionIds, same, List.replicate_dedup (mt List.length_eq_zero_iff.mp nonempty)]
    rfl
  have whole : history events transactionId = events := by
    rw [history, group_all one, ordered.insertionSort_eq]
  rw [projectAll, ids, List.map_singleton, whole, projection_invalid nonempty invalid]
  simp only [List.flatMap_singleton]

/-- A capture alone is refused, because its transaction has no authorization. -/
theorem verdict_capture {event : PaymentEvent} (first : event.transactionVersion = 1)
    (captures : event.eventType = .capture) :
    verdict [event] = some .captureWithoutAuthorization := by
  simp [verdict, distinct, leastVersion, greatestVersion, ofType, first, captures]

/-- A history that goes from its first version to the third is refused for the gap, before its
types are looked at. -/
theorem verdict_gap {first second : PaymentEvent} (opens : first.transactionVersion = 1)
    (skips : second.transactionVersion = 3) :
    verdict [first, second] = some .transactionVersionGap := by
  simp [verdict, distinct, leastVersion, greatestVersion, opens, skips]

/-! ## The fixtures at the gate -/

section Fixtures

variable {gate : Gate} (supplies : Supplies gate.registry) (long : 32 ≤ gate.tokenKey.length)
  {source : Source} (found : streamSource gate.registry = .ok source)

/-- The transaction of a fixture. -/
def fixtureTransaction (number : Nat) (inRange : number < 10 ^ 12) (source : Source)
    (identified : isIdentifier source.sourceId = true) : Transaction :=
  ⟨number, source, inRange, identified⟩

include supplies found in
/-- A transaction of the stream source has a source that is registered for payment events under a
proper identifier. -/
theorem stream_source_supplied : isIdentifier source.sourceId = true ∧
    ∃ registered, gate.registry.lookup source.sourceId = some registered ∧
      registered.contract = str "payment_event" :=
  have listed := stream_source_listed found
  ⟨supplies.identified source listed, supplies.registered listed⟩

include supplies long found in
/-- The lifecycle violation is one record, and is read as a capture of the first version. -/
theorem lifecycle_violation_read :
    ∃ raw event, lifecycleViolationFixture gate.registry = .ok [raw] ∧ Reads gate raw event ∧
      Modest event ∧ event.transactionVersion = 1 ∧ event.eventType = .capture := by
  obtain ⟨identified, registered⟩ := stream_source_supplied supplies found
  let transaction := fixtureTransaction 999999 (by decide) source identified
  obtain ⟨stage, made, version, captures, amount⟩ := @event_made transaction 2026 1 50000 .capture
    violationBase ⟨rfl, rfl⟩ (le_refl 2026) (by decide) (by decide) (by decide)
  have spells := @stage_spells gate.runtime gate.registry gate.tokenKey transaction stage registered
  let given : PaymentEvent := { stage.event transaction gate.runtime gate.tokenKey with
    eventId := ⟨str "fixture:capture-without-authorization", by decide⟩
    transactionId := ⟨str "fixture:lifecycle-violation", by decide⟩ }
  let values : Values := { stage.values transaction with
    eventId := str "fixture:capture-without-authorization"
    transactionId := str "fixture:lifecycle-violation" }
  have reads : Reads gate values.fields given :=
    reads_spelled (.refl _) { spells with eventId := rfl, transactionId := rfl } long rfl rfl
  have modest := stage_modest gate (transaction, stage)
  exact ⟨values.fields, given, bind_ok.mpr ⟨source, found, bind_ok.mpr ⟨_, made, rfl⟩⟩, reads,
    ⟨modest.version, modest.amount⟩, congrArg Nat.cast version, captures⟩

/-- The records of the crash fixture are an authorization and a capture. -/
structure CrashPair (source : Source) (opening capture : Stage)
    (identified : isIdentifier source.sourceId = true) (records : List Fields) : Prop where
  first : opening.version = 1
  second : capture.version = 2
  records : records = [(opening.values (fixtureTransaction 888888 (by decide) source
      identified)).fields,
    (capture.values (fixtureTransaction 888888 (by decide) source identified)).fields]

include supplies found in
/-- The crash fixture is made of an authorization and a capture, the two stages of one
transaction. -/
theorem unique_crash_made :
    ∃ opening capture identified records, uniqueCrashFixture gate.registry = .ok records ∧
      CrashPair source opening capture identified records := by
  obtain ⟨identified, _⟩ := stream_source_supplied supplies found
  let transaction := fixtureTransaction 888888 (by decide) source identified
  obtain ⟨opening, opened, first, _⟩ := @event_made transaction 2026 1 75000 .authorization
    crashBase ⟨rfl, rfl⟩ (le_refl 2026) (by decide) (by decide) (by decide)
  obtain ⟨capture, captured, second, _⟩ := @event_made transaction 2026 2 75000 .capture
    crashBase ⟨rfl, rfl⟩ (le_refl 2026) (by decide) (by decide) (by decide)
  exact ⟨opening, capture, identified, _, bind_ok.mpr ⟨source, found,
    bind_ok.mpr ⟨_, opened, bind_ok.mpr ⟨_, captured, rfl⟩⟩⟩, first, second, rfl⟩

end Fixtures

end LedgerFlow.Simulator
