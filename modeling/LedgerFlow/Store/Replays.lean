import LedgerFlow.Store.Decisions

/-!
# Replays and conflicts have no financial effect

A batch is a replay when the event of every contract-valid record is already seen.
Each of its records is then decided by the stored fingerprints alone, whatever came
before it in the batch: it is a duplicate, or it leaves one quarantine row. No event is
accepted, so the rebuild reads the accepted events it read last and leaves the
projections as they are.
-/

namespace LedgerFlow

open PyText PyJson Grouping Programs Programs.Program

/-- The event of every contract-valid record is already seen. -/
def Seen (gate : Gate) (tables : Tables) (records : List Fields) : Prop :=
  ∀ raw ∈ records, ∀ event,
    validateEvent gate.runtime gate.registry gate.tokenKey raw = .ok event →
      event.eventId ∈ tables.seenIds

/-- The record is contract-valid, and its fingerprint is the one stored for its event. -/
def replays (gate : Gate) (tables : Tables) (raw : Fields) : Bool :=
  match validateEvent gate.runtime gate.registry gate.tokenKey raw with
  | .error _ => false
  | .ok event => tables.identityOf event.eventId = some (identityFingerprint gate.runtime raw)

/-- The quarantine row of a record that is no replay, but for its number. -/
def rejection (gate : Gate) (runId : Str) (raw : Fields) : Str × Option Str × Str × Str :=
  match validateEvent gate.runtime gate.registry gate.tokenKey raw with
  | .error error =>
      (runId, claimedEventId raw, error.text, redactedPayload gate.runtime raw)
  | .ok event =>
      (runId, some event.eventId.1, conflictReason, redactedPayload gate.runtime raw)

/-- The financial tables and the identity tables are the same. -/
structure Unmoved (before after : Tables) : Prop where
  seenEvent : after.seenEvent = before.seenEvent
  acceptedEvent : after.acceptedEvent = before.acceptedEvent
  postedEvent : after.postedEvent = before.postedEvent
  ledgerEntry : after.ledgerEntry = before.ledgerEntry
  businessException : after.businessException = before.businessException
  paymentState : after.paymentState = before.paymentState

section Batch

variable {gate : Gate} {runId : Str} {database after : Database}

/-- A record of a replayed batch is a duplicate that leaves nothing, or it is rejected
and leaves one quarantine row. -/
theorem Decided.replayed {raw : Fields} {decision : Outcome × Str}
    (decided : Decided gate runId raw database decision after)
    (seen : Seen gate database.tables [raw]) :
    after.tables.seenEvent = database.tables.seenEvent ∧
      after.tables.acceptedEvent = database.tables.acceptedEvent ∧
      if replays gate database.tables raw then
        decision.1 = .duplicate ∧ after = database
      else
        decision.1 = .quarantined ∧ ∃ row, row.contents = rejection gate runId raw ∧
          after.tables.quarantine = database.tables.quarantine ++ [row] := by
  cases decided with
  | accepted event valid fresh =>
    exact absurd (seen raw List.mem_cons_self event valid) fresh
  | duplicate event valid replayed =>
    have isReplay : replays gate database.tables raw = true := by
      rw [replays, valid]
      exact decide_eq_true replayed
    rw [if_pos isReplay]
    exact ⟨rfl, rfl, rfl, rfl⟩
  | conflict event stored valid known other =>
    have noReplay : ¬ replays gate database.tables raw = true := by
      rw [replays, valid, decide_eq_true_iff, known]
      exact fun same => other (Option.some.inj same)
    rw [if_neg noReplay]
    refine ⟨rfl, rfl, rfl, _, ?_, rfl⟩
    rw [rejection, valid]
    rfl
  | invalid error invalid =>
    have noReplay : ¬ replays gate database.tables raw = true := by
      rw [replays, invalid]
      exact Bool.false_ne_true
    rw [if_neg noReplay]
    refine ⟨rfl, rfl, rfl, _, ?_, rfl⟩
    rw [rejection, invalid]
    rfl

/-- Whether a record is seen or replayed depends only on the seen events. -/
theorem replays_of_seen {first second : Tables} (same : second.seenEvent = first.seenEvent) :
    replays gate second = replays gate first := by
  funext raw
  unfold replays Tables.identityOf
  rw [same]

/-- A replayed batch accepts nothing, counts its replays as duplicates and leaves one
quarantine row for each other record. -/
theorem Decisions.replayed {records : List Fields} {decisions : List (Outcome × Str)}
    (batch : Decisions gate runId records database decisions after)
    (seen : Seen gate database.tables records) :
    after.tables.seenEvent = database.tables.seenEvent ∧
      after.tables.acceptedEvent = database.tables.acceptedEvent ∧
      decisions.countP (fun decision => decision.1 = .accepted) = 0 ∧
      decisions.countP (fun decision => decision.1 = .duplicate) =
        (records.filter (replays gate database.tables)).length ∧
      ∃ rows, after.tables.quarantine = database.tables.quarantine ++ rows ∧
        rows.map QuarantineRow.contents =
          (records.filter fun raw => ¬ replays gate database.tables raw).map
            (rejection gate runId) := by
  induction batch with
  | nil database => exact ⟨rfl, rfl, rfl, rfl, [], by simp⟩
  | @cons raw rest database middle after decision decisions decided _ inductionHypothesis =>
    obtain ⟨sameSeen, sameAccepted, how⟩ := decided.replayed fun other member =>
      seen other (List.mem_singleton.mp member ▸ List.mem_cons_self)
    have later : Seen gate middle.tables rest := by
      intro other member event valid
      rw [Tables.seenIds, sameSeen]
      exact seen other (List.mem_cons_of_mem raw member) event valid
    obtain ⟨seenLater, acceptedLater, none, duplicates, rows, appended, contents⟩ :=
      inductionHypothesis later
    rw [replays_of_seen sameSeen] at duplicates contents
    refine ⟨seenLater.trans sameSeen, acceptedLater.trans sameAccepted, ?_⟩
    by_cases isReplay : replays gate database.tables raw = true
    · rw [if_pos isReplay] at how
      obtain ⟨outcome, rfl⟩ := how
      refine ⟨?_, ?_, rows, appended, ?_⟩
      · simp [none, outcome]
      · simp [duplicates, outcome, isReplay]
      · simpa [isReplay] using contents
    · rw [if_neg isReplay] at how
      obtain ⟨outcome, row, rejected, added⟩ := how
      refine ⟨?_, ?_, row :: rows, ?_, ?_⟩
      · simp [none, outcome]
      · simp [duplicates, outcome, isReplay]
      · rw [appended, added, List.append_assoc]
        rfl
      · rw [List.map_cons, rejected, contents, List.filter_cons_of_pos (by simpa using isReplay),
          List.map_cons]

end Batch

/-- Under the same rules, unchanged accepted events leave unchanged projections. With other rules
a replay would change the ledger, which is why the rules are compared. -/
theorem projection_unmoved {database : Database} {after : Tables} {rules : Option PostingRules}
    {postingRules : PostingRules} (projected : Projected database.tables rules)
    (sameRules : ∀ last, rules = some last → postingRules = last)
    (same : after.acceptedEvent = database.tables.acceptedEvent)
    (rebuilt : after.projection = projectAll postingRules after.events) :
    after.projection = database.tables.projection := by
  have events : after.events = database.tables.events := congrArg (List.map AcceptedRow.event) same
  rw [rebuilt, events]
  cases rules with
  | none =>
    rw [projected.1, projected.2]
    rfl
  | some last => rw [sameRules last rfl, projected.2]

/-- Replay and conflict have no financial effect. On a reachable store, a successful call
with the rules of the last data commit, over records whose events are all seen already,
leaves the identity tables and the projections as they are. It accepts nothing, counts
exactly the replays as duplicates, and leaves exactly one quarantine row for each other
record. -/
theorem replay_without_effect {gate : Gate} {call : ProcessCall} {database : Database}
    {rules : Option PostingRules} {result : Summary} {after : Store}
    (reachable : Reachable database rules)
    (sameRules : ∀ last, rules = some last → call.postingRules = last)
    (seen : Seen gate database.tables call.records)
    (returned : (process gate call).run.eval perform database.opened = (.ok result, after)) :
    Unmoved database.tables after.durable.tables ∧
      result.acceptedNew = 0 ∧
      result.duplicates = (call.records.filter (replays gate database.tables)).length ∧
      ∃ rows, after.durable.tables.quarantine = database.tables.quarantine ++ rows ∧
        rows.map QuarantineRow.contents =
          (call.records.filter fun raw => ¬ replays gate database.tables raw).map
            (rejection gate call.runId) := by
  obtain ⟨completed, rebuilt, _, unbalanced, balance, rfl⟩ := returned_completed reachable returned
  obtain ⟨decisions, gated, batch, tallied, seenEvent, acceptedEvent, quarantine, recorded⟩ :=
    completed.decided
  obtain ⟨sameSeen, sameAccepted, none, duplicates, rows, appended, contents⟩ :=
    batch.replayed seen
  rw [← batch.length] at tallied
  have reports := @summarize_reports gate.runtime call.runId after.durable unbalanced balance
    decisions tallied (completed_recorded reachable completed.fresh recorded)
  have accepted := acceptedEvent.trans sameAccepted
  have unmoved := projection_unmoved (reachable_consistent reachable).projected sameRules accepted
    rebuilt
  have ⟨exceptions, posted, ledger, states⟩ := Projection.mk.inj unmoved
  refine ⟨⟨seenEvent.trans sameSeen, accepted, posted, ledger, exceptions, states⟩, ?_, ?_, rows,
    quarantine.trans appended, contents⟩
  · rw [reports.acceptedNew, none]
    rfl
  · rw [reports.duplicates, duplicates]
    rfl

/-- That a batch is seen can be checked record by record, by evaluating the gate on each. -/
theorem seen_of_records {gate : Gate} {tables : Tables} {records : List Fields}
    (checked : ∀ raw ∈ records,
      (match validateEvent gate.runtime gate.registry gate.tokenKey raw with
      | .error _ => true
      | .ok event => decide (event.eventId ∈ tables.seenIds)) = true) :
    Seen gate tables records := by
  intro raw member event valid
  have here := checked raw member
  rw [valid] at here
  exact of_decide_eq_true here

/-- The sample authorization again, the sample capture with other money, and a refund
of nothing. -/
def sampleReplay : List Fields :=
  [sampleAuthorization, sampleRaw "evt-2" .capture 2 700 "2026-01-01T00:01:00+00:00",
    sampleRaw "evt-3" .refund 3 0 "2026-01-01T00:03:00+00:00"]

/-- The altered capture and the broken refund are quarantined, and nothing else moves. -/
theorem replay_without_effect_sample :
    let after := (completed sampleGate (sampleCall "run-2" sampleReplay) sampleDatabase).durable
    Unmoved sampleDatabase.tables after.tables ∧
      ∃ rows, after.tables.quarantine = sampleDatabase.tables.quarantine ++ rows ∧
        rows.map QuarantineRow.reason = [conflictReason, str "invalid_amount_minor"] := by
  obtain ⟨result, returned⟩ :=
    @returned_of_ok sampleGate (sampleCall "run-2" sampleReplay) sampleDatabase (by decide +kernel)
  have sameRules : ∀ last, some shippedRules = some last → shippedRules = last :=
    fun _ same => Option.some.inj same
  obtain ⟨unmoved, _, _, rows, appended, contents⟩ := replay_without_effect sample_reachable
    sameRules (seen_of_records (by decide +kernel)) returned
  refine ⟨unmoved, rows, appended, ?_⟩
  have reasons := congrArg (List.map fun row => row.2.2.1) contents
  rw [List.map_map] at reasons
  exact reasons.trans (by decide +kernel)

end LedgerFlow
