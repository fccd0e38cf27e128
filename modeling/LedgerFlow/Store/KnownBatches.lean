import LedgerFlow.Store.RawRecords

/-!
# Batches whose decisions are known

Where it is known what each record reads as, the decisions of a batch are determined: new
events are accepted, records that were accepted before are duplicates, an event under a known
identifier with another fingerprint is a conflict, and what breaks the contract is
quarantined. A batch is taken apart into such runs of records.
-/

namespace LedgerFlow

open PyText PyJson Grouping Programs

section Known

variable {gate : Gate} {runId : Str} {raw : Fields} {database after : Database}
  {decision : Outcome × Str} {event : PaymentEvent}

/-- The record reads as this event. -/
def Reads (gate : Gate) (raw : Fields) (event : PaymentEvent) : Prop :=
  validateEvent gate.runtime gate.registry gate.tokenKey raw = .ok event

/-! ## One record -/

/-- A new event is accepted: of the four cases of a decision only this one has no stored identity
and no error. -/
theorem Decided.of_new (decided : Decided gate runId raw database decision after)
    (reads : Reads gate raw event) (new : event.eventId ∉ database.tables.seenIds) :
    decision = (.accepted, str "contract_and_identity_passed") ∧
      after = database.accepting runId event (identityFingerprint gate.runtime raw) := by
  cases decided with
  | accepted other valid =>
    cases reads.symm.trans valid
    exact ⟨rfl, rfl⟩
  | duplicate other valid replayed =>
    cases reads.symm.trans valid
    exact absurd (identity_of_some replayed) new
  | conflict other stored valid known =>
    cases reads.symm.trans valid
    exact absurd (identity_of_some known) new
  | invalid error invalid => cases reads.symm.trans invalid

/-- An event with its stored fingerprint is a duplicate, and leaves the database as it was. -/
theorem Decided.of_replayed (decided : Decided gate runId raw database decision after)
    (reads : Reads gate raw event) (stored : database.tables.identityOf event.eventId =
      some (identityFingerprint gate.runtime raw)) :
    decision = (.duplicate, str "exact_event_replay") ∧ after = database := by
  cases decided with
  | accepted other valid fresh =>
    cases reads.symm.trans valid
    exact absurd (identity_of_some stored) fresh
  | duplicate other valid => exact ⟨rfl, rfl⟩
  | conflict other fingerprint valid known apart =>
    cases reads.symm.trans valid
    cases stored.symm.trans known
    exact absurd rfl apart
  | invalid error invalid => cases reads.symm.trans invalid

/-- An event with another fingerprint than the stored one is a conflict. It is quarantined, and
the accepted event stays. -/
theorem Decided.of_conflict {fingerprint : AsciiText}
    (decided : Decided gate runId raw database decision after) (reads : Reads gate raw event)
    (stored : database.tables.identityOf event.eventId = some fingerprint)
    (apart : fingerprint ≠ identityFingerprint gate.runtime raw) :
    decision = (.quarantined, conflictReason) ∧ after.tables.events = database.tables.events := by
  cases decided with
  | accepted other valid fresh =>
    cases reads.symm.trans valid
    exact absurd (identity_of_some stored) fresh
  | duplicate other valid replayed =>
    cases reads.symm.trans valid
    cases stored.symm.trans replayed
    exact absurd rfl apart
  | conflict other => exact ⟨rfl, rfl⟩
  | invalid error invalid => cases reads.symm.trans invalid

/-- A record that breaks the contract is quarantined under the text of its error. -/
theorem Decided.of_invalid {error : PyError} (decided : Decided gate runId raw database decision after)
    (invalid : validateEvent gate.runtime gate.registry gate.tokenKey raw = .error error) :
    decision = (.quarantined, error.text) ∧ after.tables.events = database.tables.events := by
  cases decided with
  | accepted other valid | duplicate other valid | conflict other _ valid =>
    cases invalid.symm.trans valid
  | invalid other same =>
    cases invalid.symm.trans same
    exact ⟨rfl, rfl⟩

/-! ## Runs of records -/

variable {records first second : List Fields} {decisions : List (Outcome × Str)}

/-- A batch is decided part by part: the second part is decided on what the first has left. -/
theorem Decisions.split (batch : Decisions gate runId (first ++ second) database decisions after) :
    ∃ earlier later middle, decisions = earlier ++ later ∧
      Decisions gate runId first database earlier middle ∧
      Decisions gate runId second middle later after := by
  induction first generalizing database decisions with
  | nil => exact ⟨[], decisions, database, rfl, .nil database, batch⟩
  | cons raw rest inductionHypothesis =>
    cases batch with
    | cons decided others =>
      obtain ⟨earlier, later, middle, same, left, right⟩ := inductionHypothesis others
      exact ⟨_ :: earlier, later, middle, by rw [same, List.cons_append], .cons decided left, right⟩

/-- What is stored once an event is accepted: its own fingerprint under its identifier, and what
was there under the others. -/
theorem identity_accepting (event : PaymentEvent) (fingerprint : AsciiText) (eventId : Identifier)
    (new : event.eventId ∉ database.tables.seenIds) :
    (database.accepting runId event fingerprint).tables.identityOf eventId =
      if eventId = event.eventId then some fingerprint else database.tables.identityOf eventId := by
  rw [Tables.identityOf, Database.accepting, List.find?_append, Tables.identityOf]
  by_cases same : eventId = event.eventId
  · subst same
    have none := identity_of_none.mpr new
    rw [Tables.identityOf, Option.map_eq_none_iff] at none
    rw [if_pos rfl, none, Option.none_or, List.find?_cons_of_pos (by simp)]
    rfl
  · rw [if_neg same, List.find?_cons_of_neg (by simpa using Ne.symm same), List.find?_nil,
      Option.or_none]

/-- New events are accepted, and stored with the fingerprints of their records.

Proof: by induction on the batch. Accepting one event leaves the others new, as their identifiers
are distinct. -/
theorem Decisions.of_new (batch : Decisions gate runId records database decisions after)
    {events : List PaymentEvent} (reads : List.Forall₂ (Reads gate) records events)
    (distinct : Keyed PaymentEvent.eventId events)
    (new : ∀ event ∈ events, event.eventId ∉ database.tables.seenIds) :
    decisions = List.replicate records.length (.accepted, str "contract_and_identity_passed") ∧
      after.tables.events = database.tables.events ++ events ∧
      (∀ raw ∈ records, ∀ event, Reads gate raw event →
        after.tables.identityOf event.eventId = some (identityFingerprint gate.runtime raw)) ∧
      ∀ eventId, eventId ∉ events.map PaymentEvent.eventId →
        after.tables.identityOf eventId = database.tables.identityOf eventId := by
  induction reads generalizing database decisions with
  | nil =>
    cases batch
    exact ⟨rfl, (List.append_nil _).symm, nofun, fun _ _ => rfl⟩
  | @cons raw event rest events read others inductionHypothesis =>
    cases batch with
    | cons decided later =>
      obtain ⟨fresh, unique⟩ :=
        List.nodup_cons.mp (distinct : (event.eventId :: events.map PaymentEvent.eventId).Nodup)
      have unseen := new event List.mem_cons_self
      obtain ⟨rfl, rfl⟩ := decided.of_new read unseen
      have ids : (database.accepting runId event (identityFingerprint gate.runtime raw)).tables.seenIds =
          database.tables.seenIds ++ [event.eventId] := List.map_append
      obtain ⟨same, accepted, stored, kept⟩ := inductionHypothesis later unique (by
        intro other member seen
        rw [ids] at seen
        rcases List.mem_append.mp seen with before | last
        · exact new other (List.mem_cons_of_mem event member) before
        · rw [List.mem_singleton] at last
          exact fresh (last ▸ List.mem_map_of_mem member))
      refine ⟨by rw [same]; rfl, ?_, ?_, ?_⟩
      · rw [accepted, Tables.events, Database.accepting, List.map_append, List.append_assoc]
        rfl
      · refine List.forall_mem_cons.mpr ⟨fun other reads => ?_, stored⟩
        cases read.symm.trans reads
        rw [kept event.eventId fresh, identity_accepting event _ _ unseen, if_pos rfl]
      · intro eventId absent
        rw [List.map_cons, List.mem_cons, not_or] at absent
        rw [kept eventId absent.2, identity_accepting event _ _ unseen, if_neg absent.1]

/-- Records that are stored with their fingerprints are duplicates, all of them, and nothing
changes in between. -/
theorem Decisions.of_replayed (batch : Decisions gate runId records database decisions after)
    (stored : ∀ raw ∈ records, ∃ event, Reads gate raw event ∧
      database.tables.identityOf event.eventId = some (identityFingerprint gate.runtime raw)) :
    decisions = List.replicate records.length (.duplicate, str "exact_event_replay") ∧
      after = database := by
  induction batch with
  | nil database => exact ⟨rfl, rfl⟩
  | cons decided later inductionHypothesis =>
    obtain ⟨⟨event, reads, known⟩, others⟩ := List.forall_mem_cons.mp stored
    obtain ⟨rfl, rfl⟩ := decided.of_replayed reads known
    obtain ⟨same, kept⟩ := inductionHypothesis others
    exact ⟨by rw [same]; rfl, kept⟩

/-- A batch can be gated if each of its records passes whatever was seen before it. -/
theorem gateable_of_passable (passable : ∀ raw ∈ records, ∀ seen, Passable gate seen raw)
    (seen : List Identifier) : Gateable gate seen records := by
  induction records generalizing seen with
  | nil => trivial
  | cons raw rest inductionHypothesis =>
    obtain ⟨first, others⟩ := List.forall_mem_cons.mp passable
    exact ⟨first seen, inductionHypothesis others _⟩

end Known

end LedgerFlow
