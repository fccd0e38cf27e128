import LedgerFlow.Simulator.Batches
import LedgerFlow.Store.KnownBatches

/-!
# What the gate reads of the arrivals

The arrivals come to the gate as their lines are read back, with their keys in order. Every
valid event reads as the event of its stage, and these have distinct identifiers. The conflict
reads as an event under the identifier of the first; the other fixtures are refused, each for
its own reason.
-/

namespace LedgerFlow.Simulator

open PyText PyJson PyDateTime Grouping Manifests

/-! ## Sources -/

/-- A registry as it is loaded, with every source under its own identifier, whose lifecycle
sources supply payment events under valid identifiers. -/
structure Supplies (registry : Registry) : Prop where
  keyed : Keyed Prod.fst registry
  named : ∀ entry ∈ registry, entry.1 = entry.2.sourceId
  nonempty : lifecycleSources registry ≠ []
  contract : ∀ source ∈ lifecycleSources registry, source.contract = str "payment_event"
  identified : ∀ source ∈ lifecycleSources registry, isIdentifier source.sourceId = true

/-- A lifecycle source is found under its identifier, and registered for payment events. -/
theorem Supplies.registered {registry : Registry} (supplies : Supplies registry) {source : Source}
    (listed : source ∈ lifecycleSources registry) :
    ∃ found, registry.lookup source.sourceId = some found ∧
      found.contract = str "payment_event" := by
  obtain ⟨⟨key, _⟩, member, rfl⟩ := List.mem_map.mp (List.mem_filter.mp listed).1
  have same : key = _ := supplies.named _ member
  exact ⟨_, supplies.keyed.lookup_mem.mpr (same ▸ member), supplies.contract _ listed⟩

/-! ## Stages of a batch -/

section Stages

variable {sources : List Source} (batch : Batch sources) (gate : Gate)

/-- The stages of a lifecycle, each with its transaction. -/
def Lifecycle.staged (lifecycle : Lifecycle) : List (Transaction × Stage) :=
  lifecycle.stages.map (Prod.mk lifecycle.transaction)

/-- The stages of a batch, in order. -/
def Batch.staged : List (Transaction × Stage) := batch.lifecycles.flatMap Lifecycle.staged

/-- The line of a stage, read back. -/
def lineOf (staged : Transaction × Stage) : Fields :=
  sortedEntries (staged.2.values staged.1).fields

/-- The event of a stage. -/
def eventOf (staged : Transaction × Stage) : PaymentEvent :=
  staged.2.event staged.1 gate.runtime gate.tokenKey

/-- The valid lines of a batch, with their keys in order, are the lines of its staged events. -/
theorem Batch.valid_lines : batch.valid.map sortedEntries = batch.staged.map lineOf := by
  rw [Batch.valid, Batch.staged, List.map_flatMap, List.map_flatMap]
  refine List.flatMap_congr fun lifecycle _ => ?_
  rw [Lifecycle.raws, Lifecycle.staged, List.map_map, List.map_map]
  rfl

/-- A staged event of a batch is a stage of one of its lifecycles. -/
theorem Batch.mem_staged {staged : Transaction × Stage} : staged ∈ batch.staged ↔
    ∃ lifecycle ∈ batch.lifecycles, ∃ stage ∈ lifecycle.stages,
      (lifecycle.transaction, stage) = staged := by
  simp only [Batch.staged, List.mem_flatMap, Lifecycle.staged, List.mem_map]

/-- The source of a stage of a batch is one of the sources that the batch was drawn from. -/
theorem Batch.source_listed {staged : Transaction × Stage} (member : staged ∈ batch.staged) :
    staged.1.source ∈ sources := by
  obtain ⟨lifecycle, listed, _, _, rfl⟩ := batch.mem_staged.mp member
  exact batch.numbered.sources lifecycle listed

/-- The first stage of a batch. -/
def Batch.openingStaged : Transaction × Stage := (batch.head.transaction, batch.opening)

/-- The second stage of a batch. -/
def Batch.captureStaged : Transaction × Stage := (batch.head.transaction, batch.capture)

/-- The opening event that the conflict varies is one of the staged events. -/
theorem Batch.opening_staged : batch.openingStaged ∈ batch.staged :=
  batch.mem_staged.mpr ⟨batch.head, List.mem_cons_self, batch.opening,
    batch.starts ▸ List.mem_cons_self, rfl⟩

/-- The capture that the other fixtures vary is one of the staged events. -/
theorem Batch.capture_staged : batch.captureStaged ∈ batch.staged :=
  batch.mem_staged.mpr ⟨batch.head, List.mem_cons_self, batch.capture,
    batch.starts ▸ List.mem_cons_of_mem _ List.mem_cons_self, rfl⟩

/-- The versions of the stages of a regular lifecycle are distinct. -/
theorem regular_versions {stages : List Stage} (regular : Regular stages) :
    (stages.map Stage.version).Nodup := by
  cases regular with
  | captured pair => simp [pair.first, pair.second]
  | reversed pair third => simp [pair.first, pair.second, third]

/-- The number and the version of a stage. -/
def place (staged : Transaction × Stage) : Nat × Nat := (staged.1.number, staged.2.version)

/-- No two stages of a batch have one number and one version: the numbers of the lifecycles
differ, and so do the versions within one. -/
theorem Batch.placed : Keyed place batch.staged := by
  have distinct : (batch.lifecycles.map Lifecycle.number).Nodup := by
    rw [Batch.lifecycles, batch.numbered.numbers]
    exact List.nodup_range'
  rw [Keyed, Batch.staged, List.map_flatMap, List.nodup_flatMap]
  constructor
  · intro lifecycle _
    have versions := regular_versions lifecycle.regular
    rw [Lifecycle.staged, List.map_map]
    exact List.Nodup.of_map Prod.snd (by rwa [List.map_map])
  · rw [List.Nodup, List.pairwise_map] at distinct
    refine distinct.imp fun {first second} apart => ?_
    intro spot left right
    obtain ⟨_, inFirst, rfl⟩ := List.mem_map.mp left
    obtain ⟨_, inSecond, same⟩ := List.mem_map.mp right
    obtain ⟨_, _, rfl⟩ := List.mem_map.mp inFirst
    obtain ⟨_, _, rfl⟩ := List.mem_map.mp inSecond
    exact apart (Prod.mk.inj same).1.symm

/-- The identifier of an event names its number and its version, and can be read back from it. -/
theorem event_id_place {first second : Transaction × Stage}
    (same : (eventOf gate first).eventId = (eventOf gate second).eventId) :
    place first = place second := by
  have texts := congrArg Subtype.val same
  have plain (number : Nat) := zero_padded_digits 10 number
  have ends (version : Nat) : Ends (str ":v" ++ decimal version) := by
    intro c head
    cases head
    decide
  simp only [eventOf, Stage.event, List.append_assoc] at texts
  obtain ⟨numbers, versions⟩ := digits_cancel _ _ (plain _) (plain _) (ends _) (ends _)
    (List.append_cancel_left texts)
  have number := congrArg numeral numbers
  rw [zero_padded_numeral, zero_padded_numeral] at number
  have none : Ends [] := by
    intro c head
    cases head
  have version := (@decimal_cancel first.2.version second.2.version [] [] none none
    (by simpa using List.append_cancel_left versions)).1
  exact Prod.ext number (Int.ofNat_inj.mp version)

/-- The event of the conflict. -/
def Batch.conflictEvent : PaymentEvent :=
  { eventOf gate batch.openingStaged with
    amountMinor := batch.opening.amountMinor + 1
    receivedAt := batch.delayed
    amountPositive := by omega }

/-- The events of a batch. -/
def Batch.events : List PaymentEvent := batch.staged.map (eventOf gate)

/-- The events of a batch have distinct identifiers, since their places are distinct. -/
theorem Batch.events_keyed : Keyed PaymentEvent.eventId (batch.events gate) := by
  have placed := batch.placed
  rw [Keyed, List.Nodup, List.pairwise_map] at placed
  rw [Keyed, List.Nodup, Batch.events, List.pairwise_map, List.pairwise_map]
  exact placed.imp fun apart same => apart (event_id_place gate same)

end Stages

/-! ## What is read -/

section Gated

variable {gate : Gate} (supplies : Supplies gate.registry) (long : 32 ≤ gate.tokenKey.length)
  (batch : Batch (lifecycleSources gate.registry))

include supplies in
/-- The entries of a stage of the batch spell the event of the stage. -/
theorem Batch.spells {staged : Transaction × Stage} (member : staged ∈ batch.staged) :
    (staged.2.values staged.1).Spells gate.runtime gate.registry gate.tokenKey
      (eventOf gate staged) :=
  stage_spells (supplies.registered (batch.source_listed member))

include supplies long in
/-- A valid event of the batch reads as the event of its stage. -/
theorem Batch.reads {staged : Transaction × Stage} (member : staged ∈ batch.staged) :
    Reads gate (lineOf staged) (eventOf gate staged) :=
  validate_stage (sorted_values_perm _) (supplies.registered (batch.source_listed member)) long

include supplies in
/-- But for its amount, the conflicting payload spells the opening event, received later. -/
theorem Batch.spells_conflict :
    batch.conflict.Spells gate.runtime gate.registry gate.tokenKey
      { eventOf gate batch.openingStaged with receivedAt := batch.delayed } :=
  have spells := batch.spells supplies batch.opening_staged
  { spells with receivedAt := whole_read batch.whole }

include supplies long in
/-- The conflict reads as the first event with another amount and receipt time. -/
theorem Batch.reads_conflict :
    Reads gate (sortedEntries batch.conflict.fields) (batch.conflictEvent gate) := by
  have positive : 0 < batch.conflict.amountMinor := by
    show (0 : Int) < batch.opening.amountMinor + 1
    omega
  rw [Reads, validate_values (sorted_values_perm _) (batch.spells_conflict supplies) long,
    if_pos (show batch.conflict.schemaVersion = schemaVersion from rfl), dif_pos positive]
  rfl

include supplies in
/-- The entries of a fixture made from the second event spell the capture under the fixture's
name. -/
theorem Batch.spells_named (name : Identifier) :
    (batch.second.named name.1).Spells gate.runtime gate.registry gate.tokenKey
      { eventOf gate batch.captureStaged with eventId := name, transactionId := name } :=
  have spells := batch.spells supplies batch.capture_staged
  { spells with eventId := rfl, transactionId := rfl }

include supplies long in
/-- The payload with a negative amount is refused for its amount, since every check before that
one passes. -/
theorem Batch.refuses_amount : validateEvent gate.runtime gate.registry gate.tokenKey
    (sortedEntries batch.invalidAmount.fields) =
      .error (.contract (str "invalid_amount_minor")) := by
  have named := batch.spells_named supplies ⟨str "fixture:invalid-amount", by decide⟩
  have spells : batch.invalidAmount.Spells gate.runtime gate.registry gate.tokenKey _ :=
    { named with }
  have negative : ¬ 0 < batch.invalidAmount.amountMinor := by
    show ¬ (0 : Int) < -100
    decide
  rw [validate_values (sorted_values_perm _) spells long,
    if_pos (show batch.invalidAmount.schemaVersion = schemaVersion from rfl), dif_neg negative]

include supplies long in
/-- The payload of another schema version is refused for its version, since no key in it is
prohibited, missing or unexpected. -/
theorem Batch.refuses_schema : validateEvent gate.runtime gate.registry gate.tokenKey
    (sortedEntries batch.unsupported.fields) =
      .error (.contract (str "unsupported_schema_version")) := by
  have named := batch.spells_named supplies ⟨str "fixture:unsupported-schema", by decide⟩
  have spells : batch.unsupported.Spells gate.runtime gate.registry gate.tokenKey _ :=
    { named with }
  have other : batch.unsupported.schemaVersion ≠ schemaVersion := by
    show str "9.9" ≠ schemaVersion
    decide
  rw [validate_values (sorted_values_perm _) spells long, if_neg other]

/-- The payload with a card number is refused for that field, before anything else of it is looked
at. -/
theorem Batch.refuses_card : validateEvent gate.runtime gate.registry gate.tokenKey
    (sortedEntries batch.prohibited) = .error (.contract (str "prohibited_fields:card_number")) :=
  validate_prohibited (List.perm_insertionSort byKey batch.prohibited)

/-- The identifier that a fixture claims can be stored, as it is an encodable text. -/
theorem claimed_encodable {raw fields : Fields} (same : raw.Perm fields)
    (keyed : Keyed Prod.fst fields) {name : Str}
    (claims : get fields (str "event_id") = some (.str name)) (encodable : Encodable name) :
    Encodable ((claimedEventId raw).getD []) := by
  have found : get raw (str "event_id") = some (.str name) :=
    (keyed.lookup_perm same.symm (str "event_id")).symm.trans claims
  rw [claimedEventId, found]
  exact encodable

/-! ## Decisions -/

/-- The reasons for which the fixtures are quarantined, in order. -/
def fixtureReasons : List Str :=
  [conflictReason, str "invalid_amount_minor", str "unsupported_schema_version",
    str "prohibited_fields:card_number"]

/-- How the arrivals of a batch are decided. -/
def Batch.decisions {sources : List Source} (batch : Batch sources) : List (Outcome × Str) :=
  List.replicate batch.valid.length (.accepted, str "contract_and_identity_passed") ++
    (List.replicate (duplicatesOf batch.valid).length (.duplicate, str "exact_event_replay") ++
      fixtureReasons.map (Prod.mk .quarantined))

/-- The first event and the conflict are told apart by their fingerprints. -/
def Batch.Apart {sources : List Source} (batch : Batch sources) (gate : Gate) : Prop :=
  identityFingerprint gate.runtime (lineOf batch.openingStaged) ≠
    identityFingerprint gate.runtime (sortedEntries batch.conflict.fields)

include supplies long in
/-- Without a collision on their identity texts, the first event and the conflict are apart. -/
theorem Batch.apart (free : CollisionFree gate.runtime fun text =>
      text = identityText gate.runtime (lineOf batch.openingStaged) ∨
        text = identityText gate.runtime (sortedEntries batch.conflict.fields)) :
    batch.Apart gate := by
  intro same
  have texts := free _ _ (.inl rfl) (.inr rfl) same
  have alike := same_identity_alike
    (validate_event_ok (batch.reads supplies long batch.opening_staged))
    (validate_event_ok (batch.reads_conflict supplies long)) texts
  have amounts := congrArg PaymentEvent.amountMinor alike
  have given : (batch.opening.amountMinor : Int) = batch.opening.amountMinor + 1 := amounts
  omega

include supplies long in
/-- The arrivals are decided as they were made, in whatever order the valid events come. -/
theorem Batch.decided {runId : Str} {database after : Database} {shuffled : List Fields}
    {decisions : List (Outcome × Str)} (permuted : shuffled.Perm batch.valid)
    (apart : batch.Apart gate) (unseen : database.tables.seenIds = [])
    (decided : Decisions gate runId
      ((shuffled ++ (duplicatesOf batch.valid ++ batch.fixtures)).map sortedEntries)
      database decisions after) :
    decisions = batch.decisions ∧ ∃ events, events.Perm (batch.events gate) ∧
      after.tables.events = database.tables.events ++ events := by
  have lines : (shuffled.map sortedEntries).Perm (batch.staged.map lineOf) :=
    batch.valid_lines ▸ permuted.map sortedEntries
  have read : List.Forall₂ (Reads gate) (batch.staged.map lineOf) (batch.events gate) := by
    rw [Batch.events, List.forall₂_map_left_iff, List.forall₂_map_right_iff, List.forall₂_same]
    exact fun staged member => batch.reads supplies long member
  obtain ⟨events, reads, same⟩ := List.perm_comp_forall₂ lines read
  have keyed : Keyed PaymentEvent.eventId events :=
    (same.map PaymentEvent.eventId).nodup_iff.mpr (batch.events_keyed gate)
  rw [List.map_append, List.map_append] at decided
  obtain ⟨first, others, middle, rfl, accepting, rest⟩ := decided.split
  obtain ⟨again, refused, last, rfl, replaying, refusing⟩ := rest.split
  obtain ⟨rfl, accepted, stored, _⟩ :=
    accepting.of_new reads keyed fun event _ => unseen ▸ List.not_mem_nil
  have fingerprint {staged : Transaction × Stage} (member : staged ∈ batch.staged) :
      middle.tables.identityOf (eventOf gate staged).eventId =
        some (identityFingerprint gate.runtime (lineOf staged)) :=
    stored _ (lines.mem_iff.mpr (List.mem_map_of_mem member)) _ (batch.reads supplies long member)
  obtain ⟨rfl, rfl⟩ := replaying.of_replayed fun raw member => by
    obtain ⟨event, listed, rfl⟩ := List.mem_map.mp member
    have valid := List.mem_map_of_mem (f := sortedEntries) (mem_duplicates listed)
    rw [batch.valid_lines] at valid
    obtain ⟨staged, inside, same⟩ := List.mem_map.mp valid
    rw [← same]
    exact ⟨_, batch.reads supplies long inside, fingerprint inside⟩
  rw [Batch.fixtures, List.map_cons, List.map_cons, List.map_cons, List.map_cons, List.map_nil]
    at refusing
  obtain _ | ⟨conflict, refusing⟩ := refusing
  obtain _ | ⟨amount, refusing⟩ := refusing
  obtain _ | ⟨schema, refusing⟩ := refusing
  obtain _ | ⟨card, refusing⟩ := refusing
  obtain _ | _ := refusing
  obtain ⟨rfl, keptFirst⟩ := conflict.of_conflict (batch.reads_conflict supplies long)
    (fingerprint batch.opening_staged) apart
  obtain ⟨rfl, keptSecond⟩ := amount.of_invalid (batch.refuses_amount supplies long)
  obtain ⟨rfl, keptThird⟩ := schema.of_invalid (batch.refuses_schema supplies long)
  obtain ⟨rfl, keptLast⟩ := card.of_invalid batch.refuses_card
  refine ⟨?_, events, same, ?_⟩
  · rw [Batch.decisions, List.length_map, List.length_map, permuted.length_eq]
    rfl
  · rw [keptLast, keptThird, keptSecond, keptFirst, accepted]

/-! ## Passing the gate -/

/-- The numbers of the event are those of a generated event, or of the conflict. -/
structure Modest (event : PaymentEvent) : Prop where
  version : event.transactionVersion ≤ 3
  amount : event.amountMinor ≤ 500001

/-- A modest event fits into the columns of the store, far below 64 bits. -/
theorem Modest.storable {event : PaymentEvent} (modest : Modest event) : Storable event := by
  have version := event.versionPositive
  have amount := event.amountPositive
  obtain ⟨upper, most⟩ := modest
  unfold Storable Int64
  omega

/-- The record reads as a modest event, or is refused with what can be redacted and stored. -/
inductive Settles (gate : Gate) (raw : Fields) : Prop
  | read (event : PaymentEvent) (reads : Reads gate raw event) (modest : Modest event)
  | refused (reason : Str)
      (refuses : validateEvent gate.runtime gate.registry gate.tokenKey raw =
        .error (.contract reason))
      (flat : ∀ entry ∈ raw, Childless entry.2)
      (claimed : Encodable ((claimedEventId raw).getD [])) (encodable : Encodable reason)

/-- A line that settles can be digested after any others: it is read into a storable event or
refused. -/
theorem Settles.passable {raw : Fields} (settles : Settles gate raw) (seen : List Identifier) :
    Passable gate seen raw := by
  unfold Passable
  cases settles with
  | read event reads modest =>
    rw [show validateEvent gate.runtime gate.registry gate.tokenKey raw = .ok event from reads]
    exact .inr modest.storable
  | refused reason refuses flat claimed encodable =>
    rw [refuses]
    exact ⟨flat_redactable gate.runtime flat, claimed, encodable⟩

/-- The entries of a flat object stay flat in another order. -/
theorem flat_perm {raw fields : Fields} (same : raw.Perm fields)
    (flat : ∀ entry ∈ fields, Childless entry.2) : ∀ entry ∈ raw, Childless entry.2 :=
  fun entry member => flat entry (same.mem_iff.mp member)

/-- What is admitted from settled records is modest: each record either reads as a modest event or
is refused. -/
theorem admitted_modest {records : List Fields} (settles : ∀ raw ∈ records, Settles gate raw)
    {seen : List Identifier} {event : PaymentEvent}
    (member : event ∈ admitted gate seen records) : Modest event := by
  obtain ⟨raw, listed, valid⟩ := admitted_source member
  cases settles raw listed with
  | read other reads modest =>
    cases valid.symm.trans reads
    exact modest
  | refused reason refuses => cases valid.symm.trans refuses

/-- A staged event is modest: its amount is below half a million, and its version at most
three. -/
theorem stage_modest (gate : Gate) (staged : Transaction × Stage) : Modest (eventOf gate staged) := by
  have version := staged.2.versionRange
  have amount := staged.2.amountRange
  constructor
  · show (staged.2.version : Int) ≤ 3
    omega
  · show (staged.2.amountMinor : Int) ≤ 500001
    omega

include supplies long in
/-- All arrivals of a batch are settled: the valid events and their duplicates read as modest
events, and each fixture reads as one or is refused with an identifier that can be stored. -/
theorem Batch.settles {shuffled : List Fields} (permuted : shuffled.Perm batch.valid) :
    ∀ raw ∈ (shuffled ++ (duplicatesOf batch.valid ++ batch.fixtures)).map sortedEntries,
      Settles gate raw := by
  have valid {raw : Fields} (member : raw ∈ batch.valid) : Settles gate (sortedEntries raw) := by
    have line := List.mem_map_of_mem (f := sortedEntries) member
    rw [batch.valid_lines] at line
    obtain ⟨staged, inside, same⟩ := List.mem_map.mp line
    rw [← same]
    exact .read _ (batch.reads supplies long inside) (stage_modest gate staged)
  intro raw listed
  obtain ⟨arrival, member, rfl⟩ := List.mem_map.mp listed
  rcases List.mem_append.mp member with fresh | injected
  · exact valid (permuted.mem_iff.mp fresh)
  rcases List.mem_append.mp injected with again | refused
  · exact valid (mem_duplicates again)
  simp only [Batch.fixtures, List.mem_cons, List.not_mem_nil, or_false] at refused
  rcases refused with rfl | rfl | rfl | rfl
  · have amount := batch.opening.amountRange
    have version := batch.opening.versionRange
    refine .read _ (batch.reads_conflict supplies long) ⟨?_, ?_⟩
    · show (batch.opening.version : Int) ≤ 3
      omega
    · show (batch.opening.amountMinor : Int) + 1 ≤ 500001
      omega
  · have claimed : Encodable (str "fixture:invalid-amount") := by decide
    exact .refused _ (batch.refuses_amount supplies long)
      (flat_perm (sorted_values_perm _) (values_flat _))
      (claimed_encodable (sorted_values_perm _) (values_keyed _) rfl claimed) (by decide)
  · have claimed : Encodable (str "fixture:unsupported-schema") := by decide
    exact .refused _ (batch.refuses_schema supplies long)
      (flat_perm (sorted_values_perm _) (values_flat _))
      (claimed_encodable (sorted_values_perm _) (values_keyed _) rfl claimed) (by decide)
  · have claimed : Encodable (str "fixture:prohibited-pan") := by decide
    exact .refused _ batch.refuses_card
      (flat_perm (List.perm_insertionSort byKey batch.prohibited) (card_flat _ _))
      (claimed_encodable (List.perm_insertionSort byKey batch.prohibited)
        batch.prohibited_readable.1 rfl claimed) (by decide)

end Gated

end LedgerFlow.Simulator
