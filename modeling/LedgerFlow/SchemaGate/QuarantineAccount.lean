import LedgerFlow.SchemaGate.Bronze
import LedgerFlow.SchemaGate.Publication

/-!
# The account of the quarantine bucket

A record is quarantined because it breaks the contract, or because its event is registered
under another fingerprint. `Accounted` is the invariant of the bucket: every object in it
is the evidence of a record that was received, and a conflict names the fingerprint that it
differs from. As a registered fingerprint never changes, all conflicts of an event differ
from the same one.

Only the registry raises contract errors of its own. Any other contract error in the handler
is the one that reading the record raises, so the reason of a broken contract is determined
by the record.
-/

namespace LedgerFlow.SchemaGate

open PyText PyJson PyDateTime Programs Programs.Program

variable {deployment : Deployment} {received : Record → Prop}

/-! ## Evidence -/

/-- What the handler reads from a record before it publishes: the payload and its event, or
the error that it raises. -/
def reading (deployment : Deployment) (record : Record) : Py (Fields × PaymentEvent) :=
  match record.decoded with
  | none => .error (.value (str "undecodable record"))
  | some (.obj raw) => do
      let businessPayload ← extractBusinessPayload raw
      rejectProhibitedFields deployment.runtime businessPayload
      let payment ← validateEvent deployment.runtime deployment.registry deployment.tokenKey
        businessPayload
      .ok (businessPayload, payment)
  | some _ => .error (.contract (str "non_object_event"))

/-- The object that the handler writes to quarantine the record. -/
def evidence (deployment : Deployment) (record : Record) : Option StoredObject :=
  match reading deployment record with
  | .ok (_, payment) => some (conflictObject payment)
  | .error (.contract reason) => some (contractObject deployment.runtime record reason)
  | .error _ => none

/-- The fingerprint of what was read. -/
abbrev fingerprintOf (deployment : Deployment) (read : Fields × PaymentEvent) : AsciiText :=
  identityFingerprint deployment.runtime read.1

/-- A valid event is free of prohibited names, as this is checked first. -/
theorem validated_unprohibited {runtime : Runtime} {registry : Registry} {tokenKey : List UInt8}
    {payload : Fields} {event : PaymentEvent}
    (valid : validateEvent runtime registry tokenKey payload = .ok event) :
    rejectProhibitedFields runtime payload = .ok () := by
  rw [validateEvent, bind_ok] at valid
  exact valid.choose_spec.1

/-- The handler reads what the record submits: the payload and the event that it is validated
to. -/
theorem reading_ok {record : Record} {payload : Fields} {event : PaymentEvent} :
    reading deployment record = .ok (payload, event) ↔
      Submits deployment record payload event := by
  constructor
  · intro read
    unfold reading at read
    split at read
    · cases read
    · rename_i raw decoded
      simp only [bind_ok] at read
      obtain ⟨_, extracted, _, _, _, valid, same⟩ := read
      cases same
      exact ⟨raw, decoded, extracted, valid⟩
    · cases read
  · rintro ⟨raw, decoded, extracted, valid⟩
    simp only [reading, decoded, bind_ok]
    exact ⟨payload, extracted, (), validated_unprohibited valid, event, valid, rfl⟩

/-! ## The invariant of the bucket -/

/-- The object is the evidence of a received record: it breaks the contract, or its event
is registered under another fingerprint. -/
inductive Accounts (deployment : Deployment) (received : Record → Prop) (cloud : Cloud) :
    StoredObject → Prop
  | contract {record : Record} {reason : Str} (isReceived : received record)
      (breaks : reading deployment record = .error (.contract reason)) :
      Accounts deployment received cloud (contractObject deployment.runtime record reason)
  | conflict {record : Record} {read : Fields × PaymentEvent} {fingerprint : AsciiText}
      (isReceived : received record) (valid : reading deployment record = .ok read)
      (registered : RegisteredUnder read.2.eventId fingerprint cloud)
      (differs : fingerprint ≠ fingerprintOf deployment read) :
      Accounts deployment received cloud (conflictObject read.2)

/-- Every object of the bucket is accounted for. -/
def Accounted (deployment : Deployment) (received : Record → Prop) (cloud : Cloud) : Prop :=
  ∀ object ∈ cloud.objects, object.bucket = .quarantine →
    Accounts deployment received cloud object

/-- What any call of the handler does to the cloud. -/
structure Retains (deployment : Deployment) (received : Record → Prop) (before after : Cloud) :
    Prop where
  registered : ∀ eventId fingerprint, RegisteredUnder eventId fingerprint before →
    RegisteredUnder eventId fingerprint after
  accounted : Accounted deployment received before → Accounted deployment received after

/-- What accounts for an object goes on doing so, as long as registrations stay. -/
theorem Accounts.retained {before after : Cloud} {object : StoredObject}
    (registered : ∀ eventId fingerprint, RegisteredUnder eventId fingerprint before →
      RegisteredUnder eventId fingerprint after)
    (accounts : Accounts deployment received before object) :
    Accounts deployment received after object := by
  cases accounts with
  | contract isReceived breaks => exact .contract isReceived breaks
  | conflict isReceived valid held differs =>
    exact .conflict isReceived valid (registered _ _ held) differs

/-- A cloud retains what it holds, so a call without an effect does. -/
theorem Retains.refl (cloud : Cloud) : Retains deployment received cloud cloud :=
  ⟨fun _ _ held => held, fun accounted => accounted⟩

/-- No call changes a registered fingerprint, whether it succeeds or fails its condition. -/
theorem perform_registered (deployment : Deployment) (clock : Timestamp) (request : CloudCall)
    {cloud : Cloud} {eventId : Identifier} {fingerprint : AsciiText}
    (held : RegisteredUnder eventId fingerprint cloud) :
    RegisteredUnder eventId fingerprint (perform deployment clock request cloud).2 := by
  obtain ⟨item, found, same⟩ := held
  have updated (other : Identifier) (status : PublicationStatus) (stored : IdentityItem)
      (present : cloud.identities other = some stored) :
      RegisteredUnder eventId fingerprint
        (cloud.register other { stored with publicationStatus := status }) := by
    by_cases here : eventId = other
    · subst here
      rw [found, Option.some.injEq] at present
      subst present
      exact ⟨_, register_same .., same⟩
    · exact ⟨item, (register_other cloud _ here).trans found, same⟩
  cases request with
  | putItem other fresh =>
    simp only [perform]
    split
    · rename_i absent
      have elsewhere : eventId ≠ other := by
        rintro rfl
        rw [found] at absent
        cases absent
      exact ⟨item, (register_other cloud fresh elsewhere).trans found, same⟩
    · exact ⟨item, found, same⟩
  | updateItem other status print =>
    simp only [perform]
    split
    · rename_i stored present
      split
      · exact updated other status stored present
      · exact ⟨item, found, same⟩
    · exact ⟨item, found, same⟩
  | _ => exact ⟨item, found, same⟩

/-- The call writes nothing to quarantine but the evidence of a broken contract. -/
def Harmless (deployment : Deployment) (received : Record → Prop) : CloudCall → Prop
  | .putObject object => object.bucket = .quarantine →
      ∃ record reason, received record ∧
        reading deployment record = .error (.contract reason) ∧
        object = contractObject deployment.runtime record reason
  | _ => True

/-- A call retains the account if what it writes to quarantine is accounted for. -/
theorem perform_retains {request : CloudCall} {cloud : Cloud} (clock : Timestamp)
    (accounts : ∀ object, request = .putObject object → object.bucket = .quarantine →
      Accounts deployment received cloud object) :
    Retains deployment received cloud (perform deployment clock request cloud).2 := by
  have kept {eventId : Identifier} {fingerprint : AsciiText} :=
    @perform_registered deployment clock request cloud eventId fingerprint
  refine ⟨fun _ _ => kept, fun accounted object stored quarantined => ?_⟩
  have before : Accounts deployment received cloud object := by
    rcases perform_objects deployment clock request cloud with same | ⟨written, called, same⟩
    · exact accounted object (same ▸ stored) quarantined
    · rw [same] at stored
      rcases List.mem_cons.mp stored with rfl | earlier
      · exact accounts _ called quarantined
      · exact accounted object earlier quarantined
  exact before.retained fun _ _ => kept

/-! ## What the handler ensures -/

/-- Calls may report any error, but only the registry raises a contract error. -/
def clientEffect (deployment : Deployment) :
    Program.Effect CloudCall (Answer PyError CloudCall.Rows) Cloud :=
  lossy (perform deployment) fun request error _ =>
    request = .loadSourceRegistry ∨ ∀ reason, error ≠ .contract reason

/-- A contract error is the one that reading the record raises. -/
def Blames (deployment : Deployment) (record : Record) (error : PyError) (_ : Cloud) : Prop :=
  ∀ reason, error = .contract reason → reading deployment record = .error (.contract reason)

/-- The handler's programs for one record. -/
abbrev Keeps {α : Type} (deployment : Deployment) (received : Record → Prop) (record : Record)
    (program : Lambda α) (pre : Cloud → Prop) (good : α → Cloud → Prop) : Prop :=
  program.run.Meets (clientEffect deployment) (Retains deployment received)
    (Retains deployment received) pre (Fallible.EndsWith good (Blames deployment record))

/-- Performed calls raise no contract error, so a contract error always comes from the record. -/
theorem perform_error {clock : Timestamp} {request : CloudCall} {cloud : Cloud} {error : PyError}
    (raised : (perform deployment clock request cloud).1 = .error error) (reason : Str) :
    error ≠ .contract reason := by
  rintro rfl
  cases request with
  | putItem eventId item =>
    simp only [perform] at raised
    split at raised <;> cases raised
  | updateItem eventId status fingerprint =>
    simp only [perform] at raised
    split at raised
    · split at raised <;> cases raised
    · cases raised
  | _ => cases raised

/-- One call that retains the account, with what its reply tells to the rest of the program. -/
theorem keeps_call {record : Record} {request : CloudCall} {pre : Cloud → Prop}
    {good : request.Rows → Cloud → Prop} (inside : request ≠ .loadSourceRegistry)
    (retains : ∀ clock cloud, pre cloud →
      Retains deployment received cloud (perform deployment clock request cloud).2)
    (returned : ∀ clock cloud rows, pre cloud →
      (perform deployment clock request cloud).1 = .ok rows →
      good rows (perform deployment clock request cloud).2)
    (stable : ∀ rows, Stable (Retains deployment received) (good rows)) :
    Keeps deployment received record (invoke request) pre good := by
  refine Meets.request ?_ fun reply => ?_
  · rintro before reply after holds ⟨clock, performed | ⟨⟨error, rfl, reported⟩, moved⟩⟩
    · obtain ⟨replied, rfl⟩ := Prod.mk.inj performed
      refine ⟨retains clock before holds, ?_⟩
      cases reply with
      | ok rows => exact returned clock before rows holds replied.symm
      | error error => exact fun reason same => absurd same (perform_error replied.symm reason)
    · have harmless := reported.resolve_left inside
      refine ⟨?_, fun reason same => absurd same (harmless reason)⟩
      rcases moved with rfl | rfl
      · exact Retains.refl _
      · exact retains clock before holds
  · cases reply with
    | ok rows => exact stable rows
    | error error => exact fun _ _ _ holds => holds

/-- A call that writes no conflict retains the account, whatever it replies. -/
theorem keeps_harmless {record : Record} {request : CloudCall} {pre : Cloud → Prop}
    (inside : request ≠ .loadSourceRegistry) (harmless : Harmless deployment received request) :
    Keeps deployment received record (invoke request) pre (fun _ _ => True) := by
  refine keeps_call inside (fun clock cloud _ => perform_retains clock ?_)
    (fun _ _ _ _ _ => trivial) fun _ => stable_true
  rintro object rfl quarantined
  obtain ⟨record, reason, isReceived, breaks, rfl⟩ := harmless quarantined
  exact .contract isReceived breaks

/-- A registered event stays registered under any step that retains. -/
theorem registered_retained (eventId : Identifier) (fingerprint : AsciiText) :
    Stable (Retains deployment received) (RegisteredUnder eventId fingerprint) :=
  fun _ _ retains held => retains.registered eventId fingerprint held

section Records

variable {record : Record} {read : Fields × PaymentEvent}

/-- A conflict is written only against a registered fingerprint that differs. Otherwise the check
returns or raises, and writes nothing. -/
theorem keeps_recheck (isReceived : received record)
    (valid : reading deployment record = .ok read) {error : PyError}
    (raised : Blames deployment record error Cloud.empty) :
    Keeps deployment received record
      (recheckIdentity read.2 (fingerprintOf deployment read) error) (fun _ => True)
      (fun _ _ => True) := by
  apply Fallible.meets_except_bind_with
  · intro other same _ _
    have : other = error := by
      unfold require at same
      split at same <;> cases same
      rfl
    exact this ▸ raised
  intro _ _
  apply Fallible.meets_bind_with fun (found : Option IdentityItem) cloud =>
    ∀ item, found = some item → RegisteredUnder read.2.eventId item.identitySha256 cloud
  · refine keeps_call (by simp) (fun _ cloud _ => Retains.refl cloud) ?_ ?_
    · intro _ cloud rows _ returned item same
      cases returned
      exact ⟨item, same, rfl⟩
    · exact fun rows before after retains holds item same =>
        registered_retained _ _ _ _ retains (holds item same)
  intro found
  cases found with
  | none =>
    intro _ _ reason wrong
    cases wrong
  | some existing =>
    by_cases differs : existing.identitySha256 = fingerprintOf deployment read
    · simp only [ne_eq, differs, not_true_eq_false, ↓reduceIte]
      exact fun _ _ => trivial
    · simp only [ne_eq, differs, not_false_eq_true, ↓reduceIte]
      apply Fallible.meets_bind_with (fun _ _ => True)
      · refine keeps_call (by simp) (fun clock cloud holds => perform_retains clock ?_)
          (fun _ _ _ _ _ => trivial) fun _ => stable_true
        rintro object same _
        cases same
        exact .conflict isReceived valid (holds existing rfl) differs
      · exact fun _ _ _ => trivial

/-- Publishing retains the account: it writes the accepted object, and a conflict only after the
check. -/
theorem keeps_publish_accepted (isReceived : received record)
    (valid : reading deployment record = .ok read) (arrival : Timestamp) :
    Keeps deployment received record
      (publishAccepted read.2 (fingerprintOf deployment read) arrival) (fun _ => True)
      (fun _ _ => True) := by
  have accepted : Harmless deployment received
      (.putObject ⟨.accepted, acceptedKey read.2, read.2.safeDict⟩) := fun wrong => by cases wrong
  apply Fallible.meets_bind_with (fun _ _ => True)
  · apply Fallible.meets_try_catch_with (Blames deployment record)
    · exact Fallible.meets_bind_with _ (keeps_harmless (by simp) trivial) fun _ _ _ => trivial
    · intro error
      by_cases raised : Blames deployment record error Cloud.empty
      · exact (keeps_recheck isReceived valid raised).weaken (fun _ _ => trivial)
          fun _ _ holds => holds
      · exact Meets.vacuous fun _ holds => raised holds
  intro pending
  cases pending with
  | false => exact fun _ _ => trivial
  | true =>
    simp only [↓reduceIte]
    apply Fallible.meets_bind_with (fun _ _ => True)
    · exact keeps_harmless (by simp) accepted
    · exact fun _ => keeps_harmless (by simp) trivial

/-- Handling a record retains the account, and a contract error is that of its reading. -/
theorem keeps_handle_record (isReceived : received record) :
    Keeps deployment received record
      (handleRecord deployment.runtime deployment.registry deployment.tokenKey record)
      (fun _ => True) (fun _ _ => True) := by
  unfold handleRecord
  cases decoded : record.decoded with
  | none =>
    intro _ _ reason wrong
    cases wrong
  | some value =>
    cases value with
    | obj raw =>
      apply Fallible.meets_bind_with (fun _ _ => True)
      · exact keeps_harmless (by simp) trivial
      intro arrival
      apply Fallible.meets_except_bind_with
      · rintro error extracted _ _ reason rfl
        simp only [reading, decoded]
        exact bind_raises.mpr (.inl extracted)
      intro payload extracted
      apply Fallible.meets_except_bind_with
      · rintro error rejected _ _ reason rfl
        simp only [reading, decoded, extracted]
        change rejectProhibitedFields deployment.runtime payload >>= _ = _
        exact bind_raises.mpr (.inl rejected)
      intro _ passed
      apply Fallible.meets_bind_with (fun _ _ => True)
      · exact keeps_harmless (by simp) fun wrong => by cases wrong
      intro _
      apply Fallible.meets_except_bind_with
      · rintro error invalid _ _ reason rfl
        simp only [reading, decoded, extracted]
        change rejectProhibitedFields deployment.runtime payload >>= _ = _
        rw [passed]
        change validateEvent deployment.runtime deployment.registry deployment.tokenKey payload >>=
          _ = _
        exact bind_raises.mpr (.inl invalid)
      intro event valid
      exact keeps_publish_accepted isReceived (reading_ok.mpr ⟨raw, decoded, extracted, valid⟩)
        arrival
    | _ =>
      rintro _ _ reason ⟨⟩
      simp only [reading, decoded]

end Records

/-- The handler's programs for a batch. -/
abbrev Maintains {α : Type} (deployment : Deployment) (received : Record → Prop)
    (program : Lambda α) : Prop :=
  program.run.Meets (clientEffect deployment) (Retains deployment received)
    (Retains deployment received) (fun _ => True)
    (Fallible.EndsWith (fun _ _ => True) fun _ _ => True)

/-- The `except` clauses quarantine a record for what reading it raises, and for nothing that a
call of the cloud raises. -/
theorem maintains_handle_error {record : Record} (isReceived : received record)
    (failures : List Str) {error : PyError} (raised : Blames deployment record error Cloud.empty) :
    Maintains deployment received (handleError deployment.runtime record failures error) := by
  cases error with
  | contract reason =>
    have harmless : Harmless deployment received
        (.putObject (contractObject deployment.runtime record reason)) :=
      fun _ => ⟨record, reason, isReceived, raised reason rfl, rfl⟩
    have quarantines : Keeps deployment received record
        (putObject (contractObject deployment.runtime record reason)) (fun _ => True)
        (fun _ _ => True) := keeps_harmless (by simp) harmless
    apply Fallible.meets_except_bind_with fun _ _ _ _ => trivial
    intro event redacted
    obtain ⟨_, rfl⟩ := redact_payload_ok.mp redacted
    apply Fallible.meets_bind_with (fun _ _ => True)
    · refine quarantines.weaken (fun _ holds => holds) ?_
      intro outcome _ _
      cases outcome <;> trivial
    · exact fun _ _ _ => trivial
  | _ => exact fun _ _ => trivial

/-- The loop retains the account, record by record. -/
theorem maintains_handle_records {records : List Record}
    (areReceived : ∀ record ∈ records, received record) (failures : List Str) :
    Maintains deployment received (handleRecords deployment.runtime deployment.registry
      deployment.tokenKey records failures) := by
  induction records generalizing failures with
  | nil => exact fun _ _ => trivial
  | cons record rest inductionHypothesis =>
    have isReceived := areReceived record List.mem_cons_self
    apply Fallible.meets_bind_with (fun _ _ => True)
    · apply Fallible.meets_try_catch_with (Blames deployment record)
      · exact Fallible.meets_bind_with _ (keeps_handle_record isReceived) fun _ _ _ => trivial
      · intro error
        by_cases raised : Blames deployment record error Cloud.empty
        · exact (maintains_handle_error isReceived failures raised).weaken (fun _ _ => trivial)
            fun _ _ holds => holds
        · exact Meets.vacuous fun _ holds => raised holds
    · exact fun listed => inductionHypothesis
        (fun other member => areReceived other (List.mem_cons_of_mem record member)) listed

/-- A call that only reads retains the account, with what is known of its reply. -/
theorem maintains_read {request : CloudCall} {known : request.Rows → Prop}
    (reads : ∀ clock cloud, (perform deployment clock request cloud).2 = cloud)
    (returned : ∀ clock cloud rows, (perform deployment clock request cloud).1 = .ok rows →
      known rows) :
    (invoke request : Lambda request.Rows).run.Meets (clientEffect deployment)
      (Retains deployment received) (Retains deployment received) (fun _ => True)
      (Fallible.EndsWith (fun rows _ => known rows ∧ True) fun _ _ => True) := by
  refine meets_lossy (fun clock cloud _ => ?_)
    (fun clock cloud rows _ same => ⟨returned clock cloud rows same, trivial⟩)
    (fun cloud _ => ⟨Retains.refl cloud, trivial⟩) (fun _ _ _ _ holds => holds) stable_true
  rw [reads clock cloud]
  exact ⟨Retains.refl cloud, trivial⟩

/-- Every invocation retains the account, wherever it is interrupted. -/
theorem maintains_handler {records : List Record}
    (areReceived : ∀ record ∈ records, received record) :
    Maintains deployment received (handler deployment.runtime records) := by
  apply Fallible.meets_bind_with fun registry _ => registry = deployment.registry ∧ True
  · exact maintains_read (fun _ _ => rfl) fun _ _ _ same => (Except.ok.inj same).symm
  intro registry
  apply Meets.assume
  rintro rfl
  apply Fallible.meets_bind_with fun key _ => key = deployment.tokenKey ∧ True
  · apply Fallible.meets_bind_with fun secret _ => secret = some deployment.secret ∧ True
    · exact maintains_read (fun _ _ => rfl) fun _ _ _ same => (Except.ok.inj same).symm
    · intro secret
      apply Meets.assume
      rintro rfl
      apply Fallible.meets_except_bind_with fun _ _ _ _ => trivial
      exact fun _ _ _ _ => ⟨rfl, trivial⟩
  intro key
  apply Meets.assume
  rintro rfl
  exact maintains_handle_records areReceived []

/-! ## All interleavings -/

/-- Any number of invocations, on any batches of received records. -/
def clientSystem (deployment : Deployment) (received : Record → Prop) :
    System (List Record) CloudCall (Answer PyError CloudCall.Rows) (Except PyError (List Str))
      Cloud where
  admits batch _ := ∀ record ∈ batch, received record
  program batch := (handler deployment.runtime batch).run
  effect _ := clientEffect deployment
  environment _ _ := False

/-- What the client sees of a call is among what the cloud may do. -/
theorem client_effect_cloud {request : CloudCall} {before after : Cloud}
    {reply : Answer PyError CloudCall.Rows request}
    (answered : clientEffect deployment request before reply after) :
    cloudEffect deployment request before reply after :=
  lossy_mono (fun _ _ _ _ => trivial) answered

/-- The pools that invocations reach. -/
abbrev Reaches (deployment : Deployment) (received : Record → Prop) (pool : GatePool) : Prop :=
  Pool.Reachable (clientSystem deployment received) Cloud.empty pool

/-- The pools that received records reach are pools of the gate, so its invariants hold in
them. -/
theorem reaches_gate {pool : GatePool} (reached : Reaches deployment received pool) :
    Pool.Reachable (gateSystem deployment fun batch => ∀ record ∈ batch, received record)
      Cloud.empty pool :=
  Pool.reachable_mono reached (fun _ _ admitted => admitted) (fun _ => rfl)
    (fun _ _ _ _ _ answered => client_effect_cloud answered)
    (fun _ _ impossible => impossible)

/-- Whatever is in the bucket of a reachable pool is accounted for by some received record.

Proof: by induction on the steps of the pool, each of which retains the account. -/
theorem reaches_accounted {pool : GatePool} (reached : Reaches deployment received pool) :
    Accounted deployment received pool.world := by
  have starts (batch : List Record) (cloud : Cloud) (_ : True)
      (admitted : (clientSystem deployment received).admits batch cloud) :
      ∃ assertion : Cloud → Prop, assertion cloud ∧
        Stable (Retains deployment received) assertion ∧
        ((clientSystem deployment received).program batch).Meets
          ((clientSystem deployment received).effect batch) (Retains deployment received)
          (Retains deployment received) assertion
          (Fallible.EndsWith (fun _ _ => True) fun _ _ => True) :=
    ⟨fun _ => True, trivial, stable_true, maintains_handler admitted⟩
  have begins : Pool.Supported (clientSystem deployment received) (Retains deployment received)
      (Retains deployment received) (fun _ => Fallible.EndsWith (fun _ _ => True) fun _ _ => True)
      ⟨Cloud.empty, [], []⟩ := fun _ member => by cases member
  obtain ⟨_, _, moved⟩ := Pool.runs_supported reached stable_true trivial starts
    (fun _ _ retains => retains) (fun _ _ impossible => impossible.elim) begins
  have kept : Stable (Retains deployment received) (Accounted deployment received) :=
    fun _ _ retains holds => retains.accounted holds
  exact stable_many kept _ _ moved fun _ member => by cases member

end LedgerFlow.SchemaGate
