import LedgerFlow.Settlement.Jobs
import LedgerFlow.Support.Interleaving

/-!
# What the loader and the workflows share

`Store` holds the delivered objects with all their versions, the verified inputs, the
publication record of each business date, the executions of the state machine, and the
tables. `World` adds a journal of what took effect: registrations, started executions
and job runs with the store that each run saw. Nothing reads the journal; it is what
properties of whole runs refer to.

A delivery is the event that invokes the loader together with the manifest its
invocation will read. An invocation reads one manifest, so naming it beforehand
excludes no run.
-/

namespace LedgerFlow.Settlement

open PyText PyJson PyBytes PyDateTime Grouping Dataframe Spark

/-! ## Objects and records -/

/-- A bucket and a key. -/
structure Location where
  bucket : Str
  key : Str
  deriving DecidableEq

/-- A version of an object. S3 keeps a SHA-256 checksum of what was put with one. -/
structure ObjectVersion where
  versionId : Str
  body : Bytes
  eTag : Str
  checksummed : Bool
  deriving DecidableEq

/-- `publication_status` -/
inductive PublicationStatus where
  | processing
  | reconciled
  deriving DecidableEq

/-- The publication record of a business date. -/
structure Publication where
  revision : Int
  manifestSha256 : Str
  verifiedDataKey : Str
  status : PublicationStatus
  deriving DecidableEq

/-- The input of an execution. `recordCount` is the JSON text of the number. -/
structure WorkflowInput where
  manifest : Location
  verifiedBucket : Str
  verifiedDataKey : Str
  sourceVersionId : Str
  sha256 : Str
  revision : Int
  recordCount : Str
  businessDate : Str
  deriving DecidableEq

/-- The states of the state machine that do something. -/
inductive Stage where
  | validateSettlementManifest
  | ingestAcceptedEvents
  | runPaymentStateReconstruction
  | postLedger
  | reconcileSettlement
  | buildPublicationEvidence
  | writePublicationEvidence
  | publishGate
  deriving DecidableEq

/-- The position of a state on the way to publication. -/
def Stage.position : Stage → Nat
  | .validateSettlementManifest => 0
  | .ingestAcceptedEvents => 1
  | .runPaymentStateReconstruction => 2
  | .postLedger => 3
  | .reconcileSettlement => 4
  | .buildPublicationEvidence => 5
  | .writePublicationEvidence => 6
  | .publishGate => 7

/-- Where an execution is. -/
inductive ExecutionState where
  | running (stage : Stage)
  | succeeded
  | superseded
  | workflowFailed
  deriving DecidableEq

/-- Whether an execution has not ended. -/
def ExecutionState.isRunning : ExecutionState → Bool
  | .running _ => true
  | _ => false

/-- An execution: its name, its input, where it is, and the retries of its state. -/
structure Execution where
  name : Str
  input : WorkflowInput
  state : ExecutionState
  retries : Nat
  deriving DecidableEq

/-! ## Store and journal -/

/-- Everything that the loader and the workflows read and write. Versions are listed
from the newest on; a verified key holds the bytes of its newest version. -/
structure Store where
  landing : Location → List ObjectVersion
  verified : Str → Option Bytes
  publications : Str → Option Publication
  executions : List Execution
  accepted : List PaymentEvent
  warehouse : Warehouse
  settlement : SettlementTables

/-- An event that identifies a manifest, and the bytes that its invocation reads. -/
structure Delivery where
  event : Json
  manifest : Bytes

/-- How a job of an execution ends. -/
inductive Outcome where
  /-- The job runs and the execution goes on or fails as the job did. -/
  | completes
  /-- The execution fails, with the job performed or not. -/
  | fails (performed : Bool)
  /-- The job times out, performed or not, and is tried again. -/
  | retries (performed : Bool)
  deriving DecidableEq

/-- A registration of a revision. -/
structure Registration where
  delivery : Delivery
  businessDate : Str
  revision : Int
  sha256 : Str
  key : Str

/-- What took effect. -/
inductive Entry where
  | registered (registration : Registration)
  | started (delivery : Delivery) (name : Str) (input : WorkflowInput)
  | ran (input : WorkflowInput) (stage : Stage) (before : Store) (outcome : Outcome)

/-- The store, and the journal from the newest entry on. -/
structure World where
  store : Store
  journal : List Entry

/-- The registrations of a journal. -/
def registrations (journal : List Entry) : List Registration :=
  journal.filterMap fun
    | .registered registration => some registration
    | _ => none

/-- The empty platform. -/
def emptyStore : Store :=
  ⟨fun _ => [], fun _ => none, fun _ => none, [], [], emptyWarehouse, ⟨[], []⟩⟩

/-- Nothing has happened. -/
def emptyWorld : World := ⟨emptyStore, []⟩

/-- The libraries and the environment of the functions. -/
structure Deployment where
  library : Library
  verifiedBucket : Str

/-! ## Updates -/

/-- Replace the publication record of a date. -/
def Store.publish (store : Store) (businessDate : Str) (item : Publication) : Store :=
  { store with publications := Function.update store.publications businessDate (some item) }

/-- Write a verified input. -/
def Store.verify (store : Store) (key : Str) (body : Bytes) : Store :=
  { store with verified := Function.update store.verified key (some body) }

/-- Put a version. -/
def Store.put (store : Store) (location : Location) (version : ObjectVersion) : Store :=
  { store with
    landing := Function.update store.landing location (version :: store.landing location) }

/-- Publishing an item writes the record of its date, where it is then read. -/
@[simp] theorem publish_same (store : Store) (businessDate : Str) (item : Publication) :
    (store.publish businessDate item).publications businessDate = some item := by
  simp [Store.publish]

/-- Publishing an item leaves the records of the other dates as they were: the table is keyed by
the date. -/
theorem publish_other (store : Store) {businessDate other : Str} (item : Publication)
    (differs : other ≠ businessDate) :
    (store.publish businessDate item).publications other = store.publications other := by
  simp [Store.publish, differs]

/-- Writing a verified copy puts it under its key, over whatever was there. -/
@[simp] theorem verify_same (store : Store) (key : Str) (body : Bytes) :
    (store.verify key body).verified key = some body := by
  simp [Store.verify]

/-- Writing a verified copy leaves the copies under other keys as they were. -/
theorem verify_other (store : Store) {key other : Str} (body : Bytes) (differs : other ≠ key) :
    (store.verify key body).verified other = store.verified other := by
  simp [Store.verify, differs]

/-- Putting a version adds it to its own location and removes none: the landing bucket keeps every
version of an object. -/
theorem mem_put (store : Store) {location other : Location} {version found : ObjectVersion} :
    found ∈ (store.put location version).landing other ↔
      (other = location ∧ found = version) ∨ found ∈ store.landing other := by
  by_cases here : other = location
  · subst here
    simp [Store.put]
  · simp [Store.put, here]

end LedgerFlow.Settlement
