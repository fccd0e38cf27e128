import LedgerFlow.Spark.Pipeline
import Mathlib.Data.List.Induction

/-!
# Daily runs and late events

Accepted objects arrive at any time, and the jobs of any business date run at any
time. Each run projects the touched transactions from their history so far, and a
state row is replaced by the next run that finds its transaction valid. Exceptions are
never removed: a transaction that one run found invalid stays hidden, and its events of
that run stay unposted, also when late events complete it.

`Disturbed` says that some run found a transaction invalid. `Ongoing` is the invariant
of the runs: what is excepted belongs to disturbed transactions, and every other
transaction is projected from its whole accepted history. When every accepted object
has been run, the tables show a valid transaction as one run over everything would,
exactly if it was never disturbed.
-/

namespace LedgerFlow.Spark

open PyText PyDateTime Grouping Dataframe

/-! ## Runs -/

/-- What happens to the platform. -/
inductive Action where
  /-- A new accepted object appears. -/
  | arrive (event : PaymentEvent)
  /-- The three jobs run for a business date and complete. -/
  | run (businessDate : Date)
  deriving DecidableEq

/-- The accepted objects and the warehouse. -/
structure Platform where
  bucket : List PaymentEvent
  warehouse : Warehouse

/-- A new platform. -/
def emptyPlatform : Platform := ⟨[], emptyWarehouse⟩

/-- One action. -/
def Platform.act (platform : Platform) : Action → Py Platform
  | .arrive event => .ok { platform with bucket := platform.bucket ++ [event] }
  | .run businessDate => do
      let warehouse ← dailyRun platform.bucket businessDate platform.warehouse
      .ok { platform with warehouse }

/-- Actions one after the other. -/
def execute : List Action → Platform → Py Platform
  | [], platform => .ok platform
  | action :: rest, platform => do
      let next ← platform.act action
      execute rest next

/-- The objects that arrive, in order. -/
def arrivals : List Action → List PaymentEvent
  | [] => []
  | .arrive event :: rest => event :: arrivals rest
  | .run _ :: rest => arrivals rest

/-- Every object's date is run after the object arrived. -/
def Covered : List Action → Prop
  | [] => True
  | .arrive event :: rest => .run event.eventTime.date ∈ rest ∧ Covered rest
  | .run _ :: rest => Covered rest

instance decidableCovered : DecidablePred Covered
  | [] => .isTrue trivial
  | .arrive event :: rest =>
      letI := decidableCovered rest
      inferInstanceAs (Decidable (.run event.eventTime.date ∈ rest ∧ Covered rest))
  | .run _ :: rest => decidableCovered rest

/-- The runs are of UTC events, one object each, and cover every object. -/
structure Complete (actions : List Action) : Prop where
  keyed : Keyed PaymentEvent.eventId (arrivals actions)
  utc : ∀ event ∈ arrivals actions, event.eventTime.offset = 0
  covered : Covered actions

/-- What the jobs of a date read: the warehouse after ingestion. -/
def Platform.ingested (platform : Platform) (businessDate : Date) : Warehouse :=
  ingestAcceptedEvents (objectsOf businessDate platform.bucket) platform.warehouse

/-- Some run read the transaction and found its history so far invalid. -/
def Disturbed (actions : List Action) (transactionId : Identifier) : Prop :=
  ∃ before businessDate after platform, actions = before ++ .run businessDate :: after ∧
    execute before emptyPlatform = .ok platform ∧
    FoundInvalid (onDate businessDate) (platform.ingested businessDate) transactionId

/-! ## The last action -/

/-- The last action acts on what the others have left; the induction over a run is from its
end. -/
theorem execute_append (actions : List Action) (action : Action) (platform : Platform) :
    execute (actions ++ [action]) platform =
      (execute actions platform >>= fun reached => reached.act action) := by
  induction actions generalizing platform with
  | nil =>
    show (platform.act action >>= fun next => .ok next) = platform.act action
    cases platform.act action <;> rfl
  | cons first rest inductionHypothesis =>
    show (platform.act first >>= execute (rest ++ [action])) =
      ((platform.act first >>= execute rest) >>= fun reached => reached.act action)
    cases platform.act first with
    | error error => rfl
    | ok next => exact inductionHypothesis next

/-- The arrivals of a concatenation are those of both parts, in order. -/
theorem arrivals_append (first second : List Action) :
    arrivals (first ++ second) = arrivals first ++ arrivals second := by
  induction first with
  | nil => rfl
  | cons action rest inductionHypothesis =>
    cases action with
    | arrive event => exact congrArg (event :: ·) inductionHypothesis
    | run businessDate => exact inductionHypothesis

/-- A split of a list at an element either splits it earlier or at its last element. -/
theorem split_append {before after actions : List Action} {action last : Action}
    (split : actions ++ [last] = before ++ action :: after) :
    (after = [] ∧ actions = before ∧ last = action) ∨
      ∃ rest, after = rest ++ [last] ∧ actions = before ++ action :: rest := by
  rcases List.eq_nil_or_concat after with rfl | ⟨rest, final, shape⟩
  · obtain ⟨rfl, same⟩ := List.append_inj' split rfl
    exact .inl ⟨rfl, rfl, List.head_eq_of_cons_eq same⟩
  · rw [List.concat_eq_append] at shape
    have regrouped : actions ++ [last] = (before ++ action :: rest) ++ [final] := by
      rw [split, shape, List.append_assoc, List.cons_append]
    obtain ⟨rfl, same⟩ := List.append_inj' regrouped rfl
    exact .inr ⟨rest, by rw [shape, List.head_eq_of_cons_eq same], rfl⟩

/-- An arrival alone disturbs no transaction; only a run reads a history. -/
theorem disturbed_arrive {actions : List Action} {event : PaymentEvent}
    {transactionId : Identifier} :
    Disturbed (actions ++ [.arrive event]) transactionId ↔ Disturbed actions transactionId := by
  constructor
  · rintro ⟨before, businessDate, after, platform, split, reached, found⟩
    rcases split_append split with ⟨_, _, wrong⟩ | ⟨rest, rfl, rfl⟩
    · cases wrong
    · exact ⟨before, businessDate, rest, platform, rfl, reached, found⟩
  · rintro ⟨before, businessDate, after, platform, rfl, reached, found⟩
    exact ⟨before, businessDate, after ++ [.arrive event], platform,
      by rw [List.append_assoc, List.cons_append], reached, found⟩

/-- A run disturbs the transactions that it finds invalid, beside those that were disturbed
before. -/
theorem disturbed_run {actions : List Action} {businessDate : Date} {platform : Platform}
    {transactionId : Identifier} (reached : execute actions emptyPlatform = .ok platform) :
    Disturbed (actions ++ [.run businessDate]) transactionId ↔
      Disturbed actions transactionId ∨
        FoundInvalid (onDate businessDate) (platform.ingested businessDate) transactionId := by
  constructor
  · rintro ⟨before, other, after, earlier, split, here, found⟩
    rcases split_append split with ⟨_, rfl, same⟩ | ⟨rest, rfl, rfl⟩
    · cases same
      rw [reached] at here
      cases here
      exact .inr found
    · exact .inl ⟨before, other, rest, earlier, rfl, here, found⟩
  · rintro (⟨before, other, after, earlier, rfl, here, found⟩ | found)
    · exact ⟨before, other, after ++ [.run businessDate], earlier,
        by rw [List.append_assoc, List.cons_append], here, found⟩
    · exact ⟨actions, businessDate, [], platform, rfl, reached, found⟩

/-- After the arrival of a covered event there is a run of its own date. -/
theorem covered_split {actions before after : List Action} {event : PaymentEvent}
    (covered : Covered actions) (split : actions = before ++ .arrive event :: after) :
    .run event.eventTime.date ∈ after := by
  subst split
  induction before with
  | nil => exact covered.1
  | cons action rest inductionHypothesis =>
    cases action with
    | arrive other => exact inductionHypothesis covered.2
    | run businessDate => exact inductionHypothesis covered

/-- Each arrival stands somewhere among the actions, so there is a time before and after it. -/
theorem arrival_split {actions : List Action} {event : PaymentEvent}
    (member : event ∈ arrivals actions) :
    ∃ before after, actions = before ++ .arrive event :: after := by
  induction actions with
  | nil => cases member
  | cons action rest inductionHypothesis =>
    cases action with
    | arrive other =>
      rcases List.mem_cons.mp member with rfl | later
      · exact ⟨[], rest, rfl⟩
      · obtain ⟨before, after, rfl⟩ := inductionHypothesis later
        exact ⟨.arrive other :: before, after, rfl⟩
    | run businessDate =>
      obtain ⟨before, after, rfl⟩ := inductionHypothesis member
      exact ⟨.run businessDate :: before, after, rfl⟩

/-! ## The invariant -/

/-- The transaction is projected from its whole accepted history. -/
structure Settled (warehouse : Warehouse) (transactionId : Identifier) : Prop where
  valid : lifecycleError transactionId (warehouse.history transactionId) = none
  states : ∀ state, state.transactionId = transactionId →
    (state ∈ warehouse.paymentState ↔
      state ∈ historyState transactionId (warehouse.history transactionId))
  posted : ∀ row ∈ warehouse.history transactionId, isMonetary row = true →
    row ∈ warehouse.postedEvent

/-- What the actions so far have left. -/
structure Ongoing (actions : List Action) (platform : Platform) : Prop where
  bucket : platform.bucket = arrivals actions
  sound : Sound platform.warehouse
  accepted : ∀ row ∈ platform.warehouse.acceptedEvent,
    ∃ event ∈ platform.bucket, acceptedRow event = row
  excepted : ∀ transactionId, (∃ event ∈ platform.warehouse.excepted,
    event.transactionId = transactionId) ↔ Disturbed actions transactionId
  settled : ∀ transactionId, ¬ Disturbed actions transactionId →
    platform.warehouse.history transactionId ≠ [] → Settled platform.warehouse transactionId
  ingested : ∀ before event after, actions = before ++ .arrive event :: after →
    .run event.eventTime.date ∈ after → acceptedRow event ∈ platform.warehouse.acceptedEvent

/-- The invariant holds before any action, with an empty bucket and empty tables. -/
theorem empty_ongoing : Ongoing [] emptyPlatform where
  bucket := rfl
  sound := @sound_unprojected [] List.nodup_nil
  accepted := fun _ none => absurd none List.not_mem_nil
  excepted := by
    intro transactionId
    constructor
    · rintro ⟨_, none, _⟩
      cases none
    · rintro ⟨before, _, after, _, split, _⟩
      cases before <;> cases split
  settled := fun _ _ nonempty => absurd rfl nonempty
  ingested := by
    intro before _ after split _
    cases before <;> cases split

section Ingestion

variable {bucket : List PaymentEvent} {businessDate : Date} {warehouse : Warehouse}

/-- After the ingestion of a date, the accepted events are those that were there and the objects
of the date with an event id of their own. -/
theorem mem_ingested {row : AcceptedEventRow} :
    row ∈ (ingestAcceptedEvents (objectsOf businessDate bucket) warehouse).acceptedEvent ↔
      row ∈ warehouse.acceptedEvent ∨
        row ∈ (objectsOf businessDate bucket).map acceptedRow ∧
          row.eventId ∉ warehouse.acceptedEvent.map AcceptedEventRow.eventId :=
  mem_merge_insert

/-- Ingesting objects with distinct identifiers keeps a warehouse sound: it inserts accepted rows
only, and none whose identifier is there. -/
theorem ingest_objects_sound {objects : List PaymentEvent} (sound : Sound warehouse)
    (keyed : Keyed PaymentEvent.eventId objects) :
    Sound (ingestAcceptedEvents objects warehouse) := by
  have rows : Keyed AcceptedEventRow.eventId (objects.map acceptedRow) := by
    rw [Keyed, List.map_map]
    exact keyed
  exact {
    accepted := merge_insert_keyed sound.accepted rows
    states := sound.states
    exceptions := fun row member => List.mem_append_left _ (sound.exceptions row member)
    posted := fun row member =>
      ⟨List.mem_append_left _ (sound.posted row member).1, (sound.posted row member).2⟩
    postedKeyed := sound.postedKeyed
    ledger := sound.ledger }

/-- Ingesting the objects of a date keeps a warehouse sound, as they are some of the bucket's. -/
theorem ingest_sound (sound : Sound warehouse) (keyed : Keyed PaymentEvent.eventId bucket) :
    Sound (ingestAcceptedEvents (objectsOf businessDate bucket) warehouse) :=
  ingest_objects_sound sound (keyed.sublist (List.filter_sublist.map _))

/-- The rows of objects of a date are dated so. The folder is named after the date of the text,
and the job dates by the instant; in UTC these are one. -/
theorem objects_on_date (utc : ∀ event ∈ bucket, event.eventTime.offset = 0)
    {row : AcceptedEventRow} (member : row ∈ (objectsOf businessDate bucket).map acceptedRow) :
    onDate businessDate row = true := by
  obtain ⟨event, inside, rfl⟩ := List.mem_map.mp member
  obtain ⟨here, dated⟩ := List.mem_filter.mp inside
  have date := utc_date_of_utc (utc event here)
  exact decide_eq_true (date.trans (of_decide_eq_true dated))

/-- Ingestion leaves the history of an untouched transaction alone, because what is ingested is of
the date and would touch it. -/
theorem untouched_history (utc : ∀ event ∈ bucket, event.eventTime.offset = 0)
    {transactionId : Identifier}
    (untouched : ¬ Touches (onDate businessDate)
      (ingestAcceptedEvents (objectsOf businessDate bucket) warehouse).acceptedEvent
      transactionId) :
    (ingestAcceptedEvents (objectsOf businessDate bucket) warehouse).history transactionId =
      warehouse.history transactionId := by
  have none : group AcceptedEventRow.transactionId transactionId
      (leftAnti AcceptedEventRow.eventId
        (warehouse.acceptedEvent.map AcceptedEventRow.eventId)
        ((objectsOf businessDate bucket).map acceptedRow)) = [] := by
    refine group_nil fun row member same => untouched ⟨row, ?_, ?_, same⟩
    · exact List.mem_append_right _ member
    · exact objects_on_date utc (mem_left_anti.mp member).1
  show group AcceptedEventRow.transactionId transactionId (warehouse.acceptedEvent ++ _) = _
  rw [group_append, none, List.append_nil]
  rfl

end Ingestion

/-! ## Steps -/

section Steps

variable {actions : List Action} {platform : Platform}

/-- An arrival only adds an object. It touches no table and disturbs nothing, so every part of the
invariant is as before. -/
theorem ongoing_arrive (ongoing : Ongoing actions platform) (event : PaymentEvent) :
    Ongoing (actions ++ [.arrive event]) { platform with bucket := platform.bucket ++ [event] } where
  bucket := by
    rw [arrivals_append, ongoing.bucket]
    rfl
  sound := ongoing.sound
  accepted := by
    intro row member
    obtain ⟨source, inside, same⟩ := ongoing.accepted row member
    exact ⟨source, List.mem_append_left _ inside, same⟩
  excepted := fun transactionId =>
    (ongoing.excepted transactionId).trans disturbed_arrive.symm
  settled := fun transactionId undisturbed =>
    ongoing.settled transactionId fun disturbed => undisturbed (disturbed_arrive.mpr disturbed)
  ingested := by
    intro before other after split run
    rcases split_append split with ⟨rfl, _, _⟩ | ⟨rest, rfl, rfl⟩
    · cases run
    · rcases List.mem_append.mp run with earlier | last
      · exact ongoing.ingested before other rest rfl earlier
      · cases List.mem_singleton.mp last

/-- A transaction that the jobs find valid, and that was never excepted, is settled
after them. -/
theorem found_valid_settled {touched : AcceptedEventRow → Bool} {before between after : Warehouse}
    {transactionId : Identifier} (first : ReconstructEffect touched before between)
    (second : PostEffect touched between after) (found : FoundValid touched before transactionId)
    (fresh : ∀ event ∈ before.excepted, event.transactionId ≠ transactionId) :
    Settled after transactionId := by
  have accepted : after.acceptedEvent = before.acceptedEvent :=
    second.accepted.trans first.accepted
  have history : after.history transactionId = before.history transactionId := by
    rw [Warehouse.history, accepted, Warehouse.history]
  refine ⟨history ▸ found.2, fun state same => ?_, fun row member monetary => ?_⟩
  · subst same
    rw [second.states, first.states, history]
    constructor
    · rintro (⟨_, here⟩ | ⟨missing, _⟩)
      · exact here
      · exact absurd found missing
    · exact fun here => .inl ⟨found, here⟩
  · rw [history] at member
    obtain ⟨inside, same⟩ := mem_group.mp member
    refine (second.posted row).mpr (.inr ⟨first.accepted ▸ inside, ?_, monetary, ?_⟩)
    · rw [first.accepted, same]
      exact found.1
    · intro excepted
      rcases (first.excepted row).mp excepted with old | ⟨_, _, fails⟩
      · exact fresh row old same
      · rw [same] at fails
        exact fails found.2

/-- A transaction that the jobs do not touch stays settled: neither its rows nor its history
change. -/
theorem untouched_settled {touched : AcceptedEventRow → Bool} {before between after : Warehouse}
    {transactionId : Identifier} (first : ReconstructEffect touched before between)
    (second : PostEffect touched between after)
    (untouched : ¬ Touches touched before.acceptedEvent transactionId)
    (settled : Settled before transactionId) : Settled after transactionId := by
  have accepted : after.acceptedEvent = before.acceptedEvent :=
    second.accepted.trans first.accepted
  have history : after.history transactionId = before.history transactionId := by
    rw [Warehouse.history, accepted, Warehouse.history]
  refine ⟨history ▸ settled.valid, fun state same => ?_, fun row member monetary => ?_⟩
  · subst same
    rw [second.states, first.states, history, ← settled.states state rfl]
    constructor
    · rintro (⟨found, _⟩ | ⟨_, old⟩)
      · exact absurd found.1 untouched
      · exact old
    · exact fun old => .inr ⟨fun found => untouched found.1, old⟩
  · rw [history] at member
    exact (second.posted row).mpr (.inl (first.posted ▸ settled.posted row member monetary))

section Run

variable {businessDate : Date} {between after : Warehouse}

/-- Every accepted row after the jobs of a date is that of an object: the jobs add rows by
ingestion only, and ingestion reads the objects of the date. -/
theorem run_accepted (ongoing : Ongoing actions platform)
    (accepted : after.acceptedEvent = (platform.ingested businessDate).acceptedEvent) :
    ∀ row ∈ after.acceptedEvent, ∃ event ∈ platform.bucket, acceptedRow event = row := by
  intro row member
  rw [accepted] at member
  rcases mem_ingested.mp member with old | ⟨new, _⟩
  · exact ongoing.accepted row old
  · obtain ⟨event, inside, same⟩ := List.mem_map.mp new
    exact ⟨event, (List.mem_filter.mp inside).1, same⟩

/-- The jobs of a date except a transaction exactly when it was excepted before or they find
its history invalid.

Proof: an exception that a job adds is that of an accepted row of such a transaction, and a
transaction that is found invalid has such a row. No exception is ever deleted. -/
theorem run_excepted {transactionId : Identifier}
    (first : ReconstructEffect (onDate businessDate) (platform.ingested businessDate) between)
    (second : PostEffect (onDate businessDate) between after) :
    (∃ event ∈ after.excepted, event.transactionId = transactionId) ↔
      (∃ event ∈ platform.warehouse.excepted, event.transactionId = transactionId) ∨
        FoundInvalid (onDate businessDate) (platform.ingested businessDate) transactionId := by
  have excepted : after.excepted = between.excepted := by
    rw [Warehouse.excepted, second.exceptions, Warehouse.excepted]
  rw [excepted]
  constructor
  · rintro ⟨event, member, rfl⟩
    rcases (first.excepted event).mp member with old | ⟨_, found⟩
    · exact .inl ⟨event, old, rfl⟩
    · exact .inr found
  · rintro (⟨event, old, same⟩ | found)
    · exact ⟨event, (first.excepted event).mpr (.inl old), same⟩
    · obtain ⟨row, member, _, same⟩ := found.1
      exact ⟨row, (first.excepted row).mpr (.inr ⟨member, same ▸ found⟩), same⟩

/-- A transaction that no run so far and not the jobs of this date found invalid is settled
after them, if it has accepted events.

Proof: if the jobs read the transaction they find it valid, and settle it. If they do not,
ingestion left its history alone, and it stays as the invariant has it. -/
theorem run_settled {transactionId : Identifier} (ongoing : Ongoing actions platform)
    (utc : ∀ event ∈ platform.bucket, event.eventTime.offset = 0)
    (first : ReconstructEffect (onDate businessDate) (platform.ingested businessDate) between)
    (second : PostEffect (onDate businessDate) between after)
    (never : ¬ Disturbed actions transactionId)
    (notInvalid : ¬ FoundInvalid (onDate businessDate) (platform.ingested businessDate)
      transactionId)
    (nonempty : after.history transactionId ≠ []) : Settled after transactionId := by
  by_cases read : Touches (onDate businessDate)
      (platform.ingested businessDate).acceptedEvent transactionId
  · have fresh : ∀ event ∈ (platform.ingested businessDate).excepted,
        event.transactionId ≠ transactionId := fun event member same =>
      never ((ongoing.excepted transactionId).mp ⟨event, member, same⟩)
    have found : FoundValid (onDate businessDate) (platform.ingested businessDate)
        transactionId := ⟨read, not_not.mp fun fails => notInvalid ⟨read, fails⟩⟩
    exact found_valid_settled first second found fresh
  · have unchanged : (platform.ingested businessDate).history transactionId =
        platform.warehouse.history transactionId := untouched_history utc read
    have history : after.history transactionId = platform.warehouse.history transactionId := by
      rw [Warehouse.history, second.accepted.trans first.accepted]
      exact unchanged
    have before := ongoing.settled transactionId never (history ▸ nonempty)
    have still : Settled (platform.ingested businessDate) transactionId :=
      ⟨unchanged.symm ▸ before.valid,
        fun state same => unchanged.symm ▸ before.states state same,
        fun row member => before.posted row (unchanged ▸ member)⟩
    exact untouched_settled first second read still

/-- An object whose date is run is accepted: if its identifier was there already it was its own
row that had it, since no two objects share one. -/
theorem run_ingested (ongoing : Ongoing actions platform)
    (keyed : Keyed PaymentEvent.eventId platform.bucket) {event : PaymentEvent}
    (inside : event ∈ platform.bucket) :
    acceptedRow event ∈ (platform.ingested event.eventTime.date).acceptedEvent := by
  by_cases known : (acceptedRow event).eventId ∈
      platform.warehouse.acceptedEvent.map AcceptedEventRow.eventId
  · obtain ⟨row, old, same⟩ := List.mem_map.mp known
    obtain ⟨source, here, rfl⟩ := ongoing.accepted row old
    rw [keyed.unique here inside same] at old
    exact List.mem_append_left _ old
  · refine mem_ingested.mpr (.inr ⟨List.mem_map_of_mem ?_, known⟩)
    exact List.mem_filter.mpr ⟨inside, decide_eq_true rfl⟩

end Run

/-- The jobs of a date keep the invariant.

A transaction that the jobs read is excepted or settled by them, according to what
they find; one that they do not read has no new events, and stays as it was. -/
theorem ongoing_run (ongoing : Ongoing actions platform)
    (reached : execute actions emptyPlatform = .ok platform)
    (keyed : Keyed PaymentEvent.eventId (arrivals actions))
    (utc : ∀ event ∈ arrivals actions, event.eventTime.offset = 0) (businessDate : Date) :
    ∃ warehouse, dailyRun platform.bucket businessDate platform.warehouse = .ok warehouse ∧
      Ongoing (actions ++ [.run businessDate]) { platform with warehouse } := by
  rw [← ongoing.bucket] at keyed utc
  have sound := @ingest_sound platform.bucket businessDate platform.warehouse ongoing.sound keyed
  obtain ⟨between, after, ran, first, second, kept⟩ :=
    @jobs_ok (onDate businessDate) (platform.ingested businessDate) sound
  have accepted : after.acceptedEvent = (platform.ingested businessDate).acceptedEvent :=
    second.accepted.trans first.accepted
  refine ⟨after, ran, ?_⟩
  constructor
  case bucket =>
    rw [arrivals_append, ← ongoing.bucket]
    exact (List.append_nil _).symm
  case sound => exact kept
  case accepted => exact @run_accepted _ platform businessDate after ongoing accepted
  case excepted =>
    intro transactionId
    rw [disturbed_run reached, ← ongoing.excepted transactionId]
    exact run_excepted first second
  case settled =>
    intro transactionId undisturbed nonempty
    rw [disturbed_run reached, not_or] at undisturbed
    exact run_settled ongoing utc first second undisturbed.1 undisturbed.2 nonempty
  case ingested =>
    intro before event rest split run
    show acceptedRow event ∈ after.acceptedEvent
    rw [accepted]
    rcases split_append split with ⟨_, _, wrong⟩ | ⟨earlier, rfl, rfl⟩
    · cases wrong
    · rcases List.mem_append.mp run with before | last
      · exact List.mem_append_left _ (ongoing.ingested _ event earlier rfl before)
      · cases List.mem_singleton.mp last
        have inside : event ∈ platform.bucket := by
          rw [ongoing.bucket, arrivals_append]
          exact List.mem_append_right _ List.mem_cons_self
        exact run_ingested ongoing keyed inside

end Steps

/-- Every sequence of actions on UTC events, one object each, completes and keeps the invariant.

Proof: by induction from the end, with one lemma for an arrival and one for a run. -/
theorem execute_ongoing {actions : List Action}
    (keyed : Keyed PaymentEvent.eventId (arrivals actions))
    (utc : ∀ event ∈ arrivals actions, event.eventTime.offset = 0) :
    ∃ platform, execute actions emptyPlatform = .ok platform ∧ Ongoing actions platform := by
  induction actions using List.reverseRecOn with
  | nil => exact ⟨emptyPlatform, rfl, empty_ongoing⟩
  | append_singleton actions action inductionHypothesis =>
    rw [arrivals_append] at keyed utc
    obtain ⟨platform, reached, ongoing⟩ := inductionHypothesis
      (keyed.sublist ((List.sublist_append_left ..).map _))
      fun event member => utc event (List.mem_append_left _ member)
    rw [execute_append, reached]
    cases action with
    | arrive event => exact ⟨_, rfl, ongoing_arrive ongoing event⟩
    | run businessDate =>
      obtain ⟨warehouse, ran, next⟩ := ongoing_run ongoing reached
        (keyed.sublist ((List.sublist_append_left ..).map _))
        (fun event member => utc event (List.mem_append_left _ member)) businessDate
      refine ⟨{ platform with warehouse }, ?_, next⟩
      show (dailyRun platform.bucket businessDate platform.warehouse >>= fun warehouse =>
        Except.ok { platform with warehouse }) = _
      rw [ran]
      rfl

/-! ## Convergence -/

/-- The transaction's complete history passes the lifecycle checks. -/
def CompleteValid (complete : List AcceptedEventRow) (transactionId : Identifier) : Prop :=
  transactionId ∈ complete.map AcceptedEventRow.transactionId ∧
    lifecycleError transactionId
      (group AcceptedEventRow.transactionId transactionId complete) = none

/-- The tables show the transaction's complete history: its state row is visible, and
its monetary events are posted, each with its lines. -/
structure Recomputed (complete : List AcceptedEventRow) (warehouse : Warehouse)
    (transactionId : Identifier) : Prop where
  visible : group (fun row => row.state.transactionId) transactionId (dimPaymentCurrent warehouse) =
    (historyState transactionId
      (group AcceptedEventRow.transactionId transactionId complete)).map fun state =>
        ⟨state, netProcessorReceivable state⟩
  posted : (group AcceptedEventRow.transactionId transactionId warehouse.postedEvent).Perm
    ((group AcceptedEventRow.transactionId transactionId complete).filter isMonetary)
  ledger : (group LedgerEntryRow.transactionId transactionId warehouse.ledgerEntry).Perm
    (doubleEntry (group AcceptedEventRow.transactionId transactionId complete))

section Convergence

variable {warehouse : Warehouse} {transactionId : Identifier}

/-- A transaction with an exception is not visible, whatever its state row says. -/
theorem excepted_hidden (excepted : ∃ event ∈ warehouse.excepted,
    event.transactionId = transactionId) :
    group (fun row => row.state.transactionId) transactionId (dimPaymentCurrent warehouse) = [] := by
  refine group_nil fun row member same => ?_
  obtain ⟨state, inside, rfl⟩ := List.mem_map.mp member
  obtain ⟨event, listed, sameTransaction⟩ := excepted
  obtain ⟨exception, here, rfl⟩ := List.mem_map.mp listed
  refine (mem_left_anti.mp inside).2 (List.mem_map.mpr ⟨exception, here, ?_⟩)
  exact sameTransaction.trans same.symm

/-- A settled transaction has the state row of its history, and no other. -/
theorem settled_state (sound : Sound warehouse)
    (nonempty : warehouse.history transactionId ≠ []) (settled : Settled warehouse transactionId) :
    ∃ state, historyState transactionId (warehouse.history transactionId) = [state] ∧
      state.transactionId = transactionId ∧
      group PaymentStateRow.transactionId transactionId warehouse.paymentState = [state] := by
  obtain ⟨state, single⟩ := (history_state_valid nonempty).mp settled.valid
  have member : state ∈ historyState transactionId (warehouse.history transactionId) :=
    single ▸ List.mem_singleton_self state
  have same : state.transactionId = transactionId :=
    history_state_transaction (fun row member => (mem_group.mp member).2) member
  refine ⟨state, single, same, ?_⟩
  subst same
  exact sound.states.group_eq ((settled.states state rfl).mpr member)

/-- The posted events of a settled transaction are the monetary events of its history, up to their
order. -/
theorem settled_posted (sound : Sound warehouse) (settled : Settled warehouse transactionId) :
    (group AcceptedEventRow.transactionId transactionId warehouse.postedEvent).Perm
      ((warehouse.history transactionId).filter isMonetary) := by
  have left : (group AcceptedEventRow.transactionId transactionId warehouse.postedEvent).Nodup :=
    sound.postedKeyed.of_map.filter _
  have right : ((warehouse.history transactionId).filter isMonetary).Nodup :=
    (sound.accepted.of_map.filter _).filter _
  apply (List.perm_ext_iff_of_nodup left right).mpr
  intro row
  rw [mem_group, List.mem_filter, Warehouse.history, mem_group]
  constructor
  · rintro ⟨here, same⟩
    exact ⟨⟨(sound.posted row here).1, same⟩, (sound.posted row here).2⟩
  · rintro ⟨⟨here, same⟩, monetary⟩
    exact ⟨settled.posted row (mem_group.mpr ⟨here, same⟩) monetary, same⟩

/-- The lines of a settled transaction are the lines of its history, up to their order. -/
theorem settled_ledger (sound : Sound warehouse) (settled : Settled warehouse transactionId) :
    (group LedgerEntryRow.transactionId transactionId warehouse.ledgerEntry).Perm
      (doubleEntry (warehouse.history transactionId)) := by
  have lines := sound.ledger.filter fun line => decide (line.transactionId = transactionId)
  apply List.Perm.trans lines
  show (group LedgerEntryRow.transactionId transactionId
    (doubleEntry warehouse.postedEvent)).Perm _
  rw [double_entry_group, ← double_entry_monetary (warehouse.history transactionId)]
  exact double_entry_perm (settled_posted sound settled)

/-- A transaction without exceptions is visible with its state rows and their net amounts. -/
theorem unexcepted_visible
    (fresh : ∀ event ∈ warehouse.excepted, event.transactionId ≠ transactionId) :
    group (fun row => row.state.transactionId) transactionId (dimPaymentCurrent warehouse) =
      (group PaymentStateRow.transactionId transactionId warehouse.paymentState).map
        fun state => ⟨state, netProcessorReceivable state⟩ := by
  have unlisted : transactionId ∉
      warehouse.businessException.map BusinessExceptionRow.transactionId := by
    intro listed
    obtain ⟨exception, here, same⟩ := List.mem_map.mp listed
    exact fresh exception.event (List.mem_map_of_mem here) same
  rw [dimPaymentCurrent, group, List.filter_map]
  exact congrArg _ (left_anti_group unlisted warehouse.paymentState)

/-- A settled transaction without exceptions shows its accepted history as a recomputation from
all accepted rows would. -/
theorem settled_recomputed {complete : List AcceptedEventRow} (sound : Sound warehouse)
    (whole : warehouse.acceptedEvent.Perm complete)
    (nonempty : warehouse.history transactionId ≠ []) (settled : Settled warehouse transactionId)
    (fresh : ∀ event ∈ warehouse.excepted, event.transactionId ≠ transactionId) :
    Recomputed complete warehouse transactionId := by
  obtain ⟨state, single, _, current⟩ := settled_state sound nonempty settled
  have history : (warehouse.history transactionId).Perm
      (group AcceptedEventRow.transactionId transactionId complete) := whole.filter _
  have projected : historyState transactionId
      (group AcceptedEventRow.transactionId transactionId complete) = [state] := by
    rw [← history_state_perm (sound.accepted.sublist (List.filter_sublist.map _)) history]
    exact single
  constructor
  · rw [unexcepted_visible fresh, current, projected]
  · exact (settled_posted sound settled).trans (history.filter isMonetary)
  · exact (settled_ledger sound settled).trans (double_entry_perm history)

/-- A single run over a whole history shows every valid transaction. This is what the daily runs
are compared with. -/
theorem single_run_recomputed {complete : List AcceptedEventRow}
    (keyed : Keyed AcceptedEventRow.eventId complete) :
    ∃ single, singleRun complete = .ok single ∧
      ∀ id, CompleteValid complete id → Recomputed complete single id := by
  obtain ⟨between, single, ran, first, second, sound⟩ :=
    @jobs_ok (fun _ => true) _ (sound_unprojected keyed)
  have accepted : single.acceptedEvent = complete := second.accepted.trans first.accepted
  refine ⟨single, ran, fun id valid => ?_⟩
  obtain ⟨row, member, same⟩ := List.mem_map.mp valid.1
  have found : FoundValid (fun _ => true) { emptyWarehouse with acceptedEvent := complete } id :=
    ⟨⟨row, member, rfl, same⟩, valid.2⟩
  have settled := found_valid_settled first second found fun _ none =>
    absurd none List.not_mem_nil
  refine settled_recomputed sound (List.Perm.of_eq accepted) ?_ settled ?_
  · rw [Warehouse.history, accepted]
    exact List.ne_nil_of_mem (mem_group.mpr ⟨member, same⟩)
  · intro event excepted sameTransaction
    rw [Warehouse.excepted, second.exceptions] at excepted
    rcases (first.excepted event).mp excepted with none | ⟨_, _, fails⟩
    · cases none
    · rw [sameTransaction] at fails
      exact fails valid.2

end Convergence

/-- After runs that cover every accepted object, the tables show a transaction whose
complete history is valid, as one run over everything does, exactly if no run on the
way found its history so far invalid. -/
theorem daily_runs_recompute {actions : List Action} (complete : Complete actions) :
    ∃ platform single, execute actions emptyPlatform = .ok platform ∧
      singleRun ((arrivals actions).map acceptedRow) = .ok single ∧
      ∀ id, CompleteValid ((arrivals actions).map acceptedRow) id →
        Recomputed ((arrivals actions).map acceptedRow) single id ∧
        (Recomputed ((arrivals actions).map acceptedRow) platform.warehouse id ↔
          ¬ Disturbed actions id) := by
  obtain ⟨platform, ran, ongoing⟩ := execute_ongoing complete.keyed complete.utc
  have keyed : Keyed AcceptedEventRow.eventId ((arrivals actions).map acceptedRow) := by
    rw [Keyed, List.map_map]
    exact complete.keyed
  obtain ⟨single, singly, recomputed⟩ := single_run_recomputed keyed
  have whole : platform.warehouse.acceptedEvent.Perm ((arrivals actions).map acceptedRow) := by
    refine (List.perm_ext_iff_of_nodup ongoing.sound.accepted.of_map keyed.of_map).mpr
      fun row => ?_
    constructor
    · intro member
      obtain ⟨event, inside, rfl⟩ := ongoing.accepted row member
      exact List.mem_map_of_mem (ongoing.bucket ▸ inside)
    · intro member
      obtain ⟨event, inside, rfl⟩ := List.mem_map.mp member
      obtain ⟨before, after, split⟩ := arrival_split inside
      exact ongoing.ingested before event after split (covered_split complete.covered split)
  refine ⟨platform, single, ran, singly, fun id valid => ⟨recomputed id valid, ?_⟩⟩
  obtain ⟨row, member, same⟩ := List.mem_map.mp valid.1
  have nonempty : platform.warehouse.history id ≠ [] :=
    List.ne_nil_of_mem (mem_group.mpr ⟨whole.mem_iff.mpr member, same⟩)
  constructor
  · intro shown disturbed
    have hidden := excepted_hidden ((ongoing.excepted id).mpr disturbed)
    have history :
        group AcceptedEventRow.transactionId id ((arrivals actions).map acceptedRow) ≠ [] :=
      List.ne_nil_of_mem (mem_group.mpr ⟨member, same⟩)
    obtain ⟨state, projected⟩ := (history_state_valid history).mp valid.2
    have visible := shown.visible
    rw [hidden, projected] at visible
    cases visible
  · intro undisturbed
    refine settled_recomputed ongoing.sound whole nonempty
      (ongoing.settled id undisturbed nonempty) fun event excepted sameTransaction => ?_
    exact undisturbed ((ongoing.excepted id).mp ⟨event, excepted, sameTransaction⟩)

/-! ## A late authorization -/

/-- The authorization of a payment. -/
def firstDayAuthorization : PaymentEvent :=
  sampleEvent ⟨str "evt-1", .refl true⟩ .authorization 1 1000
    (noon newYear.date newYear.yearRange)

/-- Its capture on the next day. -/
def secondDayCapture : PaymentEvent :=
  sampleEvent ⟨str "evt-2", .refl true⟩ .capture 2 600
    (noon newYear.date.next (by decide))

/-- The capture arrives and is run before the authorization does. -/
def lateAuthorizationRuns : List Action :=
  [.arrive secondDayCapture, .run secondDayCapture.eventTime.date,
    .arrive firstDayAuthorization, .run firstDayAuthorization.eventTime.date]

/-- A payment whose authorization arrives late is valid, but it stays invisible and its
capture unposted, although both dates were run after the events arrived. -/
theorem late_authorization_hidden :
    Complete lateAuthorizationRuns ∧
      CompleteValid ((arrivals lateAuthorizationRuns).map acceptedRow) ⟨str "txn-1", by decide⟩ ∧
      ∃ platform, execute lateAuthorizationRuns emptyPlatform = .ok platform ∧
        dimPaymentCurrent platform.warehouse = [] ∧ platform.warehouse.postedEvent = [] ∧
        platform.warehouse.ledgerEntry = [] ∧
        ¬ Recomputed ((arrivals lateAuthorizationRuns).map acceptedRow) platform.warehouse
          ⟨str "txn-1", by decide⟩ := by
  have complete : Complete lateAuthorizationRuns :=
    ⟨by decide +kernel, by decide +kernel, by decide +kernel⟩
  have valid : CompleteValid ((arrivals lateAuthorizationRuns).map acceptedRow)
      ⟨str "txn-1", by decide⟩ := ⟨by decide +kernel, by decide +kernel⟩
  obtain ⟨platform, ran, _⟩ := execute_ongoing complete.keyed complete.utc
  have tables : (execute lateAuthorizationRuns emptyPlatform).toOption.map (fun reached =>
      (dimPaymentCurrent reached.warehouse, reached.warehouse.postedEvent,
        reached.warehouse.ledgerEntry)) = some ([], [], []) := by
    decide +kernel
  rw [ran] at tables
  obtain ⟨hidden, rest⟩ := Prod.mk.inj (Option.some.inj tables)
  obtain ⟨posted, ledger⟩ := Prod.mk.inj rest
  refine ⟨complete, valid, platform, ran, hidden, posted, ledger, fun shown => ?_⟩
  have capture : (group AcceptedEventRow.transactionId ⟨str "txn-1", by decide⟩
      ((arrivals lateAuthorizationRuns).map acceptedRow)).filter isMonetary ≠ [] := by
    decide +kernel
  have missing := shown.posted
  rw [posted] at missing
  exact capture (List.nil_perm.mp missing)

/-- Both events arrive and are run in order. -/
def promptArrivals : List Action :=
  [.arrive firstDayAuthorization, .run firstDayAuthorization.eventTime.date,
    .arrive secondDayCapture, .run secondDayCapture.eventTime.date]

/-- The runs of events in order are compared with a single run over both. -/
theorem daily_runs_recompute_sample :
    ∃ platform single, execute promptArrivals emptyPlatform = .ok platform ∧
      singleRun ((arrivals promptArrivals).map acceptedRow) = .ok single ∧
      ∀ id, CompleteValid ((arrivals promptArrivals).map acceptedRow) id →
        Recomputed ((arrivals promptArrivals).map acceptedRow) single id ∧
        (Recomputed ((arrivals promptArrivals).map acceptedRow) platform.warehouse id ↔
          ¬ Disturbed promptArrivals id) :=
  daily_runs_recompute ⟨by decide +kernel, by decide +kernel, by decide +kernel⟩

end LedgerFlow.Spark
