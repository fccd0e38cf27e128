import LedgerFlow.Settlement.Plays

/-!
# Verdicts that posting relies on

Reconstruction assesses transactions and posting inserts their events; both read the
accepted table again, and what carries the verdict is an anti-join on the identifiers of
exceptions. `PostingsAssessed` asks that every inserted event was assessed in an earlier
reconstruction and its transaction found valid. An ingestion of another date between the
two jobs of a workflow breaks it, and nothing else does: it holds of a run if and only if
every posting finds the events that it inserts read by an earlier reconstruction.
-/

namespace LedgerFlow.Settlement

open PyText PyJson PyBytes PyDateTime Programs Grouping Dataframe Spark

/-! ## Assessments -/

/-- The rows that the jobs of an input touch. -/
abbrev WorkflowInput.touched (input : WorkflowInput) : AcceptedEventRow → Bool :=
  touchedOn (toDate input.businessDate)

/-- A reconstruction that completed has read the row, with this verdict on the history of
its transaction. -/
def AssessedWith (verdict : Option Violation → Prop) (journal : List Entry)
    (row : AcceptedEventRow) : Prop :=
  ∃ input before outcome after,
    .ran input .runPaymentStateReconstruction before outcome ∈ journal ∧
    reconstructPaymentState input.touched before.warehouse = .ok after ∧
    row ∈ affectedHistory input.touched before.warehouse.acceptedEvent ∧
    verdict (lifecycleError row.transactionId (before.warehouse.history row.transactionId))

/-- A reconstruction has read the row, whatever it found. -/
abbrev Assessed (journal : List Entry) (row : AcceptedEventRow) : Prop :=
  AssessedWith (fun _ => True) journal row

/-- A reconstruction has read the row and found its transaction valid. -/
abbrev AssessedValid (journal : List Entry) (row : AcceptedEventRow) : Prop :=
  AssessedWith (fun verdict => verdict = none) journal row

/-- The events that posting inserts have been assessed, and those of the lines that it
inserts. -/
structure InsertsAssessed (journal : List Entry) (before after : Warehouse) : Prop where
  events : ∀ row ∈ after.postedEvent, row ∉ before.postedEvent → AssessedValid journal row
  lines : ∀ line ∈ after.ledgerEntry, line ∉ before.ledgerEntry →
    ∃ row, (line = debit row ∨ line = credit row) ∧ AssessedValid journal row

/-- Every event that posting selects and has not posted yet was read before. -/
def SelectedRead (journal : List Entry) (touched : AcceptedEventRow → Bool)
    (warehouse : Warehouse) : Prop :=
  ∀ row ∈ selectedEvents touched warehouse,
    row.eventId ∉ warehouse.postedEvent.map AcceptedEventRow.eventId → Assessed journal row

/-- What posting inserts was found valid earlier, in every posting of a run. -/
def PostingsAssessed (world : World) : Prop :=
  ∀ later input before outcome earlier after,
    world.journal = later ++ .ran input .postLedger before outcome :: earlier →
    postLedger input.touched before.warehouse = .ok after →
      InsertsAssessed earlier before.warehouse after

/-- What posting is about to insert was read earlier, in every posting of a run. -/
def PostingsRead (world : World) : Prop :=
  ∀ later input before outcome earlier,
    world.journal = later ++ .ran input .postLedger before outcome :: earlier →
      SelectedRead earlier input.touched before.warehouse

/-! ## What jobs keep -/

/-- Posted events have their lines. -/
def LinesPosted (warehouse : Warehouse) : Prop :=
  ∀ row ∈ warehouse.postedEvent, ∀ position, position = 1 ∨ position = 2 →
    entryId row.eventId position ∈ warehouse.ledgerEntry.map LedgerEntryRow.entryId

/-- What a reconstruction found invalid is among the exceptions. -/
def ExceptionsKept (world : World) : Prop :=
  ∀ row, AssessedWith (fun verdict => verdict ≠ none) world.journal row →
    row.eventId ∈ world.store.warehouse.businessException.map BusinessExceptionRow.eventId

/-- The rows that a reconstruction reads and finds invalid become exceptions, each of them: the
job quarantines a whole transaction. -/
theorem reconstruct_excepts {touched : AcceptedEventRow → Bool} {before after : Warehouse}
    (completes : reconstructPaymentState touched before = .ok after) {row : AcceptedEventRow}
    (read : row ∈ affectedHistory touched before.acceptedEvent)
    (invalid : lifecycleError row.transactionId (before.history row.transactionId) ≠ none) :
    row.eventId ∈ after.businessException.map BusinessExceptionRow.eventId := by
  obtain ⟨_, exceptions, _, merged, rfl⟩ := reconstruct_merged completes
  obtain ⟨inside, affected⟩ := mem_affected.mp read
  have incoming := mem_incoming_exceptions.mpr ⟨inside, affected, invalid⟩
  obtain ⟨exception, member, rfl⟩ := List.mem_map.mp incoming
  exact (merge_update_keys merged).mpr (.inr (List.mem_map_of_mem member))

/-- No job removes an exception, since each of them merges into the table and nothing deletes from
it. -/
theorem run_stage_exceptions (library : Library) (stage : Stage) (input : WorkflowInput)
    (store : Store) {eventId : Identifier}
    (known : eventId ∈ store.warehouse.businessException.map BusinessExceptionRow.eventId) :
    eventId ∈ (runStage library stage input store).1.warehouse.businessException.map
      BusinessExceptionRow.eventId := by
  apply @run_stage_keeps (fun warehouse => eventId ∈ warehouse.businessException.map
    BusinessExceptionRow.eventId) library stage input store known _ _ known
  · intro after completes
    obtain ⟨_, _, _, merged, rfl⟩ := reconstruct_merged completes
    exact (merge_update_keys merged).mpr (.inl known)
  · intro after completes
    rw [post_ledger_eq] at completes
    cases completes
    exact known

/-- The debit and the credit of an event that posting selects are among the lines that it
merges. -/
theorem selected_lines {touched : AcceptedEventRow → Bool} {warehouse : Warehouse}
    {row : AcceptedEventRow} (selected : row ∈ selectedEvents touched warehouse) :
    debit row ∈ doubleEntry (selectedEvents touched warehouse) ∧
      credit row ∈ doubleEntry (selectedEvents touched warehouse) := by
  have monetary : row ∈ (selectedEvents touched warehouse).filter isMonetary :=
    List.mem_filter.mpr ⟨selected, (List.mem_filter.mp selected).2⟩
  exact ⟨List.mem_append_left _ (List.mem_map_of_mem monetary),
    List.mem_append_right _ (List.mem_map_of_mem monetary)⟩

/-- Every job keeps that posted events have their lines: only posting adds to either table, and a
posting that completes merges the lines of every event that it posts. -/
theorem run_stage_lines (library : Library) (stage : Stage) (input : WorkflowInput)
    (store : Store) (lines : LinesPosted store.warehouse) :
    LinesPosted (runStage library stage input store).1.warehouse := by
  apply run_stage_keeps library stage input store lines _ _ lines
  · intro after completes
    obtain ⟨_, _, _, _, rfl⟩ := reconstruct_merged completes
    exact lines
  · intro after completes
    rw [post_ledger_eq] at completes
    cases completes
    intro row member position either
    apply merge_insert_keys
    rcases mem_merge_insert.mp member with old | ⟨new, _⟩
    · exact .inl (lines row old position either)
    · obtain ⟨debits, credits⟩ := selected_lines new
      rcases either with rfl | rfl
      · exact .inr (List.mem_map.mpr ⟨_, debits, debit_id row⟩)
      · exact .inr (List.mem_map.mpr ⟨_, credits, credit_id row⟩)

/-! ## Runs -/

/-- What posting relies on. -/
structure Relied (world : World) : Prop where
  exceptions : ExceptionsKept world
  lines : LinesPosted world.store.warehouse

section Running

variable {deployment : Deployment} {policy : Policy} {pool : SettlementPool}

/-- A call of the loader does not touch the warehouse, so it keeps what posting relies on. -/
theorem relied_call {delivery : Delivery} {before after : World}
    (effect : CallEffect delivery before after) (relied : Relied before) : Relied after := by
  have warehouse : after.store.warehouse = before.store.warehouse := by
    cases effect <;> rfl
  constructor
  · rintro row ⟨input, store, outcome, left, ran, rest⟩
    rw [warehouse]
    exact relied.exceptions row ⟨input, store, outcome, left, call_ran effect ran, rest⟩
  · rw [warehouse]
    exact relied.lines

/-- After an advance that performs its job the warehouse is what the job leaves, whatever the
workflow was told of its outcome. -/
theorem advanced_warehouse {library : Library} {before after : World} {name : Str}
    {outcome : Outcome} {execution : Execution} {stage : Stage}
    (advanced : Advanced library before after name outcome execution stage)
    (performs : outcome.performs = true) :
    after.store.warehouse = (runStage library stage execution.input before.store).1.warehouse := by
  obtain ⟨_, _, _, advance⟩ := advanced_left advanced
  rw [advance.store, if_pos performs]
  rfl

/-- A move keeps it too: posting inserts both lines of an event, and reconstruction inserts
exceptions without removing one. -/
theorem relied_move {library : Library} {before after : World}
    (effect : MoveEffect policy library before after) (relied : Relied before) :
    Relied after := by
  have keeps : (∀ eventId ∈ before.store.warehouse.businessException.map
        BusinessExceptionRow.eventId,
      eventId ∈ after.store.warehouse.businessException.map BusinessExceptionRow.eventId) ∧
      LinesPosted after.store.warehouse := by
    cases effect with
    | put => exact ⟨fun _ known => known, relied.lines⟩
    | arrived => exact ⟨fun _ known => known, relied.lines⟩
    | @advanced name outcome execution stage _ _ advanced =>
      by_cases performs : outcome.performs = true
      · rw [advanced_warehouse advanced performs]
        exact ⟨fun _ known => run_stage_exceptions _ _ _ _ known,
          run_stage_lines _ _ _ _ relied.lines⟩
      · obtain ⟨_, _, _, advance⟩ := advanced_left advanced
        rw [advance.store, if_neg performs]
        exact ⟨fun _ known => known, relied.lines⟩
  constructor
  · rintro row ⟨input, store, outcome, left, ran, completes, affected, invalid⟩
    rcases move_ran effect ran with earlier | ⟨_, execution, _, advanced, performs, rfl, rfl⟩
    · exact keeps.1 _ (relied.exceptions row
        ⟨input, store, outcome, left, earlier, completes, affected, invalid⟩)
    · have warehouse : after.store.warehouse = left := by
        rw [advanced_warehouse advanced performs]
        show (onWarehouse before.store (reconstructPaymentState execution.input.touched
          before.store.warehouse)).1.warehouse = left
        rw [completes]
        rfl
      rw [warehouse]
      exact reconstruct_excepts completes affected invalid
  · exact keeps.2

/-- Reachable worlds are as posting relies on: every event with an invalid verdict in the journal
has an exception, and every posted event has its lines. -/
theorem reaches_relied (reached : Reaches deployment policy pool) : Relied pool.world := by
  apply reaches_holds reached
  · constructor
    · rintro _ ⟨_, _, _, _, none, _⟩
      cases none
    · intro _ none
      cases none
  · exact fun _ _ _ _ _ effect => relied_call effect
  · exact fun _ _ _ _ effect => relied_move effect

/-! ## Postings -/

variable {journal : List Entry} {store : Store} {touched : AcceptedEventRow → Bool}

/-- An event that posting selects and that a reconstruction has read was found valid, since an
invalid one would be excepted and posting skips those. -/
theorem selected_valid (relied : Relied ⟨store, journal⟩) {row : AcceptedEventRow}
    (selected : row ∈ selectedEvents touched store.warehouse) (read : Assessed journal row) :
    AssessedValid journal row := by
  obtain ⟨input, before, outcome, after, ran, completes, affected, _⟩ := read
  refine ⟨input, before, outcome, after, ran, completes, affected, ?_⟩
  by_contra invalid
  have excepted := relied.exceptions row
    ⟨input, before, outcome, after, ran, completes, affected, invalid⟩
  exact (mem_left_anti.mp (List.mem_filter.mp selected).1).2 excepted

/-- If everything that posting inserts was assessed, then everything that it selects was read by a
reconstruction before. -/
theorem inserts_read {before after : Warehouse} (completes : postLedger touched before = .ok after)
    (inserts : InsertsAssessed journal before after) : SelectedRead journal touched before := by
  rw [post_ledger_eq] at completes
  cases completes
  intro row selected unposted
  have posted := mem_merge_insert.mpr (.inr ⟨selected, unposted⟩)
  have new : row ∉ before.postedEvent := fun old => unposted (List.mem_map_of_mem old)
  obtain ⟨input, seen, outcome, left, ran, completes, affected, _⟩ :=
    inserts.events row posted new
  exact ⟨input, seen, outcome, left, ran, completes, affected, trivial⟩

/-- If everything that posting selects was read by a reconstruction, then everything that it
inserts was assessed valid. With the converse this makes the condition exact. -/
theorem read_inserts (relied : Relied ⟨store, journal⟩) {after : Warehouse}
    (completes : postLedger touched store.warehouse = .ok after)
    (read : SelectedRead journal touched store.warehouse) :
    InsertsAssessed journal store.warehouse after := by
  rw [post_ledger_eq] at completes
  cases completes
  constructor
  · intro row posted new
    rcases mem_merge_insert.mp posted with old | ⟨selected, unposted⟩
    · exact absurd old new
    · exact selected_valid relied selected (read row selected unposted)
  · intro line posted new
    rcases mem_merge_insert.mp posted with old | ⟨inserted, unknown⟩
    · exact absurd old new
    · obtain ⟨row, selected, _, of, _⟩ := mem_double_entry inserted
      refine ⟨row, of, selected_valid relied selected (read row selected fun listed => ?_)⟩
      obtain ⟨old, member, same⟩ := List.mem_map.mp listed
      rcases of with rfl | rfl
      · rw [debit_id, ← same] at unknown
        exact unknown (relied.lines old member 1 (.inl rfl))
      · rw [credit_id, ← same] at unknown
        exact unknown (relied.lines old member 2 (.inr rfl))

/-- A run posts only what was found valid if and only if each of its postings finds the
events that it inserts read by an earlier reconstruction. -/
theorem postings_assessed_iff (reached : Reaches deployment policy pool) :
    PostingsAssessed pool.world ↔ PostingsRead pool.world := by
  have saw := jobs_saw (fun _ => reaches_relied) reached
  constructor
  · intro assessed later input before outcome earlier split
    exact inserts_read post_ledger_eq
      (assessed later input before outcome earlier _ split post_ledger_eq)
  · intro read later input before outcome earlier after split completes
    have relied := saw later input .postLedger before outcome earlier split
    exact read_inserts relied completes (read later input before outcome earlier split)

end Running

/-! ## An ingestion between reconstruction and posting -/

section Samples

/-- Whether the entry is a reconstruction that read the row. -/
def reads (row : AcceptedEventRow) : Entry → Bool
  | .ran input stage before _ => decide (stage = .runPaymentStateReconstruction ∧
      row ∈ affectedHistory input.touched before.warehouse.acceptedEvent)
  | _ => false

/-- An assessed row was read by a reconstruction whose entry is in the journal. -/
theorem assessed_reads {journal : List Entry} {row : AcceptedEventRow}
    (assessed : Assessed journal row) : ∃ entry ∈ journal, reads row entry = true := by
  obtain ⟨input, before, outcome, after, ran, _, affected, _⟩ := assessed
  exact ⟨_, ran, decide_eq_true ⟨rfl, affected⟩⟩

/-- Whether the last job posted, and was about to insert an event that none before it read. -/
def postsUnread : List Entry → Bool
  | .ran input stage before _ :: earlier => decide (stage = .postLedger) &&
      (selectedEvents input.touched before.warehouse).any fun row =>
        decide (row.eventId ∉ before.warehouse.postedEvent.map AcceptedEventRow.eventId) &&
          earlier.all fun entry => !reads row entry
  | _ => false

/-- Posting an event that no reconstruction has read is posting an unassessed event; the journal
decides which runs do. -/
theorem posts_unread_unassessed {world : World} (unread : postsUnread world.journal = true) :
    ¬ PostingsAssessed world := by
  intro assessed
  match held : world.journal, unread with
  | .ran input stage before outcome :: earlier, unread =>
    simp only [postsUnread, Bool.and_eq_true, decide_eq_true_eq, List.any_eq_true,
      List.all_eq_true, Bool.not_eq_true'] at unread
    obtain ⟨rfl, row, selected, unposted, never⟩ := unread
    have read := inserts_read post_ledger_eq
      (assessed [] input before outcome earlier _ held post_ledger_eq)
    obtain ⟨entry, member, reading⟩ := assessed_reads (read row selected unposted)
    rw [never entry member] at reading
    cases reading

/-- A second capture on the next day, for more than was authorized. -/
def nextDayCapture : PaymentEvent :=
  sampleEvent ⟨str "evt-3", .refl true⟩ .capture 3 900
    (noon nextDayFile.date (by decide))

/-- The next day is ingested after the first day was reconstructed and before it is posted. -/
def interleavedDays : List Happening :=
  paymentArrives ++ [.move (.arrive nextDayCapture)] ++ putBoth settledManifest (str "v1") ++
    [.invoke (sampleDelivery settledManifest)] ++ completing settledManifest 3 ++
    putBoth nextDayManifest (str "v1") ++ [.invoke (sampleDelivery nextDayManifest)] ++
    completing nextDayManifest 2 ++ completing settledManifest 1

/-- In a run of one day the posting inserts a second capture, ingested between the two jobs, which
nothing has assessed. -/
theorem unassessed_capture_posted : ∃ pool, Reaches settlementDeployment samplePolicy pool ∧
    ¬ PostingsAssessed pool.world := by
  obtain ⟨pool, reached, unread⟩ := @plays_reaches settlementDeployment samplePolicy _ interleavedDays
    (fun pool => postsUnread pool.world.journal = true) _ (by decide +kernel)
  exact ⟨pool, reached, posts_unread_unassessed unread⟩

/-- On a settled day something was posted, and the exact condition decides whether it was
assessed. -/
theorem postings_assessed_settled_day :
    ∃ pool, (Reaches settlementDeployment samplePolicy pool ∧
      pool.world.store.warehouse.postedEvent ≠ []) ∧
      (PostingsAssessed pool.world ↔ PostingsRead pool.world) := by
  obtain ⟨pool, reached, posted⟩ := @plays_reaches settlementDeployment samplePolicy _ settledDay
    (fun pool => pool.world.store.warehouse.postedEvent ≠ []) _ (by decide +kernel)
  exact ⟨pool, ⟨reached, posted⟩, postings_assessed_iff reached⟩

end Samples

end LedgerFlow.Settlement
