import LedgerFlow.Support.Upserts
import LedgerFlow.Settlement.Validation

/-!
# Evidence of a business date

Reconciliation merges a settlement file into the evidence table row by row and never
deletes. The table is meant to hold, of a date, what the file that was processed last holds.
A file that passes validation merges into the rows of its date alone, but a key that it
lacks keeps its earlier row: the evidence of the date is the last file exactly when that
file has every key that the date has had.
-/

namespace LedgerFlow.Settlement

open PyText PyJson PyBytes PyDateTime Grouping Dataframe Spark

/-! ## Files of a date -/

/-- A revision of a date's file as it is processed: its two objects, and the warehouse that
its reconciliation finds. -/
structure ProcessedFile where
  warehouse : Warehouse
  manifest : Bytes
  data : Bytes

/-- The rows of the file. -/
def fileRows (library : Library) (data : Bytes) : List EvidenceRow :=
  (library.readRecords data).map SettlementRecord.evidence

/-- Reading the file without a schema gives the columns that reading it with one gives, as
it does for fields that are JSON strings and integers. -/
def ReadersAgree (library : Library) (data : Bytes) : Prop :=
  library.readActual data = fileRows library data

/-- The file passes validation for the requested date, and both jobs read it alike. -/
structure Passes (library : Library) (requested : Str) (file : ProcessedFile) : Prop where
  passed : validateSettlementManifest library file.manifest file.data requested = .ok ()
  agreed : ReadersAgree library file.data

/-- Rows of one date without a null in their keys, and one for each key. -/
structure DatedFile (date : Date) (rows : List EvidenceRow) : Prop where
  keyed : Keyed EvidenceRow.key rows
  dated : ∀ row ∈ rows, row.businessDate = some date
  complete : ∀ row ∈ rows, row.key.complete = true

section Files

variable {library : Library} {requested : Str} {date : Date}

/-- A file that passes for a date is a file of that date. -/
theorem passes_dated {manifest data : Bytes} (dated : toDate requested = some date)
    (passed : validateSettlementManifest library manifest data requested = .ok ()) :
    DatedFile date (fileRows library data) := by
  have validated := validate_ok library passed
  have contracted : ∀ record ∈ library.readRecords data, Contracted requested record :=
    fun record member => validated_contracted validated dated member
  have named : ∀ record ∈ library.readRecords data, record.businessDate = some date := by
    intro record member
    obtain ⟨other, read, held⟩ := (contracted record member).businessDate
    rw [held, ← read, dated]
  constructor
  · have keys : (fileRows library data).map EvidenceRow.key =
        (library.readRecords data).map SettlementRecord.key := by
      rw [fileRows, List.map_map]
      rfl
    rw [Keyed, keys]
    exact validated_keyed validated
  · intro row member
    obtain ⟨record, inside, rfl⟩ := List.mem_map.mp member
    exact named record inside
  · intro row member
    obtain ⟨record, inside, rfl⟩ := List.mem_map.mp member
    obtain ⟨processor, processorHeld⟩ :=
      Option.ne_none_iff_exists'.mp (contracted record inside).processorId
    obtain ⟨currency, _, currencyHeld⟩ := (contracted record inside).currency
    simp only [SettlementKey.complete, EvidenceRow.key, SettlementRecord.evidence,
      named record inside, processorHeld, currencyHeld, Option.isSome_some, Bool.and_self]

/-- Rows with complete keys merge as they are. A null in a key matches nothing, so such a row
would be inserted again and again. -/
theorem merge_evidence_complete {target source : List EvidenceRow}
    (complete : ∀ row ∈ source, row.key.complete = true) :
    mergeEvidence target source = mergeUpdate EvidenceRow.key target source := by
  have all : (source.filter fun row => row.key.complete) = source :=
    List.filter_eq_self.mpr complete
  have none : (source.filter fun row => !row.key.complete) = [] :=
    List.filter_eq_nil_iff.mpr fun row member => by
      rw [complete row member]
      decide
  rw [mergeEvidence, all, none]
  simp only [List.append_nil, Option.map_id']

/-- Reconciling a file that passes merges its rows, and overwrites the exceptions of its
date before the gate looks at them. -/
theorem reconcile_passed {file : ProcessedFile} (dated : toDate requested = some date)
    (passes : Passes library requested file) (tables : SettlementTables) :
    let rows := settlementExceptions (expectedSettlement file.warehouse.postedEvent
      file.warehouse.businessException (some date)) (fileRows library file.data)
    ∃ evidence, mergeUpdate EvidenceRow.key tables.evidence (fileRows library file.data) =
        some evidence ∧
      reconcileSettlements library file.warehouse file.data requested tables =
        (⟨evidence, overwriteDate (some date) tables.exceptions rows⟩,
          require (rows = []) (.runtime (str "settlement reconciliation gate failed"))) := by
  intro rows
  have given := passes_dated dated passes.passed
  obtain ⟨evidence, merges, _⟩ := @merge_update_ok _ _ _ _ tables.evidence _ given.keyed
  refine ⟨evidence, merges, ?_⟩
  have merged : mergeEvidence tables.evidence (fileRows library file.data) = some evidence := by
    rw [merge_evidence_complete given.complete, merges]
  have agreed : library.readActual file.data = fileRows library file.data := passes.agreed
  simp only [reconcileSettlements, agreed, merged, dated, rows]

end Files

/-! ## A sequence of revisions -/

/-- Reconciling the files in order. A failed gate keeps what it has written. -/
def reconcileAll (library : Library) (requested : Str) (files : List ProcessedFile)
    (tables : SettlementTables) : SettlementTables :=
  files.foldl (fun tables file =>
    (reconcileSettlements library file.warehouse file.data requested tables).1) tables

/-- The rows of a date. -/
def rowsOn {Row : Type} (dateOf : Row → Option Date) (date : Date) (rows : List Row) : List Row :=
  rows.filter fun row => decide (dateOf row = some date)

/-- The rows of other dates, and of none. -/
def rowsElsewhere {Row : Type} (dateOf : Row → Option Date) (date : Date) (rows : List Row) :
    List Row :=
  rows.filter fun row => !decide (dateOf row = some date)

/-- Of the date the table holds these rows, and of other dates what it held before. -/
structure EvidenceIs (date : Date) (before after rows : List EvidenceRow) : Prop where
  onDate : (rowsOn EvidenceRow.businessDate date after).Perm rows
  elsewhere : rowsElsewhere EvidenceRow.businessDate date after =
    rowsElsewhere EvidenceRow.businessDate date before

/-- The last file has every key of the date: those that the table held, each of them once,
and those that the earlier files brought. -/
structure Supersedes (library : Library) (date : Date) (before : List EvidenceRow)
    (files : List ProcessedFile) (last : ProcessedFile) : Prop where
  keyed : Keyed EvidenceRow.key (rowsOn EvidenceRow.businessDate date before)
  held : ∀ key ∈ (rowsOn EvidenceRow.businessDate date before).map EvidenceRow.key,
    key ∈ (fileRows library last.data).map EvidenceRow.key
  brought : ∀ file ∈ files, ∀ key ∈ (fileRows library file.data).map EvidenceRow.key,
    key ∈ (fileRows library last.data).map EvidenceRow.key

section Sequence

variable {library : Library} {requested : Str} {date : Date}

/-- Reconciling files that pass merges their rows one after another, so the result is a question
about merges alone. -/
theorem reconcile_all_evidence {files : List ProcessedFile} (dated : toDate requested = some date)
    (passes : ∀ file ∈ files, Passes library requested file) (tables : SettlementTables) :
    mergeAll EvidenceRow.key tables.evidence (files.map fun file => fileRows library file.data) =
      some (reconcileAll library requested files tables).evidence := by
  induction files generalizing tables with
  | nil => rfl
  | cons file rest inductionHypothesis =>
    obtain ⟨evidence, merges, reconciled⟩ :=
      reconcile_passed dated (passes file List.mem_cons_self) tables
    rw [List.map_cons, merge_all_cons, reconcileAll, List.foldl_cons, reconciled]
    exact ⟨evidence, merges, inductionHypothesis
      (fun other member => passes other (List.mem_cons_of_mem file member)) ⟨evidence, _⟩⟩

/-- After any sequence of files that pass for a date, whatever the table held, its evidence
of the date is the last file and that of other dates is unchanged if and only if the last
file has every key that the date has had, and had once. -/
theorem evidence_is_last_iff {files : List ProcessedFile} {last : ProcessedFile}
    (dated : toDate requested = some date)
    (passes : ∀ file ∈ files ++ [last], Passes library requested file)
    (tables : SettlementTables) :
    EvidenceIs date tables.evidence
        (reconcileAll library requested (files ++ [last]) tables).evidence
        (fileRows library last.data) ↔
      Supersedes library date tables.evidence files last := by
  let part : SettlementKey → Bool := fun key => decide (key.1 = some date)
  have merges := reconcile_all_evidence dated passes tables
  have rows : ∀ source ∈ (files ++ [last]).map fun file => fileRows library file.data,
      DatedFile date source := by
    intro source listed
    obtain ⟨file, member, rfl⟩ := List.mem_map.mp listed
    exact passes_dated dated (passes file member).passed
  have within : ∀ source ∈ (files ++ [last]).map fun file => fileRows library file.data,
      ∀ row ∈ source, part (EvidenceRow.key row) = true :=
    fun source listed row member => decide_eq_true ((rows source listed).dated row member)
  obtain ⟨inside, outside⟩ := merge_all_part within merges
  have keyed : ∀ source ∈ (files ++ [last]).map fun file => fileRows library file.data,
      Keyed EvidenceRow.key source := fun source listed => (rows source listed).keyed
  rw [List.map_append, List.map_singleton] at inside keyed
  have exact := merge_all_exact keyed inside
  constructor
  · intro evidence
    obtain ⟨once, held, brought⟩ := exact.mp evidence.onDate
    exact ⟨once, held, fun file member => brought _ (List.mem_map_of_mem member)⟩
  · intro supersedes
    refine ⟨exact.mpr ⟨supersedes.keyed, supersedes.held, ?_⟩, outside⟩
    intro source listed
    obtain ⟨file, member, rfl⟩ := List.mem_map.mp listed
    exact supersedes.brought file member

end Sequence

/-! ## A key that a later revision drops -/

section Samples

/-- The day of the samples. -/
def evidenceDay : Date := newYear.date

/-- Two processors. -/
def firstRevision : SampleDelivery where
  records := [⟨evidenceDay, "processor-01", "INR", 600⟩, ⟨evidenceDay, "processor-02", "INR", 50⟩]
  totalsMinor := [("INR", 650)]

/-- Only the first of them. -/
def droppingRevision : SampleDelivery where
  records := [⟨evidenceDay, "processor-01", "INR", 700⟩]
  totalsMinor := [("INR", 700)]

/-- Both of them and a third one in another currency, with other amounts. -/
def addingRevision : SampleDelivery where
  records := [⟨evidenceDay, "processor-03", "USD", 5⟩, ⟨evidenceDay, "processor-02", "INR", 40⟩,
    ⟨evidenceDay, "processor-01", "INR", 700⟩]
  totalsMinor := [("INR", 740), ("USD", 5)]

/-- The revisions. -/
abbrev sampleRevisions : List SampleDelivery := [firstRevision, droppingRevision, addingRevision]

/-- A library that reads them. -/
abbrev revisionLibrary : Library := deliveryLibrary sampleRevisions

/-- A revision, processed against new tables. -/
def SampleDelivery.processed (delivery : SampleDelivery) : ProcessedFile :=
  ⟨emptyWarehouse, delivery.manifest, delivery.data⟩

/-- Every revision passes for its date, as evaluation shows. -/
theorem revision_passes {delivery : SampleDelivery} (member : delivery ∈ sampleRevisions) :
    Passes revisionLibrary evidenceDay.text delivery.processed := by
  refine ⟨?_, rfl⟩
  revert delivery
  decide +kernel

/-- The text of the day names it. -/
theorem evidence_day_read : toDate evidenceDay.text = some evidenceDay := by decide +kernel

/-- The files of the revisions in order, on a table with these rows. -/
def evidenceAfter (revisions : List SampleDelivery) (before : List EvidenceRow) :
    List EvidenceRow :=
  (reconcileAll revisionLibrary evidenceDay.text (revisions.map SampleDelivery.processed)
    ⟨before, []⟩).evidence

/-- All of these revisions pass, and after them the evidence of the day is not the last one. -/
def KeepsDropped (revisions : List SampleDelivery) (last : SampleDelivery) : Prop :=
  (∀ delivery ∈ revisions ++ [last],
    Passes revisionLibrary evidenceDay.text delivery.processed) ∧
    ¬ EvidenceIs evidenceDay [] (evidenceAfter (revisions ++ [last]) [])
      (fileRows revisionLibrary last.data)

/-- The second processor keeps the row of the first revision, although the second revision does
not mention it: a merge deletes nothing. -/
theorem dropped_processor_stays : KeepsDropped [firstRevision] droppingRevision := by
  constructor
  · intro delivery listed
    apply revision_passes
    revert delivery
    decide +kernel
  · intro evidence
    have lengths := evidence.onDate.length_eq
    revert lengths
    decide +kernel

/-- A row of the day before. -/
def earlierEvidence : EvidenceRow :=
  ⟨some evidenceDay.previous, some (str "processor-02"), some (str "INR"), some 1⟩

/-- A revision that adds a processor replaces the first one, since it has every key of it. -/
theorem added_processor_replaces : EvidenceIs evidenceDay [earlierEvidence]
    (evidenceAfter ([firstRevision] ++ [addingRevision]) [earlierEvidence])
    (fileRows revisionLibrary addingRevision.data) := by
  apply (@evidence_is_last_iff revisionLibrary _ _ [firstRevision.processed]
    addingRevision.processed evidence_day_read ?_ ⟨[earlierEvidence], []⟩).mpr
  · exact ⟨by decide +kernel, by decide +kernel, by decide +kernel⟩
  · intro file listed
    rcases List.mem_cons.mp listed with rfl | later
    · exact revision_passes (by decide +kernel)
    · rw [List.mem_singleton.mp later]
      exact revision_passes (by decide +kernel)

end Samples

end LedgerFlow.Settlement
