import LedgerFlow.Settlement.GateAgreement
import LedgerFlow.Settlement.Exceptions
import LedgerFlow.Settlement.VerifiedInput
import LedgerFlow.Spark.Marts

/-!
# The finance build

The finance marts are built over the tables that the settlement workflows write, at any moment.
`FinanceBuild` says what the data tests of the build then find. In every reachable world whose
accepted objects are of different events they find nothing, except that each posted event whose
amount is 2^63 modulo 2^64 has unbalanced lines: the jobs' own gate adds in 64 bits and does not
see them.

The gate of a reconciliation compares a file with what the posted events lead one to expect.
That is what the daily ledger has on the account of the processor, so the gate passes exactly
where this mart agrees with the file.
-/

namespace LedgerFlow.Settlement

open PyText PyJson PyBytes PyDateTime Programs Revisions Grouping Accounts Dataframe Spark

variable {deployment : Deployment} {policy : Policy} {pool : SettlementPool}

/-! ## The tables of a reachable world -/

/-- The column `delta_minor` of `fct_settlement_exception`. -/
def exceptionDeltas (store : Store) : List Int :=
  store.settlement.exceptions.map SettlementExceptionRow.deltaMinor

/-- The tables that jobs on objects of different events leave. -/
structure Accounted (store : Store) : Prop where
  sound : Sound store.warehouse
  accepted : ∀ row ∈ store.warehouse.acceptedEvent,
    ∃ event ∈ store.accepted, acceptedRow event = row
  deltas : ∀ delta ∈ exceptionDeltas store, delta ≠ 0

/-- A job on objects of different events leaves sound tables, whether it completes or fails in the
middle. -/
theorem run_stage_sound {library : Library} {stage : Stage} {input : WorkflowInput} {store : Store}
    (keyed : Keyed PaymentEvent.eventId store.accepted) (accounted : Accounted store) :
    Sound (runStage library stage input store).1.warehouse := by
  apply run_stage_keeps library stage input store _ _ _ accounted.sound
  · exact ingest_objects_sound accounted.sound (keyed.sublist (List.filter_sublist.map _))
  · intro after completes
    obtain ⟨left, ran, _, sound⟩ :=
      @reconstruct_ok (touchedOn (toDate input.businessDate)) _ accounted.sound
    exact Except.ok.inj (ran.symm.trans completes) ▸ sound
  · intro after completes
    obtain ⟨left, ran, _, sound⟩ :=
      @post_ok (touchedOn (toDate input.businessDate)) _ accounted.sound
    exact Except.ok.inj (ran.symm.trans completes) ▸ sound

/-- A job adds rows of accepted objects only, which ingestion reads from the bucket. -/
theorem run_stage_accepted {library : Library} {stage : Stage} {input : WorkflowInput}
    {store : Store} (accounted : Accounted store) :
    ∀ row ∈ (runStage library stage input store).1.warehouse.acceptedEvent,
      ∃ event ∈ store.accepted, acceptedRow event = row := by
  refine @run_stage_keeps (fun warehouse => ∀ row ∈ warehouse.acceptedEvent,
    ∃ event ∈ store.accepted, acceptedRow event = row) library stage input store ?_ ?_ ?_
    accounted.accepted
  · intro row member
    rcases mem_merge_insert.mp member with old | ⟨new, _⟩
    · exact accounted.accepted row old
    · obtain ⟨event, inside, same⟩ := List.mem_map.mp new
      exact ⟨event, (List.mem_filter.mp inside).1, same⟩
  · intro after completes
    obtain ⟨_, _, _, _, rfl⟩ := reconstruct_merged completes
    exact accounted.accepted
  · intro after completes
    rw [post_ledger_eq] at completes
    cases completes
    exact accounted.accepted

/-- A job leaves exceptions with differences only, as equal amounts are filtered before they are
written. -/
theorem run_stage_deltas {library : Library} {stage : Stage} {input : WorkflowInput}
    {store : Store} (accounted : Accounted store) :
    ∀ delta ∈ exceptionDeltas (runStage library stage input store).1, delta ≠ 0 := by
  by_cases other : stage ≠ .reconcileSettlement
  · rw [exceptionDeltas, run_stage_settlement library input store other]
    exact accounted.deltas
  · cases not_not.mp other
    rcases reconcile_stage_exceptions library input store with ⟨same, _⟩ | ⟨data, _, written, _⟩
    · have unchanged : (runStage library .reconcileSettlement input store).1.settlement =
          store.settlement := same
      rw [exceptionDeltas, unchanged]
      exact accounted.deltas
    · intro delta member
      rw [exceptionDeltas, show (runStage library .reconcileSettlement input store).1 =
        (reconcileStage library input store).1 from rfl, written] at member
      obtain ⟨row, inside, rfl⟩ := List.mem_map.mp member
      rcases List.mem_append.mp inside with old | new
      · exact accounted.deltas _ (List.mem_map_of_mem (List.mem_filter.mp old).1)
      · exact of_decide_eq_true (List.mem_filter.mp new).2

/-- Every move keeps the tables of objects of different events accounted. Where the objects are of
one event twice, nothing is claimed. -/
theorem accounted_move {library : Library} {before after : World}
    (effect : MoveEffect policy library before after)
    (kept : Keyed PaymentEvent.eventId before.store.accepted → Accounted before.store)
    (keyed : Keyed PaymentEvent.eventId after.store.accepted) : Accounted after.store := by
  cases effect with
  | put location version => exact ⟨(kept keyed).sound, (kept keyed).accepted, (kept keyed).deltas⟩
  | arrived event =>
    have earlier := kept (keyed.sublist ((List.sublist_append_left ..).map _))
    refine ⟨earlier.sound, fun row member => ?_, earlier.deltas⟩
    obtain ⟨source, inside, same⟩ := earlier.accepted row member
    exact ⟨source, List.mem_append_left _ inside, same⟩
  | @advanced name outcome execution stage _ _ advanced =>
    obtain ⟨state, retries, _, advance⟩ := advanced_left advanced
    have accepted : after.store.accepted = before.store.accepted := by
      rw [advance.store]
      exact advance.framed.accepted
    rw [accepted] at keyed
    have earlier := kept keyed
    rw [advance.store]
    split
    · refine ⟨run_stage_sound keyed earlier, fun row member => ?_, run_stage_deltas earlier⟩
      obtain ⟨event, inside, same⟩ := run_stage_accepted earlier row member
      have framed := run_stage_framed library stage execution.input before.store
      exact ⟨event, framed.accepted.symm ▸ inside, same⟩
    · exact ⟨earlier.sound, earlier.accepted, earlier.deltas⟩

/-- The tables of a reachable world whose accepted objects are of different events. -/
theorem reaches_accounted (reached : Reaches deployment policy pool)
    (keyed : Keyed PaymentEvent.eventId pool.world.store.accepted) :
    Accounted pool.world.store := by
  refine @reaches_holds deployment policy pool (fun world =>
    Keyed PaymentEvent.eventId world.store.accepted → Accounted world.store) reached ?_ ?_ ?_ keyed
  · exact fun _ => ⟨@sound_unprojected [] List.nodup_nil, fun _ none => absurd none List.not_mem_nil,
      fun _ none => absurd none List.not_mem_nil⟩
  · intro delivery before after _ _ effect kept keyed
    cases effect with
    | none => exact kept keyed
    | copied => exact ⟨(kept keyed).sound, (kept keyed).accepted, (kept keyed).deltas⟩
    | registered => exact ⟨(kept keyed).sound, (kept keyed).accepted, (kept keyed).deltas⟩
    | started => exact ⟨(kept keyed).sound, (kept keyed).accepted, (kept keyed).deltas⟩
  · exact fun before after _ _ effect kept => accounted_move effect kept

/-! ## What the build finds -/

/-- What the data tests of the finance build find. -/
structure FinanceBuild (store : Store) : Prop where
  /-- All tests but one find nothing. -/
  passes : ∀ test : DataTest, test ≠ .ledgerEventCurrencyBalanced →
    test.failures store.warehouse (exceptionDeltas store) = 0
  /-- The last one finds the posted events whose amount is 2^63 modulo 2^64. -/
  unbalanced : DataTest.failures store.warehouse (exceptionDeltas store)
      .ledgerEventCurrencyBalanced =
    (store.accepted.filter fun event => decide (acceptedRow event ∈ store.warehouse.postedEvent ∧
      event.amountMinor % 18446744073709551616 = 9223372036854775808)).length

/-- The negation of a stored amount overflows for one residue only, the least integer of 64
bits. -/
theorem negation_overflows_iff (event : PaymentEvent) : NegationOverflows (acceptedRow event) ↔
    event.amountMinor % 18446744073709551616 = 9223372036854775808 := by
  rw [NegationOverflows]
  simp only [acceptedRow, bigint, Int.bmod_def]
  omega

/-- Posted rows are those of the accepted objects that have them, so they can be counted among the
objects. -/
theorem posted_objects {store : Store} (keyed : Keyed PaymentEvent.eventId store.accepted)
    (accounted : Accounted store) :
    store.warehouse.postedEvent.Perm ((store.accepted.filter fun event =>
      decide (acceptedRow event ∈ store.warehouse.postedEvent)).map acceptedRow) := by
  have rows : Keyed AcceptedEventRow.eventId ((store.accepted.filter fun event =>
      decide (acceptedRow event ∈ store.warehouse.postedEvent)).map acceptedRow) := by
    rw [Keyed, List.map_map]
    exact keyed.sublist (List.filter_sublist.map _)
  refine (List.perm_ext_iff_of_nodup accounted.sound.postedKeyed.of_map rows.of_map).mpr
    fun row => ?_
  constructor
  · intro posted
    obtain ⟨event, inside, rfl⟩ := accounted.accepted row (accounted.sound.posted row posted).1
    exact List.mem_map_of_mem (List.mem_filter.mpr ⟨inside, decide_eq_true posted⟩)
  · intro member
    obtain ⟨event, inside, rfl⟩ := List.mem_map.mp member
    exact of_decide_eq_true (List.mem_filter.mp inside).2

/-- In every reachable world whose accepted objects are of different events, the finance build
finds nothing but posted events whose amount is 2^63 modulo 2^64. -/
theorem finance_build_sound (reached : Reaches deployment policy pool)
    (keyed : Keyed PaymentEvent.eventId pool.world.store.accepted) :
    FinanceBuild pool.world.store := by
  have accounted := reaches_accounted reached keyed
  refine ⟨fun test other => data_tests_pass accounted.sound accounted.deltas other, ?_⟩
  have counted := ((posted_objects keyed accounted).filter fun row =>
    decide (NegationOverflows row)).length_eq
  refine (unbalanced_count accounted.sound).trans (counted.trans ?_)
  rw [List.filter_map, List.length_map, List.filter_filter]
  refine congrArg List.length (List.filter_congr fun event _ => ?_)
  rw [Function.comp_apply, ← Bool.decide_and, decide_eq_decide, negation_overflows_iff, and_comm]

/-- The build of a settled day finds nothing: none of its amounts has an overflowing negation. -/
theorem finance_build_settled_day :
    ∃ pool, Reaches settlementDeployment samplePolicy pool ∧ FinanceBuild pool.world.store := by
  obtain ⟨pool, reached, keyed⟩ := @plays_reaches settlementDeployment samplePolicy _ settledDay
    (fun pool => Keyed PaymentEvent.eventId pool.world.store.accepted) _ (by decide +kernel)
  exact ⟨pool, reached, finance_build_sound reached keyed⟩

/-! ## The daily ledger and the settlement file -/

/-- The settlement group of a row of the daily ledger. -/
def dayKey (day : LedgerDay) : SettlementKey :=
  (some day.businessDate, some day.processorId.1, some day.currency.text)

/-- What the daily ledger has of a settlement group on the account of the processor. -/
def martMinor (warehouse : Warehouse) (key : SettlementKey) : Int :=
  dailyMinor (fun day => decide (dayKey day = key ∧ day.account = receivable)) warehouse

/-- What a settlement file has of a group. -/
def fileMinor (rows : List EvidenceRow) (key : SettlementKey) : Int :=
  balance EvidenceRow.key actualMinor rows key

section Mart

variable {warehouse : Warehouse}

/-- The lines of a monetary event move the account of the processor by what it settles. -/
theorem receivable_lines {row : AcceptedEventRow} (monetary : isMonetary row = true)
    (key : SettlementKey) :
    (if dayKey (debit row).day = key ∧ (debit row).day.account = receivable then
        (debit row).signedMinor else 0) +
      (if dayKey (credit row).day = key ∧ (credit row).day.account = receivable then
        (credit row).signedMinor else 0) =
      if postedKey row = key then settledColumn row else 0 := by
  have keys : dayKey (debit row).day = postedKey row ∧ dayKey (credit row).day = postedKey row :=
    ⟨rfl, rfl⟩
  have accounts : (debit row).day.account = debitAccount row.eventType ∧
      (credit row).day.account = creditAccount row.eventType := ⟨rfl, rfl⟩
  have amounts : (debit row).signedMinor = row.amountMinor ∧
      (credit row).signedMinor = bigint (-row.amountMinor) := ⟨rfl, rfl⟩
  have payable : str "merchant_payable" ≠ str "processor_receivable" := by decide
  have loss : str "chargeback_loss" ≠ str "processor_receivable" := by decide
  have kinds := of_decide_eq_true monetary
  rw [keys.1, keys.2, accounts.1, accounts.2, amounts.1, amounts.2]
  by_cases same : postedKey row = key
  · rcases kinds with kind | kind | kind
    · simp [same, kind, debitAccount, creditAccount, settledColumn, receivable, payable]
    · simp [same, kind, debitAccount, creditAccount, settledColumn, receivable, payable]
    · simp [same, kind, debitAccount, creditAccount, settledColumn, receivable, loss]
  · simp [same]

/-- The daily ledger has what the unexcepted posted events settle, key by key: on the receivable
account a capture counts for its amount, and a reversal against it. -/
theorem mart_settled (sound : Sound warehouse) (key : SettlementKey) :
    martMinor warehouse key =
      balance postedKey settledColumn (unexceptedPosted warehouse) key := by
  have monetary : (unexceptedPosted warehouse).filter isMonetary = unexceptedPosted warehouse :=
    List.filter_eq_self.mpr fun row member =>
      (sound.posted row (mem_left_anti.mp member).1).2
  have lines := (((visible_lines_posted sound).filter fun line =>
    decide (dayKey line.day = key ∧ line.day.account = receivable)).map
      LedgerEntryRow.signedMinor).sum_eq
  have settled : balance postedKey settledColumn (unexceptedPosted warehouse) key =
      selected (fun row => decide (postedKey row = key)) settledColumn
        (unexceptedPosted warehouse) := rfl
  rw [martMinor, daily_minor_lines, selected, lines, ← selected, doubleEntry, monetary,
    selected_append, selected_sum, selected_sum, List.map_map, List.map_map, ← List.sum_map_add,
    settled, selected_sum]
  refine congrArg List.sum (List.map_congr_left fun row member => ?_)
  have inside := (sound.posted row (mem_left_anti.mp member).1).2
  simpa only [Function.comp_apply, decide_eq_true_eq] using receivable_lines inside key

/-- What a date's reconciliation expects of each group is what the daily ledger has. -/
theorem expected_from_mart (sound : Sound warehouse) (date : Date) :
    expectedSettlement warehouse.postedEvent warehouse.businessException (some date) =
      (expectedKeys date (unexceptedPosted warehouse)).map fun key =>
        (key, some (bigint (martMinor warehouse key))) := by
  refine List.map_congr_left fun key listed => ?_
  obtain ⟨dated, named⟩ := mem_expected_keys.mp listed
  have nonempty : group postedKey key (unexceptedPosted warehouse) ≠ [] := by
    obtain ⟨row, member, rfl⟩ := List.mem_map.mp named
    exact List.ne_nil_of_mem (mem_group.mpr ⟨member, rfl⟩)
  show (key, sumOf ((group postedKey key ((unexceptedPosted warehouse).filter
    (touchedOn (some date)))).map fun row => some (settledColumn row))) = _
  rw [group_touched dated, sum_of_all nonempty, mart_settled sound, balance]

/-- The gate of a reconciliation passes exactly when the daily ledger agrees with the file at
every group of the date, to 64 bits. -/
theorem reconciliation_gate_iff (sound : Sound warehouse) {library : Library} {data : Bytes}
    {businessDate : Str} {date : Date} (dated : toDate businessDate = some date)
    (file : DatedFile date (library.readActual data)) (tables : SettlementTables) :
    (reconcileSettlements library warehouse data businessDate tables).2 = .ok () ↔
      ∀ key : SettlementKey, key.1 = some date →
        bigint (martMinor warehouse key) = bigint (fileMinor (library.readActual data) key) := by
  let keys := expectedKeys date (unexceptedPosted warehouse)
  obtain ⟨evidence, merges, _⟩ := @merge_update_ok _ _ _ _ tables.evidence _ file.keyed
  have merged : mergeEvidence tables.evidence (library.readActual data) = some evidence := by
    rw [merge_evidence_complete file.complete, merges]
  have absent {key : SettlementKey} (unlisted : key ∉ keys) (ofDate : key.1 = some date) :
      martMinor warehouse key = 0 := by
    rw [mart_settled sound]
    exact balance_absent fun named => unlisted (mem_expected_keys.mpr ⟨ofDate, named⟩)
  have onDate {key : SettlementKey} (listed : key ∈ joinedKeys keys (library.readActual data)) :
      key.1 = some date := by
    rcases mem_joined_keys.mp listed with left | right
    · exact (mem_expected_keys.mp left).1
    · obtain ⟨row, member, rfl⟩ := List.mem_map.mp right
      exact file.dated row member
  have joined : fullJoin (expectedSettlement warehouse.postedEvent warehouse.businessException
      (some date)) (library.readActual data) =
        (joinedKeys keys (library.readActual data)).map fun key =>
          exceptionRowOf key (some (bigint (martMinor warehouse key)))
            (some (fileMinor (library.readActual data) key)) := by
    rw [expected_from_mart sound]
    refine full_join_keys file.keyed fun key unlisted given => ?_
    obtain ⟨row, member, rfl⟩ := List.mem_map.mp given
    rw [absent unlisted (file.dated row member)]
    rfl
  have gate : (reconcileSettlements library warehouse data businessDate tables).2 = .ok () ↔
      settlementExceptions (expectedSettlement warehouse.postedEvent warehouse.businessException
        (some date)) (library.readActual data) = [] := by
    simp only [reconcileSettlements, merged, dated, require_ok]
  have differs (key : SettlementKey) : (exceptionRowOf key
      (some (bigint (martMinor warehouse key)))
      (some (fileMinor (library.readActual data) key))).deltaMinor = 0 ↔
        bigint (martMinor warehouse key) = bigint (fileMinor (library.readActual data) key) := by
    simp only [exceptionRowOf, Option.getD_some, bigint, Int.bmod_def]
    omega
  rw [gate, settlementExceptions, joined, List.filter_eq_nil_iff]
  constructor
  · intro none key ofDate
    by_cases listed : key ∈ joinedKeys keys (library.readActual data)
    · have clean := none _ (List.mem_map_of_mem listed)
      rw [decide_eq_true_eq, not_not] at clean
      exact (differs key).mp clean
    · rw [mem_joined_keys, not_or] at listed
      rw [absent listed.1 ofDate, fileMinor, balance_absent listed.2]
  · intro agree row member wrong
    obtain ⟨key, listed, rfl⟩ := List.mem_map.mp member
    exact of_decide_eq_true wrong ((differs key).mpr (agree key (onDate listed)))

end Mart

/-! ## Published dates -/

/-- What jobs saw among the accepted objects has only been added to. -/
def AcceptedGrows (world : World) : Prop :=
  ∀ input stage before outcome, .ran input stage before outcome ∈ world.journal →
    before.accepted <+: world.store.accepted

/-- What a job saw among the accepted objects is the beginning of what is accepted in every later
world. -/
theorem accepted_grows (reached : Reaches deployment policy pool) : AcceptedGrows pool.world := by
  apply reaches_holds reached
  · intro _ _ _ _ none
    cases none
  · intro delivery before after _ _ effect grows input stage store outcome ran
    have same : after.store.accepted = before.store.accepted := by
      cases effect <;> rfl
    rw [same]
    exact grows input stage store outcome (call_ran effect ran)
  · intro before after _ _ effect grows input stage store outcome ran
    have further : before.store.accepted <+: after.store.accepted := by
      cases effect with
      | put => exact List.prefix_rfl
      | arrived => exact List.prefix_append ..
      | advanced _ advanced =>
        obtain ⟨base, state, retries, advance⟩ := advanced_leaves advanced
        rw [advance.store]
        exact advance.framed.accepted ▸ List.prefix_rfl
    rcases move_ran effect ran with earlier | ⟨_, _, _, _, _, _, rfl⟩
    · exact (grows input stage store outcome earlier).trans further
    · exact further

/-- Two totals agree in the arithmetic of the job, modulo 2^64, and are equal where both are
within 64 bits. -/
def TotalsAgree (first second : Int) : Prop :=
  bigint first = bigint second ∧ (Int64 first → Int64 second → first = second)

/-- Totals with one residue modulo 2^64 agree: within 64 bits, a total is its own residue. -/
theorem totals_agree {first second : Int} (same : bigint first = bigint second) :
    TotalsAgree first second := by
  refine ⟨same, fun left right => ?_⟩
  rw [← bigint_fits left, same, bigint_fits right]

/-- The execution of a record reconciled the bytes of its digest, and the daily ledger agreed
with them at every group of the date. The ledger sums without a bound; the job compared
bigints. -/
def ReconciledWithMart (library : Library) (world : World) (businessDate : Str)
    (item : Publication) : Prop :=
  ∃ execution ∈ world.store.executions, For execution businessDate item ∧
    ∃ before data, .ran execution.input .reconcileSettlement before .completes ∈ world.journal ∧
      before.verified execution.input.verifiedDataKey = some data ∧
      hex (library.sha256 data) = item.manifestSha256 ∧
      ∀ key : SettlementKey, key.1 = toDate businessDate →
        TotalsAgree (martMinor before.warehouse key) (fileMinor (library.readActual data) key)

/-- A reconciliation that passed found bytes under the verified key, and its gate passed. -/
theorem reconcile_stage_ok {library : Library} {input : WorkflowInput} {store : Store}
    (passed : (runStage library .reconcileSettlement input store).2 = .ok ()) :
    ∃ data, store.verified input.verifiedDataKey = some data ∧
      (reconcileSettlements library store.warehouse data input.businessDate
        store.settlement).2 = .ok () := by
  cases held : store.verified input.verifiedDataKey with
  | none => simp [runStage, reconcileStage, held] at passed
  | some data =>
    simp only [runStage, reconcileStage, held] at passed
    exact ⟨data, rfl, passed⟩

/-- A validation that passed found bytes under the verified key that pass, against some manifest
under its key. -/
theorem validate_stage_ok {library : Library} {input : WorkflowInput} {store : Store}
    (passed : (runStage library .validateSettlementManifest input store).2 = .ok ()) :
    ∃ manifest data, store.verified input.verifiedDataKey = some data ∧
      validateSettlementManifest library manifest data input.businessDate = .ok () := by
  have validates : validateStage library input store = .ok () := passed
  obtain ⟨manifest, _, rest⟩ := bind_ok.mp validates
  obtain ⟨data, read, checked⟩ := bind_ok.mp rest
  refine ⟨manifest, data, ?_, checked⟩
  cases held : store.verified input.verifiedDataKey with
  | none =>
    rw [held] at read
    cases read
  | some bytes =>
    rw [held] at read
    exact congrArg some (Except.ok.inj read)

/-- A date of the calendar is published only where the daily ledger, as its execution reconciled
it, agreed with the verified file of its record at every group of the date: modulo 2^64, and
exactly where both totals are within 64 bits.

The accepted objects are of pairwise different events, and the reader of the job reads the
verified files as the rows that the validation passed. -/
theorem published_with_mart (free : deployment.library.CollisionFree policy.offered)
    (reached : Reaches deployment policy pool)
    (keyed : Keyed PaymentEvent.eventId pool.world.store.accepted)
    (agreed : ∀ key data, pool.world.store.verified key = some data →
      ReadersAgree deployment.library data) {businessDate : Str} {date : Date}
    (dated : toDate businessDate = some date) {item : Publication}
    (held : pool.world.store.publications businessDate = some item)
    (status : item.status = .reconciled) :
    ReconciledWithMart deployment.library pool.world businessDate item := by
  have consistent := reaches_consistent reached
  have kept := verified_kept free reached
  obtain ⟨execution, member, sameDate, revision, sha256, completed⟩ :=
    consistent.gated.reconciled businessDate item held status
  obtain ⟨before, ran, passed⟩ := completed .reconcileSettlement (by decide)
  obtain ⟨data, found, gate⟩ := reconcile_stage_ok passed
  obtain ⟨earlier, ranEarlier, valid⟩ := completed .validateSettlementManifest (by decide)
  obtain ⟨manifest, seen, foundEarlier, checked⟩ := validate_stage_ok valid
  have stored := kept _ _ _ _ ran _ _ found
  have same : seen = data :=
    Option.some.inj ((kept _ _ _ _ ranEarlier _ _ foundEarlier).symm.trans stored)
  subst same
  subst sameDate
  obtain ⟨delivery, started⟩ := consistent.executions.started execution member
  obtain ⟨bytes, verified⟩ := founded_verified free
    (consistent.executions.founded _ _ _ started) consistent.registered
  have isBytes : bytes = seen := Option.some.inj (verified.held.symm.trans stored)
  have digest := verified.digest
  rw [isBytes] at digest
  have readers : deployment.library.readActual seen = fileRows deployment.library seen :=
    agreed _ _ stored
  have sound : Sound before.warehouse := by
    obtain ⟨later, rest, split⟩ := List.append_of_mem ran
    have saw := @jobs_saw deployment policy pool (fun world =>
      Keyed PaymentEvent.eventId world.store.accepted → Accounted world.store)
      (fun pool reached => reaches_accounted reached) reached _ _ _ _ _ _ split
    exact (saw (keyed.sublist ((accepted_grows reached _ _ _ _ ran).sublist.map _))).sound
  have file : DatedFile date (deployment.library.readActual seen) :=
    readers ▸ passes_dated dated checked
  refine ⟨execution, member, ⟨rfl, revision, sha256⟩, before, seen, ran, found,
    digest.symm.trans sha256, fun key ofDate => ?_⟩
  exact totals_agree
    ((reconciliation_gate_iff sound dated file _).mp gate key (ofDate.trans dated))

/-- The settled day was published with the daily ledger. -/
theorem published_with_mart_settled_day : ∃ pool item,
    Reaches settlementDeployment samplePolicy pool ∧
      pool.world.store.publications settledDate.text = some item ∧
      ReconciledWithMart settlementLibrary pool.world settledDate.text item := by
  obtain ⟨pool, reached, keyed, published⟩ := @plays_reaches settlementDeployment samplePolicy _
    settledDay (fun pool => Keyed PaymentEvent.eventId pool.world.store.accepted ∧
      (pool.world.store.publications settledDate.text).map Publication.status =
        some .reconciled) _ (by decide +kernel)
  obtain ⟨item, held, status⟩ := Option.map_eq_some_iff.mp published
  have dated : toDate settledDate.text = some settledDate := by decide +kernel
  have readers : ∀ data, ReadersAgree settlementLibrary data := fun _ => rfl
  exact ⟨pool, item, reached, held, published_with_mart settlement_collision_free reached keyed
    (fun _ data _ => readers data) dated held status⟩

/-! ## The sensor of the daily build -/

/-- `active_revision_is_reconciled` -/
def activeRevisionIsReconciled (store : Store) (businessDate : Str) : Bool :=
  match store.publications businessDate with
  | none => false
  | some item => decide (item.status = .reconciled)

/-- The date has this record, or one of a higher revision. -/
def AtLeast (businessDate : Str) (item : Publication) (world : World) : Prop :=
  world.store.publications businessDate = some item ∨
    ∃ newer, world.store.publications businessDate = some newer ∧ item.revision < newer.revision

/-- A call of the loader takes no record of a date back: it writes one of a higher revision at
most. -/
theorem at_least_call {delivery : Delivery} {before after : World}
    (effect : CallEffect delivery before after) {businessDate : Str} {item : Publication}
    (held : AtLeast businessDate item before) : AtLeast businessDate item after := by
  cases effect with
  | none => exact held
  | copied => exact held
  | started => exact held
  | registered registeredDate revision sha256 key newer =>
    by_cases same : businessDate = registeredDate
    · subst same
      refine .inr ⟨_, publish_same .., ?_⟩
      rcases held with current | ⟨later, current, higher⟩
      · exact newer _ current
      · exact higher.trans (newer _ current)
    · rw [AtLeast, publish_other _ _ same]
      exact held

/-- An execution publishes a record that it finds, so a reconciled one stays as it is. -/
theorem at_least_move {library : Library} {before after : World}
    (effect : MoveEffect policy library before after) {businessDate : Str} {item : Publication}
    (status : item.status = .reconciled) (held : AtLeast businessDate item before) :
    AtLeast businessDate item after := by
  cases effect with
  | put => exact held
  | arrived => exact held
  | advanced _ advanced =>
    obtain ⟨base, state, retries, advance⟩ := advanced_leaves advanced
    have records := advance.framed.records businessDate
    have left : after.store.publications = base.publications := by rw [advance.store]; rfl
    rw [AtLeast, left]
    rcases records with kept | ⟨_, _, found, current, _, _, written⟩
    · rw [kept]
      exact held
    · rcases held with same | ⟨newer, same, higher⟩
      · have equal : found = item := Option.some.inj (current.symm.trans same)
        subst equal
        refine .inl (written.trans (congrArg some ?_))
        rw [← status]
      · have equal : found = newer := Option.some.inj (current.symm.trans same)
        subst equal
        exact .inr ⟨_, written, higher⟩

/-- Once the sensor of a date has seen a record, it sees that record ever after, until a higher
revision is registered. -/
theorem open_gate_stays {first last : SettlementPool} (run : Continues deployment policy first last)
    {businessDate : Str} (active : activeRevisionIsReconciled first.world.store businessDate = true) :
    ∃ item, first.world.store.publications businessDate = some item ∧
      (last.world.store.publications businessDate = some item ∧
          activeRevisionIsReconciled last.world.store businessDate = true ∨
        ∃ newer, last.world.store.publications businessDate = some newer ∧
          item.revision < newer.revision) := by
  unfold activeRevisionIsReconciled at active
  cases held : first.world.store.publications businessDate with
  | none =>
    rw [held] at active
    cases active
  | some item =>
    rw [held] at active
    have status : item.status = .reconciled := of_decide_eq_true active
    refine ⟨item, rfl, ?_⟩
    have initially : AtLeast businessDate item first.world := .inl held
    have least : AtLeast businessDate item last.world := by
      apply Pool.runs_hold run initially
      · exact fun _ _ _ _ _ before answered => at_least_call (call_effect answered) before
      · rintro _ _ before ⟨move, allowed, moved⟩
        exact at_least_move (move_effect allowed moved) status before
    rcases least with same | higher
    · refine .inl ⟨same, ?_⟩
      rw [activeRevisionIsReconciled, same]
      exact active
    · exact .inr higher

/-- A second revision of the settled file is delivered and settled. -/
def correctedDay : List Happening :=
  putBoth correctedManifest (str "v2") ++ [.invoke (sampleDelivery correctedManifest)] ++
    completing correctedManifest 8

/-- A settled day whose file is then corrected: the sensor saw the first revision, and sees the
second one now. -/
theorem open_gate_settled_day : ∃ first last item,
    Continues settlementDeployment samplePolicy first last ∧
      first.world.store.publications settledDate.text = some item ∧
      item.revision = 1 ∧
      (last.world.store.publications settledDate.text).map Publication.revision = some 2 ∧
      activeRevisionIsReconciled last.world.store settledDate.text = true ∧
      (last.world.store.publications settledDate.text = some item ∧
          activeRevisionIsReconciled last.world.store settledDate.text = true ∨
        ∃ newer, last.world.store.publications settledDate.text = some newer ∧
          item.revision < newer.revision) := by
  obtain ⟨first, last, _, corrected, ⟨active, revision⟩, newRevision, activeStill⟩ :=
    @plays_go_on settlementDeployment samplePolicy _ settledDay correctedDay
      (fun pool => activeRevisionIsReconciled pool.world.store settledDate.text = true ∧
        (pool.world.store.publications settledDate.text).map Publication.revision = some 1)
      (fun pool =>
        (pool.world.store.publications settledDate.text).map Publication.revision = some 2 ∧
        activeRevisionIsReconciled pool.world.store settledDate.text = true) _ _
      (by decide +kernel)
  obtain ⟨item, held, after⟩ := open_gate_stays corrected active
  rw [held] at revision
  exact ⟨first, last, item, corrected, held, Option.some.inj revision, newRevision, activeStill,
    after⟩

end LedgerFlow.Settlement
