import LedgerFlow.Evidence.Laboratory
import LedgerFlow.Simulator.Sizes

/-!
# The settlement checks of the laboratory

A settlement that claims, for every key, some amount of its own is reconciled with the posted
events key by key. The expected settlement claims what is due and passes. With 101 minor units
less for its first key it leaves one exception of that magnitude, and the expected settlement
passes again.
-/

namespace LedgerFlow.Evidence

open PyText Grouping Programs Accounts Simulator

/-! ## Bounded amounts -/

/-- Running sums of bounded values stay within the bound of all of them. -/
theorem running_fits_bounded {total : Int} {values : List Int} {most : Nat}
    (small : ∀ value ∈ values, value.natAbs ≤ most)
    (room : total.natAbs + values.length * most < 2 ^ 63) : RunningFits total values := by
  induction values generalizing total with
  | nil => trivial
  | cons value rest inductionHypothesis =>
    obtain ⟨first, others⟩ := List.forall_mem_cons.mp small
    rw [List.length_cons, Nat.add_mul] at room
    refine ⟨?_, inductionHypothesis others (by omega)⟩
    unfold Int64
    omega

/-- The posted events of a batch: their number and their amounts are those of a generated batch. -/
structure BoundedPosted (posted : List PostedRow) : Prop where
  few : posted.length ≤ 3 * 10 ^ 12
  amounts : ∀ row ∈ posted, (settledAmount row).natAbs ≤ 500001

section Bounded

variable {posted : List PostedRow}

/-- Within one settlement key, too, the amounts are small and few, as the rows of a key are some
of all rows. -/
theorem BoundedPosted.group_amounts (bounded : BoundedPosted posted) (key : SettlementKey) :
    (∀ value ∈ (group settlementKey key posted).map settledAmount, value.natAbs ≤ 500001) ∧
      ((group settlementKey key posted).map settledAmount).length ≤ 3 * 10 ^ 12 := by
  constructor
  · intro value listed
    obtain ⟨row, member, rfl⟩ := List.mem_map.mp listed
    exact bounded.amounts row (mem_group.mp member).1
  · rw [List.length_map]
    exact (List.length_filter_le _ posted).trans bounded.few

/-- The running sums of a settlement key stay within 64 bits: half a million times three trillion
is below 2^63. -/
theorem BoundedPosted.sums (bounded : BoundedPosted posted) (key : SettlementKey) :
    RunningFits 0 ((group settlementKey key posted).map settledAmount) := by
  obtain ⟨small, few⟩ := bounded.group_amounts key
  exact running_fits_bounded small (by omega)

/-- No amount due is near the limit of 64 bits, being a sum of few small amounts. -/
theorem BoundedPosted.due_bound (bounded : BoundedPosted posted) (key : SettlementKey) :
    (due posted key).natAbs ≤ 2 ^ 62 := by
  obtain ⟨small, few⟩ := bounded.group_amounts key
  have total := sum_bound small
  rw [due, balance]
  omega

end Bounded

/-! ## Claimed settlements -/

/-- The rows that claim an amount for each key of the posted events. -/
def claimedRows (posted : List PostedRow) (claim : SettlementKey → Int) : List SettlementRow :=
  (settlementKeys (posted.map settlementKey)).map fun key => actualRow (key, claim key)

section Claimed

variable {posted : List PostedRow} {claim : SettlementKey → Int}

/-- Each key of the posted events is claimed once, since the list of keys repeats none. -/
theorem claimed_rows_keyed : Keyed SettlementRow.key (claimedRows posted claim) := by
  have keys : (claimedRows posted claim).map SettlementRow.key =
      settlementKeys (posted.map settlementKey) := by
    rw [claimedRows, List.map_map]
    exact List.map_id _
  rw [Keyed, keys]
  exact settlement_keys_nodup _

/-- The texts of the claimed keys are identifiers, dates and currencies, which SQLite can
store. -/
theorem claimed_rows_encodable : ∀ row ∈ claimedRows posted claim, EncodableKey row.key := by
  intro row member
  obtain ⟨key, listed, rfl⟩ := List.mem_map.mp member
  rw [settlementKeys, List.mem_insertionSort, List.mem_dedup] at listed
  obtain ⟨event, _, rfl⟩ := List.mem_map.mp listed
  exact settlement_key_encodable event

/-- The claimed rows report what they claim, and nothing for other keys. -/
theorem claimed_rows_reported (key : SettlementKey) : reported (claimedRows posted claim) key =
    if key ∈ settlementKeys (posted.map settlementKey) then claim key else 0 := by
  split
  · next listed =>
    have member : actualRow (key, claim key) ∈ claimedRows posted claim :=
      List.mem_map_of_mem listed
    exact balance_row claimed_rows_keyed member
  · next missing =>
    refine balance_absent fun taken => missing ?_
    obtain ⟨row, member, rfl⟩ := List.mem_map.mp taken
    obtain ⟨key, listed, rfl⟩ := List.mem_map.mp member
    exact listed

/-- Nothing is due for a key that no posted event has. -/
theorem due_unlisted {key : SettlementKey} (missing : key ∉ settlementKeys (posted.map settlementKey)) :
    due posted key = 0 := by
  rw [settlementKeys, List.mem_insertionSort, List.mem_dedup] at missing
  exact balance_absent missing

/-- Claims that are at most 101 minor units off, for one key, fit. -/
theorem claimed_rows_within (bounded : BoundedPosted posted) {entries : List (Difference SettlementKey)}
    (near : ∀ key, due posted key - 101 ≤ claim key ∧ claim key ≤ due posted key)
    (reconciles : Reconciles (due posted) (reported (claimedRows posted claim)) entries)
    (single : entries.length ≤ 1) : SettlementWithin posted (claimedRows posted claim) := by
  have close (key : SettlementKey) : 0 ≤ due posted key - reported (claimedRows posted claim) key ∧
      due posted key - reported (claimedRows posted claim) key ≤ 101 := by
    rw [claimed_rows_reported]
    split
    · have bounds := near key
      omega
    · next missing =>
      rw [due_unlisted missing]
      decide
  constructor
  · exact bounded.sums
  · intro row member
    obtain ⟨key, _, rfl⟩ := List.mem_map.mp member
    have bounds := near key
    have most := bounded.due_bound key
    show Int64 (claim key)
    unfold Int64
    omega
  · intro key
    have bounds := close key
    unfold Int64
    omega
  · intro others same
    rw [((same.perm reconciles).map _).sum_eq]
    have small : ∀ value ∈ entries.map fun difference => (difference.delta.natAbs : Int),
        value.natAbs ≤ 101 := by
      intro value listed
      obtain ⟨difference, member, rfl⟩ := List.mem_map.mp listed
      obtain ⟨left, right, delta, _⟩ := (reconciles.exact difference).mp member
      have bounds := close difference.key
      show ((difference.delta.natAbs : Int)).natAbs ≤ 101
      omega
    have total := sum_bound small
    rw [List.length_map] at total
    unfold Int64
    omega

end Claimed

/-! ## Calls of the laboratory -/

section Calls

variable {rules : Option PostingRules} {store after : Database}
  {rows : List (SettlementKey × Int)} {result : Reconciliation}

/-- A reconciliation leaves a reachable store, and changes the settlement tables only. -/
theorem reconciled_keeps (reachable : Reachable store rules)
    (returned : reconciled rows store = .ok (result, after)) :
    Reachable after rules ∧ after.core = store.core := by
  have run := eval_undisturbed (reconcileSettlement ((rows.map actualRow).map .ok)) store.opened
  obtain ⟨ended, evaluated, rfl⟩ := on_store_ok.mp returned
  rw [evaluated] at run
  exact ⟨.reconcile _ reachable run, reconcile_core run⟩

/-- Rows with distinct keys that can be stored, and whose numbers fit, are reconciled without an
error. -/
theorem reconciled_ok (keyed : Keyed SettlementRow.key (rows.map actualRow))
    (encodable : ∀ row ∈ rows.map actualRow, EncodableKey row.key)
    (fits : SettlementWithin store.tables.postedEvent (rows.map actualRow)) :
    ∃ after, reconciled rows store = .ok (reconciliationOf
      (settledDifferences store.tables.postedEvent (rows.map actualRow)), after) :=
  ⟨_, on_store_ok.mpr ⟨_, reconcile_settlement_ok keyed encodable fits, rfl⟩⟩

end Calls

/-- The expected settlement, as it is listed. -/
def expectedRows (posted : List PostedRow) : List (SettlementKey × Int) :=
  (settlementKeys (posted.map settlementKey)).map fun key => (key, due posted key)

/-- The expected settlement claims, for each key, exactly what is due. -/
theorem expected_rows_claimed (posted : List PostedRow) :
    (expectedRows posted).map actualRow = claimedRows posted (due posted) := List.map_map ..

/-- A claim with 101 minor units less for one key. -/
def lessAt (key : SettlementKey) (claim : SettlementKey → Int) (other : SettlementKey) : Int :=
  if other = key then claim other - 101 else claim other

/-- The mismatch claims 101 minor units less than what is due for its first key, and what is due
for every other. -/
theorem mismatched_claimed {posted : List PostedRow} {key : SettlementKey}
    {rest : List SettlementKey} (keys : settlementKeys (posted.map settlementKey) = key :: rest) :
    (mismatched (expectedRows posted)).map actualRow =
      claimedRows posted (lessAt key (due posted)) := by
  have unique := settlement_keys_nodup (posted.map settlementKey)
  rw [keys] at unique
  have apart := (List.nodup_cons.mp unique).1
  rw [expectedRows, claimedRows, keys, List.map_cons, mismatched, List.map_cons, List.map_cons,
    List.map_map]
  refine congrArg₂ _ ?_ (List.map_congr_left fun other listed => ?_)
  · rw [lessAt, if_pos rfl]
  · have differ : other ≠ key := fun same => apart (same ▸ listed)
    rw [lessAt, if_neg differ]
    rfl

/-- The checks come out as they should. -/
structure SettlementChecks.Pass (checks : SettlementChecks) : Prop where
  matched : checks.pass.settlementReconciled = true
  blocked : checks.fail.settlementReconciled = false
  magnitude : checks.fail.settlementAbsoluteDeltaMinor = 101
  recovered : checks.restored.settlementReconciled = true

section Checks

variable {store : Database} (bounded : BoundedPosted store.tables.postedEvent)

include bounded

/-- The expected settlement is reconciled: the call returns, and it reports no difference. -/
theorem expected_reconciled : ∃ result after,
    reconciled (expectedRows store.tables.postedEvent) store = .ok (result, after) ∧
      result.settlementReconciled = true := by
  have agree : ∀ key, due store.tables.postedEvent key =
      reported (claimedRows store.tables.postedEvent (due store.tables.postedEvent)) key := by
    intro key
    rw [claimed_rows_reported]
    split
    · rfl
    · next missing => exact due_unlisted missing
  have none : Reconciles (due store.tables.postedEvent)
      (reported (claimedRows store.tables.postedEvent (due store.tables.postedEvent)))
      (settledDifferences store.tables.postedEvent
        (claimedRows store.tables.postedEvent (due store.tables.postedEvent))) := settled_reconciles
  have empty := none.nil_iff.mpr agree
  have fits := claimed_rows_within bounded (fun key => ⟨by omega, le_refl _⟩) none
    (by rw [empty]; exact Nat.zero_le _)
  rw [← expected_rows_claimed] at fits empty
  obtain ⟨after, returned⟩ := reconciled_ok
    (expected_rows_claimed _ ▸ claimed_rows_keyed) (expected_rows_claimed _ ▸ claimed_rows_encodable)
    fits
  refine ⟨_, after, returned, ?_⟩
  rw [empty]
  rfl

/-- The mismatch is not reconciled: the call returns and reports an absolute difference of 101
minor units. A posted event is needed, or there would be no first key. -/
theorem mismatched_reconciled (some : store.tables.postedEvent ≠ []) : ∃ result after,
    reconciled (mismatched (expectedRows store.tables.postedEvent)) store = .ok (result, after) ∧
      result.settlementReconciled = false ∧ result.settlementAbsoluteDeltaMinor = 101 := by
  cases keys : settlementKeys (store.tables.postedEvent.map settlementKey) with
  | nil =>
    obtain ⟨row, member⟩ := List.exists_mem_of_ne_nil _ some
    have listed : settlementKey row ∈ settlementKeys (store.tables.postedEvent.map settlementKey) := by
      rw [settlementKeys, List.mem_insertionSort, List.mem_dedup]
      exact List.mem_map_of_mem member
    rw [keys] at listed
    cases listed
  | cons key rest =>
    have rows := mismatched_claimed keys
    have listed : key ∈ settlementKeys (store.tables.postedEvent.map settlementKey) :=
      keys ▸ List.mem_cons_self
    have less : reported (claimedRows store.tables.postedEvent
        (lessAt key (due store.tables.postedEvent))) key =
          due store.tables.postedEvent key - 101 := by
      rw [claimed_rows_reported, if_pos listed, lessAt, if_pos rfl]
    have single : Reconciles (due store.tables.postedEvent)
        (reported (claimedRows store.tables.postedEvent
          (lessAt key (due store.tables.postedEvent))))
        [differenceAt (due store.tables.postedEvent) (reported (claimedRows store.tables.postedEvent
          (lessAt key (due store.tables.postedEvent)))) key] := by
      refine reconciles_single (by omega) fun other differ => ?_
      rw [claimed_rows_reported, lessAt, if_neg differ]
      split
      · rfl
      · next missing => exact due_unlisted missing
    have fits := claimed_rows_within bounded (fun other => by unfold lessAt; split <;> omega)
      single (le_refl 1)
    have left := List.perm_singleton.mp ((@settled_reconciles store.tables.postedEvent
      (claimedRows store.tables.postedEvent (lessAt key (due store.tables.postedEvent)))).perm
        single)
    rw [← rows] at fits left
    obtain ⟨after, returned⟩ := reconciled_ok (rows ▸ claimed_rows_keyed)
      (rows ▸ claimed_rows_encodable) fits
    refine ⟨_, after, returned, ?_⟩
    rw [left, rows]
    refine ⟨rfl, ?_⟩
    simp only [reconciliationOf, List.map_singleton, List.sum_singleton, differenceAt, less]
    omega

omit bounded in
/-- Reconciliations leave the posted events, which are among the core tables that they do not
write. -/
theorem core_posted {first second : Database} (same : second.core = first.core) :
    second.tables.postedEvent = first.tables.postedEvent :=
  congrArg (fun core => core.tables.postedEvent) same

/-- The checks of a reachable store of bounded posted events pass, and leave its other tables. -/
theorem check_settlement_passes {rules : Option PostingRules} (reachable : Reachable store rules)
    (some : store.tables.postedEvent ≠ []) : ∃ checks, checkSettlement store = .ok checks ∧
      checks.Pass ∧ Reachable checks.store rules ∧ checks.store.core = store.core := by
  have expected : (expectedSettlement.run.eval perform store.opened).1 =
      .ok (expectedRows store.tables.postedEvent) := expected_settlement_sums bounded.sums
  obtain ⟨pass, second, passes, passed⟩ := expected_reconciled bounded
  obtain ⟨reachedSecond, sameSecond⟩ := reconciled_keeps reachable passes
  have postedSecond := core_posted sameSecond
  obtain ⟨fail, third, fails, failed⟩ :=
    @mismatched_reconciled second (postedSecond ▸ bounded) (postedSecond ▸ some)
  obtain ⟨reachedThird, sameThird⟩ := reconciled_keeps reachedSecond fails
  have postedThird := core_posted sameThird
  obtain ⟨restored, last, restores, restoring⟩ :=
    @expected_reconciled third (postedThird ▸ postedSecond ▸ bounded)
  obtain ⟨reachedLast, sameLast⟩ := reconciled_keeps reachedThird restores
  rw [postedThird, postedSecond] at restores
  rw [postedSecond] at fails
  refine ⟨⟨(expectedRows store.tables.postedEvent).length, pass, fail, restored, last⟩, ?_,
    ⟨passed, failed.1, failed.2, restoring⟩, reachedLast, sameLast.trans (sameThird.trans sameSecond)⟩
  refine bind_ok.mpr ⟨_, congrArg ofPy expected, bind_ok.mpr ⟨_, passes, ?_⟩⟩
  exact bind_ok.mpr ⟨_, fails, bind_ok.mpr ⟨_, restores, rfl⟩⟩

end Checks

end LedgerFlow.Evidence
