import LedgerFlow.Settlement.Plays

/-!
# Control totals and the registered manifest

The loader reads a manifest once and registers its revision; the validation job reads
the manifest's key again, and takes what is there by then. `TotalsRegistered` asks that
validation passes only if the verified data matches the manifest that was registered. It
fails where the manifest was put again in between, and it holds of every run in which
each validation still finds the registered manifest.
-/

namespace LedgerFlow.Settlement

open PyText PyJson PyBytes PyDateTime Programs Revisions Grouping Dataframe

/-! ## What a manifest states of data -/

/-- The exact total of a currency. -/
def exactTotal (currency : Option Str) (records : List SettlementRecord) : Int :=
  ((group SettlementRecord.currency currency records).map fun record =>
    record.amountMinor.getD 0).sum

/-- Whether the entries state the exact total of this record's currency. -/
def totalStated (library : Library) (totals : Fields) (records : List SettlementRecord)
    (record : SettlementRecord) : Bool :=
  match record.currency with
  | none => false
  | some currency =>
      match PyJson.get totals currency with
      | none => false
      | some value => equalsInt library.floatEquals (exactTotal (some currency) records) value

/-- Whether a manifest states the number of records of the data and the exact total of each
of its currencies, and of no more. -/
def controlsStated (library : Library) (manifest data : Bytes) : Bool :=
  match library.readManifest manifest with
  | none => false
  | some fields =>
      match PyJson.get fields (str "record_count"),
          PyJson.get fields (str "raw_control_totals_minor") with
      | some recordCount, some (.obj totals) =>
          equalsInt library.floatEquals (library.readRecords data).length recordCount &&
          decide (totals.length =
            (keysOf SettlementRecord.currency (library.readRecords data)).length) &&
          (library.readRecords data).all
            (totalStated library totals (library.readRecords data))
      | _, _ => false

/-- The total of every currency fits a 64-bit column. -/
def TotalsFit (records : List SettlementRecord) : Prop :=
  ∀ record ∈ records, -9223372036854775808 ≤ exactTotal record.currency records ∧
    exactTotal record.currency records < 9223372036854775808

/-- The column sum of complete amounts is the exact total, wrapped to 64 bits. -/
theorem sum_wrapped {records : List SettlementRecord} {record : SettlementRecord}
    (counted : ∀ other ∈ records, ∃ amount, other.amountMinor = some amount)
    (member : record ∈ records) :
    sumOf (currencyAmounts record.currency records) =
      some (bigint (exactTotal record.currency records)) := by
  have complete : currencyAmounts record.currency records =
      (group SettlementRecord.currency record.currency records).map fun other =>
        some (other.amountMinor.getD 0) := by
    apply List.map_congr_left
    intro other inside
    obtain ⟨amount, held⟩ := counted other (mem_group.mp inside).1
    rw [held]
    rfl
  have nonempty : group SettlementRecord.currency record.currency records ≠ [] :=
    List.ne_nil_of_mem (mem_group.mpr ⟨member, rfl⟩)
  rw [complete, sum_of_all nonempty]
  rfl

/-- The column sum of complete amounts that fit is the exact total; the fit is asked of the total,
and not of the partial sums. -/
theorem sum_exact {records : List SettlementRecord} {record : SettlementRecord}
    (counted : ∀ other ∈ records, ∃ amount, other.amountMinor = some amount)
    (member : record ∈ records) (fits : TotalsFit records) :
    sumOf (currencyAmounts record.currency records) =
      some (exactTotal record.currency records) := by
  obtain ⟨low, high⟩ := fits record member
  rw [sum_wrapped counted member, bigint_of_fits low high]

/-- Data that passes validation against a manifest is what the manifest states: its number of
records, its digest and its totals. -/
theorem validated_stated {library : Library} {manifest data : Bytes} {businessDate : Str}
    (validated : Validated library manifest data businessDate)
    (fits : TotalsFit (library.readRecords data)) :
    controlsStated library manifest data = true := by
  obtain ⟨fields, recordCount, controlTotals, read, counted, equal, totalled, agree⟩ :=
    validated.stated
  have amounts : ∀ record ∈ library.readRecords data,
      ∃ amount, record.amountMinor = some amount :=
    fun record member => (valid_record (validated.valid record member)).counted
  simp only [controlsStated, read, counted, totalled]
  match controlTotals, agree with
  | .obj totals, agree =>
    simp only [equalsObject, Bool.and_eq_true, decide_eq_true_eq, List.all_eq_true] at agree
    obtain ⟨lengths, listed⟩ := agree
    simp only [Bool.and_eq_true, decide_eq_true_eq, List.all_eq_true]
    refine ⟨⟨equal, ?_⟩, fun record member => ?_⟩
    · rw [← lengths, currencyTotals, List.length_map]
    · have entry : (record.currency, sumOf (currencyAmounts record.currency
          (library.readRecords data))) ∈ currencyTotals (library.readRecords data) :=
        List.mem_map.mpr ⟨record.currency,
          List.mem_dedup.mpr (List.mem_map_of_mem member), rfl⟩
      have found := listed _ entry
      rw [sum_exact amounts member fits] at found
      unfold totalStated
      cases named : record.currency with
      | none => simp [totalListed, named] at found
      | some currency =>
        simp only [totalListed, named] at found
        cases value : PyJson.get totals currency with
        | none => simp [value] at found
        | some number => simpa [value, equalsTotal] using found

/-! ## Validations of a run -/

/-- The registration is of the revision and the digest of this input. -/
def Registration.Of (registration : Registration) (input : WorkflowInput) : Prop :=
  registration.businessDate = input.businessDate ∧ registration.revision = input.revision ∧
    registration.sha256 = input.sha256

instance (registration : Registration) (input : WorkflowInput) :
    Decidable (registration.Of input) := inferInstanceAs (Decidable (_ ∧ _ ∧ _))

/-- If the entry is a validation that passed, the verified data is what the manifest of the
registration states. -/
def totalsChecked (library : Library) (journal : List Entry) : Entry → Prop
  | .ran input stage before outcome =>
      stage = .validateSettlementManifest → outcome = .completes →
        validateStage library input before = .ok () →
          ∃ data ∈ before.verified input.verifiedDataKey,
            ∀ registration ∈ registrations journal, registration.Of input →
              controlsStated library registration.delivery.manifest data = true
  | _ => True

/-- Validation passes only for data that matches the registered manifest. -/
def TotalsRegistered (library : Library) (world : World) : Prop :=
  ∀ entry ∈ world.journal, totalsChecked library world.journal entry

/-- The newest version at the manifest's key is the registered one, and the totals of the
verified data fit. -/
def ManifestKept (library : Library) (world : World) (input : WorkflowInput) : Prop :=
  (∀ registration ∈ registrations world.journal, registration.Of input →
    world.store.latest input.manifest = some registration.delivery.manifest) ∧
  ∀ data ∈ world.store.verified input.verifiedDataKey, TotalsFit (library.readRecords data)

/-- A validation runs only while the registered manifest is in place. -/
def ValidatesRegistered (library : Library) (world : World) : Move → Prop
  | .advance name outcome =>
      ∀ execution ∈ world.store.execution name,
        execution.state = .running .validateSettlementManifest → outcome.performs = true →
          ManifestKept library world execution.input
  | _ => True

/-! ## Runs -/

section Running

variable {deployment : Deployment} {policy : Policy} {pool : SettlementPool}

/-- A validation that passed found data that some registration of its input states. -/
def PassedStated (library : Library) (world : World) : Prop :=
  ∀ input before, .ran input .validateSettlementManifest before .completes ∈ world.journal →
    validateStage library input before = .ok () →
      ∃ data, before.verified input.verifiedDataKey = some data ∧
        ∃ registration ∈ registrations world.journal, registration.Of input ∧
          controlsStated library registration.delivery.manifest data = true

/-- Validation with the registered manifest in place compares the verified bytes with what was
registered. -/
theorem validate_kept {library : Library} {world : World} {input : WorkflowInput}
    (kept : ManifestKept library world input)
    (registered : RegisteredAs input.businessDate input.revision input.sha256 world)
    (passed : validateStage library input world.store = .ok ()) :
    ∃ data, world.store.verified input.verifiedDataKey = some data ∧
      ∃ registration ∈ registrations world.journal, registration.Of input ∧
        controlsStated library registration.delivery.manifest data = true := by
  obtain ⟨registration, member, same⟩ := registered
  obtain ⟨latest, fits⟩ := kept
  have manifest := latest registration member same
  simp only [validateStage, manifest, readPath] at passed
  cases held : world.store.verified input.verifiedDataKey with
  | none =>
    rw [held] at passed
    cases passed
  | some data =>
    rw [held] at passed
    exact ⟨data, rfl, registration, member, same,
      validated_stated (validate_ok library passed) (fits data held)⟩

/-- Validations that find the registered manifest pass only for what it states, in every run in
which each of them finds it. -/
theorem passed_stated (careful : ∀ world move, policy.permits world move →
      ValidatesRegistered deployment.library world move)
    (reached : Reaches deployment policy pool) : PassedStated deployment.library pool.world := by
  apply reaches_holds reached
  · intro _ _ none
    cases none
  · intro delivery before after _ _ effect holds input store ran passed
    obtain ⟨data, held, registration, member, stated⟩ :=
      holds input store (call_ran effect ran) passed
    exact ⟨data, held, registration,
      (registrations_suffix (call_journal effect)).subset member, stated⟩
  · intro before after consistent _ effect holds input store ran passed
    have found : ∃ data, store.verified input.verifiedDataKey = some data ∧
        ∃ registration ∈ registrations before.journal, registration.Of input ∧
          controlsStated deployment.library registration.delivery.manifest data = true := by
      rcases move_ran effect ran with earlier | ⟨name, execution, permitted, advanced, performs,
        rfl, rfl⟩
      · exact holds input store earlier passed
      · obtain ⟨inside, _⟩ := execution_found advanced.found
        obtain ⟨delivery, started⟩ := consistent.executions.started execution inside
        have kept := careful _ _ permitted execution advanced.found advanced.running performs
        exact validate_kept kept
          (consistent.executions.founded _ _ _ started).registered passed
    obtain ⟨data, held, registration, member, stated⟩ := found
    exact ⟨data, held, registration,
      (registrations_suffix (move_journal effect)).subset member, stated⟩

/-- In every run whose validations find the registered manifest, validation passes only
for data that matches it. -/
theorem totals_registered (careful : ∀ world move, policy.permits world move →
      ValidatesRegistered deployment.library world move)
    (reached : Reaches deployment policy pool) :
    TotalsRegistered deployment.library pool.world := by
  intro entry member
  cases entry with
  | registered => trivial
  | started => trivial
  | ran input stage before outcome =>
    rintro rfl rfl passed
    obtain ⟨data, held, found, inside, same, stated⟩ :=
      passed_stated careful reached input before member passed
    refine ⟨data, held, fun registration other matched => ?_⟩
    have equal : registration = found :=
      same_revision (reaches_consistent reached).registered.increasing other inside
        (matched.1.trans same.1.symm) (matched.2.1.trans same.2.1.symm)
    rw [equal]
    exact stated

end Running

/-! ## A manifest that is put again -/

section Samples

instance (library : Library) (journal : List Entry) :
    DecidablePred (totalsChecked library journal)
  | .registered _ => .isTrue trivial
  | .started _ _ _ => .isTrue trivial
  | .ran input stage before outcome =>
      inferInstanceAs (Decidable (stage = .validateSettlementManifest → outcome = .completes →
        validateStage library input before = .ok () →
          ∃ data ∈ before.verified input.verifiedDataKey,
            ∀ registration ∈ registrations journal, registration.Of input →
              controlsStated library registration.delivery.manifest data = true))

instance (library : Library) (world : World) : Decidable (TotalsRegistered library world) :=
  inferInstanceAs (Decidable (∀ entry ∈ world.journal, totalsChecked library world.journal entry))

instance (records : List SettlementRecord) : Decidable (TotalsFit records) :=
  inferInstanceAs (Decidable (∀ record ∈ records, _ ∧ _))

instance (library : Library) (world : World) (input : WorkflowInput) :
    Decidable (ManifestKept library world input) :=
  inferInstanceAs (Decidable ((∀ registration ∈ registrations world.journal, _ → _) ∧
    ∀ data ∈ world.store.verified input.verifiedDataKey, _))

instance (library : Library) (world : World) :
    DecidablePred (ValidatesRegistered library world)
  | .put _ _ => .isTrue trivial
  | .arrive _ => .isTrue trivial
  | .advance name _ =>
      inferInstanceAs (Decidable (∀ execution ∈ world.store.execution name, _ → _ → _))

/-- A miscounting manifest is registered and put again, corrected. Its execution passes
validation. -/
theorem corrected_manifest_validates : ∃ pool, Reaches settlementDeployment samplePolicy pool ∧
    ¬ TotalsRegistered settlementLibrary pool.world := by
  have played := @plays_reaches settlementDeployment samplePolicy _
    (putBoth miscountedManifest (str "v1") ++ [.invoke (sampleDelivery miscountedManifest),
      .move (.put (landingKey settledDate manifestSuffix)
        (sampleVersion (str "v2") correctedManifest.body))] ++ completing miscountedManifest 1)
    (fun pool => ¬ TotalsRegistered settlementLibrary pool.world) _ (by decide +kernel)
  exact played

/-- The sample objects, with validations of registered manifests only. -/
abbrev registeredPolicy : Policy := restricted sampleBodies (ValidatesRegistered settlementLibrary)

/-- A settled day passes validation with its registered manifest. -/
theorem totals_registered_settled_day :
    ∃ pool, (Reaches settlementDeployment registeredPolicy pool ∧ pool.world.journal.length = 10) ∧
      TotalsRegistered settlementLibrary pool.world := by
  obtain ⟨pool, reached, length⟩ := @plays_reaches settlementDeployment registeredPolicy _ settledDay
    (fun pool => pool.world.journal.length = 10) _ (by decide +kernel)
  exact ⟨pool, ⟨reached, length⟩, totals_registered (fun _ _ permitted => permitted) reached⟩

end Samples

end LedgerFlow.Settlement
