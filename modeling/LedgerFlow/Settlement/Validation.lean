import LedgerFlow.Settlement.ControlTotals

/-!
# What validation lets through

`validateSettlementManifest` drops the records for which a disjunction is true in the
logic of SQL. A null currency makes its disjunct unknown, and a requested date that is in
no calendar makes another one unknown for every record. The first is caught later, since
the keys of the stated totals are texts; the second is not. The totals are compared after
they have wrapped, so a total beyond 64 bits passes as its residue.
-/

namespace LedgerFlow.Settlement

open PyText PyJson PyBytes PyDateTime Grouping Dataframe

/-- A requested date as the loader passes it on: a text in the shape of a date. -/
def RequestedDate (library : Library) : Type := {text : Str // dateShaped library text = true}

/-- What the settlement contract asks of a record for a requested date. -/
structure Contracted (requested : Str) (record : SettlementRecord) : Prop where
  schemaVersion : record.schemaVersion = some (str "1.0")
  businessDate : ∃ date, toDate requested = some date ∧ record.businessDate = some date
  processorId : record.processorId ≠ none
  currency : ∃ currency ∈ settlementCurrencies, record.currency = some currency
  amountMinor : record.amountMinor ≠ none

/-- What validation is for: every record is as contracted, no key repeats, and the manifest
states the number of records and the exact total of each currency. -/
structure Admissible (library : Library) (manifest data : Bytes) (requested : Str) : Prop where
  records : ∀ record ∈ library.readRecords data, Contracted requested record
  distinct : Keyed SettlementRecord.key (library.readRecords data)
  stated : controlsStated library manifest data = true

/-! ## One record -/

/-- What the condition on a record leaves open: the currency may be null, and the date is
compared only where the requested one is a date. -/
structure PassedFields (requested : Option Date) (record : SettlementRecord) : Prop where
  schemaVersion : record.schemaVersion = some (str "1.0")
  businessDate : ∃ date, record.businessDate = some date ∧
    ∀ other, requested = some other → date = other
  processorId : record.processorId ≠ none
  currency : ∀ currency, record.currency = some currency → currency ∈ settlementCurrencies
  amountMinor : record.amountMinor ≠ none

/-- A column that is not null and does not differ from a value holds it. -/
theorem same_of_passed {α : Type} [DecidableEq α] {column other : Option α}
    (present : some true ≠ isNull column) (equal : some true ≠ negated (same column other)) :
    ∃ value, column = some value ∧ ∀ wanted, other = some wanted → value = wanted := by
  cases column with
  | none => exact absurd rfl present
  | some value =>
    refine ⟨value, rfl, ?_⟩
    rintro wanted rfl
    by_contra apart
    exact equal (by simp only [same, negated, apart, decide_false, Option.map_some, Bool.not_false])

/-- A record that the condition does not drop has every field as the condition demands: where
Spark's condition is not true, none of its disjuncts is. -/
theorem passed_fields {requested : Option Date} {record : SettlementRecord}
    (valid : invalidRecord requested record ≠ some true) : PassedFields requested record := by
  rw [invalidRecord, Ne, any_of_true] at valid
  simp only [List.mem_cons, List.not_mem_nil, or_false, not_or] at valid
  obtain ⟨versioned, version, dated, date, processor, currency, counted⟩ := valid
  have present {α : Type} {column : Option α} (notNull : some true ≠ isNull column) :
      column ≠ none := fun null => notNull (by rw [null]; rfl)
  obtain ⟨read, held, isVersion⟩ := same_of_passed versioned version
  refine ⟨by rw [held, isVersion _ rfl], same_of_passed dated date, present processor, ?_,
    present counted⟩
  intro code given
  by_contra other
  exact currency (by rw [given]; simp only [isIn, negated, other, decide_false, Option.map_some,
    Bool.not_false])

/-! ## The whole file -/

/-- The row of the evidence table that a record stands for. -/
def SettlementRecord.evidence (record : SettlementRecord) : EvidenceRow :=
  ⟨record.businessDate, record.processorId, record.currency, record.amountMinor⟩

section File

variable {library : Library} {manifest data : Bytes} {requested : Str}

/-- The entries of the stated totals have text keys, so no currency is null. -/
theorem validated_currency (validated : Validated library manifest data requested)
    {record : SettlementRecord} (member : record ∈ library.readRecords data) :
    record.currency ≠ none := by
  intro null
  obtain ⟨_, _, totals, _, _, _, _, agree⟩ := validated.stated
  cases totals with
  | obj fields =>
    simp only [equalsObject, Bool.and_eq_true, List.all_eq_true] at agree
    have listed := agree.2 (record.currency, sumOf (currencyAmounts record.currency
      (library.readRecords data))) (List.mem_map.mpr ⟨record.currency,
        List.mem_dedup.mpr (List.mem_map_of_mem member), rfl⟩)
    rw [null] at listed
    cases listed
  | _ => cases agree

/-- No key of a validated file has two records: the validation counts the distinct keys against
the records. -/
theorem validated_keyed (validated : Validated library manifest data requested) :
    Keyed SettlementRecord.key (library.readRecords data) := by
  refine keyed_of_groups fun key => ?_
  by_contra several
  have named : key ∈ keysOf SettlementRecord.key (library.readRecords data) := by
    by_contra absent
    have none : group SettlementRecord.key key (library.readRecords data) = [] :=
      group_nil fun record member same =>
        absent (List.mem_dedup.mpr (same ▸ List.mem_map_of_mem member))
    rw [none] at several
    exact several (Nat.zero_le 1)
  have repeated : key ∈ duplicateKeys (library.readRecords data) :=
    List.mem_filter.mpr ⟨named, decide_eq_true (not_le.mp several)⟩
  rw [validated.distinct] at repeated
  exact List.not_mem_nil repeated

/-- Where the requested text is a date, every record of a validated file is as the contract says.
Without a date the comparison with it is null and drops nothing. -/
theorem validated_contracted (validated : Validated library manifest data requested)
    {date : Date} (dated : toDate requested = some date) {record : SettlementRecord}
    (member : record ∈ library.readRecords data) : Contracted requested record := by
  have passed := passed_fields (validated.valid record member)
  obtain ⟨held, businessDate, compared⟩ := passed.businessDate
  obtain ⟨currency, given⟩ := Option.ne_none_iff_exists'.mp (validated_currency validated member)
  exact {
    schemaVersion := passed.schemaVersion
    businessDate := ⟨date, dated, by rw [businessDate, compared date dated]⟩
    processorId := passed.processorId
    currency := ⟨currency, passed.currency currency given, given⟩
    amountMinor := passed.amountMinor }

end File

/-! ## What passes -/

/-- A float equals at most one integer. -/
def Library.FloatsExact (library : Library) : Prop :=
  ∀ numeral first second, library.floatEquals numeral first = true →
    library.floatEquals numeral second = true → first = second

/-- A stated value equals at most one integer, provided that comparing with a float is exact, as
Python's comparison is. -/
theorem equals_int_unique {library : Library} (exact : library.FloatsExact) {first second : Int}
    {value : Json} (left : equalsInt library.floatEquals first value = true)
    (right : equalsInt library.floatEquals second value = true) : first = second := by
  cases value with
  | int number => exact (of_decide_eq_true left).trans (of_decide_eq_true right).symm
  | bool truth => exact (of_decide_eq_true left).trans (of_decide_eq_true right).symm
  | float numeral => exact exact _ _ _ left right
  | _ => cases left

section Passing

variable {library : Library} {manifest data : Bytes} {requested : Str}

/-- Validated totals that are stated exactly fit in 64 bits: the job compares its wrapped sums
with integers that the control states, and each total it names is such a sum. -/
theorem validated_fits (validated : Validated library manifest data requested)
    (exact : library.FloatsExact) (stated : controlsStated library manifest data = true) :
    TotalsFit (library.readRecords data) := by
  intro record member
  have counted : ∀ other ∈ library.readRecords data, ∃ amount, other.amountMinor = some amount :=
    fun other inside => (valid_record (validated.valid other inside)).counted
  obtain ⟨fields, recordCount, totals, read, held, _, totalled, agree⟩ := validated.stated
  obtain ⟨currency, named⟩ := Option.ne_none_iff_exists'.mp (validated_currency validated member)
  cases totals with
  | obj entries =>
    simp only [controlsStated, read, held, totalled, Bool.and_eq_true, List.all_eq_true] at stated
    have exactly := stated.2 record member
    simp only [equalsObject, Bool.and_eq_true, List.all_eq_true] at agree
    have wrapped := agree.2 (record.currency, sumOf (currencyAmounts record.currency
      (library.readRecords data))) (List.mem_map.mpr ⟨record.currency,
        List.mem_dedup.mpr (List.mem_map_of_mem member), rfl⟩)
    rw [sum_wrapped counted member] at wrapped
    simp only [totalStated, totalListed, named] at exactly wrapped
    cases value : PyJson.get entries currency with
    | none =>
      rw [value] at exactly
      cases exactly
    | some number =>
      rw [value] at exactly wrapped
      rw [named, equals_int_unique exact exactly wrapped]
      exact bigint_range _
  | _ => cases agree

/-- Validation is exact where dates and totals are. A file that passes for a requested
date is admissible if and only if the requested text is the text of a calendar date, or
the file has no record to be dated, and the exact total of every currency fits in 64
bits. -/
theorem admissible_iff {requested : RequestedDate library}
    (passed : validateSettlementManifest library manifest data requested.1 = .ok ())
    (exact : library.FloatsExact) :
    Admissible library manifest data requested.1 ↔
      (library.readRecords data = [] ∨ (toDate requested.1).isSome = true) ∧
        TotalsFit (library.readRecords data) := by
  have validated := validate_ok library passed
  constructor
  · intro admissible
    refine ⟨?_, validated_fits validated exact admissible.stated⟩
    cases records : library.readRecords data with
    | nil => exact .inl rfl
    | cons record rest =>
      have member : record ∈ library.readRecords data := by
        rw [records]
        exact List.mem_cons_self
      obtain ⟨date, dated, _⟩ := (admissible.records record member).businessDate
      exact .inr (by rw [dated, Option.isSome_some])
  · rintro ⟨dates, fits⟩
    refine ⟨fun record member => ?_, validated_keyed validated, validated_stated validated fits⟩
    rcases dates with empty | isDate
    · rw [empty] at member
      exact absurd member List.not_mem_nil
    · obtain ⟨date, dated⟩ := Option.isSome_iff_exists.mp isDate
      exact validated_contracted validated dated member

end Passing

/-! ## Samples -/

/-- One settled amount of a file. -/
structure SampleEntry where
  date : Date
  processorId : String
  currency : String
  amountMinor : Int
  deriving DecidableEq

/-- A settlement file, with a manifest that states these totals. -/
structure SampleDelivery where
  records : List SampleEntry
  totalsMinor : List (String × Int)
  deriving DecidableEq

/-- The record of an entry. -/
def SampleEntry.record (entry : SampleEntry) : SettlementRecord :=
  ⟨some (str "1.0"), some entry.date, some (str entry.processorId), some (str entry.currency),
    some entry.amountMinor⟩

/-- The line of the file. -/
def SampleEntry.line (entry : SampleEntry) : Str :=
  str "\x7b\"schema_version\":\"1.0\",\"business_date\":\"" ++ entry.date.text ++
    str "\",\"processor_id\":\"" ++ str entry.processorId ++
    str "\",\"currency\":\"" ++ str entry.currency ++
    str "\",\"amount_minor\":" ++ decimal entry.amountMinor ++ str "\x7d\n"

/-- The bytes of the file. -/
def SampleDelivery.data (delivery : SampleDelivery) : Bytes :=
  ascii (delivery.records.flatMap SampleEntry.line)

/-- The fields of the manifest that validation reads. -/
def SampleDelivery.fields (delivery : SampleDelivery) : Fields :=
  [(str "record_count", .int delivery.records.length),
    (str "raw_control_totals_minor",
      .obj (delivery.totalsMinor.map fun total => (str total.1, .int total.2)))]

/-- A total, as the manifest writes it. -/
def totalText (total : String × Int) : Str :=
  str "\"" ++ str total.1 ++ str "\":" ++ decimal total.2

/-- The bytes of the manifest. -/
def SampleDelivery.manifest (delivery : SampleDelivery) : Bytes :=
  ascii (str "\x7b\"record_count\":" ++ decimal delivery.records.length ++
    str ",\"raw_control_totals_minor\":\x7b" ++
    join (str ",") (delivery.totalsMinor.map totalText) ++ str "\x7d\x7d")

/-- The records of the delivery with these bytes. -/
def deliveredRecords (deliveries : List SampleDelivery) (data : Bytes) : List SettlementRecord :=
  match deliveries.find? fun delivery => delivery.data = data with
  | none => []
  | some delivery => delivery.records.map SampleEntry.record

/-- The fields of the manifest with these bytes. -/
def deliveredFields (deliveries : List SampleDelivery) (body : Bytes) : Option Fields :=
  (deliveries.find? fun delivery => delivery.manifest = body).map SampleDelivery.fields

/-- A library that reads the files of these deliveries. -/
def deliveryLibrary (deliveries : List SampleDelivery) : Library where
  sha256 _ := List.replicate 32 0
  loads body := (deliveredFields deliveries body).map .obj
  isDecimal := digit
  floatEquals _ _ := false
  readManifest := deliveredFields deliveries
  readRecords := deliveredRecords deliveries
  readActual data := (deliveredRecords deliveries data).map SettlementRecord.evidence
  sha256_length _ := List.length_replicate
  dates_agree data date dated row member := by
    obtain ⟨record, inside, rfl⟩ := List.mem_map.mp member
    exact dated record inside

/-- The delivery passes validation for the requested text. -/
def DeliveryPasses (delivery : SampleDelivery) (requested : String) : Prop :=
  validateSettlementManifest (deliveryLibrary [delivery]) delivery.manifest delivery.data
    (str requested) = .ok ()

instance (delivery : SampleDelivery) (requested : String) :
    Decidable (DeliveryPasses delivery requested) :=
  inferInstanceAs (Decidable (_ = _))

/-- Three amounts that sum to 2^64, stated as zero. -/
def overflowingDelivery : SampleDelivery where
  records := [⟨newYear.date, "processor-01", "INR", 9223372036854775807⟩,
    ⟨newYear.date, "processor-02", "INR", 9223372036854775807⟩,
    ⟨newYear.date, "processor-03", "INR", 2⟩]
  totalsMinor := [("INR", 0)]

/-- Amounts of two processors in two currencies, one of them paid back. -/
def mixedDelivery : SampleDelivery where
  records := [⟨newYear.date, "processor-01", "INR", 600⟩,
    ⟨newYear.date, "processor-02", "INR", -150⟩, ⟨newYear.date, "processor-01", "USD", 75⟩]
  totalsMinor := [("INR", 450), ("USD", 75)]

/-- The delivery passes validation for the requested text and is not admissible. -/
def SlipsThrough (delivery : SampleDelivery) (requested : String) : Prop :=
  DeliveryPasses delivery requested ∧
    ¬ Admissible (deliveryLibrary [delivery]) delivery.manifest delivery.data (str requested)

/-- Wrapped totals slip through, and so does any date when a day is requested that is in no
calendar. -/
theorem deliveries_slip_through : SlipsThrough overflowingDelivery "2026-01-01" ∧
    SlipsThrough mixedDelivery "2026-02-31" := by
  refine ⟨⟨by decide +kernel, fun admissible => ?_⟩, by decide +kernel, fun admissible => ?_⟩
  · have stated := admissible.stated
    revert stated
    decide +kernel
  · have member : SampleEntry.record ⟨newYear.date, "processor-01", "INR", 600⟩ ∈
        (deliveryLibrary [mixedDelivery]).readRecords mixedDelivery.data := by decide +kernel
    obtain ⟨date, dated, _⟩ := (admissible.records _ member).businessDate
    have noDate : toDate (str "2026-02-31") = none := by decide +kernel
    rw [noDate] at dated
    cases dated

/-- A delivery with records of two currencies, one of them negative, is admissible on its own
date. -/
theorem mixed_delivery_admissible : Admissible (deliveryLibrary [mixedDelivery])
    mixedDelivery.manifest mixedDelivery.data (str "2026-01-01") := by
  have passed : DeliveryPasses mixedDelivery "2026-01-01" := by decide +kernel
  have dated : (toDate (str "2026-01-01")).isSome = true := by decide +kernel
  have shaped : dateShaped (deliveryLibrary [mixedDelivery]) (str "2026-01-01") = true := by
    decide +kernel
  refine (@admissible_iff _ _ _ ⟨str "2026-01-01", shaped⟩ passed nofun).mpr ⟨.inr dated, ?_⟩
  decide +kernel

end LedgerFlow.Settlement
