import LedgerFlow.LifecycleGrammar
import LedgerFlow.Spark.Classification

/-!
# Version prefixes of a valid history

The lifecycle tests compare versions by their minima and money by grand totals. A valid
history numbers its events from one, starts with its authorization, and has a capture
before its first reversal. Each of its version prefixes therefore passes every test that
compares versions or identities, and its captures stay within the authorization. Only
the last test may fail on a prefix: a reversal is weighed against all captures of the
history, also against those with a later version.
-/

namespace LedgerFlow.Spark

open PyText PyDateTime Grouping

/-- The events up to a version. -/
def upTo (version : Int) (events : List PaymentEvent) : List PaymentEvent :=
  events.filter fun event => event.transactionVersion ≤ version

/-- The events up to a version are those with no greater one. -/
theorem mem_up_to {version : Int} {events : List PaymentEvent} {event : PaymentEvent} :
    event ∈ upTo version events ↔ event ∈ events ∧ event.transactionVersion ≤ version := by
  rw [upTo, List.mem_filter, decide_eq_true_iff]

/-- The verdict on events that can only fail the test of reversals against captures. -/
def reversalVerdict (events : List PaymentEvent) : Option Violation :=
  if capturedMinor events < refundedMinor events + chargebackMinor events then
    some .refundOrChargebackExceedsCapture
  else none

/-! ## Parts of a history -/

section Parts

variable {events part : List PaymentEvent}

/-- A field with one value on a history has one value on a nonempty part of it. -/
theorem distinct_part {α : Type} [DecidableEq α] {field : PaymentEvent → α}
    (one : distinct field events = 1) (inside : part ⊆ events) (nonempty : part ≠ []) :
    distinct field part = 1 := by
  have upper : (part.map field).dedup.length ≤ (events.map field).dedup.length := by
    apply List.Subperm.length_le
    apply List.subperm_of_subset (List.nodup_dedup _)
    intro value member
    obtain ⟨event, present, same⟩ := List.mem_map.mp (List.mem_dedup.mp member)
    exact List.mem_dedup.mpr (List.mem_map.mpr ⟨event, inside present, same⟩)
  have lower := distinct_positive field nonempty
  unfold distinct at one lower ⊢
  omega

/-- A part of some events amounts to no more than all of them. -/
theorem amount_part (included : part.Sublist events) : amount part ≤ amount events := by
  induction included with
  | slnil => exact Int.le_refl _
  | @cons smaller larger event _ inductionHypothesis =>
    have positive := event.amountPositive
    have split : amount (event :: larger) = event.amountMinor + amount larger := List.sum_cons
    omega
  | @cons_cons smaller larger event _ inductionHypothesis =>
    have split : amount (event :: larger) = event.amountMinor + amount larger := List.sum_cons
    have smallerSplit : amount (event :: smaller) = event.amountMinor + amount smaller :=
      List.sum_cons
    omega

/-- The sums of a part fit where those of all events do, since no amount is negative. -/
theorem sums_fit_part (included : part.Sublist events) (fits : SumsFit events) : SumsFit part := by
  have authorizations : (ofType .authorization part).length ≤
      (ofType .authorization events).length := (included.filter _).length_le
  have captured : capturedMinor part ≤ capturedMinor events := amount_part (included.filter _)
  have refunded : refundedMinor part ≤ refundedMinor events := amount_part (included.filter _)
  have chargedBack : chargebackMinor part ≤ chargebackMinor events :=
    amount_part (included.filter _)
  have capturedSign : 0 ≤ capturedMinor part := amount_nonneg _
  have refundedSign : 0 ≤ refundedMinor part := amount_nonneg _
  have chargedBackSign : 0 ≤ chargebackMinor part := amount_nonneg _
  obtain ⟨countFits, capturedFits, refundedFits, chargedBackFits, reversedFits⟩ := fits
  unfold Int64 at *
  constructor <;> unfold Int64 <;> omega

/-- The amounts up to a version are at most the whole ones, since an amount is positive. -/
theorem amount_up_to (eventType : EventType) (version : Int) (events : List PaymentEvent) :
    amount (ofType eventType (upTo version events)) ≤ amount (ofType eventType events) :=
  amount_part (List.filter_sublist.filter _)

end Parts

/-! ## The versions of a valid history -/

section Prefix

variable {events : List PaymentEvent} {version : Int}

/-- A valid history is not empty: it has an authorization. -/
theorem valid_nonempty (valid : ValidHistory events) : events ≠ [] := by
  intro empty
  have single := valid.authorizations
  rw [empty] at single
  cases single

/-- A valid history has its versions between one and its length, as they are distinct and end
there. -/
theorem versions_within (valid : ValidHistory events) :
    events.map PaymentEvent.transactionVersion ⊆ firstVersions events.length := by
  intro number member
  obtain ⟨event, inside, rfl⟩ := List.mem_map.mp member
  have bound := (greatest_version_spec (valid_nonempty valid)).2 event inside
  rw [valid.last] at bound
  exact mem_first_versions.mpr ⟨event.versionPositive, bound⟩

/-- A valid history has every version between one and its length: it has as many distinct ones as
there are numbers. -/
theorem version_present (valid : ValidHistory events) {number : Int}
    (listed : number ∈ firstVersions events.length) :
    ∃ event ∈ events, event.transactionVersion = number := by
  by_contra absent
  have fresh : number ∉ events.map PaymentEvent.transactionVersion :=
    fun member => absent (List.mem_map.mp member)
  have inside : number :: events.map PaymentEvent.transactionVersion ⊆ firstVersions events.length :=
    List.cons_subset.mpr ⟨listed, versions_within valid⟩
  have distinctVersions := List.nodup_cons.mpr ⟨fresh, valid.versions_distinct⟩
  have fewer := (List.subperm_of_subset distinctVersions inside).length_le
  rw [List.length_cons, List.length_map, first_versions_length] at fewer
  omega

/-- The first event of a valid history is its authorization.

Proof: the event of version one is neither a capture nor a reversal, since a capture comes after
the authorization and a reversal after a capture. -/
theorem authorization_first (valid : ValidHistory events) {event : PaymentEvent}
    (member : event ∈ ofType .authorization events) : event.transactionVersion = 1 := by
  obtain ⟨authorization, only⟩ := List.length_eq_one_iff.mp valid.authorizations
  have isOnly {other : PaymentEvent} (inside : other ∈ ofType .authorization events) :
      other = authorization := List.mem_singleton.mp (only ▸ inside)
  have positive : 0 < events.length := List.length_pos_iff.mpr (valid_nonempty valid)
  obtain ⟨first, inside, one⟩ := version_present valid
    (mem_first_versions.mpr ⟨Int.le_refl 1, by omega⟩)
  have noCapture {capture : PaymentEvent} (inside : capture ∈ ofType .capture events) :
      1 < capture.transactionVersion := by
    have nonempty := List.ne_nil_of_mem inside
    have later := valid.captures nonempty
    have least := (least_version_spec nonempty).2 capture inside
    have lower := authorization.versionPositive
    simp only [only, List.head?_cons, Option.map_some, Option.getD_some] at later
    omega
  have noReversal {reversal : PaymentEvent} (inside : reversal ∈ reversals events) :
      1 < reversal.transactionVersion := by
    have nonempty := List.ne_nil_of_mem inside
    obtain ⟨capture, present, least⟩ := (least_version_spec (valid.captured nonempty)).1
    have later := valid.reversed nonempty
    have bound := (least_version_spec nonempty).2 reversal inside
    have lower := noCapture present
    omega
  have isAuthorization : first ∈ ofType .authorization events := by
    refine mem_of_type.mpr ⟨inside, ?_⟩
    cases type : first.eventType with
    | authorization => rfl
    | capture =>
      have later := noCapture (mem_of_type.mpr ⟨inside, type⟩)
      omega
    | refund =>
      have later := noReversal (mem_reversals.mpr ⟨inside, .inl type⟩)
      omega
    | chargeback =>
      have later := noReversal (mem_reversals.mpr ⟨inside, .inr type⟩)
      omega
  rw [isOnly member, ← isOnly isAuthorization, one]

/-! ## Prefixes of a valid history -/

/-- The history passes every lifecycle test but, perhaps, the last. -/
structure Ordered (events : List PaymentEvent) : Prop where
  versions : distinct PaymentEvent.transactionVersion events = events.length
  first : leastVersion events = 1
  last : greatestVersion events = events.length
  oneCurrency : distinct PaymentEvent.currency events = 1
  oneProcessor : distinct PaymentEvent.processorId events = 1
  oneMerchant : distinct PaymentEvent.merchantId events = 1
  authorizations : (ofType .authorization events).length = 1
  captures : ofType .capture events ≠ [] →
    ((ofType .authorization events).head?.map PaymentEvent.transactionVersion).getD 0 <
      leastVersion (ofType .capture events)
  captured : reversals events ≠ [] → ofType .capture events ≠ []
  reversed : reversals events ≠ [] →
    leastVersion (ofType .capture events) < leastVersion (reversals events)
  covered : capturedMinor events ≤ authorizedMinor events

/-- Where every other test passes, the last one decides, which compares reversals with
captures. -/
theorem ordered_verdict (ordered : Ordered events) : verdict events = reversalVerdict events := by
  have authorizations : ofType .authorization events ≠ [] := by
    rw [← List.length_pos_iff, ordered.authorizations]
    decide
  rw [verdict, if_neg (not_not.mpr ordered.versions), if_neg, if_neg (not_not.mpr ordered.oneCurrency),
    if_neg (not_not.mpr ordered.oneProcessor), if_neg (not_not.mpr ordered.oneMerchant), if_neg,
    if_neg fun both => authorizations both.1, if_neg authorizations,
    if_neg fun both => not_le.mpr (ordered.captures both.1) both.2,
    if_neg fun both => ordered.captured both.1 both.2,
    if_neg fun both => not_le.mpr (ordered.reversed both.1) both.2,
    if_neg (not_lt.mpr ordered.covered), reversalVerdict]
  · rw [ordered.authorizations]
    decide
  · rintro (first | last)
    · exact first ordered.first
    · exact last ordered.last

/-- A prefix of a valid history contains the authorization, which has the first version. -/
theorem authorizations_up_to (valid : ValidHistory events) (positive : 1 ≤ version) :
    ofType .authorization (upTo version events) = ofType .authorization events := by
  rw [upTo, ofType, List.filter_filter]
  refine List.filter_congr fun event member => ?_
  by_cases type : event.eventType = .authorization
  · have first := authorization_first valid (mem_of_type.mpr ⟨member, type⟩)
    simp [type, first, positive]
  · simp [type]

/-- The versions of a prefix are those from one to its length, without a gap. -/
theorem versions_up_to (valid : ValidHistory events) (positive : 1 ≤ version) :
    upTo version events ≠ [] ∧ Keyed PaymentEvent.transactionVersion (upTo version events) ∧
      leastVersion (upTo version events) = 1 ∧
      greatestVersion (upTo version events) = (upTo version events).length := by
  have count : 0 < events.length := List.length_pos_iff.mpr (valid_nonempty valid)
  obtain ⟨first, inside, one⟩ := version_present valid
    (mem_first_versions.mpr ⟨Int.le_refl 1, by omega⟩)
  have present : first ∈ upTo version events := mem_up_to.mpr ⟨inside, by omega⟩
  have nonempty := List.ne_nil_of_mem present
  have keyed : Keyed PaymentEvent.transactionVersion (upTo version events) :=
    valid.versions_distinct.sublist (List.filter_sublist.map _)
  obtain ⟨⟨least, leastInside, isLeast⟩, below⟩ := least_version_spec nonempty
  obtain ⟨⟨greatest, greatestInside, isGreatest⟩, above⟩ := greatest_version_spec nonempty
  have lower := below first present
  have leastPositive := least.versionPositive
  have greatestPositive := greatest.versionPositive
  obtain ⟨greatestMember, greatestBound⟩ := mem_up_to.mp greatestInside
  obtain ⟨number, same⟩ := Int.eq_ofNat_of_zero_le (Int.le_of_lt greatestPositive)
  have within : (upTo version events).map PaymentEvent.transactionVersion ⊆ firstVersions number := by
    intro other member
    obtain ⟨event, here, rfl⟩ := List.mem_map.mp member
    have bound := above event here
    exact mem_first_versions.mpr ⟨event.versionPositive, by omega⟩
  have covers : firstVersions number ⊆
      (upTo version events).map PaymentEvent.transactionVersion := by
    intro other member
    obtain ⟨from_one, bound⟩ := mem_first_versions.mp member
    have whole := (mem_first_versions.mp
      (versions_within valid (List.mem_map_of_mem greatestMember))).2
    obtain ⟨event, here, rfl⟩ := version_present valid
      (mem_first_versions.mpr ⟨from_one, by omega⟩)
    exact List.mem_map_of_mem (mem_up_to.mpr ⟨here, by omega⟩)
  have fewer := (List.subperm_of_subset keyed within).length_le
  have more := (List.subperm_of_subset (first_versions_nodup number) covers).length_le
  rw [List.length_map, first_versions_length] at fewer more
  exact ⟨nonempty, keyed, by omega, by omega⟩

/-- Every version prefix of a valid history passes every test but, perhaps, the last. -/
theorem ordered_up_to (valid : ValidHistory events) (positive : 1 ≤ version) :
    Ordered (upTo version events) := by
  obtain ⟨nonempty, keyed, first, last⟩ := versions_up_to valid positive
  have part : upTo version events ⊆ events := List.filter_sublist.subset
  have authorizations := authorizations_up_to valid positive
  have captureInside {event : PaymentEvent}
      (member : event ∈ ofType .capture (upTo version events)) :
      event ∈ ofType .capture events :=
    mem_of_type.mpr ⟨part (mem_of_type.mp member).1, (mem_of_type.mp member).2⟩
  have reversalInside {event : PaymentEvent} (member : event ∈ reversals (upTo version events)) :
      event ∈ reversals events ∧ event.transactionVersion ≤ version :=
    ⟨mem_reversals.mpr ⟨part (mem_reversals.mp member).1, (mem_reversals.mp member).2⟩,
      (mem_up_to.mp (mem_reversals.mp member).1).2⟩
  -- The first capture of the history precedes its reversals, so a prefix with a reversal
  -- has that capture.
  have firstCapture (some : reversals (upTo version events) ≠ []) :
      ∃ capture ∈ ofType .capture (upTo version events),
        capture.transactionVersion < leastVersion (reversals (upTo version events)) := by
    obtain ⟨⟨reversal, present, least⟩, _⟩ := least_version_spec some
    obtain ⟨member, bound⟩ := reversalInside present
    have reversed := List.ne_nil_of_mem member
    obtain ⟨capture, captured, leastCapture⟩ :=
      (least_version_spec (valid.captured reversed)).1
    have before := valid.reversed reversed
    have after := (least_version_spec reversed).2 reversal member
    have ⟨inside, type⟩ := mem_of_type.mp captured
    exact ⟨capture, mem_of_type.mpr ⟨mem_up_to.mpr ⟨inside, by omega⟩, type⟩, by omega⟩
  constructor
  · exact distinct_all.mpr keyed
  · exact first
  · exact last
  · exact distinct_part valid.oneCurrency part nonempty
  · exact distinct_part valid.oneProcessor part nonempty
  · exact distinct_part valid.oneMerchant part nonempty
  · rw [authorizations, valid.authorizations]
  · intro some
    obtain ⟨⟨capture, present, least⟩, _⟩ := least_version_spec some
    have member := captureInside present
    have whole := List.ne_nil_of_mem member
    have later := valid.captures whole
    have bound := (least_version_spec whole).2 capture member
    rw [authorizations]
    omega
  · intro some
    obtain ⟨capture, present, _⟩ := firstCapture some
    exact List.ne_nil_of_mem present
  · intro some
    obtain ⟨capture, present, before⟩ := firstCapture some
    have bound := (least_version_spec (List.ne_nil_of_mem present)).2 capture present
    omega
  · have captured : capturedMinor (upTo version events) ≤ capturedMinor events :=
      amount_up_to .capture version events
    have authorized : authorizedMinor (upTo version events) = authorizedMinor events :=
      congrArg amount authorizations
    have covered := valid.covered
    omega

/-- What a prefix of a valid history can and cannot fail. -/
structure PrefixLaw (whole part : List PaymentEvent) : Prop where
  captures : capturedMinor part ≤ authorizedMinor whole
  reversals : refundedMinor part + chargebackMinor part ≤ capturedMinor whole

/-- Up to any version of a valid history, the captures stay within the whole authorization and the
reversals within the whole captures.

Proof: the sums of a prefix are at most those of the history, where the limits hold. -/
theorem prefix_law (valid : ValidHistory events) : PrefixLaw events (upTo version events) := by
  have captured : capturedMinor (upTo version events) ≤ capturedMinor events :=
    amount_up_to .capture version events
  have refunded : refundedMinor (upTo version events) ≤ refundedMinor events :=
    amount_up_to .refund version events
  have chargedBack : chargebackMinor (upTo version events) ≤ chargebackMinor events :=
    amount_up_to .chargeback version events
  have covered := valid.covered
  have reversed := valid.reversalsCovered
  exact ⟨by omega, by omega⟩

/-- The sums of a prefix fit where those of the history do, a prefix being a part. -/
theorem sums_fit_up_to (fits : SumsFit events) : SumsFit (upTo version events) :=
  sums_fit_part List.filter_sublist fits

/-- The cascade of a history of one transaction gives its verdict, where columns and sums fit. -/
theorem lifecycle_error_verdict {transactionId : Identifier} (nonempty : events ≠ [])
    (same : ∀ event ∈ events, event.transactionId = transactionId)
    (storable : ∀ event ∈ events, Storable event) (fits : SumsFit events) :
    lifecycleError transactionId (events.map acceptedRow) = verdict events :=
  classification_agrees nonempty (window_columns nonempty same storable fits) fits

/-- A history of one transaction whose columns and sums fit in 64 bits. -/
structure OneTransaction (transactionId : Identifier) (events : List PaymentEvent) : Prop where
  nonempty : events ≠ []
  same : ∀ event ∈ events, event.transactionId = transactionId
  storable : ∀ event ∈ events, Storable event
  fits : SumsFit events

/-- Reversals stay within the captures of the whole history. In a valid history, and for
every version from one, the captures up to that version are covered by the authorization
and the reversals up to it by all captures; and the prefix up to it is valid, unless its
reversals exceed its captures, which is then its verdict. The same holds of the cascade
of the reconstruction, where columns and sums fit. -/
theorem reversals_within_captures {events : List PaymentEvent} {version : Int}
    (positive : 1 ≤ version) :
    (verdict events = none → PrefixLaw events (upTo version events) ∧
      verdict (upTo version events) = reversalVerdict (upTo version events)) ∧
    ∀ transactionId, OneTransaction transactionId events →
      lifecycleError transactionId (events.map acceptedRow) = none →
        PrefixLaw events (upTo version events) ∧
          lifecycleError transactionId ((upTo version events).map acceptedRow) =
            reversalVerdict (upTo version events) := by
  have core (judged : verdict events = none) : PrefixLaw events (upTo version events) ∧
      verdict (upTo version events) = reversalVerdict (upTo version events) := by
    have valid := verdict_none.mp judged
    exact ⟨prefix_law valid, ordered_verdict (ordered_up_to valid positive)⟩
  refine ⟨core, fun transactionId history judged => ?_⟩
  have agrees := lifecycle_error_verdict history.nonempty history.same history.storable history.fits
  obtain ⟨law, prefixJudged⟩ := core (agrees.symm.trans judged)
  have nonempty := (versions_up_to (verdict_none.mp (agrees.symm.trans judged)) positive).1
  refine ⟨law, ?_⟩
  rw [lifecycle_error_verdict nonempty, prefixJudged]
  · exact fun event member => history.same event (mem_up_to.mp member).1
  · exact fun event member => history.storable event (mem_up_to.mp member).1
  · exact sums_fit_up_to history.fits

/-! ## A reversal before its capture -/

/-- An authorization of 100, a capture of 50, a refund of 100 and a capture of 50. -/
def earlyRefund : List PaymentEvent :=
  let event (eventId : String) (valid : isIdentifier (str eventId) = true) (eventType : EventType)
      (version amount : {n : Int // 1 ≤ n}) : PaymentEvent :=
    sampleEvent ⟨str eventId, valid⟩ eventType version amount
      (noon newYear.date newYear.yearRange)
  [event "evt-1" (.refl true) .authorization 1 100,
    event "evt-2" (.refl true) .capture 2 50,
    event "evt-3" (.refl true) .refund 3 100,
    event "evt-4" (.refl true) .capture 4 50]

/-- A valid history whose refund exceeds what was captured before it: its prefix up to
the refund is not valid. -/
theorem early_refund_valid :
    verdict earlyRefund = none ∧
      lifecycleError ⟨str "txn-1", by decide⟩ (earlyRefund.map acceptedRow) = none ∧
      capturedMinor (upTo 3 earlyRefund) <
        refundedMinor (upTo 3 earlyRefund) + chargebackMinor (upTo 3 earlyRefund) ∧
      verdict (upTo 3 earlyRefund) ≠ none ∧
      lifecycleError ⟨str "txn-1", by decide⟩ ((upTo 3 earlyRefund).map acceptedRow) ≠ none := by
  decide +kernel

/-- The prefixes of the sample history obey the law. The refund comes early, and the prefix up to
it is refused for it. -/
theorem reversals_within_captures_sample :
    PrefixLaw earlyRefund (upTo 3 earlyRefund) ∧
      lifecycleError ⟨str "txn-1", by decide⟩ ((upTo 3 earlyRefund).map acceptedRow) =
        reversalVerdict (upTo 3 earlyRefund) := by
  have laws := @reversals_within_captures earlyRefund 3 (by decide)
  have storable : ∀ event ∈ earlyRefund,
      Int64 event.transactionVersion ∧ Int64 event.amountMinor := by
    decide +kernel
  exact laws.2 _ ⟨by decide, by decide +kernel, storable, by decide +kernel⟩ (by decide +kernel)

end Prefix

end LedgerFlow.Spark
