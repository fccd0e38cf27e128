import LedgerFlow.Projections
import Mathlib.Computability.RegularExpressions

/-!
# The grammar of a valid history

The lifecycle tests compare minima, counts and sums. Together they say that the event
types of a history, read in the order of its versions, form a word of a regular
language, and that no total exceeds the one it draws on. The language is stated as a
regular expression; neither the order in which the tests are made nor the order in
which the events are given matters.
-/

namespace LedgerFlow

open PyText PyDateTime Grouping

/-! ## The language -/

/-- A transaction is authorized; after a capture, it is captured, refunded and charged back
any number of times. -/
def lifecycle : RegularExpression EventType :=
  .char .authorization * (1 + .char .capture *
    .star (.char .capture + .char .refund + .char .chargeback))

/-- A word of the starred letters is made of them.

Proof: one way by the concatenation that membership in a star is, the other by a letter at a
time. -/
theorem mem_star_letters {α : Type} {letters : Language α} {allowed : α → Prop}
    (single : ∀ word, word ∈ letters ↔ ∃ letter, allowed letter ∧ word = [letter])
    {word : List α} : word ∈ KStar.kstar letters ↔ ∀ letter ∈ word, allowed letter := by
  rw [Language.mem_kstar]
  constructor
  · rintro ⟨parts, rfl, inside⟩ letter listed
    obtain ⟨part, isPart, here⟩ := List.mem_flatten.mp listed
    obtain ⟨only, fine, rfl⟩ := (single part).mp (inside part isPart)
    rw [List.mem_singleton.mp here]
    exact fine
  · intro fine
    refine ⟨word.map fun letter => [letter], ?_, ?_⟩
    · induction word with
      | nil => rfl
      | cons head rest hypothesis =>
        have tail := hypothesis fun letter listed => fine letter (List.mem_cons_of_mem head listed)
        rw [List.map_cons, List.flatten_cons, ← tail, List.singleton_append]
    · intro part isPart
      obtain ⟨letter, listed, rfl⟩ := List.mem_map.mp isPart
      exact (single _).mpr ⟨letter, fine letter listed, rfl⟩

/-- The events after the first capture are anything but an authorization; the grammar leaves their
order open, and the inequalities restrict it. -/
theorem mem_later {word : List EventType} :
    word ∈ (RegularExpression.star (.char .capture + .char .refund + .char .chargeback) :
      RegularExpression EventType).matches' ↔ ∀ eventType ∈ word, eventType ≠ .authorization := by
  refine mem_star_letters fun word => ?_
  constructor
  · rintro ((rfl | rfl) | rfl)
    · exact ⟨.capture, nofun, rfl⟩
    · exact ⟨.refund, nofun, rfl⟩
    · exact ⟨.chargeback, nofun, rfl⟩
  · rintro ⟨eventType, other, rfl⟩
    cases eventType with
    | authorization => exact absurd rfl other
    | capture => exact .inl (.inl rfl)
    | refund => exact .inl (.inr rfl)
    | chargeback => exact .inr rfl

/-- A word of the language is an authorization, followed by nothing, or by a capture and
no further authorization. -/
theorem mem_lifecycle {word : List EventType} :
    word ∈ lifecycle.matches' ↔ ∃ rest, word = .authorization :: rest ∧
      (rest = [] ∨ ∃ more, rest = .capture :: more ∧
        ∀ eventType ∈ more, eventType ≠ .authorization) := by
  rw [lifecycle, RegularExpression.matches'_mul, Language.mem_mul]
  constructor
  · rintro ⟨_, rfl, rest, tail, rfl⟩
    refine ⟨rest, rfl, ?_⟩
    rw [RegularExpression.matches'_add, Language.mem_add] at tail
    rcases tail with rfl | tail
    · exact .inl rfl
    · obtain ⟨_, rfl, more, later, rfl⟩ := tail
      exact .inr ⟨more, rfl, mem_later.mp later⟩
  · rintro ⟨rest, rfl, tail⟩
    refine ⟨[.authorization], rfl, rest, ?_, rfl⟩
    rw [RegularExpression.matches'_add, Language.mem_add]
    rcases tail with rfl | ⟨more, rfl, later⟩
    · exact .inl rfl
    · exact .inr ⟨[.capture], rfl, more, mem_later.mpr later, rfl⟩

/-! ## Versions -/

/-- The versions 1 to `n`. -/
def firstVersions (n : Nat) : List Int := (List.range n).map fun index : Nat => (index : Int) + 1

/-- The first n versions are the numbers from one to n. -/
theorem mem_first_versions {n : Nat} {version : Int} :
    version ∈ firstVersions n ↔ 1 ≤ version ∧ version ≤ n := by
  rw [firstVersions, List.mem_map]
  constructor
  · rintro ⟨index, inside, rfl⟩
    have := List.mem_range.mp inside
    omega
  · rintro ⟨positive, bounded⟩
    exact ⟨(version - 1).toNat, List.mem_range.mpr (by omega), by omega⟩

/-- The first versions increase, one by one. -/
theorem first_versions_increase (n : Nat) : (firstVersions n).Pairwise (· < ·) :=
  List.pairwise_lt_range.map _ fun _ _ less => by omega

/-- No version stands twice among the first ones. -/
theorem first_versions_nodup (n : Nat) : (firstVersions n).Nodup :=
  (first_versions_increase n).imp fun less => ne_of_lt less

/-- The first n versions are n in number. -/
theorem first_versions_length (n : Nat) : (firstVersions n).length = n := by
  rw [firstVersions, List.length_map, List.length_range]

/-- Sorted versions are the first ones exactly when they are distinct and none exceeds
their number. -/
theorem first_versions_iff {versions : List Int} (sorted : versions.Pairwise (· ≤ ·)) :
    versions = firstVersions versions.length ↔
      versions.Nodup ∧ ∀ version ∈ versions, 1 ≤ version ∧ version ≤ versions.length := by
  constructor
  · intro same
    constructor
    · rw [same]
      exact first_versions_nodup _
    · intro version listed
      rw [same] at listed
      exact mem_first_versions.mp listed
  · rintro ⟨unique, bounded⟩
    have inside : versions ⊆ firstVersions versions.length := fun version listed =>
      mem_first_versions.mpr (bounded version listed)
    have filled : versions.Perm (firstVersions versions.length) :=
      (unique.subperm inside).perm_of_length_le (first_versions_length _).le
    have increase := first_versions_increase versions.length
    exact filled.eq_of_pairwise' sorted (increase.imp fun less => le_of_lt less)

/-- The versions of the events in increasing order. -/
def byVersion (first second : PaymentEvent) : Prop :=
  first.transactionVersion ≤ second.transactionVersion

instance : DecidableRel byVersion := fun first second =>
  inferInstanceAs (Decidable (first.transactionVersion ≤ second.transactionVersion))

instance : Std.Total byVersion :=
  ⟨fun first second => le_total first.transactionVersion second.transactionVersion⟩

instance : IsTrans PaymentEvent byVersion := ⟨fun _ _ _ => le_trans⟩

/-- The events sorted by version. -/
def sortedByVersion (events : List PaymentEvent) : List PaymentEvent :=
  events.insertionSort byVersion

/-- Sorting by version permutes the events, so what is said of all of them is said of the sorted
ones. -/
theorem sorted_perm (events : List PaymentEvent) : (sortedByVersion events).Perm events :=
  List.perm_insertionSort byVersion events

/-- The versions of the sorted events do not decrease. -/
theorem sorted_versions (events : List PaymentEvent) :
    ((sortedByVersion events).map PaymentEvent.transactionVersion).Pairwise (· ≤ ·) :=
  (List.pairwise_insertionSort byVersion events).map _ fun _ _ => id

section Extremes

variable {events : List PaymentEvent}

/-- The two version tests pass exactly when the sorted versions are the first ones. -/
theorem version_tests (nonempty : events ≠ []) :
    (sortedByVersion events).map PaymentEvent.transactionVersion = firstVersions events.length ↔
      distinct PaymentEvent.transactionVersion events = events.length ∧
        leastVersion events = 1 ∧ greatestVersion events = events.length := by
  have same := (sorted_perm events).map PaymentEvent.transactionVersion
  have size : ((sortedByVersion events).map PaymentEvent.transactionVersion).length =
      events.length := by rw [same.length_eq, List.length_map]
  have sorted := first_versions_iff (sorted_versions events)
  rw [size] at sorted
  have ⟨⟨least, isLeast, leastIs⟩, below⟩ := least_version_spec nonempty
  have ⟨⟨greatest, isGreatest, greatestIs⟩, above⟩ := greatest_version_spec nonempty
  rw [sorted, same.nodup_iff, distinct_all, Keyed]
  constructor
  · rintro ⟨unique, bounded⟩
    have inside {version : Int} (first : version ∈ firstVersions events.length) :
        ∃ event ∈ events, event.transactionVersion = version := by
      rw [← sorted.mpr ⟨same.nodup_iff.mpr unique, bounded⟩, same.mem_iff] at first
      exact List.mem_map.mp first
    have range {event : PaymentEvent} (member : event ∈ events) :=
      bounded _ (same.mem_iff.mpr (List.mem_map_of_mem member))
    have positive := List.length_pos_iff.mpr nonempty
    obtain ⟨one, isOne, oneIs⟩ := inside (mem_first_versions.mpr ⟨le_refl 1, by omega⟩)
    obtain ⟨all, isAll, allIs⟩ := inside (mem_first_versions.mpr ⟨by omega, le_refl _⟩)
    have := below one isOne
    have := above all isAll
    have := range isLeast
    have := range isGreatest
    exact ⟨unique, by omega, by omega⟩
  · rintro ⟨unique, first, last⟩
    refine ⟨unique, fun version listed => ?_⟩
    obtain ⟨event, member, rfl⟩ := List.mem_map.mp (same.mem_iff.mp listed)
    have := below event member
    have := above event member
    omega

end Extremes

/-! ## Stages -/

/-- One event authorizes, every capture follows it, and every reversal follows a capture. -/
structure Staged (events : List PaymentEvent) : Prop where
  single : (ofType .authorization events).length = 1
  captures : ∀ first ∈ events, first.eventType = .authorization →
    ∀ event ∈ events, event.eventType = .capture →
      first.transactionVersion < event.transactionVersion
  reversals : ∀ event ∈ events, event.eventType = .refund ∨ event.eventType = .chargeback →
    ∃ earlier ∈ events, earlier.eventType = .capture ∧
      earlier.transactionVersion < event.transactionVersion

/-- The events of a type are those of the list with that type. -/
theorem mem_of_type {eventType : EventType} {event : PaymentEvent} {events : List PaymentEvent} :
    event ∈ ofType eventType events ↔ event ∈ events ∧ event.eventType = eventType := by
  rw [ofType, List.mem_filter, decide_eq_true_eq]

/-- The reversals are the refunds and the chargebacks. -/
theorem mem_reversals {event : PaymentEvent} {events : List PaymentEvent} :
    event ∈ reversals events ↔
      event ∈ events ∧ (event.eventType = .refund ∨ event.eventType = .chargeback) := by
  rw [reversals, List.mem_filter, decide_eq_true_eq]

/-- Stages do not depend on the order of the events, which are compared by their versions
alone. -/
theorem Staged.perm {first second : List PaymentEvent} (staged : Staged first)
    (same : first.Perm second) : Staged second where
  single := ((same.filter _).length_eq.symm.trans staged.single :)
  captures opening isOpening opens event member :=
    staged.captures opening (same.mem_iff.mpr isOpening) opens event (same.mem_iff.mpr member)
  reversals event member kind := by
    obtain ⟨earlier, isEarlier, rest⟩ := staged.reversals event (same.mem_iff.mpr member) kind
    exact ⟨earlier, same.mem_iff.mp isEarlier, rest⟩

/-- The four tests on event types pass exactly when the events are staged. -/
theorem stage_tests {events : List PaymentEvent} :
    Staged events ↔ (ofType .authorization events).length = 1 ∧
      (ofType .capture events ≠ [] →
        ((ofType .authorization events).head?.map PaymentEvent.transactionVersion).getD 0 <
          leastVersion (ofType .capture events)) ∧
      (reversals events ≠ [] → ofType .capture events ≠ []) ∧
      (reversals events ≠ [] →
        leastVersion (ofType .capture events) < leastVersion (reversals events)) := by
  constructor
  · intro staged
    have captured (reversed : reversals events ≠ []) :
        ofType .capture events ≠ [] ∧
          leastVersion (ofType .capture events) < leastVersion (reversals events) := by
      obtain ⟨⟨event, member, eventIs⟩, _⟩ := least_version_spec reversed
      obtain ⟨earlier, isEarlier, capture, before⟩ :=
        staged.reversals event (mem_reversals.mp member).1 (mem_reversals.mp member).2
      have listed := mem_of_type.mpr ⟨isEarlier, capture⟩
      have some := List.ne_nil_of_mem listed
      have := (least_version_spec some).2 earlier listed
      exact ⟨some, by omega⟩
    refine ⟨staged.single, fun some => ?_, fun reversed => (captured reversed).1,
      fun reversed => (captured reversed).2⟩
    obtain ⟨⟨event, member, eventIs⟩, _⟩ := least_version_spec some
    obtain ⟨opening, only⟩ := List.length_eq_one_iff.mp staged.single
    have isOpening : opening ∈ ofType .authorization events := by
      rw [only]
      exact List.mem_singleton_self opening
    rw [only, List.head?_cons, Option.map_some, Option.getD_some, ← eventIs]
    exact staged.captures opening (mem_of_type.mp isOpening).1 (mem_of_type.mp isOpening).2
      event (mem_of_type.mp member).1 (mem_of_type.mp member).2
  · rintro ⟨single, captures, captured, reversed⟩
    refine ⟨single, fun first isFirst opens event member capture => ?_,
      fun event member kind => ?_⟩
    · have listed := mem_of_type.mpr ⟨member, capture⟩
      have some := List.ne_nil_of_mem listed
      have below := (least_version_spec some).2 event listed
      obtain ⟨opening, only⟩ := List.length_eq_one_iff.mp single
      have isOpening := mem_of_type.mpr ⟨isFirst, opens⟩
      rw [only, List.mem_singleton] at isOpening
      have before := captures some
      rw [only, List.head?_cons, Option.map_some, Option.getD_some, ← isOpening] at before
      omega
    · have listed := mem_reversals.mpr ⟨member, kind⟩
      have some := List.ne_nil_of_mem listed
      obtain ⟨⟨earlier, isEarlier, earlierIs⟩, _⟩ := least_version_spec (captured some)
      have below := (least_version_spec some).2 event listed
      have before := reversed some
      exact ⟨earlier, (mem_of_type.mp isEarlier).1, (mem_of_type.mp isEarlier).2, by omega⟩

section Words

variable {head : PaymentEvent} {tail : List PaymentEvent}

/-- Where the first event is an authorization, there is a single one exactly if no other event
is. -/
theorem single_head (opens : head.eventType = .authorization) :
    (ofType .authorization (head :: tail)).length = 1 ↔
      ∀ event ∈ tail, event.eventType ≠ .authorization := by
  have first : ofType .authorization (head :: tail) = head :: ofType .authorization tail :=
    List.filter_cons_of_pos (by exact decide_eq_true opens)
  rw [first, List.length_cons, Nat.add_eq_right, List.length_eq_zero_iff, ofType,
    List.filter_eq_nil_iff]
  simp only [decide_eq_true_eq, ne_eq]

/-- The earliest of staged events is the authorization.

Proof: the stages put the authorization before every capture and the first capture before every
reversal, so none of these can be earliest. -/
theorem Staged.opens (staged : Staged (head :: tail))
    (least : ∀ event ∈ tail, head.transactionVersion < event.transactionVersion) :
    head.eventType = .authorization := by
  have below {event : PaymentEvent} (member : event ∈ head :: tail) :
      head.transactionVersion ≤ event.transactionVersion := by
    rcases List.mem_cons.mp member with rfl | later
    · exact le_refl _
    · exact (least event later).le
  have unreversed (kind : head.eventType = .refund ∨ head.eventType = .chargeback) : False := by
    obtain ⟨earlier, member, _, before⟩ := staged.reversals head List.mem_cons_self kind
    exact absurd before (not_lt.mpr (below member))
  cases kind : head.eventType with
  | authorization => rfl
  | capture =>
    obtain ⟨opening, only⟩ := List.length_eq_one_iff.mp staged.single
    have isOpening : opening ∈ ofType .authorization (head :: tail) := by
      rw [only]
      exact List.mem_singleton_self opening
    obtain ⟨member, opens⟩ := mem_of_type.mp isOpening
    exact absurd (staged.captures opening member opens head List.mem_cons_self kind)
      (not_lt.mpr (below member))
  | refund => exact (unreversed (.inl kind)).elim
  | chargeback => exact (unreversed (.inr kind)).elim

/-- The second of staged events is a capture: a reversal comes after some capture, and there is no
second authorization. -/
theorem Staged.captured {second : PaymentEvent} {more : List PaymentEvent}
    (staged : Staged (head :: second :: more)) (opens : head.eventType = .authorization)
    (least : ∀ event ∈ more, second.transactionVersion < event.transactionVersion) :
    second.eventType = .capture := by
  have isSecond : second ∈ head :: second :: more := List.mem_cons_of_mem head List.mem_cons_self
  have unreversed (kind : second.eventType = .refund ∨ second.eventType = .chargeback) :
      False := by
    obtain ⟨earlier, member, capture, before⟩ := staged.reversals second isSecond kind
    rcases List.mem_cons.mp member with rfl | later
    · rw [opens] at capture
      cases capture
    · rcases List.mem_cons.mp later with rfl | after
      · exact lt_irrefl _ before
      · exact lt_asymm before (least earlier after)
  cases kind : second.eventType with
  | authorization =>
    exact absurd kind ((single_head opens).mp staged.single second List.mem_cons_self)
  | capture => rfl
  | refund => exact (unreversed (.inl kind)).elim
  | chargeback => exact (unreversed (.inr kind)).elim

/-- An authorization followed by later events, of which the earliest is a capture and none
authorizes, is staged. -/
theorem staged_cons (opens : head.eventType = .authorization)
    (least : ∀ event ∈ tail, head.transactionVersion < event.transactionVersion)
    (noMore : ∀ event ∈ tail, event.eventType ≠ .authorization)
    (captured : ∀ event ∈ tail, event.eventType = .capture ∨
      ∃ earlier ∈ tail, earlier.eventType = .capture ∧
        earlier.transactionVersion < event.transactionVersion) : Staged (head :: tail) where
  single := (single_head opens).mpr noMore
  captures first isFirst authorizes event member capture := by
    rcases List.mem_cons.mp isFirst with rfl | later
    · rcases List.mem_cons.mp member with rfl | after
      · rw [authorizes] at capture
        cases capture
      · exact least event after
    · exact absurd authorizes (noMore first later)
  reversals event member kind := by
    rcases List.mem_cons.mp member with rfl | later
    · rw [opens] at kind
      rcases kind with kind | kind <;> cases kind
    · rcases captured event later with capture | ⟨earlier, isEarlier, capture, before⟩
      · rw [capture] at kind
        rcases kind with kind | kind <;> cases kind
      · exact ⟨earlier, List.mem_cons_of_mem head isEarlier, capture, before⟩

end Words

/-- Events of strictly increasing versions are staged exactly when their types form a word
of the lifecycle. -/
theorem staged_word {events : List PaymentEvent}
    (increasing : events.Pairwise fun first second =>
      first.transactionVersion < second.transactionVersion) :
    Staged events ↔ events.map PaymentEvent.eventType ∈ lifecycle.matches' := by
  rw [mem_lifecycle]
  constructor
  · intro staged
    cases events with
    | nil => exact absurd staged.single (by decide)
    | cons head tail =>
      obtain ⟨least, later⟩ := List.pairwise_cons.mp increasing
      have opens := staged.opens least
      have noMore := (single_head opens).mp staged.single
      refine ⟨tail.map PaymentEvent.eventType, by rw [List.map_cons, opens], ?_⟩
      cases tail with
      | nil => exact .inl rfl
      | cons second more =>
        have capture := staged.captured opens (List.pairwise_cons.mp later).1
        refine .inr ⟨more.map PaymentEvent.eventType, by rw [List.map_cons, capture], ?_⟩
        intro eventType listed
        obtain ⟨event, member, rfl⟩ := List.mem_map.mp listed
        exact noMore event (List.mem_cons_of_mem second member)
  · rintro ⟨rest, word, shape⟩
    obtain ⟨head, tail, rfl, opens, rfl⟩ := List.map_eq_cons_iff.mp word
    obtain ⟨least, later⟩ := List.pairwise_cons.mp increasing
    rcases shape with empty | ⟨more, begins, others⟩
    · cases List.map_eq_nil_iff.mp empty
      exact staged_cons opens least (fun _ member => absurd member List.not_mem_nil)
        fun _ member => absurd member List.not_mem_nil
    · obtain ⟨second, more, rfl, capture, rfl⟩ := List.map_eq_cons_iff.mp begins
      refine staged_cons opens least (fun event member => ?_) fun event member => ?_
      · rcases List.mem_cons.mp member with rfl | after
        · rw [capture]
          exact nofun
        · exact others _ (List.mem_map_of_mem after)
      · rcases List.mem_cons.mp member with rfl | after
        · exact .inl capture
        · exact .inr ⟨second, List.mem_cons_self, capture,
            (List.pairwise_cons.mp later).1 event after⟩

/-! ## The grammar -/

/-- The history is in sequence: its sorted versions are the first ones, its events agree on
currency, processor and merchant, and its types in the order of the versions form a word of
the lifecycle. -/
structure Sequenced (events : List PaymentEvent) : Prop where
  versions : (sortedByVersion events).map PaymentEvent.transactionVersion =
    firstVersions events.length
  currency : ∃ currency, ∀ event ∈ events, event.currency = currency
  processor : ∃ processor, ∀ event ∈ events, event.processorId = processor
  merchant : ∃ merchant, ∀ event ∈ events, event.merchantId = merchant
  word : (sortedByVersion events).map PaymentEvent.eventType ∈ lifecycle.matches'

/-- The history is grammatical: it is in sequence, and no total exceeds the one it draws
on. -/
structure Grammatical (events : List PaymentEvent) : Prop extends Sequenced events where
  captured : capturedMinor events ≤ authorizedMinor events
  reversed : refundedMinor events + chargebackMinor events ≤ capturedMinor events

/-- The history passes every lifecycle test but the two on totals. -/
structure WellStaged (events : List PaymentEvent) : Prop where
  versions : distinct PaymentEvent.transactionVersion events = events.length
  first : leastVersion events = 1
  last : greatestVersion events = events.length
  oneCurrency : distinct PaymentEvent.currency events = 1
  oneProcessor : distinct PaymentEvent.processorId events = 1
  oneMerchant : distinct PaymentEvent.merchantId events = 1
  staged : Staged events

/-- A field of nonempty events has one value exactly when there is one. -/
theorem distinct_one_iff {α : Type} [DecidableEq α] {field : PaymentEvent → α}
    {events : List PaymentEvent} (nonempty : events ≠ []) :
    distinct field events = 1 ↔ ∃ value, ∀ event ∈ events, field event = value := by
  obtain ⟨first, isFirst⟩ := List.exists_mem_of_ne_nil events nonempty
  constructor
  · intro one
    exact ⟨field first, fun event member => distinct_one one member isFirst⟩
  · rintro ⟨value, only⟩
    have constant : events.map field = List.replicate events.length value :=
      List.map_eq_replicate_iff.mpr only
    rw [distinct, constant, List.replicate_dedup (List.length_pos_iff.mpr nonempty).ne',
      List.length_singleton]

/-- The tests that do not read totals pass exactly when the history is in sequence. -/
theorem well_staged_sequenced {events : List PaymentEvent} (nonempty : events ≠ []) :
    WellStaged events ↔ Sequenced events := by
  have sorted := sorted_perm events
  have staged (versions : (sortedByVersion events).map PaymentEvent.transactionVersion =
      firstVersions events.length) :
      Staged events ↔ (sortedByVersion events).map PaymentEvent.eventType ∈
        lifecycle.matches' := by
    have increasing := first_versions_increase events.length
    rw [← versions, List.pairwise_map] at increasing
    rw [← staged_word increasing]
    exact ⟨fun staged => staged.perm sorted.symm, fun staged => staged.perm sorted⟩
  constructor
  · intro ordered
    have versions := (version_tests nonempty).mpr ⟨ordered.versions, ordered.first, ordered.last⟩
    exact {
      versions
      currency := (distinct_one_iff nonempty).mp ordered.oneCurrency
      processor := (distinct_one_iff nonempty).mp ordered.oneProcessor
      merchant := (distinct_one_iff nonempty).mp ordered.oneMerchant
      word := (staged versions).mp ordered.staged }
  · intro sequenced
    obtain ⟨unique, first, last⟩ := (version_tests nonempty).mp sequenced.versions
    exact {
      versions := unique
      first, last
      oneCurrency := (distinct_one_iff nonempty).mpr sequenced.currency
      oneProcessor := (distinct_one_iff nonempty).mpr sequenced.processor
      oneMerchant := (distinct_one_iff nonempty).mpr sequenced.merchant
      staged := (staged sequenced.versions).mpr sequenced.word }

/-- A nonempty history passes every lifecycle test exactly when it is grammatical. The empty one
passes no test of an authorization and is not a word either, but the projection never meets it. -/
theorem valid_grammatical {events : List PaymentEvent} (nonempty : events ≠ []) :
    ValidHistory events ↔ Grammatical events := by
  constructor
  · intro valid
    have staged : Staged events := stage_tests.mpr
      ⟨valid.authorizations, valid.captures, valid.captured, valid.reversed⟩
    have ordered : WellStaged events := ⟨valid.versions, valid.first, valid.last,
      valid.oneCurrency, valid.oneProcessor, valid.oneMerchant, staged⟩
    exact ⟨(well_staged_sequenced nonempty).mp ordered, valid.covered, valid.reversalsCovered⟩
  · intro grammatical
    have ordered := (well_staged_sequenced nonempty).mpr grammatical.toSequenced
    obtain ⟨authorizations, captures, captured, reversed⟩ := stage_tests.mp ordered.staged
    exact {
      versions := ordered.versions
      first := ordered.first
      last := ordered.last
      oneCurrency := ordered.oneCurrency
      oneProcessor := ordered.oneProcessor
      oneMerchant := ordered.oneMerchant
      authorizations, captures, captured, reversed
      covered := grammatical.captured
      reversalsCovered := grammatical.reversed }

/-! ## The status -/

/-- The totals determine this status. -/
def Determines (authorized captured refunded chargedBack : Int) : PaymentStatus → Prop
  | .authorized => captured = 0 ∧ refunded = 0 ∧ chargedBack = 0
  | .partiallyCaptured =>
      0 < captured ∧ captured < authorized ∧ refunded = 0 ∧ chargedBack = 0
  | .captured => 0 < captured ∧ captured = authorized ∧ refunded = 0 ∧ chargedBack = 0
  | .partiallyRefunded => 0 < refunded ∧ refunded < captured ∧ chargedBack = 0
  | .refunded => 0 < refunded ∧ refunded = captured ∧ chargedBack = 0
  | .partiallyChargedback => 0 < chargedBack ∧ refunded + chargedBack < captured
  | .chargedback => 0 < chargedBack ∧ refunded + chargedBack = captured

/-- The totals of a grammatical history determine its status and no other: the conditions for the
seven statuses exclude each other and leave no case out. -/
theorem status_determined {events : List PaymentEvent} (grammatical : Grammatical events)
    {status : PaymentStatus} :
    Determines (authorizedMinor events) (capturedMinor events) (refundedMinor events)
      (chargebackMinor events) status ↔ paymentStatus events = status := by
  have captured := grammatical.captured
  have reversed := grammatical.reversed
  have refunds : 0 ≤ refundedMinor events := amount_nonneg _
  have chargebacks : 0 ≤ chargebackMinor events := amount_nonneg _
  unfold paymentStatus
  dsimp only
  split_ifs <;> cases status <;> simp only [Determines, reduceCtorEq, iff_false, iff_true] <;>
    omega

/-- The lifecycle tests accept exactly the grammatical histories. For nonempty events in
any order, a projection records no exception exactly when they are grammatical; it then
writes one state, whose totals are those of the events and whose status is the one that
these totals determine. -/
theorem lifecycle_grammar (rules : PostingRules) {events : List PaymentEvent}
    (nonempty : events ≠ []) :
    ((projection rules events).exceptions = [] ↔ Grammatical events) ∧
      (Grammatical events → ∃ state, (projection rules events).states = [state] ∧
        state.authorizedMinor = authorizedMinor events ∧
        state.capturedMinor = capturedMinor events ∧
        state.refundedMinor = refundedMinor events ∧
        state.chargebackMinor = chargebackMinor events ∧
        ∀ status, Determines state.authorizedMinor state.capturedMinor state.refundedMinor
          state.chargebackMinor status ↔ status = state.status) := by
  obtain ⟨current, last⟩ := last_exists nonempty
  rw [← valid_grammatical nonempty, ← verdict_none]
  constructor
  · cases failed : verdict events with
    | none => simp only [projection_valid last failed]
    | some reason =>
      simp only [projection_invalid nonempty failed, List.map_eq_nil_iff, nonempty, reduceCtorEq]
  · intro passed
    have grammatical := (valid_grammatical nonempty).mp (verdict_none.mp passed)
    refine ⟨stateRow events current, ?_, rfl, rfl, rfl, rfl, fun status => ?_⟩
    · rw [projection_valid last passed]
    · exact (status_determined grammatical).trans eq_comm

/-- A sample event of one transaction. -/
def grammarEvent (eventId : Identifier) (eventType : EventType) (version : {n : Int // 1 ≤ n}) :
    PaymentEvent where
  eventId
  transactionId := ⟨str "txn-1", .refl true⟩
  transactionVersion := version.1
  sourceId := ⟨str "checkout-01", .refl true⟩
  processorId := ⟨str "processor-01", .refl true⟩
  merchantId := ⟨str "merchant-001", .refl true⟩
  eventType
  amountMinor := 1000
  currency := .inr
  eventTime := newYearNoon
  receivedAt := newYearNoon
  customerToken := none
  versionPositive := positive version
  amountPositive := by decide

/-- A capture that arrives before its authorization. -/
def lateAuthorization : List PaymentEvent :=
  [grammarEvent ⟨str "evt-2", .refl true⟩ .capture 2,
    grammarEvent ⟨str "evt-1", .refl true⟩ .authorization 1]

/-- The order of arrival does not matter to the grammar: an authorization that arrives after its
capture still opens the history. -/
theorem late_authorization_grammatical : Grammatical lateAuthorization :=
  (lifecycle_grammar shippedRules (List.cons_ne_nil _ _)).1.mp (by decide +kernel)

end LedgerFlow
