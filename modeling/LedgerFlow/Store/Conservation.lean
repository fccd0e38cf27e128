import LedgerFlow.Store.Invariant

/-!
# Money is conserved

Under posting rules whose receivable multipliers follow the shipped configuration, one
event moves the receivable account by exactly what it adds to the settlement. Summed
over a valid history this is the captured amount less refunds and chargebacks. The
three totals of a processor and currency, over payment states, expected settlements and
ledger lines, are therefore sums of the same amounts over the same transactions.
-/

namespace LedgerFlow

open PyText Grouping Programs Programs.Program

/-! ## Posting rules -/

/-- The account of the amounts due from processors. -/
def receivable : Str := str "processor_receivable"

/-- The total multiplier of the receivable account in the rule of a type. -/
def receivableMultiplier (rules : PostingRules) (eventType : EventType) : Int :=
  selected (fun entry => entry.1 = receivable) Prod.snd ((rules.rules eventType).getD [])

/-- The receivable account follows captures, refunds and chargebacks. -/
structure Conserving (rules : PostingRules) : Prop where
  authorization : receivableMultiplier rules .authorization = 0
  capture : receivableMultiplier rules .capture = 1
  refund : receivableMultiplier rules .refund = -1
  chargeback : receivableMultiplier rules .chargeback = -1

/-! ## One event -/

/-- What an event adds to the settlement once it is posted. -/
def settled (event : PaymentEvent) : Int := settledAmount (postedRow event)

section OneEvent

variable {rules : PostingRules} {event : PaymentEvent}

/-- The lines of an account add up to the amount times the account's multipliers. -/
theorem account_lines (event : PaymentEvent) (version : Int) (position : Nat) (account : Str)
    (entries : List (Str × Int)) :
    selected (fun line => line.account = account) PostingLine.signedMinor
        (numberedLines event version position entries) =
      event.amountMinor * selected (fun entry => entry.1 = account) Prod.snd entries := by
  induction entries generalizing position with
  | nil => simp [numberedLines, selected]
  | cons entry rest inductionHypothesis =>
    rw [numberedLines, selected_cons, selected_cons, inductionHypothesis, Int.mul_add]
    by_cases same : entry.1 = account <;> simp [postingLine, same]

/-- An event moves the receivable account by what it adds to the settlement. -/
theorem receivable_settled (conserving : Conserving rules) :
    selected (fun line => line.account = receivable) PostingLine.signedMinor
      (postings rules event) = settled event := by
  rw [postings, account_lines]
  change event.amountMinor * receivableMultiplier rules event.eventType = settled event
  unfold settled settledAmount postedRow
  cases event.eventType with
  | authorization => rw [conserving.authorization, Int.mul_zero]
  | capture => rw [conserving.capture, Int.mul_one]
  | refund => rw [conserving.refund, Int.mul_neg, Int.mul_one]
  | chargeback => rw [conserving.chargeback, Int.mul_neg, Int.mul_one]

/-- An event without lines adds nothing to the settlement, so its missing posted row
does not matter. -/
theorem posted_settled (conserving : Conserving rules) :
    ((postedRows rules event).map settledAmount).sum = settled event := by
  unfold postedRows
  by_cases none : postings rules event = []
  · have nothing := @receivable_settled rules event conserving
    rw [none] at nothing
    rw [if_pos none]
    exact nothing
  · rw [if_neg none]
    exact List.sum_singleton

/-- The lines of a balanced rule add up to zero in every balance group. -/
theorem balanced_lines (postable : Postable rules event) (key : Identifier × Currency) :
    selected (fun line => balanceKey line = key) PostingLine.signedMinor (postings rules event) =
      0 := by
  obtain ⟨⟨entries, ruled, balanced⟩, _⟩ := postable
  have common {line : PostingLine} (member : line ∈ postings rules event) :
      balanceKey line = (event.eventId, event.currency) := by
    obtain ⟨sameEvent, _, _, _, sameCurrency, _⟩ := numbered_line member
    exact Prod.ext sameEvent sameCurrency
  by_cases same : (event.eventId, event.currency) = key
  · rw [selected_all fun line member => decide_eq_true ((common member).trans same), postings,
      numbered_sum, ruled, Option.getD_some, balanced, Int.mul_zero]
  · refine selected_none fun line member => decide_eq_false ?_
    rw [common member]
    exact same

end OneEvent

/-! ## One transaction -/

/-- The captured amount of a payment less its refunds and chargebacks. -/
def netCaptured (row : StateRow) : Int :=
  row.capturedMinor - row.refundedMinor - row.chargebackMinor

/-- What the events of a history add to the settlement is its net captured amount. -/
theorem settled_sum (events : List PaymentEvent) :
    (events.map settled).sum =
      capturedMinor events - refundedMinor events - chargebackMinor events := by
  induction events with
  | nil => rfl
  | cons event rest inductionHypothesis =>
    have step (eventType : EventType) : amount (ofType eventType (event :: rest)) =
        (if event.eventType = eventType then event.amountMinor else 0) +
          amount (ofType eventType rest) := by
      have cut := selected_cons (fun event => event.eventType = eventType)
        PaymentEvent.amountMinor event rest
      simp only [decide_eq_true_eq] at cut
      exact cut
    rw [List.map_cons, List.sum_cons, inductionHypothesis]
    simp only [capturedMinor, refundedMinor, chargebackMinor, step, settled, settledAmount,
      postedRow]
    cases event.eventType <;> simp <;> omega

section OneTransaction

variable (processor : Identifier) (currency : Currency)

/-- The state row is of this processor and currency. -/
def stateOf (row : StateRow) : Bool := row.processorId = processor ∧ row.currency = currency

/-- The posted row is of this processor and currency. -/
def postedOf (row : PostedRow) : Bool := row.processorId = processor ∧ row.currency = currency

/-- The line is on the receivable account, for this processor and currency. -/
def receivableOf (line : PostingLine) : Bool :=
  line.account = receivable ∧ line.processorId = processor ∧ line.currency = currency

variable {processor currency}

/-- A history of one processor and currency has all its money in that group. -/
theorem selected_postings {rules : PostingRules} (conserving : Conserving rules)
    {events : List PaymentEvent}
    (all : ∀ event ∈ events, event.processorId = processor ∧ event.currency = currency) :
    selected (postedOf processor currency) settledAmount (events.flatMap (postedRows rules)) =
        (events.map settled).sum ∧
      selected (receivableOf processor currency) PostingLine.signedMinor
        (events.flatMap (postings rules)) = (events.map settled).sum := by
  rw [selected_flat_map, selected_flat_map]
  constructor
  · refine congrArg List.sum (List.map_congr_left fun event member => ?_)
    rw [selected_all, posted_settled conserving]
    intro row inside
    unfold postedRows at inside
    split at inside
    · cases inside
    · rw [List.mem_singleton.mp inside]
      exact decide_eq_true (all event member)
  · refine congrArg List.sum (List.map_congr_left fun event member => ?_)
    rw [← @receivable_settled rules event conserving]
    refine congrArg (fun kept => (List.map PostingLine.signedMinor kept).sum)
      (List.filter_congr fun line inside => ?_)
    obtain ⟨_, _, sameProcessor, _, sameCurrency, _⟩ := numbered_line inside
    simp [receivableOf, sameProcessor, sameCurrency, all event member]

/-- A history of another processor or currency has no money in this group. -/
theorem selected_postings_none {rules : PostingRules} {events : List PaymentEvent}
    (other : ∀ event ∈ events, ¬ (event.processorId = processor ∧ event.currency = currency)) :
    selected (postedOf processor currency) settledAmount (events.flatMap (postedRows rules)) = 0 ∧
      selected (receivableOf processor currency) PostingLine.signedMinor
        (events.flatMap (postings rules)) = 0 := by
  constructor
  · refine selected_none fun row inside => ?_
    obtain ⟨event, member, here⟩ := List.mem_flatMap.mp inside
    unfold postedRows at here
    split at here
    · cases here
    · rw [List.mem_singleton.mp here]
      exact decide_eq_false (other event member)
  · refine selected_none fun line inside => ?_
    obtain ⟨event, member, here⟩ := List.mem_flatMap.mp inside
    obtain ⟨_, _, sameProcessor, _, sameCurrency, _⟩ := numbered_line here
    refine decide_eq_false fun both => other event member ?_
    rw [← sameProcessor, ← sameCurrency]
    exact both.2

/-- One transaction contributes the same amount to all three totals.

Proof: an invalid one contributes nothing to any of them. A valid one has one state, whose net
amount is that of its captures less its reversals; event by event this is what settlement counts,
and what the rule puts on the receivable account. -/
theorem transaction_conserved {rules : PostingRules} (conserving : Conserving rules)
    (events : List PaymentEvent) :
    selected (stateOf processor currency) netCaptured (projection rules events).states =
        selected (postedOf processor currency) settledAmount (projection rules events).posted ∧
      selected (postedOf processor currency) settledAmount (projection rules events).posted =
        selected (receivableOf processor currency) PostingLine.signedMinor
          (projection rules events).ledger := by
  unfold projection
  cases last : events.getLast? with
  | none => exact ⟨rfl, rfl⟩
  | some current =>
    cases judged : verdict events with
    | some reason => exact ⟨rfl, rfl⟩
    | none =>
      have valid := verdict_none.mp judged
      have same {event : PaymentEvent} (member : event ∈ events) :
          event.processorId = current.processorId ∧ event.currency = current.currency :=
        ⟨distinct_one valid.oneProcessor member (last_mem last),
          distinct_one valid.oneCurrency member (last_mem last)⟩
      have ofState : stateOf processor currency (stateRow events current) = true ↔
          current.processorId = processor ∧ current.currency = currency := decide_eq_true_iff
      by_cases here : current.processorId = processor ∧ current.currency = currency
      · have ⟨posted, lines⟩ := @selected_postings processor currency rules conserving events
          fun event member => by
            rw [(same member).1, (same member).2]
            exact here
        rw [posted, lines, selected_cons, if_pos (ofState.mpr here), settled_sum]
        exact ⟨Int.add_zero _, rfl⟩
      · have ⟨posted, lines⟩ := @selected_postings_none processor currency rules events
          fun event member => by
            rw [(same member).1, (same member).2]
            exact here
        rw [posted, lines, selected_cons, if_neg fun wrong => here (ofState.mp wrong)]
        exact ⟨rfl, rfl⟩

end OneTransaction

/-! ## Running sums -/

/-- No running sum of the values leaves 64 bits. -/
def RunningFits : Int → List Int → Prop
  | _, [] => True
  | total, value :: rest => Int64 (total + value) ∧ RunningFits (total + value) rest

instance decidableRunningFits : ∀ (total : Int) (values : List Int),
    Decidable (RunningFits total values)
  | _, [] => .isTrue trivial
  | total, value :: rest =>
      have := decidableRunningFits (total + value) rest
      inferInstanceAs (Decidable (Int64 (total + value) ∧ RunningFits (total + value) rest))

/-- SQLite's sum returns the sum exactly where no partial sum overflows; otherwise it raises. -/
theorem running_sum_ok {total result : Int} {values : List Int} :
    runningSum total values = .ok result ↔
      RunningFits total values ∧ result = total + values.sum := by
  induction values generalizing total with
  | nil => simp [runningSum, RunningFits, eq_comm]
  | cons value rest inductionHypothesis =>
    simp only [runningSum, bind_ok, require_ok, exists_const, inductionHypothesis, RunningFits,
      List.sum_cons, Int.add_assoc, and_assoc]

/-- A sum is fetched exactly when its running sums fit, and it is then the sum. -/
theorem sql_sum_ok {values : List Int} {result : Int} :
    sqlSum values = .ok result ↔ RunningFits 0 values ∧ result = values.sum := by
  rw [sqlSum, running_sum_ok, Int.zero_add]

/-- Group sums are fetched exactly when the running sums of every group fit. -/
theorem group_sums_ok {Row Key : Type} [DecidableEq Key] {key : Row → Key} {value : Row → Int}
    {rows : List Row} {keys : List Key} {result : List (Key × Int)} :
    groupSums key value rows keys = .ok result ↔
      (∀ k ∈ keys, RunningFits 0 ((group key k rows).map value)) ∧
        result = keys.map fun k => (k, ((group key k rows).map value).sum) := by
  induction keys generalizing result with
  | nil => simp [groupSums, eq_comm]
  | cons k rest inductionHypothesis =>
    simp only [groupSums, bind_ok, sql_sum_ok, inductionHypothesis, List.forall_mem_cons,
      List.map_cons, Except.ok.injEq]
    constructor
    · rintro ⟨_, ⟨fits, rfl⟩, _, ⟨others, rfl⟩, rfl⟩
      exact ⟨⟨fits, others⟩, rfl⟩
    · rintro ⟨⟨fits, others⟩, rfl⟩
      exact ⟨_, ⟨fits, rfl⟩, _, ⟨others, rfl⟩, rfl⟩

/-! ## The store -/

/-- The sums of the expected settlement stay within 64 bits. -/
def SettlementFits (tables : Tables) : Prop :=
  ∀ key, RunningFits 0 ((group settlementKey key tables.postedEvent).map settledAmount)

/-- The expected settlement, once fetched, is the sums of the posted rows by key. -/
theorem expected_settlement_sums {database : Database} (fits : SettlementFits database.tables) :
    (expectedSettlement.run.eval perform database.opened).1 =
      .ok ((settlementKeys (database.tables.postedEvent.map settlementKey)).map fun key =>
        (key, ((group settlementKey key database.tables.postedEvent).map settledAmount).sum)) := by
  have fetched : Query.run database .expectedSettlement =
      .ok ((settlementKeys (database.tables.postedEvent.map settlementKey)).map fun key =>
        (key, ((group settlementKey key database.tables.postedEvent).map settledAmount).sum)) :=
    group_sums_ok.mpr ⟨fun key _ => fits key, rfl⟩
  have body : (select .expectedSettlement).run.eval perform database.opened =
      (Query.run database .expectedSettlement, database.opened) := rfl
  rw [fetched] at body
  exact congrArg Prod.fst (eval_with_connection database.opened body)

/-- No settlement key is listed twice, so that each becomes one row. -/
theorem settlement_keys_nodup (keys : List SettlementKey) : (settlementKeys keys).Nodup :=
  (List.perm_insertionSort bySettlementKey _).nodup_iff.mpr (List.nodup_dedup keys)

/-- Picking the processor and currency of a settlement key picks the posted rows. -/
theorem settlement_picked (rows : List PostedRow) (processor : Identifier) (currency : Currency) :
    picked (fun key => key.2 = (processor.1, currency.text))
        ((settlementKeys (rows.map settlementKey)).map fun key =>
          (key, ((group settlementKey key rows).map settledAmount).sum)) =
      selected (postedOf processor currency) settledAmount rows := by
  rw [picked_sums settlementKey settledAmount _ (settlement_keys_nodup _)]
  · refine congrArg (fun kept => (List.map settledAmount kept).sum)
      (List.filter_congr fun row _ => decide_eq_decide.mpr ?_)
    constructor
    · intro same
      have ⟨names, codes⟩ := Prod.mk.inj same
      exact ⟨Subtype.ext names, currency_text_inj codes⟩
    · rintro ⟨names, codes⟩
      exact Prod.ext (congrArg Subtype.val names) (congrArg Currency.text codes)
  · intro row member
    rw [settlementKeys, List.mem_insertionSort, List.mem_dedup]
    exact List.mem_map_of_mem member

/-- The three totals of a rebuild agree, by addition over its transactions. -/
theorem rebuild_conserved {rules : PostingRules} (conserving : Conserving rules)
    (accepted : List PaymentEvent) (processor : Identifier) (currency : Currency) :
    selected (stateOf processor currency) netCaptured (projectAll rules accepted).states =
        selected (postedOf processor currency) settledAmount (projectAll rules accepted).posted ∧
      selected (postedOf processor currency) settledAmount (projectAll rules accepted).posted =
        selected (receivableOf processor currency) PostingLine.signedMinor
          (projectAll rules accepted).ledger := by
  rw [project_all_states, project_all_posted, project_all_ledger, selected_flat_map,
    selected_flat_map, selected_flat_map]
  constructor
  · refine congrArg List.sum (List.map_congr_left fun id _ => ?_)
    exact (transaction_conserved conserving (history accepted id)).1
  · refine congrArg List.sum (List.map_congr_left fun id _ => ?_)
    exact (transaction_conserved conserving (history accepted id)).2

/-- The net captured amount of a payment is covered by its authorization: captures are, and
reversals take away no more than was captured. -/
theorem net_captured_bounds {rules : PostingRules} {accepted : List PaymentEvent} {row : StateRow}
    (member : row ∈ (projectAll rules accepted).states) :
    0 ≤ netCaptured row ∧ netCaptured row ≤ row.authorizedMinor := by
  rw [project_all_states] at member
  obtain ⟨id, _, inside⟩ := List.mem_flatMap.mp member
  obtain ⟨judged, current, _, rfl⟩ := projection_states.mp inside
  have valid := verdict_none.mp judged
  have covered := valid.covered
  have reversalsCovered := valid.reversalsCovered
  have refunded := amount_nonneg (ofType .refund (history accepted id))
  have chargedBack := amount_nonneg (ofType .chargeback (history accepted id))
  simp only [netCaptured, stateRow]
  unfold refundedMinor chargebackMinor at *
  omega

/-- The lines of a rebuild are balanced event by event and currency by currency. -/
theorem rebuild_balanced {rules : PostingRules} {accepted : List PaymentEvent}
    (postable : AllPostable rules accepted) (key : Identifier × Currency) :
    ((group balanceKey key (projectAll rules accepted).ledger).map PostingLine.signedMinor).sum =
      0 := by
  change selected (fun line => balanceKey line = key) PostingLine.signedMinor _ = 0
  rw [project_all_ledger, selected_flat_map]
  refine List.sum_eq_zero fun total present => ?_
  obtain ⟨id, listed, rfl⟩ := List.mem_map.mp present
  unfold projection
  cases (history accepted id).getLast? with
  | none => rfl
  | some current =>
    cases judged : verdict (history accepted id) with
    | some reason => rfl
    | none =>
      change selected _ _ ((history accepted id).flatMap (postings rules)) = 0
      rw [selected_flat_map]
      refine List.sum_eq_zero fun total present => ?_
      obtain ⟨event, member, rfl⟩ := List.mem_map.mp present
      exact balanced_lines (postable id listed judged event member) key

/-- Money is conserved. In every reachable store whose posting rules follow the shipped
receivable multipliers, and whose settlement sums fit, the payment states, the expected
settlement and the receivable account agree for every processor and currency; every
payment's net captured amount is covered by its authorization; and every event's lines
are balanced in each currency. -/
theorem money_conserved {database : Database} {rules : Option PostingRules}
    (reachable : Reachable database rules)
    (conserving : ∀ last, rules = some last → Conserving last)
    (fits : SettlementFits database.tables) :
    ∃ entries, (expectedSettlement.run.eval perform database.opened).1 = .ok entries ∧
      (∀ (processor : Identifier) (currency : Currency),
        selected (stateOf processor currency) netCaptured database.tables.paymentState =
            picked (fun key => key.2 = (processor.1, currency.text)) entries ∧
          picked (fun key => key.2 = (processor.1, currency.text)) entries =
            selected (receivableOf processor currency) PostingLine.signedMinor
              database.tables.ledgerEntry) ∧
      (∀ row ∈ database.tables.paymentState,
        0 ≤ netCaptured row ∧ netCaptured row ≤ row.authorizedMinor) ∧
      ∀ (eventId : Identifier) (currency : Currency),
        ((group balanceKey (eventId, currency) database.tables.ledgerEntry).map
          PostingLine.signedMinor).sum = 0 := by
  refine ⟨_, expected_settlement_sums fits, ?_⟩
  have projected := (reachable_consistent reachable).projected
  cases rules with
  | none =>
    have ⟨_, posted, ledger, states⟩ := Projection.mk.inj projected.2
    rw [posted, ledger, states]
    exact ⟨fun _ _ => ⟨rfl, rfl⟩, fun _ none => absurd none List.not_mem_nil, fun _ _ => rfl⟩
  | some last =>
    obtain ⟨postable, rows⟩ := projected
    have states := congrArg Projection.states rows
    have posted := congrArg Projection.posted rows
    have ledger := congrArg Projection.ledger rows
    simp only [Tables.projection] at states posted ledger
    refine ⟨fun processor currency => ?_, ?_, ?_⟩
    · rw [settlement_picked, states, posted, ledger]
      exact rebuild_conserved (conserving last rfl) _ processor currency
    · rw [states]
      exact fun row member => net_captured_bounds member
    · rw [ledger]
      exact fun eventId currency => rebuild_balanced postable (eventId, currency)

/-- The shipped rules follow captures, refunds and chargebacks on the receivable account, so the
result applies to them. -/
theorem shipped_conserving : Conserving shippedRules :=
  ⟨by decide, by decide, by decide, by decide⟩

/-- The settlement of a single posted row fits when its amount does; there is no partial sum
beside it. -/
theorem single_settlement_fits {tables : Tables} {amount : Int}
    (amounts : tables.postedEvent.map settledAmount = [amount]) (fits : Int64 amount) :
    SettlementFits tables := by
  intro key
  obtain ⟨row, only, same⟩ := List.map_eq_singleton_iff.mp amounts
  have none : group settlementKey key ([] : List PostedRow) = [] := rfl
  rw [only, group_cons, none]
  by_cases here : settlementKey row = key
  · rw [if_pos here, List.map_singleton, same]
    exact ⟨(Int.zero_add amount).symm ▸ fits, True.intro⟩
  · rw [if_neg here]
    exact True.intro

/-- The sample capture is due from its processor in all three totals. -/
theorem money_conserved_sample :
    ∃ entries, (expectedSettlement.run.eval perform sampleDatabase.opened).1 = .ok entries ∧
      selected (stateOf ⟨str "processor-01", by decide⟩ .inr) netCaptured
          sampleDatabase.tables.paymentState =
        picked (fun key => key.2 = (str "processor-01", Currency.inr.text)) entries := by
  have followed : ∀ last, some shippedRules = some last → Conserving last := by
    intro last same
    cases same
    exact shipped_conserving
  have fits : SettlementFits sampleDatabase.tables :=
    @single_settlement_fits sampleDatabase.tables 600 (by decide +kernel) (by decide)
  obtain ⟨entries, returned, agree, _⟩ :=
    @money_conserved sampleDatabase (some shippedRules) sample_reachable followed fits
  exact ⟨entries, returned, (agree ⟨str "processor-01", by decide⟩ .inr).1⟩

end LedgerFlow
