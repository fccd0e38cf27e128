import LedgerFlow.Simulator.Batches

/-!
# Generated times stay in the calendar

Adding seconds moves a reading by at most one day for each full day of them and one more, and
each day by at most one year. The generator starts in 2026 and moves ten seconds for each
transaction, so that a million records are far from the end of the calendar.

The first arrival of a batch is the authorization of the first transaction.
-/

namespace LedgerFlow.Simulator

open PyText PyJson PyDateTime Grouping

/-! ## Years -/

/-- The next day is in the same year or in the next one. -/
theorem year_next (date : Date) : date.year ≤ date.next.year ∧ date.next.year ≤ date.year + 1 := by
  unfold Date.next
  split
  · exact ⟨le_refl _, Nat.le_succ _⟩
  · split
    · exact ⟨le_refl _, Nat.le_succ _⟩
    · exact ⟨Nat.le_succ _, le_refl _⟩

/-- So many days later, the year has grown by no more than the number of days. The bound is far
from sharp, and enough. -/
theorem year_iterate (days : Nat) (date : Date) :
    date.year ≤ (Date.next^[days] date).year ∧ (Date.next^[days] date).year ≤ date.year + days := by
  induction days with
  | zero => exact ⟨le_refl _, le_refl _⟩
  | succ days inductionHypothesis =>
    have step := year_next (Date.next^[days] date)
    rw [Function.iterate_succ_apply']
    omega

/-- The year of a reading, if the calendar goes on for so many years. -/
def Within (year : Nat) (timestamp : Timestamp) : Prop := timestamp.date.year ≤ year

/-- Seconds can be added as long as there is a year for each day of them and one more. -/
theorem plus_seconds_within {year seconds : Nat} {timestamp : Timestamp}
    (starts : Within year timestamp) (room : year + seconds / 86400 + 1 ≤ 9999) :
    ∃ result, timestamp.plusSeconds seconds = some result ∧
      Within (year + seconds / 86400 + 1) result := by
  unfold Within at starts
  have clock := timestamp.clock
  have first := timestamp.yearRange
  have days := year_iterate
    (((timestamp.hour * 60 + timestamp.minute) * 60 + timestamp.second + seconds) / 86400)
    timestamp.date
  unfold Timestamp.plusSeconds Timestamp.of?
  dsimp only
  rw [dif_pos ⟨by omega, by omega, timestamp.offsetRange⟩]
  refine ⟨_, rfl, ?_⟩
  show (Date.next^[_] timestamp.date).year ≤ _
  omega

/-- Adding seconds succeeds while the calendar still has a year for each day, and one more. -/
theorem later_within {year seconds : Nat} {timestamp : Timestamp} (starts : Within year timestamp)
    (room : year + seconds / 86400 + 1 ≤ 9999) :
    ∃ result, later timestamp seconds = .ok result ∧
      Within (year + seconds / 86400 + 1) result := by
  obtain ⟨result, added, within⟩ := plus_seconds_within starts room
  exact ⟨result, by rw [later, added], within⟩

/-! ## Events -/

section Events

variable {year number version amountMinor : Nat} {eventType : EventType} {source : Source}
  {timestamp : Timestamp}

/-- An event is made, and received within two years of the reading it starts from. -/
theorem event_within (starts : Within year timestamp) (small : version ≤ 3)
    (room : year + 2 ≤ 9999) :
    ∃ eventTime receivedAt, later timestamp (60 * version) = .ok eventTime ∧
      later eventTime ((number * 17 + version * 11) % 240) = .ok receivedAt ∧
      Within (year + 2) receivedAt ∧
      event number version eventType amountMinor source timestamp =
        .ok (eventFields number version eventType amountMinor source eventTime receivedAt) := by
  have minutes : 60 * version / 86400 = 0 := by omega
  have delay : (number * 17 + version * 11) % 240 / 86400 = 0 := by omega
  obtain ⟨eventTime, happens, first⟩ := @later_within year (60 * version) _ starts (by omega)
  rw [minutes] at first
  obtain ⟨receivedAt, received, second⟩ :=
    @later_within (year + 1) ((number * 17 + version * 11) % 240) _ first (by omega)
  rw [delay] at second
  refine ⟨eventTime, receivedAt, happens, received, second, ?_⟩
  rw [event, happens]
  show later eventTime _ >>= _ = _
  rw [received]
  rfl

/-- The transactions of the first ten million numbers have their events: ten seconds for each
number stay well within the calendar. -/
theorem transaction_within (small : number ≤ 10000000) :
    ∃ raws, transactionEvents source number = .ok raws := by
  obtain ⟨baseTime, opened, starts⟩ :=
    @later_within 2026 (number * 10) base (le_refl 2026) (by omega)
  have bound : 2026 + number * 10 / 86400 + 1 ≤ 9990 := by omega
  have made (version amountMinor : Nat) (eventType : EventType) (least : version ≤ 3) :
      ∃ raw, event number version eventType amountMinor source baseTime = .ok raw := by
    obtain ⟨_, _, _, _, _, built⟩ := event_within starts least (by omega)
    exact ⟨_, built⟩
  obtain ⟨authorization, authorized⟩ := made 1 (amountOf number) .authorization (by decide)
  obtain ⟨capture, captured⟩ := made 2 (amountOf number) .capture (by decide)
  obtain ⟨refund, refunded⟩ := made 3 (max 1 (amountOf number / 4)) .refund (by decide)
  obtain ⟨chargeback, charged⟩ := made 3 (max 1 (amountOf number / 5)) .chargeback (by decide)
  simp only [transactionEvents, opened, authorized, captured, refunded, charged, bind, Except.bind]
  split
  · exact ⟨_, rfl⟩
  · split <;> exact ⟨_, rfl⟩

end Events

/-! ## The loop -/

section Loop

variable {sources : List Source} {minimumRecords : Int}

/-- A source is found for each number where there are any: they take turns. -/
theorem source_found (nonempty : sources ≠ []) (number : Nat) :
    ∃ source ∈ sources, sourceOf sources number = .ok source := by
  have inside : (number - 1) % sources.length < sources.length :=
    Nat.mod_lt _ (List.length_pos_iff.mpr nonempty)
  refine ⟨sources[(number - 1) % sources.length], List.getElem_mem inside, ?_⟩
  rw [sourceOf, List.getElem?_eq_getElem inside]

/-- Within ten million turns, no date of the generated events leaves the calendar, and the
generation returns. -/
theorem valid_events_within (nonempty : sources ≠ []) {turns number : Nat} {valid : List Fields}
    (small : number + turns ≤ 10000000) :
    ∃ result, validEvents sources minimumRecords turns number valid = .ok result := by
  induction turns generalizing number valid with
  | zero => exact ⟨_, rfl⟩
  | succ turns inductionHypothesis =>
    rw [validEvents]
    split
    · obtain ⟨source, _, found⟩ := source_found nonempty number
      obtain ⟨raws, made⟩ := @transaction_within number source (by omega)
      obtain ⟨result, looped⟩ := @inductionHypothesis (number + 1) (valid ++ raws) (by omega)
      refine ⟨result, ?_⟩
      rw [found]
      show transactionEvents source number >>= _ = _
      rw [made]
      exact looped
    · exact ⟨_, rfl⟩

/-- The loop appends to the events that it has and drops none of them. -/
theorem valid_events_extend {turns number last : Nat} {valid result : List Fields}
    (looped : validEvents sources minimumRecords turns number valid = .ok (result, last)) :
    valid <+: result := by
  induction turns generalizing number valid with
  | zero =>
    cases looped
    exact List.prefix_refl _
  | succ turns inductionHypothesis =>
    rw [validEvents] at looped
    split at looped
    · obtain ⟨_, _, following⟩ := bind_ok.mp looped
      obtain ⟨raws, _, rest⟩ := bind_ok.mp following
      exact (List.prefix_append valid raws).trans (inductionHypothesis rest)
    · cases looped
      exact List.prefix_refl _

/-- The loop, where records are wanted, starts with the events of the number that it is given. -/
theorem valid_events_opens {turns number last : Nat} {result : List Fields}
    (wanted : 0 < minimumRecords)
    (looped : validEvents sources minimumRecords (turns + 1) number [] = .ok (result, last)) :
    ∃ source ∈ sources, ∃ raws, sourceOf sources number = .ok source ∧
      transactionEvents source number = .ok raws ∧ raws <+: result := by
  rw [validEvents, if_pos (by simpa using wanted)] at looped
  obtain ⟨source, found, following⟩ := bind_ok.mp looped
  obtain ⟨raws, made, rest⟩ := bind_ok.mp following
  exact ⟨source, source_of_mem found, raws, found, made, valid_events_extend rest⟩

end Loop

/-- The events of a transaction start with its authorization, followed by its capture; both have
the amount of its number. -/
theorem transaction_opens {source : Source} {number : Nat} {raws : List Fields}
    (made : transactionEvents source number = .ok raws) :
    ∃ baseTime authorization capture rest, later base (number * 10) = .ok baseTime ∧
      event number 1 .authorization (amountOf number) source baseTime = .ok authorization ∧
      raws = authorization :: capture :: rest := by
  obtain ⟨baseTime, opened, following⟩ := bind_ok.mp made
  obtain ⟨authorization, authorized, following⟩ := bind_ok.mp following
  obtain ⟨capture, _, following⟩ := bind_ok.mp following
  refine ⟨baseTime, authorization, capture, ?_⟩
  split at following
  · obtain ⟨_, _, done⟩ := bind_ok.mp following
    cases done
    exact ⟨_, opened, authorized, rfl⟩
  · split at following
    · obtain ⟨_, _, done⟩ := bind_ok.mp following
      cases done
      exact ⟨_, opened, authorized, rfl⟩
    · cases following
      exact ⟨_, opened, authorized, rfl⟩

/-! ## The generator -/

section Generator

variable {shuffle : Int → List Fields → List Fields} {registry : Registry}
  {minimumRecords seed : Int}

/-- An event received well before the end of the calendar has its conflict. -/
theorem conflict_within {number version amountMinor year : Nat} {eventType : EventType}
    {source : Source} {eventTime receivedAt : Timestamp} (whole : Whole receivedAt)
    (within : Within year receivedAt) (room : year + 1 ≤ 9999) :
    ∃ conflict, conflictOf (eventFields number version eventType amountMinor source eventTime
      receivedAt) = .ok conflict := by
  obtain ⟨delayed, added, _⟩ := @later_within year 300 _ within (by omega)
  let raw := eventFields number version eventType amountMinor source eventTime receivedAt
  have amount : get raw (str "amount_minor") = some (.int amountMinor) := rfl
  have time : get raw (str "received_at") = some (.str receivedAt.isoformat) := rfl
  rw [conflictOf, amount, time]
  simp only [fromisoformat_isoformat whole.whole whole.utc, added]
  exact ⟨_, rfl⟩

/-- Where the conflict can be made, the injected events can: apart from it they need two valid
events to start from. -/
theorem injected_of_conflict {first second conflict : Fields} {rest : List Fields}
    (conflicts : conflictOf first = .ok conflict) :
    ∃ injected, injectedEvents (first :: second :: rest) = .ok injected := by
  rw [injectedEvents]
  show ∃ injected, conflictOf first >>= _ = .ok injected
  rw [conflicts]
  exact ⟨_, rfl⟩

/-- A million records are generated without leaving the calendar, from any seed and shuffle. Each
number makes two events at least, so a million records need no more numbers than that. -/
theorem generate_arrivals_within (nonempty : lifecycleSources registry ≠ [])
    (least : 100 ≤ minimumRecords) (most : minimumRecords ≤ 1000000) :
    ∃ arrived, generateArrivals shuffle registry minimumRecords seed = .ok arrived := by
  obtain ⟨turns, many⟩ : ∃ turns, minimumRecords.toNat = turns + 1 :=
    ⟨minimumRecords.toNat - 1, by omega⟩
  obtain ⟨⟨result, last⟩, looped⟩ := @valid_events_within _ minimumRecords nonempty
    minimumRecords.toNat 1 [] (by omega)
  have started := looped
  rw [many] at started
  obtain ⟨source, _, raws, _, made, opens⟩ := valid_events_opens (by omega) started
  obtain ⟨baseTime, authorization, capture, rest, opened, authorized, rfl⟩ := transaction_opens made
  obtain ⟨more, rfl⟩ := opens
  obtain ⟨_, began, starts⟩ := @later_within 2026 (1 * 10) base (le_refl 2026) (by decide)
  cases opened.symm.trans began
  obtain ⟨eventTime, receivedAt, happens, received, within, built⟩ :=
    @event_within 2027 1 1 (amountOf 1) .authorization source _ starts (by decide) (by decide)
  cases authorized.symm.trans built
  have whole := later_whole (later_whole (later_whole ⟨rfl, rfl⟩ opened) happens) received
  obtain ⟨conflict, conflicts⟩ := @conflict_within 1 1 (amountOf 1) _ .authorization source
    eventTime _ whole within (by decide)
  obtain ⟨injected, complete⟩ := @injected_of_conflict _ capture conflict (rest ++ more) conflicts
  have required (condition : Prop) [Decidable condition] (error : PyError) (holds : condition) :
      require condition error = .ok () := if_pos holds
  rw [generateArrivals, required _ _ least]
  dsimp only [bind, Except.bind]
  rw [required _ _ nonempty]
  dsimp only
  rw [looped]
  dsimp only
  rw [show injectedEvents (_ :: capture :: rest ++ more) = .ok injected from complete]
  exact ⟨_, rfl⟩

/-- The first valid event of a run is the authorization of the first transaction. -/
theorem generate_arrivals_opens {arrivals valid : List Fields} {transactions : Nat}
    (generated : generateArrivals shuffle registry minimumRecords seed =
      .ok (arrivals, valid, transactions)) :
    ∃ source ∈ lifecycleSources registry, ∃ raws,
      sourceOf (lifecycleSources registry) 1 = .ok source ∧
        transactionEvents source 1 = .ok raws ∧ raws <+: valid := by
  simp only [generateArrivals, bind_ok, require_ok, exists_const] at generated
  obtain ⟨least, _, ⟨looped, last⟩, found, injected, _, same⟩ := generated
  obtain ⟨turns, many⟩ : ∃ turns, minimumRecords.toNat = turns + 1 :=
    ⟨minimumRecords.toNat - 1, by omega⟩
  rw [many] at found
  cases same
  exact valid_events_opens (by omega) found

end Generator

end LedgerFlow.Simulator
