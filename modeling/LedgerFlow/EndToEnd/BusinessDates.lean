import LedgerFlow.SchemaGate.Handler
import LedgerFlow.Spark.Pipeline
import LedgerFlow.Store.Database

/-!
# The business date of an event

Four places date an event by its event time. The identity gate and the expected
settlement take the first ten characters of the stored text, which is the date as it
was written. The Spark jobs parse the text and take the date of the instant, in a
session in UTC. The stored text keeps the offset it was sent with, so the two dates
agree exactly when the written time of day, less the offset, stays within the day.
-/

namespace LedgerFlow.EndToEnd

open PyText PyJson PyDateTime

/-! ## Instants -/

/-- The clock reading in UTC: the date, and the microseconds since its midnight. -/
def utcReading (timestamp : Timestamp) : Date × Int :=
  (timestamp.utcDate, (timestamp.timeOfDay - timestamp.offset) % dayLength)

/-- Two dates with one text have one day of the month, the last part of the text; so neighbouring
dates have different texts. -/
theorem date_text_day {first second : Date} (same : first.text = second.text) :
    first.day = second.day := by
  have boundsFirst := days_in_month_bounds first.year first.month
  have boundsSecond := days_in_month_bounds second.year second.month
  have rangeFirst := first.dayRange
  have rangeSecond := second.dayRange
  obtain ⟨_, days⟩ := List.append_inj same rfl
  exact pad2_inj (by omega) (by omega) days

/-- The next date has another day of the month, at the end of a month as well. -/
theorem next_day (date : Date) : date.next.day ≠ date.day := by
  have bounds := days_in_month_bounds date.year date.month
  have range := date.dayRange
  unfold Date.next
  split
  · dsimp only
    omega
  · split <;> (dsimp only; omega)

/-- The previous date has another day of the month, at the start of a month as well. -/
theorem previous_day (date : Date) : date.previous.day ≠ date.day := by
  have bounds := days_in_month_bounds date.year (date.month - 1)
  have range := date.dayRange
  unfold Date.previous
  split
  · dsimp only
    omega
  · split <;> (dsimp only; omega)

/-- The written date is the date in UTC exactly when the instant lies in the written
day. -/
theorem written_date_iff (timestamp : Timestamp) :
    timestamp.utcDate.text = timestamp.date.text ↔
      0 ≤ timestamp.timeOfDay - timestamp.offset ∧
        timestamp.timeOfDay - timestamp.offset < dayLength := by
  unfold Timestamp.utcDate
  dsimp only
  by_cases before : timestamp.timeOfDay - timestamp.offset < 0
  · rw [if_pos before]
    constructor
    · exact fun same => absurd (date_text_day same) (previous_day timestamp.date)
    · exact fun within => absurd before (not_lt.mpr within.1)
  · rw [if_neg before]
    by_cases within : timestamp.timeOfDay - timestamp.offset < dayLength
    · rw [if_pos within]
      exact ⟨fun _ => ⟨not_lt.mp before, within⟩, fun _ => rfl⟩
    · rw [if_neg within]
      constructor
      · exact fun same => absurd (date_text_day same) (next_day timestamp.date)
      · exact fun both => absurd both.2 within

/-! ## Business dates -/

section Dates

variable (readable : Int → Bool)

/-- `to_date(to_timestamp(event_time))` in a session in UTC. The cast reads the texts
whose offset is readable, and turns the others into null. -/
def sparkDate (event : PaymentEvent) : Option Date :=
  if readable event.eventTime.offset then some event.eventTime.utcDate else none

/-- The folder of the event's accepted object, the date of its settlement group and the
date that the Spark jobs assign to it name one date. -/
def OneDate (event : PaymentEvent) : Prop :=
  ∃ date : Date,
    SchemaGate.acceptedKey event =
      str "accepted/event_date=" ++ date.text ++ str "/" ++ event.eventId.1 ++ str ".json" ∧
    (settlementKey (postedRow event)).1 = date.text ∧
    (sparkDate readable event).map Date.text = some date.text

/-- The offset is readable, and the instant lies in the written day. -/
def WithinDay (timestamp : Timestamp) : Prop :=
  readable timestamp.offset = true ∧ 0 ≤ timestamp.timeOfDay - timestamp.offset ∧
    timestamp.timeOfDay - timestamp.offset < dayLength

variable {readable}

/-- The schema gate and the store both date an event by the calendar date as it is written,
without regard to the offset of its time. -/
theorem written_dates (event : PaymentEvent) :
    SchemaGate.acceptedKey event = str "accepted/event_date=" ++ event.eventTime.date.text ++
        str "/" ++ event.eventId.1 ++ str ".json" ∧
      (settlementKey (postedRow event)).1 = event.eventTime.date.text := by
  constructor
  · rw [SchemaGate.acceptedKey, isoformat_date]
  · exact isoformat_date event.eventTime

/-- All places date an event alike exactly when its instant lies in the day that its
text names, and its offset can be read. -/
theorem one_date_iff (event : PaymentEvent) :
    OneDate readable event ↔ WithinDay readable event.eventTime := by
  have ⟨key, settled⟩ := written_dates event
  rw [WithinDay, ← written_date_iff]
  constructor
  · rintro ⟨date, _, grouped, read⟩
    rw [settled] at grouped
    unfold sparkDate at read
    split at read
    · rename_i reads
      exact ⟨reads, (Option.some.inj read).trans grouped.symm⟩
    · cases read
  · rintro ⟨reads, same⟩
    refine ⟨event.eventTime.date, key, settled, ?_⟩
    rw [sparkDate, if_pos reads, Option.map_some, same]

/-- One business date for each event. All places date an event alike exactly when its
instant lies in the day that its text names, and its offset can be read. Two such events
at one instant fall in one settlement date. -/
theorem one_business_date (readable : Int → Bool) :
    (∀ event : PaymentEvent, OneDate readable event ↔ WithinDay readable event.eventTime) ∧
    ∀ first second : PaymentEvent, WithinDay readable first.eventTime →
      WithinDay readable second.eventTime →
      utcReading first.eventTime = utcReading second.eventTime →
        (settlementKey (postedRow first)).1 = (settlementKey (postedRow second)).1 := by
  refine ⟨one_date_iff, fun first second firstWithin secondWithin same => ?_⟩
  have firstDate := (written_date_iff first.eventTime).mpr firstWithin.2
  have secondDate := (written_date_iff second.eventTime).mpr secondWithin.2
  have dates : first.eventTime.utcDate = second.eventTime.utcDate := congrArg Prod.fst same
  rw [(written_dates first).2, (written_dates second).2, ← firstDate, ← secondDate, dates]

end Dates

/-- The sample capture with another event time. -/
def timedRaw (eventTime : String) : Fields :=
  (sampleRaw "evt-2" .capture 2 600 "2026-01-02T05:00:00Z").map fun entry =>
    if entry.1 = str "event_time" then (entry.1, .str (str eventTime)) else entry

/-- A capture late in a western evening is accepted under a date that no Spark job
assigns to it, and the same instant written in UTC under the next date. -/
theorem late_evening_two_dates : ∃ event other,
    validateEvent (tableRuntime []) sampleRegistry (List.replicate 32 0)
        (timedRaw "2026-01-01T23:30:00-05:00") = .ok event ∧
      validateEvent (tableRuntime []) sampleRegistry (List.replicate 32 0)
        (timedRaw "2026-01-02T04:30:00Z") = .ok other ∧
      (∀ readable, ¬ OneDate readable event) ∧
      utcReading event.eventTime = utcReading other.eventTime ∧
      (settlementKey (postedRow event)).1 ≠ (settlementKey (postedRow other)).1 := by
  have checked : (validateEvent (tableRuntime []) sampleRegistry (List.replicate 32 0)
        (timedRaw "2026-01-01T23:30:00-05:00") >>= fun event =>
      validateEvent (tableRuntime []) sampleRegistry (List.replicate 32 0)
        (timedRaw "2026-01-02T04:30:00Z") >>= fun other =>
      .ok (decide (
          event.eventTime.utcDate.text ≠ event.eventTime.date.text ∧
          utcReading event.eventTime = utcReading other.eventTime ∧
          (settlementKey (postedRow event)).1 ≠ (settlementKey (postedRow other)).1))) =
        .ok true := by
    decide +kernel
  obtain ⟨event, read, rest⟩ := bind_ok.mp checked
  obtain ⟨other, otherRead, passed⟩ := bind_ok.mp rest
  obtain ⟨apart, same, differ⟩ := of_decide_eq_true (Except.ok.inj passed)
  refine ⟨event, other, read, otherRead, fun readable agreed => apart ?_, same, differ⟩
  exact (written_date_iff event.eventTime).mpr ((one_date_iff event).mp agreed).2

end LedgerFlow.EndToEnd
