import LedgerFlow.Support.Text
import Mathlib.Logic.Function.Iterate

/-!
# ISO 8601 timestamps

A `Date` is a day of the proleptic Gregorian calendar and a `Timestamp` an aware
clock reading: a date, a time of day to the microsecond and an offset from UTC of
less than a day. Both carry their ranges, so `isoformat` is total.

`fromisoformat` reads the texts that Python's `datetime.fromisoformat` documents:
extended, basic and week dates, any single code point as separator, optional minutes,
seconds and fraction, and an optional offset. The letter Z is not read, because its
callers spell it as `+00:00`. A text it accepts is ASCII apart from its separator.

`utcDate` is the calendar date of the instant in UTC, the date a session in UTC
assigns to it. For a timestamp written in UTC it is the written date.
-/

namespace PyDateTime

open PyText

/-! ## Calendar dates -/

/-- Gregorian leap years. -/
def leap (year : Nat) : Bool :=
  decide (year % 4 = 0 ∧ (year % 100 ≠ 0 ∨ year % 400 = 0))

/-- The length of a month. -/
def daysInMonth (year month : Nat) : Nat :=
  if month = 2 then (if leap year then 29 else 28)
  else if month = 4 ∨ month = 6 ∨ month = 9 ∨ month = 11 then 30 else 31

/-- A month has 28 to 31 days. -/
theorem days_in_month_bounds (year month : Nat) :
    28 ≤ daysInMonth year month ∧ daysInMonth year month ≤ 31 := by
  unfold daysInMonth
  split_ifs <;> omega

/-- A day of the calendar. -/
structure Date where
  year : Nat
  month : Nat
  day : Nat
  monthRange : 1 ≤ month ∧ month ≤ 12
  dayRange : 1 ≤ day ∧ day ≤ daysInMonth year month
  deriving DecidableEq

/-- The date with these numbers, if the calendar has one. -/
def Date.of? (year month day : Nat) : Option Date :=
  if monthRange : 1 ≤ month ∧ month ≤ 12 then
    if dayRange : 1 ≤ day ∧ day ≤ daysInMonth year month then
      some ⟨year, month, day, monthRange, dayRange⟩
    else none
  else none

/-- The following day. -/
def Date.next (date : Date) : Date :=
  if within : date.day < daysInMonth date.year date.month then
    ⟨date.year, date.month, date.day + 1, date.monthRange, by omega⟩
  else if more : date.month < 12 then
    ⟨date.year, date.month + 1, 1, by omega,
      by have bounds := days_in_month_bounds date.year (date.month + 1); omega⟩
  else
    ⟨date.year + 1, 1, 1, by omega,
      by have bounds := days_in_month_bounds (date.year + 1) 1; omega⟩

/-- The preceding day. -/
def Date.previous (date : Date) : Date :=
  if within : 1 < date.day then
    ⟨date.year, date.month, date.day - 1, date.monthRange, by have range := date.dayRange; omega⟩
  else if more : 1 < date.month then
    ⟨date.year, date.month - 1, daysInMonth date.year (date.month - 1),
      by have range := date.monthRange; omega,
      by have bounds := days_in_month_bounds date.year (date.month - 1); omega⟩
  else
    ⟨date.year - 1, 12, 31, by omega, by simp [daysInMonth]⟩

/-- Days before the first of January of a year. -/
def daysBeforeYear (year : Nat) : Nat :=
  (year - 1) * 365 + (year - 1) / 4 - (year - 1) / 100 + (year - 1) / 400

/-- The weekday of the first of January, counting from Monday. -/
def firstWeekday (year : Nat) : Nat := (daysBeforeYear year + 7) % 7

/-- The day of an ISO week date: week one holds the year's first Thursday, and a
week 53 exists in the years that start on a Thursday or, when leap, a Wednesday. -/
def Date.ofWeek? (year week day : Nat) : Option Date :=
  let opens := firstWeekday year
  let long := opens = 3 ∨ (opens = 2 ∧ leap year)
  if 1 ≤ year ∧ year ≤ 9999 ∧ 1 ≤ week ∧ (week ≤ 52 ∨ (week = 53 ∧ long)) ∧ 1 ≤ day ∧ day ≤ 7 then
    (Date.of? year 1 1).map fun january =>
      let monday :=
        if opens ≤ 3 then Date.previous^[opens] january else Date.next^[7 - opens] january
      Date.next^[(week - 1) * 7 + (day - 1)] monday
  else none

/-! ## Clock readings -/

/-- Microseconds in a day. -/
def dayLength : Int := 86400000000

/-- An aware clock reading. The offset is in microseconds east of UTC. -/
structure Timestamp where
  date : Date
  hour : Nat
  minute : Nat
  second : Nat
  microsecond : Nat
  offset : Int
  yearRange : 1 ≤ date.year ∧ date.year ≤ 9999
  clock : hour < 24 ∧ minute < 60 ∧ second < 60 ∧ microsecond < 1000000
  offsetRange : -dayLength < offset ∧ offset < dayLength
  deriving DecidableEq

/-- The constructor's range checks. -/
def Timestamp.of? (date : Date) (hour minute second microsecond : Nat) (offset : Int) :
    Option Timestamp :=
  if ranges : (1 ≤ date.year ∧ date.year ≤ 9999) ∧
      (hour < 24 ∧ minute < 60 ∧ second < 60 ∧ microsecond < 1000000) ∧
      (-dayLength < offset ∧ offset < dayLength) then
    some ⟨date, hour, minute, second, microsecond, offset, ranges.1, ranges.2.1, ranges.2.2⟩
  else none

/-- `datetime(2026, 1, 1, tzinfo=UTC)` -/
def newYear : Timestamp :=
  ⟨⟨2026, 1, 1, by decide, by decide⟩, 0, 0, 0, 0, 0, by decide, by decide, by decide⟩

/-- Noon of the same day. -/
def newYearNoon : Timestamp := { newYear with hour := 12, clock := by decide }

/-- Microseconds since the reading's own midnight. -/
def Timestamp.timeOfDay (timestamp : Timestamp) : Int :=
  (((timestamp.hour * 60 + timestamp.minute) * 60 + timestamp.second) * 1000000 +
    timestamp.microsecond : Nat)

/-- The calendar date of the instant in UTC. -/
def Timestamp.utcDate (timestamp : Timestamp) : Date :=
  let shifted := timestamp.timeOfDay - timestamp.offset
  if shifted < 0 then timestamp.date.previous
  else if shifted < dayLength then timestamp.date
  else timestamp.date.next

/-- A reading in UTC is dated as it is written. -/
theorem utc_date_of_utc {timestamp : Timestamp} (utc : timestamp.offset = 0) :
    timestamp.utcDate = timestamp.date := by
  have clock := timestamp.clock
  unfold Timestamp.utcDate Timestamp.timeOfDay dayLength
  rw [utc]
  dsimp only
  rw [if_neg (by omega), if_pos (by omega)]

/-! ## Printing -/

/-- One decimal digit. -/
def digitPoint (value : Nat) : CodePoint := Fin.ofNat 0x110000 (48 + value % 10)

/-- Two zero-padded digits. -/
def pad2 (value : Nat) : Str := [digitPoint (value / 10), digitPoint value]

/-- Four zero-padded digits. -/
def pad4 (value : Nat) : Str := pad2 (value / 100) ++ pad2 (value % 100)

/-- Six zero-padded digits. -/
def pad6 (value : Nat) : Str := pad4 (value / 100) ++ pad2 (value % 100)

/-- `date.isoformat()`. -/
def Date.text (date : Date) : Str :=
  pad4 date.year ++ str "-" ++ pad2 date.month ++ str "-" ++ pad2 date.day

/-- The offset as `+HH:MM`, with seconds and microseconds only where present. -/
def offsetText (offset : Int) : Str :=
  let magnitude := offset.natAbs
  let seconds := magnitude / 1000000
  let tail :=
    if magnitude % 1000000 ≠ 0 then
      str ":" ++ pad2 (seconds % 60) ++ str "." ++ pad6 (magnitude % 1000000)
    else if seconds % 60 ≠ 0 then str ":" ++ pad2 (seconds % 60)
    else []
  (if offset < 0 then str "-" else str "+") ++ pad2 (seconds / 3600) ++ str ":" ++
    pad2 (seconds / 60 % 60) ++ tail

/-- `datetime.isoformat()`. -/
def Timestamp.isoformat (timestamp : Timestamp) : Str :=
  timestamp.date.text ++ str "T" ++ pad2 timestamp.hour ++ str ":" ++ pad2 timestamp.minute ++
    str ":" ++ pad2 timestamp.second ++
    (if timestamp.microsecond ≠ 0 then str "." ++ pad6 timestamp.microsecond else []) ++
    offsetText timestamp.offset

/-- The code point of a digit is the one of zero plus its value; only the last digit of the value
counts. -/
theorem digit_point_val (value : Nat) : (digitPoint value).val = 48 + value % 10 :=
  Nat.mod_eq_of_lt (by omega)

/-- Equal printed digits have equal values, modulo ten. -/
theorem digit_point_inj {first second : Nat} (same : digitPoint first = digitPoint second) :
    first % 10 = second % 10 := by
  have values := congrArg Fin.val same
  rw [digit_point_val, digit_point_val] at values
  omega

/-- Two printed digits are ASCII. -/
theorem pad2_ascii (value : Nat) : Ascii (pad2 value) := by
  simp only [pad2, ascii_cons, digit_point_val, ascii_nil, and_true]
  omega

/-- Four printed digits are ASCII. -/
theorem pad4_ascii (value : Nat) : Ascii (pad4 value) :=
  ascii_append.mpr ⟨pad2_ascii _, pad2_ascii _⟩

/-- Six printed digits are ASCII. -/
theorem pad6_ascii (value : Nat) : Ascii (pad6 value) :=
  ascii_append.mpr ⟨pad4_ascii _, pad2_ascii _⟩

/-- Two printed digits determine a number below a hundred. -/
theorem pad2_inj {first second : Nat} (left : first < 100) (right : second < 100)
    (same : pad2 first = pad2 second) : first = second := by
  obtain ⟨tens, rest⟩ := List.cons.inj same
  have high := digit_point_inj tens
  have unit := digit_point_inj (List.cons.inj rest).1
  omega

/-- Four printed digits determine a number below ten thousand. -/
theorem pad4_inj {first second : Nat} (left : first < 10000) (right : second < 10000)
    (same : pad4 first = pad4 second) : first = second := by
  obtain ⟨upper, lower⟩ := List.append_inj same rfl
  have high := pad2_inj (by omega) (by omega) upper
  have unit := pad2_inj (by omega) (by omega) lower
  omega

/-- The text of a date is ASCII. -/
theorem date_text_ascii (date : Date) : Ascii date.text := by
  simp only [Date.text, ascii_append, pad4_ascii, pad2_ascii, true_and, and_true]
  decide

/-- The text of a date has ten characters, for four, two and two digits and two dashes. -/
theorem date_text_length (date : Date) : date.text.length = 10 := rfl

/-- Dates of four-digit years have different texts; a longer year would lose its leading
digits. -/
theorem date_text_inj {first second : Date} (left : first.year ≤ 9999)
    (right : second.year ≤ 9999) (same : first.text = second.text) : first = second := by
  obtain ⟨body, days⟩ := List.append_inj same rfl
  obtain ⟨body, _⟩ := List.append_inj body rfl
  obtain ⟨body, months⟩ := List.append_inj body rfl
  obtain ⟨years, _⟩ := List.append_inj body rfl
  have boundsFirst := days_in_month_bounds first.year first.month
  have boundsSecond := days_in_month_bounds second.year second.month
  have rangesFirst := first.dayRange
  have rangesSecond := second.dayRange
  have monthsFirst := first.monthRange
  have monthsSecond := second.monthRange
  have sameYear := pad4_inj (by omega) (by omega) years
  have sameMonth := pad2_inj (by omega) (by omega) months
  have sameDay := pad2_inj (by omega) (by omega) days
  cases first
  cases second
  cases sameYear
  cases sameMonth
  cases sameDay
  rfl

/-- The text of an offset is ASCII. -/
theorem offset_text_ascii (offset : Int) : Ascii (offsetText offset) := by
  have sign : Ascii (if offset < 0 then str "-" else str "+") := by split <;> decide
  have colon : Ascii (str ":") := by decide
  have dot : Ascii (str ".") := by decide
  unfold offsetText
  simp only [ascii_append, sign, colon, pad2_ascii, true_and]
  split_ifs <;> simp only [ascii_append, ascii_nil, colon, dot, pad2_ascii, pad6_ascii, and_true]

/-- `isoformat` prints ASCII text. -/
theorem isoformat_ascii (timestamp : Timestamp) : Ascii timestamp.isoformat := by
  have letters : Ascii (str "T") ∧ Ascii (str ":") := by decide
  have dot : Ascii (str ".") := by decide
  unfold Timestamp.isoformat
  simp only [ascii_append, date_text_ascii, letters, pad2_ascii, offset_text_ascii, true_and,
    and_true]
  split_ifs <;> simp only [ascii_append, ascii_nil, dot, pad6_ascii, and_true]

/-- The first ten characters of a timestamp's text are the text of its date. -/
theorem isoformat_date (timestamp : Timestamp) :
    timestamp.isoformat.take 10 = timestamp.date.text := by
  simp only [Timestamp.isoformat, List.append_assoc]
  exact List.take_left' (date_text_length timestamp.date)

/-! ## Reading -/

/-- The value of a run of digits. -/
def numeral (digits : Str) : Nat := digits.foldl (fun value c => value * 10 + (c.val - 48)) 0

/-- Exactly `count` digits, and the rest of the text. -/
def readDigits (count : Nat) (s : Str) : Option (Nat × Str) :=
  if (s.take count).length = count ∧ (s.take count).all digit then
    some (numeral (s.take count), s.drop count)
  else none

/-- A digit is the printed digit of its value. -/
theorem digit_point_digit {c : CodePoint} (isDigit : digit c = true) {value : Nat}
    (last : value % 10 = c.val - 48) : digitPoint value = c := by
  have range := of_decide_eq_true isDigit
  apply Fin.ext
  rw [digit_point_val, last]
  omega

/-- Two digits are the padded text of their value, which is below a hundred. -/
theorem pad2_digits {a b : CodePoint} (first : digit a = true) (second : digit b = true) :
    pad2 (numeral [a, b]) = [a, b] ∧ numeral [a, b] < 100 := by
  have firstRange := of_decide_eq_true first
  have secondRange := of_decide_eq_true second
  have value : numeral [a, b] = 10 * (a.val - 48) + (b.val - 48) := by
    simp only [numeral, List.foldl_cons, List.foldl_nil]
    omega
  rw [value]
  refine ⟨?_, by omega⟩
  rw [pad2, digit_point_digit first (by omega), digit_point_digit second (by omega)]

/-- What is read as two digits is the padded text of the number read. -/
theorem read_two {s rest : Str} {value : Nat} (read : readDigits 2 s = some (value, rest)) :
    s = pad2 value ++ rest := by
  unfold readDigits at read
  split at read
  · next digits =>
      obtain ⟨rfl, rfl⟩ := Prod.mk.inj (Option.some.inj read)
      match s, digits with
      | a :: b :: rest, digits =>
        simp only [List.take_succ_cons, List.take_zero, List.all_cons, List.all_nil,
          Bool.and_true, Bool.and_eq_true] at digits
        obtain ⟨_, first, second⟩ := digits
        rw [List.take_succ_cons, List.take_succ_cons, List.take_zero, (pad2_digits first second).1]
        rfl
  · cases read

/-- Four digits are the padded text of their value, which is below ten thousand. -/
theorem pad4_digits {a b c d : CodePoint} (first : digit a = true) (second : digit b = true)
    (third : digit c = true) (fourth : digit d = true) :
    pad4 (numeral [a, b, c, d]) = [a, b, c, d] ∧ numeral [a, b, c, d] < 10000 := by
  obtain ⟨upper, upperBound⟩ := pad2_digits first second
  obtain ⟨lower, lowerBound⟩ := pad2_digits third fourth
  have value : numeral [a, b, c, d] = 100 * numeral [a, b] + numeral [c, d] := by
    simp only [numeral, List.foldl_cons, List.foldl_nil]
    omega
  have high : (100 * numeral [a, b] + numeral [c, d]) / 100 = numeral [a, b] := by omega
  have low : (100 * numeral [a, b] + numeral [c, d]) % 100 = numeral [c, d] := by omega
  rw [value]
  refine ⟨?_, by omega⟩
  rw [pad4, high, low, upper, lower]
  rfl

/-- What is read as four digits is their padding, and has no more. -/
theorem read_four {s rest : Str} {value : Nat} (read : readDigits 4 s = some (value, rest)) :
    s = pad4 value ++ rest ∧ value < 10000 := by
  unfold readDigits at read
  split at read
  · next digits =>
      obtain ⟨rfl, rfl⟩ := Prod.mk.inj (Option.some.inj read)
      match s, digits with
      | a :: b :: c :: d :: rest, digits =>
        simp only [List.take_succ_cons, List.take_zero, List.all_cons, List.all_nil,
          Bool.and_true, Bool.and_eq_true] at digits
        obtain ⟨_, first, second, third, fourth⟩ := digits
        obtain ⟨padded, bound⟩ := pad4_digits first second third fourth
        rw [List.take_succ_cons, List.take_succ_cons, List.take_succ_cons, List.take_succ_cons,
          List.take_zero, padded]
        exact ⟨rfl, bound⟩
  · cases read

/-- The position of the separator between date and time. -/
def separatorPosition (s : Str) : Option Nat :=
  if s.length = 7 then some 7
  else if s[4]? = some (point '-') then
    if s[5]? = some (point 'W') then
      if s[8]? = some (point '-') then
        if s.length = 9 then none
        else if (s[10]?.map digit).getD false then some 8 else some 10
      else some 8
    else some 10
  else if s[4]? = some (point 'W') then
    let stop := 7 + ((s.drop 7).takeWhile digit).length
    if stop < 9 then some stop else if stop % 2 = 0 then some 7 else some 8
  else some 8

/-- A date in extended or basic form, or an ISO week date. -/
def readDate (s : Str) : Option Date := do
  let (year, rest) ← readDigits 4 s
  let separated := rest.head? = some (point '-')
  let rest := if separated then rest.drop 1 else rest
  if rest.head? = some (point 'W') then
    let (week, rest) ← readDigits 2 (rest.drop 1)
    if rest = [] then Date.ofWeek? year week 1
    else
      if (rest.head? = some (point '-')) = separated then
        let (day, rest) ← readDigits 1 (if separated then rest.drop 1 else rest)
        if rest = [] then Date.ofWeek? year week day else none
      else none
  else
    let (month, rest) ← readDigits 2 rest
    if (rest.head? = some (point '-')) = separated then
      let (day, rest) ← readDigits 2 (if separated then rest.drop 1 else rest)
      if rest = [] then Date.of? year month day else none
    else none

/-- The fraction of a second as microseconds; further digits are dropped. -/
def readFraction (s : Str) : Option Nat :=
  if s ≠ [] ∧ s.all digit then some (numeral ((s ++ pad6 0).take 6)) else none

/-- Skip a colon where the text uses colons. -/
def skipColon (separated : Bool) (s : Str) : Option Str :=
  if separated then (if s.head? = some (point ':') then some (s.drop 1) else none) else some s

/-- Hours, and optionally minutes, seconds and a fraction of the second. -/
def readClock (s : Str) : Option (Nat × Nat × Nat × Nat) := do
  let (hour, rest) ← readDigits 2 s
  if rest = [] then some (hour, 0, 0, 0)
  else
    let separated := rest.head? = some (point ':')
    let (minute, rest) ← readDigits 2 (← skipColon separated rest)
    if rest = [] then some (hour, minute, 0, 0)
    else
      let (second, rest) ← readDigits 2 (← skipColon separated rest)
      if rest = [] then some (hour, minute, second, 0)
      else if rest.head? = some (point '.') ∨ rest.head? = some (point ',') then
        (readFraction (rest.drop 1)).map fun microsecond => (hour, minute, second, microsecond)
      else none

/-- What a text reads as: a reading without offset, or an aware one. -/
inductive Reading where
  | naive
  | aware (timestamp : Timestamp)

/-- A time of day with or without an offset, joined to its date. -/
def readTime (date : Date) (s : Str) : Option Reading := do
  let clockText := s.takeWhile fun c => !(c == point '+' || c == point '-')
  let zone := s.dropWhile fun c => !(c == point '+' || c == point '-')
  let (hour, minute, second, microsecond) ← readClock clockText
  match zone with
  | [] => (Timestamp.of? date hour minute second microsecond 0).map fun _ => .naive
  | sign :: zoneText => do
      let (zoneHour, zoneMinute, zoneSecond, zoneMicrosecond) ← readClock zoneText
      let magnitude : Int :=
        (((zoneHour * 60 + zoneMinute) * 60 + zoneSecond) * 1000000 + zoneMicrosecond : Nat)
      let offset := if sign = point '-' then -magnitude else magnitude
      (Timestamp.of? date hour minute second microsecond offset).map .aware

/-- `datetime.fromisoformat(s)`; `none` is `ValueError`. -/
def fromisoformat (s : Str) : Option Reading := do
  if s.length < 7 then none
  else
    let position ← separatorPosition s
    if Ascii (s.take position) ∧ Ascii (s.drop (position + 1)) then
      let date ← readDate (s.take position)
      if s.drop position = [] then
        (Timestamp.of? date 0 0 0 0 0).map fun _ => .naive
      else readTime date (s.drop (position + 1))
    else none

/-- At most the separator of an accepted text is outside ASCII, so no surrogate
pair can be spelled in it as two code points. -/
theorem fromisoformat_unpaired {s : Str} {reading : Reading}
    (accepted : fromisoformat s = some reading) : Unpaired s := by
  unfold fromisoformat at accepted
  split at accepted
  · cases accepted
  · cases found : separatorPosition s with
    | none => simp [found] at accepted
    | some position =>
      by_cases ascii : Ascii (s.take position) ∧ Ascii (s.drop (position + 1))
      · rw [← List.take_append_drop position s]
        cases tail : s.drop position with
        | nil => simpa using ascii.1.encodable.unpaired
        | cons c rest =>
          have after : s.drop (position + 1) = rest := by
            rw [← List.drop_drop, tail, List.drop_one, List.tail_cons]
          exact unpaired_between c ascii.1 (after ▸ ascii.2)
      · simp [found, ascii] at accepted

example : (fromisoformat (str "2026-01-01T00:30:00+05:30")).map (fun
    | .aware t => (t.date.text, t.utcDate.text, t.isoformat)
    | .naive => ([], [], [])) =
    some (str "2026-01-01", str "2025-12-31", str "2026-01-01T00:30:00+05:30") := by decide

end PyDateTime
