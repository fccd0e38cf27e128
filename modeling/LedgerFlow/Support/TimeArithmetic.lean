import LedgerFlow.Support.Timestamps

/-!
# Adding seconds to a clock reading

`plusSeconds` is addition of a nonnegative `timedelta` of whole seconds; it fails beyond the
year 9999. Each step to the following day moves a reading up in a linear measure of its
date, so only so many days can be added.

A reading in UTC with whole seconds is read back from its text.
-/

namespace PyDateTime

open PyText

/-! ## Addition -/

/-- `timestamp + timedelta(seconds=seconds)`, absent where it raises. -/
def Timestamp.plusSeconds (timestamp : Timestamp) (seconds : Nat) : Option Timestamp :=
  let total := (timestamp.hour * 60 + timestamp.minute) * 60 + timestamp.second + seconds
  Timestamp.of? (Date.next^[total / 86400] timestamp.date) (total % 86400 / 3600)
    (total % 3600 / 60) (total % 60) timestamp.microsecond timestamp.offset

/-- A measure of dates that grows from day to day. -/
def Date.measure (date : Date) : Nat := date.year * 372 + date.month * 31 + date.day

/-- The next day measures more than the day before it. -/
theorem date_measure_next (date : Date) : date.measure < date.next.measure := by
  have month := date.monthRange
  have day := date.dayRange
  have bounds := days_in_month_bounds date.year date.month
  unfold Date.next Date.measure
  split
  · dsimp only
    omega
  · split <;> dsimp only <;> omega

/-- After some number of days the measure of a date has grown by at least that number. -/
theorem date_measure_iterate (days : Nat) (date : Date) :
    date.measure + days ≤ (Date.next^[days] date).measure := by
  induction days with
  | zero => simp
  | succ days inductionHypothesis =>
    have step := date_measure_next (Date.next^[days] date)
    rw [Function.iterate_succ_apply']
    omega

/-- No more seconds can be added than there are in ten thousand years. -/
theorem plus_seconds_bound {timestamp result : Timestamp} {seconds : Nat}
    (added : timestamp.plusSeconds seconds = some result) : seconds < 372 * 10001 * 86400 := by
  unfold Timestamp.plusSeconds at added
  dsimp only at added
  unfold Timestamp.of? at added
  split at added
  · next ranges =>
    have above := date_measure_iterate
      (((timestamp.hour * 60 + timestamp.minute) * 60 + timestamp.second + seconds) / 86400)
      timestamp.date
    generalize Date.next^[((timestamp.hour * 60 + timestamp.minute) * 60 + timestamp.second +
      seconds) / 86400] timestamp.date = date at above ranges
    have year := ranges.1.2
    have month := date.monthRange
    have day := date.dayRange
    have bounds := days_in_month_bounds date.year date.month
    unfold Date.measure at above
    omega
  · cases added

/-- Adding seconds keeps the fraction of the second and the offset. -/
theorem plus_seconds_keeps {timestamp result : Timestamp} {seconds : Nat}
    (added : timestamp.plusSeconds seconds = some result) :
    result.microsecond = timestamp.microsecond ∧ result.offset = timestamp.offset := by
  unfold Timestamp.plusSeconds at added
  dsimp only at added
  unfold Timestamp.of? at added
  split at added
  · cases added
    exact ⟨rfl, rfl⟩
  · cases added

/-! ## Reading back -/

/-- A printed digit is a digit. -/
theorem digit_point_is_digit (value : Nat) : digit (digitPoint value) = true := by
  refine decide_eq_true ?_
  rw [digit_point_val]
  omega

/-- A printed digit is no character that is not a digit. -/
theorem digit_point_ne (value : Nat) {c : CodePoint} (other : ¬ (48 ≤ c.val ∧ c.val ≤ 57)) :
    digitPoint value ≠ c := by
  rintro rfl
  rw [digit_point_val] at other
  omega

/-- The value of two printed digits is the number that was printed, below a hundred. -/
theorem numeral_pad2 {value : Nat} (small : value < 100) : numeral (pad2 value) = value := by
  simp only [numeral, pad2, List.foldl_cons, List.foldl_nil, digit_point_val]
  omega

/-- The value of four printed digits is the number that was printed, below ten thousand. -/
theorem numeral_pad4 {value : Nat} (small : value < 10000) : numeral (pad4 value) = value := by
  simp only [numeral, pad4, pad2, List.cons_append, List.nil_append, List.foldl_cons,
    List.foldl_nil, digit_point_val]
  omega

/-- Two printed digits are read back as their number, whatever follows. -/
theorem read_pad2 {value : Nat} (small : value < 100) (rest : Str) :
    readDigits 2 (pad2 value ++ rest) = some (value, rest) := by
  have first : (pad2 value ++ rest).take 2 = pad2 value := rfl
  have digits : (pad2 value).all digit = true := by
    simp only [pad2, List.all_cons, List.all_nil, digit_point_is_digit, Bool.and_self]
  rw [readDigits, first, if_pos ⟨rfl, digits⟩, numeral_pad2 small]
  rfl

/-- Four printed digits are read back as their number, whatever follows. -/
theorem read_pad4 {value : Nat} (small : value < 10000) (rest : Str) :
    readDigits 4 (pad4 value ++ rest) = some (value, rest) := by
  have first : (pad4 value ++ rest).take 4 = pad4 value := rfl
  have digits : (pad4 value).all digit = true := by
    simp only [pad4, pad2, List.cons_append, List.nil_append, List.all_cons, List.all_nil,
      digit_point_is_digit, Bool.and_self]
  rw [readDigits, first, if_pos ⟨rfl, digits⟩, numeral_pad4 small]
  rfl

/-- A date is read back from its text, if its year has four digits at most. -/
theorem read_date_text {date : Date} (year : date.year ≤ 9999) :
    readDate date.text = some date := by
  have month := date.monthRange
  have day := date.dayRange
  have bounds := days_in_month_bounds date.year date.month
  have dash : (str "-").head? = some (point '-') := rfl
  have notWeek : (pad2 date.month ++ (str "-" ++ pad2 date.day)).head? ≠ some (point 'W') := by
    intro same
    exact digit_point_ne (date.month / 10) (by decide) (Option.some.inj same)
  have text : date.text =
      pad4 date.year ++ (str "-" ++ (pad2 date.month ++ (str "-" ++ pad2 date.day))) := by
    simp only [Date.text, List.append_assoc]
  have last : readDigits 2 (pad2 date.day) = some (date.day, []) := by
    rw [← List.append_nil (pad2 date.day)]
    exact read_pad2 (by omega) []
  have opened (rest : Str) : (str "-" ++ rest).head? = some (point '-') ∧
      (str "-" ++ rest).drop 1 = rest := ⟨rfl, rfl⟩
  have found : Date.of? date.year date.month date.day = some date := by
    rw [Date.of?, dif_pos month, dif_pos day]
  rw [text, readDate, read_pad4 (by omega)]
  simp only [Option.bind_eq_bind, Option.bind_some, opened, if_true, notWeek, if_false,
    read_pad2 (show date.month < 100 by omega), last, found]

/-- The time of day of a reading with whole seconds. -/
def clockText (hour minute second : Nat) : Str :=
  pad2 hour ++ str ":" ++ pad2 minute ++ str ":" ++ pad2 second

/-- A printed time of day is read back, without a fraction. -/
theorem read_clock_text {hour minute second : Nat}
    (clock : hour < 24 ∧ minute < 60 ∧ second < 60) :
    readClock (clockText hour minute second) = some (hour, minute, second, 0) := by
  have last : readDigits 2 (pad2 second) = some (second, []) := by
    rw [← List.append_nil (pad2 second)]
    exact read_pad2 (by omega) []
  have colon (rest : Str) : str ":" ++ rest ≠ [] ∧
      (str ":" ++ rest).head? = some (point ':') ∧ (str ":" ++ rest).drop 1 = rest :=
    ⟨nofun, rfl, rfl⟩
  have text : clockText hour minute second =
      pad2 hour ++ (str ":" ++ (pad2 minute ++ (str ":" ++ pad2 second))) := by
    simp only [clockText, List.append_assoc]
  rw [text, readClock, read_pad2 (by omega)]
  simp only [Option.bind_eq_bind, Option.bind_some, colon, if_false, decide_true, skipColon, if_true,
    read_pad2 (show minute < 100 by omega), last]

/-- No sign stands in a time of day, so the sign of the offset is the first one. -/
theorem clock_text_plain (hour minute second : Nat) :
    ∀ c ∈ clockText hour minute second, (!(c == point '+' || c == point '-')) = true := by
  have digit (value : Nat) : (!(digitPoint value == point '+' || digitPoint value == point '-')) =
      true := by
    rw [beq_false_of_ne (digit_point_ne value (by decide)),
      beq_false_of_ne (digit_point_ne value (by decide))]
    rfl
  have colon : (!(point ':' == point '+' || point ':' == point '-')) = true := by decide
  intro c member
  have separator : str ":" = [point ':'] := rfl
  simp only [clockText, pad2, separator, List.mem_append, List.mem_cons, List.not_mem_nil, or_false]
    at member
  rcases member with (((((rfl | rfl) | rfl) | (rfl | rfl)) | rfl) | (rfl | rfl))
  all_goals first
    | exact digit _
    | exact colon

/-- A reading in UTC with whole seconds is read back from its text. -/
theorem fromisoformat_isoformat {timestamp : Timestamp} (whole : timestamp.microsecond = 0)
    (utc : timestamp.offset = 0) :
    fromisoformat timestamp.isoformat = some (.aware timestamp) := by
  have clock := timestamp.clock
  have signed : str "+00:00" = point '+' :: str "00:00" := rfl
  have text : timestamp.isoformat = timestamp.date.text ++
      (point 'T' :: (clockText timestamp.hour timestamp.minute timestamp.second ++
        str "+00:00")) := by
    have zone : offsetText 0 = str "+00:00" := by decide
    rw [Timestamp.isoformat, whole, utc, zone, clockText]
    simp
    rfl
  have ascii := isoformat_ascii timestamp
  have parts : timestamp.isoformat.take 10 = timestamp.date.text ∧
      timestamp.isoformat.drop 10 ≠ [] ∧ timestamp.isoformat.drop 11 =
        clockText timestamp.hour timestamp.minute timestamp.second ++ str "+00:00" := by
    rw [text]
    exact ⟨rfl, List.cons_ne_nil _ _, rfl⟩
  have position : ¬ timestamp.isoformat.length < 7 ∧
      separatorPosition timestamp.isoformat = some 10 := by
    have fifth : timestamp.isoformat[5]? ≠ some (point 'W') := by
      rw [text]
      intro same
      exact digit_point_ne (timestamp.date.month / 10) (by decide) (Option.some.inj same)
    have fourth : timestamp.isoformat[4]? = some (point '-') := by
      rw [text]
      rfl
    have size : timestamp.isoformat.length = 25 := by
      rw [text]
      rfl
    refine ⟨by omega, ?_⟩
    rw [separatorPosition, if_neg (by omega), if_pos fourth, if_neg fifth]
  have time : readTime timestamp.date
      (clockText timestamp.hour timestamp.minute timestamp.second ++ str "+00:00") =
        some (.aware timestamp) := by
    have plain := clock_text_plain timestamp.hour timestamp.minute timestamp.second
    have zone : readClock (str "00:00") = some (0, 0, 0, 0) := by decide
    have found : Timestamp.of? timestamp.date timestamp.hour timestamp.minute timestamp.second 0 0 =
        some timestamp := by
      have ranges := timestamp.yearRange
      have bounded : -dayLength < (0 : Int) ∧ (0 : Int) < dayLength := by decide
      rw [Timestamp.of?, dif_pos ⟨ranges, ⟨clock.1, clock.2.1, clock.2.2.1, by decide⟩, bounded⟩]
      obtain ⟨_, _, _, _, microsecond, offset, _, _, _⟩ := timestamp
      cases whole
      cases utc
      rfl
    rw [readTime, List.takeWhile_append_of_pos plain, List.dropWhile_append_of_pos plain, signed,
      List.takeWhile_cons_of_neg (by decide), List.dropWhile_cons_of_neg (by decide),
      List.append_nil, read_clock_text ⟨clock.1, clock.2.1, clock.2.2.1⟩]
    simp only [Option.bind_eq_bind, Option.bind_some, zone]
    have sign : (point '+' = point '-') = False := by decide
    simp only [sign, if_false]
    rw [show (((((0 * 60 + 0) * 60 + 0) * 1000000 + 0 : Nat)) : Int) = 0 from rfl, found]
    rfl
  rw [fromisoformat, if_neg position.1, position.2]
  simp only [Option.bind_eq_bind, Option.bind_some, parts.1, parts.2.2, parts.2.1, if_false]
  rw [if_pos ⟨date_text_ascii _, fun c member =>
    ascii c (List.mem_of_mem_drop (parts.2.2.symm ▸ member))⟩, read_date_text timestamp.yearRange.2]
  exact time

end PyDateTime
