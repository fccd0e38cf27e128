import LedgerFlow.Manifest.Verification
import LedgerFlow.Simulator.Projected
import LedgerFlow.Support.TextSizes

/-!
# The size of a generated file

The texts of a generated event are short and its numbers small, so that a file of generated
arrivals has a manifest whose numbers can be printed.
-/

namespace LedgerFlow.Simulator

open PyText PyJson PyDateTime Grouping Manifests

/-! ## Records -/

/-- No text is longer than an identifier, and the numbers are those of a generated event, of the
conflict or of the invalid amount. -/
structure Values.Compact (values : Values) : Prop where
  texts : ∀ text ∈ values.texts, text.length ≤ 128
  transactionVersion : values.transactionVersion.natAbs ≤ 3
  amountMinor : values.amountMinor.natAbs ≤ 500001

/-- A record with distinct keys, a short line and a small amount. -/
structure Sized (raw : Fields) : Prop where
  keyed : Keyed Prod.fst raw
  sorted : (sortedEntries raw).Perm raw
  line : (canonicalJson (.obj raw)).length ≤ 25000
  amount : ∀ amount, get raw (str "amount_minor") = some (.int amount) → amount.natAbs ≤ 500001

/-- A numeral is no longer than the width that holds its magnitude, and a sign. -/
theorem signed_length {n : Int} {width : Nat} (positive : 0 < width) (small : n.natAbs < 10 ^ width) :
    (decimal n).length ≤ width + 1 := by
  have digits := (Nat.length_toDigits_le_iff (b := 10) (by decide) positive).mpr small
  have sign : (if n < 0 then str "-" else []).length ≤ 1 := by
    split
    · exact le_refl 1
    · exact Nat.zero_le 1
  rw [decimal, List.length_append, List.length_map]
  omega

/-- The entry of a short key is short if its text is short. -/
theorem entry_compact {key : Str} {value : Json} (named : key.length ≤ 19)
    (short : (canonicalJson value).length ≤ 1538) :
    (entryText (key, value)).length ≤ 1769 := by
  have size := entry_length (key, value)
  dsimp only at size
  omega

/-- A text of at most 128 characters is printed in at most 1538: each character takes at most
twelve as two escaped units, and the quotation marks take two. -/
theorem text_compact {text : Str} (short : text.length ≤ 128) :
    (canonicalJson (.str text)).length ≤ 1538 := by
  have size := quote_length text
  rw [canonicalJson]
  omega

/-- The printed text of a modest number is far shorter than the bound that texts are held to. -/
theorem number_compact {n : Int} (small : n.natAbs ≤ 500001) :
    (canonicalJson (.int n)).length ≤ 1538 := by
  have size := @signed_length n 6 (by decide) (by omega)
  rw [canonicalJson]
  omega

/-- Each entry of a compact event is printed in at most 1769 characters. -/
theorem values_compact {values : Values} (compact : values.Compact) :
    ∀ entry ∈ values.fields, (entryText entry).length ≤ 1769 := by
  have text {text : Str} (listed : text ∈ values.texts) := text_compact (compact.texts text listed)
  have version := number_compact (le_trans compact.transactionVersion (by decide))
  have amount := number_compact compact.amountMinor
  intro entry member
  simp only [Values.fields, List.mem_cons, List.not_mem_nil, or_false] at member
  rcases member with rfl | rfl | rfl | rfl | rfl | rfl | rfl | rfl | rfl | rfl | rfl | rfl | rfl
  all_goals
    refine entry_compact (by decide) ?_
    first
      | exact version
      | exact amount
      | exact text (by simp [Values.texts])

/-- A compact event has few enough entries, each short enough, to be within the limit on a
payload. -/
theorem values_sized {values : Values} (compact : values.Compact) : Sized values.fields where
  keyed := values_keyed values
  sorted := sorted_values_perm values
  line := by
    have size := object_length (values_compact compact)
    have count : values.fields.length = 13 := rfl
    omega
  amount := by
    intro amount found
    cases found
    exact compact.amountMinor

/-! ## Generated records -/

/-- An identifier is no longer than the 128 characters that its check allows. -/
theorem identifier_length (identifier : Identifier) : identifier.1.length ≤ 128 := by
  have matched := identifier.2
  simp only [isIdentifier, Bool.and_eq_true, decide_eq_true_eq] at matched
  exact matched.1.2

/-- The text of an offset has at most sixteen characters, microseconds included. -/
theorem offset_text_length (offset : Int) : (offsetText offset).length ≤ 16 := by
  unfold offsetText
  dsimp only
  split_ifs <;> exact of_decide_eq_true rfl

/-- The text of a timestamp is far within 128 characters. -/
theorem isoformat_length (timestamp : Timestamp) : timestamp.isoformat.length ≤ 128 := by
  have zone := offset_text_length timestamp.offset
  have date := date_text_length timestamp.date
  have sizes : (str "T").length = 1 ∧ (str ":").length = 1 := ⟨rfl, rfl⟩
  have digits (value : Nat) : (pad2 value).length = 2 := rfl
  have fraction : (if timestamp.microsecond ≠ 0 then str "." ++ pad6 timestamp.microsecond
      else []).length ≤ 7 := by
    split
    · exact le_refl 7
    · exact Nat.zero_le 7
  simp only [Timestamp.isoformat, List.length_append, date, digits, sizes]
  omega

/-- The address of a generated event, whose spelling depends on its stage, is within 128
characters. -/
theorem customer_email_length (stage : Stage) (transaction : Transaction) :
    (stage.values transaction).customerEmail.length ≤ 128 := by
  have digits := @decimal_length (transaction.number % 10000) 4 (by decide) (by omega)
  have sizes : (str "customer").length = 8 ∧ (str "@example.test").length = 13 := ⟨rfl, rfl⟩
  show (str "customer" ++ decimal ((transaction.number % 10000 : Nat) : Int) ++
    str "@example.test").length ≤ 128
  rw [List.length_append, List.length_append, sizes.1, sizes.2]
  omega

/-- Every staged event is compact: each of its thirteen values is printed within the bound. -/
theorem stage_compact (stage : Stage) (transaction : Transaction) :
    (stage.values transaction).Compact := by
  have version := stage.versionRange
  have amount := stage.amountRange
  refine ⟨?_, by show (stage.version : Int).natAbs ≤ 3; omega,
    by show (stage.amountMinor : Int).natAbs ≤ 500001; omega⟩
  have event := @event_id_valid transaction.number stage.version transaction.inRange (by omega)
  have eventType : stage.eventType.text.length ≤ 128 := by cases stage.eventType <;> decide
  have currency : (currencyOf transaction.number).text.length ≤ 128 := by
    cases currencyOf transaction.number <;> decide
  have schema : (str "1.0").length ≤ 128 := by decide
  simp only [Values.texts, List.forall_mem_cons]
  exact ⟨schema, identifier_length ⟨_, event⟩, identifier_length transaction.id,
    identifier_length ⟨_, transaction.identified⟩, identifier_length ⟨_, processor_id_valid _⟩,
    identifier_length ⟨_, merchant_id_valid _⟩, eventType, currency, isoformat_length _,
    isoformat_length _, customer_email_length stage transaction,
    fun _ none => absurd none List.not_mem_nil⟩

/-- Naming the event and the transaction of compact values anew keeps them compact, where the name
is short. -/
theorem named_compact {values : Values} (compact : values.Compact) {name : Str}
    (short : name.length ≤ 128) : (values.named name).Compact := by
  refine ⟨?_, compact.transactionVersion, compact.amountMinor⟩
  have texts := compact.texts
  simp only [Values.texts, List.forall_mem_cons] at texts ⊢
  exact ⟨texts.1, short, short, texts.2.2.2⟩

section Batches

variable {sources : List Source} (batch : Batch sources)

/-- The conflicting payload is compact, as it differs from the first event in its amount and one
time only. -/
theorem Batch.conflict_compact : batch.conflict.Compact := by
  have compact := stage_compact batch.opening batch.head.transaction
  have amount := batch.opening.amountRange
  refine ⟨?_, compact.transactionVersion, ?_⟩
  · have texts := compact.texts
    simp only [Values.texts, List.forall_mem_cons] at texts ⊢
    obtain ⟨schema, event, transaction, source, processor, merchant, eventType, currency, time, _,
      email⟩ := texts
    exact ⟨schema, event, transaction, source, processor, merchant, eventType, currency, time,
      isoformat_length _, email⟩
  · show ((batch.opening.amountMinor : Int) + 1).natAbs ≤ 500001
    omega

/-- The payload with a negative amount is compact, as that amount is a small number too. -/
theorem Batch.invalid_amount_compact : batch.invalidAmount.Compact := by
  have named := @named_compact _ (stage_compact batch.capture batch.head.transaction)
    (str "fixture:invalid-amount") (by decide)
  exact ⟨named.texts, named.transactionVersion, by show (-100 : Int).natAbs ≤ 500001; decide⟩

/-- The payload of an unsupported version is compact, as its version is a short text. -/
theorem Batch.unsupported_compact : batch.unsupported.Compact := by
  have named := @named_compact _ (stage_compact batch.capture batch.head.transaction)
    (str "fixture:unsupported-schema") (by decide)
  refine ⟨?_, named.transactionVersion, named.amountMinor⟩
  have texts := named.texts
  have schema : (str "9.9").length ≤ 128 := by decide
  simp only [Values.texts, List.forall_mem_cons] at texts ⊢
  exact ⟨schema, texts.2⟩

/-- The payload with a card number has one entry more, and is still within the limit. -/
theorem Batch.prohibited_sized : Sized batch.prohibited := by
  have named := @named_compact _ (stage_compact batch.capture batch.head.transaction)
    (str "fixture:prohibited-pan") (by decide)
  have keyed : Keyed Prod.fst batch.prohibited := batch.prohibited_readable.1
  refine ⟨keyed, List.perm_insertionSort byKey batch.prohibited, ?_, fun amount found => ?_⟩
  · have size := @object_length batch.prohibited 1769 fun entry member => by
      rcases List.mem_append.mp member with inside | last
      · exact values_compact named entry inside
      · rw [List.mem_singleton.mp last]
        exact entry_compact (by decide) (text_compact (by decide))
    have count : batch.prohibited.length = 14 := rfl
    omega
  · cases found
    exact named.amountMinor

/-- Every arrival is sized: the valid events and their duplicates are compact, and the four
fixtures are compact up to the card number of one. -/
theorem Batch.sized {shuffled : List Fields} (permuted : shuffled.Perm batch.valid) :
    ∀ raw ∈ shuffled ++ (duplicatesOf batch.valid ++ batch.fixtures), Sized raw := by
  have valid {raw : Fields} (member : raw ∈ batch.valid) : Sized raw := by
    obtain ⟨lifecycle, _, stage, _, rfl⟩ := batch.mem_valid.mp member
    exact values_sized (stage_compact stage lifecycle.transaction)
  intro raw member
  rcases List.mem_append.mp member with fresh | injected
  · exact valid (permuted.mem_iff.mp fresh)
  · rcases List.mem_append.mp injected with again | refused
    · exact valid (mem_duplicates again)
    · simp only [Batch.fixtures, List.mem_cons, List.not_mem_nil, or_false] at refused
      rcases refused with rfl | rfl | rfl | rfl
      · exact values_sized batch.conflict_compact
      · exact values_sized batch.invalid_amount_compact
      · exact values_sized batch.unsupported_compact
      · exact batch.prohibited_sized

end Batches

/-! ## The manifest -/

section Manifest

variable {arrivals : List Fields}

/-- The amount that a sized record counts for a currency is small. -/
theorem sized_amount {raw : Fields} (sized : Sized raw) {currency : Str} {amount : Int}
    (found : amountIn currency (sortedEntries raw) = some amount) : amount.natAbs ≤ 500001 := by
  have same (key : Str) : get (sortedEntries raw) key = get raw key :=
    (sized.keyed.lookup_perm sized.sorted.symm key).symm
  rw [amountIn, same, same] at found
  split at found
  · next given _ =>
    split at found
    · cases found
      exact sized.amount _ given
    · cases found
  · cases found

/-- A sum of integers is at most their number times the largest of their sizes. -/
theorem sum_bound {values : List Int} {most : Nat} (small : ∀ value ∈ values, value.natAbs ≤ most) :
    values.sum.natAbs ≤ values.length * most := by
  induction values with
  | nil => exact Nat.zero_le _
  | cons value rest inductionHypothesis =>
    obtain ⟨first, others⟩ := List.forall_mem_cons.mp small
    have later := inductionHypothesis others
    rw [List.sum_cons, List.length_cons, Nat.add_mul]
    omega

/-- A file of sized records is not much longer than its records. -/
theorem json_lines_length (sized : ∀ raw ∈ arrivals, Sized raw) :
    (jsonLines arrivals).length ≤ 4 * (25001 * arrivals.length) := by
  have lines : (arrivals.flatMap jsonLine).length ≤ 25001 * arrivals.length := by
    refine length_flat_map_le fun raw member => ?_
    have line := (sized raw member).line
    rw [jsonLine, List.length_append, List.length_singleton]
    omega
  have bytes := utf8_length (arrivals.flatMap jsonLine)
  rw [jsonLines]
  omega

/-- The control total of a currency is at most half a million and one for each arrival, so it is
printed within the limit on digits. -/
theorem control_total_bound (sized : ∀ raw ∈ arrivals, Sized raw) {total : Str × Int}
    (listed : total ∈ controlTotals (arrivals.map sortedEntries)) :
    total.2.natAbs ≤ arrivals.length * 500001 := by
  have found := (control_totals_keyed _).lookup_mem.mpr (show (total.1, total.2) ∈ _ from listed)
  rw [control_totals_lookup] at found
  split at found
  · cases found
  · rw [← Option.some.inj found]
    have few : ((arrivals.map sortedEntries).filterMap (amountIn total.1)).length ≤
        arrivals.length := by
      have most := List.length_filterMap_le (amountIn total.1) (arrivals.map sortedEntries)
      rwa [List.length_map] at most
    refine le_trans (sum_bound fun amount member => ?_) (Nat.mul_le_mul_right _ few)
    obtain ⟨_, inside, counts⟩ := List.mem_filterMap.mp member
    obtain ⟨raw, arrived, rfl⟩ := List.mem_map.mp inside
    exact sized_amount (sized raw arrived) counts

/-- The numbers of the manifest of a file of sized records can be printed. -/
theorem sized_printable (library : Library) (data : Path) (sized : ∀ raw ∈ arrivals, Sized raw)
    (few : arrivals.length ≤ 5000000000000) :
    (manifestOf library data (jsonLines arrivals) (arrivals.map sortedEntries)).Printable := by
  refine ⟨short_small ?_, short_small ?_, fun total listed => short_small ?_⟩
  · have size := json_lines_length sized
    show ((jsonLines arrivals).length : Int).natAbs < _
    omega
  · show ((arrivals.map sortedEntries).length : Int).natAbs < _
    rw [List.length_map]
    omega
  · have bound := control_total_bound sized listed
    omega

end Manifest

end LedgerFlow.Simulator
