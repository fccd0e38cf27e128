import LedgerFlow.Simulator.Stages

/-!
# The generated batch

The loop yields the events of one lifecycle after another, numbered from one, until there are
as many as asked for. The arrivals are these events in any order, some of them once more, and
four fixtures made from the first two. All of them are written as lines that read back.
-/

namespace LedgerFlow.Simulator

open PyText PyJson PyDateTime Grouping Manifests

/-! ## The loop -/

/-- A generated transaction with its stages. -/
structure Lifecycle where
  transaction : Transaction
  stages : List Stage
  regular : Regular stages

/-- The dictionaries of its events. -/
def Lifecycle.raws (lifecycle : Lifecycle) : List Fields :=
  lifecycle.stages.map fun stage => (stage.values lifecycle.transaction).fields

/-- The number of its transaction. -/
def Lifecycle.number (lifecycle : Lifecycle) : Nat := lifecycle.transaction.number

/-- A regular lifecycle has two events, an authorization and a capture, or three with its
reversal. -/
theorem regular_length {stages : List Stage} (regular : Regular stages) :
    2 ≤ stages.length ∧ stages.length ≤ 3 := by
  cases regular <;> simp

/-- The source of a transaction is one of the sources that the generator goes through in turn. -/
theorem source_of_mem {sources : List Source} {number : Nat} {source : Source}
    (found : sourceOf sources number = .ok source) : source ∈ sources := by
  unfold sourceOf at found
  split at found
  · next listed =>
    cases found
    exact List.mem_of_getElem? listed
  · cases found

/-- The events of some lifecycles, numbered from a number on. -/
structure Numbered (sources : List Source) (number : Nat) (lifecycles : List Lifecycle) :
    Prop where
  numbers : lifecycles.map Lifecycle.number = List.range' number lifecycles.length
  sources : ∀ lifecycle ∈ lifecycles, lifecycle.transaction.source ∈ sources

/-- No lifecycles are numbered from any number on, which is where the loop of the generator
ends. -/
theorem numbered_nil (sources : List Source) (number : Nat) : Numbered sources number [] :=
  ⟨rfl, fun _ member => absurd member List.not_mem_nil⟩

/-- The loop appends the events of numbered lifecycles, two at least for every turn, until
there are enough. -/
theorem valid_events_numbered {sources : List Source} {minimumRecords : Int}
    (identified : ∀ source ∈ sources, isIdentifier source.sourceId = true) {turns number last : Nat}
    {valid result : List Fields}
    (looped : validEvents sources minimumRecords turns number valid = .ok (result, last)) :
    ∃ lifecycles, Numbered sources number lifecycles ∧
      result = valid ++ lifecycles.flatMap Lifecycle.raws ∧
      last = number + lifecycles.length ∧
      (minimumRecords ≤ result.length ∨ valid.length + turns ≤ result.length) := by
  induction turns generalizing number valid with
  | zero =>
    cases looped
    exact ⟨[], numbered_nil sources _, by simp⟩
  | succ turns inductionHypothesis =>
    rw [validEvents] at looped
    split at looped
    · next fewer =>
      obtain ⟨source, found, following⟩ := bind_ok.mp looped
      obtain ⟨raws, built, rest⟩ := bind_ok.mp following
      have listed := source_of_mem found
      let transaction : Transaction :=
        ⟨number, source, transaction_in_range built, identified source listed⟩
      obtain ⟨stages, regular, made⟩ := @transaction_stages transaction raws built
      obtain ⟨lifecycles, numbered, same, ends, enough⟩ := inductionHypothesis rest
      have size := regular_length regular
      have lengths := congrArg List.length made
      refine ⟨⟨transaction, stages, regular⟩ :: lifecycles, ⟨?_, ?_⟩, ?_, ?_, ?_⟩
      · rw [List.map_cons, numbered.numbers, List.length_cons, List.range'_succ]
        rfl
      · exact List.forall_mem_cons.mpr ⟨listed, numbered.sources⟩
      · rw [same, List.flatMap_cons, ← List.append_assoc, ← made]
        rfl
      · rw [ends, List.length_cons]
        omega
      · rw [List.length_map] at lengths
        rw [List.length_append] at enough
        omega
    · next reached =>
      cases looped
      exact ⟨[], numbered_nil sources _, by simp, rfl, .inl (not_lt.mp reached)⟩

/-- The events of some lifecycles start with those of the first lifecycle, its opening and its
capture before all others. -/
theorem flat_map_starts {head : Lifecycle} {tail : List Lifecycle} {opening capture : Stage}
    {more : List Stage} (starts : head.stages = opening :: capture :: more) :
    (head :: tail).flatMap Lifecycle.raws = (opening.values head.transaction).fields ::
      (capture.values head.transaction).fields ::
        (more.map (fun stage => (stage.values head.transaction).fields) ++
          tail.flatMap Lifecycle.raws) := by
  rw [List.flatMap_cons, Lifecycle.raws, starts]
  rfl

/-! ## Batches -/

/-- The lifecycles of a run of the generator, the first of them apart, and the receipt time
of the conflict. -/
structure Batch (sources : List Source) where
  head : Lifecycle
  tail : List Lifecycle
  opening : Stage
  capture : Stage
  more : List Stage
  starts : head.stages = opening :: capture :: more
  numbered : Numbered sources 1 (head :: tail)
  delayed : Timestamp
  added : later opening.receivedAt 300 = .ok delayed

section Batches

variable {sources : List Source} (batch : Batch sources)

/-- All lifecycles. -/
def Batch.lifecycles : List Lifecycle := batch.head :: batch.tail

/-- The valid events. -/
def Batch.valid : List Fields := batch.lifecycles.flatMap Lifecycle.raws

/-- The values of the first event. -/
def Batch.first : Values := batch.opening.values batch.head.transaction

/-- The values of the second event. -/
def Batch.second : Values := batch.capture.values batch.head.transaction

/-- The values of the conflict. -/
def Batch.conflict : Values :=
  { batch.first with
    amountMinor := batch.first.amountMinor + 1
    receivedAt := batch.delayed.isoformat }

/-- The values of the fixture with an invalid amount. -/
def Batch.invalidAmount : Values :=
  { batch.second.named (str "fixture:invalid-amount") with amountMinor := -100 }

/-- The values of the fixture with an unsupported schema version. -/
def Batch.unsupported : Values :=
  { batch.second.named (str "fixture:unsupported-schema") with schemaVersion := str "9.9" }

/-- The dictionary of the fixture with a card number. -/
def Batch.prohibited : Fields :=
  (batch.second.named (str "fixture:prohibited-pan")).fields ++
    [(str "card_number", .str (str "4111111111111111"))]

/-- The arrivals that the store refuses. -/
def Batch.fixtures : List Fields :=
  [batch.conflict.fields, batch.invalidAmount.fields, batch.unsupported.fields, batch.prohibited]

/-- The conflict is received at a whole second of UTC, since the first event was. -/
theorem Batch.whole : Whole batch.delayed := later_whole batch.opening.receivedWhole batch.added

/-- The valid events start with the first two of the first lifecycle, from which the generator
makes its fixtures. -/
theorem Batch.valid_starts : batch.valid = batch.first.fields :: batch.second.fields ::
    (batch.more.map (fun stage => (stage.values batch.head.transaction).fields) ++
      batch.tail.flatMap Lifecycle.raws) := flat_map_starts batch.starts

end Batches

/-- What is injected into events that start with these two: duplicates of valid events, then the
conflict and the fixtures made from the first two. The conflict's receipt time is five minutes
later, which has to lie in the calendar. -/
theorem injected_events_ok {first second : Values} {receivedAt : Timestamp}
    {rest injected : List Fields}
    (received : fromisoformat first.receivedAt = some (.aware receivedAt))
    (made : injectedEvents (first.fields :: second.fields :: rest) = .ok injected) :
    ∃ delayed, receivedAt.plusSeconds 300 = some delayed ∧
      injected = duplicatesOf (first.fields :: second.fields :: rest) ++
        [Values.fields { first with
            amountMinor := first.amountMinor + 1
            receivedAt := delayed.isoformat },
          Values.fields { second.named (str "fixture:invalid-amount") with amountMinor := -100 },
          Values.fields { second.named (str "fixture:unsupported-schema") with
            schemaVersion := str "9.9" },
          (second.named (str "fixture:prohibited-pan")).fields ++
            [(str "card_number", .str (str "4111111111111111"))]] := by
  obtain ⟨event, found, following⟩ := bind_ok.mp made
  cases found
  obtain ⟨conflict, built, following⟩ := bind_ok.mp following
  obtain ⟨other, found, same⟩ := bind_ok.mp following
  cases found
  obtain ⟨delayed, added, shape⟩ := conflict_values received built
  refine ⟨delayed, added, ?_⟩
  rw [← Except.ok.inj same, shape, invalid_amount_values, unsupported_values, prohibited_values]

/-- A regular lifecycle starts with two events, whether or not a reversal follows. -/
theorem regular_starts {stages : List Stage} (regular : Regular stages) :
    ∃ opening capture more, stages = opening :: capture :: more := by
  cases regular with
  | captured pair => exact ⟨_, _, _, rfl⟩
  | reversed pair third reverses covered => exact ⟨_, _, _, rfl⟩

/-- The loop yields the events of some lifecycles, of which the first starts with two events. -/
theorem valid_events_start {sources : List Source} {minimumRecords : Int} {looped : List Fields}
    {last : Nat} (identified : ∀ source ∈ sources, isIdentifier source.sourceId = true)
    (least : 100 ≤ minimumRecords)
    (found : validEvents sources minimumRecords minimumRecords.toNat 1 [] = .ok (looped, last)) :
    ∃ head tail opening capture more, Numbered sources 1 (head :: tail) ∧
      head.stages = opening :: capture :: more ∧ looped = (head :: tail).flatMap Lifecycle.raws ∧
      last = 1 + (head :: tail).length ∧ minimumRecords ≤ looped.length := by
  obtain ⟨lifecycles, numbered, shape, ends, enough⟩ := valid_events_numbered identified found
  have many : minimumRecords ≤ looped.length := by
    rcases enough with reached | turned
    · exact reached
    · rw [List.length_nil] at turned
      omega
  rw [List.nil_append] at shape
  cases lifecycles with
  | nil =>
    rw [shape, List.flatMap_nil, List.length_nil] at many
    omega
  | cons head tail =>
    obtain ⟨opening, capture, more, starts⟩ := regular_starts head.regular
    exact ⟨head, tail, opening, capture, more, numbered, starts, shape, ends, many⟩

/-- The receipt time of a stage reads back as the time that was written. -/
theorem stage_received (stage : Stage) (transaction : Transaction) :
    fromisoformat (stage.values transaction).receivedAt = some (.aware stage.receivedAt) :=
  fromisoformat_isoformat stage.receivedWhole.whole stage.receivedWhole.utc

/-- The generator yields a batch: its events in some order, some of them again, and the
fixtures. -/
theorem generate_arrivals_batch {shuffle : Int → List Fields → List Fields} {registry : Registry}
    {minimumRecords seed : Int} {arrivals valid : List Fields} {transactions : Nat}
    (identified : ∀ source ∈ lifecycleSources registry, isIdentifier source.sourceId = true)
    (generated : generateArrivals shuffle registry minimumRecords seed =
      .ok (arrivals, valid, transactions)) :
    ∃ batch : Batch (lifecycleSources registry), valid = batch.valid ∧
      transactions = batch.lifecycles.length ∧ minimumRecords ≤ valid.length ∧
      arrivals = shuffle seed valid ++ (duplicatesOf valid ++ batch.fixtures) := by
  simp only [generateArrivals, bind_ok, require_ok, exists_const] at generated
  obtain ⟨least, _, ⟨looped, last⟩, found, injected, following, same⟩ := generated
  obtain ⟨head, tail, opening, capture, more, numbered, starts, shape, ends, many⟩ :=
    valid_events_start identified least found
  have opens := shape.trans (flat_map_starts starts)
  rw [opens] at following
  obtain ⟨delayed, added, made⟩ :=
    injected_events_ok (stage_received opening head.transaction) following
  rw [← opens] at made
  obtain ⟨arrived, rest⟩ := Prod.mk.inj (Except.ok.inj same)
  obtain ⟨kept, counted⟩ := Prod.mk.inj rest
  refine ⟨⟨head, tail, opening, capture, more, starts, numbered, delayed, later_ok.mpr added⟩,
    kept.symm.trans shape, ?_, kept ▸ many, ?_⟩
  · rw [← counted, ends, Nat.add_sub_cancel_left]
    rfl
  · rw [← arrived, ← kept, made]
    rfl

/-! ## The calendar -/

/-- Nothing stops the computation but the end of the calendar. -/
def OnlyOverflows {α : Type} (result : Py α) : Prop :=
  ∀ error, result = .error error → error = .other (str "date value out of range")

/-- A result does not raise. -/
theorem OnlyOverflows.of_ok {α : Type} (result : α) : OnlyOverflows (.ok result) := nofun

/-- A composition stops at the end of the calendar only, where both of its parts do. The second
part may use that the first returned its argument. -/
theorem OnlyOverflows.bind {α β : Type} {first : Py α} {next : α → Py β}
    (begins : OnlyOverflows first)
    (continues : ∀ result, first = .ok result → OnlyOverflows (next result)) :
    OnlyOverflows (first >>= next) := by
  intro error failed
  cases ran : first with
  | error other =>
    rw [ran] at failed
    exact begins error (ran.trans (congrArg Except.error (Except.error.inj failed)))
  | ok result =>
    rw [ran] at failed
    exact continues result ran error failed

/-- Adding seconds to a timestamp raises past the last year of the calendar and nowhere else. -/
theorem only_overflows_later (timestamp : Timestamp) (seconds : Nat) :
    OnlyOverflows (later timestamp seconds) := by
  intro error failed
  unfold later at failed
  split at failed
  · cases failed
  · exact (Except.error.inj failed).symm

/-- An event reads two times off the calendar and nothing else that can raise. -/
theorem only_overflows_event (number version : Nat) (eventType : EventType) (amountMinor : Nat)
    (source : Source) (timestamp : Timestamp) :
    OnlyOverflows (event number version eventType amountMinor source timestamp) :=
  (only_overflows_later _ _).bind fun _ _ => (only_overflows_later _ _).bind fun _ _ => .of_ok _

/-- The two or three events of a transaction are made, unless one of their times leaves the
calendar. -/
theorem only_overflows_transaction (source : Source) (number : Nat) :
    OnlyOverflows (transactionEvents source number) := by
  refine (only_overflows_later _ _).bind fun timestamp _ =>
    (only_overflows_event _ _ _ _ _ _).bind fun authorization _ =>
      (only_overflows_event _ _ _ _ _ _).bind fun capture _ => ?_
  split
  · exact (only_overflows_event _ _ _ _ _ _).bind fun _ _ => .of_ok _
  · split
    · exact (only_overflows_event _ _ _ _ _ _).bind fun _ _ => .of_ok _
    · exact .of_ok _

/-- Choosing the source of a number raises nothing, where there is a source to choose. -/
theorem only_overflows_source {sources : List Source} (nonempty : sources ≠ []) (number : Nat) :
    OnlyOverflows (sourceOf sources number) := by
  intro error failed
  have inside : (number - 1) % sources.length < sources.length :=
    Nat.mod_lt _ (List.length_pos_iff.mpr nonempty)
  rw [sourceOf, List.getElem?_eq_getElem inside] at failed
  cases failed

/-- The loop of the generator stops early at the end of the calendar only.

Proof: induction on the turns that are left. -/
theorem only_overflows_loop {sources : List Source} (nonempty : sources ≠ [])
    (minimumRecords : Int) (turns number : Nat) (valid : List Fields) :
    OnlyOverflows (validEvents sources minimumRecords turns number valid) := by
  induction turns generalizing number valid with
  | zero => exact .of_ok _
  | succ turns inductionHypothesis =>
    rw [validEvents]
    split
    · exact (only_overflows_source nonempty number).bind fun source _ =>
        (only_overflows_transaction source number).bind fun events _ => inductionHypothesis _ _
    · exact .of_ok _

/-- The fixtures of events whose first receipt time is read raise past the end of the calendar
only: the conflict is received five minutes later. -/
theorem only_overflows_injected {first second : Values} {receivedAt : Timestamp}
    {rest : List Fields} (received : fromisoformat first.receivedAt = some (.aware receivedAt)) :
    OnlyOverflows (injectedEvents (first.fields :: second.fields :: rest)) := by
  have conflict : OnlyOverflows (conflictOf first.fields) := by
    have amount : get first.fields (str "amount_minor") = some (.int first.amountMinor) := rfl
    have time : get first.fields (str "received_at") = some (.str first.receivedAt) := rfl
    rw [conflictOf, amount, time]
    simp only [received]
    exact (only_overflows_later _ _).bind fun _ _ => .of_ok _
  refine OnlyOverflows.bind (.of_ok _) fun event found => ?_
  cases found
  exact conflict.bind fun _ _ => OnlyOverflows.bind (.of_ok _) fun _ _ => .of_ok _

/-- The generator returns, unless a time leaves the calendar: with a hundred records asked for and
lifecycle sources in the registry, no other step can fail. -/
theorem generate_arrivals_returns {shuffle : Int → List Fields → List Fields} {registry : Registry}
    {minimumRecords seed : Int}
    (identified : ∀ source ∈ lifecycleSources registry, isIdentifier source.sourceId = true)
    (nonempty : lifecycleSources registry ≠ []) (least : 100 ≤ minimumRecords) :
    OnlyOverflows (generateArrivals shuffle registry minimumRecords seed) := by
  have required (condition : Prop) [Decidable condition] (error : PyError) (holds : condition) :
      require condition error = .ok () := if_pos holds
  rw [generateArrivals, required _ _ least]
  refine OnlyOverflows.bind (.of_ok _) fun _ _ => ?_
  dsimp only
  rw [required _ _ nonempty]
  refine OnlyOverflows.bind (.of_ok _) fun _ _ =>
    (only_overflows_loop nonempty _ _ _ _).bind fun ⟨looped, last⟩ found => ?_
  obtain ⟨head, tail, opening, capture, more, _, starts, shape, _⟩ :=
    valid_events_start identified least found
  have injected : OnlyOverflows (injectedEvents looped) := by
    rw [shape, flat_map_starts starts]
    exact only_overflows_injected (stage_received opening head.transaction)
  exact injected.bind fun _ _ => .of_ok _

/-! ## Reading back -/

/-- The texts of the entries. -/
def Values.texts (values : Values) : List Str :=
  [values.schemaVersion, values.eventId, values.transactionId, values.sourceId, values.processorId,
    values.merchantId, values.eventType, values.currency, values.eventTime, values.receivedAt,
    values.customerEmail]

/-- Texts are ASCII and numbers are short. -/
structure Values.Plain (values : Values) : Prop where
  texts : ∀ text ∈ values.texts, Ascii text
  transactionVersion : Short values.transactionVersion
  amountMinor : Short values.amountMinor

/-- The dictionary of plain values is read back from what is written of it: its keys differ, and
every value is an ASCII text or an integer within the limit. -/
theorem values_readable {values : Values} (plain : values.Plain) :
    ReadableFields values.fields := by
  have key {name : Str} (listed : name ∈ allowedFields) : Unpaired name :=
    (allowed_ascii name listed).encodable.unpaired
  have text {text : Str} (listed : text ∈ values.texts) : Unpaired text :=
    (plain.texts text listed).encodable.unpaired
  refine readable_fields.mpr fun entry member => ⟨key ?_, ?_⟩
  · rw [← values_keys values]
    exact List.mem_map_of_mem member
  · simp only [Values.fields, List.mem_cons, List.not_mem_nil, or_false] at member
    rcases member with rfl | rfl | rfl | rfl | rfl | rfl | rfl | rfl | rfl | rfl | rfl | rfl | rfl
    all_goals first
      | exact plain.transactionVersion
      | exact plain.amountMinor
      | exact text (by simp [Values.texts])

/-- Writing sorts the entries of a dictionary and loses none of them. -/
theorem sorted_values_perm (values : Values) :
    (sortedEntries values.fields).Perm values.fields :=
  List.perm_insertionSort byKey values.fields

/-- The name of an event type is ASCII, so it is written without escapes. -/
theorem event_type_ascii (eventType : EventType) : Ascii eventType.text := by
  cases eventType <;> decide

/-- The code of a currency is ASCII, so it is written without escapes. -/
theorem currency_ascii (currency : Currency) : Ascii currency.text := by
  cases currency <;> decide

/-- The values of a stage are plain: its texts are literals, padded numbers and times, and its
numbers are small. -/
theorem stage_plain (stage : Stage) (transaction : Transaction) :
    (stage.values transaction).Plain := by
  have version := stage.versionRange
  have amount := stage.amountRange
  refine ⟨?_, short_small (by show (stage.version : Int).natAbs < _; omega),
    short_small (by show (stage.amountMinor : Int).natAbs < _; omega)⟩
  have literal : Ascii (str "1.0") := by decide
  have event := @event_id_valid transaction.number stage.version transaction.inRange (by omega)
  simp only [Values.texts, List.forall_mem_cons]
  exact ⟨literal, identifier_ascii ⟨_, event⟩, identifier_ascii transaction.id,
    identifier_ascii ⟨_, transaction.identified⟩, identifier_ascii ⟨_, processor_id_valid _⟩,
    identifier_ascii ⟨_, merchant_id_valid _⟩, event_type_ascii _, currency_ascii _,
    isoformat_ascii _, isoformat_ascii _, customer_email_ascii stage transaction, nofun⟩

section Batches

variable {sources : List Source} (batch : Batch sources)

/-- The valid events of a batch are the dictionaries of the stages of its lifecycles, and no
others. -/
theorem Batch.mem_valid {raw : Fields} : raw ∈ batch.valid ↔
    ∃ lifecycle ∈ batch.lifecycles, ∃ stage ∈ lifecycle.stages,
      (stage.values lifecycle.transaction).fields = raw := by
  simp only [Batch.valid, List.mem_flatMap, Lifecycle.raws, List.mem_map]

/-- A duplicate is one of the valid events, so injecting duplicates brings no new payload. -/
theorem mem_duplicates {valid : List Fields} {raw : Fields} (member : raw ∈ duplicatesOf valid) :
    raw ∈ valid := by
  obtain ⟨_, _, found⟩ := List.mem_filterMap.mp member
  exact List.mem_of_getElem? found

/-- A fixture of plain values is plain under an ASCII name: only its two identifiers are
replaced. -/
theorem named_plain {values : Values} (plain : values.Plain) {name : Str} (ascii : Ascii name) :
    (values.named name).Plain := by
  refine ⟨?_, plain.transactionVersion, plain.amountMinor⟩
  have texts := plain.texts
  simp only [Values.texts, List.forall_mem_cons] at texts ⊢
  exact ⟨texts.1, ascii, ascii, texts.2.2.2⟩

/-- The conflict is plain: one more minor unit is still small, and its receipt time is a time. -/
theorem Batch.conflict_plain : batch.conflict.Plain := by
  have plain := stage_plain batch.opening batch.head.transaction
  have amount := batch.opening.amountRange
  refine ⟨?_, plain.transactionVersion, short_small ?_⟩
  · have texts := plain.texts
    simp only [Values.texts, List.forall_mem_cons] at texts ⊢
    obtain ⟨schema, event, transaction, source, processor, merchant, eventType, currency, time, _,
      email⟩ := texts
    exact ⟨schema, event, transaction, source, processor, merchant, eventType, currency, time,
      isoformat_ascii _, email⟩
  · show ((batch.opening.amountMinor : Int) + 1).natAbs < _
    omega

/-- The fixture with an invalid amount is plain; minus one hundred is small. -/
theorem Batch.invalid_amount_plain : batch.invalidAmount.Plain := by
  have named := @named_plain _ (stage_plain batch.capture batch.head.transaction)
    (str "fixture:invalid-amount") (by decide)
  exact ⟨named.texts, named.transactionVersion, short_small (by show (-100 : Int).natAbs < _; decide)⟩

/-- The fixture with an unsupported schema version is plain: it differs from the second event in
ASCII texts only. -/
theorem Batch.unsupported_plain : batch.unsupported.Plain := by
  have named := @named_plain _ (stage_plain batch.capture batch.head.transaction)
    (str "fixture:unsupported-schema") (by decide)
  refine ⟨?_, named.transactionVersion, named.amountMinor⟩
  have texts := named.texts
  have schema : Ascii (str "9.9") := by decide
  simp only [Values.texts, List.forall_mem_cons] at texts ⊢
  exact ⟨schema, texts.2⟩

/-- A dictionary of plain values is readable as a JSON value, keys and values alike. -/
theorem plain_readable {values : Values} (plain : values.Plain) : Readable (.obj values.fields) :=
  ⟨values_keyed values, values_readable plain⟩

/-- The fixture with a card number is readable too: its extra entry is a text under a key of its
own. -/
theorem Batch.prohibited_readable : Readable (.obj batch.prohibited) := by
  have named := @named_plain _ (stage_plain batch.capture batch.head.transaction)
    (str "fixture:prohibited-pan") (by decide)
  have card : Ascii (str "card_number") ∧ Ascii (str "4111111111111111") := by decide
  refine ⟨?_, readable_fields.mpr fun entry member => ?_⟩
  · show (allowedFields ++ [str "card_number"]).Nodup
    rw [allowedFields, requiredFields]
    decide
  · rcases List.mem_append.mp member with inside | last
    · exact readable_fields.mp (values_readable named) entry inside
    · rw [List.mem_singleton.mp last]
      exact ⟨card.1.encodable.unpaired, card.2.encodable.unpaired⟩

/-- Every arrival can be read back: the shuffled events and their duplicates are dictionaries of
stages, and each of the four fixtures is plain or plain with a card number. -/
theorem Batch.readable {arrivals : List Fields} {shuffled : List Fields}
    (permuted : shuffled.Perm batch.valid)
    (arrived : arrivals = shuffled ++ (duplicatesOf batch.valid ++ batch.fixtures)) :
    ∀ raw ∈ arrivals, Readable (.obj raw) := by
  have valid {raw : Fields} (member : raw ∈ batch.valid) : Readable (.obj raw) := by
    obtain ⟨lifecycle, _, stage, _, rfl⟩ := batch.mem_valid.mp member
    exact plain_readable (stage_plain stage lifecycle.transaction)
  intro raw member
  rw [arrived] at member
  rcases List.mem_append.mp member with fresh | injected
  · exact valid (permuted.mem_iff.mp fresh)
  · rcases List.mem_append.mp injected with again | refused
    · exact valid (mem_duplicates again)
    · simp only [Batch.fixtures, List.mem_cons, List.not_mem_nil, or_false] at refused
      rcases refused with rfl | rfl | rfl | rfl
      · exact plain_readable batch.conflict_plain
      · exact plain_readable batch.invalid_amount_plain
      · exact plain_readable batch.unsupported_plain
      · exact batch.prohibited_readable

end Batches

end LedgerFlow.Simulator
