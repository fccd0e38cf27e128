import LedgerFlow.Manifest.JsonLines

/-!
# Building and verifying a manifest

The definitions follow `build_manifest` and `verify_manifest`. Verification compares the
name, the size and the digest first; it then builds the manifest of the data again, beside
the given one, removes that file and compares the count and the totals.

A manifest can be written as long as its numbers can be printed. Whatever JSON object it
was read from, verification then succeeds exactly when the five values equal the ones of the
data: a number read from JSON is within the limit itself, so building again cannot fail on
numbers that are to agree with it.
-/

namespace LedgerFlow.Manifests

open PyText PyJson PyBytes Grouping

/-! ## Manifests -/

/-- A manifest as `build_manifest` returns it. -/
structure Manifest where
  fileName : Str
  byteSize : Nat
  recordCount : Nat
  sha256 : AsciiText
  totals : List (Str × Int)
  deriving DecidableEq

/-- The totals as a dictionary. -/
def totalFields (totals : List (Str × Int)) : Fields :=
  totals.map fun total => (total.1, .int total.2)

/-- The dictionary `manifest`. -/
def Manifest.fields (manifest : Manifest) : Fields :=
  [(str "version", .int 1), (str "file_name", .str manifest.fileName),
    (str "byte_size", .int manifest.byteSize), (str "record_count", .int manifest.recordCount),
    (str "sha256", .str manifest.sha256.1),
    (str "raw_control_totals_minor", .obj (totalFields manifest.totals))]

/-- The currency and the amount of an event that counts. -/
def counted (event : Fields) : Option (Str × Int) :=
  match get event (str "amount_minor"), get event (str "currency") with
  | some (.int amount), some (.str currency) => some (currency, amount)
  | _, _ => none

/-- `dict(sorted(totals.items()))` -/
def controlTotals (events : List Fields) : List (Str × Int) :=
  (totals Prod.fst Prod.snd (events.filterMap counted)).insertionSort byKey

/-- `json.dumps(value, indent=2, sort_keys=True) + "\n"` -/
def jsonDumps (value : Json) : Except FileError Str :=
  if shortInts value then .ok (printed indented 0 (sortKeys value) ++ [lineFeed])
  else .error .digitLimit

section Building

variable (library : Library)

/-- The manifest of a file that holds these bytes and events. -/
def manifestOf (data : Path) (content : Bytes) (events : List Fields) : Manifest where
  fileName := data.name
  byteSize := content.length
  recordCount := events.length
  sha256 := library.sha256 content
  totals := controlTotals events

/-- The manifest that is recomputed from a file. -/
def recompute (files : Files) (data : Path) : Except FileError Manifest := do
  let events ← iterJsonl library files data
  let content ← readBytes files data
  .ok (manifestOf library data content events)

/-- `build_manifest` -/
def buildManifest (data manifestPath : Path) (files : Files) : Except FileError Manifest × Files :=
  match recompute library files data with
  | .error error => (.error error, files)
  | .ok manifest =>
      match jsonDumps (.obj manifest.fields) with
      | .error error => (.error error, files)
      | .ok text => (.ok manifest, files.write manifestPath (utf8 text))

end Building

/-! ## Verification -/

/-- `json.loads(path.read_text(encoding="utf-8"))` -/
def readJson (library : Library) (files : Files) (path : Path) : Except FileError Json := do
  let text ← readText files path
  match loads library.readFloat text with
  | .error .digitLimit => .error .digitLimit
  | .error _ => .error .jsonDecode
  | .ok value => .ok value

/-- The name without its suffix: the suffix starts at the last dot, if that is neither the
first nor the last character. -/
def stem (name : Str) : Str :=
  let dotted := name.reverse.dropWhile (· ≠ point '.')
  if 1 < dotted.length ∧ dotted.length < name.length then (dotted.drop 1).reverse else name

/-- The stem of a file name has no character that the name has not. -/
theorem mem_stem {name : Str} {c : CodePoint} (member : c ∈ stem name) : c ∈ name := by
  unfold stem at member
  dsimp only at member
  split at member
  · have inside := List.mem_of_mem_drop (List.mem_reverse.mp member)
    exact List.mem_reverse.mp ((List.dropWhile_suffix _).mem inside)
  · exact member

/-- `path.with_suffix(".verification.tmp")` -/
def rebuiltPath (path : Path) : Path where
  directory := path.directory
  name := stem path.name ++ str ".verification.tmp"
  encodable c member := by
    rcases List.mem_append.mp member with kept | suffix
    · exact path.encodable c (mem_stem kept)
    · have ascii : Ascii (str ".verification.tmp") := by decide
      have bound := ascii c suffix
      exact decide_eq_false (by omega)

/-- `value == text` for a value that may be missing. -/
def equalsText (value : Option Json) (text : Str) : Bool :=
  match value with
  | some (.str other) => decide (other = text)
  | _ => false

/-- The total of a currency is what an object states for it. -/
def totalHeld (library : Library) (fields : Fields) (total : Str × Int) : Bool :=
  (get fields total.1).any (equalsInt library.floatEquals total.2)

/-- `value == totals` for a value that may be missing. -/
def totalsHeld (library : Library) (totals : List (Str × Int)) (value : Option Json) : Bool :=
  value.any (equalsObject totals (totalHeld library))

/-- `if not condition: raise ManifestError(reason)` -/
def checkThat (condition : Bool) (reason : Str) : Except FileError Unit :=
  if condition then .ok () else .error (.manifest reason)

section Verifying

variable (library : Library)

/-- The checks before the manifest is built again. -/
def checkSource (data : Path) (files : Files) (manifest : Fields) : Except FileError Unit := do
  checkThat (equalsText (get manifest (str "file_name")) data.name)
    (str "manifest_file_name_mismatch")
  let content ← readBytes files data
  checkThat ((get manifest (str "byte_size")).any (equalsInt library.floatEquals content.length))
    (str "manifest_byte_size_mismatch")
  checkThat (equalsText (get manifest (str "sha256")) (library.sha256 content).1)
    (str "manifest_checksum_mismatch")

/-- The manifest that is read, once its source is checked. -/
def readManifest (data manifestPath : Path) (files : Files) : Except FileError Fields := do
  let value ← readJson library files manifestPath
  match value with
  | .obj manifest => do
      checkSource library data files manifest
      .ok manifest
  | _ => .error .attribute

/-- The checks after the manifest is built again. -/
def checkActual (manifest : Fields) (actual : Except FileError Manifest) :
    Except FileError Fields := do
  let actual ← actual
  checkThat
    ((get manifest (str "record_count")).any (equalsInt library.floatEquals actual.recordCount))
    (str "manifest_record_count_mismatch")
  checkThat (totalsHeld library actual.totals (get manifest (str "raw_control_totals_minor")))
    (str "manifest_control_total_mismatch")
  .ok manifest

/-- `verify_manifest` -/
def verifyManifest (data manifestPath : Path) (files : Files) :
    Except FileError Fields × Files :=
  match readManifest library data manifestPath files with
  | .error error => (.error error, files)
  | .ok manifest =>
      let (actual, rebuilt) := buildManifest library data (rebuiltPath manifestPath) files
      (checkActual library manifest actual, rebuilt.unlink (rebuiltPath manifestPath))

end Verifying

/-! ## Control totals -/

/-- The integer amount of a record in a currency. -/
def amountIn (currency : Str) (event : Fields) : Option Int :=
  match get event (str "amount_minor"), get event (str "currency") with
  | some (.int amount), some (.str other) => if other = currency then some amount else none
  | _, _ => none

/-- What an event contributes to the total of a currency is what it contributes to the counted
rows, where its currency is that one. -/
theorem amount_in_counted (currency : Str) (event : Fields) :
    amountIn currency event =
      (counted event).bind fun row => if row.1 = currency then some row.2 else none := by
  unfold amountIn counted
  split <;> rfl

/-- The amounts in a currency are those of the counted rows of that currency. -/
theorem amounts_counted (currency : Str) (events : List Fields) :
    events.filterMap (amountIn currency) =
      ((events.filterMap counted).filter fun row => row.1 = currency).map Prod.snd := by
  induction events with
  | nil => rfl
  | cons event rest inductionHypothesis =>
    rw [List.filterMap_cons, List.filterMap_cons, amount_in_counted, inductionHypothesis]
    cases counted event with
    | none => rfl
    | some row =>
      rw [Option.bind_some, List.filter_cons]
      by_cases same : row.1 = currency
      · rw [if_pos same, if_pos (decide_eq_true same)]
        rfl
      · rw [if_neg same, if_neg fun wrong => same (of_decide_eq_true wrong)]

/-- The control totals are the totals by currency of the counted rows, up to the order: the
manifest lists the currencies in their order, the fold in the one in which they occur. -/
theorem control_totals_perm (events : List Fields) :
    (controlTotals events).Perm (totals Prod.fst Prod.snd (events.filterMap counted)) :=
  List.perm_insertionSort _ _

/-- No currency has two totals, since each record adds to the total of its own. -/
theorem control_totals_keyed (events : List Fields) : Keyed Prod.fst (controlTotals events) :=
  ((control_totals_perm events).map Prod.fst).nodup_iff.mpr (totals_keyed _)

/-- The total of a currency is the sum of its amounts, if there is one. -/
theorem control_totals_lookup (events : List Fields) (currency : Str) :
    (controlTotals events).lookup currency =
      if events.filterMap (amountIn currency) = [] then none
      else some (events.filterMap (amountIn currency)).sum := by
  have keyed := @totals_keyed _ _ _ Prod.fst Prod.snd (events.filterMap counted)
  rw [(control_totals_keyed events).lookup_perm (control_totals_perm events), amounts_counted]
  have sum := keyed.lookup currency
  rw [picked_totals] at sum
  have listed := @mem_totals_keys _ _ _ Prod.fst Prod.snd (events.filterMap counted) currency
  cases found : (totals Prod.fst Prod.snd (events.filterMap counted)).lookup currency with
  | none =>
    have missing := List.lookup_eq_none_iff.mp found
    rw [if_pos]
    rw [List.map_eq_nil_iff, List.filter_eq_nil_iff]
    intro row member same
    obtain ⟨total, inside, named⟩ := List.mem_map.mp
      (listed.mpr (List.mem_map.mpr ⟨row, member, of_decide_eq_true same⟩))
    exact absurd (missing total inside) (by simp [named])
  | some total =>
    rw [found] at sum
    obtain ⟨row, member, named⟩ := List.mem_map.mp
      (listed.mp (List.mem_map.mpr ⟨_, keyed.lookup_mem.mp found, rfl⟩))
    rw [if_neg]
    · exact congrArg some sum
    · intro empty
      have none := List.filter_eq_nil_iff.mp (List.map_eq_nil_iff.mp empty) row member
      exact none (decide_eq_true named)

/-! ## Numbers that can be printed -/

/-- `str` of every number of the manifest is within the digit limit. -/
structure Manifest.Printable (manifest : Manifest) : Prop where
  byteSize : Short manifest.byteSize
  recordCount : Short manifest.recordCount
  totals : ∀ total ∈ manifest.totals, Short total.2

/-- The text of the manifest file. -/
def Manifest.text (manifest : Manifest) : Str :=
  printed indented 0 (sortKeys (.obj manifest.fields)) ++ [lineFeed]

/-- The version number of a manifest is printed within the interpreter's limit on digits. -/
theorem short_one : Short 1 := by
  rw [Short]
  exact Nat.one_lt_pow (by rw [digitLimit]; decide) (by decide)

/-- The totals of a manifest are short integers exactly when each of them is. -/
theorem short_totals {totals : List (Str × Int)} :
    shortFields (totalFields totals) = true ↔ ∀ total ∈ totals, Short total.2 := by
  rw [short_fields, totalFields, List.forall_mem_map]
  simp only [shortInts, decide_eq_true_eq]

/-- The numbers of a manifest decide whether it is written: either all of them are within the
limit on digits and its text is printed, or the printing fails for the limit. -/
theorem json_dumps_manifest (manifest : Manifest) :
    (manifest.Printable ∧ jsonDumps (.obj manifest.fields) = .ok manifest.text) ∨
      (¬ manifest.Printable ∧ jsonDumps (.obj manifest.fields) = .error .digitLimit) := by
  have numbers : shortInts (.obj manifest.fields) = true ↔ manifest.Printable := by
    simp only [shortInts, Manifest.fields, shortFields, Bool.and_eq_true, decide_eq_true_eq,
      short_totals, short_one, true_and, and_true]
    constructor
    · rintro ⟨size, count, totals⟩
      exact ⟨size, count, totals⟩
    · rintro ⟨size, count, totals⟩
      exact ⟨size, count, totals⟩
  by_cases printable : manifest.Printable
  · exact .inl ⟨printable, if_pos (numbers.mpr printable)⟩
  · exact .inr ⟨printable, if_neg (mt numbers.mp printable)⟩

/-! ## What is recomputed -/

section Recomputed

variable {library : Library} {files : Files} {data : Path}

/-- What is read from encodable lines has integers within the limit, since reading refuses longer
ones, and texts in which no high surrogate is followed by a low one, since an escaped pair is
joined. -/
theorem parse_lines_decoded {lines : List Str} (encodable : ∀ line ∈ lines, Encodable line)
    {number : Nat} {events : List Fields} (read : parseLines library number lines = .ok events) :
    ∀ event ∈ events, DecodedFields event := by
  induction lines generalizing number events with
  | nil =>
    cases read
    exact nofun
  | cons line rest inductionHypothesis =>
    obtain ⟨fields, first, following⟩ := bind_ok.mp read
    obtain ⟨others, later, same⟩ := bind_ok.mp following
    cases same
    refine List.forall_mem_cons.mpr ⟨?_, inductionHypothesis
      (fun other member => encodable other (List.mem_cons_of_mem line member)) later⟩
    unfold parseLine at first
    split at first
    · cases first
    · cases first
    · next found loaded =>
      cases first
      exact (loads_spec (encodable line List.mem_cons_self)).2 _ loaded
    · cases first

/-- What is read as UTF-8 is encodable: decoding refuses the bytes of a surrogate. -/
theorem read_text_encodable {path : Path} {text : Str} (read : readText files path = .ok text) :
    Encodable text := by
  obtain ⟨content, _, decoded⟩ := bind_ok.mp read
  split at decoded
  · cases decoded
  · next decodes =>
    cases decoded
    exact universal_encodable (decode_encodable decodes)

/-- Records that were read from a file have integers within the limit and unpaired texts: the
file's bytes are UTF-8, and what they decode to is encodable. -/
theorem iter_decoded {events : List Fields} (read : iterJsonl library files data = .ok events) :
    ∀ event ∈ events, DecodedFields event := by
  obtain ⟨text, found, parsed⟩ := bind_ok.mp read
  exact parse_lines_decoded (fun line => lines_encodable (read_text_encodable found)) parsed

/-- The texts of the manifest can be spelled, and its totals are a sorted dictionary. -/
structure Manifest.WellFormed (manifest : Manifest) : Prop where
  fileName : Unpaired manifest.fileName
  currencies : ∀ total ∈ manifest.totals, Unpaired total.1
  keyed : Keyed Prod.fst manifest.totals
  sorted : manifest.totals.Pairwise byKey

/-- The currencies that are counted, of decoded records, are unpaired, so that their printed
escapes spell nothing else. -/
theorem counted_unpaired {event : Fields} (decoded : DecodedFields event) {row : Str × Int}
    (counts : counted event = some row) : Unpaired row.1 := by
  unfold counted at counts
  split at counts
  · next amount currency _ found =>
    cases counts
    exact (decoded_fields.mp decoded _ (mem_of_lookup found)).2
  · cases counts

/-- The manifest of decoded events can be read back from its text as far as its texts, its keys
and their order go: every text in it is unpaired, and its totals are keyed and sorted.

Proof: the file name is an encodable path, and the currencies are values of decoded events. -/
theorem manifest_well_formed (content : Bytes) {events : List Fields}
    (decoded : ∀ event ∈ events, DecodedFields event) :
    (manifestOf library data content events).WellFormed where
  fileName := unpaired_of_none data.encodable
  currencies := by
    intro total member
    have named := ((control_totals_perm events).map Prod.fst).mem_iff.mp (List.mem_map_of_mem member)
    obtain ⟨row, inside, same⟩ := List.mem_map.mp (mem_totals_keys.mp named)
    obtain ⟨event, listed, counts⟩ := List.mem_filterMap.mp inside
    rw [← same]
    exact counted_unpaired (decoded event listed) counts
  keyed := control_totals_keyed events
  sorted := List.pairwise_insertionSort byKey _

/-- The recomputed manifest is that of the records of the data file and of its bytes, and it
exists exactly when both can be read. -/
theorem recompute_ok {manifest : Manifest} :
    recompute library files data = .ok manifest ↔
      ∃ events content, iterJsonl library files data = .ok events ∧ files data = some content ∧
        manifestOf library data content events = manifest := by
  unfold recompute
  constructor
  · intro returned
    obtain ⟨events, read, following⟩ := bind_ok.mp returned
    obtain ⟨content, found, same⟩ := bind_ok.mp following
    refine ⟨events, content, read, ?_, Except.ok.inj same⟩
    unfold readBytes at found
    split at found
    · cases found
    · next held =>
      cases found
      exact held
  · rintro ⟨events, content, read, held, rfl⟩
    have found : readBytes files data = .ok content := by rw [readBytes, held]
    rw [read, found]
    rfl

/-- What recomputation returns is well formed, since the events it counted were read from the
file. -/
theorem recompute_well_formed {manifest : Manifest}
    (recomputed : recompute library files data = .ok manifest) : manifest.WellFormed := by
  obtain ⟨events, content, read, _, rfl⟩ := recompute_ok.mp recomputed
  exact manifest_well_formed content (iter_decoded read)

/-- Only the data file counts for the recomputed manifest; writing another file changes
nothing. -/
theorem recompute_write {path : Path} (apart : data ≠ path) (content : Bytes) :
    recompute library (files.write path content) data = recompute library files data := by
  simp only [recompute, iterJsonl, readText, readBytes, write_other files content apart]

end Recomputed

/-! ## The manifest file -/

section Written

variable {library : Library} {files : Files} {manifestPath : Path} {manifest : Manifest}

/-- Sorting the keys within the totals does nothing, as their values are integers, which have no
keys. -/
theorem total_fields_map (totals : List (Str × Int)) :
    sortFields (totalFields totals) = totalFields totals := by
  rw [sort_fields_map, totalFields, List.map_map]
  rfl

/-- Sorting the keys within the entries changes nothing, since the totals are sorted already; only
the order of the entries themselves changes. -/
theorem sort_manifest_fields (sorted : manifest.totals.Pairwise byKey) :
    sortFields manifest.fields = manifest.fields := by
  have inner : (totalFields manifest.totals).insertionSort byKey = totalFields manifest.totals :=
    List.Pairwise.insertionSort_eq (List.pairwise_map.mpr sorted)
  rw [Manifest.fields, sort_fields_map]
  simp only [List.map_cons, List.map_nil, sortKeys, total_fields_map, inner]

/-- The dictionary that the manifest file holds has the entries of the manifest, in the order of
their keys. -/
theorem sorted_entries_perm (sorted : manifest.totals.Pairwise byKey) :
    (sortedEntries manifest.fields).Perm manifest.fields := by
  rw [sortedEntries, sort_manifest_fields sorted]
  exact List.perm_insertionSort byKey _

/-- No key occurs twice in a manifest, whose six keys are fixed. -/
theorem manifest_keyed (manifest : Manifest) : Keyed Prod.fst manifest.fields := by
  rw [Keyed, Manifest.fields]
  simp only [List.map_cons, List.map_nil]
  decide

/-- A printable manifest can be read back: its numbers are within the limit, its texts are
unpaired and its keys distinct. -/
theorem manifest_readable (formed : manifest.WellFormed) (printable : manifest.Printable) :
    Readable (.obj manifest.fields) := by
  have totals : Readable (.obj (totalFields manifest.totals)) := by
    refine ⟨?_, readable_fields.mpr fun entry member => ?_⟩
    · rw [Keyed, totalFields, List.map_map]
      exact formed.keyed
    · obtain ⟨total, listed, rfl⟩ := List.mem_map.mp member
      exact ⟨formed.currencies total listed, printable.totals total listed⟩
  have digest : Unpaired manifest.sha256.1 := manifest.sha256.2.encodable.unpaired
  have key (name : String) (ascii : Ascii (str name)) : Unpaired (str name) :=
    ascii.encodable.unpaired
  refine ⟨manifest_keyed manifest, ⟨key "version" (by decide), short_one⟩,
    ⟨key "file_name" (by decide), formed.fileName⟩,
    ⟨key "byte_size" (by decide), printable.byteSize⟩,
    ⟨key "record_count" (by decide), printable.recordCount⟩,
    ⟨key "sha256" (by decide), digest⟩,
    ⟨key "raw_control_totals_minor" (by decide), totals⟩, trivial⟩

/-- The text of a manifest is printable ASCII but for its line feeds, the indentation's and the
last one. -/
theorem manifest_text_within (readable : Readable (.obj manifest.fields)) :
    ∀ c ∈ manifest.text, c = lineFeed ∨ 32 ≤ c.val ∧ c.val ≤ 126 := by
  have admits : Admits indented fun c => c = lineFeed ∨ 32 ≤ c.val ∧ c.val ≤ 126 := by
    refine ⟨fun c lower upper => .inr ⟨lower, upper⟩, fun depth c member => ?_, fun c member => ?_⟩
    · rcases List.mem_cons.mp member with feed | space
      · exact .inl feed
      · rw [List.eq_of_mem_replicate space]
        exact .inr (by decide)
    · rw [List.mem_singleton.mp member]
      exact .inr (by decide)
  intro c member
  rcases List.mem_append.mp member with inside | feed
  · exact printed_within admits _ (sort_readable _ readable) 0 c inside
  · exact .inl (List.mem_singleton.mp feed)

/-- The manifest file is read back as the manifest's dictionary with its keys in order. -/
theorem read_manifest_text (readable : Readable (.obj manifest.fields))
    (holds : files manifestPath = some (utf8 manifest.text)) :
    readJson library files manifestPath = .ok (.obj (sortedEntries manifest.fields)) := by
  have within := manifest_text_within readable
  have encodable : Encodable manifest.text := by
    intro c member
    rcases within c member with rfl | range
    · decide
    · omega
  have plain : carriageReturn ∉ manifest.text := by
    intro member
    rcases within _ member with feed | range
    · exact absurd feed (by decide)
    · exact absurd range (by decide)
  have read : readText files manifestPath = .ok manifest.text := by
    rw [readText, readBytes, holds]
    simp only [bind, Except.bind, decode_utf8 encodable, universal_plain plain]
  have feed : ∀ c ∈ [lineFeed], blank c = true := by
    intro c member
    rw [List.mem_singleton.mp member]
    decide
  have loaded := @loads_printed library.readFloat indented _ (sort_readable _ readable) [lineFeed] feed
  rw [← Manifest.text] at loaded
  rw [readJson, read]
  simp only [bind, Except.bind, loaded]
  rfl

/-- A manifest is built exactly when its numbers can be printed; otherwise the call fails and no
file is written. -/
theorem build_manifest_ok {data : Path} (recomputed : recompute library files data = .ok manifest) :
    (manifest.Printable ∧ buildManifest library data manifestPath files =
        (.ok manifest, files.write manifestPath (utf8 manifest.text))) ∨
      (¬ manifest.Printable ∧
        buildManifest library data manifestPath files = (.error .digitLimit, files)) := by
  rcases json_dumps_manifest manifest with ⟨printable, written⟩ | ⟨unprintable, refused⟩
  · refine .inl ⟨printable, ?_⟩
    simp only [buildManifest, recomputed, written]
  · refine .inr ⟨unprintable, ?_⟩
    simp only [buildManifest, recomputed, refused]

end Written

/-! ## Agreement -/

/-- The five values of a dictionary equal those of a manifest. -/
structure Agrees (library : Library) (given : Fields) (actual : Manifest) : Prop where
  fileName : equalsText (get given (str "file_name")) actual.fileName = true
  byteSize : (get given (str "byte_size")).any (equalsInt library.floatEquals actual.byteSize) = true
  sha256 : equalsText (get given (str "sha256")) actual.sha256.1 = true
  recordCount :
    (get given (str "record_count")).any (equalsInt library.floatEquals actual.recordCount) = true
  totals : totalsHeld library actual.totals (get given (str "raw_control_totals_minor")) = true

section Agreement

variable {library : Library} {files : Files} {data manifestPath : Path} {given : Fields}
  {actual : Manifest}

/-- A value equals a text in Python exactly when it is there and is that text; a number or a list
never is. -/
theorem equals_text_iff {value : Option Json} {text : Str} :
    equalsText value text = true ↔ value = some (.str text) := by
  unfold equalsText
  split
  · next other =>
    rw [decide_eq_true_eq]
    exact ⟨fun same => same ▸ rfl, fun same => Json.str.inj (Option.some.inj same)⟩
  · next other => exact ⟨nofun, fun same => absurd same (other text)⟩

/-- What is read from a file has integers within the limit on digits and unpaired texts, as
records have. -/
theorem read_json_decoded {path : Path} {value : Json}
    (read : readJson library files path = .ok value) : Decoded value := by
  obtain ⟨text, found, loaded⟩ := bind_ok.mp read
  split at loaded
  · cases loaded
  · cases loaded
  · next same =>
    cases loaded
    exact (loads_spec (read_text_encodable found)).2 _ same

/-- An integer that equals a value read from JSON is within the limit: the value is an integer
within it, or a float, which is smaller, or a truth value. -/
theorem short_of_equals {value : Option Json} {n : Int} (decoded : ∀ read ∈ value, Decoded read)
    (same : value.any (equalsInt library.floatEquals n) = true) : Short n := by
  obtain ⟨read, rfl, equal⟩ := (Option.any_eq_true _ _).mp same
  unfold equalsInt at equal
  split at equal
  · rw [of_decide_eq_true equal]
    exact decoded _ rfl
  · next other =>
    rw [of_decide_eq_true equal]
    cases other with
    | false => exact Nat.pow_pos (by decide)
    | true => exact short_one
  · next numeral =>
    refine lt_of_lt_of_le (library.float_bound _ n equal) ?_
    calc 2 ^ floatExponent ≤ 10 ^ floatExponent := Nat.pow_le_pow_left (by decide) _
      _ ≤ 10 ^ digitLimit := Nat.pow_le_pow_right (by decide) (by rw [digitLimit]; decide)
  · cases equal

/-- A value that is read by its key from a decoded object is itself decoded. -/
theorem get_decoded {fields : Fields} (decoded : DecodedFields fields) (key : Str) :
    ∀ read ∈ get fields key, Decoded read := fun _ found =>
  (decoded_fields.mp decoded _ (mem_of_lookup found)).2

/-- The numbers of a manifest that agrees with values read from JSON can be printed, so
verification never compares with an unprintable manifest. -/
theorem Agrees.printable (agrees : Agrees library given actual) (decoded : DecodedFields given) :
    actual.Printable where
  byteSize := short_of_equals (get_decoded decoded _) agrees.byteSize
  recordCount := short_of_equals (get_decoded decoded _) agrees.recordCount
  totals := by
    obtain ⟨read, found, same⟩ := (Option.any_eq_true _ _).mp agrees.totals
    unfold equalsObject at same
    split at same
    · next fields =>
      have inner : DecodedFields fields := get_decoded decoded _ _ found
      intro total listed
      have each := List.all_eq_true.mp ((Bool.and_eq_true ..).mp same).2 total listed
      exact short_of_equals (get_decoded inner _) each
    · cases same

/-- A check goes on exactly when its condition is true; otherwise it ends with its own reason. -/
theorem check_that_ok {condition : Bool} {reason : Str} {result : Unit} :
    checkThat condition reason = .ok result ↔ condition = true := by
  unfold checkThat
  split <;> simp_all

/-- The first three checks pass exactly when the file name, the byte size and the digest are those
of the data file. -/
theorem check_source_ok {result : Unit} :
    checkSource library data files given = .ok result ↔ ∃ content, files data = some content ∧
      equalsText (get given (str "file_name")) data.name = true ∧
      (get given (str "byte_size")).any (equalsInt library.floatEquals content.length) = true ∧
      equalsText (get given (str "sha256")) (library.sha256 content).1 = true := by
  simp only [checkSource, bind_ok, check_that_ok, readBytes]
  cases files data with
  | none => simp
  | some content => simp

/-- The last two checks pass exactly when the record count and the totals are those of the
manifest that is built again; the given dictionary is then returned. -/
theorem check_actual_ok {built : Except FileError Manifest} {read : Fields} :
    checkActual library given built = .ok read ↔ ∃ actual, built = .ok actual ∧
      (get given (str "record_count")).any (equalsInt library.floatEquals actual.recordCount) = true ∧
      totalsHeld library actual.totals (get given (str "raw_control_totals_minor")) = true ∧
      given = read := by
  simp only [checkActual, bind_ok, check_that_ok]
  simp

/-- A dictionary verifies exactly when it agrees with the manifest of the file, and it is
what is returned.

Where it agrees, the manifest of the file can be written again. -/
theorem verify_manifest_ok (read : readJson library files manifestPath = .ok (.obj given))
    {returned : Fields} :
    (verifyManifest library data manifestPath files).1 = .ok returned ↔
      given = returned ∧ ∃ actual, recompute library files data = .ok actual ∧
        Agrees library given actual := by
  have decoded : DecodedFields given := read_json_decoded read
  constructor
  · intro verified
    unfold verifyManifest at verified
    split at verified
    · cases verified
    · next manifest checked =>
      obtain ⟨value, found, following⟩ := bind_ok.mp checked
      rw [read] at found
      cases found
      obtain ⟨_, source, same⟩ := bind_ok.mp following
      cases same
      obtain ⟨content, held, name, size, digest⟩ := check_source_ok.mp source
      obtain ⟨actual, built, count, totals, same⟩ := check_actual_ok.mp verified
      have recomputed : recompute library files data = .ok actual := by
        cases made : recompute library files data with
        | error error => simp [buildManifest, made] at built
        | ok manifest =>
          rcases @build_manifest_ok library files (rebuiltPath manifestPath) _ _ made
            with ⟨_, written⟩ | ⟨_, refused⟩
          · rw [written] at built
            exact built
          · rw [refused] at built
            cases built
      refine ⟨same, actual, recomputed, ?_⟩
      obtain ⟨events, other, _, holds, rfl⟩ := recompute_ok.mp recomputed
      cases held.symm.trans holds
      exact ⟨name, size, digest, count, totals⟩
  · rintro ⟨rfl, actual, recomputed, agrees⟩
    have written : buildManifest library data (rebuiltPath manifestPath) files =
        (.ok actual, files.write (rebuiltPath manifestPath) (utf8 actual.text)) := by
      rcases @build_manifest_ok library files (rebuiltPath manifestPath) _ _ recomputed
        with ⟨_, written⟩ | ⟨unprintable, _⟩
      · exact written
      · exact absurd (agrees.printable decoded) unprintable
    obtain ⟨events, content, _, holds, rfl⟩ := recompute_ok.mp recomputed
    have source : checkSource library data files given = .ok () :=
      check_source_ok.mpr ⟨content, holds, agrees.fileName, agrees.byteSize, agrees.sha256⟩
    have checked : readManifest library data manifestPath files = .ok given := by
      rw [readManifest, read]
      simp only [bind, Except.bind, source]
    rw [verifyManifest, checked]
    simp only [written]
    exact check_actual_ok.mpr ⟨_, rfl, agrees.recordCount, agrees.totals, rfl⟩

end Agreement

end LedgerFlow.Manifests
