import LedgerFlow.Support.TextFiles
import LedgerFlow.Support.JsonText
import LedgerFlow.Support.Bytes
import LedgerFlow.Runtime

/-!
# Files of JSON lines

`iterJsonl` follows `iter_jsonl` in `manifest.py` on a file that is read to its end: the
records, or the first error. Bytes that are not UTF-8 are an error wherever they stand, and
it comes first.

A file of compact lines, each with a line feed, is read back record by record.
-/

namespace LedgerFlow.Manifests

open PyText PyJson PyBytes

/-! ## Files -/

/-- A path whose name the file system can hold: no part of it decodes to a high surrogate. -/
structure Path where
  directory : Str
  name : Str
  encodable : ∀ c ∈ name, high c = false
  deriving DecidableEq

/-- The files that there are, with their bytes. -/
abbrev Files := Path → Option Bytes

/-- The files after a write. -/
def Files.write (files : Files) (path : Path) (content : Bytes) : Files :=
  fun other => if other = path then some content else files other

/-- `path.unlink(missing_ok=True)` -/
def Files.unlink (files : Files) (path : Path) : Files :=
  fun other => if other = path then none else files other

/-- A written file is read back with the content that was written last. -/
@[simp] theorem write_same (files : Files) (path : Path) (content : Bytes) :
    files.write path content path = some content := if_pos rfl

/-- Writing a file leaves the files at other paths as they were. -/
@[simp] theorem write_other (files : Files) {path other : Path} (content : Bytes)
    (apart : other ≠ path) : files.write path content other = files other := if_neg apart

/-- What stops reading or checking a file. -/
inductive FileError where
  /-- `ManifestError(reason)` -/
  | manifest (reason : Str)
  /-- `FileNotFoundError` -/
  | notFound
  /-- `UnicodeDecodeError` -/
  | unicodeDecode
  /-- `JSONDecodeError` outside a file of lines -/
  | jsonDecode
  /-- `ValueError`, an integer beyond the digit limit -/
  | digitLimit
  /-- `AttributeError`, a manifest that is not an object -/
  | attribute
  deriving DecidableEq

/-- Every finite float is below this power of two. -/
def floatExponent : Nat := 1024

/-- Library functions whose algorithms are outside the repository. -/
structure Library where
  /-- `hashlib.sha256(data).hexdigest()` -/
  sha256 : Bytes → AsciiText
  /-- What the float of a numeral prints as. -/
  readFloat : Str → {s : Str // Ascii s}
  /-- Whether the float that prints so equals an integer. -/
  floatEquals : Str → Int → Bool
  /-- A float that equals an integer is finite. -/
  float_bound : ∀ numeral n, floatEquals numeral n = true → n.natAbs < 2 ^ floatExponent

/-- The bytes of a file. -/
def readBytes (files : Files) (path : Path) : Except FileError Bytes :=
  match files path with
  | none => .error .notFound
  | some content => .ok content

/-- `path.read_text(encoding="utf-8")` -/
def readText (files : Files) (path : Path) : Except FileError Str := do
  let content ← readBytes files path
  match decodeUtf8 content with
  | none => .error .unicodeDecode
  | some text => .ok (universal text)

/-! ## Lines -/

section Reading

variable (library : Library)

/-- One line of the file. -/
def parseLine (number : Nat) (line : Str) : Except FileError Fields :=
  match loads library.readFloat line with
  | .error .digitLimit => .error .digitLimit
  | .error _ => .error (.manifest (str "invalid_json_line:" ++ decimal number))
  | .ok (.obj fields) => .ok fields
  | .ok _ => .error (.manifest (str "non_object_line:" ++ decimal number))

/-- The lines of the file from a number on. -/
def parseLines : Nat → List Str → Except FileError (List Fields)
  | _, [] => .ok []
  | number, line :: rest => do
      let fields ← parseLine library number line
      let others ← parseLines (number + 1) rest
      .ok (fields :: others)

/-- `iter_jsonl` -/
def iterJsonl (files : Files) (path : Path) : Except FileError (List Fields) := do
  let text ← readText files path
  parseLines library 1 (lines text)

end Reading

/-! ## Written lines -/

/-- `json.dumps(event, separators=(",", ":"), sort_keys=True) + "\n"` -/
def jsonLine (event : Fields) : Str := canonicalJson (.obj event) ++ [lineFeed]

/-- The bytes of a file of lines. -/
def jsonLines (events : List Fields) : Bytes := utf8 (events.flatMap jsonLine)

/-- The entries in order of their keys. -/
def sortedEntries (event : Fields) : Fields := (sortFields event).insertionSort byKey

section Written

variable {library : Library} {event : Fields} {events : List Fields}

/-- A compact line is printable ASCII throughout: line feeds within a text are escaped, and the
one that ends the line is not part of it. -/
theorem canonical_plain (readable : Readable (.obj event)) :
    ∀ c ∈ canonicalJson (.obj event), 32 ≤ c.val ∧ c.val ≤ 126 := by
  rw [canonical_printed (.obj event) 0]
  refine printed_within ⟨fun c lower upper => ⟨lower, upper⟩, ?_, ?_⟩ _
    (sort_readable _ readable) 0
  · exact fun _ _ member => absurd member List.not_mem_nil
  · exact fun _ member => absurd member List.not_mem_nil

/-- A printed line is ASCII, since the characters outside are escaped, so its UTF-8 is its
characters. -/
theorem json_line_ascii (event : Fields) : Ascii (jsonLine event) :=
  ascii_append.mpr ⟨canonical_ascii (.obj event), by decide⟩

/-- A written line is read back with its keys in order, whatever its number in the file; the
number only counts in the text of an error. -/
theorem parse_written (readable : Readable (.obj event)) (number : Nat) :
    parseLine library number (jsonLine event) = .ok (sortedEntries event) := by
  have feed : ∀ c ∈ [lineFeed], blank c = true := by
    intro c member
    rw [List.mem_singleton.mp member]
    decide
  have read := @loads_printed library.readFloat compact (sortKeys (.obj event))
    (sort_readable _ readable) [lineFeed] feed
  rw [← canonical_printed] at read
  rw [parseLine, jsonLine, read]
  rfl

/-- The lines of a file of written events are the events' lines: no line has a line feed but its
last character. -/
theorem lines_written (readable : ∀ event ∈ events, Readable (.obj event)) :
    lines (events.flatMap jsonLine) = events.map jsonLine := by
  induction events with
  | nil => rfl
  | cons event rest inductionHypothesis =>
    have plain : lineFeed ∉ canonicalJson (.obj event) := by
      intro member
      exact absurd (canonical_plain (readable event List.mem_cons_self) _ member) (by decide)
    rw [List.flatMap_cons, jsonLine, List.append_assoc, List.singleton_append, lines_cons plain,
      inductionHypothesis fun other member => readable other (List.mem_cons_of_mem event member),
      List.map_cons]
    rfl

/-- The lines of readable events are read back as the events with their keys sorted.

Proof: by induction on the events; a printed value is read back alone on its line. -/
theorem parse_lines_written (readable : ∀ event ∈ events, Readable (.obj event)) (number : Nat) :
    parseLines library number (events.map jsonLine) = .ok (events.map sortedEntries) := by
  induction events generalizing number with
  | nil => rfl
  | cons event rest inductionHypothesis =>
    have later := inductionHypothesis
      (fun other member => readable other (List.mem_cons_of_mem event member)) (number + 1)
    rw [List.map_cons, parseLines, parse_written (readable event List.mem_cons_self), later]
    rfl

/-- A file of written events is read back, each with its keys in order. -/
theorem iter_written {files : Files} {path : Path}
    (readable : ∀ event ∈ events, Readable (.obj event))
    (written : files path = some (jsonLines events)) :
    iterJsonl library files path = .ok (events.map sortedEntries) := by
  have ascii : Ascii (events.flatMap jsonLine) := by
    intro c member
    obtain ⟨event, _, inside⟩ := List.mem_flatMap.mp member
    exact json_line_ascii event c inside
  have plain : carriageReturn ∉ events.flatMap jsonLine := by
    intro member
    obtain ⟨event, listed, inside⟩ := List.mem_flatMap.mp member
    rcases List.mem_append.mp inside with text | feed
    · exact absurd (canonical_plain (readable event listed) _ text) (by decide)
    · exact absurd (List.mem_singleton.mp feed) (by decide)
  have read : readText files path = .ok (events.flatMap jsonLine) := by
    rw [readText, readBytes, written]
    simp only [bind, Except.bind, jsonLines, decode_utf8 ascii.encodable, universal_plain plain]
  rw [iterJsonl, read]
  simp only [bind, Except.bind, lines_written readable, parse_lines_written readable]

end Written

end LedgerFlow.Manifests
