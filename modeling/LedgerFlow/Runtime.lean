import LedgerFlow.Support.Json
import LedgerFlow.Support.Timestamps

/-!
# The library functions and errors the platform relies on

`Runtime` holds what the code takes from its interpreter and its libraries and the model
does not define: the case mappings of the Unicode database, the two SHA-256 digests, and
the limit on nested calls. The case mappings carry their ASCII law and digests are ASCII by
type; nothing else is assumed of them. Where a result needs SHA-256 to be collision-free,
it says so, and only for the texts that the result is about.

The limit is the number of frames that may still be opened where a recursion over a payload
begins; the frames by which its callers differ are not told apart. The only assumption is
that an object without objects and lists in it stays within the limit.

`PyError` lists the exceptions that the modelled code raises or lets through, each
with the text `str(error)` gives.
-/

namespace LedgerFlow

open PyText

/-- ASCII text, such as a hexadecimal digest. -/
abbrev AsciiText := {s : Str // Ascii s}

/-- Library functions whose tables or algorithms are outside the repository. -/
structure Runtime where
  /-- `s.casefold()` -/
  casefold : Str → Str
  /-- `s.lower()` -/
  lower : Str → Str
  /-- `hashlib.sha256(s.encode("utf-8")).hexdigest()` of an encodable text -/
  sha256 : Str → AsciiText
  /-- `hmac.new(key, s.encode("utf-8"), hashlib.sha256).hexdigest()` of an encodable text -/
  hmacSha256 : List UInt8 → Str → AsciiText
  /-- `sys.getrecursionlimit()`, less the frames that are open when a recursion begins -/
  frames : Nat
  /-- the frames of a comprehension: one up to Python 3.11, none from 3.12 on -/
  comprehensionFrames : Nat
  casefold_ascii : ∀ s, Ascii s → casefold s = s.map asciiLower
  lower_ascii : ∀ s, Ascii s → lower s = s.map asciiLower
  frames_flat : comprehensionFrames + 2 ≤ frames

/-- No two of these texts have the same SHA-256 digest. -/
def CollisionFree (runtime : Runtime) (texts : Str → Prop) : Prop :=
  ∀ first second, texts first → texts second →
    runtime.sha256 first = runtime.sha256 second → first = second

/-- The frames left to a call in the sample runtime are more than a flat record needs. -/
theorem sample_frames : 1 + 2 ≤ 990 := by decide

/-- Library functions on ASCII text, with the SHA-256 digests of a table, in an interpreter
of Python 3.11 with the default limit of a thousand frames. -/
def tableRuntime (digests : List (Str × AsciiText)) : Runtime where
  casefold s := s.map asciiLower
  lower s := s.map asciiLower
  sha256 s := (digests.lookup s).getD ⟨[], ascii_nil⟩
  hmacSha256 _ _ := ⟨[], ascii_nil⟩
  frames := 990
  comprehensionFrames := 1
  casefold_ascii _ _ := rfl
  lower_ascii _ _ := rfl
  frames_flat := sample_frames

/-- Exceptions of the modelled code. -/
inductive PyError where
  /-- `ContractError(reason)` -/
  | contract (reason : Str)
  /-- `UnicodeEncodeError`, a string with a lone surrogate -/
  | unicodeEncode
  /-- `OverflowError`, an integer too large to bind -/
  | overflow
  /-- `sqlite3.IntegrityError` -/
  | integrity (constraint : Str)
  /-- `sqlite3.OperationalError` -/
  | operational (message : Str)
  /-- `PostingRuleError` -/
  | postingRule (message : Str)
  /-- `RuntimeError` -/
  | runtime (message : Str)
  /-- `ValueError` -/
  | value (message : Str)
  /-- `KeyError` -/
  | key (name : Str)
  /-- `TypeError` -/
  | type (message : Str)
  /-- `AttributeError` -/
  | attribute (message : Str)
  /-- `botocore.exceptions.ClientError` with its error code -/
  | client (code : Str)
  /-- Any other `Exception` -/
  | other (message : Str)
  deriving DecidableEq

/-- `str(error)`. -/
def PyError.text : PyError → Str
  | .contract reason => reason
  | .unicodeEncode => str "surrogates not allowed"
  | .overflow => str "Python int too large to convert to SQLite INTEGER"
  | .integrity constraint => constraint
  | .operational message | .postingRule message | .runtime message | .value message
  | .type message | .attribute message | .other message => message
  | .key name => str "'" ++ name ++ str "'"
  | .client code => str "An error occurred (" ++ code ++ str ")"

/-- `RecursionError`, which is a `RuntimeError`. The interpreter may add where it was. -/
def recursionError : PyError := .runtime (str "maximum recursion depth exceeded")

/-- The error of a DynamoDB call whose condition does not hold. -/
def conditionalCheckFailed : PyError := .client (str "ConditionalCheckFailedException")

/-- A computation that may raise. -/
abbrev Py (α : Type) := Except PyError α

/-- `if not condition: raise error`. -/
def require (condition : Prop) [Decidable condition] (error : PyError) : Py Unit :=
  if condition then .ok () else .error error

/-- A requirement is passed exactly where its condition holds. -/
@[simp] theorem require_ok {condition : Prop} [Decidable condition] {error : PyError}
    {result : Unit} : require condition error = .ok result ↔ condition := by
  unfold require
  split <;> simp_all

/-- A requirement that is not passed raises its own error and no other. -/
theorem require_error {condition : Prop} [Decidable condition] {error raised : PyError} :
    require condition error = .error raised ↔ ¬ condition ∧ raised = error := by
  unfold require
  split <;> simp_all [eq_comm]

/-- A composition returns exactly when both parts do. -/
theorem bind_ok {Error α β : Type} {first : Except Error α} {next : α → Except Error β}
    {result : β} :
    first >>= next = .ok result ↔ ∃ value, first = .ok value ∧ next value = .ok result := by
  cases first with
  | ok value =>
      refine ⟨fun returned => ⟨value, rfl, returned⟩, ?_⟩
      rintro ⟨_, same, rest⟩
      cases same
      exact rest
  | error error =>
      constructor
      · intro wrong
        cases wrong
      · rintro ⟨_, wrong, _⟩
        cases wrong

/-- A composition raises what its first part raises, or what its second part raises on the
value of the first. -/
theorem bind_raises {α β : Type} {first : Py α} {next : α → Py β} {error : PyError} :
    first >>= next = .error error ↔
      first = .error error ∨ ∃ value, first = .ok value ∧ next value = .error error := by
  cases first with
  | ok value =>
    constructor
    · exact fun raised => .inr ⟨value, rfl, raised⟩
    · rintro (wrong | ⟨_, same, raised⟩)
      · cases wrong
      · cases same
        exact raised
  | error raised =>
    constructor
    · exact fun same => .inl (congrArg Except.error (Except.error.inj same))
    · rintro (same | ⟨_, wrong, _⟩)
      · exact congrArg Except.error (Except.error.inj same)
      · cases wrong

end LedgerFlow
