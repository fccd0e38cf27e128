import LedgerFlow.Store.Ingest
import LedgerFlow.Support.JsonTrees

/-!
# What a quarantine row keeps of a raw event

`redact_payload` is the mask of the prohibited names and of the email, and
`reject_prohibited_fields` finds exactly the prohibited names that the object binds at
some depth. Both fold the case of a key before they compare it, so no key is refused by
one and let through by the other. Both are recursions, and raise where the interpreter has
no frame left for them; the redaction opens more frames a level than the visit does.

The quarantine row of a refused event therefore holds the mask of the event, the
identifier that the event claims, and a reason made of prohibited names: events that
differ in sensitive values only leave the same identifier and the same payload.
-/

namespace LedgerFlow

open PyText PyJson Grouping Programs

variable {runtime : Runtime}

/-! ## Redaction is a mask -/

/-- `"<redacted>"` -/
def redactionMarker : Str := str "<redacted>"

mutual

/-- The redaction of a value masks its sensitive keys. The general facts about masks then say what
is hidden, what is kept and what it reveals. -/
theorem redact_mask : ∀ value : Json,
    redact runtime value = mask (Sensitive runtime) redactionMarker value
  | .obj fields => by rw [redact, mask, redact_fields_mask fields]
  | .arr items => by rw [redact, mask, redact_items_mask items]
  | .null | .bool _ | .int _ | .float _ | .str _ => by simp only [redact, mask]

/-- The redaction of a list masks its items, whatever their number. -/
theorem redact_items_mask : ∀ items : List Json,
    redactItems runtime items = maskItems (Sensitive runtime) redactionMarker items
  | [] => rfl
  | item :: rest => by rw [redactItems, maskItems, redact_mask item, redact_items_mask rest]

/-- The redaction of an object masks its entries, below the sensitive keys nothing being looked
at. -/
theorem redact_fields_mask : ∀ fields : Fields,
    redactFields runtime fields = maskFields (Sensitive runtime) redactionMarker fields
  | [] => rfl
  | (key, value) :: rest => by
      rw [redactFields, maskFields, redact_mask value, redact_fields_mask rest]
      rfl

end

/-- The redaction of an object is its mask, and again an object. -/
theorem redact_object (fields : Fields) : Json.obj (redactFields runtime fields) =
    mask (Sensitive runtime) redactionMarker (.obj fields) := by
  rw [redact_fields_mask, mask]

/-- A contract-valid dictionary binds texts, integers and nulls, never an object or a list.

Proof: its keys are allowed, a key of a dictionary stands once, and acceptance says for each
allowed key what is read from it. -/
theorem accepted_flat {registry : Registry} {tokenKey : List UInt8} {raw : Fields}
    {event : PaymentEvent} (keyed : Keyed Prod.fst raw)
    (accepted : validateEvent runtime registry tokenKey raw = .ok event) :
    ∀ entry ∈ raw, Childless entry.2 := by
  rintro ⟨key, value⟩ member
  have valid := validate_event_ok accepted
  have allowed := accepted_fields accepted member
  have found : get raw key = some value := keyed.lookup_mem.mpr member
  have read {other : Json} (present : get raw key = some other) (childless : Childless other) :
      Childless value := by
    rw [found, Option.some.injEq] at present
    exact present ▸ childless
  simp only [allowedFields, requiredFields, List.mem_append, List.mem_cons, List.not_mem_nil,
    or_false] at allowed
  rcases allowed with (rfl | rfl | rfl | rfl | rfl | rfl | rfl | rfl | rfl | rfl | rfl | rfl) | rfl
  · exact read valid.schema trivial
  · exact read valid.eventId trivial
  · exact read valid.transactionId trivial
  · exact read valid.transactionVersion trivial
  · exact read valid.sourceId trivial
  · exact read valid.processorId trivial
  · exact read valid.merchantId trivial
  · exact read valid.eventType trivial
  · exact read valid.amountMinor trivial
  · exact read valid.currency trivial
  · obtain ⟨_, present, _⟩ := valid.eventTime
    exact read present trivial
  · obtain ⟨_, present, _⟩ := valid.receivedAt
    exact read present trivial
  · rcases valid.customer with ⟨absent, _⟩ | ⟨null, _⟩ | ⟨email, text, _⟩
    · rw [absent] at found
      cases found
    · exact read null trivial
    · exact read text trivial

/-- The redaction of a record in conflict is returned in every interpreter, as `_ingest_one`
takes for granted. -/
theorem conflict_redacted {registry : Registry} {tokenKey : List UInt8} {raw : Fields}
    {event : PaymentEvent} (keyed : Keyed Prod.fst raw)
    (accepted : validateEvent runtime registry tokenKey raw = .ok event) :
    redactPayload runtime raw = .ok (redactFields runtime raw) :=
  redact_payload_ok.mpr ⟨flat_redactable runtime (accepted_flat keyed accepted), rfl⟩

/-! ## Rejection finds the prohibited names -/

/-- The value binds a key whose case fold is this prohibited name. -/
def Holds (runtime : Runtime) (value : Json) (name : Str) : Prop :=
  ∃ key bound, Binds value key bound ∧ runtime.casefold key = name ∧ name ∈ prohibitedFields

mutual

/-- The names found in a value are the prohibited names it holds, at any depth and in lists as
well. -/
theorem mem_visit {name : Str} : ∀ value : Json,
    name ∈ visit runtime value ↔ Holds runtime value name
  | .obj fields => by
      rw [visit]
      exact mem_visit_fields fields
  | .arr items => by
      rw [visit]
      exact mem_visit_items items
  | .null | .bool _ | .int _ | .float _ | .str _ => by
      simp only [visit, List.not_mem_nil, false_iff]
      rintro ⟨_, _, binds, _⟩
      cases binds

/-- The names found in a list are the prohibited ones that its items hold. -/
theorem mem_visit_items {name : Str} : ∀ items : List Json,
    name ∈ visitItems runtime items ↔ Holds runtime (.arr items) name
  | [] => by simp [visitItems, Holds, binds_no_item]
  | item :: rest => by
      rw [visitItems, List.mem_append, mem_visit item, mem_visit_items rest]
      simp only [Holds, binds_item, or_and_right, exists_or]

/-- The names found in an object are the prohibited ones among its own keys and those that its
values hold. -/
theorem mem_visit_fields {name : Str} : ∀ fields : Fields,
    name ∈ visitFields runtime fields ↔ Holds runtime (.obj fields) name
  | [] => by simp [visitFields, Holds, binds_empty]
  | (field, value) :: rest => by
      have here : name ∈ (if runtime.casefold field ∈ prohibitedFields then
          [runtime.casefold field] else []) ↔
            runtime.casefold field = name ∧ name ∈ prohibitedFields := by
        split
        · rename_i listed
          rw [List.mem_singleton]
          exact ⟨fun same => ⟨same.symm, same ▸ listed⟩, fun both => both.1.symm⟩
        · rename_i unlisted
          simp only [List.not_mem_nil, false_iff, not_and]
          exact fun same listed => unlisted (same ▸ listed)
      rw [visitFields, List.mem_append, List.mem_append, here, mem_visit value,
        mem_visit_fields rest]
      simp only [Holds, binds_cons, or_and_right, exists_or, and_assoc, exists_eq_left,
        exists_and_left, or_assoc]

end

/-- The prohibited names found in an object, as a refusal lists them. -/
def prohibitedReason (runtime : Runtime) (raw : Fields) : Str :=
  str "prohibited_fields:" ++ join (str ",") (sortedSet (visitFields runtime raw))

/-- Some name is found exactly when the object holds a prohibited name at some depth. -/
theorem visit_finds {raw : Fields} :
    visitFields runtime raw ≠ [] ↔ ∃ name, Holds runtime (.obj raw) name := by
  rw [Ne, List.eq_nil_iff_forall_not_mem, not_forall]
  exact exists_congr fun name => not_not.trans (mem_visit_fields raw)

/-- An object that the interpreter can visit is refused exactly when it holds a prohibited
name at some depth. -/
theorem reject_error {raw : Fields} (visited : visitFrames raw ≤ runtime.frames)
    {error : PyError} :
    rejectProhibitedFields runtime raw = .error error ↔
      (∃ name, Holds runtime (.obj raw) name) ∧
        error = .contract (prohibitedReason runtime raw) := by
  have passed : require (visitFrames raw ≤ runtime.frames) recursionError = .ok () :=
    require_ok.mpr visited
  rw [← visit_finds, rejectProhibitedFields, passed]
  exact require_error

/-- An object that it cannot visit raises, whatever it holds, and this is no refusal: the error is
not the contract's. -/
theorem reject_unvisited {raw : Fields} (beyond : ¬ visitFrames raw ≤ runtime.frames) :
    rejectProhibitedFields runtime raw = .error recursionError := by
  have raised : require (visitFrames raw ≤ runtime.frames) recursionError =
      .error recursionError := require_error.mpr ⟨beyond, rfl⟩
  rw [rejectProhibitedFields, raised]
  rfl

/-- The names in a refusal are prohibited names, and none of the payload's values stands in the
message. -/
theorem refused_names {raw : Fields} {name : Str}
    (listed : name ∈ sortedSet (visitFields runtime raw)) : name ∈ prohibitedFields := by
  rw [sortedSet, List.mem_insertionSort, List.mem_dedup] at listed
  obtain ⟨_, _, _, _, prohibited⟩ := (mem_visit_fields raw).mp listed
  exact prohibited

/-! ## Quarantine rows -/

/-- `event_id` is not redacted, so the quarantine row of a conflict can be traced to its event. -/
theorem event_id_plain : ¬ Sensitive runtime (str "event_id") := by
  have folded : runtime.casefold (str "event_id") = (str "event_id").map asciiLower :=
    runtime.casefold_ascii _ (by decide)
  rw [Sensitive, folded]
  decide

/-- Objects with one redaction claim one identifier, as the identifier is kept by it. -/
theorem same_redaction_claims {first second : Fields}
    (same : redactFields runtime first = redactFields runtime second) :
    claimedEventId first = claimedEventId second := by
  have claims (raw : Fields) : claimedEventId raw = claimedEventId (redactFields runtime raw) := by
    rw [redact_fields_mask, claimedEventId, claimedEventId, get_mask_fields _ _ event_id_plain]
    cases get raw (str "event_id") with
    | none => rfl
    | some value => cases value <;> simp only [Option.map_some, mask]
  rw [claims first, claims second, same]

/-- A record that is ingested was visited: the loop does not catch what the visit raises. -/
theorem ingested_visited {gate : Gate} {runId : Str} {raw : Fields} {counts counted : Counts}
    {database after : Database}
    (ran : within (ingestOne gate runId raw counts).run database = .ok (counted, after)) :
    visitFrames raw ≤ gate.runtime.frames := by
  by_contra beyond
  have invalid : validateEvent gate.runtime gate.registry gate.tokenKey raw =
      .error recursionError := by
    rw [validateEvent, reject_unvisited beyond]
    rfl
  simp only [ingestOne, invalid, recursionError, within_throw, reduceCtorEq] at ran

/-- The quarantine row of a refused event: its number and run, the identifier that the
event claims, the prohibited names, and the redacted event. -/
theorem refused_quarantined {gate : Gate} {runId : Str} {raw : Fields} {counts counted : Counts}
    {database after : Database} (refused : ∃ name, Holds gate.runtime (.obj raw) name)
    (ran : within (ingestOne gate runId raw counts).run database = .ok (counted, after)) :
    ∃ redacted, redactPayload gate.runtime raw = .ok redacted ∧
      after = database.quarantined runId (claimedEventId raw)
        (prohibitedReason gate.runtime raw) (canonicalJson (.obj redacted)) := by
  have rejected : rejectProhibitedFields gate.runtime raw =
      .error (.contract (prohibitedReason gate.runtime raw)) :=
    (reject_error (ingested_visited ran)).mpr ⟨refused, rfl⟩
  have invalid : validateEvent gate.runtime gate.registry gate.tokenKey raw =
      .error (.contract (prohibitedReason gate.runtime raw)) := by
    rw [validateEvent, rejected]
    rfl
  simp only [ingestOne, invalid, within_bind_ok, within_raising_ok, within_execute_ok,
    within_pure, Except.ok.injEq, Prod.mk.injEq] at ran
  obtain ⟨redacted, _, ⟨returned, rfl⟩, _, _, inserted, _, rfl⟩ := ran
  simp only [Statement.run, bind_ok, constrained_ok] at inserted
  obtain ⟨_, _, _, _, _, _, _, _, _, _, same⟩ := inserted
  exact ⟨redacted, returned, same⟩

/-- What redaction and rejection do to every object that the interpreter can walk, what they
leave in quarantine, and that they raise on every other object. -/
structure RedactionComplete (gate : Gate) : Prop where
  /-- Within the limit of the interpreter a redaction is returned. -/
  returns : ∀ raw, redactFrames gate.runtime raw ≤ gate.runtime.frames →
    ∃ redacted, redactPayload gate.runtime raw = .ok redacted
  /-- An object that validation accepts is within every limit. -/
  accepted : ∀ raw event, Keyed Prod.fst raw →
    validateEvent gate.runtime gate.registry gate.tokenKey raw = .ok event →
      redactPayload gate.runtime raw = .ok (redactFields gate.runtime raw)
  /-- Beyond it `RecursionError` is raised. -/
  overflows : ∀ raw, ¬ redactFrames gate.runtime raw ≤ gate.runtime.frames →
    redactPayload gate.runtime raw = .error recursionError
  /-- The redaction has the shape of the object and differs from it in sensitive values only. -/
  shape : ∀ raw redacted, redactPayload gate.runtime raw = .ok redacted →
    AgreeOutside (Sensitive gate.runtime) (.obj raw) (.obj redacted)
  /-- Every sensitive key is bound to the marker, at every depth. -/
  marked : ∀ raw redacted, redactPayload gate.runtime raw = .ok redacted →
    ∀ key bound, Binds (.obj redacted) key bound → Sensitive gate.runtime key →
      bound = .str redactionMarker
  /-- Redacting twice is redacting once. -/
  idempotent : ∀ raw redacted, redactPayload gate.runtime raw = .ok redacted →
    redactPayload gate.runtime redacted = .ok redacted
  /-- Objects that differ in sensitive values only have one redaction, and no others do. -/
  blind : ∀ first second, redactFrames gate.runtime first ≤ gate.runtime.frames →
    (AgreeOutside (Sensitive gate.runtime) (.obj first) (.obj second) ↔
      redactPayload gate.runtime first = redactPayload gate.runtime second)
  /-- An object within the limit is refused exactly when some key in it, at some depth, is
  prohibited. -/
  refuses : ∀ raw, visitFrames raw ≤ gate.runtime.frames →
    ((∃ error, rejectProhibitedFields gate.runtime raw = .error error) ↔
      ∃ key bound, Binds (.obj raw) key bound ∧ gate.runtime.casefold key ∈ prohibitedFields)
  /-- Beyond it `RecursionError` is raised. -/
  unvisited : ∀ raw, ¬ visitFrames raw ≤ gate.runtime.frames →
    rejectProhibitedFields gate.runtime raw = .error recursionError
  /-- A refused object leaves one quarantine row, whose reason lists prohibited names. Its
  identifier and payload are those of every object that differs in sensitive values only. -/
  quarantined : ∀ runId raw counts database counted after,
    (∃ key bound, Binds (.obj raw) key bound ∧ gate.runtime.casefold key ∈ prohibitedFields) →
    within (ingestOne gate runId raw counts).run database = .ok (counted, after) →
      ∃ names redacted, (∀ name ∈ names, name ∈ prohibitedFields) ∧
        redactPayload gate.runtime raw = .ok redacted ∧
        after = database.quarantined runId (claimedEventId raw)
          (str "prohibited_fields:" ++ join (str ",") names) (canonicalJson (.obj redacted)) ∧
        ∀ other, AgreeOutside (Sensitive gate.runtime) (.obj raw) (.obj other) →
          claimedEventId other = claimedEventId raw ∧
            redactPayload gate.runtime other = .ok redacted

/-- Some name is held exactly when some key folds to a prohibited name. -/
theorem holds_some {value : Json} : (∃ name, Holds runtime value name) ↔
    ∃ key bound, Binds value key bound ∧ runtime.casefold key ∈ prohibitedFields := by
  constructor
  · rintro ⟨name, key, bound, binds, rfl, prohibited⟩
    exact ⟨key, bound, binds, prohibited⟩
  · rintro ⟨key, bound, binds, prohibited⟩
    exact ⟨_, key, bound, binds, rfl, prohibited⟩

/-- Objects agree outside sensitive values exactly when their redactions are one text tree. -/
theorem agree_redaction {first second : Fields} :
    AgreeOutside (Sensitive runtime) (.obj first) (.obj second) ↔
      redactFields runtime first = redactFields runtime second := by
  rw [agree_iff_mask (Sensitive runtime) redactionMarker, ← redact_object, ← redact_object,
    Json.obj.injEq]

/-- Objects that agree outside sensitive values have one redaction, or none of them has. -/
theorem redact_payload_agree {first second : Fields}
    (agree : AgreeOutside (Sensitive runtime) (.obj first) (.obj second)) :
    redactPayload runtime first = redactPayload runtime second := by
  rw [redactPayload, redactPayload, redactFrames, redactFrames,
    walk_frames_agree (Sensitive runtime) runtime.comprehensionFrames agree,
    agree_redaction.mp agree]

/-- Redaction is complete and does not interfere. For every object within the interpreter's
recursion limit, at every depth, it binds exactly the sensitive keys to the marker and leaves
the rest; it is idempotent and blind to sensitive values; rejection finds the same keys, so
an event refused for a prohibited field is quarantined without the field's value. Beyond the
limit both raise.

Proof: a redaction that is returned is the mask of the object. A mask is nested as deeply as
what it covers, so that it can be redacted again and differs from no redaction of an object
that agrees. -/
theorem redaction_complete (gate : Gate) : RedactionComplete gate := by
  constructor
  · intro raw within
    exact ⟨_, redact_payload_ok.mpr ⟨within, rfl⟩⟩
  · exact fun raw event keyed accepted => conflict_redacted keyed accepted
  · intro raw beyond
    exact redact_payload_error.mpr ⟨beyond, rfl⟩
  · intro raw redacted returned
    obtain ⟨_, rfl⟩ := redact_payload_ok.mp returned
    rw [redact_object]
    exact agree_mask _ _ _
  · intro raw redacted returned key bound binds isSensitive
    obtain ⟨_, rfl⟩ := redact_payload_ok.mp returned
    rw [redact_object] at binds
    exact mask_covers _ _ isSensitive _ binds
  · intro raw redacted returned
    have same : redactFields gate.runtime redacted = redacted := by
      obtain ⟨_, rfl⟩ := redact_payload_ok.mp returned
      rw [← Json.obj.injEq, redact_object, redact_object, mask_mask]
    have agree : AgreeOutside (Sensitive gate.runtime) (.obj raw) (.obj redacted) := by
      obtain ⟨_, rfl⟩ := redact_payload_ok.mp returned
      exact agree_redaction.mpr same.symm
    rw [← redact_payload_agree agree, returned]
  · intro first second within
    refine ⟨redact_payload_agree, fun same => agree_redaction.mpr ?_⟩
    have returned : redactPayload gate.runtime first = .ok (redactFields gate.runtime first) :=
      redact_payload_ok.mpr ⟨within, rfl⟩
    exact (redact_payload_ok.mp (same ▸ returned)).2
  · intro raw visited
    rw [← holds_some]
    simp only [reject_error visited, exists_and_left, exists_eq, and_true]
  · exact fun raw beyond => reject_unvisited beyond
  · intro runId raw counts database counted after refused ran
    obtain ⟨redacted, returned, same⟩ := refused_quarantined (holds_some.mpr refused) ran
    refine ⟨_, redacted, fun name listed => refused_names listed, returned, same,
      fun other agree => ?_⟩
    exact ⟨(same_redaction_claims (agree_redaction.mp agree)).symm,
      redact_payload_agree agree ▸ returned⟩

/-- This many lists in one another, around a null. -/
def nestedLists : Nat → Json
  | 0 => .null
  | depth + 1 => .arr [nestedLists depth]

/-- An object with six hundred lists in one another, as `json.loads` still reads it. -/
def nestedObject : Fields := [(str "details", nestedLists 600)]

/-- The interpreter can visit the object, which holds no prohibited name, and cannot redact
it: a frame for the lists' comprehensions is one too many at each of the levels. -/
theorem nested_object_overflows :
    rejectProhibitedFields sampleGate.runtime nestedObject = .ok () ∧
      ¬ ∃ redacted, redactPayload sampleGate.runtime nestedObject = .ok redacted := by
  have passed : visitFrames nestedObject ≤ sampleGate.runtime.frames ∧
      visitFields sampleGate.runtime nestedObject = [] := by decide +kernel
  have beyond : ¬ redactFrames sampleGate.runtime nestedObject ≤ sampleGate.runtime.frames := by
    decide +kernel
  refine ⟨reject_ok.mpr passed, ?_⟩
  rintro ⟨redacted, returned⟩
  exact beyond (redact_payload_ok.mp returned).1

end LedgerFlow
