import LedgerFlow.Contracts
import LedgerFlow.Support.Grouping

/-!
# Versioned double-entry posting rules and balance assertions

The definitions follow `ledger.py`. A rules document is a decoded JSON value of any
shape; `loadPostingRules` either raises or returns rules for every event type.
`PostingRules` values built otherwise may lack an event type, so `buildPostings` can
raise for a missing rule as well as for an unbalanced one.

`build_postings_ok` says exactly when postings are built and what they are. Entry
identifiers are injective: an event identifier may hold colons itself, but the
position behind the last colon is a numeral.
-/

namespace LedgerFlow

open PyText PyJson Grouping

/-! ## Data model -/

/-- `PostingLine` -/
structure PostingLine where
  entryId : Str
  eventId : Identifier
  transactionId : Identifier
  processorId : Identifier
  merchantId : Identifier
  currency : Currency
  account : Str
  signedMinor : Int
  postingRuleVersion : Int
  deriving DecidableEq

/-- `PostingRules`, the rules by event type. -/
structure PostingRules where
  version : Int
  rules : EventType → Option (List (Str × Int))

/-! ## Loading rules -/

/-- `type(value).__name__` -/
def typeName : Json → Str
  | .null => str "NoneType"
  | .bool _ => str "bool"
  | .int _ => str "int"
  | .float _ => str "float"
  | .str _ => str "str"
  | .arr _ => str "list"
  | .obj _ => str "dict"

/-- `value.get(key)`, which only dictionaries have. -/
def getEntry (value : Json) (key : Str) : Py (Option Json) :=
  match value with
  | .obj fields => .ok (get fields key)
  | other => .error (.attribute
      (str "'" ++ typeName other ++ str "' object has no attribute 'get'"))

/-- One line of a rule. -/
def loadLine (eventType : EventType) (line : Json) : Py (Str × Int) := do
  let account ← getEntry line (str "account")
  let multiplier ← getEntry line (str "multiplier")
  match account with
  | some (.str (c :: rest)) =>
      match multiplier with
      | some (.int n) => .ok (c :: rest, n)
      | _ => .error (.postingRule (str "invalid multiplier for " ++ eventType.text))
  | _ => .error (.postingRule (str "invalid account for " ++ eventType.text))

/-- The lines of a rule, in order. -/
def loadLines (eventType : EventType) : List Json → Py (List (Str × Int))
  | [] => .ok []
  | line :: rest => do
      let entry ← loadLine eventType line
      let entries ← loadLines eventType rest
      .ok (entry :: entries)

/-- The sum of the multipliers. -/
def multiplierSum (entries : List (Str × Int)) : Int := (entries.map Prod.snd).sum

/-- The rule of one event type. -/
def loadRule (raw : Json) (eventType : EventType) : Py (List (Str × Int)) := do
  let rules ← getEntry raw (str "rules")
  let lines ← getEntry (rules.getD (.obj [])) eventType.text
  match lines with
  | some (.arr lines) =>
      let entries ← loadLines eventType lines
      require (multiplierSum entries = 0)
        (.postingRule (str "unbalanced rule: " ++ eventType.text))
      .ok entries
  | _ => .error (.postingRule (str "missing posting rule: " ++ eventType.text))

/-- The rules of the event types, in order. -/
def loadRules (raw : Json) : List EventType → Py (List (EventType × List (Str × Int)))
  | [] => .ok []
  | eventType :: rest => do
      let entries ← loadRule raw eventType
      let parsed ← loadRules raw rest
      .ok ((eventType, entries) :: parsed)

/-- `isinstance(version, int) and version >= 1`; a truth value is an integer. -/
def ruleVersion (version : Option Json) : Py Int :=
  match version with
  | some (.int n) =>
      if 1 ≤ n then .ok n
      else .error (.postingRule (str "posting-rule version must be a positive integer"))
  | some (.bool true) => .ok 1
  | _ => .error (.postingRule (str "posting-rule version must be a positive integer"))

/-- `load_posting_rules` of the decoded document. -/
def loadPostingRules (raw : Json) : Py PostingRules := do
  match ← getEntry raw (str "currency_unit") with
  | some (.str unit) =>
      require (unit = str "minor")
        (.postingRule (str "posting rules must use integer minor units"))
  | _ => .error (.postingRule (str "posting rules must use integer minor units"))
  let version ← ruleVersion (← getEntry raw (str "version"))
  let parsed ← loadRules raw eventTypes
  .ok { version, rules := fun eventType => parsed.lookup eventType }

/-- Rules as the loader returns them: every event type has a balanced rule. -/
def PostingRules.Loaded (rules : PostingRules) : Prop :=
  1 ≤ rules.version ∧
    ∀ eventType, ∃ entries, rules.rules eventType = some entries ∧ multiplierSum entries = 0

/-- An entry of `posting_rules.json`. -/
def shippedLine (account : String) (multiplier : Int) : Json :=
  .obj [(str "account", .str (str account)), (str "multiplier", .int multiplier)]

/-- `config/posting_rules.json` -/
def shippedDocument : Json :=
  .obj [
    (str "version", .int 1),
    (str "currency_unit", .str (str "minor")),
    (str "rules", .obj [
      (str "authorization", .arr []),
      (str "capture", .arr [shippedLine "processor_receivable" 1,
        shippedLine "merchant_payable" (-1)]),
      (str "refund", .arr [shippedLine "merchant_payable" 1,
        shippedLine "processor_receivable" (-1)]),
      (str "chargeback", .arr [shippedLine "chargeback_loss" 1,
        shippedLine "processor_receivable" (-1)])])]

/-- The shipped lines of each event type. -/
def shippedLines : EventType → List (Str × Int)
  | .authorization => []
  | .capture => [(str "processor_receivable", 1), (str "merchant_payable", -1)]
  | .refund => [(str "merchant_payable", 1), (str "processor_receivable", -1)]
  | .chargeback => [(str "chargeback_loss", 1), (str "processor_receivable", -1)]

/-- The rules of the shipped document. -/
def shippedRules : PostingRules where
  version := 1
  rules := fun eventType => some (shippedLines eventType)

/-- The loader reads the shipped document as the shipped rules, so that results under loaded rules
apply to the configuration in the repository. -/
theorem shipped_rules_loaded : loadPostingRules shippedDocument = .ok shippedRules := by
  have loaded : loadPostingRules shippedDocument = .ok ⟨1, fun eventType =>
      (eventTypes.map fun listed => (listed, shippedLines listed)).lookup eventType⟩ := by rfl
  have lookups : (fun eventType : EventType => (eventTypes.map fun listed =>
      (listed, shippedLines listed)).lookup eventType) = shippedRules.rules := by
    funext eventType
    cases eventType <;> rfl
  rw [loaded, lookups]
  rfl

/-! ## Building postings -/

/-- `f"{event.event_id}:{position}"` -/
def entryId (eventId : Identifier) (position : Nat) : Str :=
  eventId.1 ++ str ":" ++ decimal position

/-- The line of an event for one entry of its rule. -/
def postingLine (event : PaymentEvent) (version : Int) (position : Nat) (entry : Str × Int) :
    PostingLine where
  entryId := entryId event.eventId position
  eventId := event.eventId
  transactionId := event.transactionId
  processorId := event.processorId
  merchantId := event.merchantId
  currency := event.currency
  account := entry.1
  signedMinor := event.amountMinor * entry.2
  postingRuleVersion := version

/-- The lines of an event, numbered from `position`. -/
def numberedLines (event : PaymentEvent) (version : Int) :
    Nat → List (Str × Int) → List PostingLine
  | _, [] => []
  | position, entry :: rest =>
      postingLine event version position entry :: numberedLines event version (position + 1) rest

/-- The representation of one unbalanced group in an error message. -/
def groupText (group : (Identifier × Currency) × Int) : Str :=
  str "('" ++ group.1.1.1 ++ str "', '" ++ group.1.2.text ++ str "'): " ++ decimal group.2

/-- `assert_balanced` -/
def assertBalanced (lines : List PostingLine) : Py Unit :=
  let grouped := totals (fun line => (line.eventId, line.currency)) PostingLine.signedMinor lines
  let unbalanced := grouped.filter fun group => group.2 ≠ 0
  require (unbalanced = []) (.postingRule (str "unbalanced posting group: \x7b" ++
    join (str ", ") (unbalanced.map groupText) ++ str "\x7d"))

/-- `build_postings` -/
def buildPostings (event : PaymentEvent) (rules : PostingRules) : Py (List PostingLine) := do
  match rules.rules event.eventType with
  | none => .error (.key event.eventType.text)
  | some entries => do
      let lines := numberedLines event rules.version 1 entries
      assertBalanced lines
      .ok lines

/-- The lines an event gets under rules that have a balanced rule for it. -/
def postings (rules : PostingRules) (event : PaymentEvent) : List PostingLine :=
  numberedLines event rules.version 1 ((rules.rules event.eventType).getD [])

section Lines

variable {event : PaymentEvent} {version : Int} {position : Nat} {entries : List (Str × Int)}

/-- What every line of an event has in common, wherever it stands in the rule: the identifiers of
the event, the version of the rules, an identifier with a position, and the amount times the
multiplier of its entry. -/
theorem numbered_line {line : PostingLine}
    (member : line ∈ numberedLines event version position entries) :
    line.eventId = event.eventId ∧ line.transactionId = event.transactionId ∧
      line.processorId = event.processorId ∧ line.merchantId = event.merchantId ∧
      line.currency = event.currency ∧ line.postingRuleVersion = version ∧
      (∃ number, position ≤ number ∧ line.entryId = entryId event.eventId number) ∧
      ∃ entry ∈ entries, line.account = entry.1 ∧
        line.signedMinor = event.amountMinor * entry.2 := by
  induction entries generalizing position with
  | nil => cases member
  | cons entry rest inductionHypothesis =>
    rcases List.mem_cons.mp member with rfl | later
    · exact ⟨rfl, rfl, rfl, rfl, rfl, rfl, ⟨position, le_rfl, rfl⟩, entry,
        List.mem_cons_self, rfl, rfl⟩
    · obtain ⟨a, b, c, d, e, f, ⟨number, above, named⟩, other, inside, rest⟩ :=
        inductionHypothesis later
      exact ⟨a, b, c, d, e, f, ⟨number, by omega, named⟩, other,
        List.mem_cons_of_mem entry inside, rest⟩

/-- The signed amounts add up to the amount times the sum of the multipliers. -/
theorem numbered_sum (event : PaymentEvent) (version : Int) (position : Nat)
    (entries : List (Str × Int)) :
    ((numberedLines event version position entries).map PostingLine.signedMinor).sum =
      event.amountMinor * multiplierSum entries := by
  induction entries generalizing position with
  | nil => simp [numberedLines, multiplierSum]
  | cons entry rest inductionHypothesis =>
    rw [numberedLines, List.map_cons, List.sum_cons, inductionHypothesis]
    exact (Int.mul_add ..).symm

/-- The balance assertion on an event's lines tests the sum of the multipliers. -/
theorem assert_balanced_ok {checked : Unit} :
    assertBalanced (numberedLines event version position entries) = .ok checked ↔
      multiplierSum entries = 0 := by
  have positive := event.amountPositive
  rw [assertBalanced, require_ok]
  cases entries with
  | nil => simp [numberedLines, totals, multiplierSum]
  | cons entry rest =>
    have single : totals (fun line => (line.eventId, line.currency)) PostingLine.signedMinor
        (numberedLines event version position (entry :: rest)) =
        [((event.eventId, event.currency), event.amountMinor * multiplierSum (entry :: rest))] := by
      rw [← numbered_sum event version position]
      refine totals_single _ _ fun line inside => ?_
      have member : line ∈ numberedLines event version position (entry :: rest) := inside
      obtain ⟨sameEvent, _, _, _, sameCurrency, _⟩ := numbered_line member
      exact Prod.ext sameEvent sameCurrency
    rw [single]
    simp only [ne_eq, List.filter_cons, decide_eq_true_eq, List.filter_nil, ite_eq_right_iff,
      reduceCtorEq, imp_false, not_not, mul_eq_zero]
    omega

end Lines

/-- Postings are built exactly when the event's type has a balanced rule, and then they are the
pure postings. The lines of one event are in one currency, so the balance is the sum of the
multipliers times the amount, and the amount is not zero. -/
theorem build_postings_ok {event : PaymentEvent} {rules : PostingRules}
    {lines : List PostingLine} :
    buildPostings event rules = .ok lines ↔
      (∃ entries, rules.rules event.eventType = some entries ∧ multiplierSum entries = 0) ∧
        lines = postings rules event := by
  unfold buildPostings postings
  cases rules.rules event.eventType with
  | none => simp
  | some entries =>
    simp only [bind_ok, assert_balanced_ok, exists_const, Except.ok.injEq, Option.some.injEq,
      exists_eq_left', Option.getD_some]
    exact ⟨fun ⟨balanced, same⟩ => ⟨balanced, same.symm⟩,
      fun ⟨balanced, same⟩ => ⟨balanced, same.symm⟩⟩

/-! ## Entry identifiers -/

/-- An entry identifier determines its event identifier and position, although an event identifier
may contain colons and digits: the position is what stands after the last colon. -/
theorem entry_id_injective {first second : Identifier} {left right : Nat}
    (same : entryId first left = entryId second right) : first = second ∧ left = right := by
  have free (n : Nat) : point ':' ∉ decimal n := by
    intro member
    rw [decimal_nat] at member
    have isDigit := digits_digit n _ member
    revert isDigit
    decide
  have colon : str ":" = [point ':'] := rfl
  simp only [entryId, colon, List.append_assoc, List.singleton_append] at same
  obtain ⟨ids, positions⟩ := last_cut (free left) (free right) same
  rw [decimal_nat, decimal_nat] at positions
  exact ⟨Subtype.ext ids, digits_injective _ _ positions⟩

end LedgerFlow
