import Mathlib.Order.Defs.PartialOrder
import Mathlib.Data.List.Basic

/-!
# Logs of increasing revisions

A register keeps one value for each key and replaces it only by a newer revision. Its
log, from the newest entry on, is increasing: an entry has a higher revision than every
earlier entry of its key. In such a log the newest entry of a key bounds all others, and
a revision of a key occurs once.
-/

namespace Revisions

variable {Entry Key Revision : Type} [Preorder Revision]
variable (key : Entry → Key) (revision : Entry → Revision)

/-- Every entry is newer than the earlier entries of its key. -/
def Increasing (log : List Entry) : Prop :=
  log.Pairwise fun later earlier => key later = key earlier → revision earlier < revision later

/-- A revision of a key occurs once in an increasing log. -/
theorem same_revision {key : Entry → Key} {revision : Entry → Revision} {log : List Entry}
    (increasing : Increasing key revision log) {first second : Entry}
    (left : first ∈ log) (right : second ∈ log) (sameKey : key first = key second)
    (sameRevision : revision first = revision second) : first = second := by
  induction log with
  | nil => cases left
  | cons head rest inductionHypothesis =>
    obtain ⟨newer, later⟩ := List.pairwise_cons.mp increasing
    rcases List.mem_cons.mp left with rfl | leftRest
    · rcases List.mem_cons.mp right with rfl | rightRest
      · rfl
      · exact absurd sameRevision (ne_of_gt (newer second rightRest sameKey))
    · rcases List.mem_cons.mp right with rfl | rightRest
      · exact absurd sameRevision (ne_of_lt (newer first leftRest sameKey.symm))
      · exact inductionHypothesis later leftRest rightRest

variable [DecidableEq Key]

/-- The newest entry of a key. -/
def newest (value : Key) (log : List Entry) : Option Entry := log.find? fun entry => key entry = value

variable {key revision} {log : List Entry} {entry top : Entry} {value : Key}

/-- The newest entry of a key is in the log, under that key. -/
theorem newest_mem (found : newest key value log = some top) : top ∈ log ∧ key top = value := by
  have named := List.find?_some found
  exact ⟨List.mem_of_find?_eq_some found, of_decide_eq_true named⟩

/-- An entry in front is the newest of its key. -/
theorem newest_cons_same (same : key entry = value) :
    newest key value (entry :: log) = some entry := by
  simp [newest, same]

/-- An entry in front does not matter to the other keys. -/
theorem newest_cons_other (other : key entry ≠ value) :
    newest key value (entry :: log) = newest key value log := by
  simp [newest, other]

/-- A key that has an entry has a newest one. -/
theorem newest_exists (member : entry ∈ log) (same : key entry = value) :
    ∃ top, newest key value log = some top :=
  Option.isSome_iff_exists.mp (List.find?_isSome.mpr ⟨entry, member, decide_eq_true same⟩)

/-- In an increasing log the newest entry of a key is newer than every other entry of the key. -/
theorem newest_bound (increasing : Increasing key revision log)
    (found : newest key value log = some top) (member : entry ∈ log) (same : key entry = value) :
    entry = top ∨ revision entry < revision top := by
  induction log with
  | nil => cases member
  | cons first rest inductionHypothesis =>
    obtain ⟨newer, later⟩ := List.pairwise_cons.mp increasing
    by_cases here : key first = value
    · rw [newest_cons_same here, Option.some.injEq] at found
      subst found
      rcases List.mem_cons.mp member with rfl | inside
      · exact .inl rfl
      · exact .inr (newer entry inside (here.trans same.symm))
    · rw [newest_cons_other here] at found
      rcases List.mem_cons.mp member with rfl | inside
      · exact absurd same here
      · exact inductionHypothesis later found inside

/-- A newer entry keeps the log increasing; only the newest entry of its key has to be
compared. -/
theorem increasing_cons (increasing : Increasing key revision log)
    (newer : ∀ top, newest key (key entry) log = some top → revision top < revision entry) :
    Increasing key revision (entry :: log) := by
  apply List.pairwise_cons.mpr
  constructor
  · intro earlier member same
    obtain ⟨top, found⟩ := newest_exists member same.symm
    have bound := newer top found
    rcases newest_bound increasing found member same.symm with rfl | lower
    · exact bound
    · exact lt_trans lower bound
  · exact increasing

end Revisions
