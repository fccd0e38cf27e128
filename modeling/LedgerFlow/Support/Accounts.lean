import LedgerFlow.Support.Grouping

/-!
# Reconciling two accounts

An account gives every key an amount, zero where nothing is known of the key. Two accounts
are reconciled by a list of differences when it has one entry for every key on which they
differ and no other entry. Such a list is determined by the accounts up to its order, it
makes up what one account lacks of the other, and it is empty exactly when they agree.
-/

namespace Accounts

open Grouping

variable {Row Key : Type} [DecidableEq Key]

/-! ## Balances -/

/-- The account of a table: the total of each key's rows. -/
def balance (key : Row → Key) (amount : Row → Int) (rows : List Row) (value : Key) : Int :=
  ((group key value rows).map amount).sum

/-- A key without rows has the balance zero. -/
theorem balance_absent {key : Row → Key} {amount : Row → Int} {rows : List Row} {value : Key}
    (absent : value ∉ rows.map key) : balance key amount rows value = 0 := by
  have none : group key value rows = [] := group_nil fun row member same =>
    absent (same ▸ List.mem_map_of_mem member)
  rw [balance, none, List.map_nil, List.sum_nil]

/-- In a keyed table the balance of a key is the amount of its row. -/
theorem balance_row {key : Row → Key} {amount : Row → Int} {rows : List Row}
    (keyed : Keyed key rows) {row : Row} (member : row ∈ rows) :
    balance key amount rows (key row) = amount row := by
  rw [balance, keyed.group_eq member, List.map_singleton, List.sum_singleton]

/-- The order of the rows does not matter to a balance, since it is a sum. -/
theorem balance_perm {key : Row → Key} {amount : Row → Int} {first second : List Row}
    (same : first.Perm second) (value : Key) :
    balance key amount first value = balance key amount second value :=
  ((same.filter _).map amount).sum_eq

/-- The account of mapped rows is that of the mapped columns over the original rows. -/
theorem balance_map {Other : Type} {key : Row → Key} {amount : Row → Int} (rename : Other → Row)
    (rows : List Other) (value : Key) : balance key amount (rows.map rename) value =
      balance (fun row => key (rename row)) (fun row => amount (rename row)) rows value := by
  rw [balance, group, List.filter_map, List.map_map]
  rfl

/-- Columns that agree on the rows give one account, also under other names of the keys,
as long as no other key takes the name. -/
theorem balance_rename {Other : Type} [DecidableEq Other] {key : Row → Key} {other : Row → Other}
    {amount charge : Row → Int} {name : Key → Other} {rows : List Row} {value : Key}
    (named : ∀ row ∈ rows, other row = name (key row)) (charged : ∀ row ∈ rows,
      charge row = amount row)
    (apart : ∀ row ∈ rows, name (key row) = name value → key row = value) :
    balance other charge rows (name value) = balance key amount rows value := by
  have rowsOf : group other (name value) rows = group key value rows := by
    refine List.filter_congr fun row member => decide_eq_decide.mpr ?_
    rw [named row member]
    exact ⟨apart row member, congrArg name⟩
  rw [balance, balance, rowsOf]
  exact congrArg List.sum (List.map_congr_left fun row member =>
    charged row (mem_group.mp member).1)

/-! ## Differences -/

/-- What two accounts say of one key. -/
structure Difference (Key : Type) where
  key : Key
  expected : Int
  actual : Int
  delta : Int
  deriving DecidableEq

/-- The entry states a difference of the accounts. -/
def Difference.Holds (expected actual : Key → Int) (difference : Difference Key) : Prop :=
  difference.expected = expected difference.key ∧ difference.actual = actual difference.key ∧
    difference.delta = difference.expected - difference.actual ∧ difference.delta ≠ 0

/-- The entry of a key. -/
def differenceAt (expected actual : Key → Int) (key : Key) : Difference Key :=
  ⟨key, expected key, actual key, expected key - actual key⟩

/-- The entries of the keys on which the accounts differ. -/
def differences (expected actual : Key → Int) (keys : List Key) : List (Difference Key) :=
  (keys.map (differenceAt expected actual)).filter fun difference => difference.delta ≠ 0

omit [DecidableEq Key] in
/-- The differences of some of the keys are what picking by the key keeps of all differences. -/
theorem differences_filter (expected actual : Key → Int) (picks : Key → Bool) (keys : List Key) :
    (differences expected actual keys).filter (fun difference => picks difference.key) =
      differences expected actual (keys.filter picks) := by
  rw [differences, differences, List.filter_filter, List.filter_map, List.filter_map,
    List.filter_filter]
  refine congrArg _ (List.filter_congr fun key _ => ?_)
  exact Bool.and_comm _ _

omit [DecidableEq Key] in
/-- The differences follow the order of the keys, and are otherwise independent of it. -/
theorem differences_perm {expected actual : Key → Int} {first second : List Key}
    (same : first.Perm second) :
    (differences expected actual first).Perm (differences expected actual second) :=
  (same.map _).filter _

/-- The differences of the accounts, each once, and nothing else. -/
structure Reconciles (expected actual : Key → Int) (entries : List (Difference Key)) : Prop where
  keyed : Keyed Difference.key entries
  exact : ∀ difference, difference ∈ entries ↔ difference.Holds expected actual

section Reconciled

variable {expected actual : Key → Int}

omit [DecidableEq Key] in
/-- The key of an entry that holds determines the rest of it. -/
theorem Difference.Holds.eq {difference : Difference Key}
    (holds : difference.Holds expected actual) :
    difference = differenceAt expected actual difference.key := by
  obtain ⟨left, right, delta, _⟩ := holds
  rw [left, right] at delta
  cases difference
  simp only [differenceAt, Difference.mk.injEq]
  exact ⟨trivial, left, right, delta⟩

/-- Comparing the accounts on distinct keys reconciles them where they agree on all
others. -/
theorem reconciles_differences {keys : List Key} (unique : keys.Nodup)
    (covered : ∀ key, key ∉ keys → expected key = actual key) :
    Reconciles expected actual (differences expected actual keys) where
  keyed := by
    have named : (keys.map (differenceAt expected actual)).map Difference.key = keys := by
      rw [List.map_map]
      exact List.map_id keys
    have sublist := (List.filter_sublist (p := fun difference : Difference Key =>
      decide (difference.delta ≠ 0)) (l := keys.map (differenceAt expected actual))).map
        Difference.key
    rw [named] at sublist
    exact unique.sublist sublist
  exact difference := by
    rw [differences, List.mem_filter, List.mem_map, decide_eq_true_eq]
    constructor
    · rintro ⟨⟨key, _, rfl⟩, differs⟩
      exact ⟨rfl, rfl, rfl, differs⟩
    · intro holds
      refine ⟨⟨difference.key, ?_, holds.eq.symm⟩, holds.2.2.2⟩
      by_contra other
      have agree := covered difference.key other
      obtain ⟨left, right, delta, differs⟩ := holds
      omega

variable {entries others : List (Difference Key)}

omit [DecidableEq Key] in
/-- No difference is listed exactly when the two accounts agree on every key, listed or not. -/
theorem Reconciles.nil_iff (reconciles : Reconciles expected actual entries) :
    entries = [] ↔ ∀ key, expected key = actual key := by
  constructor
  · intro empty key
    by_contra differs
    have listed := (reconciles.exact (differenceAt expected actual key)).mpr
      ⟨rfl, rfl, rfl, sub_ne_zero.mpr differs⟩
    rw [empty] at listed
    exact List.not_mem_nil listed
  · intro agree
    refine List.eq_nil_iff_forall_not_mem.mpr fun difference listed => ?_
    obtain ⟨left, right, delta, differs⟩ := (reconciles.exact difference).mp listed
    have same := agree difference.key
    omega

/-- The differences make up what the actual account lacks of the expected one. -/
theorem Reconciles.made_up (reconciles : Reconciles expected actual entries) (key : Key) :
    expected key = actual key + balance Difference.key Difference.delta entries key := by
  by_cases listed : key ∈ entries.map Difference.key
  · obtain ⟨difference, member, rfl⟩ := List.mem_map.mp listed
    obtain ⟨left, right, delta, _⟩ := (reconciles.exact difference).mp member
    rw [balance_row reconciles.keyed member]
    omega
  · rw [balance_absent listed]
    by_contra differs
    refine listed (List.mem_map.mpr ⟨differenceAt expected actual key, ?_, rfl⟩)
    have apart : expected key ≠ actual key := by omega
    exact (reconciles.exact _).mpr ⟨rfl, rfl, rfl, sub_ne_zero.mpr apart⟩

omit [DecidableEq Key] in
/-- Two lists that reconcile the same accounts differ in their order only. -/
theorem Reconciles.perm (first : Reconciles expected actual entries)
    (second : Reconciles expected actual others) : entries.Perm others := by
  refine (List.perm_ext_iff_of_nodup first.keyed.of_map second.keyed.of_map).mpr ?_
  exact fun difference => (first.exact difference).trans (second.exact difference).symm

omit [DecidableEq Key] in
/-- Accounts that differ on one key only have the difference of this key and no other. -/
theorem reconciles_single {key : Key} (differs : expected key ≠ actual key)
    (others : ∀ other, other ≠ key → expected other = actual other) :
    Reconciles expected actual [differenceAt expected actual key] where
  keyed := List.nodup_singleton _
  exact difference := by
    rw [List.mem_singleton]
    constructor
    · rintro rfl
      exact ⟨rfl, rfl, rfl, sub_ne_zero.mpr differs⟩
    · intro holds
      have same : difference.key = key := by
        by_contra apart
        have agree := others difference.key apart
        obtain ⟨left, right, delta, nonzero⟩ := holds
        omega
      exact same ▸ holds.eq

end Reconciled

end Accounts
