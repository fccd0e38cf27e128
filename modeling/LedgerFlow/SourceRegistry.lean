import LedgerFlow.Simulator.Readings

/-!
# The source registry

`loadSourceRegistry` follows `load_source_registry` on the decoded document, a JSON value of any
shape. Every family is checked before its sources are added, and a source is added only under a
new identifier, so an error leaves no registry.

A source identifier ends in a hyphen and a number, and a number holds no hyphen. So two sources
clash exactly when their families have one name, and `load_source_registry_iff` can say of the
families alone which documents load and what they load as.
-/

namespace LedgerFlow

open PyText PyJson Grouping Simulator

/-! ## Reading a family -/

/-- The modes a family may have. -/
def sourceModes : List Str := [str "stream", str "cdc", str "manifest_file"]

/-- The contracts a family may have. -/
def sourceContracts : List Str := [str "payment_event", str "settlement_evidence"]

/-- The keys that a family must have, sorted. -/
def familyFields : List Str :=
  [str "contract", str "family", str "freshness_minutes", str "instances", str "mode", str "owner"]

/-- `str(value)`; the texts of floats and containers are left to the library. -/
def strOf (other : Json → Str) : Json → Str
  | .null => str "None"
  | .bool true => str "True"
  | .bool false => str "False"
  | .int n => decimal n
  | .str text => text
  | value => other value

/-- `value in texts`, where a set hashes the value first. -/
def inTexts (value : Json) (texts : List Str) : Py Bool :=
  match value with
  | .arr _ => .error (.type (str "unhashable type: 'list'"))
  | .obj _ => .error (.type (str "unhashable type: 'dict'"))
  | .str text => .ok (decide (text ∈ texts))
  | _ => .ok false

/-- A family that has passed its checks. -/
structure Family where
  name : Str
  mode : Str
  contract : Str
  owner : Str
  instances : {n : Int // 1 ≤ n}
  freshnessMinutes : {n : Int // 1 ≤ n}

/-- `isinstance(value, int) and value >= 1`, with the number; a truth value is an integer. -/
def checked (value : Json) (error : PyError) : Py {n : Int // 1 ≤ n} :=
  match value with
  | .int n => if positive : 1 ≤ n then .ok ⟨n, positive⟩ else .error error
  | .bool true => .ok 1
  | _ => .error error

section Reading

variable (other : Json → Str)

/-- The checks of one family, in their order. -/
def readFamily (value : Json) : Py Family :=
  match value with
  | .obj family => do
      let missing := familyFields.filter fun field => (get family field).isNone
      require (missing = []) (.contract (str "source_family_missing:" ++ join (str ",") missing))
      let mode := entry family (str "mode")
      let contract := entry family (str "contract")
      let known ← inTexts mode sourceModes
      require (known = true) (.contract (str "unsupported_source_mode:" ++ strOf other mode))
      let known ← inTexts contract sourceContracts
      require (known = true)
        (.contract (str "unsupported_source_contract:" ++ strOf other contract))
      let instances ← checked (entry family (str "instances"))
        (.contract (str "invalid_source_instances"))
      let freshnessMinutes ← checked (entry family (str "freshness_minutes"))
        (.contract (str "invalid_freshness_minutes"))
      .ok { name := strOf other (entry family (str "family")), mode := strOf other mode,
            contract := strOf other contract, owner := strOf other (entry family (str "owner")),
            instances, freshnessMinutes }
  | value => .error (.attribute
      (str "'" ++ typeName value ++ str "' object has no attribute 'keys'"))

/-! ## Loading -/

/-- `f"{family['family']}-{number:02d}"` -/
def Family.sourceId (family : Family) (number : Nat) : Str :=
  family.name ++ str "-" ++ zeroPadded 2 number

/-- The registry entry of one instance. -/
def Family.entry (family : Family) (number : Nat) : Str × Source :=
  (family.sourceId number,
    { sourceId := family.sourceId number, family := family.name, mode := family.mode,
      contract := family.contract, owner := family.owner,
      freshnessMinutes := family.freshnessMinutes.1 })

/-- `range(1, family["instances"] + 1)` -/
def Family.numbers (family : Family) : List Nat := List.range' 1 family.instances.1.toNat

/-- The loop over the instances of a family. -/
def addInstances (family : Family) : List Nat → Registry → Py Registry
  | [], registry => .ok registry
  | number :: rest, registry => do
      require ((registry.lookup (family.sourceId number)).isNone)
        (.contract (str "duplicate_source:" ++ family.sourceId number))
      addInstances family rest (registry ++ [family.entry number])

/-- The loop over the families. -/
def loadFamilies : List Json → Registry → Py Registry
  | [], registry => .ok registry
  | value :: rest, registry => do
      let family ← readFamily other value
      let registry ← addInstances family family.numbers registry
      loadFamilies rest registry

/-- What a `for` loop over a value visits. -/
def iterated : Json → Py (List Json)
  | .arr items => .ok items
  | .obj fields => .ok (fields.map fun field => .str field.1)
  | .str text => .ok (text.map fun c => .str [c])
  | value => .error (.type (str "'" ++ typeName value ++ str "' object is not iterable"))

/-- `raw.get("families", [])`, as the loop visits it. -/
def listedFamilies (raw : Json) : Py (List Json) := do
  let families ← getEntry raw (str "families")
  iterated (families.getD (.arr []))

/-- `load_source_registry` of the decoded document. -/
def loadSourceRegistry (raw : Json) : Py Registry := do
  let values ← listedFamilies raw
  let registry ← loadFamilies other values []
  require (registry ≠ []) (.contract (str "empty_source_registry"))
  .ok registry

end Reading

/-! ## Source identifiers -/

/-- A source identifier determines the name of its family and its number: the number is what
follows the last dash, so a dash within the name does no harm. -/
theorem source_id_inj {first second : Family} {left right : Nat}
    (same : first.sourceId left = second.sourceId right) :
    first.name = second.name ∧ left = right := by
  have free (number : Nat) : point '-' ∉ zeroPadded 2 number := by
    intro member
    have isDigit := zero_padded_digits 2 number _ member
    revert isDigit
    decide
  have hyphen : str "-" = [point '-'] := rfl
  simp only [Family.sourceId, hyphen, List.append_assoc, List.singleton_append] at same
  obtain ⟨names, numbers⟩ := last_cut (free left) (free right) same
  refine ⟨names, ?_⟩
  rw [← zero_padded_numeral 2 left, numbers, zero_padded_numeral]

/-! ## What a family is read from -/

/-- An integer, or a truth value as an integer. -/
def wholeNumber : Json → Option Int
  | .int n => some n
  | .bool value => some (if value then 1 else 0)
  | _ => none

/-- The entries that a family is read from. -/
structure Family.Spelled (other : Json → Str) (fields : Fields) (family : Family) : Prop where
  name : ∃ value, get fields (str "family") = some value ∧ family.name = strOf other value
  owner : ∃ value, get fields (str "owner") = some value ∧ family.owner = strOf other value
  mode : get fields (str "mode") = some (.str family.mode) ∧ family.mode ∈ sourceModes
  contract : get fields (str "contract") = some (.str family.contract) ∧
    family.contract ∈ sourceContracts
  instances : ∃ value, get fields (str "instances") = some value ∧
    wholeNumber value = some family.instances.1
  freshness : ∃ value, get fields (str "freshness_minutes") = some value ∧
    wholeNumber value = some family.freshnessMinutes.1

/-- A checked value is a positive whole number. In Python the truth value true counts as one. -/
theorem checked_ok {value : Json} {error : PyError} {n : {n : Int // 1 ≤ n}} :
    checked value error = .ok n ↔ wholeNumber value = some n.1 := by
  have zero : (0 : Int) ≠ n.1 := by have positive := n.2; omega
  obtain ⟨n, positive⟩ := n
  cases value with
  | int m =>
    simp only [checked, wholeNumber, Option.some.injEq]
    constructor
    · intro read
      split at read
      · cases read
        rfl
      · cases read
    · rintro rfl
      rw [dif_pos positive]
  | bool value =>
    cases value with
    | true =>
      simp only [checked, wholeNumber, if_true, Option.some.injEq, Except.ok.injEq]
      exact ⟨fun same => congrArg Subtype.val same, fun same => Subtype.ext same⟩
    | false =>
      simp only [checked, wholeNumber, Bool.false_eq_true, if_false, Option.some.injEq, zero,
        reduceCtorEq]
  | null | float | str | arr | obj => simp [checked, wholeNumber]

/-- A value is in a set of texts exactly where it is one of them. A list or an object raises
instead, as it cannot be hashed. -/
theorem in_texts_ok {value : Json} {texts : List Str} :
    inTexts value texts = .ok true ↔ ∃ text ∈ texts, value = .str text := by
  cases value <;> simp [inTexts]

/-- A present entry is read as it is, and only an absent one has the default. -/
theorem entry_present {fields : Fields} {field : Str} (present : get fields field ≠ none) :
    get fields field = some (entry fields field) := by
  obtain ⟨value, found⟩ := Option.ne_none_iff_exists'.mp present
  rw [entry, found]
  rfl

/-- A family is read from an object with its entries, and from nothing else. -/
theorem read_family_ok {other : Json → Str} {value : Json} {family : Family} :
    readFamily other value = .ok family ↔
      ∃ fields, value = .obj fields ∧ family.Spelled other fields := by
  constructor
  · intro read
    cases value with
    | obj fields =>
      refine ⟨fields, rfl, ?_⟩
      simp only [readFamily, bind_ok, require_ok, exists_const] at read
      obtain ⟨complete, _, knownMode, rfl, _, knownContract, rfl, instances, counted, freshness,
        fresh, same⟩ := read
      have present {field : Str} (listed : field ∈ familyFields) :
          get fields field = some (entry fields field) := by
        refine entry_present fun missing => ?_
        have inside : field ∈ familyFields.filter fun field => (get fields field).isNone :=
          List.mem_filter.mpr ⟨listed, by rw [missing]; rfl⟩
        rw [complete] at inside
        cases inside
      obtain ⟨mode, modeListed, isMode⟩ := in_texts_ok.mp knownMode
      obtain ⟨contract, contractListed, isContract⟩ := in_texts_ok.mp knownContract
      cases same
      exact {
        name := ⟨_, present (by decide), rfl⟩
        owner := ⟨_, present (by decide), rfl⟩
        mode := by
          rw [isMode]
          exact ⟨isMode ▸ present (by decide), modeListed⟩
        contract := by
          rw [isContract]
          exact ⟨isContract ▸ present (by decide), contractListed⟩
        instances := ⟨_, present (by decide), checked_ok.mp counted⟩
        freshness := ⟨_, present (by decide), checked_ok.mp fresh⟩ }
    | null | bool | int | float | str | arr => cases read
  · rintro ⟨fields, rfl, spelled⟩
    obtain ⟨⟨name, named, isName⟩, ⟨owner, owned, isOwner⟩, ⟨mode, modeListed⟩,
      ⟨contract, contractListed⟩, ⟨instances, counted, isCount⟩, ⟨freshness, fresh, isFresh⟩⟩ :=
        spelled
    have complete : familyFields.filter (fun field => (get fields field).isNone) = [] := by
      simp [familyFields, named, owned, mode, contract, counted, fresh]
    simp only [readFamily, bind_ok, require_ok, exists_const, complete, true_and]
    have found {field : Str} {value : Json} (present : get fields field = some value) :
        entry fields field = value := by
      rw [entry, present]
      rfl
    rw [found named, found owned, found mode, found contract, found counted, found fresh]
    exact ⟨_, in_texts_ok.mpr ⟨_, modeListed, rfl⟩, rfl, _,
      in_texts_ok.mpr ⟨_, contractListed, rfl⟩, rfl, _, checked_ok.mpr isCount, _,
      checked_ok.mpr isFresh, by rw [← isName, ← isOwner]; rfl⟩

/-! ## What a document loads as -/

/-- The registry entries of a family. -/
def Family.sources (family : Family) : Registry := family.numbers.map family.entry

/-- An identifier is free where no entry of the registry has it. -/
theorem lookup_free {registry : Registry} {sourceId : Str} :
    registry.lookup sourceId = none ↔ sourceId ∉ registry.map Prod.fst := by
  rw [List.lookup_eq_none_iff]
  constructor
  · rintro apart taken
    obtain ⟨entry, member, rfl⟩ := List.mem_map.mp taken
    exact bne_iff_ne.mp (apart entry member) rfl
  · intro fresh entry member
    exact bne_iff_ne.mpr fun same => fresh (same ▸ List.mem_map_of_mem member)

/-- The instances of a family are added exactly when no identifier is taken, and then in order
after what the registry has. The induction is on the numbers and keeps the identifiers
distinct. -/
theorem add_instances_ok {family : Family} {numbers : List Nat} {registry result : Registry}
    (keyed : Keyed Prod.fst registry) :
    addInstances family numbers registry = .ok result ↔
      result = registry ++ numbers.map family.entry ∧ Keyed Prod.fst result := by
  induction numbers generalizing registry with
  | nil =>
    rw [addInstances, List.map_nil, List.append_nil]
    constructor
    · rintro ⟨⟩
      exact ⟨rfl, keyed⟩
    · rintro ⟨rfl, _⟩
      rfl
  | cons number rest inductionHypothesis =>
    have shape : registry ++ (number :: rest).map family.entry =
        (registry ++ [family.entry number]) ++ rest.map family.entry := by
      rw [List.map_cons, List.append_assoc, List.singleton_append]
    simp only [addInstances, bind_ok, require_ok, exists_const, Option.isNone_iff_eq_none,
      lookup_free]
    rw [shape]
    constructor
    · rintro ⟨fresh, added⟩
      exact (inductionHypothesis (keyed.append_row fresh)).mp added
    · rintro ⟨same, whole⟩
      have part : Keyed Prod.fst (registry ++ [family.entry number]) := by
        rw [same] at whole
        exact List.Nodup.sublist ((List.sublist_append_left _ _).map _) whole
      refine ⟨fun taken => ?_, (inductionHypothesis part).mpr ⟨same, whole⟩⟩
      rw [Keyed, List.map_append, List.nodup_append] at part
      exact part.2.2 _ taken _ (List.mem_singleton_self _) rfl

/-- The families are loaded one after the other: loading succeeds exactly when each is read and
all their sources together have distinct identifiers. -/
theorem load_families_ok {other : Json → Str} {values : List Json} {registry result : Registry}
    (keyed : Keyed Prod.fst registry) :
    loadFamilies other values registry = .ok result ↔
      ∃ families, List.Forall₂ (fun value family => readFamily other value = .ok family) values
          families ∧
        result = registry ++ families.flatMap Family.sources ∧ Keyed Prod.fst result := by
  induction values generalizing registry with
  | nil =>
    rw [loadFamilies]
    constructor
    · rintro ⟨⟩
      exact ⟨[], .nil, (List.append_nil _).symm, keyed⟩
    · rintro ⟨_, ⟨⟩, rfl, _⟩
      rw [List.flatMap_nil, List.append_nil]
  | cons value rest inductionHypothesis =>
    simp only [loadFamilies, bind_ok]
    constructor
    · rintro ⟨family, read, _, added, later⟩
      obtain ⟨rfl, part⟩ := (add_instances_ok keyed).mp added
      obtain ⟨families, reads, rfl, whole⟩ := (inductionHypothesis part).mp later
      exact ⟨family :: families, .cons read reads, List.append_assoc .., whole⟩
    · rintro ⟨_, all, same, whole⟩
      cases all with
      | @cons _ family _ families read reads =>
      rw [List.flatMap_cons, ← List.append_assoc] at same
      have part : Keyed Prod.fst (registry ++ family.sources) := by
        rw [same] at whole
        exact List.Nodup.sublist ((List.sublist_append_left _ _).map _) whole
      exact ⟨family, read, _, (add_instances_ok keyed).mpr ⟨rfl, part⟩,
        (inductionHypothesis part).mpr ⟨families, reads, same, whole⟩⟩

/-- Families have distinct sources exactly when they have distinct names, provided that each has a
source; within one family the numbers are distinct anyway. -/
theorem sources_keyed {families : List Family} :
    Keyed Prod.fst (families.flatMap Family.sources) ↔ (families.map Family.name).Nodup := by
  have keys : (families.flatMap Family.sources).map Prod.fst =
      families.flatMap fun family => family.numbers.map family.sourceId := by
    rw [List.map_flatMap]
    refine congrArg families.flatMap (funext fun family => ?_)
    rw [Family.sources, List.map_map]
    rfl
  have first (family : Family) : 1 ∈ family.numbers := by
    have positive := family.instances.2
    rw [Family.numbers, List.mem_range'_1]
    omega
  rw [Keyed, keys, List.nodup_flatMap, List.Nodup, List.pairwise_map]
  constructor
  · rintro ⟨_, apart⟩
    refine apart.imp fun {left right} disjoint same => ?_
    have shared : left.sourceId 1 = right.sourceId 1 := by rw [Family.sourceId, same]; rfl
    exact disjoint (List.mem_map_of_mem (first left)) (shared ▸ List.mem_map_of_mem (first right))
  · intro apart
    refine ⟨fun family _ => ?_, apart.imp fun {left right} differ => ?_⟩
    · exact (List.nodup_range' 1 Nat.one_pos).map fun _ _ same => (source_id_inj same).2
    · intro sourceId inLeft inRight
      obtain ⟨number, _, rfl⟩ := List.mem_map.mp inLeft
      obtain ⟨_, _, same⟩ := List.mem_map.mp inRight
      exact differ (source_id_inj same).1.symm

/-- A list of families is visited item by item, so that the items that are read are those of the
list under `families`. -/
theorem listed_families_read {other : Json → Str} {raw : Json} {values : List Json}
    {families : List Family} (listed : listedFamilies raw = .ok values) (some : families ≠ [])
    (reads : List.Forall₂ (fun value family => readFamily other value = .ok family) values
      families) :
    ∃ fields, raw = .obj fields ∧ get fields (str "families") = .some (.arr values) := by
  cases raw with
  | obj fields =>
    refine ⟨fields, rfl, ?_⟩
    cases reads with
    | nil => exact absurd rfl some
    | @cons value family rest others read later =>
      obtain ⟨entries, rfl, _⟩ := read_family_ok.mp read
      obtain ⟨found, got, visited⟩ := bind_ok.mp listed
      cases got
      cases held : get fields (str "families") with
      | none =>
        rw [held] at visited
        cases visited
      | some held' =>
        rw [held] at visited
        cases held' with
        | arr items =>
          cases visited
          rfl
        | obj entries =>
          cases entries <;> cases visited
        | str text =>
          cases text <;> cases visited
        | null | bool | int | float => cases visited
  | null | bool | int | float | str | arr => cases listed

/-- A document loads exactly when it lists at least one family, every family has its entries,
and no two families have one name. It loads as the numbered sources of the families, in their
order. -/
theorem load_source_registry_iff {other : Json → Str} {raw : Json} {registry : Registry} :
    loadSourceRegistry other raw = .ok registry ↔
      ∃ fields items families, raw = .obj fields ∧
        get fields (str "families") = some (.arr items) ∧
        List.Forall₂ (fun item family => ∃ entries, item = .obj entries ∧
          family.Spelled other entries) items families ∧
        (families.map Family.name).Nodup ∧ families ≠ [] ∧
        registry = families.flatMap Family.sources := by
  have empty : Keyed Prod.fst ([] : Registry) := List.nodup_nil
  have none (families : List Family) : families.flatMap Family.sources = [] ↔ families = [] := by
    rw [List.flatMap_eq_nil_iff]
    constructor
    · intro missing
      by_contra filled
      obtain ⟨family, member⟩ := List.exists_mem_of_ne_nil _ filled
      have length := congrArg List.length (missing family member)
      have positive := family.instances.2
      rw [Family.sources, Family.numbers, List.length_map, List.length_range'] at length
      simp only [List.length_nil] at length
      omega
    · rintro rfl _ ⟨⟩
  simp only [loadSourceRegistry, bind_ok, require_ok, exists_const]
  constructor
  · rintro ⟨values, listed, _, loaded, filled, same⟩
    cases same
    obtain ⟨families, reads, rfl, keyed⟩ := (load_families_ok empty).mp loaded
    rw [List.nil_append] at filled keyed
    have some := mt (none families).mpr filled
    obtain ⟨fields, rfl, found⟩ := listed_families_read listed some reads
    exact ⟨fields, values, families, rfl, found, reads.imp fun _ _ read => read_family_ok.mp read,
      sources_keyed.mp keyed, some, rfl⟩
  · rintro ⟨fields, items, families, rfl, found, reads, apart, some, rfl⟩
    refine ⟨items, ?_, _, (load_families_ok empty).mpr ⟨families,
      reads.imp fun _ _ spelled => read_family_ok.mpr spelled, rfl, sources_keyed.mpr apart⟩,
      mt (none families).mp some, rfl⟩
    rw [listedFamilies, getEntry, found]
    rfl

/-! ## The shipped registry -/

/-- A family of `sources.json`. -/
def shippedFamily (family : String) (instances : Int) (mode contract owner : String)
    (freshnessMinutes : Int) : Json :=
  .obj [(str "family", .str (str family)), (str "instances", .int instances),
    (str "mode", .str (str mode)), (str "contract", .str (str contract)),
    (str "owner", .str (str owner)), (str "freshness_minutes", .int freshnessMinutes)]

/-- `sources.json` -/
def shippedSources : Json :=
  .obj [(str "families", .arr [
    shippedFamily "checkout" 5 "stream" "payment_event" "payments" 5,
    shippedFamily "gateway" 4 "stream" "payment_event" "payments" 5,
    shippedFamily "legacy_db" 3 "cdc" "payment_event" "payments" 15,
    shippedFamily "wallet" 3 "stream" "payment_event" "wallets" 10,
    shippedFamily "processor_settlement" 3 "manifest_file" "settlement_evidence" "finance" 1440,
    shippedFamily "chargeback" 2 "stream" "payment_event" "risk" 30])]

/-- The shipped registry expands to twenty sources. -/
example : (loadSourceRegistry (fun _ => []) shippedSources).toOption.map List.length = some 20 := by
  decide +kernel

end LedgerFlow
