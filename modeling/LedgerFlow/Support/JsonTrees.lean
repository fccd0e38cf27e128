import LedgerFlow.Support.Json

/-!
# Bindings at every depth of a JSON value

`Binds` says that some object inside a value, at any depth of objects and lists, holds
an entry. `AgreeOutside` relates two values of one shape that differ only in what their
sensitive keys are bound to, and `mask` binds those keys to a marker.

Masking is the canonical choice among the values that agree outside: two values have
one mask exactly when they agree, so a mask tells nothing about what it covers.

`walkFrames` counts the calls that a recursion over a value has open at once. It depends on
the nesting outside sensitive values only, so that it is the same for a value and its mask.
-/

namespace PyJson

open PyText

/-! ## Bindings -/

/-- An object inside the value binds the key to this value. -/
inductive Binds : Json → Str → Json → Prop
  | here {fields : Fields} {key : Str} {value : Json} (member : (key, value) ∈ fields) :
      Binds (.obj fields) key value
  | entry {fields : Fields} {outer key : Str} {inner value : Json}
      (member : (outer, inner) ∈ fields) (inside : Binds inner key value) :
      Binds (.obj fields) key value
  | item {items : List Json} {inner : Json} {key : Str} {value : Json} (member : inner ∈ items)
      (inside : Binds inner key value) : Binds (.arr items) key value

/-- An object binds a key where one of its entries does directly, or where the value of one
does. -/
theorem binds_object {fields : Fields} {key : Str} {value : Json} :
    Binds (.obj fields) key value ↔
      (key, value) ∈ fields ∨ ∃ entry ∈ fields, Binds entry.2 key value := by
  constructor
  · intro binds
    cases binds with
    | here member => exact .inl member
    | entry member inside => exact .inr ⟨_, member, inside⟩
  · rintro (member | ⟨entry, member, inside⟩)
    · exact .here member
    · exact .entry member inside

/-- A list binds a key exactly where one of its items does. -/
theorem binds_list {items : List Json} {key : Str} {value : Json} :
    Binds (.arr items) key value ↔ ∃ item ∈ items, Binds item key value := by
  constructor
  · intro binds
    cases binds with
    | item member inside => exact ⟨_, member, inside⟩
  · rintro ⟨item, member, inside⟩
    exact .item member inside

/-- The bindings of an object are those of its first entry and those of the rest. -/
theorem binds_cons {field key : Str} {held value : Json} {rest : Fields} :
    Binds (.obj ((field, held) :: rest)) key value ↔
      (key = field ∧ value = held) ∨ Binds held key value ∨ Binds (.obj rest) key value := by
  simp only [binds_object, List.mem_cons, Prod.mk.injEq, exists_eq_or_imp]
  tauto

/-- The bindings of a list are those of its first item and those of the rest. -/
theorem binds_item {first : Json} {rest : List Json} {key : Str} {value : Json} :
    Binds (.arr (first :: rest)) key value ↔
      Binds first key value ∨ Binds (.arr rest) key value := by
  simp only [binds_list, List.mem_cons, exists_eq_or_imp]

/-- The empty object binds nothing. -/
theorem binds_empty {key : Str} {value : Json} : ¬ Binds (.obj []) key value := by
  simp [binds_object]

/-- The empty list binds nothing. -/
theorem binds_no_item {key : Str} {value : Json} : ¬ Binds (.arr []) key value := by
  simp [binds_list]

/-- The value is neither an object nor a list. -/
def Childless : Json → Prop
  | .obj _ | .arr _ => False
  | _ => True

section Sensitive

variable (sensitive : Str → Prop)

/-! ## Agreement outside sensitive values -/

mutual

/-- The values have one shape and differ only in what sensitive keys are bound to. -/
def AgreeOutside : Json → Json → Prop
  | .obj first, .obj second => FieldsAgree first second
  | .arr first, .arr second => ItemsAgree first second
  | first, second => first = second

/-- The lists agree item by item. -/
def ItemsAgree : List Json → List Json → Prop
  | [], [] => True
  | first :: rest, second :: others => AgreeOutside first second ∧ ItemsAgree rest others
  | _, _ => False

/-- The objects have the same keys in one order, and agree under every key that is not
sensitive. -/
def FieldsAgree : Fields → Fields → Prop
  | [], [] => True
  | (key, first) :: rest, (other, second) :: others =>
      key = other ∧ (sensitive key ∨ AgreeOutside first second) ∧ FieldsAgree rest others
  | _, _ => False

end

variable [DecidablePred sensitive] (marker : Str)

/-! ## Masks -/

mutual

/-- The value with every sensitive key bound to the marker. -/
def mask : Json → Json
  | .obj fields => .obj (maskFields fields)
  | .arr items => .arr (maskItems items)
  | value => value

/-- The masks of the items of a list. -/
def maskItems : List Json → List Json
  | [] => []
  | item :: rest => mask item :: maskItems rest

/-- The masks of the entries of an object. -/
def maskFields : Fields → Fields
  | [] => []
  | (key, value) :: rest =>
      (key, if sensitive key then .str marker else mask value) :: maskFields rest

end

/-! ## A mask covers every sensitive value -/

mutual

/-- A mask binds every sensitive key to the marker, at every depth. -/
theorem mask_covers {key : Str} {bound : Json} (isSensitive : sensitive key) :
    ∀ value : Json, Binds (mask sensitive marker value) key bound → bound = .str marker
  | .obj fields, binds => mask_fields_cover isSensitive fields (by rwa [mask] at binds)
  | .arr items, binds => mask_items_cover isSensitive items (by rwa [mask] at binds)
  | .null, binds | .bool _, binds | .int _, binds | .float _, binds | .str _, binds => by
      simp only [mask] at binds
      cases binds

/-- The masked items of a list bind a sensitive key to the marker only. -/
theorem mask_items_cover {key : Str} {bound : Json} (isSensitive : sensitive key) :
    ∀ items : List Json, Binds (.arr (maskItems sensitive marker items)) key bound →
      bound = .str marker
  | [], binds => absurd binds binds_no_item
  | item :: rest, binds => by
      rw [maskItems, binds_item] at binds
      rcases binds with inFirst | later
      · exact mask_covers isSensitive item inFirst
      · exact mask_items_cover isSensitive rest later

/-- The masked entries of an object bind a sensitive key to the marker only: an entry with a
sensitive key was replaced, and below the others the values were masked in turn. -/
theorem mask_fields_cover {key : Str} {bound : Json} (isSensitive : sensitive key) :
    ∀ fields : Fields, Binds (.obj (maskFields sensitive marker fields)) key bound →
      bound = .str marker
  | [], binds => absurd binds binds_empty
  | (field, value) :: rest, binds => by
      rw [maskFields, binds_cons] at binds
      rcases binds with ⟨rfl, rfl⟩ | inside | later
      · rw [if_pos isSensitive]
      · by_cases covered : sensitive field
        · rw [if_pos covered] at inside
          cases inside
        · rw [if_neg covered] at inside
          exact mask_covers isSensitive value inside
      · exact mask_fields_cover isSensitive rest later

end

/-! ## A mask changes nothing else -/

mutual

/-- A value agrees with its mask outside sensitive values, at every depth. -/
theorem agree_mask : ∀ value : Json, AgreeOutside sensitive value (mask sensitive marker value)
  | .obj fields => by
      rw [mask, AgreeOutside]
      exact fields_agree_mask fields
  | .arr items => by
      rw [mask, AgreeOutside]
      exact items_agree_mask items
  | .null | .bool _ | .int _ | .float _ | .str _ => by
      simp [mask, AgreeOutside]

/-- The items of a list agree with the masked items, one for one. -/
theorem items_agree_mask :
    ∀ items : List Json, ItemsAgree sensitive items (maskItems sensitive marker items)
  | [] => trivial
  | item :: rest => ⟨agree_mask item, items_agree_mask rest⟩

/-- The entries of an object agree with their masked ones: under a sensitive key any two values
agree. -/
theorem fields_agree_mask :
    ∀ fields : Fields, FieldsAgree sensitive fields (maskFields sensitive marker fields)
  | [] => trivial
  | (key, value) :: rest => by
      refine ⟨rfl, ?_, fields_agree_mask rest⟩
      by_cases covered : sensitive key
      · exact .inl covered
      · rw [if_neg covered]
        exact .inr (agree_mask value)

end

/-! ## Equal masks are agreement -/

mutual

/-- Values that agree outside sensitive values have one mask, so the mask shows nothing of what it
hides. -/
theorem mask_of_agree : ∀ first second : Json, AgreeOutside sensitive first second →
    mask sensitive marker first = mask sensitive marker second
  | .obj first, .obj second, agree => by
      rw [AgreeOutside] at agree
      rw [mask, mask, mask_fields_of_agree first second agree]
  | .arr first, .arr second, agree => by
      rw [AgreeOutside] at agree
      rw [mask, mask, mask_items_of_agree first second agree]
  | .null, _, agree | .bool _, _, agree | .int _, _, agree | .float _, _, agree
  | .str _, _, agree | .obj _, .null, agree | .obj _, .bool _, agree | .obj _, .int _, agree
  | .obj _, .float _, agree | .obj _, .str _, agree | .obj _, .arr _, agree
  | .arr _, .null, agree | .arr _, .bool _, agree | .arr _, .int _, agree
  | .arr _, .float _, agree | .arr _, .str _, agree | .arr _, .obj _, agree => by
      simp only [AgreeOutside] at agree
      rw [agree]

/-- Lists whose items agree outside sensitive values are masked alike. -/
theorem mask_items_of_agree : ∀ first second : List Json, ItemsAgree sensitive first second →
    maskItems sensitive marker first = maskItems sensitive marker second
  | [], [], _ => rfl
  | first :: rest, second :: others, ⟨agree, later⟩ => by
      rw [maskItems, maskItems, mask_of_agree first second agree,
        mask_items_of_agree rest others later]

/-- Objects that agree outside sensitive values are masked alike; what stands under a sensitive
key does not matter. -/
theorem mask_fields_of_agree : ∀ first second : Fields, FieldsAgree sensitive first second →
    maskFields sensitive marker first = maskFields sensitive marker second
  | [], [], _ => rfl
  | (key, first) :: rest, (_, second) :: others, ⟨rfl, agree, later⟩ => by
      rw [maskFields, maskFields, mask_fields_of_agree rest others later]
      by_cases covered : sensitive key
      · rw [if_pos covered, if_pos covered]
      · rw [if_neg covered, if_neg covered,
          mask_of_agree first second (agree.resolve_left covered)]

end

/-- A mask is its own mask, so masking again hides nothing more. -/
theorem mask_mask (value : Json) : mask sensitive marker (mask sensitive marker value) =
    mask sensitive marker value :=
  (mask_of_agree sensitive marker value _ (agree_mask sensitive marker value)).symm

mutual

/-- Values with one mask agree outside sensitive values, so the mask keeps everything else. -/
theorem agree_of_mask : ∀ first second : Json,
    mask sensitive marker first = mask sensitive marker second →
      AgreeOutside sensitive first second
  | .obj first, .obj second, same => by
      rw [mask, mask] at same
      rw [AgreeOutside]
      exact agree_of_mask_fields first second (Json.obj.inj same)
  | .arr first, .arr second, same => by
      rw [mask, mask] at same
      rw [AgreeOutside]
      exact agree_of_mask_items first second (Json.arr.inj same)
  | .null, second, same | .bool _, second, same | .int _, second, same | .float _, second, same
  | .str _, second, same => by
      cases second <;> simp_all [mask, AgreeOutside]
  | .obj _, .null, same | .obj _, .bool _, same | .obj _, .int _, same | .obj _, .float _, same
  | .obj _, .str _, same | .obj _, .arr _, same | .arr _, .null, same | .arr _, .bool _, same
  | .arr _, .int _, same | .arr _, .float _, same | .arr _, .str _, same
  | .arr _, .obj _, same => by
      simp [mask] at same

/-- Lists that are masked alike agree outside sensitive values, item by item. -/
theorem agree_of_mask_items : ∀ first second : List Json,
    maskItems sensitive marker first = maskItems sensitive marker second →
      ItemsAgree sensitive first second
  | [], [], _ => trivial
  | [], _ :: _, same | _ :: _, [], same => by simp [maskItems] at same
  | first :: rest, second :: others, same => by
      rw [maskItems, maskItems, List.cons.injEq] at same
      exact ⟨agree_of_mask first second same.1, agree_of_mask_items rest others same.2⟩

/-- Objects that are masked alike agree outside sensitive values, entry by entry. -/
theorem agree_of_mask_fields : ∀ first second : Fields,
    maskFields sensitive marker first = maskFields sensitive marker second →
      FieldsAgree sensitive first second
  | [], [], _ => trivial
  | [], _ :: _, same | _ :: _, [], same => by simp [maskFields] at same
  | (key, first) :: rest, (other, second) :: others, same => by
      rw [maskFields, maskFields, List.cons.injEq, Prod.mk.injEq] at same
      obtain ⟨⟨rfl, values⟩, later⟩ := same
      refine ⟨rfl, ?_, agree_of_mask_fields rest others later⟩
      by_cases covered : sensitive key
      · exact .inl covered
      · rw [if_neg covered, if_neg covered] at values
        exact .inr (agree_of_mask first second values)

end

/-- Values agree outside sensitive values exactly when they have one mask. -/
theorem agree_iff_mask {first second : Json} : AgreeOutside sensitive first second ↔
    mask sensitive marker first = mask sensitive marker second :=
  ⟨mask_of_agree sensitive marker first second, agree_of_mask sensitive marker first second⟩

/-- Under a key that is not sensitive, a mask holds the mask of what was there. -/
theorem get_mask_fields {key : Str} (plain : ¬ sensitive key) (fields : Fields) :
    get (maskFields sensitive marker fields) key =
      (get fields key).map (mask sensitive marker) := by
  induction fields with
  | nil => rfl
  | cons entry rest inductionHypothesis =>
    obtain ⟨field, value⟩ := entry
    rw [maskFields, PyJson.get, PyJson.get, List.lookup_cons, List.lookup_cons]
    by_cases same : key = field
    · subst same
      rw [beq_self_eq_true, if_neg plain]
      rfl
    · rw [beq_false_of_ne same]
      exact inductionHypothesis

/-! ## The frames of a walk -/

mutual

/-- The frames that a recursion over a value has open at once: one for every value, `inner`
more while it goes through an object or a list, and none below a sensitive key. -/
def walkFrames (inner : Nat) : Json → Nat
  | .obj fields => 1 + inner + walkFieldsFrames inner fields
  | .arr items => 1 + inner + walkItemsFrames inner items
  | _ => 1

/-- The most frames that an item of a list takes. -/
def walkItemsFrames (inner : Nat) : List Json → Nat
  | [] => 0
  | item :: rest => max (walkFrames inner item) (walkItemsFrames inner rest)

/-- The most frames that an entry of an object takes. -/
def walkFieldsFrames (inner : Nat) : Fields → Nat
  | [] => 0
  | (key, value) :: rest =>
      max (if sensitive key then 0 else walkFrames inner value) (walkFieldsFrames inner rest)

end

/-- A value without children takes its own frame and no other. -/
theorem walk_frames_childless (inner : Nat) {value : Json} (childless : Childless value) :
    walkFrames sensitive inner value = 1 := by
  cases value with
  | obj | arr => exact childless.elim
  | _ => simp only [walkFrames]

mutual

/-- A value and its mask are nested equally deep. The marker stands under sensitive keys
only, where neither count looks.

Proof: by the recursion of the mask, an entry at a time. -/
theorem walk_frames_mask (inner : Nat) : ∀ value : Json,
    walkFrames sensitive inner (mask sensitive marker value) = walkFrames sensitive inner value
  | .obj fields => by rw [mask, walkFrames, walkFrames, walk_fields_frames_mask inner fields]
  | .arr items => by rw [mask, walkFrames, walkFrames, walk_items_frames_mask inner items]
  | .null | .bool _ | .int _ | .float _ | .str _ => by simp only [mask]

/-- The items of a list and their masks are nested equally deep. -/
theorem walk_items_frames_mask (inner : Nat) : ∀ items : List Json,
    walkItemsFrames sensitive inner (maskItems sensitive marker items) =
      walkItemsFrames sensitive inner items
  | [] => by rw [maskItems]
  | item :: rest => by
      rw [maskItems, walkItemsFrames, walkItemsFrames, walk_frames_mask inner item,
        walk_items_frames_mask inner rest]

/-- The entries of an object and their masks are nested equally deep, the masked entries
included. -/
theorem walk_fields_frames_mask (inner : Nat) : ∀ fields : Fields,
    walkFieldsFrames sensitive inner (maskFields sensitive marker fields) =
      walkFieldsFrames sensitive inner fields
  | [] => by rw [maskFields]
  | (key, value) :: rest => by
      rw [maskFields, walkFieldsFrames, walkFieldsFrames, walk_fields_frames_mask inner rest]
      by_cases covered : sensitive key
      · rw [if_pos covered, if_pos covered]
      · rw [if_neg covered, if_neg covered, if_neg covered, walk_frames_mask inner value]

end

/-- Values that agree outside sensitive values are nested equally deep there. -/
theorem walk_frames_agree (inner : Nat) {first second : Json}
    (agree : AgreeOutside sensitive first second) :
    walkFrames sensitive inner first = walkFrames sensitive inner second := by
  rw [← walk_frames_mask sensitive [] inner first, mask_of_agree sensitive [] first second agree,
    walk_frames_mask]

/-- An object whose values have no children takes one frame more than its own. -/
theorem walk_frames_flat (inner : Nat) {fields : Fields}
    (flat : ∀ entry ∈ fields, Childless entry.2) :
    walkFrames sensitive inner (.obj fields) ≤ inner + 2 := by
  have entries : walkFieldsFrames sensitive inner fields ≤ 1 := by
    induction fields with
    | nil => exact Nat.zero_le 1
    | cons entry rest inductionHypothesis =>
      obtain ⟨first, others⟩ := List.forall_mem_cons.mp flat
      refine max_le ?_ (inductionHypothesis others)
      split
      · exact Nat.zero_le 1
      · exact (walk_frames_childless sensitive inner first).le
  rw [walkFrames]
  omega

end Sensitive

end PyJson
