import LedgerFlow.Support.Json

/-!
# JSON Schema keywords on decoded values

A property is a set of keywords, and a value satisfies it when it satisfies every keyword
that is present. A keyword constrains the values of its own kind only: a pattern says
nothing about a number and a minimum says nothing about a text. A record schema is an
object schema whose properties are of this form.

An integer is a number without a fraction, so a float may be one. `Numerals` says which
numerals of floats are, and how they compare.
-/

namespace JsonSchema

open PyText PyJson

/-- What the keywords read of the numeral of a float. -/
structure Numerals where
  /-- The fraction is zero. -/
  integral : Str → Bool
  /-- The number is at least this integer. -/
  atLeast : Int → Str → Bool

/-- The keyword `type`, for the properties of a record. -/
inductive Kind where
  | string
  | integer

/-- A pattern that is one character class, repeated a bounded number of times between the
two anchors. -/
structure Pattern where
  within : CodePoint → Bool
  least : Nat
  most : Nat

/-- The whole text is a repetition of the class. -/
def Pattern.matched (pattern : Pattern) (text : Str) : Bool :=
  decide (pattern.least ≤ text.length ∧ text.length ≤ pattern.most) && text.all pattern.within

/-- The keywords of a property; constants and enumerations are of texts. -/
structure Property where
  kind : Option Kind := none
  const : Option Str := none
  enum : Option (List Str) := none
  pattern : Option Pattern := none
  minimum : Option Int := none

/-- A schema of objects whose properties are not objects themselves. -/
structure RecordSchema where
  required : List Str
  properties : List (Str × Property)
  additionalProperties : Bool

/-- The value is of the kind. -/
def Kind.admits (numerals : Numerals) : Kind → Json → Bool
  | .string, .str _ => true
  | .integer, .int _ => true
  | .integer, .float numeral => numerals.integral numeral.1
  | _, _ => false

/-- The value is one of these texts. -/
def isText (texts : List Str) : Json → Bool
  | .str text => decide (text ∈ texts)
  | _ => false

/-- A text has to match the pattern. -/
def Pattern.admits (pattern : Pattern) : Json → Bool
  | .str text => pattern.matched text
  | _ => true

/-- A number has to be at least the minimum. -/
def reaches (numerals : Numerals) (minimum : Int) : Json → Bool
  | .int number => decide (minimum ≤ number)
  | .float numeral => numerals.atLeast minimum numeral.1
  | _ => true

/-- The value satisfies every keyword of the property. -/
def Property.allows (numerals : Numerals) (property : Property) (value : Json) : Bool :=
  property.kind.all (·.admits numerals value) &&
    property.const.all (fun text => isText [text] value) &&
    property.enum.all (fun texts => isText texts value) &&
    property.pattern.all (·.admits value) &&
    property.minimum.all (fun minimum => reaches numerals minimum value)

/-- The value is an object with the required properties, each property that is present
satisfies its keywords, and there are others only where they are allowed. -/
def RecordSchema.allows (numerals : Numerals) (schema : RecordSchema) : Json → Bool
  | .obj fields =>
      schema.required.all (fun name => (PyJson.get fields name).isSome) &&
        schema.properties.all (fun (name, property) =>
          (PyJson.get fields name).all (property.allows numerals)) &&
        (schema.additionalProperties ||
          fields.all fun entry => decide (entry.1 ∈ schema.properties.map Prod.fst))
  | _ => false

/-- An object satisfies a closed record schema when it has what is required, its
properties satisfy their keywords and all its keys are properties. -/
theorem closed_allows {numerals : Numerals} {schema : RecordSchema} {fields : Fields}
    (closed : schema.additionalProperties = false) :
    schema.allows numerals (.obj fields) = true ↔
      (∀ name ∈ schema.required, (PyJson.get fields name).isSome = true) ∧
        (∀ name property, (name, property) ∈ schema.properties → ∀ value,
          PyJson.get fields name = some value → property.allows numerals value = true) ∧
        ∀ entry ∈ fields, entry.1 ∈ schema.properties.map Prod.fst := by
  simp only [RecordSchema.allows, closed, Bool.false_or, Bool.and_eq_true, List.all_eq_true,
    Option.all_eq_true, decide_eq_true_eq, and_assoc, Prod.forall]

end JsonSchema
