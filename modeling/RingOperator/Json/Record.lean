import RingOperator.Json.Basic

/-!
# Reading records from JSON values

A record is written as an object with a field for each of its parts, or as an
array of its parts in the order in which they are declared. `parts?` finds the
value given for each declared part; `required`, `orDefault` and `orNothing`
say what a missing part means. Unknown fields are ignored, a declared field
that is given twice is refused, and a value of another type is never converted.
-/

namespace RingOperator.Json

/-- The value of one declared field among the fields of an object: nothing if the field is
given twice, and otherwise the value, if there is one. -/
def part? (fields : List (String × Json)) (name : String) : Option (Option Json) :=
  match fields.filter fun field => field.1 == name with
  | [] => some none
  | [field] => some (some field.2)
  | _ => none

/-- The values of declared fields, one by one. -/
def namedParts? (fields : List (String × Json)) : List String → Option (List (Option Json))
  | [] => some []
  | name :: names => do
    let value ← part? fields name
    let more ← namedParts? fields names
    return value :: more

/-- The items of an array as the first of some number of parts, the others missing. -/
def listedParts? : Nat → List Json → Option (List (Option Json))
  | 0, [] => some []
  | 0, _ => none
  | count + 1, [] => (listedParts? count []).map (none :: ·)
  | count + 1, item :: items => (listedParts? count items).map (some item :: ·)

/-- The values that a JSON value gives for declared parts. -/
def parts? (names : List String) : Json → Option (List (Option Json))
  | object fields => namedParts? fields names
  | array items => listedParts? names.length items
  | _ => none

/-- A part that must be given. -/
def required {α : Type} (decode : Json → Option α) : Option Json → Option α
  | none => none
  | some value => decode value

/-- A part with a default, which stands for a missing part and not for null. -/
def orDefault {α : Type} (default : α) (decode : Json → Option α) : Option Json → Option α
  | none => some default
  | some value => decode value

/-- An optional part: missing and null both stand for its absence. -/
def orNothing {α : Type} (decode : Json → Option α) : Option Json → Option (Option α)
  | none => some none
  | some null => some none
  | some value => (decode value).map some

/-- Every item decoded, or nothing. -/
def all? {α : Type} (decode : Json → Option α) : List Json → Option (List α)
  | [] => some []
  | item :: items => do
    let first ← decode item
    let more ← all? decode items
    return first :: more

/-- An array with every item decoded. -/
def list? {α : Type} (decode : Json → Option α) : Json → Option (List α)
  | array items => all? decode items
  | _ => none

/-- An optional text as a value. -/
def ofText? : Option String → Json
  | none => null
  | some value => text value

end RingOperator.Json
