import RingOperator.Json.Basic
import RingOperator.Text.Base64
import RingOperator.Time.Written

/-!
# Shapes of objects

What the schema of the API says about the values of an object. A field that is
missing or null has any shape; an item of a list or a value of a map must be
there. A field that the schema does not name may hold anything, so a `record`
says nothing about it.
-/

namespace RingOperator

/-- The shape of a value. -/
inductive Shape where
  | text
  | flag
  /-- A whole number of thirty-two bits. -/
  | count
  /-- A whole number of sixty-four bits. -/
  | long
  /-- A text that writes an instant. -/
  | time
  /-- A text that writes bytes in base 64; null stands for no bytes. -/
  | bytes
  | countOrText
  | list (item : Shape)
  /-- An object with any names, whose values have one shape. -/
  | map (value : Shape)
  /-- An object, with the shapes of some of its fields. -/
  | record (fields : List (String × Shape))
  /-- An object that may say its version and kind, and then says these. -/
  | named (apiVersion kind : String) (object : Shape)

namespace Shape

/-- Whether a value is a whole number of thirty-two bits. -/
def isCount (value : Json) : Bool := (value.integerIn? (-2147483648) 2147483647).isSome

/-- Whether a value is a whole number of sixty-four bits. -/
def isLong (value : Json) : Bool :=
  (value.integerIn? (-9223372036854775808) 9223372036854775807).isSome

/-- Whether a value is null or a text that writes bytes. -/
def isBytes : Json → Bool
  | .null => true
  | .text value => (Text.Base64.toBytes? value.toList).isSome
  | _ => false

/-- Whether a field of an object has this text, if the object has the field. -/
def matchesText (name expected : String) (value : Json) : Bool :=
  match value.field? name with
  | none => true
  | some part => part.text? == some expected

mutual
/-- Whether a value has a shape. -/
def admits : Shape → Json → Bool
  | text, value => value.text?.isSome
  | flag, value => value.bool?.isSome
  | count, value => isCount value
  | long, value => isLong value
  | time, value => (value.text?.bind Instant.read).isSome
  | bytes, value => isBytes value
  | countOrText, value => isCount value || value.text?.isSome
  | list item, .array items => items.all fun value => item.admits value
  | list _, _ => false
  | map shape, .object fields => fields.all fun field => shape.admits field.2
  | map _, _ => false
  | record shapes, .object fields => admitsAll shapes (.object fields)
  | record _, _ => false
  | named apiVersion kind object, value =>
    matchesText "apiVersion" apiVersion value && matchesText "kind" kind value &&
      object.admits value

/-- Whether the fields of an object have their shapes. -/
def admitsAll : List (String × Shape) → Json → Bool
  | [], _ => true
  | (name, shape) :: shapes, value =>
    (match value.present? name with
      | none => true
      | some part => shape.admits part) && admitsAll shapes value
end

/-- Fields of one shape. -/
def each (shape : Shape) (names : List String) : List (String × Shape) :=
  names.map fun name => (name, shape)

/-- Fields that are texts. -/
def texts : List String → List (String × Shape) := each text

/-- Fields that are truth values. -/
def flags : List String → List (String × Shape) := each flag

/-- Fields that are whole numbers of thirty-two bits. -/
def counts : List String → List (String × Shape) := each count

/-- Fields that are whole numbers of sixty-four bits. -/
def longs : List String → List (String × Shape) := each long

/-- Fields that are instants. -/
def times : List String → List (String × Shape) := each time

/-- Fields that are lists of texts. -/
def textLists : List String → List (String × Shape) := each (list text)

/-- Fields that are maps of texts. -/
def textMaps : List String → List (String × Shape) := each (map text)

/-- An object whose fields are texts. -/
def ofTexts (names : List String) : Shape := record (texts names)

end Shape

end RingOperator
