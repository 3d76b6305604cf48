/-!
# JSON values

The values of the JSON format as the operator reads and writes them. Whole
numbers are apart from all other numbers, because a count is never read from
a fraction or an exponent. A text in which an escape names half of a surrogate
pair is kept apart too, and so is an object with such a name (`broken`): it may
stand where nothing reads it, but it is neither a text nor an object. The
fields of an object stay in the order, and with the repetitions, in which they
were written.
-/

namespace RingOperator

/-- A JSON value. -/
inductive Json where
  /-- The value `null`. -/
  | null
  /-- A truth value. -/
  | bool (value : Bool)
  /-- A number without fraction and exponent. -/
  | integer (value : Int)
  /-- Any other number, by its spelling. -/
  | decimal (spelling : String)
  /-- A text. -/
  | text (value : String)
  /-- A text with an unpaired surrogate, or an object with a name that has one. -/
  | broken
  /-- A list of values. -/
  | array (items : List Json)
  /-- Named values. -/
  | object (fields : List (String × Json))

namespace Json

instance : Inhabited Json := ⟨null⟩

/-- The field of an object, the last one if it is repeated. -/
def field? (name : String) : Json → Option Json
  | object fields => fields.reverse.lookup name
  | _ => none

/-- A field that is present and not null. -/
def present? (name : String) (value : Json) : Option Json :=
  match value.field? name with
  | some null => none
  | other => other

/-- The text of a text value. -/
def text? : Json → Option String
  | text value => some value
  | _ => none

/-- The truth value of a truth value. -/
def bool? : Json → Option Bool
  | bool value => some value
  | _ => none

/-- The items of an array. -/
def items? : Json → Option (List Json)
  | array items => some items
  | _ => none

/-- The fields of an object. -/
def fields? : Json → Option (List (String × Json))
  | object fields => some fields
  | _ => none

/-- A whole number within bounds, the bounds included. -/
def integerIn? (least greatest : Int) : Json → Option Int
  | integer value => if least ≤ value ∧ value ≤ greatest then some value else none
  | _ => none

mutual
/-- How many arrays and objects are nested in a value. -/
def depth : Json → Nat
  | array items => depthOfItems items + 1
  | object fields => depthOfFields fields + 1
  | _ => 0

/-- The greatest depth among items. -/
def depthOfItems : List Json → Nat
  | [] => 0
  | item :: items => max (depth item) (depthOfItems items)

/-- The greatest depth among the values of fields. -/
def depthOfFields : List (String × Json) → Nat
  | [] => 0
  | (_, value) :: fields => max (depth value) (depthOfFields fields)
end

mutual
/-- Whether two values agree, fields compared in the order in which they are written. -/
def same : Json → Json → Bool
  | null, null => true
  | bool a, bool b => a == b
  | integer a, integer b => a == b
  | decimal a, decimal b => a == b
  | text a, text b => a == b
  | broken, broken => true
  | array a, array b => sameItems a b
  | object a, object b => sameFields a b
  | _, _ => false

/-- Whether two lists of items agree one by one. -/
def sameItems : List Json → List Json → Bool
  | [], [] => true
  | a :: as, b :: bs => same a b && sameItems as bs
  | _, _ => false

/-- Whether two lists of fields agree one by one, in name and value. -/
def sameFields : List (String × Json) → List (String × Json) → Bool
  | [], [] => true
  | (m, a) :: as, (n, b) :: bs => m == n && same a b && sameFields as bs
  | _, _ => false
end

instance : BEq Json := ⟨same⟩

end Json

end RingOperator
