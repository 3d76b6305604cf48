import RingOperator.Json.Basic

/-!
# Merge patches

A merge patch describes a change of a JSON value by an example of it. A field
of the patch that is null removes the field, any other field is merged into
what the value has there, and a patch that is no object replaces the value. Of a field
that is repeated, the last one counts.
-/

namespace RingOperator.Json

/-- The fields with one name removed. -/
def withoutField (name : String) (fields : List (String × Json)) : List (String × Json) :=
  fields.filter fun field => field.1 != name

/-- The fields with one set: replaced where it stands, or added at the end. -/
def setField (name : String) (value : Json) : List (String × Json) → List (String × Json)
  | [] => [(name, value)]
  | field :: fields =>
    if field.1 = name then (name, value) :: withoutField name fields
    else field :: setField name value fields

mutual
/-- A value changed by a merge patch. -/
def patched : Json → Json → Json
  | target, object changes =>
    object (patchedFields (match target with | object fields => fields | _ => []) changes)
  | _, patch => patch

/-- Fields changed by the fields of a merge patch. -/
def patchedFields (target : List (String × Json)) :
    List (String × Json) → List (String × Json)
  | [] => target
  | (name, null) :: changes => patchedFields (withoutField name target) changes
  | (name, change) :: changes =>
    patchedFields
      (setField name (patched ((target.reverse.lookup name).getD null) change) target) changes
end

end RingOperator.Json
