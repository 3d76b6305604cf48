import RingOperator.Objects.Shape

/-!
# Shapes that all objects share

Metadata with its owners and managers, selectors of labels, and the conditions
that a status lists.
-/

namespace RingOperator.Shape

/-- An owner of an object. -/
def owner : Shape :=
  record (texts ["apiVersion", "kind", "name", "uid"] ++ flags ["blockOwnerDeletion", "controller"])

/-- The metadata of an object. -/
def metadata : Shape :=
  record (texts ["generateName", "name", "namespace", "resourceVersion", "selfLink", "uid"] ++
    textMaps ["annotations", "labels"] ++ textLists ["finalizers"] ++
    times ["creationTimestamp", "deletionTimestamp"] ++
    longs ["deletionGracePeriodSeconds", "generation"] ++ [
    ("managedFields", list (record (texts ["apiVersion", "fieldsType", "manager", "operation",
      "subresource"] ++ times ["time"]))),
    ("ownerReferences", list owner)])

/-- What a selector demands of one key. -/
def requirement : Shape := record (texts ["key", "operator"] ++ textLists ["values"])

/-- A selector of labels. -/
def labelSelector : Shape :=
  record (("matchExpressions", list requirement) :: textMaps ["matchLabels"])

/-- Conditions, with the names of the times that they give. -/
def conditions (given : List String) : Shape :=
  list (record (texts ["message", "reason", "status", "type"] ++ times given))

/-- A reference to an object by its name. -/
def byName : Shape := ofTexts ["name"]

/-- Amounts of resources that are demanded and allowed. -/
def resources : Shape :=
  record (textMaps ["limits", "requests"] ++ [("claims", list byName)])

end RingOperator.Shape
