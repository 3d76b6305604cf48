import RingOperator.Cluster.Spec
import RingOperator.Objects

/-!
# Scaling intents

How many nodes the StatefulSet of a datacenter has and how many the
declaration wants. A datacenter that is no longer declared wants none and
shall be removed.
-/

namespace RingOperator.Scaling

/-- The counts of one datacenter's StatefulSet. -/
structure Intent where
  dc : String
  /-- The name of the StatefulSet. -/
  statefulSet : String
  current : Int
  /-- Nothing if the datacenter is no longer declared. -/
  desired : Option Int
  /-- The version at which the current count was read. -/
  version : String
  deriving DecidableEq

namespace Intent

/-- The intent of a StatefulSet. A count that is not given is one. -/
def of (dc : String) (set : StatefulSet) (desired : Option Int) : Intent where
  dc := dc
  statefulSet := set.metadata.name
  current := set.replicas.getD 1
  desired := desired
  version := set.metadata.version.getD ""

/-- The StatefulSets by their datacenter label; of two with one label the last one counts. -/
def byDatacenter (sets : List StatefulSet) : Table StatefulSet :=
  Table.ofList (sets.filterMap fun set =>
    (set.metadata.labels.get? Labels.datacenterKey).map fun dc => (dc, set))

/-- The intents of declared datacenters in declared order, then those of datacenters that are no
longer declared, in the order of their names. -/
def ofStatefulSets (spec : Spec) (sets : List StatefulSet) : List Intent :=
  let byDc := byDatacenter sets
  (spec.datacenters.filterMap fun dc =>
      (byDc.get? dc.name).map fun set => of dc.name set (some dc.replicas)) ++
    (byDc.entries.filter fun e => !spec.declares e.1).map fun e => of e.1 e.2 none

end Intent

end RingOperator.Scaling
