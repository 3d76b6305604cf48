import RingOperator.Text.Numeral

/-!
# Names of the objects of a cluster

Every object that the operator reads or writes has a name that follows from
the cluster it belongs to. The ordinal of a pod can be read back from its name.
-/

namespace RingOperator

/-- A cluster, by its name and the namespace that holds it. The name is the same in all regions. -/
structure Identity where
  name : String
  /-- The namespace of the cluster in this region. -/
  space : String
  deriving DecidableEq

namespace Naming

open Text (Numeral.ofInt Numeral.signed)

/-- The StatefulSet of a datacenter, and the service in front of it. -/
def datacenter (cluster dc : String) : String := cluster ++ "-cassandra-" ++ dc

/-- The pod of a datacenter with an ordinal. -/
def pod (cluster dc : String) (ordinal : Int) : String :=
  datacenter cluster dc ++ "-" ++ Numeral.ofInt ordinal

/-- The host name of a pod inside the Kubernetes cluster. -/
def podHost (cluster space dc : String) (ordinal : Int) : String :=
  let service := datacenter cluster dc
  service ++ "-" ++ Numeral.ofInt ordinal ++ "." ++ service ++ "." ++ space ++
    ".svc.cluster.local"

/-- The config map with the start-up entries of the pods. -/
def startEntries (cluster : String) : String := cluster ++ "-pods-config"

/-- The config map with the last known address of each pod. -/
def addressMemory (cluster : String) : String := cluster ++ "-pod-ips"

/-- The host under which a region's prober is reached. It identifies the region. -/
def region (cluster space domain : String) : String :=
  space ++ "-" ++ cluster ++ "-cassandra-prober." ++ domain

/-- The job that drains a pod. -/
def job (pod : String) : String := "pod-decommission-" ++ pod

/-- The greatest ordinal. -/
def greatestOrdinal : Int := 2147483647

/-- The ordinal at the end of a pod's name: the number after the last dash, if there is one. -/
def ordinal? (pod : String) : Option Int :=
  let reversed := pod.toList.reverse
  let last := (reversed.takeWhile (· ≠ '-')).reverse
  if reversed.contains '-' then
    match Numeral.signed last with
    | some n => if n ≤ greatestOrdinal then some n else none
    | none => none
  else none

end Naming

end RingOperator
