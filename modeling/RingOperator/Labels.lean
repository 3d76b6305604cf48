import RingOperator.Table

/-!
# Labels

The labels by which the objects of a cluster are found and told apart.
-/

namespace RingOperator.Labels

/-- The cluster that an object belongs to. -/
def instanceKey : String := "cassandra-cluster-instance"

/-- The component of the cluster that an object belongs to. -/
def componentKey : String := "cassandra-cluster-component"

/-- The datacenter that an object belongs to. -/
def datacenterKey : String := "cassandra-cluster-dc"

/-- Carried by the pods that are seeds. -/
def seedKey : String := "cassandra-cluster-seed"

/-- Carried by the config maps that are job records. -/
def jobKey : String := "cassandra-cluster-job"

/-- The zone of a node. -/
def zoneKey : String := "topology.kubernetes.io/zone"

/-- The component of the database nodes. -/
def cassandra : String := "cassandra"

/-- The labels of every object of a component. -/
def ofComponent (cluster component : String) : Table String :=
  Table.ofList [(instanceKey, cluster), (componentKey, component),
    ("app.kubernetes.io/managed-by", "cassandra-operator")]

/-- The selector of the database nodes of a cluster. -/
def selector (cluster : String) : String :=
  instanceKey ++ "=" ++ cluster ++ "," ++ componentKey ++ "=" ++ cassandra

end RingOperator.Labels
