import RingOperator.Cluster.Spec
import RingOperator.Objects

/-!
# Snapshots of a cluster

A `Snapshot` is what one pass knows about the own region: the members that
exist, in the order of their names, and for each declared datacenter how many
nodes it should have and how many are ready. It is rebuilt in every pass from
the pods and StatefulSets of the API server.
-/

namespace RingOperator

/-- One node of the database. -/
structure Member where
  name : String
  uid : String := ""
  /-- The datacenter that the node belongs to. -/
  dc : String
  ordinal : Int := 0
  /-- The address of the pod, once it has one. -/
  podIp : Option String := none
  /-- The host of the pod, once it has one. -/
  nodeName : Option String := none
  /-- Whether every container is ready, and there is one. -/
  ready : Bool := false
  /-- Whether the pod carries the seed label. -/
  seed : Bool := false
  deriving DecidableEq, Inhabited

/-- How many nodes a datacenter should have and how many are ready. -/
structure DatacenterCount where
  name : String
  desired : Int
  /-- Nothing while the datacenter has no StatefulSet. -/
  ready : Option Int
  deriving DecidableEq

/-- A text that is not empty. -/
def nonEmpty (text : String) : Option String := if text = "" then none else some text

/-- The member that a pod is: it has a datacenter label, and a name that ends in an ordinal. -/
def Member.ofPod? (pod : Pod) : Option Member := do
  let dc ← pod.metadata.labels.get? Labels.datacenterKey
  let ordinal ← Naming.ordinal? pod.metadata.name
  return {
    name := pod.metadata.name
    uid := pod.metadata.uid.getD ""
    dc, ordinal
    podIp := pod.podIp.bind nonEmpty
    nodeName := pod.nodeName.bind nonEmpty
    ready := match pod.containersReady with
      | none => false
      | some containers => !containers.isEmpty && containers.all id
    seed := pod.metadata.labels.contains Labels.seedKey }

/-- Whether exactly the desired number of nodes is ready. -/
def DatacenterCount.isReady (dc : DatacenterCount) : Bool := dc.ready == some dc.desired

/-- What a pass knows about the own region. -/
structure Snapshot where
  /-- The members in the order of their names. -/
  members : List Member
  /-- The declared datacenters in declared order. -/
  datacenters : List DatacenterCount
  deriving DecidableEq, Inhabited

namespace Snapshot

/-- A member put into its place among members: before the first one whose name is not smaller. -/
def insertMember (m : Member) : List Member → List Member
  | [] => [m]
  | other :: rest =>
    if other.name < m.name then other :: insertMember m rest else m :: other :: rest

/-- Members in the order of their names; those of one name keep their order. -/
def arrange (members : List Member) : List Member := members.foldr insertMember []

/-- The snapshot of some members and datacenters. -/
def of (members : List Member) (datacenters : List DatacenterCount) : Snapshot :=
  ⟨arrange members, datacenters⟩

/-- The number of ready nodes of each StatefulSet, the last one of a name. -/
def readyCounts (statefulSets : List StatefulSet) : Table Int :=
  Table.ofList (statefulSets.map fun set => (set.metadata.name, set.readyReplicas.getD 0))

/-- The counts of the declared datacenters. -/
def countsOf (spec : Spec) (cluster : String) (statefulSets : List StatefulSet) :
    List DatacenterCount :=
  spec.datacenters.map fun dc =>
    ⟨dc.name, dc.replicas, (readyCounts statefulSets).get? (Naming.datacenter cluster dc.name)⟩

/-- The snapshot of the objects that the API server lists. -/
def ofObjects (spec : Spec) (cluster : String) (pods : List Pod)
    (statefulSets : List StatefulSet) : Snapshot :=
  of (pods.filterMap Member.ofPod?) (countsOf spec cluster statefulSets)

/-- The first member of a name. -/
def member? (s : Snapshot) (name : String) : Option Member :=
  s.members.find? fun m => m.name = name

/-- Whether no member exists. -/
def isEmpty (s : Snapshot) : Bool := s.members.isEmpty

/-- The members of a datacenter. -/
def membersOf (s : Snapshot) (dc : String) : List Member :=
  s.members.filter fun m => m.dc = dc

/-- The datacenters that are not ready, in declared order. -/
def unready (s : Snapshot) : List String :=
  (s.datacenters.filter fun dc => !dc.isReady).map (·.name)

/-- Whether every datacenter is ready. -/
def regionReady (s : Snapshot) : Bool := s.unready.isEmpty

/-- How many members are ready. -/
def readyMembers (s : Snapshot) : Nat := s.members.countP (·.ready)

/-- Whether every seed of a datacenter is ready. A snapshot without members has no ready seeds. -/
def seedsReady (s : Snapshot) (dc : String) : Bool :=
  !s.isEmpty && ((s.membersOf dc).filter (·.seed)).all (·.ready)

/-- The first member of a datacenter that is neither ready nor a seed. -/
def nextNonSeed (s : Snapshot) (dc : String) : Option Member :=
  (s.membersOf dc).find? fun m => !m.seed && !m.ready

end Snapshot

end RingOperator
