import RingOperator.Failure
import RingOperator.Naming

/-!
# The declared cluster

What a cluster is declared to be in one region: its datacenters in the order
in which they are brought up, how many seeds each has, how its nodes are
exposed, and the other regions that it spans. `Spec.check` refuses declarations
that cannot be reached.
-/

namespace RingOperator

/-- A named group of nodes that is scaled on its own. -/
structure Datacenter where
  name : String
  replicas : Int
  deriving DecidableEq

/-- How nodes are exposed to other regions. -/
structure HostPort where
  /-- Nodes use the network of their host. -/
  enabled : Bool := false
  /-- Nodes advertise the external address of their host instead of the internal one. -/
  useExternal : Bool := false
  deriving DecidableEq

/-- A region that another instance of this operator looks after. -/
structure ManagedRegion where
  /-- The ingress domain of the region's prober. -/
  domain : String
  /-- The namespace of the cluster in that region, if it differs from the own one. -/
  space : Option String := none
  deriving DecidableEq

/-- A cluster as it is declared in one region. -/
structure Spec where
  /-- The datacenters in the order in which they are brought up. -/
  datacenters : List Datacenter
  /-- How many seeds a datacenter should have. -/
  numSeeds : Int := 2
  /-- Whether the zone of a node's host is the node's rack. -/
  zonesAsRacks : Bool := false
  hostPort : HostPort := {}
  /-- The ingress domain of the own prober. -/
  domain : String := ""
  managed : List ManagedRegion := []
  /-- The seeds of each region that nobody looks after. -/
  unmanaged : List (List String) := []
  deriving DecidableEq

namespace Spec

/-- Refuses the first datacenter that is declared before, has a negative count or more seeds
than nodes, where a single seed may be the single node. -/
def checkDatacenters (numSeeds : Int) (seen : List String) : List Datacenter → Outcome Unit
  | [] => .ok ()
  | dc :: rest =>
    if dc.name ∈ seen then
      .error (.invariant ("dc " ++ dc.name ++ " is declared more than once"))
    else if dc.replicas < 0 then
      .error (.invariant ("number of replicas can't be negative for dc " ++ dc.name))
    else if numSeeds > dc.replicas ∧ ¬ (numSeeds = 1 ∧ dc.replicas = 1) then
      .error (.invariant ("number of seeds (" ++ Text.Numeral.ofInt numSeeds ++
        ") is greater than number of replicas (" ++ Text.Numeral.ofInt dc.replicas ++
        ") for dc " ++ dc.name))
    else checkDatacenters numSeeds (dc.name :: seen) rest

/-- Refuses declarations that cannot be reached: faulty datacenters, and managed regions
without a domain. -/
def check (spec : Spec) : Outcome Unit := do
  checkDatacenters spec.numSeeds [] spec.datacenters
  if spec.managed.any fun region => region.domain = "" then
    .error (.invariant "managed region must have a domain")
  else .ok ()

/-- Whether the own bring-up waits for other regions. -/
def multiRegion (spec : Spec) : Bool := spec.hostPort.enabled && !spec.managed.isEmpty

/-- The declared datacenter of a name, the first one. -/
def datacenter? (spec : Spec) (name : String) : Option Datacenter :=
  spec.datacenters.find? fun dc => dc.name = name

/-- Whether a datacenter of the name is declared. -/
def declares (spec : Spec) (name : String) : Bool :=
  spec.datacenters.any fun dc => dc.name = name

/-- The identifier of the own region. -/
def localRegion (spec : Spec) (cluster : Identity) : String :=
  Naming.region cluster.name cluster.space spec.domain

/-- The identifiers of the managed regions with a domain, in declared order. -/
def managedRegions (spec : Spec) (cluster : Identity) : List String :=
  (spec.managed.filter fun region => region.domain ≠ "").map fun region =>
    Naming.region cluster.name (region.space.getD cluster.space) region.domain

end Spec

end RingOperator
