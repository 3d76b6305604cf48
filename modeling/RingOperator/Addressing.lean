import RingOperator.Snapshot

/-!
# Addresses of members

The address under which other nodes and regions reach a member: that of its
pod or, for nodes on the network of their hosts, the internal or external
address of the host.
-/

namespace RingOperator

/-- Addresses and zone of a host. -/
structure Host where
  internal : Option String := none
  external : Option String := none
  zone : Option String := none
  deriving DecidableEq

/-- The host that a node is: its first address of each kind, and its zone label. -/
def Host.ofNode (node : Node) : Host where
  internal := node.addresses.lookup "InternalIP"
  external := node.addresses.lookup "ExternalIP"
  zone := node.metadata.labels.get? Labels.zoneKey

/-- The known hosts, and how nodes are exposed on them. -/
structure Directory where
  hostPort : HostPort := {}
  hosts : Table Host := Table.empty

namespace Directory

/-- The directory of the nodes that the API server lists; of two nodes of one name the last one
counts. -/
def ofNodes (hostPort : HostPort) (nodes : List Node) : Directory :=
  ⟨hostPort, Table.ofList (nodes.map fun node => (node.metadata.name, Host.ofNode node))⟩

/-- The host of a member. A host that is not known counts as not observed yet. -/
def host (d : Directory) (m : Member) : Outcome Host :=
  match m.nodeName with
  | none => .error (.podNotScheduled m.name)
  | some node =>
    match d.hosts.get? node with
    | none => .error (.podNotScheduled (m.name ++ " (node " ++ node ++ " unknown)"))
    | some host => .ok host

/-- The address of a member. -/
def address (d : Directory) (m : Member) : Outcome String :=
  if d.hostPort.enabled then do
    let host ← d.host m
    match if d.hostPort.useExternal then host.external else host.internal with
    | some address => .ok address
    | none => .error (.invariant ("node " ++ m.nodeName.getD "" ++ " of pod " ++ m.name ++
        " has no " ++ (if d.hostPort.useExternal then "external" else "internal") ++
        " address"))
  else
    match m.podIp with
    | some address => .ok address
    | none => .error (.podNotScheduled m.name)

/-- The zone of a member's host. -/
def zone (d : Directory) (m : Member) : Outcome (Option String) := do
  return (← d.host m).zone

/-- The addresses of members, each under its name; the first one without address fails. -/
def addresses (d : Directory) : List Member → Outcome (Table String)
  | members => do
    return Table.ofList (← members.mapM fun m => do return (m.name, ← d.address m))

end Directory

end RingOperator
