import RingOperator.Addressing
import RingOperator.Bringup

/-!
# Start-up entries

What a node reads before it starts: whether to wait and why, under which
addresses to appear, which seeds to contact, and where it was before. The
facts of all members are a `StartSheet`; it is written into a config map with
one entry for each pod instance, a list of exports for a shell.
-/

namespace RingOperator

/-- What a node needs to know about itself. -/
structure PodFacts where
  /-- The instance of the pod. -/
  uid : String
  decision : Decision
  /-- The address that other nodes and regions use. -/
  broadcast : String
  /-- The address that clients use. -/
  rpc : String
  /-- The address that the node was last ready with; empty if it never was. -/
  previous : String
  seeds : List String
  rack : Option String
  snitch : Option String
  deriving DecidableEq

/-- The facts of every member, under its name. -/
abbrev StartSheet := Table PodFacts

/-- The snitch of nodes that know their rack. -/
def rackSnitch : String := "GossipingPropertyFileSnitch"

namespace PodFacts

/-- The name of the entry of a pod instance. It holds the instance, so that a pod that is
created anew never reads the entry of its predecessor. -/
def entryName (facts : PodFacts) (pod : String) : String := pod ++ "_" ++ facts.uid ++ ".sh"

/-- A line that exports a variable. -/
def exportLine (name value : String) : String := "export " ++ name ++ "=" ++ value ++ "\n"

/-- A line for a value, if there is one. -/
def optionalLine (name : String) : Option String → String
  | none => ""
  | some value => exportLine name value

/-- Whether the node has to wait, as a word. -/
def pauseWord (decision : Decision) : String := if decision.isPaused then "true" else "false"

/-- The entry of a pod. -/
def render (facts : PodFacts) : String :=
  optionalLine "CASSANDRA_RACK" facts.rack ++
  optionalLine "CASSANDRA_ENDPOINT_SNITCH" facts.snitch ++
  exportLine "CASSANDRA_BROADCAST_ADDRESS" facts.broadcast ++
  exportLine "CASSANDRA_BROADCAST_RPC_ADDRESS" facts.rpc ++
  exportLine "CASSANDRA_SEEDS" (String.intercalate "," facts.seeds) ++
  exportLine "CASSANDRA_NODE_PREVIOUS_IP" facts.previous ++
  exportLine "PAUSE_INIT" (pauseWord facts.decision) ++
  exportLine "PAUSE_REASON" ("\"" ++ facts.decision.text ++ "\"")

end PodFacts

namespace StartSheet

/-- The entry of a table that is not empty. -/
def filled? (table : Table String) (key : String) : Option String :=
  (table.get? key).bind nonEmpty

/-- The facts of one member. -/
def factsOf (spec : Spec) (directory : Directory) (addresses : Table String)
    (seeds : List String) (decisions : Table Decision) (memory : Table String) (m : Member) :
    Outcome PodFacts := do
  let rpc ← match m.podIp with
    | some address => Except.ok address
    | none => .error (.podNotScheduled m.name)
  let broadcast ← match filled? addresses m.name with
    | some address => Except.ok address
    | none => .error (.podNotScheduled m.name)
  let decision ← match decisions.get? m.name with
    | some decision => Except.ok decision
    | none => .error (.invariant ("no init decision for pod " ++ m.name))
  let rack ← if spec.zonesAsRacks then
      (directory.zone m).map fun zone => some (zone.getD "")
    else Except.ok none
  return {
    uid := m.uid, decision, broadcast, rpc
    previous := (memory.get? m.name).getD ""
    seeds, rack
    snitch := if spec.zonesAsRacks then some rackSnitch else none }

/-- The facts of all members, or of none: the first member without an address fails. -/
def build (spec : Spec) (s : Snapshot) (directory : Directory) (addresses : Table String)
    (seeds : List String) (decisions : Table Decision) (memory : Table String) :
    Outcome StartSheet := do
  return Table.ofList (← s.members.mapM fun m => do
    return (m.name, ← factsOf spec directory addresses seeds decisions memory m))

/-- The entries of the config map. -/
def render (sheet : StartSheet) : Table String :=
  Table.ofList (sheet.entries.map fun e => (e.2.entryName e.1, e.2.render))

/-- The memory of addresses after a pass: every ready member is entered with its address, and
what is known of others stays, so that a node that comes back finds where it was. -/
def remember (memory : Table String) (s : Snapshot) (addresses : Table String) : Table String :=
  (s.members.filter (·.ready)).foldl (fun memory m =>
    match filled? addresses m.name with
    | some address => memory.insert m.name address
    | none => memory) memory

end StartSheet

end RingOperator
