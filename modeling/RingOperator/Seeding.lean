import RingOperator.Snapshot

/-!
# Seeds

The first ordinals of every datacenter are its seeds. How many follows from
the declaration (`seedCount`); which members carry the seed label is brought
in line with it by `labelChanges`, and `localSeeds` lists the seeds of the own
region as the nodes contact them.
-/

namespace RingOperator

namespace Seeding

/-- The number of seeds of a datacenter: never every node, unless there is a single node or
none. -/
def seedCount (target replicas : Int) : Int :=
  if replicas ≤ 1 then max replicas 0 else min target (replicas - 1)

/-- The ordinals below a number, in ascending order. -/
def ordinals (count : Int) : List Int := (List.range count.toNat).map Int.ofNat

/-- The datacenters of the seeds with their ordinals, datacenters in declared order. -/
def seedPlaces (spec : Spec) : List (String × Int) :=
  spec.datacenters.flatMap fun dc =>
    (ordinals (seedCount spec.numSeeds dc.replicas)).map fun i => (dc.name, i)

/-- The names of the pods that should be seeds. -/
def seedPods (spec : Spec) (cluster : String) : List String :=
  (seedPlaces spec).map fun place => Naming.pod cluster place.1 place.2

/-- What happens to the seed label of a pod. -/
inductive LabelChange where
  | add
  | remove
  deriving DecidableEq

/-- The change that a member needs, if its label disagrees with its name. -/
def changeFor (seeds : List String) (m : Member) : Option (String × LabelChange) :=
  match m.seed, seeds.contains m.name with
  | true, false => some (m.name, .remove)
  | false, true => some (m.name, .add)
  | _, _ => none

/-- The members whose seed label disagrees with their name, with the change that they need. -/
def labelChanges (spec : Spec) (cluster : String) (members : List Member) :
    List (String × LabelChange) :=
  members.filterMap (changeFor (seedPods spec cluster))

/-- The members with the label of the first member of a name changed. -/
def relabel (change : String × LabelChange) : List Member → List Member
  | [] => []
  | m :: rest =>
    if m.name = change.1 then { m with seed := change.2 = .add } :: rest
    else m :: relabel change rest

/-- The seeds of the own region: the host names of their pods or, for nodes on the network of
their hosts, their addresses. A seed that has no address yet is left out. -/
def localSeeds (spec : Spec) (cluster : Identity) (addresses : Table String) : List String :=
  (seedPlaces spec).filterMap fun (dc, i) =>
    if spec.hostPort.enabled then addresses.get? (Naming.pod cluster.name dc i)
    else some (Naming.podHost cluster.name cluster.space dc i)

end Seeding

/-- The snapshot with changes of seed labels applied, one after another. -/
def Snapshot.relabeled (s : Snapshot) (changes : List (String × Seeding.LabelChange)) :
    Snapshot :=
  { s with members := changes.foldl (fun ms change => Seeding.relabel change ms) s.members }

end RingOperator
