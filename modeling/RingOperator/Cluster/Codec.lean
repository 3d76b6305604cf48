import RingOperator.Cluster.Spec
import RingOperator.Json.Record

/-!
# Declarations as JSON

Everything but the datacenters of a declaration, the domain of a managed
region and the seeds of an unmanaged one may be missing. Counts have thirty-two
bits. Writing gives every field, defaults included.
-/

namespace RingOperator

open Json

/-- A count as a JSON value. -/
def count? : Json → Option Int := integerIn? (-2147483648) 2147483647

namespace Datacenter

/-- The datacenter that a JSON value gives. -/
def decode (value : Json) : Option Datacenter :=
  match value.parts? ["name", "replicas"] with
  | some [name, replicas] => do
    return { name := ← required text? name, replicas := ← required count? replicas }
  | _ => none

/-- The datacenter as a JSON value. -/
def encode (dc : Datacenter) : Json :=
  .object [("name", .text dc.name), ("replicas", .integer dc.replicas)]

end Datacenter

namespace ManagedRegion

/-- The managed region that a JSON value gives. -/
def decode (value : Json) : Option ManagedRegion :=
  match value.parts? ["domain", "namespace"] with
  | some [domain, space] => do
    return { domain := ← required text? domain, space := ← orNothing text? space }
  | _ => none

/-- The managed region as a JSON value. -/
def encode (region : ManagedRegion) : Json :=
  .object [("domain", .text region.domain), ("namespace", ofText? region.space)]

end ManagedRegion

namespace HostPort

/-- The exposure that a JSON value gives. -/
def decode (value : Json) : Option HostPort :=
  match value.parts? ["enabled", "useExternalHostIP"] with
  | some [enabled, useExternal] => do
    return {
      enabled := ← orDefault false bool? enabled
      useExternal := ← orDefault false bool? useExternal }
  | _ => none

/-- The exposure as a JSON value. -/
def encode (hostPort : HostPort) : Json :=
  .object [("enabled", .bool hostPort.enabled),
    ("useExternalHostIP", .bool hostPort.useExternal)]

end HostPort

namespace Spec

/-- The number of seeds, and whether zones are racks. -/
def decodeNodes (value : Json) : Option (Int × Bool) :=
  match value.parts? ["numSeeds", "zonesAsRacks"] with
  | some [numSeeds, zonesAsRacks] => do
    return (← orDefault 2 count? numSeeds, ← orDefault false bool? zonesAsRacks)
  | _ => none

/-- The domain of an ingress. -/
def decodeIngress (value : Json) : Option String :=
  match value.parts? ["domain"] with
  | some [domain] => orDefault "" text? domain
  | _ => none

/-- The seeds of an unmanaged region. -/
def decodeSeeds (value : Json) : Option (List String) :=
  match value.parts? ["seeds"] with
  | some [seeds] => required (list? text?) seeds
  | _ => none

/-- The managed and the unmanaged regions. -/
def decodeRegions (value : Json) : Option (List ManagedRegion × List (List String)) :=
  match value.parts? ["managed", "unmanaged"] with
  | some [managed, unmanaged] => do
    return (← orDefault [] (list? ManagedRegion.decode) managed,
      ← orDefault [] (list? decodeSeeds) unmanaged)
  | _ => none

/-- The declaration that a JSON value gives. -/
def decode (value : Json) : Option Spec :=
  match value.parts? ["dcs", "cassandra", "hostPort", "ingress", "externalRegions"] with
  | some [dcs, nodes, hostPort, ingress, regions] => do
    let datacenters ← required (list? Datacenter.decode) dcs
    let (numSeeds, zonesAsRacks) ← orDefault (2, false) decodeNodes nodes
    let hostPort ← orDefault {} HostPort.decode hostPort
    let domain ← orDefault "" decodeIngress ingress
    let (managed, unmanaged) ← orDefault ([], []) decodeRegions regions
    return { datacenters, numSeeds, zonesAsRacks, hostPort, domain, managed, unmanaged }
  | _ => none

/-- The declaration as a JSON value. -/
def encode (spec : Spec) : Json :=
  .object [
    ("dcs", .array (spec.datacenters.map Datacenter.encode)),
    ("cassandra", .object [("numSeeds", .integer spec.numSeeds),
      ("zonesAsRacks", .bool spec.zonesAsRacks)]),
    ("hostPort", spec.hostPort.encode),
    ("ingress", .object [("domain", .text spec.domain)]),
    ("externalRegions", .object [
      ("managed", .array (spec.managed.map ManagedRegion.encode)),
      ("unmanaged", .array (spec.unmanaged.map fun seeds =>
        .object [("seeds", .array (seeds.map .text))]))])]

end Spec

end RingOperator
