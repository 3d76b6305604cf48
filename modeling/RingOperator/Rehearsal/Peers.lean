import RingOperator.Regions

/-!
# Rehearsed regions

Other regions that answer the same throughout a pass, and a prober that notes
what it is told. A region that is not known does not answer.

With them a pass can be run as it is, without other regions. What is proved of
passes is proved for every log of replies, so no theorem is about these probers.
-/

namespace RingOperator.Rehearsal

/-- What the probers answer. -/
structure Peers where
  seeds : Table (List String) := Table.empty
  ready : Table Bool := Table.empty
  /-- Telling the own seeds fails. -/
  refusesSeeds : Bool := false
  /-- Telling the own readiness fails. -/
  refusesReady : Bool := false

/-- What the own prober was told, in order. -/
structure Published where
  seeds : List (List String) := []
  ready : List Bool := []

namespace Peers

/-- The failure of a region that cannot be reached. -/
def unreachable (region : String) : Failure := .gateway region "unreachable"

/-- Serves one request. A refused publication has been told all the same. -/
def serve (peers : Peers) : (request : Regions.Ask) → Published → Regions.Reply request × Published
  | .publishSeeds seeds, log =>
    (if peers.refusesSeeds then .error (unreachable "local") else .ok (),
      { log with seeds := log.seeds ++ [seeds] })
  | .publishReady ready, log =>
    (if peers.refusesReady then .error (unreachable "local") else .ok (),
      { log with ready := log.ready ++ [ready] })
  | .seedsOf region, log =>
    (match peers.seeds.get? region with
      | some seeds => .ok seeds
      | none => .error (unreachable region), log)
  | .readyOf region, log =>
    (match peers.ready.get? region with
      | some ready => .ok ready
      | none => .error (unreachable region), log)

/-- Plays an exchange against the regions. -/
def play {α : Type} (peers : Peers) (exchange : Regions.Exchange α) : Outcome α × Published :=
  Dialogue.run peers.serve exchange.run {}

end Peers

end RingOperator.Rehearsal
