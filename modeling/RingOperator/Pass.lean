import RingOperator.StartSheet

/-!
# One pass over a snapshot

Everything that a pass derives from a snapshot, in the order in which it is
derived: addresses, seeds, the readiness that other regions see, the plan, the
decisions, the memory of addresses and the start-up entries. Any failure ends
the pass, and nothing of it is kept.
-/

namespace RingOperator

/-- What one pass derives. -/
structure PassFacts where
  /-- The address of each member. -/
  addresses : Table String
  /-- The seeds that every node gets. -/
  seeds : List String
  plan : Plan
  decisions : Table Decision
  /-- The address that each pod was last ready with. -/
  memory : Table String
  sheet : StartSheet

namespace Pass

/-- The facts of a pass. The own seeds are told before other regions are asked for theirs, and
the own readiness before others are asked for it. -/
def facts (spec : Spec) (cluster : Identity) (s : Snapshot) (directory : Directory)
    (memory : Table String) : Regions.Exchange PassFacts := do
  let addresses ← (directory.addresses s.members : Outcome _)
  let seeds ← Regions.allSeeds spec cluster addresses
  Regions.publishReady s.regionReady
  let plan ← Plan.make spec cluster s
  let decisions := plan.decisions s
  let memory := StartSheet.remember memory s addresses
  let sheet ← (StartSheet.build spec s directory addresses seeds decisions memory : Outcome _)
  return { addresses, seeds, plan, decisions, memory, sheet }

end Pass

end RingOperator
