import RingOperator.Dialogue
import RingOperator.Failure
import RingOperator.Seeding

/-!
# Exchange between regions

Each region tells its seeds and its readiness to its own prober, and asks the
probers of the other regions for theirs. What is asked and told is a dialogue;
the other regions are asked all at once, and the answers are joined in the
order of the regions.
-/

namespace RingOperator

namespace Regions

/-- What is told to the own prober and asked of others. -/
inductive Ask where
  | publishSeeds (seeds : List String)
  | publishReady (ready : Bool)
  | seedsOf (region : String)
  | readyOf (region : String)
  deriving DecidableEq

/-- What comes back. -/
@[reducible]
def Reply : Ask → Type
  | .publishSeeds _ => Outcome Unit
  | .publishReady _ => Outcome Unit
  | .seedsOf _ => Outcome (List String)
  | .readyOf _ => Outcome Bool

/-- A part of a pass that talks to the probers and may fail. -/
abbrev Exchange (α : Type) := ExceptT Failure (Dialogue Ask Reply) α

/-- Tells the own seeds. -/
def publishSeeds (seeds : List String) : Exchange Unit :=
  ExceptT.mk (Dialogue.once (Ask.publishSeeds seeds) : Dialogue Ask Reply (Outcome Unit))

/-- Tells the own readiness. -/
def publishReady (ready : Bool) : Exchange Unit :=
  ExceptT.mk (Dialogue.once (Ask.publishReady ready) : Dialogue Ask Reply (Outcome Unit))

/-- Asks every region of a list, whatever the others answer. -/
def askAll {α : Type} (ask : String → Dialogue Ask Reply α) :
    List String → Dialogue Ask Reply (List (String × α))
  | [] => .done []
  | region :: rest => do
    let answer ← ask region
    let answers ← askAll ask rest
    return (region, answer) :: answers

/-- The values of answers, or the first region without one. -/
def joined {α : Type} : List (String × Option α) → Outcome (List (String × α))
  | [] => .ok []
  | (region, none) :: _ => .error (.regionNotReady region)
  | (region, some value) :: rest => do
    let values ← joined rest
    return (region, value) :: values

/-- The readiness of a region, if it answers. -/
def readinessOf (region : String) : Dialogue Ask Reply (Option Bool) :=
  .ask (.readyOf region) fun answer => .done <| match answer with
    | .ok ready => some ready
    | .error _ => none

/-- The seeds of a region, if it answers and has any: without seeds nobody can join through
it. -/
def someSeedsOf (region : String) : Dialogue Ask Reply (Option (List String)) :=
  .ask (.seedsOf region) fun answer => .done <| match answer with
    | .ok [] => none
    | .ok seeds => some seeds
    | .error _ => none

/-- The readiness of each region. -/
def readiness (regions : List String) : Exchange (Table Bool) := do
  let answers ← (askAll readinessOf regions : Dialogue Ask Reply _)
  return Table.ofList (← (joined answers : Except Failure _))

/-- The seeds of each region, in the order of the regions. -/
def seeds (regions : List String) : Exchange (List (List String)) := do
  let answers ← (askAll someSeedsOf regions : Dialogue Ask Reply _)
  return (← (joined answers : Except Failure _)).map (·.2)

/-- The full seed list of a pass. The own seeds are told first, so that others see them before
the own bring-up is complete; then follow those of the managed regions and those of the
unmanaged ones, which only nodes on the network of their hosts can reach. -/
def allSeeds (spec : Spec) (cluster : Identity) (addresses : Table String) :
    Exchange (List String) := do
  let own := Seeding.localSeeds spec cluster addresses
  publishSeeds own
  if spec.hostPort.enabled then
    let others ← seeds (spec.managedRegions cluster)
    return own ++ others.flatten ++ spec.unmanaged.flatten
  else return own

end Regions

end RingOperator
