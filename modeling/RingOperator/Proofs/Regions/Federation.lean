import Mathlib.Logic.Function.Basic
import RingOperator.Pass
import RingOperator.Proofs.Logs

/-!
# Regions side by side

The regions of one cluster, each looked after by an operator of its own. The
state of a region (`Region`) is what its snapshot would show, what its prober was
told, the plan of its latest pass that succeeded, and the pass under way. The
passes of all regions interleave at every single request (`Step`): a pass is a
dialogue that has come some way, and answers of other regions may come in any
order, each at a moment of its own.
-/

namespace RingOperator.Regions

open Dialogue Function

variable {ι : Type}

/-- The regions of one cluster: nodes use the network of their hosts, the identifiers differ, and
    every region manages all the others. -/
structure Federation (ι : Type) where
  spec : ι → Spec
  cluster : ι → Identity
  exposed : ∀ i, (spec i).hostPort.enabled = true
  distinct : Injective fun i => (spec i).localRegion (cluster i)
  managed : ∀ i region, region ∈ (spec i).managedRegions (cluster i) ↔
    ∃ j, j ≠ i ∧ region = (spec j).localRegion (cluster j)

/-- The identifier of a region. -/
def Federation.name (f : Federation ι) (i : ι) : String := (f.spec i).localRegion (f.cluster i)

/-- A pass under way. -/
structure Underway where
  /-- What the pass started from. -/
  seen : Snapshot
  directory : Directory
  memory : Table String
  /-- The requests so far, with their replies. -/
  asked : List (Entry Reply)
  /-- What is left of the pass. -/
  rest : Dialogue Ask Reply (Outcome PassFacts)
  /-- The readiness of other regions, as far as they have answered. -/
  heard : String → Option (Outcome Bool)

/-- The pass of a region from its beginning. -/
def Federation.start (f : Federation ι) (i : ι) (seen : Snapshot) (directory : Directory)
    (memory : Table String) : Underway where
  seen
  directory
  memory
  asked := []
  rest := (Pass.facts (f.spec i) (f.cluster i) seen directory memory).run
  heard _ := none

/-- The pass after a reply to its next request. -/
def Underway.replied (p : Underway) (request : Ask) (reply : Reply request)
    (rest : Dialogue Ask Reply (Outcome PassFacts)) : Underway :=
  { p with asked := p.asked ++ [⟨request, reply⟩], rest }

/-- The state of a region. -/
structure Region where
  /-- What a snapshot would show. -/
  now : Snapshot
  /-- The readiness that the prober was told last. -/
  told : Option Bool := none
  /-- The plan of the latest pass that succeeded. -/
  plan : Option Plan := none
  /-- The pass under way. -/
  pass : Option Underway := none

/-- The state of all regions. -/
abbrev World (ι : Type) := ι → Region

/-- A prober answers with what it was told last. It fails before it was told anything, and it may
    fail at any time. -/
def Answers (told : Option Bool) (reply : Outcome Bool) : Prop :=
  ∀ ready, reply = .ok ready → told = some ready

/-- How the next request of a pass is replied to, and what the own prober was told last
    afterwards. Seeds are exchanged in any way; readiness that is refused may have been told or
    not; and a region that is asked for its readiness has answered by now. -/
inductive Served (r : Region) (p : Underway) : (request : Ask) → Reply request → Option Bool → Prop
  | seedsTold (seeds : List String) (reply : Outcome Unit) :
      Served r p (.publishSeeds seeds) reply r.told
  | seedsAsked (region : String) (reply : Outcome (List String)) :
      Served r p (.seedsOf region) reply r.told
  | readyTold (ready : Bool) : Served r p (.publishReady ready) (.ok ()) (some ready)
  | readyRefused {ready : Bool} (failure : Failure) {told : Option Bool}
      (h : told = r.told ∨ told = some ready) :
      Served r p (.publishReady ready) (.error failure) told
  | readyAsked {region : String} {reply : Outcome Bool} (h : p.heard region = some reply) :
      Served r p (.readyOf region) reply r.told

variable [DecidableEq ι]

/-- What can happen next. -/
inductive Step (f : Federation ι) (w : World ι) : World ι → Prop
  /-- A region changes, but does not cease to be ready. -/
  | change (i : ι) (s : Snapshot)
      (h : (w i).now.regionReady = true → s.regionReady = true) :
      Step f w (update w i { w i with now := s })
  /-- A region begins a pass over what it sees. -/
  | begin (i : ι) (directory : Directory) (memory : Table String) :
      Step f w (update w i { w i with pass := f.start i (w i).now directory memory })
  /-- Another region answers a pass. -/
  | hear {i j : ι} {p : Underway} {reply : Outcome Bool} (pass : (w i).pass = some p) (peer : j ≠ i)
      (answer : Answers (w j).told reply) :
      Step f w (update w i { w i with
        pass := some { p with heard := update p.heard (f.name j) (some reply) } })
  /-- A pass goes on by one request. -/
  | ask {i : ι} {p : Underway} {request : Ask}
      {next : Reply request → Dialogue Ask Reply (Outcome PassFacts)} {reply : Reply request}
      {told : Option Bool} (pass : (w i).pass = some p) (asks : p.rest = .ask request next)
      (served : Served (w i) p request reply told) :
      Step f w (update w i { w i with told, pass := some (p.replied request reply (next reply)) })
  /-- A pass succeeds. -/
  | succeed {i : ι} {p : Underway} {facts : PassFacts} (pass : (w i).pass = some p)
      (ends : p.rest = .done (.ok facts)) :
      Step f w (update w i { w i with plan := some facts.plan, pass := none })
  /-- A pass fails or is given up. -/
  | abandon (i : ι) : Step f w (update w i { w i with pass := none })

/-- The states that can come about, if at first no prober was told anything. -/
inductive Reachable (f : Federation ι) : World ι → Prop
  | start (now : ι → Snapshot) : Reachable f fun i => { now := now i }
  | step {w w' : World ι} (h : Reachable f w) (step : Step f w w') : Reachable f w'

end RingOperator.Regions
