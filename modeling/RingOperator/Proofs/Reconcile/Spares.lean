import RingOperator.Proofs.Logs
import RingOperator.Proofs.Reconcile.Parts

/-!
# What a pass leaves alone

A pass lists objects, changes labels of pods, writes config maps, and changes or deletes
StatefulSets, and its tasks keep the records of their jobs in config maps. So whatever it finds
and is told, neither a pass (`asksOnly_reconcile`) nor a task (`asksOnly_order`, `asksOnly_onJobs`)
asks anything about the objects of clusters; only the status is written to them when the pass is
over.
-/

namespace RingOperator.Reconcile

open Dialogue
open Surroundings (onServer)

/-- A request that leaves the objects of clusters alone. -/
def Ask.SparesClusters : Ask → Prop
  | .api call => call.resource ≠ .clusters
  | _ => True

section

variable {around : Surroundings} {α : Type}

theorem asksOnly_onServer {x : Api.Exchange α}
    (only : x.run.AsksOnly fun call => call.resource ≠ .clusters) :
    (onServer x).run.AsksOnly Ask.SparesClusters :=
  AsksOnly.within (show x.run.AsksOnly fun call => Ask.SparesClusters (.api call) from only)

theorem asksOnly_call {decode : Json → Option α} {call : Api.Call}
    (spares : call.resource ≠ .clusters) :
    (Api.call decode call).run.AsksOnly fun call => call.resource ≠ .clusters :=
  ⟨spares, fun _ => trivial⟩

theorem asksOnly_getConfigMap (space name : String) :
    (Api.getConfigMap space name).run.AsksOnly fun call => call.resource ≠ .clusters :=
  ⟨nofun, fun _ => trivial⟩

theorem asksOnly_onProbers (x : Regions.Exchange α) :
    (around.onProbers x).run.AsksOnly Ask.SparesClusters :=
  (asksOnly_of_forall (fun _ => trivial) x.run).within

theorem spares_place (store : Api.JobStore) (request : Jobs.Ask) :
    (store.place request).resource ≠ .clusters := by
  cases request <;> exact nofun

theorem asksOnly_onAll (x : Scaling.Exchange α) :
    (around.onAll x).run.AsksOnly Ask.SparesClusters := by
  have spares (ask : Scaling.Ask) : (around.scalingPlace ask).SparesClusters := by
    cases ask with
    | job request => exact spares_place around.jobStore request
    | setReplicas | deleteSet => exact nofun
    | mode | ringView | launch => trivial
  exact (asksOnly_of_forall spares x.run).within

theorem asksOnly_count (event : Telemetry.Event) :
    (count event : Exchange Unit).run.AsksOnly Ask.SparesClusters :=
  ⟨trivial, fun _ => trivial⟩

/-- The action of a task is one request to a node. -/
theorem asksOnly_order (address : String) :
    (around.order address).run.AsksOnly Ask.SparesClusters :=
  ⟨trivial, fun _ => trivial⟩

/-- Whatever a task does to the records of jobs, it leaves the objects of clusters alone. -/
theorem asksOnly_onJobs (talk : Jobs.Talk α) :
    (around.onJobs talk).AsksOnly Ask.SparesClusters :=
  AsksOnly.within (AsksOnly.within (asksOnly_of_forall (spares_place around.jobStore) talk))

end

/-! ## The parts of a pass -/

variable {settings : Settings} {cluster : Cluster} {now : Instant} {around : Surroundings}
  {spec : Spec} {l : Listing}

theorem asksOnly_applyConfigMap (space : String) (draft : Api.Draft) :
    (onServer (Api.applyConfigMap space draft)).run.AsksOnly Ask.SparesClusters := by
  refine asksOnly_onServer ((asksOnly_getConfigMap _ _).bind_except fun found => ?_)
  cases found with
  | none => exact (asksOnly_call (by simp)).bind_except fun _ => asksOnly_pure _
  | some actual =>
    dsimp only
    split
    · exact (asksOnly_call (by simp)).bind_except fun _ => asksOnly_pure _
    · exact asksOnly_pure _

theorem asksOnly_relabel (space : String) (changes : List (String × Seeding.LabelChange)) :
    (relabel space changes).run.AsksOnly Ask.SparesClusters := by
  induction changes with
  | nil => exact asksOnly_pure _
  | cons change rest ih =>
    exact (asksOnly_onServer (asksOnly_call (by simp))).bind_except fun _ => ih

theorem asksOnly_list (spec : Spec) : (list around spec).run.AsksOnly Ask.SparesClusters := by
  refine (asksOnly_onServer (asksOnly_call (by simp))).bind_except fun pods => ?_
  refine (asksOnly_onServer (asksOnly_call (by simp))).bind_except fun sets => ?_
  refine AsksOnly.bind_except ?_ fun _ => asksOnly_pure _
  rw [listNodes]
  split
  · exact asksOnly_onServer (asksOnly_call (by simp))
  · exact asksOnly_pure _

theorem asksOnly_prepare : (prepare around spec l).run.AsksOnly Ask.SparesClusters := by
  refine (asksOnly_relabel _ _).bind_except fun _ => ?_
  dsimp only
  split
  · exact asksOnly_pure _
  refine AsksOnly.bind_except ?_ fun _ => asksOnly_pure _
  rw [writeFacts_eq]
  refine (asksOnly_onServer (asksOnly_getConfigMap _ _)).bind_except fun stored => ?_
  refine (asksOnly_onProbers _).bind_except fun facts => ?_
  refine AsksOnly.bind_except ?_ fun _ =>
    (asksOnly_count _).bind_except fun _ => asksOnly_pure _
  rw [record]
  split
  · exact (asksOnly_applyConfigMap _ _).bind_except fun _ => asksOnly_applyConfigMap _ _
  · exact asksOnly_applyConfigMap _ _

theorem asksOnly_tally (result : Scaling.Result) :
    (tally result).run.AsksOnly Ask.SparesClusters := by
  have completed : (if result.completed = 1 then count .completed else pure () :
      Exchange Unit).run.AsksOnly Ask.SparesClusters := by
    split
    · exact asksOnly_count _
    · exact asksOnly_pure _
  rw [tally]
  split
  · exact (asksOnly_count _).bind_except fun _ => completed
  · exact completed

/-- A pass leaves the objects of clusters alone until its status is written. -/
theorem asksOnly_reconcile :
    (reconcile settings cluster now).run.AsksOnly Ask.SparesClusters := by
  rw [reconcile_eq]
  refine asksOnly_bind_outcome fun _ => (asksOnly_list _).bind_except fun l => ?_
  refine asksOnly_prepare.bind_except fun facts => ?_
  rw [scale_eq]
  refine (asksOnly_onAll _).bind_except fun result => ?_
  exact (asksOnly_tally result).bind_except fun _ => asksOnly_pure _

end RingOperator.Reconcile
