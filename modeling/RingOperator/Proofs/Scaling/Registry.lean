import Mathlib.Logic.Function.Basic
import RingOperator.Api.Server
import RingOperator.Api.Stores

/-!
# StatefulSets and their versions

A `Registry` is what the API server amounts to, as far as its promises about
StatefulSets go: the StatefulSets, and all that has happened to them
(`Registry.history`). Every write gives a StatefulSet a version that it has never
had. A patch or a deletion that carries a version is made only while the
StatefulSet has that version (`Registry.Answers`), and the writes of a scaling
step carry the versions that it gives (`Registry.Serves`). So a write of a scaling
step changes a StatefulSet only under the version that it was asked for
(`Registry.Serves.of_ne`).
-/

namespace RingOperator.Scaling

open Function

/-- A StatefulSet was written under a version, or removed. -/
structure Change where
  statefulSet : String
  version : Option String
  deriving DecidableEq

/-- The StatefulSets of a namespace under their names, and what has happened to them. -/
structure Registry where
  sets : String → Option StatefulSet
  history : List Change
  /-- A StatefulSet is kept under its name. -/
  named : ∀ name set, sets name = some set → set.metadata.name = name
  /-- The version of a StatefulSet is one under which it was written. -/
  versioned : ∀ name set, sets name = some set →
    ∃ version, set.metadata.version = some version ∧ ⟨name, some version⟩ ∈ history

/-- A StatefulSet under another version. -/
def stamped (set : StatefulSet) (version : String) : StatefulSet :=
  { set with metadata := { set.metadata with version := some version } }

namespace Registry

/-- How many nodes the StatefulSet of a name shall have. A count that is not given is one. -/
def count? (r : Registry) (name : String) : Option Int :=
  (r.sets name).map fun set => set.replicas.getD 1

/-- The version of the StatefulSet of a name. -/
def version? (r : Registry) (name : String) : Option String :=
  (r.sets name).bind (·.metadata.version)

/-- There are no StatefulSets, and there never were any. -/
def empty : Registry := ⟨fun _ => none, [], by simp, by simp⟩

/-- A StatefulSet written under a version. -/
def write (r : Registry) (set : StatefulSet) (version : String) : Registry where
  sets := update r.sets set.metadata.name (some (stamped set version))
  history := r.history ++ [⟨set.metadata.name, some version⟩]
  named name set' h := by
    rw [update_apply] at h
    split at h
    · cases h
      symm
      assumption
    · exact r.named name set' h
  versioned name set' h := by
    rw [update_apply] at h
    split at h
    · rename_i same
      cases h
      exact ⟨version, rfl, by simp [same]⟩
    · obtain ⟨version', given, before⟩ := r.versioned name set' h
      exact ⟨version', given, List.mem_append_left _ before⟩

/-- A StatefulSet removed. Its versions stay used up. -/
def erase (r : Registry) (name : String) : Registry where
  sets := update r.sets name none
  history := r.history ++ [⟨name, none⟩]
  named other set h := by
    rw [update_apply] at h
    split at h
    · cases h
    · exact r.named other set h
  versioned other set h := by
    rw [update_apply] at h
    split at h
    · cases h
    · obtain ⟨version, given, before⟩ := r.versioned other set h
      exact ⟨version, given, List.mem_append_left _ before⟩

variable {r r' : Registry} {space name version : String} {set : StatefulSet}

theorem sets_write (name : String) : (r.write set version).sets name =
    if name = set.metadata.name then some (stamped set version) else r.sets name :=
  update_apply ..

theorem sets_erase (other : String) :
    (r.erase name).sets other = if other = name then none else r.sets other :=
  update_apply ..

/-- What can happen to the StatefulSets at once: nothing, a write under a new version, or a
    removal. -/
inductive Becomes (r : Registry) : Registry → Prop
  | same : Becomes r r
  | written (set : StatefulSet) {version : String}
      (new : ⟨set.metadata.name, some version⟩ ∉ r.history) : Becomes r (r.write set version)
  | erased (name : String) : Becomes r (r.erase name)

theorem Becomes.length_le (h : r.Becomes r') : r.history.length ≤ r'.history.length := by
  cases h with
  | same => exact Nat.le_refl _
  | written | erased => simp [write, erase]

/-- The count that a patch of a StatefulSet sets, if it sets one. -/
def patchedCount? (call : Api.Call) : Option Int :=
  match ((call.body.getD .null).present? "spec").bind (·.present? "replicas") with
  | some (.integer count) => some count
  | _ => none

/-- The version on which a call insists, if it does, is the one of the StatefulSet. -/
def Meets (call : Api.Call) (set : StatefulSet) : Prop :=
  ∀ version, Api.Server.demanded? call = some version → set.metadata.version = some version

/-- How the API server answers the patch or the deletion of a StatefulSet, and what it holds
    then. It may refuse a call for any reason. If it does what it is asked for, the answer may still
    be lost. -/
inductive Answers (r : Registry) (space : String) (call : Api.Call) : Api.Answer → Registry → Prop
  | refused (failure : ApiFailure) : Answers r space call (.error failure) r
  /-- A patch. Whatever else it changes, it sets a count that it gives. -/
  | patched {name version : String} {set set' : StatefulSet} (patch : call.verb = .patch)
      (kind : call.resource = .statefulSets) (place : call.space = some space)
      (subject : call.name = some name) (found : r.sets name = some set)
      (current : Meets call set) (kept : set'.metadata.name = name)
      (counted : set'.replicas = (patchedCount? call).or set.replicas)
      (new : ⟨name, some version⟩ ∉ r.history) (answer : Api.Answer) :
      Answers r space call answer (r.write set' version)
  | deleted {name : String} {set : StatefulSet} (delete : call.verb = .delete)
      (kind : call.resource = .statefulSets) (place : call.space = some space)
      (subject : call.name = some name) (found : r.sets name = some set)
      (current : Meets call set) (answer : Api.Answer) :
      Answers r space call answer (r.erase name)

/-- How a request of a scaling step is replied to, and what the API server holds then. Its writes
    are calls; whatever else it asks leaves the StatefulSets alone. -/
inductive Serves (r : Registry) (space : String) :
    (request : Ask) → Reply request → Registry → Prop
  | set {name version : String} {count : Int} {answer : Api.Answer} {r' : Registry}
      (h : r.Answers space (Api.ReplicaStore.setCall space name count version) answer r') :
      Serves r space (.setReplicas name count version) (Api.ReplicaStore.understandSet answer) r'
  | delete {name version : String} {answer : Api.Answer} {r' : Registry}
      (h : r.Answers space (Api.ReplicaStore.deleteCall space name version) answer r') :
      Serves r space (.deleteSet name version) (Api.ReplicaStore.understandDelete answer) r'
  | job (request : Jobs.Ask) (reply : Jobs.Reply request) : Serves r space (.job request) reply r
  | mode (address : String) (reply : Outcome OperationMode) :
      Serves r space (.mode address) reply r
  | ringView (address : String) (reply : Outcome RingView) :
      Serves r space (.ringView address) reply r
  | launch (job address : String) : Serves r space (.launch job address) () r

theorem demanded?_setCall {count : Int} :
    Api.Server.demanded? (Api.ReplicaStore.setCall space name count version) = some version := rfl

theorem patchedCount?_setCall {count : Int} :
    patchedCount? (Api.ReplicaStore.setCall space name count version) = some count := rfl

theorem demanded?_deleteCall :
    Api.Server.demanded? (Api.ReplicaStore.deleteCall space name version) = some version := rfl

theorem Serves.becomes {request : Ask} {reply : Reply request}
    (served : r.Serves space request reply r') : r.Becomes r' := by
  cases served with
  | set h | delete h =>
    cases h with
    | refused => exact .same
    | patched _ _ _ _ _ _ kept _ new =>
      subst kept
      exact .written _ new
    | deleted => exact .erased _
  | job | mode | ringView | launch => exact .same

/-- A patch that sets a count is refused, or made while the StatefulSet has the version on which it
    insists. -/
theorem Answers.of_set {count : Int} {answer : Api.Answer}
    (h : r.Answers space (Api.ReplicaStore.setCall space name count version) answer r') :
    (r' = r ∧ ∃ failure, answer = .error failure) ∨
      (r.version? name = some version ∧ r'.count? name = some count ∧
        ∀ other, other ≠ name → r'.sets other = r.sets other) := by
  cases h with
  | refused failure => exact .inl ⟨rfl, failure, rfl⟩
  | deleted delete => cases delete
  | patched _ _ _ subject found current kept counted _ =>
    cases subject
    subst kept
    refine .inr ⟨?_, ?_, fun other differs => by rw [sets_write, if_neg differs]⟩
    · rw [version?, found, Option.bind_some, current version demanded?_setCall]
    · rw [count?, sets_write, if_pos rfl, Option.map_some, stamped, counted, patchedCount?_setCall]
      rfl

/-- A deletion is refused, or made while the StatefulSet has the version on which it insists. -/
theorem Answers.of_delete {answer : Api.Answer}
    (h : r.Answers space (Api.ReplicaStore.deleteCall space name version) answer r') :
    (r' = r ∧ ∃ failure, answer = .error failure) ∨
      (r.version? name = some version ∧ r' = r.erase name) := by
  cases h with
  | refused failure => exact .inl ⟨rfl, failure, rfl⟩
  | patched patch => cases patch
  | deleted _ _ _ subject found current =>
    cases subject
    refine .inr ⟨?_, rfl⟩
    rw [version?, found, Option.bind_some, current version demanded?_deleteCall]

/-- A StatefulSet that a request of a scaling step changes had the version that the request gives,
    and the request has set its count or removed it. -/
theorem Serves.of_ne {request : Ask} {reply : Reply request}
    (served : r.Serves space request reply r') (changed : r'.sets name ≠ r.sets name) :
    ∃ version, r.version? name = some version ∧
      ((∃ count, request = .setReplicas name count version ∧ r'.count? name = some count) ∨
        request = .deleteSet name version ∧ r'.sets name = none) := by
  cases served with
  | @set other version count _ _ h =>
    obtain ⟨rfl, -⟩ | ⟨current, counted, kept⟩ := h.of_set
    · exact absurd rfl changed
    by_cases same : name = other
    · subst same
      exact ⟨version, current, .inl ⟨count, rfl, counted⟩⟩
    · exact absurd (kept name same) changed
  | @delete other version _ _ h =>
    obtain ⟨rfl, -⟩ | ⟨current, rfl⟩ := h.of_delete
    · exact absurd rfl changed
    rw [sets_erase] at changed
    split at changed
    · rename_i same
      subst same
      exact ⟨version, current, .inr ⟨rfl, by simp [sets_erase]⟩⟩
    · exact absurd rfl changed
  | job | mode | ringView | launch => exact absurd rfl changed

/-- If a count is said to be set, it is set, and all other StatefulSets are as they were. -/
theorem Serves.of_set_ok {count : Int}
    (served : r.Serves space (.setReplicas name count version) (.ok ()) r') :
    r.version? name = some version ∧ r'.count? name = some count ∧
      ∀ other, other ≠ name → r'.sets other = r.sets other := by
  generalize answered : (Except.ok () : Outcome Unit) = reply at served
  cases served with
  | set h =>
    obtain ⟨-, failure, rfl⟩ | set := h.of_set
    · cases answered
    · exact set

end Registry

end RingOperator.Scaling
