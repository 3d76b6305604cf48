import Mathlib.Data.List.Nodup
import RingOperator.Proofs.Scaling.Counts
import RingOperator.Proofs.Scaling.Departure
import RingOperator.Proofs.Scaling.Registry
import RingOperator.Proofs.Scaling.Results
import RingOperator.Proofs.Scaling.Updates

/-!
# The way to the declared topology

Passes over one cluster, one after another, all with the same declaration. Each
of them lists the StatefulSets anew and takes one scaling step, whatever the nodes,
the job records and the API server reply, and whichever calls fail (`Pass`). In
between, others may write the StatefulSets, if they leave names, datacenters and
counts alone (`Run`).

Every pass that changes anything moves one StatefulSet towards the declared
topology, so that less remains to be done; one that reports a change has made it,
and one that has nothing to do although there are members finds nothing left to be
done (`approaches`).
-/

namespace RingOperator.Scaling

open Dialogue

/-! ## StatefulSets as a whole -/

namespace Registry

/-- All StatefulSets, each of them once. -/
structure Lists (r : Registry) (listed : List StatefulSet) : Prop where
  each : ∀ set, set ∈ listed ↔ r.sets set.metadata.name = some set
  once : (listed.map (·.metadata.name)).Nodup

/-- The row of the StatefulSet of a name. -/
def row? (r : Registry) (name : String) : Option Row := (r.sets name).map rowOf

/-- StatefulSets are of different datacenters, and no count is negative. -/
structure Proper (r : Registry) : Prop where
  apart : ∀ name name' dc count count', r.row? name = some ⟨some dc, count⟩ →
    r.row? name' = some ⟨some dc, count'⟩ → name = name'
  nonneg : ∀ name row, r.row? name = some row → 0 ≤ row.count

/-- One StatefulSet moves towards the declared topology, and all others are as they were. -/
def Moves (spec : Spec) (r r' : Registry) : Prop :=
  ∃ name row, r.row? name = some row ∧ (∀ other, other ≠ name → r'.sets other = r.sets other) ∧
    row.Moves spec (r'.row? name)

/-- What can have become of StatefulSets by such moves. -/
structure Within (spec : Spec) (first r : Registry) : Prop where
  nothingNew : ∀ name, first.row? name = none → r.row? name = none
  each : ∀ name row, first.row? name = some row → row.Within spec (r.row? name)

/-- How a request of a scaling step is replied to. A StatefulSet that is written keeps its
    datacenter, and one that is said to be deleted is gone. -/
structure Upholds (space : String) (r : Registry) (request : Ask) (reply : Reply request)
    (r' : Registry) : Prop where
  served : r.Serves space request reply r'
  kept : ∀ name set set', r.sets name = some set → r'.sets name = some set' →
    set'.datacenter? = set.datacenter?
  gone : ∀ name version, (⟨request, reply⟩ : Entry Reply) = ⟨.deleteSet name version, .ok ()⟩ →
    r'.sets name = none

end Registry

/-- A pass that lists all StatefulSets and takes a scaling step. -/
structure Pass (cluster space : String) (spec : Spec) (seen : Snapshot) (r : Registry)
    (listed : List StatefulSet) (result : Outcome Result) (r' : Registry) : Prop where
  lists : r.Lists listed
  course : ∃ now addresses log,
    (step now cluster spec seen addresses (Intent.ofStatefulSets spec listed)).run.Ends log
      result ∧ Plays (Registry.Upholds space) r log r'

/-- What StatefulSets become by passes. -/
inductive Run (cluster space : String) (spec : Spec) (first : Registry) : Registry → Prop
  | begin : Run cluster space spec first first
  | pass {r r' : Registry} {seen : Snapshot} {listed : List StatefulSet} {result : Outcome Result}
      (before : Run cluster space spec first r)
      (goes : Pass cluster space spec seen r listed result r') : Run cluster space spec first r'
  /-- Others write StatefulSets, but change no name, datacenter or count. -/
  | touch {r r' : Registry} (before : Run cluster space spec first r)
      (same : ∀ name, r'.row? name = r.row? name) : Run cluster space spec first r'

variable {cluster space : String} {spec : Spec} {first r r' : Registry}
  {listed listed' : List StatefulSet} {name : String} {set : StatefulSet}

namespace Registry

theorem Lists.nodup (lists : r.Lists listed) : listed.Nodup := lists.once.of_map

theorem row?_of_datacenter? {dc : String} (found : r.sets name = some set)
    (labelled : set.datacenter? = some dc) :
    r.row? name = some ⟨some dc, set.replicas.getD 1⟩ := by
  rw [row?, found, Option.map_some, rowOf, labelled]

theorem Lists.distinct (lists : r.Lists listed) (proper : r.Proper) :
    (listed.filterMap (·.datacenter?)).Nodup := by
  refine List.pairwise_filterMap.2 (lists.nodup.imp_of_mem fun hs hs' differ => ?_)
  rintro dc labelled _ labelled' rfl
  have found := (lists.each _).1 hs
  have found' := (lists.each _).1 hs'
  have named := proper.apart _ _ dc _ _ (row?_of_datacenter? found labelled)
    (row?_of_datacenter? found' labelled')
  rw [named, found'] at found
  exact differ (Option.some.inj found).symm

/-- All StatefulSets but the one of a name. -/
def without (name : String) (listed : List StatefulSet) : List StatefulSet :=
  listed.filter fun set => set.metadata.name ≠ name

/-- What remains for all StatefulSets remains for the one of a name and for the others. -/
theorem Lists.remaining_eq (lists : r.Lists listed) (name : String) : remaining spec listed =
    ((r.row? name).map (Row.remaining spec)).getD 0 + remaining spec (without name listed) := by
  have own : (listed.filter fun set => set.metadata.name = name).Perm (r.sets name).toList := by
    have nodup : (r.sets name).toList.Nodup := by cases r.sets name <;> simp
    refine (List.perm_ext_iff_of_nodup (lists.nodup.filter _) nodup).2 fun set => ?_
    rw [List.mem_filter, lists.each, Option.mem_toList, decide_eq_true_eq]
    constructor
    · rintro ⟨found, rfl⟩
      exact found
    · intro found
      obtain rfl := r.named _ _ found
      exact ⟨found, rfl⟩
  have parts : (List.filter (fun set => set.metadata.name = name) listed ++
      without name listed).Perm listed := by
    simpa [without] using List.filter_append_perm (fun set => set.metadata.name = name) listed
  have whole : ((r.sets name).toList ++ without name listed).Perm listed :=
    (own.symm.append_right _).trans parts
  rw [← remaining_perm whole, remaining_append, row?]
  cases r.sets name <;> rfl

/-- Where the others are as they were, so is what remains for them. -/
theorem Lists.remaining_without (lists : r.Lists listed) (lists' : r'.Lists listed')
    (same : ∀ other, other ≠ name → r'.sets other = r.sets other) :
    remaining spec (without name listed') = remaining spec (without name listed) := by
  have perm : (without name listed').Perm (without name listed) := by
    refine (List.perm_ext_iff_of_nodup (lists'.nodup.filter _) (lists.nodup.filter _)).2
      fun set => ?_
    simp only [List.mem_filter, lists.each, lists'.each]
    refine and_congr_left fun differs => ?_
    rw [same _ (by simpa using differs)]
  exact remaining_perm perm

/-- Every move leaves less to be done. -/
theorem Moves.remaining_lt (moves : Moves spec r r') (lists : r.Lists listed)
    (lists' : r'.Lists listed') : remaining spec listed' < remaining spec listed := by
  obtain ⟨name, row, found, same, moved⟩ := moves
  rw [lists.remaining_eq name, lists'.remaining_eq name, lists.remaining_without lists' same, found]
  exact Nat.add_lt_add_right moved.remaining_lt _

theorem Moves.proper (valid : spec.check = .ok ()) (moves : Moves spec r r') (proper : r.Proper) :
    r'.Proper := by
  obtain ⟨name, row, found, same, moved⟩ := moves
  -- Whatever is there now was there before, of the same datacenter.
  have before {other : String} {now : Row} (h : r'.row? other = some now) :
      0 ≤ now.count ∧ ∃ count, r.row? other = some ⟨now.dc, count⟩ := by
    by_cases own : other = name
    · subst own
      rw [h] at moved
      exact ⟨moved.nonneg valid, row.count, by rw [found, moved.dc_eq]⟩
    · rw [row?, same other own] at h
      exact ⟨proper.nonneg other now h, now.count, h⟩
  refine ⟨fun a b dc _ _ h h' => ?_, fun other now h => (before h).1⟩
  obtain ⟨-, _, found⟩ := before h
  obtain ⟨-, _, found'⟩ := before h'
  exact proper.apart a b dc _ _ found found'

theorem Within.refl (proper : r.Proper) : Within spec r r where
  nothingNew _ none := none
  each name row found := found ▸ .refl (proper.nonneg name row found)

theorem Within.moves (within : Within spec first r) (moves : Moves spec r r') :
    Within spec first r' := by
  obtain ⟨name, row, found, same, moved⟩ := moves
  refine ⟨fun other none => ?_, fun other row' began => ?_⟩
  · have absent := within.nothingNew other none
    rw [row?, same other, ← row?, absent]
    rintro rfl
    cases found.symm.trans absent
  · by_cases own : other = name
    · subst own
      have before := within.each other row' began
      rw [found] at before
      exact before.moves moved
    · rw [row?, same other own]
      exact within.each other row' began

end Registry

/-! ## One pass -/

/-- An intent says what there is and what shall be. -/
structure IsOf (spec : Spec) (r : Registry) (intent : Intent) : Prop where
  current : r.row? intent.statefulSet = some ⟨some intent.dc, intent.current⟩
  desired : intent.desired = spec.replicas? intent.dc

theorem Registry.Lists.isOf (lists : r.Lists listed) (proper : r.Proper)
    (valid : spec.check = .ok ()) {intent : Intent}
    (among : intent ∈ Intent.ofStatefulSets spec listed) : IsOf spec r intent := by
  obtain ⟨declaredOnce, -⟩ := Spec.check_eq_ok_iff.1 valid
  obtain ⟨set, hs, dc, labelled, rfl⟩ :=
    (Intent.mem_ofStatefulSets_iff declaredOnce (lists.distinct proper)).1 among
  exact ⟨Registry.row?_of_datacenter? ((lists.each set).1 hs) labelled, rfl⟩

variable {now : Instant} {seen : Snapshot} {addresses : Table String} {intent : Intent}
  {before log : List (Entry Reply)} {result : Outcome Result}

/-- A justified request of a step is for a move, or it leaves the StatefulSets alone. It is said to
    have changed them only if it has. -/
theorem moves_of_justified {request : Ask} {reply : Reply request}
    (upholds : r.Upholds space request reply r') (isOf : IsOf spec r intent)
    (nonneg : 0 ≤ intent.current)
    (justified : Justified now cluster spec seen addresses intent before request) :
    (r' = r ∧ wrote ⟨request, reply⟩ = false) ∨ r.Moves spec r' := by
  obtain ⟨served, kept, gone⟩ := upholds
  obtain ⟨current, desired⟩ := isOf
  obtain ⟨set, found, row⟩ := Option.map_eq_some_iff.1 current
  cases served with
  | @set _ _ count _ _ h =>
    obtain ⟨rfl, rfl, why⟩ := justified
    obtain ⟨rfl, failure, rfl⟩ | ⟨-, counted, same⟩ := h.of_set
    · exact .inl ⟨rfl, rfl⟩
    refine .inr ⟨intent.statefulSet, _, current, same, ?_⟩
    obtain ⟨set', found', rfl⟩ := Option.map_eq_some_iff.1 counted
    have label := (kept _ _ _ found found').trans (congrArg Row.dc row)
    rw [Registry.row?_of_datacenter? found' label]
    obtain ⟨wanted, below⟩ | ⟨lowers, lowered, -⟩ := why
    · exact .raised (desired.symm.trans wanted) below
    rw [lowered]
    unfold Intent.lowers at lowers
    split at lowers
    · rename_i wanted
      exact .lowered (desired.symm.trans wanted) (by simpa using lowers)
    · rename_i undeclared
      have left : intent.current ≠ 0 := by simpa using lowers
      exact .drained (desired.symm.trans undeclared) (by omega)
  | delete h =>
    obtain ⟨rfl, rfl, undeclared, empty⟩ := justified
    obtain ⟨rfl, failure, rfl⟩ | ⟨-, rfl⟩ := h.of_delete
    -- A refusal that says that nothing is there would be wrong.
    · refine .inl ⟨rfl, ?_⟩
      cases replied : Api.ReplicaStore.understandDelete (.error failure) with
      | error _ => rfl
      | ok _ => cases found.symm.trans (gone _ _ (congrArg (Sigma.mk _) replied))
    · refine .inr ⟨intent.statefulSet, _, current, fun other differs => ?_, ?_⟩
      · rw [Registry.sets_erase, if_neg differs]
      · rw [Registry.row?, Registry.sets_erase, if_pos rfl, empty]
        exact .removed (desired.symm.trans undeclared)
  | job | mode | ringView | launch => exact .inl ⟨rfl, rfl⟩

/-- A pass changes nothing, or it makes one move. It reports a change only if it has made it. -/
theorem Pass.moves (valid : spec.check = .ok ()) (proper : r.Proper)
    (goes : Pass cluster space spec seen r listed result r') :
    (r' = r ∧ ∀ done, result = .ok done → done.progresses = false) ∨ r.Moves spec r' := by
  obtain ⟨lists, now, addresses, log, ends, plays⟩ := goes
  have told : ∀ done, result = .ok done → done.progresses = true → ∃ e ∈ log, wrote e = true := by
    rintro done rfl
    exact wrote_of_progresses ends
  have unreported (silent : ∀ e ∈ log, wrote e = false) :
      ∀ done, result = .ok done → done.progresses = false := by
    intro done ok
    by_contra progresses
    obtain ⟨e, among, writes⟩ := told done ok (by simpa using progresses)
    rw [silent e among] at writes
    cases writes
  rw [step_eq] at ends
  cases due : (Intent.ofStatefulSets spec listed).find? (·.isDue seen) with
  | none =>
    rw [due] at ends
    obtain ⟨rfl, rfl⟩ := ends
    exact .inl ⟨plays_nil.1 plays, unreported (by simp)⟩
  | some intent =>
    rw [due] at ends
    obtain ⟨once, justified⟩ := ends_takeUp (List.find?_some due) ends
    have isOf := lists.isOf proper valid (List.mem_of_find?_eq_some due)
    have nonneg := proper.nonneg _ _ isOf.current
    -- Only acts change anything, and there is at most one.
    have idle (e : Entry Reply) (still : e.1.acts = false) (r r' : Registry)
        (h : r.Upholds space e.1 e.2 r') : r' = r := by
      obtain ⟨request, reply⟩ := e
      cases h.served with
      | set | delete => cases still
      | job | mode | ringView | launch => rfl
    have silent (e : Entry Reply) (still : e.1.acts = false) : wrote e = false := by
      obtain ⟨request, reply⟩ := e
      cases request <;> first | rfl | cases still
    obtain ⟨rfl, still⟩ | ⟨before, e, after, rfl, acted, only⟩ :=
      plays.single once fun e _ still => idle e still
    · exact .inl ⟨rfl, unreported fun e among => silent e (still e among)⟩
    obtain ⟨rfl, unwritten⟩ | moves :=
      moves_of_justified acted isOf nonneg (justified before e after rfl)
    · refine .inl ⟨rfl, unreported fun other among => ?_⟩
      cases does : other.1.acts with
      | false => exact silent other does
      | true => rw [only other among does, unwritten]
    · exact .inr moves

/-- A pass that finds nothing due changes nothing. If there are members, nothing remains to be
    done. -/
theorem Pass.settled (valid : spec.check = .ok ()) (proper : r.Proper)
    (goes : Pass cluster space spec seen r listed (.ok .idle) r') :
    r' = r ∧ (seen.isEmpty = false → remaining spec listed = 0) := by
  obtain ⟨lists, now, addresses, log, ends, plays⟩ := goes
  obtain ⟨rfl, none⟩ := ends_idle_iff.1 ends
  refine ⟨plays_nil.1 plays, fun peopled => remaining_eq_zero fun set hs => ?_⟩
  obtain ⟨declaredOnce, -⟩ := Spec.check_eq_ok_iff.1 valid
  cases label : set.datacenter? with
  | none => simp [Row.remaining, rowOf, label]
  | some dc =>
    have hi := (Intent.mem_ofStatefulSets_iff declaredOnce (lists.distinct proper)).2
      ⟨set, hs, dc, label, rfl⟩
    have wanted : spec.replicas? dc = some (set.replicas.getD 1) :=
      (Intent.isDue_eq_false_iff peopled).1 (by simpa using List.find?_eq_none.1 none _ hi)
    simp [Row.remaining, rowOf, label, wanted]

/-! ## All passes -/

theorem Run.proper (valid : spec.check = .ok ()) (run : Run cluster space spec first r)
    (proper : first.Proper) : r.Proper := by
  induction run with
  | begin => exact proper
  | pass _ goes ih =>
    obtain ⟨rfl, -⟩ | moves := goes.moves valid ih
    · exact ih
    · exact moves.proper valid ih
  | touch _ same ih =>
    refine ⟨fun a b dc count count' h h' => ?_, fun name row h => ?_⟩
    · rw [same] at h h'
      exact ih.apart a b dc count count' h h'
    · rw [same] at h
      exact ih.nonneg name row h

theorem Run.within (valid : spec.check = .ok ()) (run : Run cluster space spec first r)
    (proper : first.Proper) : first.Within spec r := by
  induction run with
  | begin => exact .refl proper
  | pass before goes ih =>
    obtain ⟨rfl, -⟩ | moves := goes.moves valid (before.proper valid proper)
    · exact ih
    · exact ih.moves moves
  | touch _ same ih =>
    refine ⟨fun name none => ?_, fun name row began => ?_⟩
    · rw [same]
      exact ih.nothingNew name none
    · rw [same]
      exact ih.each name row began

/-- From StatefulSets of different datacenters, passes with a declaration that is accepted only ever
    come nearer to it. After any of them, every count is between where it began and where it shall
    be; of datacenters that are not declared, counts have only gone down, and no other StatefulSet
    has been removed. The next pass changes nothing or makes one move, which leaves less to be done.
    If it reports a change, it has made one, and if it has nothing to do although there are members,
    then nothing remains to be done. -/
theorem approaches (valid : spec.check = .ok ()) (proper : first.Proper)
    (run : Run cluster space spec first r) :
    first.Within spec r ∧
    ∀ {seen listed result r'}, Pass cluster space spec seen r listed result r' →
      (r' = r ∨ r.Moves spec r' ∧
        ∀ listed', r'.Lists listed' → remaining spec listed' < remaining spec listed) ∧
      (∀ done, result = .ok done → done.progresses = true → r.Moves spec r' ∧
        ∀ listed', r'.Lists listed' → remaining spec listed' < remaining spec listed) ∧
      (result = .ok .idle → r' = r ∧ (seen.isEmpty = false → remaining spec listed = 0)) := by
  refine ⟨run.within valid proper, fun {seen listed result r'} goes => ?_⟩
  have proper := run.proper valid proper
  have less (moves : r.Moves spec r') : r.Moves spec r' ∧
      ∀ listed', r'.Lists listed' → remaining spec listed' < remaining spec listed :=
    ⟨moves, fun _ => moves.remaining_lt goes.lists⟩
  refine ⟨?_, fun done ok progresses => ?_, ?_⟩
  · obtain ⟨same, -⟩ | moves := goes.moves valid proper
    · exact .inl same
    · exact .inr (less moves)
  · obtain ⟨-, unreported⟩ | moves := goes.moves valid proper
    · rw [unreported done ok] at progresses
      cases progresses
    · exact less moves
  · rintro rfl
    exact goes.settled valid proper

/-! ## One datacenter is raised, another one lowered and removed -/

namespace Approach

/-- The StatefulSet of a datacenter with a count. -/
def setOf (dc : String) (count : Int) : StatefulSet where
  metadata := {
    name := "c-cassandra-" ++ dc, labels := Table.ofList [(Labels.datacenterKey, dc)] }
  replicas := some count

/-- A declared datacenter of one node, and one that is no longer declared. -/
def start : Registry := (Registry.empty.write (setOf "dc1" 1) "7").write (setOf "dc2" 1) "8"

/-- The first one has all its nodes. -/
def raised : Registry := start.write (setOf "dc1" 2) "9"

/-- The node of the other one has left. -/
def lowered : Registry := raised.write (setOf "dc2" 0) "10"

/-- The other one is removed. -/
def removed : Registry := lowered.erase "c-cassandra-dc2"

/-- Whether there are two StatefulSets, those of the two datacenters, with their counts and
    versions. -/
def Holds (r : Registry) (count : Int) (version : String) (count' : Int) (version' : String) :
    Prop :=
  ∀ name, r.sets name =
    if name = "c-cassandra-dc1" then some (stamped (setOf "dc1" count) version)
    else if name = "c-cassandra-dc2" then some (stamped (setOf "dc2" count') version') else none

variable {count count' : Int} {version version' : String}

theorem holds_start : Holds start 1 "7" 1 "8" := by
  intro name
  have dc1 : (setOf "dc1" 1).metadata.name = "c-cassandra-dc1" := by decide
  have dc2 : (setOf "dc2" 1).metadata.name = "c-cassandra-dc2" := by decide
  rw [start, Registry.sets_write, Registry.sets_write, dc1, dc2]
  by_cases same : name = "c-cassandra-dc1"
  · subst same
    rfl
  · rw [if_neg same, if_neg same]
    rfl

theorem Holds.write_first (holds : Holds r count version count' version') (now : Int)
    (stamp : String) : Holds (r.write (setOf "dc1" now) stamp) now stamp count' version' := by
  intro name
  have dc1 : (setOf "dc1" now).metadata.name = "c-cassandra-dc1" := by rfl
  rw [Registry.sets_write, holds name, dc1]
  split <;> rfl

theorem Holds.write_second (holds : Holds r count version count' version') (now : Int)
    (stamp : String) : Holds (r.write (setOf "dc2" now) stamp) count version now stamp := by
  intro name
  have dc2 : (setOf "dc2" now).metadata.name = "c-cassandra-dc2" := by rfl
  rw [Registry.sets_write, holds name, dc2]
  by_cases same : name = "c-cassandra-dc2"
  · subst same
    rfl
  · rw [if_neg same, if_neg same, if_neg same]

theorem Holds.lists (holds : Holds r count version count' version') :
    r.Lists [stamped (setOf "dc1" count) version, stamped (setOf "dc2" count') version'] := by
  have dc1 : (stamped (setOf "dc1" count) version).metadata.name = "c-cassandra-dc1" := by rfl
  have dc2 : (stamped (setOf "dc2" count') version').metadata.name = "c-cassandra-dc2" := by rfl
  refine ⟨fun set => ?_, by simp [dc1, dc2]⟩
  rw [holds, List.mem_pair]
  constructor
  · rintro (rfl | rfl)
    · rw [dc1, if_pos rfl]
    · rw [dc2, if_pos rfl]
      rfl
  · intro found
    split at found
    · exact .inl (Option.some.inj found).symm
    · split at found
      · exact .inr (Option.some.inj found).symm
      · cases found

/-- The datacenter of a StatefulSet stays what it was. -/
theorem Holds.kept {count₁ count₁' : Int} {version₁ version₁' name : String}
    {set set' : StatefulSet} (holds : Holds r count version count' version')
    (holds' : Holds r' count₁ version₁ count₁' version₁') (found : r.sets name = some set)
    (found' : r'.sets name = some set') : set'.datacenter? = set.datacenter? := by
  rw [holds] at found
  rw [holds'] at found'
  split at found
  · rw [if_pos ‹_›] at found'
    cases found
    cases found'
    rfl
  · rw [if_neg ‹_›] at found'
    split at found
    · rw [if_pos ‹_›] at found'
      cases found
      cases found'
      rfl
    · cases found

theorem Holds.proper (holds : Holds r count version count' version') (nonneg : 0 ≤ count)
    (nonneg' : 0 ≤ count') : r.Proper := by
  have row (name : String) (row : Row) (h : r.row? name = some row) :
      (name = "c-cassandra-dc1" ∧ row = ⟨some "dc1", count⟩) ∨
        (name = "c-cassandra-dc2" ∧ row = ⟨some "dc2", count'⟩) := by
    rw [Registry.row?, holds] at h
    split at h
    · cases h
      exact .inl ⟨‹_›, rfl⟩
    · split at h
      · cases h
        exact .inr ⟨‹_›, rfl⟩
      · cases h
  refine ⟨fun name name' dc m n h h' => ?_, fun name row' h => ?_⟩
  · have differ {a b : String} {k l : Int} (first : Row.mk (some dc) m = ⟨some a, k⟩)
        (second : Row.mk (some dc) n = ⟨some b, l⟩) : a = b := by
      cases first
      cases second
      rfl
    rcases row _ _ h with ⟨rfl, first⟩ | ⟨rfl, first⟩ <;>
      rcases row _ _ h' with ⟨rfl, second⟩ | ⟨rfl, second⟩
    · rfl
    · exact absurd (differ first second) (by decide)
    · exact absurd (differ first second) (by decide)
    · rfl
  · rcases row _ _ h with ⟨-, rfl⟩ | ⟨-, rfl⟩
    · exact nonneg
    · exact nonneg'

theorem holds_raised : Holds raised 2 "9" 1 "8" := holds_start.write_first 2 "9"

theorem holds_lowered : Holds lowered 2 "9" 0 "10" := holds_raised.write_second 0 "10"

/-- The pass that raises the first count. -/
theorem pass_raised (seen : Snapshot) : Pass "c" "default" kept seen start
    [stamped (setOf "dc1" 1) "7", stamped (setOf "dc2" 1) "8"] (.ok (.scaledUp "dc1" 2))
    raised := by
  refine ⟨holds_start.lists, ⟨0, 0⟩, Table.empty,
    [⟨.setReplicas "c-cassandra-dc1" 2 "7", .ok ()⟩], ?_, plays_singleton.2 ⟨?_, ?_, ?_⟩⟩
  · have intents : Intent.ofStatefulSets kept
        [stamped (setOf "dc1" 1) "7", stamped (setOf "dc2" 1) "8"] =
        [⟨"dc1", "c-cassandra-dc1", 1, some 2, "7"⟩, ⟨"dc2", "c-cassandra-dc2", 1, none, "8"⟩] := by
      decide +kernel
    rw [intents]
    exact ⟨_, _, rfl, rfl, rfl⟩
  · have found : start.sets "c-cassandra-dc1" = some (stamped (setOf "dc1" 1) "7") :=
      holds_start _
    have served : start.Serves "default" (.setReplicas "c-cassandra-dc1" 2 "7")
        (Api.ReplicaStore.understandSet (.ok (.object []))) raised := by
      refine .set (.patched rfl rfl rfl rfl found ?_ rfl rfl (by decide) _)
      rintro version ⟨⟩
      rfl
    exact served
  · exact fun name set set' => holds_start.kept holds_raised
  · rintro _ _ ⟨⟩

/-- A question leaves the StatefulSets as they are. -/
theorem plays_asked {request : Ask} {reply : Reply request} {log : List (Entry Reply)}
    (served : r.Serves "default" request reply r)
    (asks : ∀ name version, request ≠ .deleteSet name version)
    (rest : Plays (Registry.Upholds "default") r log r') :
    Plays (Registry.Upholds "default") r (⟨request, reply⟩ :: log) r' := by
  refine plays_cons.2 ⟨r, ⟨served, fun name set set' found found' => ?_, ?_⟩, rest⟩
  · cases found.symm.trans found'
    rfl
  · exact fun name version same => absurd (congrArg Sigma.fst same) (asks name version)

/-- The pass that lowers the other count: its node says that it has left, and all nodes of the first
    datacenter say so too. -/
theorem pass_lowered : Pass "c" "default" kept draining raised
    [stamped (setOf "dc1" 2) "9", stamped (setOf "dc2" 1) "8"] (.ok (.scaledDown "dc2" 0))
    lowered := by
  have confirmed : (departureConfirmed kept "c-cassandra-dc2-0" "10.0.2.0" draining
      drainingAt).Ends [⟨.ringView "10.0.1.0", .ok {}⟩, ⟨.ringView "10.0.1.1", .ok {}⟩] true := by
    have enough : (declaredMembers kept draining).length - 1 ≤
        (peersOf kept draining "c-cassandra-dc2-0").countP
          (SeesGone "10.0.2.0" drainingAt (answering (.ok {}) (.ok {}))) := by
      decide +kernel
    have ends := @ends_departureConfirmed_viewsOf kept draining drainingAt "c-cassandra-dc2-0"
      "10.0.2.0" (answering (.ok {}) (.ok {}))
    rwa [decide_eq_true enough, viewsOf_answering] at ends
  have due : (Intent.ofStatefulSets kept
      [stamped (setOf "dc1" 2) "9", stamped (setOf "dc2" 1) "8"]).find? (·.isDue draining) =
      some (drained "8") := by
    decide +kernel
  have found : raised.sets "c-cassandra-dc2" = some (stamped (setOf "dc2" 1) "8") :=
    holds_raised _
  refine ⟨holds_raised.lists, ⟨0, 0⟩, drainingAt, _, ends_step_drained due confirmed, ?_⟩
  refine plays_asked (.job _ _) (by simp) (plays_asked (.mode _ _) (by simp) ?_)
  refine plays_asked (.ringView _ _) (by simp) (plays_asked (.ringView _ _) (by simp) ?_)
  refine plays_cons.2 ⟨lowered, ⟨?_, ?_, ?_⟩, plays_asked (.job _ _) (by simp) (plays_nil.2 rfl)⟩
  · have served : raised.Serves "default" (.setReplicas "c-cassandra-dc2" 0 "8")
        (Api.ReplicaStore.understandSet (.ok (.object []))) lowered := by
      refine .set (.patched rfl rfl rfl rfl found ?_ rfl rfl (by decide) _)
      rintro version ⟨⟩
      rfl
    exact served
  · exact fun name set set' => holds_raised.kept holds_lowered
  · rintro _ _ ⟨⟩

/-- The pass that removes the other StatefulSet. -/
theorem pass_removed (seen : Snapshot) : Pass "c" "default" kept seen lowered
    [stamped (setOf "dc1" 2) "9", stamped (setOf "dc2" 0) "10"] (.ok (.dcRemoved "dc2"))
    removed := by
  refine ⟨holds_lowered.lists, ⟨0, 0⟩, Table.empty,
    [⟨.deleteSet "c-cassandra-dc2" "10", .ok ()⟩], ?_, plays_singleton.2 ⟨?_, ?_, ?_⟩⟩
  · have intents : Intent.ofStatefulSets kept
        [stamped (setOf "dc1" 2) "9", stamped (setOf "dc2" 0) "10"] =
        [⟨"dc1", "c-cassandra-dc1", 2, some 2, "9"⟩,
          ⟨"dc2", "c-cassandra-dc2", 0, none, "10"⟩] := by
      decide +kernel
    rw [intents]
    exact ⟨_, _, rfl, rfl, rfl⟩
  · have found : lowered.sets "c-cassandra-dc2" = some (stamped (setOf "dc2" 0) "10") :=
      holds_lowered _
    have served : lowered.Serves "default" (.deleteSet "c-cassandra-dc2" "10")
        (Api.ReplicaStore.understandDelete (.ok (.object []))) removed := by
      refine .delete (.deleted rfl rfl rfl rfl found ?_ _)
      rintro version ⟨⟩
      rfl
    exact served
  · intro name set set' h h'
    rw [removed, Registry.sets_erase] at h'
    split at h'
    · cases h'
    · cases h.symm.trans h'
      rfl
  · rintro name version same
    cases same
    simp [removed, Registry.sets_erase]

/-- First the declared datacenter is raised. Then the node of the other one has left and its count
    is lowered, and the StatefulSet that is left empty is removed. Each time less remains to be
    done. -/
theorem approaches_removing :
    kept.check = .ok () ∧ start.Proper ∧ Run "c" "default" kept start raised ∧
    Run "c" "default" kept start lowered ∧ start.Within kept lowered ∧
    raised.Moves kept lowered ∧ lowered.Moves kept removed ∧
    (∀ listed', lowered.Lists listed' → remaining kept listed' <
      remaining kept [stamped (setOf "dc1" 2) "9", stamped (setOf "dc2" 1) "8"]) ∧
    ∀ listed', removed.Lists listed' → remaining kept listed' <
      remaining kept [stamped (setOf "dc1" 2) "9", stamped (setOf "dc2" 0) "10"] := by
  have valid : kept.check = .ok () := by rfl
  have proper : start.Proper := holds_start.proper (by decide) (by decide)
  have run : Run "c" "default" kept start raised := Run.begin.pass (pass_raised default)
  obtain ⟨-, next⟩ := approaches valid proper run
  obtain ⟨-, lowers, -⟩ := next pass_lowered
  obtain ⟨lowering, less⟩ := lowers _ rfl rfl
  have run' : Run "c" "default" kept start lowered := run.pass pass_lowered
  obtain ⟨within, next⟩ := approaches valid proper run'
  obtain ⟨-, removes, -⟩ := next (pass_removed default)
  obtain ⟨removing, less'⟩ := removes _ rfl rfl
  exact ⟨valid, proper, run, run', within, lowering, removing, less, less'⟩

end Approach

end RingOperator.Scaling
