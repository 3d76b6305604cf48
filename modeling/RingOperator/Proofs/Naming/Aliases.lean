import Mathlib.Data.List.Basic
import RingOperator.Cluster.Spec
import RingOperator.Proofs.Naming.Pods

/-!
# Names that two clusters share

The names of the objects of a cluster are joined from the names that it is given, and these may
hold what they are joined by. So the name of a region is shared by two clusters if the namespace
of one goes on where that of the other ends (`Identity.RunsInto`), and the names of a StatefulSet,
a pod and a job if the name of one cluster does (`Naming.RunsInto`): in no other case
(`shared_iff`). The names of config maps with start-up entries and addresses, where nothing stands
behind the name of the cluster but a fixed text, are never shared.
-/

namespace RingOperator

/-- The namespace of a cluster goes on, behind a dash, to that of another one, and with what is
left of it begins the name of the first. -/
def Identity.RunsInto (a b : Identity) : Prop :=
  ∃ between, b.space = a.space ++ "-" ++ between ∧ a.name = between ++ "-" ++ b.name

/-- A cluster as it is in a region that another operator looks after. -/
def Identity.inRegion (a : Identity) (r : ManagedRegion) : Identity :=
  ⟨a.name, r.space.getD a.space⟩

namespace Naming

open Text Numeral

/-- The name of a cluster goes on to that of another one, and with what is left of it begins the
name of the datacenter of the first. The texts in between the names may overlap in a dash. -/
def RunsInto (c d c' d' : String) : Prop :=
  (∃ between, c' = c ++ "-cassandra-" ++ between ∧ d = between ++ "-cassandra-" ++ d') ∨
    c' = c ++ "-cassandra" ∧ d = "cassandra-" ++ d'

/-! ## Joined texts -/

section

variable {xs ys xs' ys' t : List Char}

/-- Behind a dash, texts are told up to where another dash stands. -/
theorem of_append_dash (h : xs ++ '-' :: ys = xs' ++ '-' :: ys') :
    (xs = xs' ∧ ys = ys') ∨ (∃ w, xs' = xs ++ '-' :: w ∧ ys = w ++ '-' :: ys') ∨
      ∃ w, xs = xs' ++ '-' :: w ∧ ys' = w ++ '-' :: ys := by
  rcases List.append_eq_append_iff.1 h with ⟨t, rfl, rest⟩ | ⟨t, rfl, rest⟩
  · cases t with
    | nil => exact .inl ⟨(List.append_nil xs).symm, (List.cons_eq_cons.1 rest).2⟩
    | cons _ w =>
      obtain ⟨rfl, behind⟩ := List.cons_eq_cons.1 rest
      exact .inr (.inl ⟨w, rfl, behind⟩)
  · cases t with
    | nil => exact .inl ⟨List.append_nil xs', (List.cons_eq_cons.1 rest).2.symm⟩
    | cons _ w =>
      obtain ⟨rfl, behind⟩ := List.cons_eq_cons.1 rest
      exact .inr (.inr ⟨w, rfl, behind⟩)

/-- The text between the names of a cluster and a datacenter. -/
def infixText : List Char := "-cassandra-".toList

/-- The text ends as it begins in nothing, in a dash, and in all of it. -/
theorem length_of_drop_eq_take {k : Nat} (h : k ≤ 11)
    (same : infixText.drop k = infixText.take (11 - k)) : k = 0 ∨ k = 10 ∨ k = 11 := by
  revert k
  decide

/-- What can stand before the text if it begins again in its place. -/
theorem of_infix_append (h : infixText ++ ys = t ++ (infixText ++ ys')) :
    (t = [] ∧ ys = ys') ∨ (∃ w, t = infixText ++ w ∧ ys = w ++ infixText ++ ys') ∨
      t = "-cassandra".toList ∧ ys = "cassandra-".toList ++ ys' := by
  rcases List.append_eq_append_iff.1 h with ⟨w, rfl, rest⟩ | ⟨r, split, rest⟩
  · exact .inr (.inl ⟨w, rfl, by rw [rest, List.append_assoc]⟩)
  -- Otherwise what is left of the text when it begins again is how it begins.
  have length : t.length + r.length = 11 := by
    rw [← List.length_append, ← split]
    rfl
  have left : r = infixText.drop t.length := by
    rw [split, List.drop_left]
  have begins : r = infixText.take (11 - t.length) := by
    have taken := congrArg (List.take r.length) rest
    rw [List.take_left, List.take_append_of_le_length] at taken
    · rw [← taken]
      congr 1
      omega
    · show r.length ≤ 11
      omega
  have before : t = infixText.take t.length := by
    rw [split, List.take_left]
  rcases length_of_drop_eq_take (by omega) (left.symm.trans begins) with k | k | k <;>
    rw [k] at left before
  · rw [left] at rest
    exact .inl ⟨before, (List.append_cancel_left rest).symm⟩
  · rw [left] at rest
    exact .inr (.inr ⟨before, (List.cons_eq_cons.1 rest).2.symm⟩)
  · rw [left] at rest
    exact .inr (.inl ⟨[], before, rest.symm⟩)

end

theorem toList_joined (a between b : String) :
    (a ++ between ++ b).toList = a.toList ++ (between.toList ++ b.toList) := by
  rw [String.toList_append, String.toList_append, List.append_assoc]

theorem toList_datacenter (c d : String) :
    (datacenter c d).toList = c.toList ++ (infixText ++ d.toList) :=
  toList_joined c "-cassandra-" d

/-- Where one name goes on, it goes on to the other one. -/
theorem of_toList_datacenter {c d c' d' : String} {t : List Char}
    (longer : c'.toList = c.toList ++ t)
    (rest : infixText ++ d.toList = t ++ (infixText ++ d'.toList)) :
    (c = c' ∧ d = d') ∨ RunsInto c d c' d' := by
  rcases of_infix_append rest with ⟨rfl, same⟩ | ⟨w, rfl, split⟩ | ⟨rfl, split⟩
  · rw [List.append_nil] at longer
    exact .inl ⟨String.toList_inj.1 longer.symm, String.toList_inj.1 same⟩
  · refine .inr (.inl ⟨String.ofList w, String.toList_inj.1 ?_, String.toList_inj.1 ?_⟩)
    · rw [longer, toList_joined, String.toList_ofList (l := w)]
      rfl
    · rw [split, toList_joined, String.toList_ofList (l := w), List.append_assoc]
      rfl
  · refine .inr (.inr ⟨String.toList_inj.1 ?_, String.toList_inj.1 ?_⟩)
    · simpa using longer
    · simpa using split

theorem datacenter_eq_of_runsInto {c d c' d' : String} (h : RunsInto c d c' d') :
    datacenter c d = datacenter c' d' := by
  rcases h with ⟨between, rfl, rfl⟩ | ⟨rfl, rfl⟩
  · simp only [datacenter, String.append_assoc]
  · refine String.toList_inj.1 ?_
    simp [datacenter]

/-- StatefulSets share a name just if the name of one cluster goes on to that of the other. -/
theorem datacenter_eq_iff {c d c' d' : String} : datacenter c d = datacenter c' d' ↔
    (c = c' ∧ d = d') ∨ RunsInto c d c' d' ∨ RunsInto c' d' c d := by
  constructor
  · intro same
    have chars := congrArg String.toList same
    rw [toList_datacenter, toList_datacenter] at chars
    rcases List.append_eq_append_iff.1 chars with ⟨t, longer, rest⟩ | ⟨t, longer, rest⟩
    · exact (of_toList_datacenter longer rest).imp_right .inl
    · exact (of_toList_datacenter longer rest).imp (fun h => ⟨h.1.symm, h.2.symm⟩) .inr
  · rintro (⟨rfl, rfl⟩ | runs | runs)
    · rfl
    · exact datacenter_eq_of_runsInto runs
    · exact (datacenter_eq_of_runsInto runs).symm

/-- Pods share a name just if their StatefulSets do and they have one ordinal. -/
theorem pod_eq_iff {c d c' d' : String} {i j : Int} (hi : 0 ≤ i) (hj : 0 ≤ j) :
    pod c d i = pod c' d' j ↔ datacenter c d = datacenter c' d' ∧ i = j := by
  constructor
  · intro same
    have chars := congrArg String.toList same
    rw [toList_pod c d hi, toList_pod c' d' hj] at chars
    obtain ⟨names, digits⟩ :=
      eq_of_append_dash (dash_not_mem_digits _) (dash_not_mem_digits _) chars
    have := digits_inj digits
    exact ⟨String.toList_inj.1 names, by omega⟩
  · rintro ⟨same, rfl⟩
    rw [pod, pod, same]

/-! ## Regions -/

/-- Prober hosts under one domain are told by namespace and name with a dash in between. -/
theorem region_eq_joined_iff {a b : Identity} {domain : String} :
    region a.name a.space domain = region b.name b.space domain ↔
      a.space ++ "-" ++ a.name = b.space ++ "-" ++ b.name := by
  constructor
  · intro same
    have chars := congrArg String.toList same
    simp only [region, String.toList_append] at chars
    refine String.toList_inj.1 ?_
    simp only [String.toList_append]
    exact List.append_cancel_right (List.append_cancel_right chars)
  · intro same
    simp only [region, same]

theorem joined_eq_of_runsInto {a b : Identity} (h : a.RunsInto b) :
    a.space ++ "-" ++ a.name = b.space ++ "-" ++ b.name := by
  obtain ⟨between, space, name⟩ := h
  simp only [space, name, String.append_assoc]

/-- Clusters share the host of a prober just if the namespace of one goes on to that of the
other. -/
theorem region_eq_iff {a b : Identity} {domain : String} :
    region a.name a.space domain = region b.name b.space domain ↔
      a = b ∨ a.RunsInto b ∨ b.RunsInto a := by
  rw [region_eq_joined_iff]
  constructor
  · intro same
    have chars := congrArg String.toList same
    rw [toList_joined, toList_joined] at chars
    have runs {a b : Identity} {w : List Char} (space : b.space.toList = a.space.toList ++ '-' :: w)
        (name : a.name.toList = w ++ '-' :: b.name.toList) : a.RunsInto b := by
      refine ⟨String.ofList w, String.toList_inj.1 ?_, String.toList_inj.1 ?_⟩
      · rw [space, toList_joined, String.toList_ofList (l := w)]
        rfl
      · rw [name, toList_joined, String.toList_ofList (l := w)]
        rfl
    rcases of_append_dash chars with ⟨space, name⟩ | ⟨w, space, name⟩ | ⟨w, space, name⟩
    · obtain ⟨_, _⟩ := a
      obtain ⟨_, _⟩ := b
      cases String.toList_inj.1 space
      cases String.toList_inj.1 name
      exact .inl rfl
    · exact .inr (.inl (runs space name))
    · exact .inr (.inr (runs space name))
  · rintro (rfl | runs | runs)
    · rfl
    · exact joined_eq_of_runsInto runs
    · exact (joined_eq_of_runsInto runs).symm

/-- Neither clusters of one name run into each other nor those of one namespace. -/
theorem ne_of_runsInto {a b : Identity} (h : a.RunsInto b) :
    a.name ≠ b.name ∧ a.space ≠ b.space := by
  obtain ⟨between, space, name⟩ := h
  constructor
  · intro same
    have length := congrArg String.length (name.symm.trans same)
    simp only [String.length_append] at length
    have dash : "-".length = 1 := rfl
    omega
  · intro same
    have length := congrArg String.length (space.symm.trans same.symm)
    simp only [String.length_append] at length
    have dash : "-".length = 1 := rfl
    omega

/-- A cluster asks the prober of another one just if the cluster shares the host of that with what
it is itself in one of its other regions. -/
theorem localRegion_mem_managedRegions_iff {spec spec' : Spec} {a b : Identity}
    (given : spec'.domain ≠ "") (under : ∀ r ∈ spec.managed, r.domain = spec'.domain) :
    spec'.localRegion b ∈ spec.managedRegions a ↔
      ∃ r ∈ spec.managed, a.inRegion r = b ∨ (a.inRegion r).RunsInto b ∨
        b.RunsInto (a.inRegion r) := by
  rw [Spec.managedRegions, List.mem_map]
  constructor
  · rintro ⟨r, hr, same⟩
    have hr := List.mem_of_mem_filter hr
    rw [under r hr] at same
    exact ⟨r, hr, (region_eq_iff (a := a.inRegion r)).1 same⟩
  · rintro ⟨r, hr, shared⟩
    refine ⟨r, List.mem_filter.2 ⟨hr, ?_⟩, ?_⟩
    · simpa [under r hr] using given
    · rw [under r hr]
      exact (region_eq_iff (a := a.inRegion r)).2 shared

/-! ## Config maps -/

theorem startEntries_inj {c c' : String} (h : startEntries c = startEntries c') : c = c' := by
  have chars := congrArg String.toList h
  simp only [startEntries, String.toList_append] at chars
  exact String.toList_inj.1 (List.append_cancel_right chars)

theorem addressMemory_inj {c c' : String} (h : addressMemory c = addressMemory c') : c = c' := by
  have chars := congrArg String.toList h
  simp only [addressMemory, String.toList_append] at chars
  exact String.toList_inj.1 (List.append_cancel_right chars)

theorem last_startEntries (c : String) : (startEntries c).toList.getLast? = some 'g' := by
  rw [startEntries, String.toList_append, List.getLast?_append]
  rfl

theorem last_addressMemory (c : String) : (addressMemory c).toList.getLast? = some 's' := by
  rw [addressMemory, String.toList_append, List.getLast?_append]
  rfl

/-- The name of a job that drains a pod ends in a digit. -/
theorem last_job (c d : String) {i : Int} (h : 0 ≤ i) :
    ∃ digit, (job (pod c d i)).toList.getLast? = some digit ∧ digit.isDigit = true := by
  obtain ⟨digit, last⟩ :=
    Option.isSome_iff_exists.1 (List.getLast?_isSome.2 (digits_ne_nil i.toNat))
  refine ⟨digit, ?_, isDigit_of_mem_digits (List.mem_of_getLast? last)⟩
  rw [toList_job, toList_pod c d h, List.getLast?_append, List.getLast?_append,
    List.getLast?_cons, last]
  rfl

/-! ## All names -/

/-- Clusters share the host of their probers just if the namespace of one goes on to that of the
other, so not if they have one namespace or one name; and just then a cluster asks a prober that is
not its own. In one namespace, clusters of different names share the names of StatefulSets just if
the name of one goes on to that of the other, the names of pods and of their jobs just if they
share that of the StatefulSet and the ordinals are the same, and those of config maps never. -/
theorem shared_iff :
    (∀ (a b : Identity) (domain : String), a ≠ b →
      (region a.name a.space domain = region b.name b.space domain ↔
        a.RunsInto b ∨ b.RunsInto a)) ∧
    (∀ a b : Identity, a.RunsInto b → a.name ≠ b.name ∧ a.space ≠ b.space) ∧
    (∀ (spec spec' : Spec) (a b : Identity), spec'.domain ≠ "" →
      (∀ r ∈ spec.managed, r.domain = spec'.domain) →
      (spec'.localRegion b ∈ spec.managedRegions a ↔
        ∃ r ∈ spec.managed, a.inRegion r = b ∨ (a.inRegion r).RunsInto b ∨
          b.RunsInto (a.inRegion r))) ∧
    ∀ c c' : String, c ≠ c' →
      (∀ d d', datacenter c d = datacenter c' d' ↔ RunsInto c d c' d' ∨ RunsInto c' d' c d) ∧
      (∀ d d' i j, 0 ≤ i → 0 ≤ j →
        (pod c d i = pod c' d' j ↔ datacenter c d = datacenter c' d' ∧ i = j) ∧
        (job (pod c d i) = job (pod c' d' j) ↔ datacenter c d = datacenter c' d' ∧ i = j)) ∧
      startEntries c ≠ startEntries c' ∧ addressMemory c ≠ addressMemory c' ∧
      startEntries c ≠ addressMemory c' ∧
      ∀ d i, 0 ≤ i → startEntries c ≠ job (pod c' d i) ∧ addressMemory c ≠ job (pod c' d i) := by
  refine ⟨fun a b domain differ => ?_, fun a b => ne_of_runsInto,
    fun spec spec' a b => localRegion_mem_managedRegions_iff, fun c c' differ => ?_⟩
  · rw [region_eq_iff, or_iff_right differ]
  refine ⟨fun d d' => ?_, fun d d' i j hi hj => ⟨pod_eq_iff hi hj, ?_⟩, ?_, ?_, ?_,
    fun d i hi => ?_⟩
  · rw [datacenter_eq_iff, or_iff_right fun same => differ same.1]
  · rw [← pod_eq_iff hi hj]
    exact ⟨job_inj, congrArg job⟩
  · exact fun same => differ (startEntries_inj same)
  · exact fun same => differ (addressMemory_inj same)
  · intro same
    have last := last_startEntries c
    rw [same, last_addressMemory] at last
    exact absurd last (by decide)
  · obtain ⟨digit, last, isDigit⟩ := last_job c' d hi
    constructor
    · intro same
      rw [← same, last_startEntries] at last
      cases last
      exact absurd isDigit (by decide)
    · intro same
      rw [← same, last_addressMemory] at last
      cases last
      exact absurd isDigit (by decide)

/-- A cluster that is also in the namespace of another one's, under one domain. -/
def beside : Spec where
  datacenters := []
  domain := "d"
  managed := [⟨"d", some "a-b"⟩]

theorem shared_iff_beside :
    region "b-c" "a" "d" = region "c" "a-b" "d" ∧
    beside.localRegion ⟨"b-c", "a"⟩ ∈ beside.managedRegions ⟨"c", "default"⟩ ∧
    region "c" "a" "d" ≠ region "c" "a-b" "d" ∧
    pod "a" "a-cassandra-b" 1 = pod "a-cassandra-a" "b" 1 ∧
    job (pod "a" "cassandra-b" 0) = job (pod "a-cassandra" "b" 0) ∧
    startEntries "a" ≠ job (pod "a-cassandra-a" "b" 0) := by
  obtain ⟨regions, apart, asked, names⟩ := shared_iff
  have runs : (⟨"b-c", "a"⟩ : Identity).RunsInto ⟨"c", "a-b"⟩ := ⟨"b", by decide, by decide⟩
  have under : ∀ r ∈ beside.managed, r.domain = beside.domain := by decide
  have heard := (asked beside beside ⟨"c", "default"⟩ ⟨"b-c", "a"⟩ (by decide) under).2
    ⟨⟨"d", some "a-b"⟩, by decide, .inr (.inr runs)⟩
  obtain ⟨datacenters, pods, -, -, -, maps⟩ := names "a" "a-cassandra-a" (by decide)
  obtain ⟨otherSets, otherPods, -⟩ := names "a" "a-cassandra" (by decide)
  have sets := (datacenters "a-cassandra-b" "b").2 (.inl (.inl ⟨"a", by decide, by decide⟩))
  have sets' := (otherSets "cassandra-b" "b").2 (.inl (.inr ⟨by decide, by decide⟩))
  refine ⟨(regions ⟨"b-c", "a"⟩ ⟨"c", "a-b"⟩ "d" (by decide)).2 (.inl runs), heard,
    fun same => ?_, ?_, ?_, (maps "b" 0 (by decide)).1⟩
  · rcases (regions ⟨"c", "a"⟩ ⟨"c", "a-b"⟩ "d" (by decide)).1 same with shared | shared
    · exact (apart _ _ shared).1 rfl
    · exact (apart _ _ shared).1 rfl
  · exact (pods "a-cassandra-b" "b" 1 1 (by decide) (by decide)).1.2 ⟨sets, rfl⟩
  · exact (otherPods "cassandra-b" "b" 0 0 (by decide) (by decide)).2.2 ⟨sets', rfl⟩

/-- So it is not so that the names of different clusters are different. -/
theorem shared_though_different :
    (⟨"b-c", "a"⟩ : Identity) ≠ ⟨"c", "a-b"⟩ ∧ region "b-c" "a" "d" = region "c" "a-b" "d" ∧
    "a" ≠ "a-cassandra-a" ∧ datacenter "a" "a-cassandra-b" = datacenter "a-cassandra-a" "b" ∧
    pod "a" "a-cassandra-b" 1 = pod "a-cassandra-a" "b" 1 ∧
    job (pod "a" "a-cassandra-b" 1) = job (pod "a-cassandra-a" "b" 1) := by
  have sets : datacenter "a" "a-cassandra-b" = datacenter "a-cassandra-a" "b" := by decide
  have pods : pod "a" "a-cassandra-b" 1 = pod "a-cassandra-a" "b" 1 := by rw [pod, pod, sets]
  exact ⟨by decide, by decide, by decide, sets, pods, congrArg job pods⟩

end Naming

end RingOperator
