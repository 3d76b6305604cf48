import Mathlib.Data.List.Find
import Mathlib.Data.List.Sort
import Mathlib.Data.String.Basic
import RingOperator.Snapshot

/-!
# Members in the order of their names

A snapshot holds the members that it is made of, no more and no less
(`arrange_perm`), in the order of their names (`arrange_pairwise`). So the next
node of a datacenter that is no seed is told by the names alone
(`nextNonSeed_name`), and members of different names are arranged alike, in
whatever order they come (`arrange_eq_of_perm`).
-/

namespace RingOperator

/-- Texts in their order. -/
def inOrder (names : List String) : List String := names.insertionSort (· ≤ ·)

theorem inOrder_perm (names : List String) : (inOrder names).Perm names :=
  List.perm_insertionSort _ names

theorem inOrder_pairwise (names : List String) : (inOrder names).Pairwise (· ≤ ·) :=
  List.pairwise_insertionSort _ names

/-- Texts that ascend are in their order. -/
theorem eq_inOrder_of_perm {names others : List String} (perm : names.Perm others)
    (ascend : names.Pairwise (· ≤ ·)) : names = inOrder others :=
  (perm.trans (inOrder_perm others).symm).eq_of_pairwise
    (fun _ _ _ _ => String.le_antisymm) ascend (inOrder_pairwise others)

/-- A member has the name of its pod. -/
theorem Member.name_of_ofPod? {pod : Pod} {m : Member} (h : Member.ofPod? pod = some m) :
    m.name = pod.metadata.name := by
  obtain ⟨dc, -, h⟩ := Option.bind_eq_some_iff.1 h
  obtain ⟨ordinal, -, h⟩ := Option.bind_eq_some_iff.1 h
  cases h
  rfl

/-- Members that are named after what they come from have the names of that, in its order. -/
theorem Member.sublist_names {α : Type} {member? : α → Option Member} {nameOf : α → String}
    (named : ∀ a m, member? a = some m → m.name = nameOf a) (l : List α) :
    ((l.filterMap member?).map (·.name)).Sublist (l.map nameOf) := by
  induction l with
  | nil => exact .slnil
  | cons a l ih =>
    cases given : member? a with
    | none =>
      rw [List.filterMap_cons_none given]
      exact ih.cons _
    | some m =>
      rw [List.filterMap_cons_some given, List.map_cons, List.map_cons, named a m given]
      exact ih.cons_cons _

/-- Pods of different names are members of different names. -/
theorem Member.nodup_names {pods : List Pod} (distinct : (pods.map (·.metadata.name)).Nodup) :
    ((pods.filterMap Member.ofPod?).map (·.name)).Nodup :=
  distinct.sublist (sublist_names (fun _ _ => name_of_ofPod?) pods)

namespace Snapshot

variable {members : List Member}

theorem insertMember_perm (m : Member) (members : List Member) :
    (insertMember m members).Perm (m :: members) := by
  induction members with
  | nil => exact List.Perm.refl _
  | cons other rest ih =>
    rw [insertMember]
    split
    · exact (ih.cons other).trans (List.Perm.swap m other rest)
    · exact List.Perm.refl _

/-- Arranging members neither adds nor loses one. -/
theorem arrange_perm (members : List Member) : (arrange members).Perm members := by
  induction members with
  | nil => exact List.Perm.nil
  | cons m rest ih => exact (insertMember_perm m _).trans (ih.cons m)

theorem insertMember_pairwise (m : Member) (h : members.Pairwise fun a b => a.name ≤ b.name) :
    (insertMember m members).Pairwise fun a b => a.name ≤ b.name := by
  induction members with
  | nil => exact List.pairwise_singleton _ m
  | cons other rest ih =>
    obtain ⟨first, tail⟩ := List.pairwise_cons.1 h
    rw [insertMember]
    split
    · rename_i less
      refine List.pairwise_cons.2 ⟨fun a ha => ?_, ih tail⟩
      rcases List.mem_cons.1 ((insertMember_perm m rest).mem_iff.1 ha) with rfl | ha
      · exact Std.le_of_lt less
      · exact first a ha
    · rename_i notLess
      have before := String.not_lt.1 notLess
      refine List.pairwise_cons.2 ⟨fun a ha => ?_, h⟩
      rcases List.mem_cons.1 ha with rfl | ha
      · exact before
      · exact String.le_trans before (first a ha)

/-- Arranged members are in the order of their names. -/
theorem arrange_pairwise (members : List Member) :
    (arrange members).Pairwise fun a b => a.name ≤ b.name := by
  induction members with
  | nil => exact List.Pairwise.nil
  | cons m rest ih => exact insertMember_pairwise m ih

/-- Members of different names can come in any order. -/
theorem arrange_eq_of_perm {members' : List Member} (distinct : (members.map (·.name)).Nodup)
    (perm : members.Perm members') : arrange members = arrange members' := by
  have same : (arrange members).Perm (arrange members') :=
    (arrange_perm members).trans (perm.trans (arrange_perm members').symm)
  refine same.eq_of_pairwise (fun m n hm hn le ge => ?_) (arrange_pairwise _) (arrange_pairwise _)
  have hm := (arrange_perm members).mem_iff.1 hm
  have hn := perm.mem_iff.2 ((arrange_perm members').mem_iff.1 hn)
  exact List.inj_on_of_nodup_map distinct hm hn (String.le_antisymm le ge)

/-- Where names ascend, the first member with a property is the one that has no smaller name. -/
theorem find?_eq_some_iff_of_ascend (ascend : members.Pairwise fun a b => a.name < b.name)
    {p : Member → Bool} {m : Member} : members.find? p = some m ↔
      m ∈ members ∧ p m = true ∧ ∀ n ∈ members, n.name < m.name → p n = false := by
  constructor
  · intro h
    obtain ⟨has, before, after, rfl, first⟩ := List.find?_eq_some_iff_append.1 h
    refine ⟨by simp, has, fun n hn less => ?_⟩
    rcases List.mem_append.1 hn with hn | hn
    · simpa using first n hn
    · rcases List.mem_cons.1 hn with rfl | hn
      · exact absurd less (String.lt_irrefl _)
      · have more := (List.pairwise_cons.1 (List.pairwise_append.1 ascend).2.1).1 n hn
        exact absurd (String.lt_trans less more) (String.lt_irrefl _)
  · rintro ⟨hm, has, least⟩
    obtain ⟨before, after, rfl⟩ := List.append_of_mem hm
    refine List.find?_eq_some_iff_append.2 ⟨has, before, after, rfl, fun n hn => ?_⟩
    have less := (List.pairwise_append.1 ascend).2.2 n hn m List.mem_cons_self
    rw [least n (List.mem_append_left _ hn) less]
    rfl

/-- Members whose names ascend differ by name. -/
theorem eq_of_ascend (ascend : members.Pairwise fun a b => a.name < b.name) {m n : Member}
    (hm : m ∈ members) (hn : n ∈ members) (same : m.name = n.name) : m = n :=
  List.inj_on_of_nodup_map
    (List.pairwise_map.2 (ascend.imp fun less => String.ne_of_lt less)) hm hn same

/-- Names that are in order and differ from each other ascend. -/
theorem ascend_of_nodup (order : members.Pairwise fun a b => a.name ≤ b.name)
    (distinct : (members.map (·.name)).Nodup) :
    members.Pairwise fun a b => a.name < b.name :=
  (order.and (List.pairwise_map.1 distinct)).imp fun ⟨le, differ⟩ =>
    Decidable.byContradiction fun notLess =>
      differ (String.le_antisymm le (String.not_lt.1 notLess))

/-- The seeds of a datacenter are ready if every member of it with the label is. -/
theorem seedsReady_iff {s : Snapshot} {dc : String} {m : Member} (hm : m ∈ s.members) :
    s.seedsReady dc = true ↔
      ∀ n ∈ s.members, n.dc = dc → n.seed = true → n.ready = true := by
  rw [seedsReady, isEmpty, List.isEmpty_eq_false_iff.2 (List.ne_nil_of_mem hm)]
  simp only [membersOf, Bool.not_false, Bool.true_and, List.all_eq_true, List.mem_filter,
    decide_eq_true_eq, and_imp]

/-- The next node of a datacenter is the one with the smallest name among those that are neither
    ready nor seeds. -/
theorem nextNonSeed_eq_some_iff {s : Snapshot} {dc : String} {m : Member}
    (ascend : s.members.Pairwise fun a b => a.name < b.name) :
    s.nextNonSeed dc = some m ↔ (m ∈ s.members ∧ m.dc = dc) ∧
      (m.seed = false ∧ m.ready = false) ∧
      ∀ n ∈ s.members, n.dc = dc → n.name < m.name → n.seed = true ∨ n.ready = true := by
  rw [nextNonSeed, membersOf, find?_eq_some_iff_of_ascend (ascend.filter _)]
  simp only [ List.mem_filter, decide_eq_true_eq, Bool.and_eq_true, Bool.not_eq_true',
    and_imp, Bool.and_eq_false_iff, Bool.not_eq_false']

/-- Where being ready is a matter of the name, the next node of a datacenter is the first one among
    the names of those that are no seeds. -/
theorem nextNonSeed_name {s : Snapshot} {dc : String} {ready : String → Bool}
    (h : ∀ m ∈ s.members, m.ready = ready m.name) :
    (s.nextNonSeed dc).map (·.name) =
      (((s.membersOf dc).filter fun m => !m.seed).map (·.name)).find? fun name => !ready name := by
  -- To look for a name among names is to look for the member that has it.
  rw [List.find?_map, List.find?_filter, nextNonSeed]
  congr 1
  refine List.find?_congr fun m hm => ?_
  rw [h m (List.mem_filter.1 hm).1]
  simp

end Snapshot

end RingOperator
