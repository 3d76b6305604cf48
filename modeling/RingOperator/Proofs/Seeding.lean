import RingOperator.Proofs.Snapshot
import RingOperator.Seeding

/-!
# Seed labels in line

Where no two members share a name, changes of seed labels change each member by itself
(`foldl_relabel`). Those that the members need bring every label in line with the name
(`carry_labelChanges`), so members that were brought in line need no more of them
(`labelChanges_carry`).
-/

namespace RingOperator

namespace Seeding

/-- A member after a change, which concerns it if it has the name. -/
def touch (change : String × LabelChange) (m : Member) : Member :=
  if m.name = change.1 then { m with seed := change.2 = .add } else m

/-- A member after changes, one after another. -/
def carry (changes : List (String × LabelChange)) (m : Member) : Member :=
  changes.foldl (fun m change => touch change m) m

variable {changes : List (String × LabelChange)} {members : List Member} {seeds : List String}
  {m : Member}

@[simp] theorem name_touch (change : String × LabelChange) (m : Member) :
    (touch change m).name = m.name := by
  rw [touch]
  split <;> rfl

@[simp] theorem name_carry (changes : List (String × LabelChange)) (m : Member) :
    (carry changes m).name = m.name := by
  induction changes generalizing m with
  | nil => rfl
  | cons change rest ih => exact (ih _).trans (name_touch change m)

theorem carry_append (changes others : List (String × LabelChange)) (m : Member) :
    carry (changes ++ others) m = carry others (carry changes m) := List.foldl_append

/-- Changes of other members do not concern a member. -/
theorem carry_of_forall (others : ∀ change ∈ changes, change.1 ≠ m.name) :
    carry changes m = m := by
  induction changes with
  | nil => rfl
  | cons change rest ih =>
    obtain ⟨first, later⟩ := List.forall_mem_cons.1 others
    rw [carry, List.foldl_cons, touch, if_neg (Ne.symm first)]
    exact ih later

theorem relabel_eq_map (distinct : (members.map (·.name)).Nodup) (change : String × LabelChange) :
    relabel change members = members.map (touch change) := by
  induction members with
  | nil => rfl
  | cons m rest ih =>
    obtain ⟨fresh, distinct⟩ := List.nodup_cons.1 distinct
    rw [relabel, List.map_cons, touch]
    split
    · rename_i named
      -- Nobody else has the name.
      have others : rest.map (touch change) = rest.map id := by
        refine List.map_congr_left fun other among => if_neg fun same => fresh ?_
        exact List.mem_map.2 ⟨other, among, same.trans named.symm⟩
      rw [others, List.map_id]
    · rw [ih distinct]

/-- One after another, changes of seed labels change each member by itself. -/
theorem foldl_relabel (distinct : (members.map (·.name)).Nodup)
    (changes : List (String × LabelChange)) :
    changes.foldl (fun ms change => relabel change ms) members = members.map (carry changes) := by
  induction changes generalizing members with
  | nil => exact (List.map_id members).symm
  | cons change rest ih =>
    have same : ((members.map (touch change)).map (·.name)).Nodup := by
      simpa [Function.comp_def] using distinct
    rw [List.foldl_cons, relabel_eq_map distinct, ih same, List.map_map]
    rfl

theorem name_of_changeFor {change : String × LabelChange}
    (h : changeFor seeds m = some change) : change.1 = m.name := by
  unfold changeFor at h
  split at h <;> cases h <;> rfl

/-- A member needs no change just if its label is in line. -/
theorem changeFor_eq_none_iff :
    changeFor seeds m = none ↔ m.seed = seeds.contains m.name := by
  unfold changeFor
  cases m.seed <;> cases seeds.contains m.name <;> simp

theorem touch_of_changeFor {change : String × LabelChange}
    (h : changeFor seeds m = some change) :
    touch change m = { m with seed := seeds.contains m.name } := by
  rw [touch, if_pos (name_of_changeFor h).symm]
  unfold changeFor at h
  split at h <;> cases h <;>
  · rename_i listed
    rw [listed]
    rfl

/-- The changes that members need bring the label of each of them in line. -/
theorem carry_changes (distinct : (members.map (·.name)).Nodup) (among : m ∈ members) :
    carry (members.filterMap (changeFor seeds)) m =
      { m with seed := seeds.contains m.name } := by
  obtain ⟨before, after, rfl⟩ := List.append_of_mem among
  rw [List.map_append, List.map_cons, List.nodup_append] at distinct
  obtain ⟨-, later, apart⟩ := distinct
  have first : carry (before.filterMap (changeFor seeds)) m = m := by
    refine carry_of_forall fun change h => ?_
    obtain ⟨other, ho, needs⟩ := List.mem_filterMap.1 h
    rw [name_of_changeFor needs]
    exact apart _ (List.mem_map_of_mem ho) _ List.mem_cons_self
  have last (m' : Member) (named : m'.name = m.name) :
      carry (after.filterMap (changeFor seeds)) m' = m' := by
    refine carry_of_forall fun change h same => (List.nodup_cons.1 later).1 ?_
    obtain ⟨other, ho, needs⟩ := List.mem_filterMap.1 h
    rw [← named, ← same, name_of_changeFor needs]
    exact List.mem_map_of_mem ho
  rw [List.filterMap_append, carry_append, first]
  cases needs : changeFor seeds m with
  | none =>
    rw [List.filterMap_cons_none needs, last m rfl, ← changeFor_eq_none_iff.1 needs]
  | some change =>
    rw [List.filterMap_cons_some needs, carry, List.foldl_cons, touch_of_changeFor needs]
    exact last _ rfl

/-- Members that were brought in line need no change. -/
theorem labelChanges_carry (distinct : (members.map (·.name)).Nodup) (spec : Spec)
    (cluster : String) :
    labelChanges spec cluster (members.map (carry (labelChanges spec cluster members))) = [] := by
  refine List.filterMap_eq_nil_iff.2 fun m' h => ?_
  obtain ⟨m, among, rfl⟩ := List.mem_map.1 h
  rw [labelChanges, carry_changes distinct among]
  exact changeFor_eq_none_iff.2 rfl

end Seeding

namespace Snapshot

variable {f : Member → Member}

theorem insertMember_map (keeps : ∀ m, (f m).name = m.name) (m : Member)
    (members : List Member) :
    insertMember (f m) (members.map f) = (insertMember m members).map f := by
  induction members with
  | nil => rfl
  | cons other rest ih =>
    rw [List.map_cons, insertMember, insertMember, keeps, keeps, ih]
    split <;> rfl

/-- What keeps the names of members keeps their order. -/
theorem arrange_map (keeps : ∀ m, (f m).name = m.name) (members : List Member) :
    arrange (members.map f) = (arrange members).map f := by
  induction members with
  | nil => rfl
  | cons m rest ih =>
    rw [List.map_cons, arrange, List.foldr_cons, ← arrange, ih, insertMember_map keeps]
    rfl

end Snapshot

end RingOperator
