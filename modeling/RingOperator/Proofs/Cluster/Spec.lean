import RingOperator.Cluster.Spec

/-!
# What is accepted as a declaration

A declaration is accepted just if its datacenters differ by name, none has a
negative count or fewer nodes than seeds, and every managed region has a domain
(`check_eq_ok_iff`).
-/

namespace RingOperator.Spec

theorem checkDatacenters_eq_ok_iff {numSeeds : Int} {seen : List String} {dcs : List Datacenter} :
    checkDatacenters numSeeds seen dcs = .ok () ↔ (dcs.map (·.name)).Nodup ∧
      ∀ dc ∈ dcs, dc.name ∉ seen ∧ 0 ≤ dc.replicas ∧ numSeeds ≤ dc.replicas := by
  induction dcs generalizing seen with
  | nil => simp [checkDatacenters]
  | cons dc rest ih =>
    rw [checkDatacenters]
    split
    · rename_i twice
      simp [twice]
    split
    · rename_i negative
      simp [Int.not_le.2 negative]
    split
    · rename_i few
      simp [Int.not_le.2 few.1]
    rename_i new positive seeds
    have enough : numSeeds ≤ dc.replicas := by omega
    -- For the rest the name of the first datacenter counts as seen.
    rw [ih, List.map_cons, List.nodup_cons, List.forall_mem_cons]
    constructor
    · rintro ⟨distinct, each⟩
      refine ⟨⟨?_, distinct⟩, ⟨new, by omega, enough⟩, fun other ho => ?_⟩
      · intro again
        obtain ⟨other, ho, same⟩ := List.mem_map.1 again
        exact (each other ho).1 (same ▸ List.mem_cons_self)
      · obtain ⟨unseen, counts⟩ := each other ho
        exact ⟨fun h => unseen (List.mem_cons_of_mem _ h), counts⟩
    · rintro ⟨⟨unique, distinct⟩, -, each⟩
      refine ⟨distinct, fun other ho => ?_⟩
      obtain ⟨unseen, counts⟩ := each other ho
      refine ⟨fun h => ?_, counts⟩
      rcases List.mem_cons.1 h with same | h
      · exact unique (List.mem_map.2 ⟨other, ho, same⟩)
      · exact unseen h

/-- When a declaration is accepted. -/
theorem check_eq_ok_iff {spec : Spec} : spec.check = .ok () ↔
    (spec.datacenters.map (·.name)).Nodup ∧
      (∀ dc ∈ spec.datacenters, 0 ≤ dc.replicas ∧ spec.numSeeds ≤ dc.replicas) ∧
      ∀ region ∈ spec.managed, region.domain ≠ "" := by
  have domains : (spec.managed.any fun region => region.domain = "") = false ↔
      ∀ region ∈ spec.managed, region.domain ≠ "" := by
    simp
  rw [check, ← domains]
  cases counts : checkDatacenters spec.numSeeds [] spec.datacenters with
  | error failure =>
    have refused := mt checkDatacenters_eq_ok_iff.2 (by rw [counts]; simp)
    constructor
    · intro h
      cases h
    · rintro ⟨distinct, each, -⟩
      exact absurd ⟨distinct, fun dc hd => ⟨List.not_mem_nil, each dc hd⟩⟩ refused
  | ok _ =>
    obtain ⟨distinct, each⟩ := checkDatacenters_eq_ok_iff.1 counts
    have each := fun dc hd => (each dc hd).2
    cases spec.managed.any fun region => region.domain = "" with
    | true =>
      constructor
      · intro h
        cases h
      · rintro ⟨-, -, ⟨⟩⟩
    | false => exact ⟨fun _ => ⟨distinct, each, rfl⟩, fun _ => rfl⟩

end RingOperator.Spec
