import RingOperator.Naming

/-!
# Names identify pods

A pod's name ends in its ordinal, written in digits, behind a dash. As digits
hold no dash, the datacenter and the ordinal can be told from the name
(`pod_inj`), whatever the name of the datacenter holds.
-/

namespace RingOperator

namespace Text.Numeral

theorem digitValue_digitChar {n : Nat} (h : n < 10) : digitValue (digitChar n) = n := by
  revert n
  decide

theorem isDigit_digitChar {n : Nat} (h : n < 10) : (digitChar n).isDigit = true := by
  revert n
  decide

/-- The digits of a number give its value back. -/
theorem value_digits (n : Nat) : value (digits n) = n := by
  induction n using digits.induct with
  | case1 n small =>
    rw [digits, if_pos small]
    simp [value, digitValue_digitChar small]
  | case2 n large ih =>
    rw [digits, if_neg large, value, List.foldl_append, ← value, ih]
    rw [List.foldl_cons, List.foldl_nil, digitValue_digitChar (Nat.mod_lt n (by decide))]
    exact Nat.div_add_mod n 10

theorem isDigit_of_mem_digits {n : Nat} {c : Char} (h : c ∈ digits n) : c.isDigit = true := by
  induction n using digits.induct with
  | case1 n small =>
    rw [digits, if_pos small, List.mem_singleton] at h
    exact h ▸ isDigit_digitChar small
  | case2 n large ih =>
    rw [digits, if_neg large, List.mem_append, List.mem_singleton] at h
    rcases h with h | rfl
    · exact ih h
    · exact isDigit_digitChar (Nat.mod_lt n (by decide))

theorem dash_not_mem_digits (n : Nat) : '-' ∉ digits n :=
  fun h => absurd (isDigit_of_mem_digits h) (by decide)

theorem digits_inj {m n : Nat} (h : digits m = digits n) : m = n := by
  rw [← value_digits m, h, value_digits]

theorem ofNat_inj {m n : Nat} : ofNat m = ofNat n ↔ m = n :=
  ⟨fun h => digits_inj (String.ofList_injective h), congrArg ofNat⟩

theorem toList_ofInt {i : Int} (h : 0 ≤ i) : (ofInt i).toList = digits i.toNat := by
  obtain ⟨n, rfl⟩ := Int.eq_ofNat_of_zero_le h
  exact String.toList_ofList

end Text.Numeral

namespace Naming

open Text Numeral

theorem toList_pod (cluster dc : String) {i : Int} (h : 0 ≤ i) :
    (pod cluster dc i).toList = (datacenter cluster dc).toList ++ '-' :: digits i.toNat := by
  rw [pod, String.toList_append, String.toList_append, toList_ofInt h, List.append_assoc]
  rfl

theorem datacenter_inj {cluster d e : String} (h : datacenter cluster d = datacenter cluster e) :
    d = e := by
  have chars := congrArg String.toList h
  simp only [datacenter, String.toList_append] at chars
  exact String.toList_inj.1 (List.append_cancel_left chars)

/-- What stands behind the last dash is told from the rest. -/
theorem eq_of_append_dash {xs ys ds es : List Char} (hd : '-' ∉ ds) (he : '-' ∉ es)
    (h : xs ++ '-' :: ds = ys ++ '-' :: es) : xs = ys ∧ ds = es := by
  -- Otherwise one of the two dashes would stand among the digits behind the other.
  rcases List.append_eq_append_iff.1 h with ⟨between, rfl, rest⟩ | ⟨between, rfl, rest⟩
  · cases between with
    | nil => exact ⟨(List.append_nil xs).symm, (List.cons_eq_cons.1 rest).2⟩
    | cons _ between =>
      rw [(List.cons_eq_cons.1 rest).2] at hd
      exact absurd (List.mem_append_right between List.mem_cons_self) hd
  · cases between with
    | nil => exact ⟨List.append_nil ys, (List.cons_eq_cons.1 rest).2.symm⟩
    | cons _ between =>
      rw [(List.cons_eq_cons.1 rest).2] at he
      exact absurd (List.mem_append_right between List.mem_cons_self) he

/-- Pods of one cluster with one name are of one datacenter and have one ordinal. -/
theorem pod_inj {cluster d e : String} {i j : Int} (hi : 0 ≤ i) (hj : 0 ≤ j)
    (h : pod cluster d i = pod cluster e j) : d = e ∧ i = j := by
  have chars := congrArg String.toList h
  rw [toList_pod cluster d hi, toList_pod cluster e hj] at chars
  obtain ⟨same, digits⟩ := eq_of_append_dash (dash_not_mem_digits _) (dash_not_mem_digits _) chars
  have := digits_inj digits
  exact ⟨datacenter_inj (String.toList_inj.1 same), by omega⟩

/-- The two config maps of a cluster have different names. -/
theorem addressMemory_ne_startEntries (cluster : String) :
    addressMemory cluster ≠ startEntries cluster := by
  intro same
  have chars := congrArg String.toList same
  rw [addressMemory, startEntries, String.toList_append, String.toList_append] at chars
  exact absurd (List.append_cancel_left chars) (by decide)

end Naming

end RingOperator
