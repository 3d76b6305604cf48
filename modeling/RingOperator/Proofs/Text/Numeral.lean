import Mathlib.Algebra.Group.Nat.Defs
import RingOperator.Proofs.Naming

/-!
# Digits of numbers

What a reader of numbers has to know of the digits that are written: how many there are
(`length_digits_le`), that several do not start with zero (`head?_digits_ne_zero`), and that
zeros in front change the width and not the value (`length_padded`, `value_padded`). Where
something else begins, the digits end (`takeWhile_append`).
-/

namespace RingOperator.Text.Numeral

theorem digits_ne_nil (n : Nat) : digits n ≠ [] := by
  rw [digits]
  split <;> simp

theorem toList_ofNat (n : Nat) : (ofNat n).toList = digits n :=
  String.toList_ofList

theorem toList_ofInt_negSucc (n : Nat) : (ofInt (.negSucc n)).toList = '-' :: digits (n + 1) := by
  rw [ofInt, String.toList_append, toList_ofNat]
  rfl

/-- A number that is not zero does not start with zero. -/
theorem head?_digits_ne_zero {n : Nat} (h : 0 < n) : (digits n).head? ≠ some '0' := by
  induction n using digits.induct with
  | case1 n small =>
    rw [digits, if_pos small]
    revert n
    decide
  | case2 n large ih =>
    rw [digits, if_neg large, List.head?_append, List.head?_eq_some_head (digits_ne_nil _),
      Option.some_or, ← List.head?_eq_some_head]
    exact ih (by omega)

/-- A number below a power of ten has no more digits than the power has zeros. -/
theorem length_digits_le {n width : Nat} (positive : 0 < width) (h : n < 10 ^ width) :
    (digits n).length ≤ width := by
  induction width generalizing n with
  | zero => exact absurd positive (by decide)
  | succ width ih =>
    rw [digits]
    split
    · simp
    · rename_i large
      have wide : 0 < width := by
        rcases width with _ | width
        · omega
        · exact Nat.succ_pos width
      rw [List.length_append, List.length_singleton]
      exact Nat.succ_le_succ (ih wide (by rw [Nat.pow_succ] at h; omega))

theorem value_replicate_append (count : Nat) (cs : List Char) :
    value (List.replicate count '0' ++ cs) = value cs := by
  induction count with
  | zero => rfl
  | succ count ih =>
    rw [List.replicate_succ, List.cons_append]
    exact ih

theorem toList_padded (width n : Nat) :
    (padded width n).toList = List.replicate (width - (digits n).length) '0' ++ digits n :=
  String.toList_ofList

theorem value_padded (width n : Nat) : value (padded width n).toList = n := by
  rw [toList_padded, value_replicate_append, value_digits]

theorem length_padded {width n : Nat} (positive : 0 < width) (h : n < 10 ^ width) :
    (padded width n).toList.length = width := by
  have short := length_digits_le positive h
  rw [toList_padded, List.length_append, List.length_replicate]
  omega

theorem isDigit_of_mem_padded {width n : Nat} {c : Char} (h : c ∈ (padded width n).toList) :
    c.isDigit = true := by
  rw [toList_padded, List.mem_append] at h
  rcases h with zero | digit
  · rw [List.eq_of_mem_replicate zero]
    decide
  · exact isDigit_of_mem_digits digit

theorem padded_ne_nil (width n : Nat) : (padded width n).toList ≠ [] := by
  rw [toList_padded]
  exact List.append_ne_nil_of_right_ne_nil _ (digits_ne_nil n)

/-- Digits end where something else begins. -/
theorem takeWhile_append {cs rest : List Char} (digits : ∀ c ∈ cs, c.isDigit = true)
    (stop : ∀ c ∈ rest.head?, c.isDigit = false) :
    (cs ++ rest).takeWhile Char.isDigit = cs ∧ (cs ++ rest).dropWhile Char.isDigit = rest := by
  rw [List.takeWhile_append_of_pos digits, List.dropWhile_append_of_pos digits]
  cases rest with
  | nil => exact ⟨List.append_nil cs, rfl⟩
  | cons c rest =>
    have other := stop c rfl
    rw [List.takeWhile_cons_of_neg (by simp [other]), List.dropWhile_cons_of_neg (by simp [other]),
      List.append_nil]
    exact ⟨rfl, rfl⟩

end RingOperator.Text.Numeral
