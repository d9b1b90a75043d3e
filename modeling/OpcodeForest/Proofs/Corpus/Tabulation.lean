import Mathlib.Algebra.GroupWithZero.Nat
import OpcodeForest.Corpus

/-!
# Tabulating by halves

An opcode map looks each of its places up in all rows. To evaluate the built-in records it is
quicker to halve the rows with the places: the rows of the lower half go on, then those of the upper
half with smaller numbers, until a place is left with the rows that name it.

* `tabulate_eq_halves`: this gives the same map.
* `Draft.map_eq_halves`: so it does in a draft.
-/

namespace OpcodeForest

namespace Rows

/-- The rows of the places below `n`. -/
def lower (n : Nat) (rows : Rows) : Rows := rows.filter fun a => !Nat.ble n a.1

/-- The rows of the other places, counted from `n`. -/
def upper (n : Nat) (rows : Rows) : Rows :=
  (rows.filter fun a => Nat.ble n a.1).map fun a => (a.1 - n, a.2)

theorem ble_eq_false {n k : Nat} (h : ¬ n ≤ k) : Nat.ble n k = false :=
  Bool.eq_false_iff.mpr fun htrue => h (Nat.le_of_ble_eq_true htrue)

/-- The lower half has the rows below the middle. -/
theorem lookup_lower {n k : Nat} (h : k < n) (rows : Rows) :
    (lower n rows).lookup k = rows.lookup k := by
  induction rows with
  | nil => rfl
  | cons a rows ih =>
      obtain ⟨j, e⟩ := a
      rw [lower] at ih
      rw [lower, List.filter_cons]
      by_cases hj : n ≤ j
      · have hne : (k == j) = false := beq_eq_false_iff_ne.mpr (by omega)
        rw [Nat.ble_eq_true_of_le hj, List.lookup_cons, hne]
        exact ih
      · rw [ble_eq_false hj, Bool.not_false, if_pos rfl, List.lookup_cons, List.lookup_cons, ih]

/-- In the upper half the rows are numbered from the middle on. -/
theorem lookup_upper (n k : Nat) (rows : Rows) :
    (upper n rows).lookup k = rows.lookup (n + k) := by
  induction rows with
  | nil => rfl
  | cons a rows ih =>
      obtain ⟨j, e⟩ := a
      rw [upper] at ih
      rw [upper, List.filter_cons]
      by_cases hj : n ≤ j
      · have hsame : (k == j - n) = (n + k == j) := by
          rw [Bool.eq_iff_iff, beq_iff_eq, beq_iff_eq]
          omega
        rw [Nat.ble_eq_true_of_le hj, if_pos rfl, List.map_cons, List.lookup_cons, List.lookup_cons,
          hsame, ih]
      · have hne : (n + k == j) = false := beq_eq_false_iff_ne.mpr (by omega)
        rw [ble_eq_false hj, List.lookup_cons, hne]
        exact ih

end Rows

/-- `2 ^ b` places, by halves. -/
def halves (rest : Entry) : (b : Nat) → Rows → List Entry
  | 0, rows => [(rows.lookup 0).getD rest]
  | b + 1, rows =>
      halves rest b (Rows.lower (2 ^ b) rows) ++ halves rest b (Rows.upper (2 ^ b) rows)

/-- **Halving gives the same map**, by induction on the number of halvings. -/
theorem tabulate_eq_halves (rest : Entry) (b : Nat) (rows : Rows) :
    tabulate (2 ^ b) rest rows = halves rest b rows := by
  induction b generalizing rows with
  | zero => rfl
  | succ b ih =>
      rw [halves, ← ih, ← ih, Nat.pow_succ, Nat.mul_two, tabulate, List.range_add, List.map_append,
        List.map_map]
      congr 1
      · refine List.map_congr_left fun k hk => ?_
        rw [Rows.lookup_lower (List.mem_range.mp hk)]
      · refine List.map_congr_left fun k _ => ?_
        rw [Rows.lookup_upper]
        rfl

/-- **An opcode map can be tabulated by halves.** -/
theorem Draft.map_eq_halves (rows : Rows) :
    Draft.map rows = Draft.array (halves .invalid 8 rows) := by
  rw [← tabulate_eq_halves]
  rfl

end OpcodeForest
