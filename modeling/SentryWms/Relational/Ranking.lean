import Mathlib.Data.List.Sort
import Mathlib.Order.Basic

/-!
# Places in a sorted list

The place of a row among rows that are told apart by a key is the number of rows with a
smaller key.
-/

namespace Relational

variable {Row Key : Type*} [LinearOrder Key]

/-- How many of the rows come before a row in the order of a key. -/
def rank (key : Row → Key) (rows : List Row) (row : Row) : ℕ :=
  rows.countP fun other => key other < key row

variable {key : Row → Key} {rows : List Row}

theorem rank_cons (first row : Row) :
    rank key (first :: rows) row =
      rank key rows row + if key first < key row then 1 else 0 := by
  simp [rank, List.countP_cons]

/-- The order of the rows does not matter. -/
theorem rank_perm {others : List Row} (hperm : rows.Perm others) (row : Row) :
    rank key rows row = rank key others row :=
  hperm.countP_eq _

/-- A row with a smaller key has a smaller place. -/
theorem rank_lt_rank {first second : Row} (hfirst : first ∈ rows)
    (hlt : key first < key second) : rank key rows first < rank key rows second := by
  induction rows with
  | nil => cases hfirst
  | cons head rest ih =>
      have hle : rank key rest first ≤ rank key rest second :=
        List.countP_mono_left fun other _ hbefore =>
          decide_eq_true ((of_decide_eq_true hbefore).trans hlt)
      rw [rank_cons, rank_cons]
      cases List.mem_cons.mp hfirst with
      | inl hhead =>
          rw [← hhead, if_pos hlt, if_neg (lt_irrefl _)]
          exact Nat.lt_succ_of_le hle
      | inr hrest =>
          have hmore : (if key head < key first then 1 else 0) ≤
              if key head < key second then 1 else 0 := by
            by_cases hhead : key head < key first
            · rw [if_pos hhead, if_pos (hhead.trans hlt)]
            · rw [if_neg hhead]
              exact Nat.zero_le _
          exact Nat.add_lt_add_of_lt_of_le (ih hrest) hmore

/-- Rows in the strict order of their keys are numbered by their places. -/
theorem zipIdx_of_sorted (hsorted : rows.Pairwise fun first second => key first < key second)
    (start : ℕ) :
    rows.zipIdx start = rows.map fun row => (row, start + rank key rows row) := by
  induction rows generalizing start with
  | nil => rfl
  | cons first rest ih =>
      obtain ⟨hfirst, hrest⟩ := List.pairwise_cons.mp hsorted
      have hzero : rank key rest first = 0 :=
        List.countP_eq_zero.mpr fun other hother =>
          decide_eq_true_iff.not.mpr (lt_asymm (hfirst other hother))
      rw [List.zipIdx_cons, ih hrest, List.map_cons, rank_cons, hzero, if_neg (lt_irrefl _)]
      congr 1
      apply List.map_congr_left
      intro row hrow
      rw [rank_cons, if_pos (hfirst row hrow)]
      congr 1
      omega

/-- Rows told apart by the key, once sorted, are in its strict order. -/
theorem strict_insertionSort (hnodup : (rows.map key).Nodup) :
    (rows.insertionSort fun first second => key first ≤ key second).Pairwise
      fun first second => key first < key second := by
  have hsorted := List.pairwise_insertionSort
    (fun first second : Row => key first ≤ key second) rows
  have hdistinct : ((rows.insertionSort fun first second =>
      key first ≤ key second).map key).Nodup :=
    ((List.perm_insertionSort _ rows).map key).nodup_iff.mpr hnodup
  rw [List.Nodup, List.pairwise_map] at hdistinct
  exact hsorted.imp₂ (fun first second hle hne => lt_of_le_of_ne hle hne) hdistinct

/-- How many numbers from one on are below a bound. -/
theorem countP_range'_lt (count bound : ℕ) :
    (List.range' 1 count).countP (fun place => decide (place < bound)) =
      min (bound - 1) count := by
  induction count with
  | zero => simp
  | succ count ih =>
      rw [List.range'_concat, List.countP_append, ih, List.countP_singleton]
      by_cases hlast : 1 + 1 * count < bound
      · rw [if_pos (decide_eq_true hlast)]
        omega
      · rw [if_neg (decide_eq_true_iff.not.mpr hlast)]
        omega

end Relational
