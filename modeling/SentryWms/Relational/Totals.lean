import Mathlib.Algebra.BigOperators.Group.Finset.Piecewise
import Mathlib.Algebra.Order.Ring.Int
import Mathlib.Algebra.Order.BigOperators.Group.Finset
import Mathlib.Algebra.Order.BigOperators.Group.List

/-!
# Totals of keyed amounts

A list of lines, each with a key and an amount, and the total of the lines whose key
passes a test.  Keys fall into groups: when no key's total exceeds the other list's,
and the totals of a group agree, the totals of its keys agree one by one.
-/

namespace Relational

variable {Line Key : Type*} (key : Line → Key) (amount : Line → ℤ)

/-- The total of the lines whose key passes the test. -/
def totalOver (test : Key → Bool) (lines : List Line) : ℤ :=
  (lines.map fun line => if test (key line) then amount line else 0).sum

variable {key amount}

@[simp]
theorem totalOver_nil (test : Key → Bool) : totalOver key amount test [] = 0 := rfl

@[simp]
theorem totalOver_cons (test : Key → Bool) (line : Line) (rest : List Line) :
    totalOver key amount test (line :: rest) =
      (if test (key line) then amount line else 0) +
        totalOver key amount test rest := by
  simp [totalOver]

@[simp]
theorem totalOver_append (test : Key → Bool) (front back : List Line) :
    totalOver key amount test (front ++ back) =
      totalOver key amount test front + totalOver key amount test back := by
  simp [totalOver]

theorem totalOver_perm (test : Key → Bool) {left right : List Line}
    (hperm : left.Perm right) :
    totalOver key amount test left = totalOver key amount test right :=
  (hperm.map _).sum_eq

theorem totalOver_nonneg (test : Key → Bool) {lines : List Line}
    (hnonneg : ∀ line ∈ lines, 0 ≤ amount line) :
    0 ≤ totalOver key amount test lines := by
  apply List.sum_nonneg
  intro value hvalue
  obtain ⟨line, hline, rfl⟩ := List.mem_map.mp hvalue
  by_cases htest : test (key line)
  · rw [if_pos htest]
    exact hnonneg line hline
  · rw [if_neg htest]

theorem totalOver_eq_zero (test : Key → Bool) {lines : List Line}
    (hnone : ∀ line ∈ lines, test (key line) = false) :
    totalOver key amount test lines = 0 := by
  apply List.sum_eq_zero
  intro value hvalue
  obtain ⟨line, hline, rfl⟩ := List.mem_map.mp hvalue
  simp [hnone line hline]

/-- A group's total is the sum over its keys. -/
theorem totalOver_group [DecidableEq Key] (test : Key → Bool) {lines : List Line}
    {keys : Finset Key}
    (hkeys : ∀ line ∈ lines, test (key line) = true → key line ∈ keys)
    (hgroup : ∀ k ∈ keys, test k = true) :
    totalOver key amount test lines =
      ∑ k ∈ keys, totalOver key amount (fun other => other = k) lines := by
  induction lines with
  | nil => simp
  | cons line rest ih =>
      have hrest := ih fun other hother => hkeys other (List.mem_cons_of_mem _ hother)
      simp only [totalOver_cons, decide_eq_true_eq]
      rw [Finset.sum_add_distrib, ← hrest, Finset.sum_ite_eq]
      by_cases htest : test (key line)
      · rw [if_pos htest, if_pos (hkeys line List.mem_cons_self htest)]
      · have houtside : key line ∉ keys := fun hmem => htest (hgroup _ hmem)
        rw [if_neg htest, if_neg houtside]

/-- No key above the other list's, and the group's totals equal: then the totals of
each key of the group are equal. -/
theorem totalAt_eq_of_group [DecidableEq Key] (test : Key → Bool)
    {left right : List Line}
    (hle : ∀ k, totalOver key amount (fun other => other = k) left ≤
      totalOver key amount (fun other => other = k) right)
    (htotal : totalOver key amount test left = totalOver key amount test right)
    {k : Key} (hk : test k = true) :
    totalOver key amount (fun other => other = k) left =
      totalOver key amount (fun other => other = k) right := by
  let keys : Finset Key :=
    insert k (((left ++ right).map key).toFinset.filter fun other => test other = true)
  have hgroup : ∀ other ∈ keys, test other = true := by
    intro other hother
    rcases Finset.mem_insert.mp hother with rfl | hmem
    · exact hk
    · exact (Finset.mem_filter.mp hmem).2
  have hkeys : ∀ lines, lines ⊆ left ++ right → ∀ line ∈ lines,
      test (key line) = true → key line ∈ keys := by
    intro lines hsub line hline htest
    apply Finset.mem_insert_of_mem
    exact Finset.mem_filter.mpr ⟨List.mem_toFinset.mpr (List.mem_map_of_mem (hsub hline)), htest⟩
  rw [totalOver_group test (hkeys left (List.subset_append_left _ _)) hgroup,
    totalOver_group test (hkeys right (List.subset_append_right _ _)) hgroup]
    at htotal
  exact (Finset.sum_eq_sum_iff_of_le fun other _ => hle other).mp htotal k
    (Finset.mem_insert_self _ _)

end Relational
