import Mathlib.Algebra.BigOperators.Group.Finset.Basic
import Mathlib.Algebra.Order.BigOperators.Group.Finset
import Mathlib.Data.Fintype.BigOperators

/-!
# Counting where the parties are

Each party is somewhere, and a place counts for so much.  When one party moves, the
count changes by what its two places count for.
-/

namespace Relational

variable {Party Place : Type*} [Fintype Party]

/-- What the places of all parties count for. -/
def census (weight : Party → Place → ℕ) (place : Party → Place) : ℕ :=
  ∑ party, weight party (place party)

/-- One party's place counts for its part of the census. -/
theorem le_census (weight : Party → Place → ℕ) (place : Party → Place) (party : Party) :
    weight party (place party) ≤ census weight place :=
  Finset.single_le_sum (f := fun other => weight other (place other))
    (fun _ _ => Nat.zero_le _) (Finset.mem_univ party)

/-- One party moves. -/
theorem census_update [DecidableEq Party] (weight : Party → Place → ℕ)
    (place : Party → Place) (party : Party) (next : Place) :
    census weight (Function.update place party next) + weight party (place party) =
      census weight place + weight party next := by
  have hothers : ∑ other ∈ Finset.univ.erase party,
      weight other (Function.update place party next other) =
        ∑ other ∈ Finset.univ.erase party, weight other (place other) := by
    apply Finset.sum_congr rfl
    intro other hother
    rw [Function.update_of_ne (Finset.ne_of_mem_erase hother)]
  rw [census, census, ← Finset.sum_erase_add _ _ (Finset.mem_univ party), hothers,
    ← Finset.sum_erase_add _ _ (Finset.mem_univ party), Function.update_self]
  omega

/-- A weight below another counts to no more. -/
theorem census_mono {weight larger : Party → Place → ℕ} {place : Party → Place}
    (hle : ∀ party spot, weight party spot ≤ larger party spot) :
    census weight place ≤ census larger place :=
  Finset.sum_le_sum fun party _ => hle party (place party)

end Relational
