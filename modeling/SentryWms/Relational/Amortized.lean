import Mathlib.Algebra.Order.Group.Defs
import Mathlib.Algebra.Order.Monoid.Unbundled.Basic
import SentryWms.Relational.Run

/-!
# Amounts along a run

What the requests of a run bring together, and the potential method: where each request
brings no more than its allowance and what it takes out of a potential, a run brings no
more than its allowances and the potential it starts with.
-/

namespace Relational

variable {State Request Quantity : Type*} [AddCommGroup Quantity]

/-- The sum of an amount over the requests of a run, each in the state it is served in. -/
def totalAlong (serve : State → Request → State) (amount : State → Request → Quantity) :
    State → List Request → Quantity
  | _, [] => 0
  | state, request :: rest =>
      amount state request + totalAlong serve amount (serve state request) rest

variable [PartialOrder Quantity] [IsOrderedAddMonoid Quantity]

/-- The potential method. -/
theorem totalAlong_le {serve : State → Request → State} {inv : State → Prop}
    {safe : State → Request → Prop} {gain allowance : State → Request → Quantity}
    {potential : State → Quantity}
    (hinv : ∀ state request, inv state → safe state request → inv (serve state request))
    (hstep : ∀ state request, inv state → safe state request →
      gain state request + potential (serve state request) ≤
        potential state + allowance state request)
    {state : State} {requests : List Request} (hinit : inv state)
    (halong : Along serve safe state requests) :
    totalAlong serve gain state requests + potential (run serve state requests) ≤
      potential state + totalAlong serve allowance state requests := by
  induction requests generalizing state with
  | nil =>
      rw [totalAlong, totalAlong, zero_add, add_zero]
      exact le_refl _
  | cons request rest ih =>
      have hrest := ih (hinv state request hinit halong.1) halong.2
      have hhere := hstep state request hinit halong.1
      rw [totalAlong, totalAlong]
      calc
        gain state request + totalAlong serve gain (serve state request) rest +
              potential (run serve (serve state request) rest) =
            gain state request + (totalAlong serve gain (serve state request) rest +
              potential (run serve (serve state request) rest)) := add_assoc _ _ _
        _ ≤ gain state request + (potential (serve state request) +
              totalAlong serve allowance (serve state request) rest) :=
            add_le_add_right hrest _
        _ = gain state request + potential (serve state request) +
              totalAlong serve allowance (serve state request) rest :=
            (add_assoc _ _ _).symm
        _ ≤ potential state + allowance state request +
              totalAlong serve allowance (serve state request) rest :=
            add_le_add_left hhere _
        _ = potential state + (allowance state request +
              totalAlong serve allowance (serve state request) rest) := add_assoc _ _ _

end Relational
