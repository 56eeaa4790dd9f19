import Mathlib.Data.List.Count

/-!
# Rolling windows

A log of stamps, and a gate that counts the stamps of the window that ends at a moment.
Where what is appended has passed the gate, no window holds more stamps than the budget.
-/

namespace Relational.RollingWindow

variable {window budget moment now : ℕ} {stamps : List ℕ}

/-- The stamps after the beginning of the window that ends at a moment. -/
def since (window now : ℕ) (stamps : List ℕ) : ℕ :=
  stamps.countP fun stamp => now < stamp + window

/-- The stamps in the window that ends at a moment. -/
def within (window moment : ℕ) (stamps : List ℕ) : ℕ :=
  stamps.countP fun stamp => stamp ≤ moment ∧ moment < stamp + window

/-- No window holds more stamps than the budget. -/
def Kept (window budget : ℕ) (stamps : List ℕ) : Prop :=
  ∀ moment, within window moment stamps ≤ budget

/-- A window that ends later begins later. -/
theorem within_le_since (hlater : now ≤ moment) :
    within window moment stamps ≤ since window now stamps := by
  apply List.countP_mono_left
  intro stamp _ hwithin
  simp only [decide_eq_true_eq] at *
  omega

theorem within_append (stamp : ℕ) :
    within window moment (stamps ++ [stamp]) =
      within window moment stamps +
        if stamp ≤ moment ∧ moment < stamp + window then 1 else 0 := by
  simp [within, List.countP_append, List.countP_singleton]

/-- A stamp that has passed the gate keeps the budget. -/
theorem Kept.append (hkept : Kept window budget stamps)
    (hgate : since window now stamps < budget) : Kept window budget (stamps ++ [now]) := by
  intro moment
  rw [within_append]
  split
  · rename_i hin
    have hcount : within window moment stamps ≤ since window now stamps := within_le_since hin.1
    omega
  · exact hkept moment

end Relational.RollingWindow
