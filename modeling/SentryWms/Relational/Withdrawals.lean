import SentryWms.Relational.Totals

/-!
# Withdrawals from keyed balances

Lines withdraw their amounts one after another, each from the balance its key has left.
When no amount is negative, all of them go through if and only if no key's lines
together exceed its balance, in whatever order they come.
-/

namespace Relational

variable {Line Key : Type*} [DecidableEq Key] (key : Line → Key) (amount : Line → ℤ)

/-- What the balances are after a withdrawal. -/
def withdraw (balance : Key → ℤ) (line : Line) : Key → ℤ :=
  fun other => if other = key line then balance other - amount line else balance other

/-- Every withdrawal is covered by what the earlier ones have left. -/
def Withdraws (balance : Key → ℤ) : List Line → Prop
  | [] => True
  | line :: rest =>
      amount line ≤ balance (key line) ∧ Withdraws (withdraw key amount balance line) rest

variable {key amount}

theorem withdraws_iff {balance : Key → ℤ} {lines : List Line}
    (hnonneg : ∀ line ∈ lines, 0 ≤ amount line) :
    Withdraws key amount balance lines ↔
      ∀ line ∈ lines, totalOver key amount (fun other => other = key line) lines ≤
        balance (key line) := by
  induction lines generalizing balance with
  | nil => simp [Withdraws]
  | cons line rest ih =>
      have hrest : ∀ other ∈ rest, 0 ≤ amount other := fun other hother =>
        hnonneg other (List.mem_cons_of_mem line hother)
      rw [Withdraws, ih hrest]
      constructor
      · rintro ⟨hline, hlater⟩
        have hkey : ∀ k, (k = key line ∨ ∃ other ∈ rest, key other = k) →
            totalOver key amount (fun other => other = k) (line :: rest) ≤ balance k := by
          intro k hk
          rw [totalOver_cons]
          by_cases hmet : ∃ other ∈ rest, key other = k
          · obtain ⟨other, hother, rfl⟩ := hmet
            have hleft := hlater other hother
            rw [withdraw] at hleft
            by_cases hsame : key other = key line
            · rw [if_pos hsame] at hleft
              rw [if_pos (decide_eq_true hsame.symm)]
              omega
            · rw [if_neg hsame] at hleft
              rw [if_neg (by simpa using Ne.symm hsame), zero_add]
              exact hleft
          · obtain rfl := hk.resolve_right hmet
            rw [if_pos (decide_eq_true rfl), totalOver_eq_zero, add_zero]
            · exact hline
            · intro other hother
              exact decide_eq_false fun hsame => hmet ⟨other, hother, hsame⟩
        intro other hother
        apply hkey
        cases List.mem_cons.mp hother with
        | inl hhead => exact Or.inl (congrArg key hhead)
        | inr htail => exact Or.inr ⟨other, htail, rfl⟩
      · intro hcovered
        constructor
        · have hhead := hcovered line List.mem_cons_self
          rw [totalOver_cons, if_pos (decide_eq_true rfl)] at hhead
          have htail :
              0 ≤ totalOver key amount (fun other => decide (other = key line)) rest :=
            totalOver_nonneg (fun other => other = key line) hrest
          omega
        · intro other hother
          have hboth := hcovered other (List.mem_cons_of_mem line hother)
          rw [totalOver_cons] at hboth
          rw [withdraw]
          by_cases hsame : key other = key line
          · rw [if_pos (decide_eq_true hsame.symm)] at hboth
            rw [if_pos hsame]
            omega
          · rw [if_neg (by simpa using Ne.symm hsame), zero_add] at hboth
            rw [if_neg hsame]
            exact hboth

end Relational
