import Mathlib.Algebra.Order.BigOperators.Group.List
import Mathlib.Tactic.Linarith

/-!
# Greedy draws

A walk that takes what it still needs from one source after the other, never
more than the source can give, and stops once nothing is needed.  Reserving
stock, releasing it and distributing a pick over several claimants are all
walks of this shape; they differ only in the order and in what a source gives.
-/

namespace Relational

variable {Source : Type*}

/-- The sources the walk stops at, each with the amount taken there. -/
def draws (capacity : Source → ℤ) : ℤ → List Source → List (Source × ℤ)
  | _, [] => []
  | need, source :: rest =>
      if need ≤ 0 then []
      else
        let take := min need (capacity source)
        (source, take) :: draws capacity (need - take) rest

/-- What the walk takes in all. -/
def drawn (capacity : Source → ℤ) (need : ℤ) (sources : List Source) : ℤ :=
  ((draws capacity need sources).map Prod.snd).sum

@[simp]
theorem draws_nil (capacity : Source → ℤ) (need : ℤ) :
    draws capacity need ([] : List Source) = [] := rfl

theorem draws_cons (capacity : Source → ℤ) (need : ℤ) (source : Source) (rest : List Source) :
    draws capacity need (source :: rest) =
      if need ≤ 0 then []
      else (source, min need (capacity source)) ::
        draws capacity (need - min need (capacity source)) rest := rfl

variable {need take : ℤ}

theorem draws_of_nonpos (capacity : Source → ℤ) (hneed : need ≤ 0)
    (sources : List Source) : draws capacity need sources = [] := by
  cases sources with
  | nil => rfl
  | cons source rest => rw [draws_cons, if_pos hneed]

theorem draws_cons_of_pos (capacity : Source → ℤ) (hneed : 0 < need) (source : Source)
    (rest : List Source) :
    draws capacity need (source :: rest) =
      (source, min need (capacity source)) ::
        draws capacity (need - min need (capacity source)) rest := by
  rw [draws_cons, if_neg (not_le.mpr hneed)]

/-- A walk over sources that give nothing negative takes all it needs, or
everything there is. -/
theorem drawn_eq_min (capacity : Source → ℤ) (hneed : 0 ≤ need) {sources : List Source}
    (hcap : ∀ source ∈ sources, 0 ≤ capacity source) :
    drawn capacity need sources = min need (sources.map capacity).sum := by
  induction sources generalizing need with
  | nil => simp [drawn, hneed]
  | cons source rest ih =>
      have hsource : 0 ≤ capacity source := hcap source List.mem_cons_self
      have hrest : ∀ other ∈ rest, 0 ≤ capacity other := fun other hother =>
        hcap other (List.mem_cons_of_mem _ hother)
      have hrestsum : 0 ≤ (rest.map capacity).sum :=
        List.sum_nonneg (by simpa using hrest)
      rcases hneed.eq_or_lt with rfl | hpos
      · rw [drawn, draws_of_nonpos capacity le_rfl]
        simp only [List.map_nil, List.sum_nil, List.map_cons, List.sum_cons]
        omega
      · have hleft : 0 ≤ need - min need (capacity source) := by omega
        have hstep := ih hleft hrest
        simp only [drawn] at hstep
        simp only [drawn, draws_cons, if_neg (not_le.mpr hpos), List.map_cons, List.sum_cons, hstep]
        omega

/-- A walk never takes more than it needs. -/
theorem drawn_le (capacity : Source → ℤ) (hneed : 0 ≤ need) {sources : List Source} :
    drawn capacity need sources ≤ need := by
  induction sources generalizing need with
  | nil => simpa [drawn] using hneed
  | cons source rest ih =>
      by_cases hdone : need ≤ 0
      · rw [drawn, draws_of_nonpos capacity hdone]
        exact hneed
      · rw [drawn, draws_cons_of_pos capacity (not_le.mp hdone), List.map_cons, List.sum_cons]
        have hleft : 0 ≤ need - min need (capacity source) := sub_nonneg.mpr (min_le_left _ _)
        have hrest := ih hleft
        rw [drawn] at hrest
        linarith

/-- Enough capacity: the walk takes exactly what it needs. -/
theorem drawn_eq_need (capacity : Source → ℤ) (hneed : 0 ≤ need) {sources : List Source}
    (hcap : ∀ source ∈ sources, 0 ≤ capacity source)
    (henough : need ≤ (sources.map capacity).sum) :
    drawn capacity need sources = need := by
  rw [drawn_eq_min capacity hneed hcap, min_eq_left henough]

theorem draws_fst_sublist (capacity : Source → ℤ) (need : ℤ) (sources : List Source) :
    ((draws capacity need sources).map Prod.fst).Sublist sources := by
  induction sources generalizing need with
  | nil => simp
  | cons source rest ih =>
      by_cases hneed : need ≤ 0
      · simp [draws_cons, hneed]
      · simpa [draws_cons, hneed] using ih _

theorem draws_mem (capacity : Source → ℤ) {sources : List Source} {source : Source}
    (hmem : (source, take) ∈ draws capacity need sources) : source ∈ sources :=
  (draws_fst_sublist capacity need sources).subset
    (List.mem_map.mpr ⟨_, hmem, rfl⟩)

theorem draws_le (capacity : Source → ℤ) {sources : List Source} {source : Source}
    (hmem : (source, take) ∈ draws capacity need sources) : take ≤ capacity source := by
  induction sources generalizing need with
  | nil => simp at hmem
  | cons head rest ih =>
      by_cases hneed : need ≤ 0
      · simp [draws_cons, hneed] at hmem
      · simp only [draws_cons, if_neg hneed, List.mem_cons] at hmem
        rcases hmem with hhead | hrest
        · obtain ⟨rfl, rfl⟩ := Prod.mk.injEq .. ▸ hhead
          exact min_le_right _ _
        · exact ih hrest

/-- What the walk takes from the sources with one key. -/
def takenAt (key : Source → ℕ) (k : ℕ) (takes : List (Source × ℤ)) : ℤ :=
  (takes.map fun take => if key take.1 = k then take.2 else 0).sum

@[simp]
theorem takenAt_nil (key : Source → ℕ) (k : ℕ) : takenAt key k ([] : List (Source × ℤ)) = 0 := rfl

@[simp]
theorem takenAt_cons (key : Source → ℕ) (k : ℕ) (take : Source × ℤ) (rest : List (Source × ℤ)) :
    takenAt key k (take :: rest) =
      (if key take.1 = k then take.2 else 0) + takenAt key k rest := by
  simp [takenAt]

/-- A key the walk does not visit gives nothing. -/
theorem takenAt_eq_zero {key : Source → ℕ} {k : ℕ} {takes : List (Source × ℤ)}
    (hother : ∀ take ∈ takes, key take.1 ≠ k) : takenAt key k takes = 0 := by
  induction takes with
  | nil => rfl
  | cons take rest ih =>
      have hhead : key take.1 ≠ k := hother take List.mem_cons_self
      have hrest := ih fun next hnext => hother next (List.mem_cons_of_mem _ hnext)
      rw [takenAt_cons, if_neg hhead, hrest, add_zero]

theorem draws_nonneg (capacity : Source → ℤ) {sources : List Source}
    (hcap : ∀ source ∈ sources, 0 ≤ capacity source) {source : Source}
    (hmem : (source, take) ∈ draws capacity need sources) : 0 ≤ take := by
  induction sources generalizing need with
  | nil => simp at hmem
  | cons head rest ih =>
      have hhead := hcap head List.mem_cons_self
      by_cases hneed : need ≤ 0
      · simp [draws_cons, hneed] at hmem
      · simp only [draws_cons, if_neg hneed, List.mem_cons] at hmem
        cases hmem with
        | inl hhere =>
            obtain ⟨-, rfl⟩ := Prod.mk.injEq .. ▸ hhere
            omega
        | inr hlater =>
            exact ih (fun other hother => hcap other (List.mem_cons_of_mem _ hother)) hlater

/-- A walk over sources with distinct keys takes from a key nothing, or what it
takes from the one source that has it. -/
theorem takenAt_draws {key : Source → ℕ} (capacity : Source → ℤ) (need : ℤ)
    {sources : List Source} (hkeys : (sources.map key).Nodup) (k : ℕ) :
    takenAt key k (draws capacity need sources) = 0 ∨
      ∃ source, key source = k ∧
        (source, takenAt key k (draws capacity need sources)) ∈
          draws capacity need sources := by
  induction sources generalizing need with
  | nil => exact Or.inl rfl
  | cons source rest ih =>
      obtain ⟨hfresh, hrest⟩ := List.nodup_cons.mp hkeys
      by_cases hneed : need ≤ 0
      · rw [draws_of_nonpos capacity hneed]
        exact Or.inl rfl
      · rw [draws_cons_of_pos capacity (not_le.mp hneed), takenAt_cons]
        by_cases hkey : key source = k
        · have hothers : takenAt key k (draws capacity
              (need - min need (capacity source)) rest) = 0 := by
            apply takenAt_eq_zero
            intro take htake hsame
            apply hfresh
            rw [hkey, ← hsame]
            exact List.mem_map_of_mem (draws_mem capacity htake)
          rw [hothers, if_pos hkey, add_zero]
          exact Or.inr ⟨source, hkey, List.mem_cons_self⟩
        · rw [if_neg hkey, zero_add]
          cases ih (need - min need (capacity source)) hrest with
          | inl hzero => exact Or.inl hzero
          | inr hfound =>
              obtain ⟨found, hfoundkey, hmem⟩ := hfound
              exact Or.inr ⟨found, hfoundkey, List.mem_cons_of_mem _ hmem⟩

/-- What a source has to give once the sources before it have given all they can. -/
def share (key : Source → ℕ) (capacity : Source → ℤ) (need : ℤ) (k : ℕ) : List Source → ℤ
  | [] => 0
  | source :: rest =>
      if key source = k then min (capacity source) (max 0 need)
      else share key capacity (need - capacity source) k rest

theorem share_of_nonpos {key : Source → ℕ} {capacity : Source → ℤ} (hneed : need ≤ 0)
    (k : ℕ) {sources : List Source} (hcap : ∀ source ∈ sources, 0 ≤ capacity source) :
    share key capacity need k sources = 0 := by
  induction sources generalizing need with
  | nil => rfl
  | cons source rest ih =>
      have hsource : 0 ≤ capacity source := hcap source List.mem_cons_self
      rw [share]
      split
      · omega
      · exact ih (by omega) fun other hother => hcap other (List.mem_cons_of_mem _ hother)

/-- A walk over sources with distinct keys takes its share from each. -/
theorem takenAt_draws_eq_share {key : Source → ℕ} (capacity : Source → ℤ) (need : ℤ)
    {sources : List Source} (hkeys : (sources.map key).Nodup)
    (hcap : ∀ source ∈ sources, 0 ≤ capacity source) (k : ℕ) :
    takenAt key k (draws capacity need sources) = share key capacity need k sources := by
  induction sources generalizing need with
  | nil => rfl
  | cons source rest ih =>
      obtain ⟨hfresh, hrest⟩ := List.nodup_cons.mp hkeys
      have hothers : ∀ other ∈ rest, 0 ≤ capacity other := fun other hother =>
        hcap other (List.mem_cons_of_mem _ hother)
      by_cases hneed : need ≤ 0
      · rw [draws_of_nonpos capacity hneed, share_of_nonpos hneed k hcap]
        rfl
      · rw [draws_cons_of_pos capacity (not_le.mp hneed), takenAt_cons, share]
        by_cases hkey : key source = k
        · have hnone : takenAt key k (draws capacity
              (need - min need (capacity source)) rest) = 0 := by
            apply takenAt_eq_zero
            intro take htake hsame
            apply hfresh
            rw [hkey, ← hsame]
            exact List.mem_map_of_mem (draws_mem capacity htake)
          rw [if_pos hkey, if_pos hkey, hnone]
          omega
        · rw [if_neg hkey, if_neg hkey, zero_add, ih _ hrest hothers]
          by_cases henough : capacity source ≤ need
          · rw [min_eq_right henough]
          · rw [share_of_nonpos (by omega) k hothers, share_of_nonpos (by omega) k hothers]

/-! ## Draws in key order -/

/-- What the walk takes from the sources below a key. -/
def takenBelow (key : Source → ℕ) (k : ℕ) (takes : List (Source × ℤ)) : ℤ :=
  (takes.map fun take => if key take.1 < k then take.2 else 0).sum

theorem takenBelow_succ (key : Source → ℕ) (k : ℕ) (takes : List (Source × ℤ)) :
    takenBelow key (k + 1) takes = takenBelow key k takes + takenAt key k takes := by
  rw [takenBelow, takenBelow, takenAt, ← List.sum_map_add]
  refine congrArg List.sum (List.map_congr_left fun take _ => ?_)
  split <;> split <;> split <;> omega

/-- A walk in key order empties the sources below a key before it goes on. -/
theorem takenBelow_draws {key : Source → ℕ} (capacity : Source → ℤ) (hneed : 0 ≤ need)
    {sources : List Source}
    (hsorted : sources.Pairwise fun left right => key left ≤ key right)
    (hcap : ∀ source ∈ sources, 0 ≤ capacity source) (k : ℕ) :
    takenBelow key k (draws capacity need sources) =
      min need (sources.map fun source => if key source < k then capacity source else 0).sum := by
  induction sources generalizing need with
  | nil => simp [takenBelow, hneed]
  | cons source rest ih =>
      obtain ⟨hfirst, hrest⟩ := List.pairwise_cons.mp hsorted
      have hsource : 0 ≤ capacity source := hcap source List.mem_cons_self
      have hothers : ∀ other ∈ rest, 0 ≤ capacity other := fun other hother =>
        hcap other (List.mem_cons_of_mem _ hother)
      have hsum : 0 ≤ (rest.map fun other =>
          if key other < k then capacity other else 0).sum := by
        refine List.sum_nonneg fun units hunits => ?_
        obtain ⟨other, hother, rfl⟩ := List.mem_map.mp hunits
        have := hothers other hother
        split <;> omega
      rcases hneed.eq_or_lt with rfl | hpos
      · rw [draws_of_nonpos capacity le_rfl, List.map_cons, List.sum_cons]
        have hnone : takenBelow key k ([] : List (Source × ℤ)) = 0 := rfl
        split <;> omega
      · have hleft : 0 ≤ need - min need (capacity source) := by omega
        have hstep := ih hleft hrest hothers
        rw [takenBelow] at hstep ⊢
        rw [draws_cons_of_pos capacity hpos, List.map_cons, List.sum_cons, hstep, List.map_cons,
          List.sum_cons]
        by_cases hkey : key source < k
        · rw [if_pos hkey, if_pos hkey]
          omega
        · have hnone : (rest.map fun other =>
              if key other < k then capacity other else 0).sum = 0 := by
            refine List.sum_eq_zero fun units hunits => ?_
            obtain ⟨other, hother, rfl⟩ := List.mem_map.mp hunits
            exact if_neg fun hlow => hkey ((hfirst other hother).trans_lt hlow)
          rw [if_neg hkey, if_neg hkey, hnone]
          omega

end Relational
