import Mathlib.Algebra.Order.Floor.Div
import Mathlib.Algebra.Order.Floor.Ring
import Mathlib.Algebra.Order.Ring.Rat
import Mathlib.Data.Rat.Floor
import Mathlib.Tactic.Positivity
import Mathlib.Tactic.Ring
import Mathlib.Tactic.Linarith
import SentryWms.Scheduling.FlowShop
import SentryWms.WorkControl.GreedyDispatch

/-!
# The workload forecast

Packages are picked and packed in batches of one pack note.  A batch is packed when it has
been picked and the packer has finished the batch before.  Minutes are exact rationals, in
place of the source's floats; the rounding is the last thing done to them.
-/

namespace SentryWms.WorkControl

open Scheduling

/-! ## The forecast -/

/-- `_PACK_NOTE_CAPACITY`. -/
def packNoteCapacity : ℕ := 50

/-- `range(0, package_count, _PACK_NOTE_CAPACITY)`. -/
def batchOffsets (packages : ℕ) : List ℕ :=
  (List.range (packages ⌈/⌉ packNoteCapacity)).map fun batch => batch * packNoteCapacity

def batchSizes (packages : ℕ) : List ℕ :=
  (batchOffsets packages).map fun offset => min packNoteCapacity (packages - offset)

/-- The minutes a batch takes at a rate. -/
def batchMinutes (rate : ℚ) (batchSize : ℕ) : ℚ := rate * batchSize / packNoteCapacity

structure ForecastState where
  pickFinished : ℚ
  packFinished : ℚ
  deriving DecidableEq, Repr

/-- One round of the loop over the batches. -/
def forecastRound (pickRate packRate : ℚ) (state : ForecastState) (batchSize : ℕ) : ForecastState :=
  let pickFinished := state.pickFinished + batchMinutes pickRate batchSize
  let packFinished := max pickFinished state.packFinished
  ⟨pickFinished, packFinished + batchMinutes packRate batchSize⟩

/-- `pack_finished` after the loop. -/
def packFinished (packages : ℕ) (pickRate packRate : ℚ) : ℚ :=
  ((batchSizes packages).foldl (forecastRound pickRate packRate) ⟨0, 0⟩).packFinished

/-! ## Batches -/

theorem batchSizes_eq (packages : ℕ) :
    batchSizes packages = (List.range (packages ⌈/⌉ packNoteCapacity)).map fun batch =>
      min packNoteCapacity (packages - batch * packNoteCapacity) := by
  rw [batchSizes, batchOffsets, List.map_map]
  rfl

theorem le_ceil_mul (packages : ℕ) :
    packages ≤ packages ⌈/⌉ packNoteCapacity * packNoteCapacity := by
  rw [Nat.ceilDiv_eq_add_pred_div, packNoteCapacity]
  omega

theorem ceil_mono {packages more : ℕ} (hmore : packages ≤ more) :
    packages ⌈/⌉ packNoteCapacity ≤ more ⌈/⌉ packNoteCapacity := by
  rw [Nat.ceilDiv_eq_add_pred_div, Nat.ceilDiv_eq_add_pred_div]
  exact Nat.div_le_div_right (by omega)

/-- The first batches hold all packages, or as many as they can. -/
theorem sum_batches (packages batches : ℕ) :
    ((List.range batches).map fun batch =>
      min packNoteCapacity (packages - batch * packNoteCapacity)).sum =
        min (batches * packNoteCapacity) packages := by
  induction batches with
  | zero => rw [Nat.zero_mul, Nat.zero_min]; rfl
  | succ batches ih =>
      rw [List.range_succ, List.map_append, List.sum_append, ih, List.map_singleton,
        List.sum_singleton, Nat.succ_mul]
      omega

theorem batchSizes_sum (packages : ℕ) : (batchSizes packages).sum = packages := by
  rw [batchSizes_eq, sum_batches, Nat.min_eq_right (le_ceil_mul packages)]

/-- More packages make more batches, none of them smaller. -/
theorem batchSizes_grow {packages more : ℕ} (hmore : packages ≤ more) :
    List.SublistForall₂ (· ≤ ·) (batchSizes packages) (batchSizes more) := by
  rw [batchSizes_eq, batchSizes_eq, List.sublistForall₂_map_left_iff,
    List.sublistForall₂_map_right_iff, List.sublistForall₂_iff]
  refine ⟨List.range (packages ⌈/⌉ packNoteCapacity), ?_, ?_⟩
  · rw [List.forall₂_same]
    intro batch _
    exact min_le_min_left _ (Nat.sub_le_sub_right hmore _)
  · exact List.range_sublist.mpr (ceil_mono hmore)

/-! ## The loop as a flow shop -/

def batchJob (pickRate packRate : ℚ) (batchSize : ℕ) : Job ℚ :=
  ⟨batchMinutes pickRate batchSize, batchMinutes packRate batchSize⟩

def batchJobs (packages : ℕ) (pickRate packRate : ℚ) : List (Job ℚ) :=
  (batchSizes packages).map (batchJob pickRate packRate)

theorem forecastRound_foldl (pickRate packRate : ℚ) (sizes : List ℕ) (state : ForecastState) :
    (sizes.foldl (forecastRound pickRate packRate) state).packFinished =
      ((Clock.mk state.pickFinished state.packFinished).run
        (sizes.map (batchJob pickRate packRate))).second := by
  induction sizes generalizing state with
  | nil => rfl
  | cons size sizes ih => exact ih _

theorem packFinished_eq (packages : ℕ) (pickRate packRate : ℚ) :
    packFinished packages pickRate packRate =
      makespan (batchJobs packages pickRate packRate) :=
  forecastRound_foldl pickRate packRate (batchSizes packages) ⟨0, 0⟩

theorem batchMinutes_nonneg {rate : ℚ} (hrate : 0 ≤ rate) (batchSize : ℕ) :
    0 ≤ batchMinutes rate batchSize := by
  rw [batchMinutes]
  positivity

theorem sum_batchMinutes (rate : ℚ) (sizes : List ℕ) :
    (sizes.map (batchMinutes rate)).sum = sizes.sum * rate / packNoteCapacity := by
  induction sizes with
  | nil => simp
  | cons size sizes ih =>
      rw [List.map_cons, List.sum_cons, ih, List.sum_cons, batchMinutes, Nat.cast_add]
      ring

theorem firstTotal_batchJobs (pickRate packRate : ℚ) (sizes : List ℕ) :
    firstTotal (sizes.map (batchJob pickRate packRate)) =
      (sizes.map (batchMinutes pickRate)).sum := by
  rw [firstTotal, List.map_map]
  rfl

theorem secondTotal_batchJobs (pickRate packRate : ℚ) (sizes : List ℕ) :
    secondTotal (sizes.map (batchJob pickRate packRate)) =
      (sizes.map (batchMinutes packRate)).sum := by
  rw [secondTotal, List.map_map]
  rfl

/-- Picking the batches up to `batch`, then packing from it on. -/
def criticalPath (packages : ℕ) (pickRate packRate : ℚ) (batch : ℕ) : ℚ :=
  (((batchSizes packages).take (batch + 1)).map (batchMinutes pickRate)).sum +
    (((batchSizes packages).drop batch).map (batchMinutes packRate)).sum

theorem path_batchJobs (packages : ℕ) (pickRate packRate : ℚ) (batch : ℕ) :
    path (batchJobs packages pickRate packRate) batch =
      criticalPath packages pickRate packRate batch := by
  rw [path, batchJobs, ← List.map_take, ← List.map_drop, firstTotal_batchJobs,
    secondTotal_batchJobs]
  rfl

/-! ## The time of one picker and one packer -/

theorem picking_add_last_le_packFinished (packages : ℕ) (pickRate packRate : ℚ) :
    ((batchSizes packages).map (batchMinutes pickRate)).sum +
        batchMinutes packRate ((batchSizes packages).getLastD 0) ≤
      packFinished packages pickRate packRate := by
  rw [packFinished_eq, batchJobs]
  generalize batchSizes packages = sizes
  cases sizes using List.reverseRecOn with
  | nil => simp [batchMinutes, makespan, Clock.run]
  | append_singleton sizes size =>
      have hlast := firstTotal_add_last_le (sizes.map (batchJob pickRate packRate))
        (batchJob pickRate packRate size)
      rw [← List.map_singleton, ← List.map_append, firstTotal_batchJobs] at hlast
      rw [List.getLastD_concat]
      exact hlast

theorem first_add_packing_le_packFinished (packages : ℕ) (pickRate packRate : ℚ) :
    batchMinutes pickRate ((batchSizes packages).headD 0) +
        ((batchSizes packages).map (batchMinutes packRate)).sum ≤
      packFinished packages pickRate packRate := by
  rw [packFinished_eq, batchJobs]
  cases batchSizes packages with
  | nil => simp [batchMinutes, makespan, Clock.run]
  | cons size sizes =>
      have hfirst := head_add_secondTotal_le (batchJob pickRate packRate size)
        (sizes.map (batchJob pickRate packRate))
      rw [← List.map_cons, secondTotal_batchJobs] at hfirst
      exact hfirst

section Rates

variable (packages : ℕ) {pickRate packRate : ℚ} (hpick : 0 ≤ pickRate) (hpack : 0 ≤ packRate)

include hpick in
theorem batchJobs_first (job : Job ℚ) (hjob : job ∈ batchJobs packages pickRate packRate) :
    0 ≤ job.first := by
  obtain ⟨size, -, rfl⟩ := List.mem_map.mp hjob
  exact batchMinutes_nonneg hpick size

include hpack in
theorem batchJobs_second (job : Job ℚ) (hjob : job ∈ batchJobs packages pickRate packRate) :
    0 ≤ job.second := by
  obtain ⟨size, -, rfl⟩ := List.mem_map.mp hjob
  exact batchMinutes_nonneg hpack size

include hpick hpack in
theorem packFinished_le_totals :
    packFinished packages pickRate packRate ≤
      packages * pickRate / packNoteCapacity + packages * packRate / packNoteCapacity := by
  have htotals := makespan_le_totals (batchJobs packages pickRate packRate)
    (batchJobs_first packages hpick) (batchJobs_second packages hpack)
  rwa [batchJobs, firstTotal_batchJobs, secondTotal_batchJobs, sum_batchMinutes,
    sum_batchMinutes, batchSizes_sum, ← batchJobs, ← packFinished_eq] at htotals

include hpick hpack in
theorem packFinished_mono_packages {more : ℕ} (hmore : packages ≤ more) :
    packFinished packages pickRate packRate ≤ packFinished more pickRate packRate := by
  rw [packFinished_eq, packFinished_eq]
  apply makespan_mono
  · rw [batchJobs, batchJobs, List.sublistForall₂_map_left_iff, List.sublistForall₂_map_right_iff]
    obtain ⟨matched, hmatched, hsublist⟩ := List.sublistForall₂_iff.mp (batchSizes_grow hmore)
    refine List.sublistForall₂_iff.mpr ⟨matched, hmatched.imp ?_, hsublist⟩
    intro size larger hsize
    have hcast : (size : ℚ) ≤ larger := Nat.cast_le.mpr hsize
    constructor
    · exact div_le_div_of_nonneg_right (mul_le_mul_of_nonneg_left hcast hpick) (Nat.cast_nonneg _)
    · exact div_le_div_of_nonneg_right (mul_le_mul_of_nonneg_left hcast hpack) (Nat.cast_nonneg _)
  · exact batchJobs_first more hpick
  · exact batchJobs_second more hpack

include hpick hpack in
theorem packFinished_mono_rates {slowerPick slowerPack : ℚ} (hslower : pickRate ≤ slowerPick)
    (hslowerPack : packRate ≤ slowerPack) :
    packFinished packages pickRate packRate ≤ packFinished packages slowerPick slowerPack := by
  rw [packFinished_eq, packFinished_eq]
  apply makespan_mono
  · rw [batchJobs, batchJobs, List.sublistForall₂_map_left_iff,
      List.sublistForall₂_map_right_iff, List.sublistForall₂_iff]
    refine ⟨batchSizes packages, List.forall₂_same.mpr fun size _ => ?_, List.Sublist.refl _⟩
    constructor
    · exact div_le_div_of_nonneg_right
        (mul_le_mul_of_nonneg_right hslower (Nat.cast_nonneg _)) (Nat.cast_nonneg _)
    · exact div_le_div_of_nonneg_right
        (mul_le_mul_of_nonneg_right hslowerPack (Nat.cast_nonneg _)) (Nat.cast_nonneg _)
  · exact batchJobs_first packages (hpick.trans hslower)
  · exact batchJobs_second packages (hpack.trans hslowerPack)

end Rates

/-- The loop computes the makespan of a flow shop of two machines: the longest path through
the batches, between the bounds of the two stages, and monotone in the work. -/
theorem packFinished_makespan (packages : ℕ) (pickRate packRate : ℚ) (hpick : 0 ≤ pickRate)
    (hpack : 0 ≤ packRate) :
    (0 < packages →
      IsGreatest
        {minutes | ∃ batch < (batchSizes packages).length,
          criticalPath packages pickRate packRate batch = minutes}
        (packFinished packages pickRate packRate)) ∧
    (packages = 0 → packFinished packages pickRate packRate = 0) ∧
    ((batchSizes packages).map (batchMinutes pickRate)).sum +
        batchMinutes packRate ((batchSizes packages).getLastD 0) ≤
      packFinished packages pickRate packRate ∧
    batchMinutes pickRate ((batchSizes packages).headD 0) +
        ((batchSizes packages).map (batchMinutes packRate)).sum ≤
      packFinished packages pickRate packRate ∧
    packFinished packages pickRate packRate ≤
      packages * pickRate / packNoteCapacity + packages * packRate / packNoteCapacity ∧
    (∀ more, packages ≤ more →
      packFinished packages pickRate packRate ≤ packFinished more pickRate packRate) ∧
    ∀ slowerPick slowerPack, pickRate ≤ slowerPick → packRate ≤ slowerPack →
      packFinished packages pickRate packRate ≤
        packFinished packages slowerPick slowerPack := by
  refine ⟨?_, ?_, picking_add_last_le_packFinished packages pickRate packRate,
    first_add_packing_le_packFinished packages pickRate packRate,
    packFinished_le_totals packages hpick hpack,
    fun more => packFinished_mono_packages packages hpick hpack,
    fun slowerPick slowerPack => packFinished_mono_rates packages hpick hpack⟩
  · intro hpackages
    have hjobs : batchJobs packages pickRate packRate ≠ [] := by
      intro hnil
      have hsum := batchSizes_sum packages
      rw [List.map_eq_nil_iff.mp hnil] at hsum
      exact hpackages.ne hsum
    have hgreatest := makespan_isGreatest _ hjobs (batchJobs_first packages hpick)
    rw [← packFinished_eq] at hgreatest
    have hlength : (batchJobs packages pickRate packRate).length =
        (batchSizes packages).length := List.length_map _
    simpa only [path_batchJobs, hlength] using hgreatest
  · rintro rfl
    rfl

/-- Three batches, the last one short. -/
theorem packFinished_makespan_short :
    packFinished 120 30 40 = 126 ∧
      packFinished 120 30 40 ≤ packFinished 121 30 40 := by
  have hmakespan := packFinished_makespan 120 30 40 (by norm_num) (by norm_num)
  exact ⟨by decide +kernel, hmakespan.2.2.2.2.2.1 121 (by norm_num)⟩

end SentryWms.WorkControl
