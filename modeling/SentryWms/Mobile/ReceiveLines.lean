import Mathlib.Algebra.Order.Floor.Div
import Mathlib.Data.List.Sort
import Mathlib.Tactic.Ring

/-!
# The line list of the receive screen

The lines of a purchase order, the finished ones sunk to the end, one page of them at a
time.  The comparison breaks its ties by the index of the line, so the list does not depend
on how the engine sorts.
-/

namespace SentryWms.Mobile

/-! ## Order -/

structure PurchaseOrderLine where
  poLineId : ℕ
  itemId : ℕ
  quantityOrdered : ℤ
  quantityReceived : ℤ
  deriving DecidableEq, Repr

/-- A line, annotated. -/
structure ReceiveRow where
  line : PurchaseOrderLine
  index : ℕ
  received : ℤ
  done : Bool
  hasPending : Bool
  deriving DecidableEq, Repr

def annotateLine (pendingByItem : ℕ → Option ℤ) (line : PurchaseOrderLine) (index : ℕ) :
    ReceiveRow :=
  let pending := (pendingByItem line.itemId).getD 0
  let received := line.quantityReceived + pending
  { line := line
    index := index
    received := received
    done := decide (line.quantityOrdered ≤ received)
    hasPending := decide (0 < pending) }

def annotateLines (lines : List PurchaseOrderLine) (pendingByItem : ℕ → Option ℤ) :
    List ReceiveRow :=
  lines.mapIdx fun index line => annotateLine pendingByItem line index

/-- `(a.done - b.done) || (a.index - b.index)`. -/
def compareRows (a b : ReceiveRow) : ℤ :=
  let byDone : ℤ := a.done.toNat - b.done.toNat
  if byDone = 0 then (a.index : ℤ) - b.index else byDone

def orderReceiveLines (lines : List PurchaseOrderLine) (pendingByItem : ℕ → Option ℤ) :
    List ReceiveRow :=
  (annotateLines lines pendingByItem).insertionSort fun a b => compareRows a b ≤ 0

/-! ## Pages -/

/-- An end of `slice`; a negative one counts from the end of the array. -/
def sliceIndex (length : ℕ) (index : ℤ) : ℕ :=
  if index < 0 then (length + index).toNat else min index.toNat length

/-- `Array.prototype.slice`. -/
def slice {Item : Type*} (items : List Item) (start stop : ℤ) : List Item :=
  (items.take (sliceIndex items.length stop)).drop (sliceIndex items.length start)

structure Page (Item : Type*) where
  pageItems : List Item
  totalPages : ℕ
  safePage : ℤ
  start : ℤ
  deriving DecidableEq, Repr

def paginate {Item : Type*} (items : List Item) (page : ℤ) (pageSize : ℕ) : Page Item :=
  let totalPages := max 1 (items.length ⌈/⌉ pageSize)
  let safePage := min (max 0 page) (totalPages - 1)
  let start := safePage * pageSize
  { pageItems := slice items start (start + pageSize)
    totalPages := totalPages
    safePage := safePage
    start := start }

/-! ## The comparison -/

/-- Finished lines come after the others, and in either group the index decides. -/
theorem compareRows_nonpos_iff (a b : ReceiveRow) :
    compareRows a b ≤ 0 ↔
      (a.done = false ∧ b.done = true) ∨ (a.done = b.done ∧ a.index ≤ b.index) := by
  rw [compareRows]
  cases a.done <;> cases b.done <;> simp

theorem compareRows_trans {a b c : ReceiveRow} (hab : compareRows a b ≤ 0)
    (hbc : compareRows b c ≤ 0) : compareRows a c ≤ 0 := by
  rw [compareRows_nonpos_iff] at hab hbc ⊢
  rcases hab with ⟨ha, hb⟩ | ⟨hab, hle⟩
  · rcases hbc with ⟨hb', -⟩ | ⟨hbc, -⟩
    · rw [hb] at hb'
      cases hb'
    · exact Or.inl ⟨ha, hbc.symm.trans hb⟩
  · rcases hbc with ⟨hb, hc⟩ | ⟨hbc, hle'⟩
    · exact Or.inl ⟨hab.trans hb, hc⟩
    · exact Or.inr ⟨hab.trans hbc, hle.trans hle'⟩

/-- Only a row and itself compare equal. -/
theorem index_eq_of_compareRows {a b : ReceiveRow} (hle : compareRows a b ≤ 0)
    (hge : compareRows b a ≤ 0) : a.index = b.index := by
  rw [compareRows_nonpos_iff] at hle hge
  cases hdone : a.done <;> cases hdone' : b.done <;> simp [hdone, hdone'] at hle hge
  · exact le_antisymm hle hge
  · exact le_antisymm hle hge

theorem compareRows_total (a b : ReceiveRow) : compareRows a b ≤ 0 ∨ compareRows b a ≤ 0 := by
  rw [compareRows_nonpos_iff, compareRows_nonpos_iff]
  cases a.done <;> cases b.done <;> simp [Nat.le_total]

instance : IsTrans ReceiveRow fun a b => compareRows a b ≤ 0 := ⟨fun _ _ _ => compareRows_trans⟩

instance : Std.Total fun a b : ReceiveRow => compareRows a b ≤ 0 := ⟨compareRows_total⟩

section Order

variable (lines : List PurchaseOrderLine) (pendingByItem : ℕ → Option ℤ)

theorem annotateLines_line : (annotateLines lines pendingByItem).map ReceiveRow.line = lines := by
  apply List.ext_getElem
  · simp [annotateLines]
  · intro position _ _
    simp [annotateLines, annotateLine]

theorem annotateLines_sorted :
    (annotateLines lines pendingByItem).Pairwise fun row later => row.index < later.index := by
  rw [List.pairwise_iff_getElem]
  intro i j hi hj hij
  simpa [annotateLines, annotateLine] using hij

/-- The unfinished lines, then the finished ones. -/
def sunkLines : List ReceiveRow :=
  (annotateLines lines pendingByItem).filter (fun row => !row.done) ++
    (annotateLines lines pendingByItem).filter ReceiveRow.done

theorem sunkLines_perm :
    (sunkLines lines pendingByItem).Perm (annotateLines lines pendingByItem) := by
  refine List.perm_append_comm.trans ?_
  exact List.filter_append_perm ReceiveRow.done (annotateLines lines pendingByItem)

theorem sunkLines_sorted :
    (sunkLines lines pendingByItem).Pairwise fun row later => compareRows row later ≤ 0 := by
  have hindex := annotateLines_sorted lines pendingByItem
  rw [sunkLines, List.pairwise_append]
  refine ⟨?_, ?_, ?_⟩
  · refine (hindex.filter _).imp_of_mem ?_
    intro row later hrow hlater hlt
    have hopen := (List.mem_filter.mp hrow).2
    have hlaterOpen := (List.mem_filter.mp hlater).2
    rw [Bool.not_eq_true'] at hopen hlaterOpen
    exact (compareRows_nonpos_iff row later).mpr (Or.inr ⟨hopen.trans hlaterOpen.symm, hlt.le⟩)
  · refine (hindex.filter _).imp_of_mem ?_
    intro row later hrow hlater hlt
    have hdone := (List.mem_filter.mp hrow).2
    have hlaterDone := (List.mem_filter.mp hlater).2
    exact (compareRows_nonpos_iff row later).mpr (Or.inr ⟨hdone.trans hlaterDone.symm, hlt.le⟩)
  · intro row hrow later hlater
    have hopen := (List.mem_filter.mp hrow).2
    rw [Bool.not_eq_true'] at hopen
    exact (compareRows_nonpos_iff row later).mpr (Or.inl ⟨hopen, (List.mem_filter.mp hlater).2⟩)

/-- Whatever the engine's sort does, it leaves the lines sunk. -/
theorem eq_sunkLines {rows : List ReceiveRow}
    (hperm : rows.Perm (annotateLines lines pendingByItem))
    (hsorted : rows.Pairwise fun row later => compareRows row later ≤ 0) :
    rows = sunkLines lines pendingByItem := by
  refine List.Perm.eq_of_pairwise ?_ hsorted (sunkLines_sorted lines pendingByItem)
    (hperm.trans (sunkLines_perm lines pendingByItem).symm)
  intro row other hrow hother hle hge
  have hnodup : ((annotateLines lines pendingByItem).map ReceiveRow.index).Nodup :=
    List.pairwise_map.mpr ((annotateLines_sorted lines pendingByItem).imp fun hlt => hlt.ne)
  exact List.inj_on_of_nodup_map hnodup (hperm.mem_iff.mp hrow)
    ((sunkLines_perm lines pendingByItem).mem_iff.mp hother) (index_eq_of_compareRows hle hge)

theorem orderReceiveLines_eq :
    orderReceiveLines lines pendingByItem = sunkLines lines pendingByItem :=
  eq_sunkLines lines pendingByItem (List.perm_insertionSort _ _) (List.pairwise_insertionSort _ _)

end Order

/-! ## The pages -/

section Pages

variable {Item : Type*} (items : List Item)

theorem slice_page (start size : ℕ) :
    slice items start (start + size) = (items.drop start).take size := by
  have hindex (index : ℕ) : sliceIndex items.length index = min index items.length := by
    rw [sliceIndex, if_neg (not_lt.mpr (Int.natCast_nonneg index)), Int.toNat_natCast]
  rw [slice, ← Nat.cast_add, hindex, hindex, ← List.take_eq_take_min, List.take_drop]
  rcases le_total start items.length with hstart | hstart
  · rw [min_eq_left hstart]
  · have hlength : (items.take (start + size)).length ≤ items.length := List.length_take_le' _ _
    rw [min_eq_right hstart, List.drop_eq_nil_of_le hlength,
      List.drop_eq_nil_of_le (hlength.trans hstart)]

/-- The first pages, one after the other, are the beginning of the list. -/
theorem flatMap_pages (size count : ℕ) :
    ((List.range count).flatMap fun page => (items.drop (page * size)).take size) =
      items.take (count * size) := by
  induction count with
  | zero => rw [Nat.zero_mul, List.take_zero]; rfl
  | succ count ih =>
      rw [List.range_succ, List.flatMap_append, ih, List.flatMap_singleton, Nat.succ_mul,
        List.take_add]

variable {pageSize : ℕ}

/-- The page that is shown, whatever page is asked for. -/
theorem exists_safePage (page : ℤ) (pageSize : ℕ) :
    ∃ shown < (paginate items 0 pageSize).totalPages,
      (paginate items page pageSize).safePage = (shown : ℤ) := by
  have htotal : 1 ≤ (paginate items 0 pageSize).totalPages := le_max_left _ _
  have hlower : 0 ≤ (paginate items page pageSize).safePage :=
    le_min (le_max_left _ _) (by omega)
  have hupper : (paginate items page pageSize).safePage ≤
      (paginate items 0 pageSize).totalPages - 1 := min_le_right _ _
  exact ⟨(paginate items page pageSize).safePage.toNat, by omega, (Int.toNat_of_nonneg hlower).symm⟩

theorem pageItems_of_safePage {page : ℤ} {shown : ℕ}
    (hshown : (paginate items page pageSize).safePage = shown) :
    (paginate items page pageSize).pageItems =
      (items.drop (shown * pageSize)).take pageSize := by
  have hstart : (paginate items page pageSize).start = (shown * pageSize : ℕ) := by
    rw [Nat.cast_mul, ← hshown]
    rfl
  rw [← slice_page, ← hstart]
  rfl

theorem safePage_of_lt {shown : ℕ} (hshown : shown < (paginate items 0 pageSize).totalPages) :
    (paginate items shown pageSize).safePage = shown := by
  have hlast : (shown : ℤ) ≤ (paginate items 0 pageSize).totalPages - 1 := by omega
  have hnonneg : max 0 (shown : ℤ) = shown := max_eq_right (Int.natCast_nonneg shown)
  exact (congrArg (min · _) hnonneg).trans (min_eq_left hlast)

theorem length_le_pages (hsize : 0 < pageSize) :
    items.length ≤ (paginate items 0 pageSize).totalPages * pageSize := by
  have hceil : items.length ≤ pageSize * (items.length ⌈/⌉ pageSize) := le_smul_ceilDiv hsize
  calc
    items.length ≤ pageSize * (items.length ⌈/⌉ pageSize) := hceil
    _ = items.length ⌈/⌉ pageSize * pageSize := Nat.mul_comm _ _
    _ ≤ (paginate items 0 pageSize).totalPages * pageSize :=
        Nat.mul_le_mul_right pageSize (le_max_right _ _)

/-- A page after the first begins within the list. -/
theorem start_lt_length (hsize : 0 < pageSize) {shown : ℕ} (hfirst : 0 < shown)
    (hshown : shown < (paginate items 0 pageSize).totalPages) :
    shown * pageSize < items.length := by
  have hceil : shown < items.length ⌈/⌉ pageSize := by
    rcases lt_max_iff.mp hshown with hone | hceil
    · omega
    · exact hceil
  have hnot : ¬ items.length ≤ pageSize * shown := fun hle =>
    absurd ((ceilDiv_le_iff_le_smul hsize).mpr hle) (not_le.mpr hceil)
  rw [Nat.mul_comm]
  exact not_le.mp hnot

theorem pages_partition (hsize : 0 < pageSize) :
    ((List.range (paginate items 0 pageSize).totalPages).flatMap fun (page : ℕ) =>
      (paginate items page pageSize).pageItems) = items := by
  have hpages : (List.range (paginate items 0 pageSize).totalPages).flatMap
      (fun (page : ℕ) => (paginate items page pageSize).pageItems) =
      (List.range (paginate items 0 pageSize).totalPages).flatMap fun page =>
        (items.drop (page * pageSize)).take pageSize := by
    apply List.flatMap_congr
    intro page hpage
    exact pageItems_of_safePage items (safePage_of_lt items (List.mem_range.mp hpage))
  rw [hpages, flatMap_pages, List.take_of_length_le (length_le_pages items hsize)]

theorem page_full (hsize : 0 < pageSize) {page : ℕ}
    (hpage : page + 1 < (paginate items 0 pageSize).totalPages) :
    (paginate items page pageSize).pageItems.length = pageSize := by
  have hlength := start_lt_length items hsize (Nat.succ_pos page) hpage
  rw [Nat.succ_mul] at hlength
  rw [pageItems_of_safePage items (safePage_of_lt items (Nat.lt_of_succ_lt hpage)),
    List.length_take, List.length_drop]
  omega

theorem page_ne_nil (hsize : 0 < pageSize) (hitems : items ≠ []) (page : ℤ) :
    (paginate items page pageSize).pageItems ≠ [] := by
  obtain ⟨shown, hshown, hsafe⟩ := exists_safePage items page pageSize
  have hlength : shown * pageSize < items.length := by
    rcases Nat.eq_zero_or_pos shown with rfl | hfirst
    · rw [Nat.zero_mul]
      exact List.length_pos_iff.mpr hitems
    · exact start_lt_length items hsize hfirst hshown
  rw [pageItems_of_safePage items hsafe, ← List.length_pos_iff, List.length_take, List.length_drop]
  omega

end Pages

/-! ## The list on the screen -/

theorem sunkLines_filter (lines : List PurchaseOrderLine) (pendingByItem : ℕ → Option ℤ)
    (done : Bool) :
    (sunkLines lines pendingByItem).filter (fun row => row.done = done) =
      (annotateLines lines pendingByItem).filter fun row => row.done = done := by
  rw [sunkLines, List.filter_append, List.filter_filter, List.filter_filter]
  cases done <;> simp

end SentryWms.Mobile
