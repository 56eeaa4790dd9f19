import Mathlib.Data.Prod.Lex
import SentryWms.Relational.Ranking
import SentryWms.System

/-!
# Preferred bins

The preferred bins of an item are a list: one bin for each priority, from one on.  A bin is
put in by writing the priority asked for and then numbering the item's bins anew in the
order of what is written, the bin put in before another of the same priority.  The bin
lands where it was asked to, unless it moves down to a place that another bin has.
-/

namespace SentryWms.Admin

open Relational Inventory

/-! ## The table -/

/-- `preferred_bins`. -/
structure PreferredBin where
  preferredBinId : ℕ
  itemId : ℕ
  binId : ℕ
  priority : ℕ
  deriving DecidableEq, Repr

/-- `preferred_bins`, with `UNIQUE(item_id, bin_id)`. -/
structure PreferredBins extends Table PreferredBin PreferredBin.preferredBinId where
  unique : (rows.map fun row => (row.itemId, row.binId)).Nodup

namespace PreferredBins

variable (table : PreferredBins)

/-- `WHERE item_id = :iid`. -/
def ofItem (itemId : ℕ) : List PreferredBin :=
  table.select fun row => row.itemId = itemId

/-- `WHERE item_id = :iid AND bin_id = :bid`. -/
def lookup (itemId binId : ℕ) : Option PreferredBin :=
  table.rows.find? fun row => row.itemId = itemId ∧ row.binId = binId

/-- `UPDATE preferred_bins SET priority = :p WHERE preferred_bin_id = :pbid`. -/
def setPriority (preferredBinId priority : ℕ) : PreferredBins where
  toTable := table.updateKey preferredBinId (fun row => { row with priority := priority })
    (fun _ => rfl)
  unique := by
    have hsame : ((fun row : PreferredBin => (row.itemId, row.binId)) ∘ fun row =>
        if row.preferredBinId = preferredBinId then { row with priority := priority }
        else row) = fun row => (row.itemId, row.binId) := by
      funext row
      by_cases hrow : row.preferredBinId = preferredBinId <;> simp [hrow]
    simpa [Table.updateKey, Table.update, hsame] using table.unique

/-- `INSERT INTO preferred_bins`. -/
def add (itemId binId priority : ℕ) (hfree : table.lookup itemId binId = none) :
    PreferredBins where
  toTable := table.insert (fun preferredBinId => ⟨preferredBinId, itemId, binId, priority⟩)
    (fun _ => rfl)
  unique := by
    have hfresh : (itemId, binId) ∉ table.rows.map fun row => (row.itemId, row.binId) := by
      intro hmem
      obtain ⟨row, hrow, hpair⟩ := List.mem_map.mp hmem
      rw [Prod.mk.injEq] at hpair
      exact List.find?_eq_none.mp hfree row hrow (decide_eq_true hpair)
    simp only [Table.insert, List.map_append, List.map_singleton]
    exact List.Nodup.append table.unique (List.nodup_singleton _) (by simpa using hfresh)

/-- `DELETE FROM preferred_bins WHERE preferred_bin_id = :pbid`. -/
def remove (preferredBinId : ℕ) : PreferredBins where
  toTable := table.delete fun row => row.preferredBinId = preferredBinId
  unique := (List.Sublist.map _ List.filter_sublist).nodup table.unique

/-! ## The requests -/

/-- `ORDER BY priority ASC, (preferred_bin_id = :tid) DESC, preferred_bin_id ASC`. -/
def sortKey (target : ℕ) (row : PreferredBin) : ℕ ×ₗ ℕ ×ₗ ℕ :=
  toLex (row.priority,
    toLex (if row.preferredBinId = target then 0 else 1, row.preferredBinId))

/-- The updates of `_resequence_item_preferred_bins`, one after another. -/
def renumber (table : PreferredBins) (numbered : List (PreferredBin × ℕ)) : PreferredBins :=
  numbered.foldl (fun table entry => table.setPriority entry.1.preferredBinId entry.2) table

/-- `_resequence_item_preferred_bins`. -/
def resequenceItemPreferredBins (itemId target : ℕ) : PreferredBins :=
  table.renumber ((orderBy (fun first second => sortKey target first ≤ sortKey target second)
    (table.ofItem itemId)).zipIdx 1)

end PreferredBins

/-- `BIN_STAGING`, `BIN_PICKABLE_STAGING` and `BIN_PICKABLE`. -/
def binTypeText : BinType → String
  | .binStaging => "Staging"
  | .binPickableStaging => "PickableStaging"
  | .binPickable => "Pickable"

/-- `CreatePreferredBinRequest`. -/
structure CreatePreferredBinRequest where
  itemId : ℕ
  binId : ℕ
  priority : ℕ
  itemId_pos : 0 < itemId
  binId_pos : 0 < binId
  priority_pos : 1 ≤ priority
  priority_le : priority ≤ 100

/-- `UpdatePreferredBinRequest`. -/
structure UpdatePreferredBinRequest where
  priority : ℕ
  priority_pos : 1 ≤ priority
  priority_le : priority ≤ 100

/-- `INSERT ... ON CONFLICT (item_id, bin_id) DO UPDATE SET priority`: the table, and the key
of the row.  The key that a conflict draws from the sequence is not used. -/
def upsertPreferredBin (table : PreferredBins) (itemId binId priority : ℕ) : PreferredBins × ℕ :=
  match hlookup : table.lookup itemId binId with
  | some row => (table.setPriority row.preferredBinId priority, row.preferredBinId)
  | none => (table.add itemId binId priority hlookup, table.nextKey)

/-- `create_preferred_bin`. -/
def createPreferredBin (db : Db) (table : PreferredBins) (request : CreatePreferredBinRequest) :
    Except ServiceError PreferredBins := do
  let bin ← orThrow (db.bins.find? request.binId) (.httpError 404 "Bin not found")
  require (bin.binType = .binPickable) (.httpError 400
    (s!"Bin {bin.binCode} is a {binTypeText bin.binType} bin; preferred bins must be Pickable. " ++
      "Staging and PickableStaging bins hold transient receiving stock and cannot be an " ++
      "item's home pick location."))
  require (db.items.find? request.itemId).isSome (.integrityError "preferred_bins_item_id_fkey")
  let written := upsertPreferredBin table request.itemId request.binId request.priority
  pure (written.1.resequenceItemPreferredBins request.itemId written.2)

/-- `update_preferred_bin`. -/
def updatePreferredBin (table : PreferredBins) (preferredBinId : ℕ)
    (request : UpdatePreferredBinRequest) : Except ServiceError PreferredBins := do
  let row ← orThrow (table.find? preferredBinId) (.httpError 404 "preferred bin not found")
  pure ((table.setPriority preferredBinId request.priority).resequenceItemPreferredBins
    row.itemId preferredBinId)

/-- `delete_preferred_bin`. -/
def deletePreferredBin (table : PreferredBins) (preferredBinId : ℕ) :
    Except ServiceError PreferredBins :=
  .ok (table.remove preferredBinId)

/-- The requests that write preferred bins. -/
inductive PreferredBinRequest
  | create (request : CreatePreferredBinRequest)
  | update (preferredBinId : ℕ) (request : UpdatePreferredBinRequest)
  | delete (preferredBinId : ℕ)

/-- What a request does. -/
def servePreferredBins (db : Db) (table : PreferredBins) :
    PreferredBinRequest → Except ServiceError PreferredBins
  | .create request => createPreferredBin db table request
  | .update preferredBinId request => updatePreferredBin table preferredBinId request
  | .delete preferredBinId => deletePreferredBin table preferredBinId

variable {row : PreferredBin} {table : PreferredBins} {preferredBinId : ℕ}

/-! ## Numbering anew -/

namespace PreferredBins

variable {table : PreferredBins} {itemId target : ℕ}

/-- What the updates of a renumbering do to a row. -/
def renumbered (numbered : List (PreferredBin × ℕ)) (row : PreferredBin) : PreferredBin :=
  numbered.foldl (fun row entry =>
    if row.preferredBinId = entry.1.preferredBinId then { row with priority := entry.2 }
    else row) row

theorem renumber_rows (table : PreferredBins) (numbered : List (PreferredBin × ℕ)) :
    (table.renumber numbered).rows = table.rows.map (renumbered numbered) := by
  induction numbered generalizing table with
  | nil => exact (List.map_id _).symm
  | cons entry rest ih =>
      have hfirst : (table.setPriority entry.1.preferredBinId entry.2).rows =
          table.rows.map fun row =>
            if row.preferredBinId = entry.1.preferredBinId then
              { row with priority := entry.2 }
            else row := by
        simp [setPriority, Table.updateKey, Table.update]
      rw [renumber, List.foldl_cons]
      change (renumber _ rest).rows = _
      rw [ih, hfirst, List.map_map]
      rfl

/-- A row that is not numbered stays. -/
theorem renumbered_other {numbered : List (PreferredBin × ℕ)}
    (hother : ∀ entry ∈ numbered, entry.1.preferredBinId ≠ row.preferredBinId) :
    renumbered numbered row = row := by
  induction numbered with
  | nil => rfl
  | cons entry rest ih =>
      have hhere := hother entry List.mem_cons_self
      rw [renumbered, List.foldl_cons, if_neg (Ne.symm hhere)]
      exact ih fun later hlater => hother later (List.mem_cons_of_mem _ hlater)

/-- A row takes its number. -/
theorem renumbered_mem {rows : List PreferredBin} {number : PreferredBin → ℕ}
    (hnodup : (rows.map (·.preferredBinId)).Nodup) (hrow : row ∈ rows) :
    renumbered (rows.map fun row => (row, number row)) row =
      { row with priority := number row } := by
  induction rows with
  | nil => cases hrow
  | cons first rest ih =>
      rw [List.map_cons, List.nodup_cons] at hnodup
      rw [List.map_cons, renumbered, List.foldl_cons]
      cases List.mem_cons.mp hrow with
      | inl hfirst =>
          subst hfirst
          rw [if_pos rfl]
          apply renumbered_other
          intro entry hentry hsame
          obtain ⟨later, hlater, rfl⟩ := List.mem_map.mp hentry
          exact hnodup.1 (List.mem_map.mpr ⟨later, hlater, hsame⟩)
      | inr hrest =>
          have hne : row.preferredBinId ≠ first.preferredBinId := by
            intro hsame
            exact hnodup.1 (List.mem_map.mpr ⟨row, hrest, hsame⟩)
          rw [if_neg hne]
          exact ih hnodup.2 hrest

theorem mem_ofItem : row ∈ table.ofItem itemId ↔ row ∈ table.rows ∧ row.itemId = itemId := by
  rw [ofItem, Table.select, List.mem_filter, decide_eq_true_iff]

theorem ofItem_ids_nodup (table : PreferredBins) (itemId : ℕ) :
    ((table.ofItem itemId).map (·.preferredBinId)).Nodup :=
  (List.Sublist.map _ List.filter_sublist).nodup table.keys_nodup

/-- Rows with different keys are sorted apart. -/
theorem sortKey_injective {first second : PreferredBin}
    (hsame : sortKey target first = sortKey target second) :
    first.preferredBinId = second.preferredBinId := by
  simp only [sortKey, toLex_inj, Prod.mk.injEq] at hsame
  exact hsame.2.2

theorem ofItem_sortKeys_nodup (table : PreferredBins) (itemId target : ℕ) :
    ((table.ofItem itemId).map (sortKey target)).Nodup := by
  have hids := ofItem_ids_nodup table itemId
  rw [List.Nodup, List.pairwise_map] at hids ⊢
  exact hids.imp fun hne hsame => hne (sortKey_injective hsame)

/-- The place of a row in the order of the renumbering. -/
def place (table : PreferredBins) (itemId target : ℕ) (row : PreferredBin) : ℕ :=
  1 + rank (sortKey target) (table.ofItem itemId) row

/-- Each row of the item takes its place, and no other row changes. -/
theorem resequence_rows (table : PreferredBins) (itemId target : ℕ) :
    (table.resequenceItemPreferredBins itemId target).rows =
      table.rows.map fun row =>
        if row.itemId = itemId then { row with priority := table.place itemId target row }
        else row := by
  have hids := ofItem_ids_nodup table itemId
  have hperm := orderBy_perm (fun first second => sortKey target first ≤ sortKey target second)
    (table.ofItem itemId)
  have hnumbered : (orderBy (fun first second => sortKey target first ≤ sortKey target second)
      (table.ofItem itemId)).zipIdx 1 =
      (orderBy (fun first second => sortKey target first ≤ sortKey target second)
        (table.ofItem itemId)).map fun row => (row, table.place itemId target row) := by
    rw [orderBy, zipIdx_of_sorted (strict_insertionSort (ofItem_sortKeys_nodup ..))]
    apply List.map_congr_left
    intro row _
    exact congrArg (fun before => (row, 1 + before)) (rank_perm hperm row)
  rw [resequenceItemPreferredBins, renumber_rows, hnumbered]
  apply List.map_congr_left
  intro row hrow
  by_cases hitem : row.itemId = itemId
  · rw [if_pos hitem]
    exact renumbered_mem ((hperm.map _).nodup_iff.mpr hids)
      (mem_orderBy.mpr (mem_ofItem.mpr ⟨hrow, hitem⟩))
  · rw [if_neg hitem]
    apply renumbered_other
    intro entry hentry hsame
    obtain ⟨other, hother, rfl⟩ := List.mem_map.mp hentry
    obtain ⟨hstored, hotherItem⟩ := mem_ofItem.mp (mem_orderBy.mp hother)
    have hrow : other = row := List.inj_on_of_nodup_map table.keys_nodup hstored hrow hsame
    exact hitem (hrow ▸ hotherItem)

/-- The item's rows after a renumbering. -/
theorem ofItem_resequence (table : PreferredBins) (itemId target : ℕ) :
    (table.resequenceItemPreferredBins itemId target).ofItem itemId =
      (table.ofItem itemId).map fun row =>
        { row with priority := table.place itemId target row } := by
  unfold ofItem Table.select
  rw [resequence_rows, List.filter_map]
  have htest : ((fun row : PreferredBin => decide (row.itemId = itemId)) ∘ fun row =>
      if row.itemId = itemId then { row with priority := table.place itemId target row }
      else row) = fun row => decide (row.itemId = itemId) := by
    funext row
    by_cases hitem : row.itemId = itemId <;> simp [hitem]
  rw [htest]
  apply List.map_congr_left
  intro row hrow
  exact if_pos (of_decide_eq_true (List.mem_filter.mp hrow).2)

/-! ## Strict lists -/

/-- The item's priorities are one to the number of its bins. -/
def Strict (table : PreferredBins) (itemId : ℕ) : Prop :=
  ((table.ofItem itemId).map (·.priority)).Perm (List.range' 1 (table.ofItem itemId).length)

/-- A renumbered list is strict. -/
theorem strict_resequence (table : PreferredBins) (itemId target : ℕ) :
    (table.resequenceItemPreferredBins itemId target).Strict itemId := by
  have hsorted := zipIdx_of_sorted (strict_insertionSort (ofItem_sortKeys_nodup table itemId
    target)) 1
  have hperm := List.perm_insertionSort
    (fun first second => sortKey target first ≤ sortKey target second) (table.ofItem itemId)
  have hplaces := congrArg (List.map Prod.snd) hsorted
  rw [List.zipIdx_map_snd, List.map_map, hperm.length_eq] at hplaces
  have hsame : (Prod.snd ∘ fun row => (row, 1 + rank (sortKey target)
      ((table.ofItem itemId).insertionSort fun first second =>
        sortKey target first ≤ sortKey target second) row)) = table.place itemId target := by
    funext row
    rw [Function.comp_apply, place, rank_perm hperm]
  rw [hsame] at hplaces
  rw [Strict, ofItem_resequence, List.length_map, List.map_map, hplaces]
  exact (hperm.map _).symm

/-- A row of the item and the item's other rows. -/
theorem perm_cons_others (hrow : row ∈ table.ofItem itemId) :
    (table.ofItem itemId).Perm
      (row :: (table.ofItem itemId).filter fun other =>
        other.preferredBinId ≠ row.preferredBinId) := by
  have hnodup : (table.ofItem itemId).Nodup := (ofItem_ids_nodup table itemId).of_map _
  have hcons : (row :: (table.ofItem itemId).filter fun other =>
      other.preferredBinId ≠ row.preferredBinId).Nodup :=
    List.nodup_cons.mpr ⟨by simp, hnodup.filter _⟩
  rw [List.perm_ext_iff_of_nodup hnodup hcons]
  intro other
  simp only [List.mem_cons, List.mem_filter, decide_eq_true_eq]
  constructor
  · intro hother
    by_cases hsame : other.preferredBinId = row.preferredBinId
    · exact Or.inl (List.inj_on_of_nodup_map table.keys_nodup (mem_ofItem.mp hother).1
        (mem_ofItem.mp hrow).1 hsame)
    · exact Or.inr ⟨hother, hsame⟩
  · rintro (rfl | ⟨hother, -⟩)
    · exact hrow
    · exact hother

/-- How many bins of a strict list come before a priority. -/
theorem Strict.countP_lt (hstrict : table.Strict itemId) (priority : ℕ) :
    (table.ofItem itemId).countP (fun row => decide (row.priority < priority)) =
      min (priority - 1) (table.ofItem itemId).length := by
  rw [← countP_range'_lt, ← hstrict.countP_eq, List.countP_map]
  rfl

/-- The priorities of a strict list. -/
theorem Strict.priority_mem (hstrict : table.Strict itemId) (hrow : row ∈ table.ofItem itemId) :
    1 ≤ row.priority ∧ row.priority ≤ (table.ofItem itemId).length := by
  have hmem := hstrict.mem_iff.mp (List.mem_map_of_mem hrow)
  rw [List.mem_range'_1] at hmem
  omega

/-- Another row comes before the bin put in if its priority is smaller. -/
theorem sortKey_lt_target (hother : row.preferredBinId ≠ target) (binId priority : ℕ) :
    sortKey target row < sortKey target ⟨target, itemId, binId, priority⟩ ↔
      row.priority < priority := by
  simp [sortKey, Prod.Lex.toLex_lt_toLex, hother]

/-- Two other rows are sorted by their priorities. -/
theorem sortKey_lt_of_priority {first second : PreferredBin}
    (hlt : first.priority < second.priority) :
    sortKey target first < sortKey target second := by
  rw [sortKey, sortKey, Prod.Lex.toLex_lt_toLex]
  exact Or.inl hlt

end PreferredBins

/-! ## Where a bin lands -/

/-- A bin has been put at a place of the item's list: the list is strict, the bin is at the
place asked for or the last, and every two other bins are in the order they were in. -/
structure Repositioned (before after : PreferredBins) (itemId binId priority : ℕ) : Prop where
  strict : after.Strict itemId
  stands : ∃ row ∈ after.ofItem itemId, row.binId = binId
  lands : ∀ row ∈ after.ofItem itemId, row.binId = binId →
    row.priority = min priority (after.ofItem itemId).length
  others : ∀ other, other ≠ binId →
    ((∃ row ∈ after.ofItem itemId, row.binId = other) ↔
      ∃ row ∈ before.ofItem itemId, row.binId = other)
  inOrder : ∀ first ∈ before.ofItem itemId, ∀ second ∈ before.ofItem itemId,
    first.binId ≠ binId → second.binId ≠ binId → first.priority < second.priority →
      ∃ firstAfter ∈ after.ofItem itemId, ∃ secondAfter ∈ after.ofItem itemId,
        firstAfter.binId = first.binId ∧ secondAfter.binId = second.binId ∧
          firstAfter.priority < secondAfter.priority

/-- What is written before the item's bins are numbered anew: the bin's row has the priority
asked for, and the item's other rows are as they were. -/
structure Placed (before placed : PreferredBins) (itemId target binId priority : ℕ) : Prop where
  here : ⟨target, itemId, binId, priority⟩ ∈ placed.rows
  others : ∀ row : PreferredBin, row.preferredBinId ≠ target →
    (row ∈ placed.ofItem itemId ↔ row ∈ before.ofItem itemId)
  apart : ∀ row ∈ before.ofItem itemId, row.preferredBinId = target ↔ row.binId = binId

namespace Placed

open PreferredBins

variable {before placed : PreferredBins} {itemId target binId priority : ℕ}

theorem moved_mem (h : Placed before placed itemId target binId priority) :
    ⟨target, itemId, binId, priority⟩ ∈ placed.ofItem itemId :=
  mem_ofItem.mpr ⟨h.here, rfl⟩

/-- The item's row with the key of the bin is the bin's row. -/
theorem eq_moved (h : Placed before placed itemId target binId priority)
    (hrow : row ∈ placed.ofItem itemId) (htarget : row.preferredBinId = target) :
    row = ⟨target, itemId, binId, priority⟩ :=
  List.inj_on_of_nodup_map placed.keys_nodup (mem_ofItem.mp hrow).1 h.here htarget

/-- The item's row with the bin is the bin's row. -/
theorem target_iff (h : Placed before placed itemId target binId priority)
    (hrow : row ∈ placed.ofItem itemId) : row.preferredBinId = target ↔ row.binId = binId := by
  constructor
  · intro htarget
    rw [h.eq_moved hrow htarget]
  · intro hbin
    by_contra hother
    have hold := (h.others row hother).mp hrow
    exact hother ((h.apart row hold).mpr hbin)

/-- The other rows of the item, before and after the write. -/
theorem others_perm (h : Placed before placed itemId target binId priority) :
    ((placed.ofItem itemId).filter fun row => row.preferredBinId ≠ target).Perm
      ((before.ofItem itemId).filter fun row => row.preferredBinId ≠ target) := by
  have hnodup : ∀ table : PreferredBins,
      ((table.ofItem itemId).filter fun row => row.preferredBinId ≠ target).Nodup :=
    fun table => ((ofItem_ids_nodup table itemId).of_map _).filter _
  rw [List.perm_ext_iff_of_nodup (hnodup placed) (hnodup before)]
  intro row
  simp only [List.mem_filter, decide_eq_true_eq]
  constructor
  · rintro ⟨hrow, hother⟩
    exact ⟨(h.others row hother).mp hrow, hother⟩
  · rintro ⟨hrow, hother⟩
    exact ⟨(h.others row hother).mpr hrow, hother⟩

/-- The place of the bin, counted over the item's other rows. -/
theorem place_eq (h : Placed before placed itemId target binId priority) :
    placed.place itemId target ⟨target, itemId, binId, priority⟩ =
      1 + ((before.ofItem itemId).filter fun row => row.preferredBinId ≠ target).countP
        fun row => decide (row.priority < priority) := by
  have hperm := perm_cons_others h.moved_mem
  have hothers : ((placed.ofItem itemId).filter fun row => row.preferredBinId ≠ target).countP
      (fun row => decide (sortKey target row < sortKey target ⟨target, itemId, binId, priority⟩)) =
      ((placed.ofItem itemId).filter fun row => row.preferredBinId ≠ target).countP
        fun row => decide (row.priority < priority) := by
    apply List.countP_congr
    intro row hrow
    have hother : row.preferredBinId ≠ target := of_decide_eq_true (List.mem_filter.mp hrow).2
    rw [decide_eq_true_iff, decide_eq_true_iff, sortKey_lt_target hother]
  rw [place, rank_perm hperm, rank_cons, if_neg (lt_irrefl _), Nat.add_zero, rank, hothers,
    h.others_perm.countP_eq]

theorem length_eq (h : Placed before placed itemId target binId priority) :
    (placed.ofItem itemId).length =
      ((before.ofItem itemId).filter fun row => row.preferredBinId ≠ target).length + 1 := by
  rw [(perm_cons_others h.moved_mem).length_eq, List.length_cons, h.others_perm.length_eq]

/-- The bin lands where it was asked to, unless it moves down to a place that is taken. -/
theorem lands_iff (h : Placed before placed itemId target binId priority)
    (hstrict : before.Strict itemId) (hpriority : 1 ≤ priority) :
    placed.place itemId target ⟨target, itemId, binId, priority⟩ =
        min priority (placed.ofItem itemId).length ↔
      ∀ row ∈ before.ofItem itemId, row.preferredBinId = target →
        priority ≤ row.priority ∨ (before.ofItem itemId).length < priority := by
  have hcount := hstrict.countP_lt priority
  rw [h.place_eq, h.length_eq]
  cases hfind : (before.ofItem itemId).find? fun row => row.preferredBinId = target with
  | none =>
      have hnone : ∀ row ∈ before.ofItem itemId, row.preferredBinId ≠ target := by
        intro row hrow
        exact decide_eq_true_iff.not.mp (List.find?_eq_none.mp hfind row hrow)
      have hself : ((before.ofItem itemId).filter fun row => row.preferredBinId ≠ target) =
          before.ofItem itemId :=
        List.filter_eq_self.mpr fun row hrow => decide_eq_true (hnone row hrow)
      rw [hself, hcount]
      refine iff_of_true (by omega) fun row hrow htarget => ?_
      exact absurd htarget (hnone row hrow)
  | some old =>
      have hold : old ∈ before.ofItem itemId := List.mem_of_find?_eq_some hfind
      have htarget : old.preferredBinId = target := by
        simpa using List.find?_some hfind
      have hperm := perm_cons_others hold
      rw [htarget] at hperm
      have hwithin := hstrict.priority_mem hold
      have hsplit := hperm.countP_eq fun row => decide (row.priority < priority)
      rw [hcount, List.countP_cons] at hsplit
      have hlength := hperm.length_eq
      rw [List.length_cons] at hlength
      have honly : (∀ row ∈ before.ofItem itemId, row.preferredBinId = target →
          priority ≤ row.priority ∨ (before.ofItem itemId).length < priority) ↔
          priority ≤ old.priority ∨ (before.ofItem itemId).length < priority := by
        constructor
        · intro hall
          exact hall old hold htarget
        · intro hhere row hrow hrowTarget
          have hsame : row = old := List.inj_on_of_nodup_map before.keys_nodup
            (mem_ofItem.mp hrow).1 (mem_ofItem.mp hold).1 (hrowTarget.trans htarget.symm)
          rwa [hsame]
      rw [honly]
      by_cases hbefore : old.priority < priority
      · rw [if_pos (decide_eq_true hbefore)] at hsplit
        omega
      · rw [if_neg (decide_eq_true_iff.not.mpr hbefore)] at hsplit
        omega

/-- Another row, once the item's rows are numbered anew. -/
theorem other_mem (h : Placed before placed itemId target binId priority)
    (hrow : row ∈ before.ofItem itemId) (hother : row.binId ≠ binId) :
    { row with priority := placed.place itemId target row } ∈
      (placed.resequenceItemPreferredBins itemId target).ofItem itemId := by
  rw [ofItem_resequence]
  have hkept := (h.others row (mt (h.apart row hrow).mp hother)).mpr hrow
  exact List.mem_map.mpr ⟨row, hkept, rfl⟩

/-- After the renumbering the bin is where it was asked to be if and only if it does not move
down to a place that is taken. -/
theorem repositioned_iff (h : Placed before placed itemId target binId priority)
    (hstrict : before.Strict itemId) (hpriority : 1 ≤ priority) :
    Repositioned before (placed.resequenceItemPreferredBins itemId target) itemId binId priority ↔
      ∀ row ∈ before.ofItem itemId, row.binId = binId →
        priority ≤ row.priority ∨ (before.ofItem itemId).length < priority := by
  have hiff := h.lands_iff hstrict hpriority
  have hbins : (∀ row ∈ before.ofItem itemId, row.preferredBinId = target →
      priority ≤ row.priority ∨ (before.ofItem itemId).length < priority) ↔
      ∀ row ∈ before.ofItem itemId, row.binId = binId →
        priority ≤ row.priority ∨ (before.ofItem itemId).length < priority := by
    constructor
    · intro hall row hrow hbin
      exact hall row hrow ((h.apart row hrow).mpr hbin)
    · intro hall row hrow htarget
      exact hall row hrow ((h.apart row hrow).mp htarget)
  have hmoved : { (⟨target, itemId, binId, priority⟩ : PreferredBin) with
      priority := placed.place itemId target ⟨target, itemId, binId, priority⟩ } ∈
        (placed.resequenceItemPreferredBins itemId target).ofItem itemId := by
    rw [ofItem_resequence]
    exact List.mem_map.mpr ⟨_, h.moved_mem, rfl⟩
  have hlength : ((placed.resequenceItemPreferredBins itemId target).ofItem itemId).length =
      (placed.ofItem itemId).length := by
    rw [ofItem_resequence, List.length_map]
  rw [← hbins, ← hiff]
  constructor
  · intro hrepositioned
    have hlands := hrepositioned.lands _ hmoved rfl
    rwa [hlength] at hlands
  · intro hplace
    refine ⟨strict_resequence placed itemId target, ⟨_, hmoved, rfl⟩, ?_, ?_, ?_⟩
    · intro row hrow hbin
      rw [hlength]
      rw [ofItem_resequence] at hrow
      obtain ⟨old, hold, rfl⟩ := List.mem_map.mp hrow
      rw [h.eq_moved hold ((h.target_iff hold).mpr hbin)]
      exact hplace
    · intro other hother
      constructor
      · rintro ⟨row, hrow, hbin⟩
        rw [ofItem_resequence] at hrow
        obtain ⟨old, hold, rfl⟩ := List.mem_map.mp hrow
        have hne : old.preferredBinId ≠ target := by
          intro htarget
          exact hother (hbin.symm.trans ((h.target_iff hold).mp htarget))
        exact ⟨old, (h.others old hne).mp hold, hbin⟩
      · rintro ⟨row, hrow, hbin⟩
        exact ⟨_, h.other_mem hrow (fun hsame => hother (hbin.symm.trans hsame)), hbin⟩
    · intro first hfirst second hsecond hfirstOther hsecondOther hlt
      refine ⟨_, h.other_mem hfirst hfirstOther, _, h.other_mem hsecond hsecondOther, rfl, rfl, ?_⟩
      have hkept := (h.others first (mt (h.apart first hfirst).mp hfirstOther)).mpr hfirst
      exact Nat.add_lt_add_left (rank_lt_rank hkept (sortKey_lt_of_priority hlt)) 1

end Placed

/-! ## The writes -/

theorem mem_setPriority {priority : ℕ} :
    row ∈ (table.setPriority preferredBinId priority).rows ↔
      ∃ old ∈ table.rows, row = if old.preferredBinId = preferredBinId then
        { old with priority := priority } else old := by
  simp [PreferredBins.setPriority, Table.updateKey, Table.update, eq_comm]

/-- A stored row is given another priority. -/
theorem placed_setPriority (hrow : row ∈ table.rows) (priority : ℕ) :
    Placed table (table.setPriority row.preferredBinId priority) row.itemId row.preferredBinId
      row.binId priority where
  here := mem_setPriority.mpr ⟨row, hrow, by simp⟩
  others other hother := by
    simp only [PreferredBins.mem_ofItem, mem_setPriority]
    constructor
    · rintro ⟨⟨old, hold, hset⟩, hitem⟩
      by_cases hkey : old.preferredBinId = row.preferredBinId
      · rw [if_pos hkey] at hset
        exact absurd (hset ▸ hkey) hother
      · rw [if_neg hkey] at hset
        exact ⟨hset ▸ hold, hitem⟩
    · rintro ⟨hold, hitem⟩
      exact ⟨⟨other, hold, (if_neg hother).symm⟩, hitem⟩
  apart other hother := by
    obtain ⟨hstored, hitem⟩ := PreferredBins.mem_ofItem.mp hother
    constructor
    · intro hkey
      rw [List.inj_on_of_nodup_map table.keys_nodup hstored hrow hkey]
    · intro hbin
      rw [List.inj_on_of_nodup_map table.unique hstored hrow (Prod.ext hitem hbin)]

/-- A new row. -/
theorem placed_add {itemId binId : ℕ} (hfree : table.lookup itemId binId = none) (priority : ℕ) :
    Placed table (table.add itemId binId priority hfree) itemId table.nextKey binId
      priority where
  here := List.mem_append_right _ (List.mem_singleton_self _)
  others other hother := by
    simp only [PreferredBins.mem_ofItem, PreferredBins.add, Table.insert, List.mem_append,
      List.mem_singleton]
    constructor
    · rintro ⟨hold | rfl, hitem⟩
      · exact ⟨hold, hitem⟩
      · exact absurd rfl hother
    · rintro ⟨hold, hitem⟩
      exact ⟨Or.inl hold, hitem⟩
  apart other hother := by
    obtain ⟨hstored, hitem⟩ := PreferredBins.mem_ofItem.mp hother
    constructor
    · intro hkey
      exact absurd hkey (Nat.ne_of_lt (table.keys_lt other hstored))
    · intro hbin
      have hfound := List.find?_eq_none.mp hfree other hstored
      exact absurd (decide_eq_true ⟨hitem, hbin⟩) hfound

theorem ofItem_remove (table : PreferredBins) (itemId preferredBinId : ℕ) :
    (table.remove preferredBinId).ofItem itemId =
      (table.ofItem itemId).filter fun row => row.preferredBinId ≠ preferredBinId := by
  simp only [PreferredBins.ofItem, PreferredBins.remove, Table.select, Table.delete,
    List.filter_filter]
  congr 1
  funext row
  rw [Bool.and_comm]
  congr 1
  simp

/-- A list that loses a bin is strict if and only if it was the last. -/
theorem strict_remove_iff (hrow : row ∈ table.rows) (hstrict : table.Strict row.itemId) :
    (table.remove row.preferredBinId).Strict row.itemId ↔
      row.priority = (table.ofItem row.itemId).length := by
  have hitem : row ∈ table.ofItem row.itemId := PreferredBins.mem_ofItem.mpr ⟨hrow, rfl⟩
  have hperm := PreferredBins.perm_cons_others hitem
  have hlength := hperm.length_eq
  rw [List.length_cons] at hlength
  have hall := hstrict
  rw [PreferredBins.Strict, hlength] at hall
  rw [PreferredBins.Strict, ofItem_remove, hlength]
  generalize (table.ofItem row.itemId).filter
    (fun other => other.preferredBinId ≠ row.preferredBinId) = others at *
  have hpriorities : (row.priority :: others.map (·.priority)).Perm
      ((table.ofItem row.itemId).map (·.priority)) :=
    (hperm.map PreferredBin.priority).symm
  have hrange : (List.range' 1 (others.length + 1)).Perm
      ((others.length + 1) :: List.range' 1 others.length) := by
    rw [List.range'_concat, one_mul, Nat.add_comm 1]
    exact List.perm_append_singleton _ _
  have hsplit := (hpriorities.trans hall).trans hrange
  constructor
  · intro hothers
    have hmem : others.length + 1 ∈ row.priority :: others.map (·.priority) :=
      hsplit.mem_iff.mpr List.mem_cons_self
    cases List.mem_cons.mp hmem with
    | inl hlast => exact hlast.symm
    | inr hamong =>
        have hrange := hothers.mem_iff.mp hamong
        rw [List.mem_range'_1] at hrange
        omega
  · intro hlast
    rw [hlast] at hsplit
    exact hsplit.cons_inv

/-! ## Every request -/

namespace PreferredBinRequest

/-- The item whose bins a request is about. -/
def itemId? (table : PreferredBins) : PreferredBinRequest → Option ℕ
  | create request => some request.itemId
  | update preferredBinId _ => (table.find? preferredBinId).map (·.itemId)
  | delete preferredBinId => (table.find? preferredBinId).map (·.itemId)

/-- A bin created or updated is where it was asked to be, and a deletion leaves no gap. -/
def Meets (before after : PreferredBins) : PreferredBinRequest → Prop
  | create request =>
      Repositioned before after request.itemId request.binId request.priority
  | update preferredBinId request =>
      ∀ row ∈ before.find? preferredBinId,
        Repositioned before after row.itemId row.binId request.priority
  | delete preferredBinId =>
      ∀ row ∈ before.find? preferredBinId, after.Strict row.itemId

/-- The bin is new, or it moves up, or past the end; the bin deleted is the last. -/
def Clear (before : PreferredBins) : PreferredBinRequest → Prop
  | create request =>
      ∀ row ∈ before.ofItem request.itemId, row.binId = request.binId →
        request.priority ≤ row.priority ∨ (before.ofItem request.itemId).length < request.priority
  | update preferredBinId request =>
      ∀ row ∈ before.find? preferredBinId, request.priority ≤ row.priority ∨
        (before.ofItem row.itemId).length < request.priority
  | delete preferredBinId =>
      ∀ row ∈ before.find? preferredBinId, row.priority = (before.ofItem row.itemId).length

end PreferredBinRequest

variable {before after : PreferredBins}

theorem create_meets_iff {db : Db} {request : CreatePreferredBinRequest}
    (hserve : createPreferredBin db before request = .ok after)
    (hstrict : before.Strict request.itemId) :
    (PreferredBinRequest.create request).Meets before after ↔
      (PreferredBinRequest.create request).Clear before := by
  rw [createPreferredBin, bind_eq_ok] at hserve
  obtain ⟨bin, -, hserve⟩ := hserve
  rw [bind_eq_ok] at hserve
  obtain ⟨-, -, hserve⟩ := hserve
  rw [bind_eq_ok] at hserve
  obtain ⟨-, -, hserve⟩ := hserve
  cases hserve
  rw [upsertPreferredBin]
  split
  · rename_i row hlookup
    have hrow := List.mem_of_find?_eq_some hlookup
    have hpair : row.itemId = request.itemId ∧ row.binId = request.binId := by
      simpa using List.find?_some hlookup
    have hplaced := placed_setPriority hrow request.priority
    rw [hpair.1, hpair.2] at hplaced
    exact hplaced.repositioned_iff hstrict request.priority_pos
  · rename_i hlookup
    exact (placed_add hlookup request.priority).repositioned_iff hstrict request.priority_pos

theorem update_meets_iff {request : UpdatePreferredBinRequest}
    (hserve : updatePreferredBin before preferredBinId request = .ok after)
    (hstrict : ∀ row ∈ before.find? preferredBinId, before.Strict row.itemId) :
    (PreferredBinRequest.update preferredBinId request).Meets before after ↔
      (PreferredBinRequest.update preferredBinId request).Clear before := by
  rw [updatePreferredBin, bind_eq_ok] at hserve
  obtain ⟨row, hfind, hserve⟩ := hserve
  rw [orThrow_eq_ok] at hfind
  cases hserve
  obtain ⟨hrow, hkey⟩ := Table.find?_eq_some_iff.mp hfind
  have hiff := (placed_setPriority hrow request.priority).repositioned_iff
    (hstrict row hfind) request.priority_pos
  have honly : (∀ other ∈ before.ofItem row.itemId, other.binId = row.binId →
      request.priority ≤ other.priority ∨ (before.ofItem row.itemId).length < request.priority) ↔
      (request.priority ≤ row.priority ∨
        (before.ofItem row.itemId).length < request.priority) := by
    constructor
    · intro hall
      exact hall row (PreferredBins.mem_ofItem.mpr ⟨hrow, rfl⟩) rfl
    · intro hhere other hother hbin
      obtain ⟨hstored, hitem⟩ := PreferredBins.mem_ofItem.mp hother
      rwa [List.inj_on_of_nodup_map before.unique hstored hrow (Prod.ext hitem hbin)]
  rw [hkey] at hiff
  unfold PreferredBinRequest.Meets PreferredBinRequest.Clear
  simp only [hfind, Option.mem_def, Option.some.injEq, forall_eq']
  exact hiff.trans honly

theorem delete_meets_iff (hstrict : ∀ row ∈ before.find? preferredBinId, before.Strict row.itemId) :
    (PreferredBinRequest.delete preferredBinId).Meets before (before.remove preferredBinId) ↔
      (PreferredBinRequest.delete preferredBinId).Clear before := by
  unfold PreferredBinRequest.Meets PreferredBinRequest.Clear
  apply forall₂_congr
  intro row hfind
  obtain ⟨hrow, hkey⟩ := Table.find?_eq_some_iff.mp hfind
  rw [← hkey]
  exact strict_remove_iff hrow (hstrict row hfind)

/-- Where the item's bins are a strict list, a request does what is asked if and only if it
does not move a bin down to a place that is taken, and deletes no bin but the last. -/
theorem preferredBins_iff (db : Db) {request : PreferredBinRequest}
    (hserve : servePreferredBins db before request = .ok after)
    (hstrict : ∀ itemId ∈ request.itemId? before, before.Strict itemId) :
    request.Meets before after ↔ request.Clear before := by
  cases request with
  | create request => exact create_meets_iff hserve (hstrict _ rfl)
  | update preferredBinId request =>
      refine update_meets_iff hserve fun row hrow => hstrict _ ?_
      rw [PreferredBinRequest.itemId?, Option.mem_def.mp hrow]
      rfl
  | delete preferredBinId =>
      cases hserve
      refine delete_meets_iff fun row hrow => hstrict _ ?_
      rw [PreferredBinRequest.itemId?, Option.mem_def.mp hrow]
      rfl

/-- An item with two preferred bins. -/
def twoPreferredBins : PreferredBins where
  rows := [⟨1, 1, 3, 1⟩, ⟨2, 1, 4, 2⟩]
  nextKey := 3
  keys_nodup := by decide
  keys_lt := by decide
  unique := by decide

theorem twoPreferredBins_strict : twoPreferredBins.Strict 1 := by
  rw [PreferredBins.Strict]
  decide

/-- The second bin is asked up to the first place, and is there. -/
theorem preferredBins_iff_up :
    (PreferredBinRequest.update 2 ⟨1, by decide, by decide⟩).Meets twoPreferredBins
      ((twoPreferredBins.setPriority 2 1).resequenceItemPreferredBins 1 2) := by
  have hclear : (PreferredBinRequest.update 2 ⟨1, by decide, by decide⟩).Clear
      twoPreferredBins := by
    intro row hrow
    cases hrow
    exact Or.inl (by decide)
  refine (preferredBins_iff SmallWarehouse.db rfl fun itemId hitem => ?_).mpr hclear
  cases hitem
  exact twoPreferredBins_strict

/-- The first bin is asked down to the second place and stays where it was; and the list
without its first bin begins at two. -/
theorem asked_down_stays :
    servePreferredBins SmallWarehouse.db twoPreferredBins
        (.update 1 ⟨2, by decide, by decide⟩) =
      .ok ((twoPreferredBins.setPriority 1 2).resequenceItemPreferredBins 1 1) ∧
    ((twoPreferredBins.setPriority 1 2).resequenceItemPreferredBins 1 1).rows =
      twoPreferredBins.rows ∧
    ¬ (PreferredBinRequest.update 1 ⟨2, by decide, by decide⟩).Meets twoPreferredBins
      ((twoPreferredBins.setPriority 1 2).resequenceItemPreferredBins 1 1) ∧
    ((twoPreferredBins.remove 1).ofItem 1).map (·.priority) = [2] ∧
    ¬ (PreferredBinRequest.delete 1).Meets twoPreferredBins (twoPreferredBins.remove 1) := by
  have hstays : ((twoPreferredBins.setPriority 1 2).resequenceItemPreferredBins 1 1).rows =
      twoPreferredBins.rows := by
    decide +kernel
  refine ⟨rfl, hstays, ?_, by decide, ?_⟩
  · intro hmeets
    have hlands := (hmeets ⟨1, 1, 3, 1⟩ rfl).lands ⟨1, 1, 3, 1⟩
      (PreferredBins.mem_ofItem.mpr ⟨hstays ▸ List.mem_cons_self, rfl⟩) rfl
    rw [PreferredBins.ofItem, Table.select, hstays] at hlands
    revert hlands
    decide
  · intro hmeets
    have hstrict := (hmeets ⟨1, 1, 3, 1⟩ rfl).mem_iff (a := 2)
    revert hstrict
    decide

end SentryWms.Admin
