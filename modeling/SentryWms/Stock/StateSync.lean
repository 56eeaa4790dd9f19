import Mathlib.Data.Fintype.Basic
import SentryWms.Relational.Sessions
import SentryWms.Stock.Reserved

/-!
# Stock figures pushed from upstream

`inventory_update` brings the units of an item in a bin to a target.  It reads one of the
bin's rows, whichever comes first, and writes the difference: off that row where the
units fall, onto the row without a lot where they rise.  First a single update and its
repeat, then several of them, statement by statement.
-/

namespace SentryWms.Stock

open Relational Sessions Inventory

/-! ## One update -/

/-- `WHERE item_id = :iid AND bin_id = :bid`. -/
def binRows (db : Db) (itemId binId : ℕ) : List InventoryRow :=
  db.inventory.select fun row => row.itemId = itemId ∧ row.binId = binId

/-- What a lookup without an order may return first. -/
def MayRead (db : Db) (itemId binId : ℕ) : Option InventoryRow → Prop
  | some row => row ∈ binRows db itemId binId
  | none => binRows db itemId binId = []

/-- Whatever rows the update and its repeat read, the bin ends at the target, and the
repeat reports no difference and changes nothing. -/
def ReachesTarget (ctx ctx' : RequestContext) (db : Db) (update : InventoryUpdate) : Prop :=
  ∀ stored?, MayRead db update.itemId update.binId stored? →
    onHandAt (syncStored ctx update stored? db) update.itemId update.binId = update.targetQuantity ∧
      ∀ repeated?,
        MayRead (syncStored ctx update stored? db) update.itemId update.binId repeated? →
          update.delta repeated? = 0 ∧
            syncStored ctx' update repeated? (syncStored ctx update stored? db) =
              syncStored ctx update stored? db

/-- The bin has at most one row of the item, and units join that row. -/
def SingleRow (db : Db) (update : InventoryUpdate) : Prop :=
  (binRows db update.itemId update.binId).length ≤ 1 ∧
    ∀ row ∈ binRows db update.itemId update.binId,
      row.quantityOnHand < update.targetQuantity → row.lotNumber = none

/-- Nothing is there, and nothing is to be. -/
def AlreadyEmpty (db : Db) (update : InventoryUpdate) : Prop :=
  update.targetQuantity = 0 ∧ ∀ row ∈ binRows db update.itemId update.binId, row.quantityOnHand = 0

/-! ## The rows of a bin -/

variable {db db' : Db} {itemId binId : ℕ}

theorem mem_binRows {row : InventoryRow} :
    row ∈ binRows db itemId binId ↔
      row ∈ db.inventory.rows ∧ row.itemId = itemId ∧ row.binId = binId := by
  simp [binRows, Table.select]

theorem binRows_congr (hinventory : db'.inventory = db.inventory) :
    binRows db' itemId binId = binRows db itemId binId := by
  rw [binRows, binRows, hinventory]

theorem onHandAt_congr (hinventory : db'.inventory = db.inventory) :
    onHandAt db' itemId binId = onHandAt db itemId binId := by
  rw [onHandAt, onHandAt, onHandOver, onHandOver, hinventory]

/-- The units in the bin are those of its rows. -/
theorem onHandAt_eq_sum (db : Db) (itemId binId : ℕ) :
    onHandAt db itemId binId =
      ((binRows db itemId binId).map InventoryRow.quantityOnHand).sum := by
  rw [onHandAt, onHandOver, Table.sum, binRows, Table.select]
  induction db.inventory.rows with
  | nil => rfl
  | cons row rest ih =>
      by_cases hplace : row.itemId = itemId ∧ row.binId = binId
      · simp only [List.map_cons, List.sum_cons, itemInBin, InventoryRow.place, hplace,
          and_self, decide_true, if_true, List.filter_cons] at ih ⊢
        rw [ih]
      · simp only [List.map_cons, List.sum_cons, itemInBin, InventoryRow.place, hplace,
          decide_false, Bool.false_eq_true, if_false, zero_add, List.filter_cons] at ih ⊢
        exact ih

theorem mayRead_binRow? (db : Db) (itemId binId : ℕ) :
    MayRead db itemId binId (binRow? db itemId binId) := by
  cases hrow : binRow? db itemId binId with
  | some row => exact mem_binRows.mpr (binRow?_mem hrow)
  | none =>
      rw [binRow?, List.find?_eq_none] at hrow
      exact List.filter_eq_nil_iff.mpr hrow

theorem binRows_updateKey {inventoryId : ℕ} {set : InventoryRow → InventoryRow}
    {hset : ∀ row, (set row).inventoryId = row.inventoryId}
    (hkeep : ∀ row, (set row).itemId = row.itemId ∧ (set row).binId = row.binId) :
    binRows { db with inventory := db.inventory.updateKey inventoryId set hset } itemId binId =
      (binRows db itemId binId).map fun row =>
        if row.inventoryId = inventoryId then set row else row := by
  rw [binRows, binRows, Table.select, Table.select, Table.updateKey, Table.update, List.filter_map]
  congr 1
  · funext row
    simp only [decide_eq_true_eq]
  · congr 1
    funext row
    by_cases hkey : row.inventoryId = inventoryId
    · simp [hkey, hkeep]
    · simp [hkey]

theorem binRows_setInventoryQuantity (now inventoryId : ℕ) (quantity : ℤ) :
    binRows (setInventoryQuantity now inventoryId quantity db) itemId binId =
      (binRows db itemId binId).map fun row =>
        if row.inventoryId = inventoryId then
          { row with
            quantityOnHand := quantity
            updatedAt := now }
        else row :=
  binRows_updateKey fun _ => ⟨rfl, rfl⟩

variable {lotNumber : Option String}

theorem existingRow?_mem_binRows {row : InventoryRow}
    (hrow : existingRow? db itemId binId lotNumber = some row) :
    row ∈ binRows db itemId binId ∧ row.lotNumber = lotNumber := by
  have hfound := List.find?_some hrow
  rw [decide_eq_true_eq] at hfound
  exact ⟨mem_binRows.mpr ⟨List.mem_of_find?_eq_some hrow, hfound.1, hfound.2.1⟩, hfound.2.2⟩

theorem existingRow?_isSome {row : InventoryRow} (hrow : row ∈ binRows db itemId binId) :
    ∃ existing, existingRow? db itemId binId row.lotNumber = some existing := by
  rw [← Option.isSome_iff_exists, existingRow?, List.find?_isSome]
  obtain ⟨hmem, hitem, hbin⟩ := mem_binRows.mp hrow
  exact ⟨row, hmem, decide_eq_true ⟨hitem, hbin, rfl⟩⟩

/-- Stock joins the row of its lot. -/
theorem binRows_addInventory_some {now warehouseId : ℕ} {quantity : ℤ} {existing : InventoryRow}
    (hexisting : existingRow? db itemId binId lotNumber = some existing) :
    binRows (addInventory now itemId binId warehouseId quantity lotNumber db) itemId binId =
      (binRows db itemId binId).map fun row =>
        if row.inventoryId = existing.inventoryId then
          { row with
            quantityOnHand := row.quantityOnHand + quantity
            updatedAt := now }
        else row := by
  rw [addInventory, hexisting]
  exact binRows_updateKey fun _ => ⟨rfl, rfl⟩

/-- Stock without a row of its lot gets one. -/
theorem binRows_addInventory_none (now warehouseId : ℕ) (quantity : ℤ)
    (hnone : existingRow? db itemId binId lotNumber = none) :
    ∃ row, binRows (addInventory now itemId binId warehouseId quantity lotNumber db)
      itemId binId = binRows db itemId binId ++ [row] := by
  rw [addInventory, hnone, binRows, binRows, Table.select, Table.select, Table.insert,
    List.filter_append]
  exact ⟨_, congrArg _ (List.filter_cons_of_pos (by simp))⟩

/-! ## What an update leaves -/

section Update

variable {ctx ctx' : RequestContext} {update : InventoryUpdate} {stored? : Option InventoryRow}

theorem syncStored_of_zero (hzero : update.delta stored? = 0) :
    syncStored ctx update stored? db = db := by
  simp only [syncStored, hzero, if_true]

theorem syncStored_of_pos (hpos : 0 < update.delta stored?) :
    (syncStored ctx update stored? db).inventory =
      (addInventory ctx.now update.itemId update.binId update.warehouseId
        (update.delta stored?) none db).inventory := by
  simp only [syncStored, hpos.ne', if_false, hpos, if_true]
  rw [insertAdjustment_inventory]
  exact releaseBackorders_inventory ..

/-- Units only fall on a row that was read: a target is never negative. -/
theorem exists_of_delta_neg (hneg : update.delta stored? < 0) : ∃ row, stored? = some row := by
  cases stored? with
  | some row => exact ⟨row, rfl⟩
  | none =>
      have hnonneg := update.targetQuantity_nonneg
      simp only [InventoryUpdate.delta, onHandIn, Option.elim_none] at hneg
      omega

theorem syncStored_of_neg {row : InventoryRow} (hneg : update.delta (some row) < 0) :
    (syncStored ctx update (some row) db).inventory =
      (setInventoryQuantity ctx.now row.inventoryId update.targetQuantity db).inventory := by
  have hquantity : row.quantityOnHand + update.delta (some row) = update.targetQuantity := by
    simp only [InventoryUpdate.delta, onHandIn, Option.elim_some]
    omega
  simp only [syncStored, hneg.ne, if_false, hneg.not_gt]
  rw [insertAdjustment_inventory, hquantity]

/-- The bin moves by the reported difference. -/
theorem onHandAt_syncStored (hread : MayRead db update.itemId update.binId stored?) :
    onHandAt (syncStored ctx update stored? db) update.itemId update.binId =
      onHandAt db update.itemId update.binId + update.delta stored? := by
  rcases lt_trichotomy (update.delta stored?) 0 with hneg | hzero | hpos
  · obtain ⟨row, rfl⟩ := exists_of_delta_neg hneg
    obtain ⟨hmem, hitem, hbin⟩ := mem_binRows.mp hread
    rw [onHandAt_congr (syncStored_of_neg hneg), setInventoryQuantity_eq hmem, onHandAt,
      onHandOver_addOnHand _ _ _ _ hmem, onHandAt]
    simp only [itemInBin, InventoryRow.place, hitem, hbin, and_self, decide_true, if_true,
      InventoryUpdate.delta, onHandIn, Option.elim_some]
  · rw [syncStored_of_zero hzero, hzero, add_zero]
  · rw [onHandAt_congr (syncStored_of_pos hpos), onHandAt_addInventory, if_pos ⟨rfl, rfl⟩]

/-- Where the row read is the only one, it is all the bin has. -/
theorem onHandAt_eq_onHandIn (hlength : (binRows db itemId binId).length ≤ 1)
    (hread : MayRead db itemId binId stored?) :
    onHandAt db itemId binId = onHandIn stored? := by
  rw [onHandAt_eq_sum]
  cases stored? with
  | none =>
      rw [show binRows db itemId binId = [] from hread]
      rfl
  | some row =>
      have hmem : row ∈ binRows db itemId binId := hread
      obtain ⟨only, honly⟩ := List.length_eq_one_iff.mp
        (Nat.le_antisymm hlength (List.length_pos_of_mem hmem))
      rw [honly, List.mem_singleton] at hmem
      rw [honly, hmem]
      simp [onHandIn]

/-- A single row stays single where units join it. -/
theorem length_syncStored (hsingle : SingleRow db update)
    (hread : MayRead db update.itemId update.binId stored?) :
    (binRows (syncStored ctx update stored? db) update.itemId update.binId).length ≤ 1 := by
  obtain ⟨hlength, hlot⟩ := hsingle
  rcases lt_trichotomy (update.delta stored?) 0 with hneg | hzero | hpos
  · obtain ⟨row, rfl⟩ := exists_of_delta_neg hneg
    rw [binRows_congr (syncStored_of_neg hneg), binRows_setInventoryQuantity, List.length_map]
    exact hlength
  · rw [syncStored_of_zero hzero]
    exact hlength
  · rw [binRows_congr (syncStored_of_pos hpos)]
    cases stored? with
    | none =>
        have hempty : binRows db update.itemId update.binId = [] := hread
        cases hexisting : existingRow? db update.itemId update.binId none with
        | some existing =>
            have hmem := (existingRow?_mem_binRows hexisting).1
            rw [hempty] at hmem
            exact (List.not_mem_nil hmem).elim
        | none =>
            obtain ⟨row, hrows⟩ := binRows_addInventory_none ctx.now update.warehouseId
              (update.delta none) hexisting
            rw [hrows, hempty]
            exact le_refl 1
    | some row =>
        have hbelow : row.quantityOnHand < update.targetQuantity := by
          simpa [InventoryUpdate.delta, onHandIn] using hpos
        obtain ⟨existing, hexisting⟩ := existingRow?_isSome hread
        rw [hlot row hread hbelow] at hexisting
        rw [binRows_addInventory_some hexisting, List.length_map]
        exact hlength

theorem onHandAt_syncStored_single (hsingle : SingleRow db update)
    (hread : MayRead db update.itemId update.binId stored?) :
    onHandAt (syncStored ctx update stored? db) update.itemId update.binId =
      update.targetQuantity := by
  rw [onHandAt_syncStored hread, onHandAt_eq_onHandIn hsingle.1 hread, InventoryUpdate.delta]
  omega

theorem reachesTarget_of_single (hsingle : SingleRow db update) :
    ReachesTarget ctx ctx' db update := by
  intro stored? hread
  have htarget : onHandAt (syncStored ctx update stored? db) update.itemId update.binId =
      update.targetQuantity := onHandAt_syncStored_single hsingle hread
  refine ⟨htarget, ?_⟩
  intro repeated? hrepeated
  have hzero : update.delta repeated? = 0 := by
    rw [InventoryUpdate.delta,
      ← onHandAt_eq_onHandIn (length_syncStored hsingle hread) hrepeated, htarget]
    omega
  exact ⟨hzero, syncStored_of_zero hzero⟩

theorem onHandIn_of_alreadyEmpty (hempty : AlreadyEmpty db update)
    (hread : MayRead db update.itemId update.binId stored?) : onHandIn stored? = 0 := by
  cases stored? with
  | none => rfl
  | some row => exact hempty.2 row hread

theorem reachesTarget_of_empty (hempty : AlreadyEmpty db update) :
    ReachesTarget ctx ctx' db update := by
  intro stored? hread
  have hzero : ∀ row?, MayRead db update.itemId update.binId row? →
      update.delta row? = 0 := by
    intro row? hrow
    rw [InventoryUpdate.delta, onHandIn_of_alreadyEmpty hempty hrow, hempty.1]
    rfl
  rw [syncStored_of_zero (hzero stored? hread)]
  constructor
  · rw [onHandAt_eq_sum, hempty.1]
    apply List.sum_eq_zero
    intro quantity hquantity
    obtain ⟨row, hrow, rfl⟩ := List.mem_map.mp hquantity
    exact hempty.2 row hrow
  · intro repeated? hrepeated
    exact ⟨hzero repeated? hrepeated, syncStored_of_zero (hzero repeated? hrepeated)⟩

/-- A lot of its own is read again, and the units are added a second time. -/
theorem lot_none_of_reaches (hreaches : ReachesTarget ctx ctx' db update)
    (hlength : (binRows db update.itemId update.binId).length ≤ 1) {row : InventoryRow}
    (hrow : row ∈ binRows db update.itemId update.binId)
    (hbelow : row.quantityOnHand < update.targetQuantity) : row.lotNumber = none := by
  by_contra hlot
  have hpos : 0 < update.delta (some row) := by
    simpa [InventoryUpdate.delta, onHandIn] using hbelow
  have hnone : existingRow? db update.itemId update.binId none = none := by
    cases hexisting : existingRow? db update.itemId update.binId none with
    | none => rfl
    | some existing =>
        obtain ⟨hmem, hnolot⟩ := existingRow?_mem_binRows hexisting
        obtain ⟨only, honly⟩ := List.length_eq_one_iff.mp
          (Nat.le_antisymm hlength (List.length_pos_of_mem hrow))
        rw [honly, List.mem_singleton] at hmem hrow
        rw [hrow, ← hmem] at hlot
        exact (hlot hnolot).elim
  obtain ⟨added, hrows⟩ := binRows_addInventory_none ctx.now update.warehouseId
    (update.delta (some row)) hnone
  have hstays : row ∈ binRows (syncStored ctx update (some row) db) update.itemId
      update.binId := by
    rw [binRows_congr (syncStored_of_pos hpos), hrows]
    exact List.mem_append_left _ hrow
  exact hpos.ne' ((hreaches (some row) hrow).2 (some row) hstays).1

/-- Whichever row is read is all the bin has. -/
theorem quantity_eq_of_reaches (hreaches : ReachesTarget ctx ctx' db update)
    {row : InventoryRow} (hrow : row ∈ binRows db update.itemId update.binId) :
    row.quantityOnHand = onHandAt db update.itemId update.binId := by
  have hread : MayRead db update.itemId update.binId (some row) := hrow
  have htarget := (hreaches (some row) hread).1
  rw [onHandAt_syncStored hread] at htarget
  simp only [InventoryUpdate.delta, onHandIn, Option.elim_some] at htarget
  omega

theorem quantity_eq_zero_of_reaches (hreaches : ReachesTarget ctx ctx' db update)
    (hlength : 1 < (binRows db update.itemId update.binId).length) {row : InventoryRow}
    (hrow : row ∈ binRows db update.itemId update.binId) : row.quantityOnHand = 0 := by
  have hsum := onHandAt_eq_sum db update.itemId update.binId
  rw [List.sum_eq_card_nsmul _ (onHandAt db update.itemId update.binId) (by
    intro quantity hquantity
    obtain ⟨other, hother, rfl⟩ := List.mem_map.mp hquantity
    exact quantity_eq_of_reaches hreaches hother), List.length_map, nsmul_eq_mul] at hsum
  rw [quantity_eq_of_reaches hreaches hrow]
  have hfactor : ((binRows db update.itemId update.binId).length - 1 : ℤ) *
      onHandAt db update.itemId update.binId = 0 := by
    rw [sub_mul, one_mul, ← hsum, sub_self]
  apply (mul_eq_zero.mp hfactor).resolve_left
  omega

/-- Two rows do not share the units: the second is still empty for the repeat. -/
theorem target_eq_zero_of_reaches (hreaches : ReachesTarget ctx ctx' db update)
    (hlength : 1 < (binRows db update.itemId update.binId).length) :
    update.targetQuantity = 0 := by
  by_contra htarget
  have hzero : ∀ row ∈ binRows db update.itemId update.binId, row.quantityOnHand = 0 :=
    fun row hrow => quantity_eq_zero_of_reaches hreaches hlength hrow
  have hdelta : ∀ row ∈ binRows db update.itemId update.binId,
      update.delta (some row) = update.targetQuantity := by
    intro row hrow
    simp [InventoryUpdate.delta, onHandIn, hzero row hrow]
  obtain ⟨first, second, rest, hrows⟩ :
      ∃ first second rest, binRows db update.itemId update.binId = first :: second :: rest := by
    rcases hrows : binRows db update.itemId update.binId with - | ⟨first, - | ⟨second, rest⟩⟩
    · simp [hrows] at hlength
    · simp [hrows] at hlength
    · exact ⟨first, second, rest, rfl⟩
  have hfirst : first ∈ binRows db update.itemId update.binId := by simp [hrows]
  have hsecond : second ∈ binRows db update.itemId update.binId := by simp [hrows]
  have hapart : first.inventoryId ≠ second.inventoryId := by
    have hnodup : ((binRows db update.itemId update.binId).map
        InventoryRow.inventoryId).Nodup :=
      List.Nodup.sublist (List.filter_sublist.map _) db.inventory.keys_nodup
    rw [hrows] at hnodup
    simp only [List.map_cons, List.nodup_cons, List.mem_cons] at hnodup
    exact fun hsame => hnodup.1 (Or.inl hsame)
  have hpos : 0 < update.delta (some first) := by
    have hnonneg := update.targetQuantity_nonneg
    rw [hdelta first hfirst]
    omega
  obtain ⟨row, hrow, hstays⟩ : ∃ row ∈ binRows db update.itemId update.binId,
      row ∈ binRows (syncStored ctx update (some first) db) update.itemId update.binId := by
    rw [binRows_congr (syncStored_of_pos hpos)]
    cases hexisting : existingRow? db update.itemId update.binId none with
    | none =>
        obtain ⟨added, hadded⟩ := binRows_addInventory_none ctx.now update.warehouseId
          (update.delta (some first)) hexisting
        exact ⟨first, hfirst, hadded ▸ List.mem_append_left _ hfirst⟩
    | some existing =>
        rw [binRows_addInventory_some hexisting]
        by_cases hsame : first.inventoryId = existing.inventoryId
        · refine ⟨second, hsecond, List.mem_map.mpr ⟨second, hsecond, if_neg ?_⟩⟩
          exact fun hother => hapart (hsame.trans hother.symm)
        · exact ⟨first, hfirst, List.mem_map.mpr ⟨first, hfirst, if_neg hsame⟩⟩
  have hagain := ((hreaches (some first) hfirst).2 (some row) hstays).1
  rw [hdelta row hrow] at hagain
  exact htarget hagain

theorem reachesTarget_iff :
    ReachesTarget ctx ctx' db update ↔ SingleRow db update ∨ AlreadyEmpty db update := by
  constructor
  · intro hreaches
    by_cases hlength : (binRows db update.itemId update.binId).length ≤ 1
    · exact Or.inl ⟨hlength, fun row hrow hbelow =>
        lot_none_of_reaches hreaches hlength hrow hbelow⟩
    · have hlonger := Nat.lt_of_not_le hlength
      exact Or.inr ⟨target_eq_zero_of_reaches hreaches hlonger, fun row hrow =>
        quantity_eq_zero_of_reaches hreaches hlonger hrow⟩
  · rintro (hsingle | hempty)
    · exact reachesTarget_of_single hsingle
    · exact reachesTarget_of_empty hempty

end Update

/-! ## Updates of one bin, statement by statement -/

/-- The database, and the targets of the updates that have finished, the last first. -/
structure SyncWorld where
  db : Db
  synced : List ℤ

/-- An update of the item in the bin. -/
structure SyncRequest (itemId binId : ℕ) where
  ctx : RequestContext
  update : InventoryUpdate
  itemId_eq : update.itemId = itemId
  binId_eq : update.binId = binId

/-- The next statement, with the row read and the rows locked with it. -/
inductive SyncMemory
  | start
  | read (lockedIds : List ℕ) (stored? : Option InventoryRow)
  | raising (lockedIds : List ℕ) (stored? : Option InventoryRow)

/-- A row lock, or `pg_advisory_xact_lock(item, bin)`. -/
inductive SyncLock
  | row (inventoryId : ℕ)
  | bin
  deriving DecidableEq, Repr

inductive SyncAnswer
  | noop
  | applied (delta : ℤ)
  deriving DecidableEq, Repr

def SyncMemory.holds : SyncMemory → SyncLock → Bool
  | .start, _ => false
  | .read lockedIds _, .row inventoryId => inventoryId ∈ lockedIds
  | .read _ _, .bin => false
  | .raising lockedIds _, .row inventoryId => inventoryId ∈ lockedIds
  | .raising _ _, .bin => true

/-- The update is answered. -/
def SyncWorld.finish {itemId binId : ℕ} (request : SyncRequest itemId binId)
    (stored? : Option InventoryRow) (world : SyncWorld) : SyncWorld where
  db := syncStored request.ctx request.update stored? world.db
  synced := request.update.targetQuantity :: world.synced

def syncStatement {itemId binId : ℕ} (request : SyncRequest itemId binId)
    (memory : SyncMemory) (isLocked : SyncLock → Bool) (world : SyncWorld) :
    Outcome SyncWorld SyncMemory SyncAnswer :=
  match memory with
  | .start =>
      let lockedIds := (binRows world.db itemId binId).map InventoryRow.inventoryId
      let stored? := binRow? world.db itemId binId
      if lockedIds.any fun inventoryId => isLocked (.row inventoryId) then .wait
      else if request.update.delta stored? = 0 then
        .commit (world.finish request stored?) .noop
      else .proceed (.read lockedIds stored?)
  | .read lockedIds stored? =>
      if 0 < request.update.delta stored? then
        if isLocked .bin then .wait else .proceed (.raising lockedIds stored?)
      else
        .commit (world.finish request stored?) (.applied (request.update.delta stored?))
  | .raising _ stored? =>
      if (existingRow? world.db itemId binId none).any fun existing =>
          isLocked (.row existing.inventoryId) then .wait
      else
        .commit (world.finish request stored?) (.applied (request.update.delta stored?))

def syncProgram (itemId binId : ℕ) :
    Program SyncWorld (SyncRequest itemId binId) SyncMemory SyncLock SyncAnswer where
  start := fun _ => .start
  holds := fun _ => SyncMemory.holds
  statement := syncStatement
  start_holds := fun _ _ => rfl

/-- The bin has at most one row of the item, and holds the target of the last update. -/
structure SyncSound (itemId binId : ℕ) (world : SyncWorld) : Prop where
  length_le : (binRows world.db itemId binId).length ≤ 1
  target : ∀ target ∈ world.synced.head?, onHandAt world.db itemId binId = target

def SyncMemory.stored? : SyncMemory → Option InventoryRow
  | .start => none
  | .read _ stored? | .raising _ stored? => stored?

/-- The row a transaction has read is still as read. -/
def syncKnown {itemId binId : ℕ} (_ : SyncRequest itemId binId) (memory : SyncMemory)
    (world : SyncWorld) : Prop :=
  ∀ row ∈ memory.stored?,
    row ∈ binRows world.db itemId binId ∧ memory.holds (.row row.inventoryId) = true

/-- An update that has read no row finds none when it writes, and units join a row
without a lot. -/
def MayFinish {itemId binId : ℕ} (request : SyncRequest itemId binId) (world : SyncWorld) :
    Option InventoryRow → Prop
  | none => binRows world.db itemId binId = []
  | some row => row.quantityOnHand < request.update.targetQuantity → row.lotNumber = none

def syncAllowed {itemId binId : ℕ} (request : SyncRequest itemId binId)
    (memory : SyncMemory) (world : SyncWorld) : Prop :=
  match memory with
  | .start => True
  | .read _ stored? | .raising _ stored? => MayFinish request world stored?

instance {itemId binId : ℕ} (request : SyncRequest itemId binId) (world : SyncWorld) :
    ∀ stored?, Decidable (MayFinish request world stored?)
  | none => inferInstanceAs (Decidable (_ = _))
  | some _ => inferInstanceAs (Decidable (_ → _))

instance {itemId binId : ℕ} (request : SyncRequest itemId binId) (memory : SyncMemory)
    (world : SyncWorld) : Decidable (syncAllowed request memory world) :=
  match memory with
  | .start => .isTrue trivial
  | .read _ stored? | .raising _ stored? =>
      inferInstanceAs (Decidable (MayFinish request world stored?))

section Statements

variable {request : SyncRequest itemId binId} {memory after : SyncMemory}
  {isLocked : SyncLock → Bool} {world next : SyncWorld} {answer : SyncAnswer}

theorem syncStatement_proceed
    (hproceed : syncStatement request memory isLocked world = .proceed after) :
    (after = .read ((binRows world.db itemId binId).map InventoryRow.inventoryId)
        (binRow? world.db itemId binId) ∧
      ∀ row ∈ binRows world.db itemId binId, isLocked (.row row.inventoryId) = false) ∨
    ∃ lockedIds stored?, memory = .read lockedIds stored? ∧
      after = .raising lockedIds stored? ∧ isLocked .bin = false := by
  cases memory with
  | start =>
      simp only [syncStatement] at hproceed
      split at hproceed
      · cases hproceed
      · rename_i hfree
        split at hproceed <;> cases hproceed
        refine Or.inl ⟨rfl, ?_⟩
        intro row hrow
        by_contra hlocked
        exact hfree (List.any_eq_true.mpr
          ⟨_, List.mem_map_of_mem hrow, by simpa using hlocked⟩)
  | read lockedIds stored? =>
      simp only [syncStatement] at hproceed
      split at hproceed
      · split at hproceed <;> cases hproceed
        rename_i hfree
        exact Or.inr ⟨lockedIds, stored?, rfl, rfl, by simpa using hfree⟩
      · cases hproceed
  | raising lockedIds stored? =>
      simp only [syncStatement] at hproceed
      split at hproceed <;> cases hproceed

/-- What a statement that finishes an update has read, and the row it may join. -/
theorem syncStatement_commit
    (hcommit : syncStatement request memory isLocked world = .commit next answer) :
    ∃ stored?, next = world.finish request stored? ∧
      ((memory = .start ∧ stored? = binRow? world.db itemId binId ∧
          request.update.delta stored? = 0) ∨
        (stored? = memory.stored? ∧ memory ≠ .start ∧
          (0 < request.update.delta stored? → ∀ existing,
            existingRow? world.db itemId binId none = some existing →
              isLocked (.row existing.inventoryId) = false))) := by
  cases memory with
  | start =>
      simp only [syncStatement] at hcommit
      split at hcommit
      · cases hcommit
      · split at hcommit <;> cases hcommit
        rename_i hzero
        exact ⟨_, rfl, Or.inl ⟨rfl, rfl, hzero⟩⟩
  | read lockedIds stored? =>
      simp only [syncStatement] at hcommit
      split at hcommit
      · split at hcommit <;> cases hcommit
      · rename_i hfalls
        cases hcommit
        exact ⟨_, rfl, Or.inr ⟨rfl, SyncMemory.noConfusion, fun hpos => (hfalls hpos).elim⟩⟩
  | raising lockedIds stored? =>
      simp only [syncStatement] at hcommit
      split at hcommit <;> cases hcommit
      rename_i hfree
      refine ⟨_, rfl, Or.inr ⟨rfl, SyncMemory.noConfusion, ?_⟩⟩
      intro _ existing hexisting
      simpa [hexisting] using hfree

theorem sync_acquires {lock : SyncLock}
    (hproceed : syncStatement request memory isLocked world = .proceed after)
    (hheld : after.holds lock = true) : memory.holds lock = true ∨ isLocked lock = false := by
  rcases syncStatement_proceed hproceed with ⟨rfl, hfree⟩ | ⟨lockedIds, stored?, rfl, rfl, hbin⟩
  · cases lock with
    | bin => cases hheld
    | row inventoryId =>
        obtain ⟨row, hrow, rfl⟩ := List.mem_map.mp (of_decide_eq_true hheld)
        exact Or.inr (hfree row hrow)
  · cases lock with
    | bin => exact Or.inr hbin
    | row inventoryId => exact Or.inl hheld

theorem sync_proceeds (hknown : syncKnown request memory world)
    (hproceed : syncStatement request memory isLocked world = .proceed after) :
    syncKnown request after world := by
  rcases syncStatement_proceed hproceed with ⟨rfl, -⟩ | ⟨lockedIds, stored?, rfl, rfl, -⟩
  · intro row hrow
    have hmem := mem_binRows.mpr (binRow?_mem hrow)
    exact ⟨hmem, decide_eq_true (List.mem_map_of_mem hmem)⟩
  · exact hknown

/-- The finishing statement works on a row the bin has, and on it alone. -/
theorem sync_reads (hsound : SyncSound itemId binId world)
    (hknown : syncKnown request memory world) (hallowed : syncAllowed request memory world)
    {stored? : Option InventoryRow} (hstored : stored? = memory.stored?)
    (hstart : memory ≠ .start) :
    MayRead world.db itemId binId stored? ∧
      ∀ row ∈ binRows world.db itemId binId,
        row.quantityOnHand < request.update.targetQuantity → row.lotNumber = none := by
  have hread : MayFinish request world stored? := by
    subst hstored
    cases memory with
    | start => exact (hstart rfl).elim
    | read lockedIds stored? => exact hallowed
    | raising lockedIds stored? => exact hallowed
  cases stored? with
  | none =>
      refine ⟨hread, ?_⟩
      intro row hrow
      rw [show binRows world.db itemId binId = [] from hread] at hrow
      exact (List.not_mem_nil hrow).elim
  | some stored =>
      have hmem := (hknown stored hstored.symm).1
      refine ⟨hmem, ?_⟩
      intro row hrow
      obtain ⟨only, honly⟩ := List.length_eq_one_iff.mp
        (Nat.le_antisymm hsound.length_le (List.length_pos_of_mem hmem))
      rw [honly, List.mem_singleton] at hrow hmem
      rw [hrow, ← hmem]
      exact hread

theorem sync_commits (hsound : SyncSound itemId binId world)
    (hknown : syncKnown request memory world) (hallowed : syncAllowed request memory world)
    (hcommit : syncStatement request memory isLocked world = .commit next answer) :
    SyncSound itemId binId next := by
  obtain ⟨ctx, update, rfl, rfl⟩ := request
  obtain ⟨stored?, rfl, hcase⟩ := syncStatement_commit hcommit
  rcases hcase with ⟨rfl, rfl, hzero⟩ | ⟨hstored, hstart, -⟩
  · have hread := mayRead_binRow? world.db update.itemId update.binId
    constructor
    · simp only [SyncWorld.finish]
      rw [syncStored_of_zero hzero]
      exact hsound.length_le
    · intro target htarget
      obtain rfl := Option.some.inj htarget
      simp only [SyncWorld.finish]
      rw [syncStored_of_zero hzero, onHandAt_eq_onHandIn hsound.length_le hread]
      simp only [InventoryUpdate.delta] at hzero
      omega
  · obtain ⟨hread, hlot⟩ := sync_reads hsound hknown hallowed hstored hstart
    have hsingle : SingleRow world.db update := ⟨hsound.length_le, hlot⟩
    constructor
    · exact length_syncStored hsingle hread
    · intro target htarget
      obtain rfl := Option.some.inj htarget
      exact onHandAt_syncStored_single hsingle hread

/-- A row another transaction has locked is neither written nor joined. -/
theorem mem_binRows_finish {row : InventoryRow} (hknown : syncKnown request memory world)
    (hcommit : syncStatement request memory isLocked world = .commit next answer)
    (hrow : row ∈ binRows world.db itemId binId)
    (hlocked : isLocked (.row row.inventoryId) = true)
    (hfree : memory.holds (.row row.inventoryId) = false) :
    row ∈ binRows next.db itemId binId := by
  obtain ⟨ctx, update, rfl, rfl⟩ := request
  obtain ⟨stored?, rfl, hcase⟩ := syncStatement_commit hcommit
  simp only [SyncWorld.finish]
  rcases lt_trichotomy (update.delta stored?) 0 with hneg | hzero | hpos
  · obtain ⟨mine, rfl⟩ := exists_of_delta_neg hneg
    rcases hcase with ⟨-, -, hzero⟩ | ⟨hstored, -, -⟩
    · exact (hneg.ne hzero).elim
    · have hmine := (hknown mine hstored.symm).2
      rw [binRows_congr (syncStored_of_neg hneg), binRows_setInventoryQuantity]
      refine List.mem_map.mpr ⟨row, hrow, if_neg ?_⟩
      intro hsame
      rw [hsame, hmine] at hfree
      cases hfree
  · rw [syncStored_of_zero hzero]
    exact hrow
  · rcases hcase with ⟨-, -, hzero⟩ | ⟨-, -, hunlocked⟩
    · exact (hpos.ne' hzero).elim
    · rw [binRows_congr (syncStored_of_pos hpos)]
      cases hexisting : existingRow? world.db update.itemId update.binId none with
      | none =>
          obtain ⟨added, hadded⟩ := binRows_addInventory_none ctx.now update.warehouseId
            (update.delta stored?) hexisting
          exact hadded ▸ List.mem_append_left _ hrow
      | some existing =>
          rw [binRows_addInventory_some hexisting]
          refine List.mem_map.mpr ⟨row, hrow, if_neg ?_⟩
          intro hsame
          rw [hsame, hunlocked hpos existing hexisting] at hlocked
          cases hlocked

end Statements

theorem sync_outline (itemId binId : ℕ) :
    Outline (syncProgram itemId binId) (SyncSound itemId binId) syncKnown syncAllowed
      (fun _ _ _ _ _ => True) where
  start := by
    intro request world _ row hrow
    cases hrow
  acquires := fun _ _ _ _ _ hproceed _ hheld => sync_acquires hproceed hheld
  proceeds := fun _ _ _ _ _ _ hknown hproceed => sync_proceeds hknown hproceed
  commits := fun _ _ _ _ _ _ hsound hknown hallowed hcommit =>
    sync_commits hsound hknown hallowed hcommit
  stable := by
    intro request memory isLocked world next answer other memory' _ hknown hother hlocked
      hapart _ hcommit row hrow
    obtain ⟨hmem, hheld⟩ := hother row hrow
    refine ⟨mem_binRows_finish hknown hcommit hmem (hlocked _ hheld) ?_, hheld⟩
    by_contra hmine
    have hfree : memory'.holds (.row row.inventoryId) = false :=
      hapart _ ((Bool.not_eq_false _).mp hmine)
    rw [hheld] at hfree
    cases hfree

/-- An update and its repeat reach the target exactly where the bin has one row that
takes the units, or nothing to move; and where it has at most one row, updates that
overlap leave the target of the last of them, as long as none has missed a row another
has made. -/
theorem state_sync_target (ctx ctx' : RequestContext) (db : Db) (update : InventoryUpdate)
    {Ticket : Type} [Fintype Ticket] [DecidableEq Ticket] (itemId binId : ℕ)
    (requests : Ticket → SyncRequest itemId binId) (steps : List (Step Ticket)) :
    (ReachesTarget ctx ctx' db update ↔ SingleRow db update ∨ AlreadyEmpty db update) ∧
    ((binRows db itemId binId).length ≤ 1 →
      Along (Sessions.serve (syncProgram itemId binId) requests)
        (Clear (syncProgram itemId binId) requests syncAllowed (fun _ _ _ _ _ => True))
        (opened (syncProgram itemId binId) requests ⟨db, []⟩) steps →
      ∀ target ∈ (run (Sessions.serve (syncProgram itemId binId) requests)
          (opened (syncProgram itemId binId) requests ⟨db, []⟩) steps).world.synced.head?,
        onHandAt (run (Sessions.serve (syncProgram itemId binId) requests)
          (opened (syncProgram itemId binId) requests ⟨db, []⟩) steps).world.db itemId
            binId = target) := by
  refine ⟨reachesTarget_iff, ?_⟩
  intro hlength hclear
  have hsound : SyncSound itemId binId ⟨db, []⟩ := ⟨hlength, fun _ hnone => by cases hnone⟩
  exact (sound_run (sync_outline itemId binId) hsound hclear).inv.target

namespace SyncedShelf

def ctx : RequestContext := ⟨"feed", true, false, [1], 1, 1⟩

def row (lotNumber : Option String) (quantity : ℤ) (inventoryId : ℕ) : InventoryRow where
  inventoryId := inventoryId
  itemId := 1
  binId := 1
  warehouseId := 1
  quantityOnHand := quantity
  lotNumber := lotNumber
  updatedAt := 0

/-- One row without a lot. -/
def stocked : Db := { Db.empty with inventory := Table.empty.insert (row none 3) }

/-- A lot, and units without one. -/
def twoLots : Db :=
  { Db.empty with
    inventory := (Table.empty.insert (row (some "L1") 3)).insert (row none 4) }

/-- A lot alone. -/
def oneLot : Db := { Db.empty with inventory := Table.empty.insert (row (some "L1") 3) }

def target (quantity : ℕ) : InventoryUpdate where
  itemId := 1
  binId := 1
  warehouseId := 1
  targetQuantity := quantity
  externalId := "sku-1"
  targetQuantity_nonneg := Int.natCast_nonneg quantity

/-- Two figures for the same bin. -/
def pushes : Fin 2 → SyncRequest 1 1
  | 0 => ⟨ctx, target 5, rfl, rfl⟩
  | 1 => ⟨ctx, target 8, rfl, rfl⟩

/-- Both read, then both write. -/
def overlapping : List (Step (Fin 2)) :=
  [.advance 0, .advance 1, .advance 0, .advance 0, .advance 1, .advance 1, .advance 1]

end SyncedShelf

open SyncedShelf in
theorem state_sync_target_overlapping :
    Along (Sessions.serve (syncProgram 1 1) pushes)
      (Clear (syncProgram 1 1) pushes syncAllowed (fun _ _ _ _ _ => True))
      (opened (syncProgram 1 1) pushes ⟨stocked, []⟩) overlapping ∧
      onHandAt (run (Sessions.serve (syncProgram 1 1) pushes)
        (opened (syncProgram 1 1) pushes ⟨stocked, []⟩) overlapping).world.db 1 1 = 8 := by
  have hclear : Along (Sessions.serve (syncProgram 1 1) pushes)
      (Clear (syncProgram 1 1) pushes syncAllowed (fun _ _ _ _ _ => True))
      (opened (syncProgram 1 1) pushes ⟨stocked, []⟩) overlapping := by decide +kernel
  exact ⟨hclear, (state_sync_target ctx ctx stocked (target 5) 1 1 pushes overlapping).2
    (by decide) hclear 8 (by decide +kernel)⟩

open SyncedShelf in
/-- Beside a second row the bin misses the target; on a lot the repeat adds the units
again; and without a row two overlapping updates add up. -/
theorem state_sync_misses :
    onHandAt (applyInventoryUpdate ctx twoLots (target 5)) 1 1 = 9 ∧
      onHandAt (applyInventoryUpdate ctx oneLot (target 5)) 1 1 = 5 ∧
      onHandAt (applyInventoryUpdate ctx (applyInventoryUpdate ctx oneLot (target 5))
        (target 5)) 1 1 = 7 ∧
      onHandAt (run (Sessions.serve (syncProgram 1 1) pushes)
        (opened (syncProgram 1 1) pushes ⟨Db.empty, []⟩) overlapping).world.db 1 1 = 13 := by
  decide +kernel

end SentryWms.Stock
