import SentryWms.History.Footprint

/-!
# Footprints of the requests

All requests but three are silent.  A short pick marks lines its task serves;
completing a batch and promoting an admin-picked order emit `pick.confirmed`, for
orders they turn `PICKED`.
-/

namespace SentryWms.History

open Relational Inventory Picking SalesOrders Fulfillment

/-! ## Orders and lines -/

variable {ctx : RequestContext} {db db' : Db} {soId soLineId fulfillmentId batchId : ℕ}
  {units : ℤ} {order : SalesOrder}

theorem silent_createSalesOrder {request : CreateSalesOrderRequest}
    (hcreated : createSalesOrder ctx db request = .ok (db', soId)) : Silent db db' := by
  simp only [createSalesOrder, bind_eq_ok, require_eq_ok, pure_eq_ok, Prod.mk.injEq] at hcreated
  obtain ⟨-, -, -, -, rfl, -⟩ := hcreated
  have hinserted : SameTables db (insertOrder ctx.now request db) := ⟨rfl, rfl, rfl, rfl⟩
  refine hinserted.silent.trans (silent_run (fun state line => ?_) _ _)
  have hline : SameTables state (insertLine db.salesOrders.nextKey line.itemId
      line.quantityOrdered line.number state) := ⟨rfl, rfl, rfl, rfl⟩
  unfold createLine
  dsimp only
  split
  · exact hline.silent.trans ((silent_applyTakes ..).trans (silent_updateLine ..))
  · exact hline.silent.trans (silent_applyTakes ..)

theorem silent_releaseSoLineAllocation
    (hreleased : releaseSoLineAllocation db soLineId = .ok (db', units)) :
    Silent db db' := by
  unfold releaseSoLineAllocation at hreleased
  split at hreleased
  · rw [pure_eq_ok, Prod.mk.injEq] at hreleased
    exact hreleased.1 ▸ Silent.refl db
  · split at hreleased
    · rw [pure_eq_ok, Prod.mk.injEq] at hreleased
      exact hreleased.1 ▸ Silent.refl db
    · obtain ⟨remaining, hdeleted, hrest⟩ := bind_eq_ok.mp hreleased
      rw [pure_eq_ok, Prod.mk.injEq] at hrest
      obtain ⟨rfl, -⟩ := hrest
      have hwalk : ∀ (itemId : ℕ) (tasks : List PickTask),
          Silent db (run (releaseTask itemId) db tasks) := fun itemId tasks => by
        refine silent_run (fun db task => ?_) db tasks
        exact SameTables.silent ⟨rfl, rfl, rfl, rfl⟩
      exact (hwalk _ _).trans ((silent_deleteTasks hdeleted).trans (silent_updateLine ..))

theorem silent_updateSalesOrderLine {request : UpdateLineRequest}
    (hupdated : updateSalesOrderLine ctx db request = .ok (db', units)) :
    Silent db db' := by
  simp only [updateSalesOrderLine, bind_eq_ok, require_eq_ok, orThrow_eq_ok] at hupdated
  obtain ⟨order, -, -, -, line, -, -, -, -, -, hrest⟩ := hupdated
  split at hrest
  · obtain ⟨⟨released, given⟩, hreleased, hfinal⟩ := bind_eq_ok.mp hrest
    rw [pure_eq_ok, Prod.mk.injEq] at hfinal
    obtain ⟨rfl, -⟩ := hfinal
    exact (silent_releaseSoLineAllocation hreleased).trans (silent_updateLine ..)
  · obtain ⟨⟨released, given⟩, hreleased, hfinal⟩ := bind_eq_ok.mp hrest
    rw [pure_eq_ok, Prod.mk.injEq] at hreleased hfinal
    obtain ⟨rfl, -⟩ := hreleased
    obtain ⟨rfl, -⟩ := hfinal
    exact silent_updateLine ..

theorem silent_addSalesOrderLine {request : AddLineRequest}
    (hadded : addSalesOrderLine ctx db request = .ok (db', soLineId)) :
    Silent db db' := by
  simp only [addSalesOrderLine, bind_eq_ok, require_eq_ok, orThrow_eq_ok,
    pure_eq_ok, Prod.mk.injEq] at hadded
  obtain ⟨order, -, -, -, item, -, -, -, rfl, -⟩ := hadded
  exact SameTables.silent ⟨rfl, rfl, rfl, rfl⟩

theorem silent_deleteSalesOrderLine
    (hdeleted : deleteSalesOrderLine ctx db soId soLineId = .ok (db', units)) :
    Silent db db' := by
  simp only [deleteSalesOrderLine, bind_eq_ok, require_eq_ok, orThrow_eq_ok] at hdeleted
  obtain ⟨order, -, -, -, line, -, -, -, hrest⟩ := hdeleted
  split at hrest
  · obtain ⟨⟨released, given⟩, hreleased, hfinal⟩ := bind_eq_ok.mp hrest
    obtain ⟨deleted, hline, hfinal⟩ := bind_eq_ok.mp hfinal
    rw [pure_eq_ok, Prod.mk.injEq] at hfinal
    obtain ⟨rfl, -⟩ := hfinal
    exact (silent_releaseSoLineAllocation hreleased).trans (silent_deleteLine hline)
  · obtain ⟨⟨released, given⟩, hreleased, hfinal⟩ := bind_eq_ok.mp hrest
    obtain ⟨deleted, hline, hfinal⟩ := bind_eq_ok.mp hfinal
    rw [pure_eq_ok, Prod.mk.injEq] at hreleased hfinal
    obtain ⟨rfl, -⟩ := hreleased
    obtain ⟨rfl, -⟩ := hfinal
    exact silent_deleteLine hline

theorem silent_adjustAllocation {request : AdjustAllocationRequest}
    (hadjusted : adjustSalesOrderLineAllocation ctx db request =
      .ok (db', units)) : Silent db db' := by
  simp only [adjustSalesOrderLineAllocation, bind_eq_ok, orThrow_eq_ok,
    pure_eq_ok, Prod.mk.injEq] at hadjusted
  obtain ⟨line, -, order, -, rfl, -⟩ := hadjusted
  unfold adjustAllocation
  split
  · exact (silent_applyTakes ..).trans (silent_updateLine ..)
  · split
    · exact (silent_applyTakes ..).trans (silent_updateLine ..)
    · exact Silent.refl db

theorem silent_unwindOrder (hunwound : unwindOrder ctx db order = .ok db') : Silent db db' := by
  have hpicked : ∀ {db'}, unwindPickedOrPacked ctx db order.soId
      order.warehouseId = .ok db' → Silent db db' := by
    intro db' hunwound
    simp only [unwindPickedOrPacked, bind_eq_ok, orThrow_eq_ok, pure_eq_ok] at hunwound
    obtain ⟨receivingBinId, -, rfl⟩ := hunwound
    refine Silent.trans (silent_run (fun state line => ?_) db _)
      (SameTables.silent ⟨rfl, rfl, rfl, rfl⟩)
    exact (sameTables_addInventory ..).silent.trans (silent_updateLine ..)
  unfold unwindOrder at hunwound
  split at hunwound
  case h_1 =>
    obtain ⟨untasked, hdeleted, hrest⟩ := bind_eq_ok.mp hunwound
    rw [pure_eq_ok] at hrest
    subst hrest
    refine Silent.trans (silent_run (fun state line => ?_) db _)
      ((silent_deleteTasks hdeleted).trans
        (SameTables.silent ⟨rfl, rfl, rfl, rfl⟩))
    refine Silent.trans (silent_run (fun inner task => ?_) state _) (silent_updateLine ..)
    exact SameTables.silent ⟨rfl, rfl, rfl, rfl⟩
  case h_2 => exact hpicked hunwound
  case h_3 => exact hpicked hunwound
  case h_4 =>
    rw [pure_eq_ok] at hunwound
    exact hunwound ▸ Silent.refl db

theorem silent_cancelOne (hcancelled : cancelOne ctx db soId = .ok (db', order)) :
    Silent db db' := by
  simp only [cancelOne, bind_eq_ok, orThrow_eq_ok, require_eq_ok] at hcancelled
  obtain ⟨stored, -, -, -, hrest⟩ := hcancelled
  split at hrest
  · rw [pure_eq_ok, Prod.mk.injEq] at hrest
    exact hrest.1 ▸ Silent.refl db
  · obtain ⟨unwound, hunwound, hfinal⟩ := bind_eq_ok.mp hrest
    rw [pure_eq_ok, Prod.mk.injEq] at hfinal
    obtain ⟨rfl, -⟩ := hfinal
    have hclosed : SameTables unwound
        (setOrderStatus stored.soId .soCancelled unwound) := ⟨rfl, rfl, rfl, rfl⟩
    refine (silent_unwindOrder hunwound).trans ?_
    unfold closeCancelled
    dsimp only
    split
    · exact hclosed.silent.trans (silent_emitEvent (by decide) ..)
    · exact hclosed.silent

theorem silent_cancelBackorders {children : List SalesOrder}
    (hcascade : cancelBackorders ctx children db = .ok db') : Silent db db' := by
  induction children generalizing db with
  | nil =>
      obtain rfl : db = db' := by simpa [cancelBackorders] using hcascade
      exact Silent.refl db
  | cons child rest ih =>
      obtain ⟨⟨cancelled, order⟩, hone, hrest⟩ := bind_eq_ok.mp hcascade
      have hstamped : SameTables db (stampReason child.soId "parent_cancelled" db) :=
        ⟨rfl, rfl, rfl, rfl⟩
      exact hstamped.silent.trans ((silent_cancelOne hone).trans (ih hrest))

theorem silent_cancelSalesOrder {result : CancelledOrder}
    (hcancel : cancelSalesOrder ctx db soId = .ok (db', result)) : Silent db db' := by
  obtain ⟨⟨middle, order⟩, hone, hrest⟩ := bind_eq_ok.mp hcancel
  refine (silent_cancelOne hone).trans ?_
  dsimp only at hrest
  split at hrest
  · rw [pure_eq_ok, Prod.mk.injEq] at hrest
    exact hrest.1 ▸ Silent.refl middle
  · obtain ⟨cascaded, hcascade, hfinal⟩ := bind_eq_ok.mp hrest
    rw [pure_eq_ok, Prod.mk.injEq] at hfinal
    exact hfinal.1 ▸ silent_cancelBackorders hcascade

theorem silent_revertSalesOrderStatus {request : RevertStatusRequest} {result : RevertedOrder}
    (hreverted : revertSalesOrderStatus ctx db request = .ok (db', result)) :
    Silent db db' := by
  simp only [revertSalesOrderStatus, bind_eq_ok, orThrow_eq_ok, require_eq_ok,
    pure_eq_ok, Prod.mk.injEq] at hreverted
  obtain ⟨newIdx, -, order, -, -, -, -, -, curIdx, -, -, -, -, -, -, -, -, -, rfl,
    -⟩ := hreverted
  have hreleased : Silent db (run (releasePickedTask ctx order.warehouseId) db
      (namedTasks db request.soId request.releasePickTaskIds)) := by
    refine silent_run (fun state task => ?_) db _
    exact (sameTables_restorePicked ..).silent.trans
      ((silent_updateLine ..).trans (silent_setTaskStatus (by decide) _ _))
  refine hreleased.trans (SameTables.silent ?_)
  unfold demote
  dsimp only
  split <;> split <;> exact ⟨rfl, rfl, rfl, rfl⟩

theorem silent_writeShortAdjustment (ctx : RequestContext)
    (itemId warehouseId : ℕ) (shortQty : ℤ) (reasonDetail boSoNumber : String)
    (db : Db) : Silent db (writeShortAdjustment ctx itemId warehouseId shortQty
      reasonDetail boSoNumber db) := by
  unfold writeShortAdjustment
  split <;> exact SameTables.silent ⟨rfl, rfl, rfl, rfl⟩

theorem silent_shrinkLines {warehouseId : ℕ} {reasonDetail boSoNumber : String}
    {inputs : List (ShortEntry × SalesOrderLine)}
    (hshrunk : shrinkLines ctx warehouseId reasonDetail boSoNumber inputs db =
      .ok db') : Silent db db' := by
  induction inputs generalizing db with
  | nil =>
      obtain rfl : db = db' := by simpa [shrinkLines] using hshrunk
      exact Silent.refl db
  | cons input rest ih =>
      obtain ⟨shrunk, hline, hrest⟩ := bind_eq_ok.mp hshrunk
      refine Silent.trans ?_ (ih hrest)
      unfold shrinkLine at hline
      dsimp only at hline
      split at hline
      · obtain ⟨deleted, hdeleted, hfinal⟩ := bind_eq_ok.mp hline
        rw [pure_eq_ok] at hfinal
        exact hfinal ▸ (silent_deleteLine hdeleted).trans (silent_writeShortAdjustment ..)
      · obtain ⟨resized, hresized, hfinal⟩ := bind_eq_ok.mp hline
        rw [pure_eq_ok] at hresized hfinal
        subst hresized
        exact hfinal ▸ (silent_updateLine ..).trans (silent_writeShortAdjustment ..)

theorem silent_partialFulfill {request : PartialFulfillRequest} {boSoId : ℕ}
    (hfilled : partialFulfillSalesOrder ctx db request = .ok (db', boSoId)) :
    Silent db db' := by
  simp only [partialFulfillSalesOrder, bind_eq_ok, orThrow_eq_ok, require_eq_ok,
    pure_eq_ok, Prod.mk.injEq] at hfilled
  obtain ⟨order, -, -, -, -, -, -, -, -, -, inputs, -, shrunk, hshrunk, -, -, rfl,
    -⟩ := hfilled
  have hinserted : SameTables shrunk (insertBackorder ctx.now order shrunk) := ⟨rfl, rfl, rfl, rfl⟩
  refine (silent_shrinkLines hshrunk).trans (hinserted.silent.trans
    (Silent.trans (silent_run (fun state input => ?_) _ _)
      (silent_emitEvent (by decide) ..)))
  exact SameTables.silent ⟨rfl, rfl, rfl, rfl⟩

/-! ## Picks -/

theorem silent_recordPick {status : TaskStatus} (hstatus : status ≠ .taskShort)
    (pickTaskId : ℕ) (qty : ℤ) (db : Db) :
    Silent db (recordPick pickTaskId status qty db) :=
  silent_updateTask _ fun _ => hstatus

theorem silent_creditShare (db : Db) (share : WavePickBreakdown) :
    Silent db (creditShare db share) := by
  refine Silent.trans ?_ (silent_updateLine ..)
  refine ⟨.of_batches rfl (fun _ _ hshort => hshort) fun soLineId hshare => ?_,
    fun _ => rfl⟩
  obtain ⟨found, hfound, hline, hshort⟩ := hshare
  obtain ⟨row, hrow, rfl⟩ := List.mem_map.mp hfound
  refine ⟨row, hrow, ?_⟩
  split at hline
  · rename_i hkey
    rw [if_pos hkey] at hshort
    exact ⟨hline, hshort⟩
  · rename_i hkey
    rw [if_neg hkey] at hshort
    exact ⟨hline, hshort⟩

theorem silent_creditConfirmed (task : PickTask) (quantityPicked : ℤ) (db : Db) :
    Silent db (creditConfirmed task quantityPicked db) := by
  unfold creditConfirmed
  split
  · exact silent_updateLine ..
  · exact silent_run silent_creditShare db _

variable {settled : SettledTask} {status : SalesOrderStatus} {result : Unit} {call : Call}

theorem silent_confirmPick {request : ConfirmPickRequest}
    (hserved : confirmPick ctx db request = .ok (db', settled)) : Silent db db' := by
  obtain ⟨task, -, -, -, hstate⟩ := confirmPick_ok hserved
  have hrecorded : Silent db (recordPick task.pickTaskId .taskPicked
      request.quantityPicked db) := silent_recordPick (by decide) _ _ _
  refine hrecorded.trans ?_
  cases hstate with
  | salesOrder soId soLineId htarget hstate =>
      rw [hstate]
      exact (silent_creditConfirmed ..).trans
        (SameTables.silent ⟨rfl, rfl, rfl, rfl⟩)
  | transferOrder toId toLineId credited htarget hcredited hstate =>
      rw [hstate]
      simp only [TransferOrders.updateTransferOrderLinePicked, bind_eq_ok,
        require_eq_ok, orThrow_eq_ok, pure_eq_ok] at hcredited
      obtain ⟨-, -, line, -, rfl⟩ := hcredited
      exact SameTables.silent ⟨rfl, rfl, rfl, rfl⟩

/-- The task serves the line: as the line it points to, or through a share of
its breakdown. -/
def Serves (db : Db) (task : PickTask) (soLineId : ℕ) : Prop :=
  task.soLineId? = some soLineId ∨
    ∃ share ∈ breakdownOf db task.pickTaskId, share.soLineId = some soLineId

theorem gives_fst (remainingToGive : ℤ) (rows : List WavePickBreakdown) :
    (gives remainingToGive rows).map Prod.fst = rows := by
  induction rows generalizing remainingToGive with
  | nil => rfl
  | cons share rest ih => rw [gives, List.map_cons, ih]

theorem creditGive_frame (db : Db) (give : WavePickBreakdown × ℤ) :
    (creditGive db give).pickTasks = db.pickTasks ∧
      (creditGive db give).pickBatches = db.pickBatches ∧
      (creditGive db give).integrationEvents = db.integrationEvents := by
  unfold creditGive
  dsimp only
  split
  · obtain ⟨htasks, -, hbatches, hevents⟩ := sameTables_updateLine give.1.soLineId
      (SalesOrderLine.addPicked give.2)
      { db with
        wavePickBreakdown := db.wavePickBreakdown.updateKey give.1.id (fun row =>
          { row with
            quantityPicked := give.2
            shortQuantity := give.1.quantity - give.2 }) fun _ => rfl } (fun _ => rfl)
    exact ⟨htasks, hbatches, hevents⟩
  · exact ⟨rfl, rfl, rfl⟩

theorem creditGive_shares (db : Db) (give : WavePickBreakdown × ℤ) :
    (creditGive db give).wavePickBreakdown =
      db.wavePickBreakdown.updateKey give.1.id fun row =>
        { row with
          quantityPicked := give.2
          shortQuantity := give.1.quantity - give.2 } := by
  unfold creditGive
  dsimp only
  split
  · cases give.1.soLineId <;> rfl
  · rfl

/-- A share that is short after the walk was so before, or is one the walk
visited. -/
theorem shareShort_run_creditGive {gaveTo : List (WavePickBreakdown × ℤ)}
    {share : WavePickBreakdown}
    (hshare : share ∈ (run creditGive db gaveTo).wavePickBreakdown.rows) :
    ∃ row ∈ db.wavePickBreakdown.rows, row.soLineId = share.soLineId ∧
      (row.shortQuantity = share.shortQuantity ∨
        row.id ∈ gaveTo.map fun give => give.1.id) := by
  induction gaveTo generalizing db with
  | nil => exact ⟨share, hshare, rfl, Or.inl rfl⟩
  | cons give rest ih =>
      obtain ⟨middle, hmiddle, hline, hcase⟩ := ih hshare
      rw [creditGive_shares] at hmiddle
      obtain ⟨row, hrow, rfl⟩ := List.mem_map.mp hmiddle
      by_cases hkey : row.id = give.1.id
      · rw [if_pos (decide_eq_true hkey)] at hline
        exact ⟨row, hrow, hline, Or.inr (by simp [hkey])⟩
      · rw [if_neg (by simpa using hkey)] at hline hcase
        refine ⟨row, hrow, hline, hcase.imp id fun hlater => ?_⟩
        exact List.mem_cons_of_mem _ hlater

/-- What a short pick does to the markers: they are new only on lines its task
serves, and no batch is touched. -/
theorem shortPick_markers {request : ShortPickRequest}
    (hserved : shortPick ctx db request = .ok (db', settled)) :
    db'.pickBatches = db.pickBatches ∧
    ∃ task, db.pickTasks.find? request.pickTaskId = some task ∧
      ∀ soLineId, (∀ batchId, ShortIn db' soLineId batchId →
          ShortIn db soLineId batchId ∨ Serves db task soLineId) ∧
        (ShareShort db' soLineId → ShareShort db soLineId ∨
          Serves db task soLineId) := by
  obtain ⟨task, hfound, -, -, rfl⟩ := shortPick_ok hserved
  set recorded := recordPick task.pickTaskId .taskShort request.quantityAvailable
    db with hrecorded
  set taken := takePicked ctx.now task.itemId task.binId request.quantityAvailable
    task.quantityToPick recorded with htaken
  have hframe : (shortTask ctx task request.quantityAvailable
        recorded).pickTasks = recorded.pickTasks ∧
      (shortTask ctx task request.quantityAvailable recorded).pickBatches =
        db.pickBatches := by
    unfold shortTask creditShorted
    split
    · exact ⟨(sameTables_updateLine ..).tasks, (sameTables_updateLine ..).batches⟩
    · exact ⟨run_unchanged Db.pickTasks (fun db give => (creditGive_frame db
        give).1) _ _, run_unchanged Db.pickBatches (fun db give =>
          (creditGive_frame db give).2.1) _ _⟩
  refine ⟨hframe.2, task, hfound, fun soLineId => ⟨fun batchId hshort => ?_,
    fun hshare => ?_⟩⟩
  · obtain ⟨found, hmem, hmarked, hline, hbatch⟩ := hshort
    rw [hframe.1] at hmem
    obtain ⟨row, hrow, rfl⟩ := List.mem_map.mp hmem
    by_cases hkey : row.pickTaskId = task.pickTaskId
    · rw [if_pos (decide_eq_true hkey)] at hline
      have hsame : row = task := List.inj_on_of_nodup_map db.pickTasks.keys_nodup
        hrow (Table.find?_mem hfound) hkey
      exact Or.inr (Or.inl (hsame ▸ hline))
    · rw [if_neg (by simpa using hkey)] at hmarked hline hbatch
      exact Or.inl ⟨row, hrow, hmarked, hline, hbatch⟩
  · obtain ⟨share, hmem, hline, hshort⟩ := hshare
    unfold shortTask creditShorted at hmem
    split at hmem
    · rw [(sameTables_updateLine ..).shares] at hmem
      exact Or.inl ⟨share, hmem, hline, hshort⟩
    · rename_i first rest hrows
      obtain ⟨row, hrow, hrowline, hcase⟩ := shareShort_run_creditGive hmem
      cases hcase with
      | inl hsame => exact Or.inl ⟨row, hrow, hrowline.trans hline, hsame ▸ hshort⟩
      | inr hvisited =>
          have hids : (gives request.quantityAvailable (first :: rest)).map
              (fun give => give.1.id) = (first :: rest).map WavePickBreakdown.id := by
            rw [← gives_fst request.quantityAvailable (first :: rest), List.map_map]
            rw [gives_fst]
            rfl
          rw [hids, ← hrows] at hvisited
          obtain ⟨listed, hlisted, hkey⟩ := List.mem_map.mp hvisited
          have hstored := List.mem_of_mem_filter (mem_orderBy.mp hlisted)
          have hsame : listed = row :=
            List.inj_on_of_nodup_map db.wavePickBreakdown.keys_nodup hstored hrow hkey
          exact Or.inr (Or.inr ⟨listed, hlisted, hsame ▸ hrowline.trans hline⟩)

/-! ## Packing, shipping and headers -/

theorem silent_verifyItem {request : VerifyItemRequest}
    (hverified : verifyItem db request = .ok (db', soLineId)) : Silent db db' := by
  simp only [verifyItem, bind_eq_ok, orThrow_eq_ok, require_eq_ok, pure_eq_ok,
    Prod.mk.injEq] at hverified
  obtain ⟨order, -, -, -, line, -, -, -, rfl, -⟩ := hverified
  exact silent_updateLine ..

theorem silent_completePacking
    (hpacked : completePacking ctx db soId = .ok (db', status)) : Silent db db' := by
  simp only [completePacking, bind_eq_ok, orThrow_eq_ok, require_eq_ok,
    pure_eq_ok, Prod.mk.injEq] at hpacked
  obtain ⟨order, -, -, -, -, -, -, -, rfl, -⟩ := hpacked
  have hset : SameTables db (setOrderStatus soId .soPacked db) := ⟨rfl, rfl, rfl, rfl⟩
  exact hset.silent.trans (silent_emitEvent (by decide) ..)

theorem silent_shipLine (fulfillmentId binId : ℕ) (quantity : ℤ) (line : SalesOrderLine) (db : Db) :
    Silent db (shipLine fulfillmentId binId quantity line db) := by
  refine Silent.trans ?_ (silent_updateLine ..)
  exact SameTables.silent ⟨rfl, rfl, rfl, rfl⟩

theorem silent_recordShip {shipment : Shipment}
    (hshipped : recordShip ctx db order shipment = .ok db') : Silent db db' := by
  simp only [recordShip, bind_eq_ok, require_eq_ok, pure_eq_ok] at hshipped
  obtain ⟨-, -, rfl⟩ := hshipped
  have hopened : Silent db (openFulfillment order shipment.trackingNumber
      shipment.carrier shipment.shipMethod shipment.preShipStatus
      shipment.shippedAt db) := SameTables.silent ⟨rfl, rfl, rfl, rfl⟩
  have hlines : ∀ opened fulfillmentId lines, Silent opened
      (run (fun (db : Db) (line : SalesOrderLine) =>
        shipLine fulfillmentId ((pickedBin? db order.soId line.itemId).getD 1)
          line.quantityPicked line db) opened lines) :=
    fun opened fulfillmentId lines =>
      silent_run (fun db line => silent_shipLine _ _ _ line db) opened lines
  have hclosed : ∀ shipped, Silent shipped
      (setShipped order.soId shipment shipped) :=
    fun shipped => SameTables.silent ⟨rfl, rfl, rfl, rfl⟩
  exact hopened.trans ((hlines _ _ _).trans
    ((hclosed _).trans (silent_emitEvent (by decide) ..)))

theorem silent_fulfill {request : FulfillRequest}
    (hfulfilled : fulfill ctx db request = .ok (db', fulfillmentId)) :
    Silent db db' := by
  simp only [fulfill, bind_eq_ok, orThrow_eq_ok, require_eq_ok, pure_eq_ok,
    Prod.mk.injEq] at hfulfilled
  obtain ⟨order, -, -, -, shipped, hshipped, rfl, -⟩ := hfulfilled
  exact silent_recordShip hshipped

theorem silent_adminShipLines {fallback : Option ℕ} {lines : List SalesOrderLine}
    (hshipped : adminShipLines order fulfillmentId fallback lines db = .ok db') :
    Silent db db' := by
  induction lines generalizing db with
  | nil =>
      obtain rfl : db = db' := by simpa [adminShipLines] using hshipped
      exact Silent.refl db
  | cons line rest ih =>
      obtain ⟨binId, -, hrest⟩ := bind_eq_ok.mp hshipped
      exact (silent_shipLine ..).trans (ih hrest)

theorem silent_recordAdminShip {request : AdminShipRequest}
    (hshipped : recordAdminShip ctx db request = .ok (db', fulfillmentId)) :
    Silent db db' := by
  simp only [recordAdminShip, bind_eq_ok, orThrow_eq_ok, require_eq_ok,
    pure_eq_ok, Prod.mk.injEq] at hshipped
  obtain ⟨order, -, -, -, -, -, -, -, -, -, -, -, shipped, hlines, rfl, -⟩ := hshipped
  have hopened : ∀ shippedAt, SameTables db (openFulfillment order
      order.trackingNumber order.carrier order.shipMethod (some order.status)
      shippedAt db) := fun _ => ⟨rfl, rfl, rfl, rfl⟩
  have hclosed : ∀ shippedAt, SameTables shipped
      (setAdminShipped request.soId shippedAt shipped) :=
    fun _ => ⟨rfl, rfl, rfl, rfl⟩
  refine (hopened _).silent.trans ((silent_adminShipLines hlines).trans ?_)
  split
  · exact (hclosed _).silent
  · exact (hclosed _).silent.trans (silent_emitEvent (by decide) ..)

theorem silent_voidShip (hvoided : voidShip ctx db soId = .ok (db', status)) : Silent db db' := by
  simp only [voidShip, bind_eq_ok, orThrow_eq_ok, require_eq_ok, pure_eq_ok,
    Prod.mk.injEq] at hvoided
  obtain ⟨order, -, -, -, fulfillment, -, preShipStatus, -, rfl, -⟩ := hvoided
  have hreverted : SameTables db (revertHeader soId preShipStatus db) := by
    unfold revertHeader
    split <;> exact ⟨rfl, rfl, rfl, rfl⟩
  refine hreverted.silent.trans (Silent.trans ?_ (silent_emitEvent (by decide) ..))
  exact SameTables.silent ⟨rfl, rfl, rfl, rfl⟩

theorem silent_updateSalesOrder {request : UpdateSalesOrderRequest}
    (hedited : updateSalesOrder ctx db request = .ok (db', result)) :
    Silent db db' := by
  simp only [updateSalesOrder, bind_eq_ok, orThrow_eq_ok] at hedited
  obtain ⟨order, -, -, -, hrest⟩ := hedited
  split at hrest
  · obtain ⟨edited, hshipped, hfinal⟩ := bind_eq_ok.mp hrest
    rw [pure_eq_ok, Prod.mk.injEq] at hfinal
    obtain ⟨rfl, -⟩ := hfinal
    simp only [shipByEdit, bind_eq_ok, require_eq_ok] at hshipped
    obtain ⟨-, -, -, -, hrecorded⟩ := hshipped
    exact (silent_recordShip hrecorded).trans (silent_emitEvent (by decide) ..)
  · obtain ⟨edited, hwritten, hfinal⟩ := bind_eq_ok.mp hrest
    rw [pure_eq_ok, Prod.mk.injEq] at hfinal
    rw [pure_eq_ok] at hwritten
    obtain ⟨rfl, -⟩ := hfinal
    subst hwritten
    refine Silent.trans ?_ (silent_emitEvent (by decide) ..)
    exact SameTables.silent ⟨rfl, rfl, rfl, rfl⟩

theorem silent_pushToQueue (hpushed : pushToQueue db soId = .ok (db', result)) : Silent db db' := by
  simp only [pushToQueue, bind_eq_ok, orThrow_eq_ok, require_eq_ok, pure_eq_ok,
    Prod.mk.injEq] at hpushed
  obtain ⟨order, -, -, -, rfl, -⟩ := hpushed
  exact SameTables.silent ⟨rfl, rfl, rfl, rfl⟩

theorem silent_fullRevertBatch {result : RevertedBatch}
    (hreverted : fullRevertBatch ctx db batchId = .ok (db', result)) :
    Silent db db' := by
  simp only [fullRevertBatch, bind_eq_ok, orThrow_eq_ok, pure_eq_ok, Prod.mk.injEq] at hreverted
  obtain ⟨batch, hbatch, rfl, -⟩ := hreverted
  refine silent_revertBatch ?_
  rw [batchStatusOf, Table.find?_key hbatch, hbatch, Option.map_some]

/-! ## Completions and promotions -/

/-- An order emits at most one `pick.confirmed` in a request, and none for
another order. -/
theorem confirmedEvents_emitEvent (ctx : RequestContext)
    (aggregateId warehouseId : ℕ) (db : Db) (soId : ℕ) :
    confirmedEvents (emitEvent ctx .pickConfirmed aggregateId warehouseId db) soId ≤
      confirmedEvents db soId + if soId = aggregateId then 1 else 0 := by
  unfold emitEvent
  split
  · exact Nat.le_add_right _ _
  · by_cases hsame : soId = aggregateId
    · simp [confirmedEvents, Table.select, Table.insert, hsame]
    · have hne : ¬ aggregateId = soId := fun h => hsame h.symm
      simp [confirmedEvents, Table.select, Table.insert, hne]

theorem quiet_emitEvent (ctx : RequestContext) (eventType : EventType)
    (aggregateId warehouseId : ℕ) (db : Db) :
    Quiet db (emitEvent ctx eventType aggregateId warehouseId db) := by
  unfold emitEvent
  split
  · exact Quiet.refl db
  · exact .of_batches rfl (fun _ _ hshort => hshort) fun _ hshare => hshare

theorem quiet_pickOrder (ctx : RequestContext) (db : Db) (order : SalesOrder) :
    Quiet db (pickOrder ctx db order) := by
  have hset : SameTables db (setOrderStatus order.soId .soPicked db) := ⟨rfl, rfl, rfl, rfl⟩
  exact hset.silent.toQuiet.trans (quiet_emitEvent ..)

theorem quiet_run {Input : Type} {step : Db → Input → Db}
    (hstep : ∀ db input, Quiet db (step db input)) (db : Db)
    (inputs : List Input) : Quiet db (run step db inputs) := by
  induction inputs generalizing db with
  | nil => exact Quiet.refl db
  | cons input rest ih => exact (hstep db input).trans (ih _)

theorem sameTables_submitPicks (db : Db) (toId : ℕ) (username : String) :
    SameTables db (TransferOrders.submitPicks db toId username) := by
  unfold TransferOrders.submitPicks
  split
  · exact ⟨rfl, rfl, rfl, rfl⟩
  · split
    · exact ⟨rfl, rfl, rfl, rfl⟩
    · dsimp only
      split <;> exact ⟨rfl, rfl, rfl, rfl⟩

theorem quiet_completeBatch {summary : BatchSummary}
    (hcompleted : completeBatch ctx db batchId = .ok (db', summary)) :
    Quiet db db' := by
  simp only [completeBatch, bind_eq_ok, orThrow_eq_ok, require_eq_ok, pure_eq_ok,
    Prod.mk.injEq] at hcompleted
  obtain ⟨batch, -, -, -, -, -, rfl, -⟩ := hcompleted
  have hstatus : Quiet db (setBatchStatus batchId .batchCompleted db) := by
    refine ⟨fun _ _ hshort => hshort, fun _ hshare => hshare,
      fun k status hstatus => ?_, fun soLineId k hcancels _ => ?_⟩
    · rw [batchStatusOf_setBatchStatus, hstatus]
      split
      · exact ⟨.batchCompleted, rfl, Or.inr (Or.inr rfl)⟩
      · exact ⟨status, rfl, Or.inl rfl⟩
    · obtain ⟨⟨status, hstatus, hactive⟩, hcancelled⟩ := hcancels
      rw [batchStatusOf_setBatchStatus, hstatus] at hcancelled
      split at hcancelled
      · cases hcancelled
      · rw [Option.some.inj hcancelled] at hactive
        cases hactive
  exact hstatus.trans ((quiet_run (quiet_pickOrder ctx) _ _).trans
    (quiet_run (fun state toId =>
      (sameTables_submitPicks state toId ctx.username).silent.toQuiet) _ _))

theorem silent_applyAdminPicks {seq : ℕ} {picks : List (AdminPickEntry × SalesOrderLine)}
    (happlied : applyAdminPicks ctx batchId seq picks db = .ok db') :
    Silent db db' ∧ db'.salesOrders = db.salesOrders := by
  induction picks generalizing db seq with
  | nil =>
      obtain rfl : db = db' := by simpa [applyAdminPicks] using happlied
      exact ⟨Silent.refl db, rfl⟩
  | cons pick rest ih =>
      obtain ⟨applied, hone, hrest⟩ := bind_eq_ok.mp happlied
      simp only [applyAdminPick, bind_eq_ok, require_eq_ok, pure_eq_ok] at hone
      obtain ⟨-, -, rfl⟩ := hone
      obtain ⟨hsilent, horders⟩ := ih hrest
      have htaken : SameTables db (takeAvailable ctx.now pick.2.itemId
          pick.1.binId pick.1.quantity db) := ⟨rfl, rfl, rfl, rfl⟩
      refine ⟨htaken.silent.trans ((silent_updateLine ..).trans
        ((silent_insertTask (fun _ => rfl) fun _ hstatus => by
          cases hstatus).trans hsilent)), horders⟩

/-- An accepted admin pick, up to the promotion of its order. -/
theorem silent_recordAdminPick {request : AdminPickRequest}
    (hrecorded : recordAdminPick ctx db request = .ok (db', batchId)) :
    Silent db db' ∧ db'.salesOrders = db.salesOrders := by
  simp only [recordAdminPick, bind_eq_ok, orThrow_eq_ok, require_eq_ok,
    pure_eq_ok, Prod.mk.injEq] at hrecorded
  obtain ⟨order, -, -, -, -, -, -, -, -, -, -, -, applied, happlied, rfl, -⟩ := hrecorded
  obtain ⟨hsilent, horders⟩ := silent_applyAdminPicks happlied
  refine ⟨Silent.trans ?_ hsilent, horders⟩
  refine ⟨.of_statuses (fun k status hstatus => ?_) (fun _ _ hshort => hshort)
    fun _ hshare => hshare, fun _ => rfl⟩
  exact find?_insertBatch (fun _ => rfl) hstatus

theorem quiet_maybePromote (ctx : RequestContext) (db : Db) (soId : ℕ) :
    Quiet db (maybePromoteSoToPicked ctx db soId) := by
  unfold maybePromoteSoToPicked
  split
  · exact Quiet.refl db
  · split
    · exact Quiet.refl db
    · split
      · have hset : SameTables db (setOrderStatus soId .soPicked db) :=
          ⟨rfl, rfl, rfl, rfl⟩
        exact hset.silent.toQuiet.trans (quiet_emitEvent ..)
      · exact Quiet.refl db

/-! ## All requests -/

/-- The requests that write markers or emit `pick.confirmed`. -/
def marks : Request → Bool
  | .shortPick _ => true
  | .completeBatch _ => true
  | .adminPick _ => true
  | _ => false

/-- Every other request is silent. -/
theorem silent_serve (hmarks : marks call.request = false) (db : Db) :
    Silent db (serve db call) := by
  obtain ⟨ctx, request⟩ := call
  cases request with
  | receiveStock arrival => exact (sameTables_addInventory ..).silent
  | createSalesOrder request =>
      exact silent_committed fun _ _ => silent_createSalesOrder
  | updateSalesOrder request =>
      exact silent_committed fun _ _ => silent_updateSalesOrder
  | pushToQueue soId => exact silent_committed fun _ _ => silent_pushToQueue
  | addSalesOrderLine request =>
      exact silent_committed fun _ _ => silent_addSalesOrderLine
  | updateSalesOrderLine request =>
      exact silent_committed fun _ _ => silent_updateSalesOrderLine
  | deleteSalesOrderLine soId soLineId =>
      exact silent_committed fun _ _ => silent_deleteSalesOrderLine
  | adjustAllocation request =>
      exact silent_committed fun _ _ => silent_adjustAllocation
  | cancelSalesOrder soId =>
      exact silent_committed fun _ _ => silent_cancelSalesOrder
  | revertSalesOrderStatus request =>
      exact silent_committed fun _ _ => silent_revertSalesOrderStatus
  | adminPick request => cases hmarks
  | partialFulfill request =>
      exact silent_committed fun _ _ => silent_partialFulfill
  | createBatch request =>
      exact silent_committed fun _ _ => silent_createPickBatch
  | createWave request => exact silent_createWaveRoute ..
  | confirmPick request => exact silent_committed fun _ _ => silent_confirmPick
  | shortPick | completeBatch => cases hmarks
  | cancelBatch batchId =>
      exact silent_committed fun _ _ => silent_fullRevertBatch
  | verifyItem request => exact silent_committed fun _ _ => silent_verifyItem
  | completePacking soId =>
      exact silent_committed fun _ _ => silent_completePacking
  | fulfill request => exact silent_committed fun _ _ => silent_fulfill
  | adminShip request => exact silent_committed fun _ _ => silent_recordAdminShip
  | voidShip soId => exact silent_committed fun _ _ => silent_voidShip

/-- Every request but a short pick is quiet. -/
theorem quiet_serve (hshort : ∀ request, call.request ≠ .shortPick request) (db : Db) :
    Quiet db (serve db call) := by
  obtain ⟨ctx, request⟩ := call
  by_cases hmarks : marks request = false
  · exact (silent_serve hmarks db).toQuiet
  · cases request with
    | adminPick request =>
        refine committed_cases (Quiet.refl db) fun db' batchId hserved => ?_
        obtain ⟨⟨applied, id⟩, hrecorded, hfinal⟩ := bind_eq_ok.mp hserved
        rw [pure_eq_ok, Prod.mk.injEq] at hfinal
        obtain ⟨rfl, -⟩ := hfinal
        exact (silent_recordAdminPick hrecorded).1.toQuiet.trans (quiet_maybePromote ..)
    | shortPick request => exact absurd rfl (hshort request)
    | completeBatch batchId =>
        exact committed_cases (Quiet.refl db) fun _ _ => quiet_completeBatch
    | _ => exact absurd rfl hmarks

end SentryWms.History
