import SentryWms.Picking.Conservation
import SentryWms.TransferOrders.Lifecycle

/-!
# What the requests write to the transfer tables

One statement for each request: which rows of the transfer orders, their lines and
their approvals it writes, and what it checked before.  The results about runs read
these and never the requests.
-/

namespace SentryWms.TransferOrders

open Relational Inventory Picking

/-! ## Statements that leave the tables alone -/

theorem SameTransfers.refl (db : Db) : SameTransfers db db := ⟨rfl, rfl, rfl⟩

variable {before left right : Db} {settled : SettledTask} {destinationWarehouseId : ℕ}
  {request : ImportRequest} {entries : List (ℕ × ℕ × ℤ)}

theorem SameTransfers.trans {middle after : Db} (hfirst : SameTransfers before middle)
    (hsecond : SameTransfers middle after) :
    SameTransfers before after where
  orders := hsecond.orders.trans hfirst.orders
  lines := hsecond.lines.trans hfirst.lines
  approvals := hsecond.approvals.trans hfirst.approvals

theorem sameTransfers_run {Input : Type} {step : Db → Input → Db}
    (hstep : ∀ db input, SameTransfers db (step db input)) (db : Db)
    (inputs : List Input) : SameTransfers db (run step db inputs) := by
  induction inputs generalizing db with
  | nil => exact SameTransfers.refl db
  | cons input rest ih => exact (hstep db input).trans (ih _)

theorem sameTransfers_applyTakes (stamp : Option ℕ) (sign : ℤ) (db : Db)
    (takes : List (InventoryRow × ℤ)) :
    SameTransfers db (applyTakes stamp sign db takes) := by
  apply sameTransfers_run
  intro state take
  exact ⟨rfl, rfl, rfl⟩

theorem sameTransfers_addInventory (now itemId binId warehouseId : ℕ)
    (quantity : ℤ) (lotNumber : Option String) (db : Db) :
    SameTransfers db
      (addInventory now itemId binId warehouseId quantity lotNumber db) := by
  unfold addInventory
  split <;> exact ⟨rfl, rfl, rfl⟩

theorem sameTransfers_emitEvent (ctx : RequestContext) (eventType : EventType)
    (aggregateId warehouseId : ℕ) (db : Db) :
    SameTransfers db (emitEvent ctx eventType aggregateId warehouseId db) := by
  unfold emitEvent
  split <;> exact ⟨rfl, rfl, rfl⟩

theorem sameTransfers_updateLine (k : Option ℕ)
    (set : SalesOrderLine → SalesOrderLine) (db : Db)
    (hset : ∀ line, (set line).soLineId = line.soLineId) :
    SameTransfers db (updateLine k set db hset) := by
  cases k <;> exact ⟨rfl, rfl, rfl⟩

theorem sameTransfers_releaseReservations (toId sourceWarehouseId : ℕ) (db : Db) :
    SameTransfers db (releaseReservations toId sourceWarehouseId db) := by
  apply sameTransfers_run
  intro state line
  exact sameTransfers_applyTakes ..

/-! ## Picks and batches -/

theorem sameTransfers_confirmSalesOrderTask (ctx : RequestContext)
    (task : PickTask) (quantityPicked : ℤ) (db : Db) :
    SameTransfers db (confirmSalesOrderTask ctx task quantityPicked db) := by
  have hcredited : SameTransfers db (creditConfirmed task quantityPicked db) := by
    unfold creditConfirmed
    split
    · exact sameTransfers_updateLine ..
    · apply sameTransfers_run
      intro state share
      refine SameTransfers.trans ?_ (sameTransfers_updateLine ..)
      exact ⟨rfl, rfl, rfl⟩
  exact hcredited.trans ⟨rfl, rfl, rfl⟩

/-- A pick of a transfer task: the line takes the units, within its commitment,
and an open header moves on. -/
structure Picked (db : Db) (toId toLineId : ℕ) (quantity : ℤ) (db' : Db) :
    Prop where
  line : ∃ line, db.transferOrderLines.find? toLineId = some line ∧
    pickable line ∧ line.pickedQty + quantity ≤ line.committedQty
  positive : 0 < quantity
  lines : db'.transferOrderLines = db.transferOrderLines.updateKey toLineId
    fun row =>
      { row with
        pickedQty := row.pickedQty + quantity
        status :=
          if row.pickedQty + quantity = row.committedQty then .toLinePicked
          else .toLinePartiallyPicked }
  orders : db'.transferOrders = db.transferOrders.update
    (fun header => header.toId = toId ∧ header.status = .toOpen)
    fun header => { header with status := .toPartiallyPicked }
  approvals : db'.transferOrderApprovals = db.transferOrderApprovals

variable {ctx : RequestContext} {db db' : Db}
  {batchId sourceWarehouseId toId now toApprovalId : ℕ} {header : TransferOrder}

theorem confirmPick_transfers {request : ConfirmPickRequest}
    (hserved : confirmPick ctx db request = .ok (db', settled)) :
    SameTransfers db db' ∨ ∃ task toId toLineId, db.pickTasks.find? request.pickTaskId = some task ∧
      task.target = .transferOrder toId toLineId ∧
      db'.inventory = db.inventory ∧
      Picked db toId toLineId request.quantityPicked db' := by
  obtain ⟨task, hfound, -, -, hstate⟩ := confirmPick_ok hserved
  cases hstate with
  | salesOrder soId soLineId htarget hstate =>
      have hrecorded : SameTransfers db (recordPick task.pickTaskId .taskPicked
          request.quantityPicked db) := ⟨rfl, rfl, rfl⟩
      rw [hstate]
      exact Or.inl (hrecorded.trans (sameTransfers_confirmSalesOrderTask ..))
  | transferOrder toId toLineId credited htarget hcredited hstate =>
      simp only [updateTransferOrderLinePicked, bind_eq_ok, require_eq_ok,
        orThrow_eq_ok, pure_eq_ok, Option.filter_eq_some_iff,
        decide_eq_true_eq] at hcredited
      obtain ⟨-, hpositive, line, ⟨hline, hfits, hpickable⟩, rfl⟩ := hcredited
      have hkey : line.toLineId = toLineId := Table.find?_key hline
      subst hkey
      rw [hstate]
      exact Or.inr ⟨task, toId, line.toLineId, hfound, htarget, rfl,
        { line := ⟨line, hline, hpickable, hfits⟩
          positive := hpositive
          lines := rfl
          orders := rfl
          approvals := rfl }⟩

theorem shortPick_transfers {request : ShortPickRequest}
    (hserved : shortPick ctx db request = .ok (db', settled)) :
    SameTransfers db db' := by
  obtain ⟨task, -, -, -, rfl⟩ := shortPick_ok hserved
  have htaken : ∀ state, SameTransfers state (takePicked ctx.now task.itemId
      task.binId request.quantityAvailable task.quantityToPick state) :=
    fun _ => ⟨rfl, rfl, rfl⟩
  have hcredited : ∀ state, SameTransfers state
      (creditShorted task request.quantityAvailable state) := by
    intro state
    unfold creditShorted
    split
    · exact sameTransfers_updateLine ..
    · apply sameTransfers_run
      intro inner give
      unfold creditGive
      dsimp only
      split
      · refine SameTransfers.trans ?_ (sameTransfers_updateLine ..)
        exact ⟨rfl, rfl, rfl⟩
      · exact ⟨rfl, rfl, rfl⟩
  have hrecorded : SameTransfers db (recordPick task.pickTaskId .taskShort
      request.quantityAvailable db) := ⟨rfl, rfl, rfl⟩
  exact hrecorded.trans ((htaken _).trans (hcredited _))

theorem sameTransfers_undoTask (ctx : RequestContext) (warehouseId : ℕ) (db : Db)
    (task : PickTask) : SameTransfers db (undoTask ctx warehouseId db task) := by
  have hpending : SameTransfers db (releasePending ctx task db) := by
    unfold releasePending
    split <;> exact ⟨rfl, rfl, rfl⟩
  have hpicked : SameTransfers db (restorePicked ctx warehouseId task db) := by
    unfold restorePicked
    split
    · exact sameTransfers_addInventory ..
    · exact SameTransfers.refl db
  have hline : ∀ status state, SameTransfers state
      (setTaskStatus task.pickTaskId status (undoTaskLine task state)) := by
    intro status state
    have hcounters : SameTransfers state (undoTaskLine task state) := by
      unfold undoTaskLine
      split
      · exact sameTransfers_updateLine ..
      · exact SameTransfers.refl state
    exact hcounters.trans ⟨rfl, rfl, rfl⟩
  unfold undoTask
  split
  · exact SameTransfers.refl db
  · split
    · exact hpending.trans (hline _ _)
    · exact hpicked.trans (hline _ _)
    · exact hpicked.trans (hline _ _)
    · exact SameTransfers.refl db
    · exact SameTransfers.refl db

theorem fullRevertBatch_transfers {reverted : RevertedBatch}
    (hreverted : fullRevertBatch ctx db batchId = .ok (db', reverted)) :
    SameTransfers db db' := by
  simp only [fullRevertBatch, bind_eq_ok, orThrow_eq_ok, pure_eq_ok, Prod.mk.injEq] at hreverted
  obtain ⟨batch, -, rfl, -⟩ := hreverted
  unfold revertBatch
  split
  · exact (sameTransfers_run (sameTransfers_undoTask ctx batch.warehouseId) db
      _).trans ⟨rfl, rfl, rfl⟩
  · exact SameTransfers.refl db

/-! ## Submissions -/

/-- A submission reads nothing but the transfer tables. -/
theorem submitPicks_congr (hsame : SameTransfers left right) (toId : ℕ) (username : String) :
    SameTransfers (submitPicks left toId username)
      (submitPicks right toId username) := by
  obtain ⟨horders, hlines, happrovals⟩ := hsame
  unfold submitPicks unsubmittedLines submittedStatus
  rw [horders]
  split
  · exact ⟨horders, hlines, happrovals⟩
  · split
    · exact ⟨horders, hlines, happrovals⟩
    · simp only [hlines, happrovals]
      split
      · exact ⟨horders, hlines, happrovals⟩
      · exact ⟨rfl, rfl, rfl⟩

theorem run_submitPicks_congr (hsame : SameTransfers left right) (toIds : List ℕ)
    (username : String) :
    SameTransfers (run (fun db toId => submitPicks db toId username) left toIds)
      (run (fun db toId => submitPicks db toId username) right toIds) := by
  induction toIds generalizing left right with
  | nil => exact hsame
  | cons toId rest ih => exact ih (submitPicks_congr hsame toId username)

/-- Completing a batch submits the picks of its transfer orders, and writes
nothing else of them. -/
theorem completeBatch_transfers {summary : BatchSummary}
    (hcompleted : completeBatch ctx db batchId = .ok (db', summary)) :
    SameTransfers (run (fun db toId => submitPicks db toId ctx.username) db
      (transferOrdersOf db batchId)) db' := by
  simp only [completeBatch, bind_eq_ok, orThrow_eq_ok, require_eq_ok, pure_eq_ok,
    Prod.mk.injEq] at hcompleted
  obtain ⟨batch, -, -, -, -, -, rfl, -⟩ := hcompleted
  have hpick : ∀ state (order : SalesOrder),
      SameTransfers state (pickOrder ctx state order) ∧
        (pickOrder ctx state order).pickTasks = state.pickTasks := by
    intro state order
    have hset : SameTransfers state
        (setOrderStatus order.soId .soPicked state) := ⟨rfl, rfl, rfl⟩
    refine ⟨hset.trans (sameTransfers_emitEvent ..), ?_⟩
    unfold pickOrder emitEvent
    split <;> rfl
  have hpicked : ∀ (orders : List SalesOrder) state,
      SameTransfers state (run (pickOrder ctx) state orders) :=
    fun orders state => sameTransfers_run (fun db order => (hpick db order).1) state orders
  have htasks : ∀ (orders : List SalesOrder) state,
      (run (pickOrder ctx) state orders).pickTasks = state.pickTasks :=
    fun orders state => run_unchanged Db.pickTasks
      (fun db order => (hpick db order).2) state orders
  have hsame : transferOrdersOf (run (pickOrder ctx) (setBatchStatus batchId .batchCompleted db)
      (ordersOf (setBatchStatus batchId .batchCompleted db) batchId)) batchId =
      transferOrdersOf db batchId := by
    unfold transferOrdersOf tasksOf
    rw [htasks]
    rfl
  unfold finishBatch
  dsimp only
  rw [hsame]
  have hstatus : SameTransfers db
      (setBatchStatus batchId .batchCompleted db) := ⟨rfl, rfl, rfl⟩
  exact run_submitPicks_congr (hstatus.trans (hpicked _ _)) _ _

/-- A submission that is not refused: a pending snapshot of the lines with units
that are picked and not approved. -/
structure Submitted (db : Db) (toId : ℕ) (username : String) (db' : Db) :
    Prop where
  header : ∃ header, db.transferOrders.find? toId = some header ∧
    (header.status = .toPartiallyPicked ∨ header.status = .toAwaitingApproval)
  some : unsubmittedLines db toId ≠ []
  lines : db'.transferOrderLines = db.transferOrderLines
  orders : db'.transferOrders = db.transferOrders.updateKey toId fun row =>
    { row with status := submittedStatus db toId }
  approvals : db'.transferOrderApprovals = db.transferOrderApprovals.insert
    fun toApprovalId =>
      { toApprovalId := toApprovalId
        toId := toId
        submittedBy := username
        linesSnapshot := (unsubmittedLines db toId).map fun line =>
          (line.toLineId, line.itemId, line.pickedQty - line.approvedQty) }

/-- `submit_picks` refuses or submits. -/
theorem submitPicks_cases (db : Db) (toId : ℕ) (username : String) :
    submitPicks db toId username = db ∨
      Submitted db toId username (submitPicks db toId username) := by
  unfold submitPicks
  split
  · exact Or.inl rfl
  · rename_i header hheader
    split
    · exact Or.inl rfl
    · rename_i hstatus
      dsimp only
      split
      · exact Or.inl rfl
      · rename_i hlines
        refine Or.inr ⟨⟨header, hheader, ?_⟩, ?_, rfl, rfl, rfl⟩
        · by_contra hneither
          exact hstatus (not_or.mp hneither)
        · simpa using hlines

/-! ## Import -/

theorem sameTransfers_commitRows (sourceWarehouseId : ℕ) (rows : List ImportRow)
    (db : Db) : SameTransfers db (commitRows sourceWarehouseId rows db).1 := by
  induction rows generalizing db with
  | nil => exact SameTransfers.refl db
  | cons row rest ih =>
      exact (sameTransfers_applyTakes none 1 db _).trans (ih _)

/-- The lines an import inserts. -/
theorem insertTransferLines_rows (toId : ℕ) (numbered : List (CommittedRow × ℕ)) (db : Db) :
    ∃ added,
      (run (insertTransferLine toId) db numbered).transferOrderLines.rows =
        db.transferOrderLines.rows ++ added ∧
      db.transferOrderLines.nextKey ≤
        (run (insertTransferLine toId) db numbered).transferOrderLines.nextKey ∧
      added.map (fun line => (line.itemId, line.committedQty)) =
        numbered.map (fun entry => (entry.1.row.itemId, entry.1.committedQty)) ∧
      ∀ line ∈ added, db.transferOrderLines.nextKey ≤ line.toLineId ∧
        line.toId = toId ∧ line.pickedQty = 0 ∧ line.approvedQty = 0 ∧
        line.status =
          if 0 < line.committedQty then .toLinePending else .toLineShortClosed := by
  induction numbered generalizing db with
  | nil => exact ⟨[], by simp [run], le_rfl, rfl, by simp⟩
  | cons entry rest ih =>
      obtain ⟨added, hrows, hnext, hunits, hadded⟩ := ih (insertTransferLine toId db entry)
      have hstep : (insertTransferLine toId db entry).transferOrderLines.nextKey =
          db.transferOrderLines.nextKey + 1 := rfl
      rw [hstep] at hnext hadded
      refine ⟨_ :: added, hrows.trans (List.append_assoc _ _ _), by
        exact (Nat.le_succ _).trans hnext, ?_, ?_⟩
      · rw [List.map_cons, List.map_cons, hunits]
      · intro line hline
        cases List.mem_cons.mp hline with
        | inl hhead => exact hhead ▸ ⟨le_rfl, rfl, rfl, rfl, rfl⟩
        | inr hrest =>
            obtain ⟨hkey, hfields⟩ := hadded line hrest
            exact ⟨(Nat.le_succ _).trans hkey, hfields⟩

/-- What an accepted header insert wrote. -/
theorem insertTransferOrder_ok {toNumber : String}
    (hinserted : insertTransferOrder toNumber sourceWarehouseId
      destinationWarehouseId db = .ok db') :
    (∀ header ∈ db.transferOrders.rows, header.toNumber ≠ toNumber) ∧
      db' =
        { db with
          transferOrders := db.transferOrders.insert fun toId =>
            { toId := toId
              toNumber := toNumber
              sourceWarehouseId := sourceWarehouseId
              destinationWarehouseId := destinationWarehouseId } } := by
  simp only [insertTransferOrder, bind_eq_ok, require_eq_ok, pure_eq_ok] at hinserted
  obtain ⟨-, -, -, hfresh, rfl⟩ := hinserted
  exact ⟨hfresh, rfl⟩

/-- The header goes into the reserved state, or, when its number was taken, into
the state before the reservations. -/
theorem insertHeader_ok {reserved opened : Db}
    (hopened : insertHeader request sourceWarehouseId destinationWarehouseId
      before reserved = .ok opened) :
    insertTransferOrder request.toNumber sourceWarehouseId
        destinationWarehouseId reserved = .ok opened ∨
      ((∃ header ∈ reserved.transferOrders.rows, header.toNumber = request.toNumber) ∧
      insertTransferOrder request.retryToNumber sourceWarehouseId
        destinationWarehouseId before = .ok opened) := by
  unfold insertHeader at hopened
  split at hopened
  · rename_i hcollision
    refine Or.inr ⟨?_, hopened⟩
    by_contra hfresh
    push Not at hfresh
    unfold insertTransferOrder at hcollision
    by_cases hdistinct : sourceWarehouseId ≠ destinationWarehouseId
    · rw [require_bind hdistinct, require_bind hfresh] at hcollision
      cases hcollision
    · rw [require_bind_not hdistinct] at hcollision
      injection hcollision with hrelation
      injection hrelation with htext
      exact absurd htext (by decide)
  · exact Or.inl hopened

/-- An accepted import: an open header, and lines nothing is picked of; the
inventory is the reserved one unless the number had to be drawn again. -/
structure Imported (request : ImportRequest) (db db' : Db) : Prop where
  written : ∃ header rows reserved committed added,
    header.toId = db.transferOrders.nextKey ∧ header.status = .toOpen ∧
    db'.transferOrders.rows = db.transferOrders.rows ++ [header] ∧
    commitRows header.sourceWarehouseId rows db = (reserved, committed) ∧
    ((∀ other ∈ db.transferOrders.rows, other.toNumber ≠ request.toNumber) →
      db'.inventory = reserved.inventory) ∧
    db'.transferOrderLines.rows = db.transferOrderLines.rows ++ added ∧
    added.map (fun line => (line.itemId, line.committedQty)) =
      committed.map (fun entry => (entry.row.itemId, entry.committedQty)) ∧
    ∀ line ∈ added, db.transferOrderLines.nextKey ≤ line.toLineId ∧
      line.toId = header.toId ∧ line.pickedQty = 0 ∧ line.approvedQty = 0 ∧
      line.status =
        if 0 < line.committedQty then .toLinePending else .toLineShortClosed
  ordersNext : db'.transferOrders.nextKey = db.transferOrders.nextKey + 1
  linesNext : db.transferOrderLines.nextKey ≤ db'.transferOrderLines.nextKey
  approvals : db'.transferOrderApprovals = db.transferOrderApprovals
  tasks : db'.pickTasks = db.pickTasks

/-- Inserting lines writes no other table. -/
theorem run_insertTransferLine_frame (toId : ℕ) (numbered : List (CommittedRow × ℕ)) (db : Db) :
    (run (insertTransferLine toId) db numbered).transferOrders = db.transferOrders ∧
      (run (insertTransferLine toId) db numbered).transferOrderApprovals =
        db.transferOrderApprovals ∧
      (run (insertTransferLine toId) db numbered).pickTasks = db.pickTasks ∧
      (run (insertTransferLine toId) db numbered).inventory = db.inventory := by
  induction numbered generalizing db with
  | nil => exact ⟨rfl, rfl, rfl, rfl⟩
  | cons entry rest ih => exact ih (insertTransferLine toId db entry)

theorem commitRows_pickTasks (sourceWarehouseId : ℕ) (rows : List ImportRow)
    (db : Db) : (commitRows sourceWarehouseId rows db).1.pickTasks =
      db.pickTasks := by
  induction rows generalizing db with
  | nil => rfl
  | cons row rest ih =>
      refine (ih _).trans (run_unchanged Db.pickTasks ?_ db _)
      intro state take
      rfl

theorem importTransferOrder_imported {result : ImportedTransferOrder}
    (himported : importTransferOrder db request = .ok (db', result)) :
    Imported request db db' := by
  simp only [importTransferOrder, importRows, bind_eq_ok, require_eq_ok,
    orThrow_eq_ok, pure_eq_ok, Prod.mk.injEq] at himported
  obtain ⟨-, -, source, -, destination, -, -, -, opened, hopened, rfl, -⟩ := himported
  generalize hrows : orderBy (fun left right : ImportRow =>
    left.itemId ≤ right.itemId) _ = rows at hopened ⊢
  have hcommitted := sameTransfers_commitRows source rows db
  have htasks := commitRows_pickTasks source rows db
  generalize hcommit : commitRows source rows db = outcome at hopened hcommitted htasks ⊢
  obtain ⟨reserved, committed⟩ := outcome
  have hstate : ∃ toNumber state, SameTransfers db state ∧ state.pickTasks = db.pickTasks ∧
      ((∀ other ∈ db.transferOrders.rows, other.toNumber ≠ request.toNumber) → state = reserved) ∧
      insertTransferOrder toNumber source destination state = .ok opened := by
    cases insertHeader_ok hopened with
    | inl hfirst =>
        exact ⟨_, reserved, hcommitted, htasks, fun _ => rfl, hfirst⟩
    | inr hretry =>
        obtain ⟨⟨header, hheader, htaken⟩, hsecond⟩ := hretry
        refine ⟨_, db, SameTransfers.refl db, rfl, fun hfresh => ?_, hsecond⟩
        rw [hcommitted.orders] at hheader
        exact absurd htaken (hfresh header hheader)
  obtain ⟨toNumber, state, hsame, hstatetasks, hreserved, hinserted⟩ := hstate
  obtain ⟨-, hopenedstate⟩ := insertTransferOrder_ok hinserted
  obtain ⟨horders, happrovals, hpicks, hinventory⟩ :=
    run_insertTransferLine_frame db.transferOrders.nextKey (committed.zipIdx 1) opened
  obtain ⟨added, hlines, hnext, hunits, hadded⟩ :=
    insertTransferLines_rows db.transferOrders.nextKey (committed.zipIdx 1) opened
  have hopenedlines : opened.transferOrderLines = db.transferOrderLines := by
    rw [hopenedstate, hsame.lines]
  rw [hopenedlines] at hlines hnext hadded
  let header : TransferOrder :=
    { toId := db.transferOrders.nextKey
      toNumber := toNumber
      sourceWarehouseId := source
      destinationWarehouseId := destination }
  refine ⟨⟨header, rows, reserved, committed, added, rfl, rfl, ?_, hcommit, ?_,
    hlines, ?_, hadded⟩, ?_, hnext, ?_, ?_⟩
  · rw [horders, hopenedstate, hsame.orders]
    rfl
  · intro hfresh
    rw [hinventory, hopenedstate, hreserved hfresh]
  · rw [hunits]
    have hfst : (committed.zipIdx 1).map Prod.fst = committed := List.zipIdx_map_fst 1 committed
    conv_rhs => rw [← hfst, List.map_map]
    rfl
  · rw [horders, hopenedstate, hsame.orders]
    rfl
  · rw [happrovals, hopenedstate, hsame.approvals]
  · rw [hpicks, hopenedstate, hstatetasks]

/-! ## Start of picking -/

/-- Planning inserts tasks of the transfer order, and writes nothing else. -/
theorem planTransferLines_frame {pickSequence : ℕ} {lines : List TransferOrderLine}
    (hplanned : planTransferLines batchId sourceWarehouseId pickSequence lines db = .ok db') :
    SameTransfers db db' ∧ db'.inventory = db.inventory ∧
      ∀ task ∈ db'.pickTasks.rows,
        task ∈ db.pickTasks.rows ∨ task.soId? = none := by
  induction lines generalizing pickSequence db with
  | nil =>
      obtain rfl : db = db' := by simpa [planTransferLines] using hplanned
      exact ⟨SameTransfers.refl db, rfl, fun _ htask => Or.inl htask⟩
  | cons line rest ih =>
      simp only [planTransferLines, bind_eq_ok, require_eq_ok] at hplanned
      obtain ⟨-, -, hrest⟩ := hplanned
      obtain ⟨hsame, hinventory, htasks⟩ := ih hrest
      have hinsert : ∀ (numbered : List ((InventoryRow × ℤ) × ℕ)) state,
          SameTransfers state (run (insertTransferTask batchId line) state numbered) ∧
            (run (insertTransferTask batchId line) state numbered).inventory = state.inventory ∧
            ∀ task ∈ (run (insertTransferTask batchId line) state numbered).pickTasks.rows,
              task ∈ state.pickTasks.rows ∨ task.soId? = none := by
        intro numbered
        induction numbered with
        | nil =>
            exact fun state =>
              ⟨SameTransfers.refl state, rfl, fun _ htask => Or.inl htask⟩
        | cons entry more ihmore =>
            intro state
            obtain ⟨hmore, hstock, hadded⟩ := ihmore (insertTransferTask batchId line state entry)
            have hone : SameTransfers state
                (insertTransferTask batchId line state entry) := ⟨rfl, rfl, rfl⟩
            refine ⟨hone.trans hmore, hstock, fun task htask => ?_⟩
            cases hadded task htask with
            | inr htransfer => exact Or.inr htransfer
            | inl hearlier =>
                cases List.mem_append.mp hearlier with
                | inl hold => exact Or.inl hold
                | inr hnew =>
                    rw [List.mem_singleton.mp hnew]
                    exact Or.inr rfl
      obtain ⟨hlinesame, hlinestock, hlinetasks⟩ := hinsert
        ((draws InventoryRow.quantityOnHand (line.committedQty - line.pickedQty)
          (stockedRows db line.itemId sourceWarehouseId)).zipIdx (pickSequence + 1)) db
      refine ⟨hlinesame.trans hsame, hinventory.trans hlinestock,
        fun task htask => ?_⟩
      cases htasks task htask with
      | inr htransfer => exact Or.inr htransfer
      | inl hearlier => exact hlinetasks task hearlier

theorem startToPicking_frame (hstarted : startToPicking ctx db toId = .ok (db', batchId)) :
    SameTransfers db db' ∧ db'.inventory = db.inventory ∧
      ∀ task ∈ db'.pickTasks.rows,
        task ∈ db.pickTasks.rows ∨ task.soId? = none := by
  simp only [startToPicking, bind_eq_ok, orThrow_eq_ok, require_eq_ok, pure_eq_ok,
    Prod.mk.injEq] at hstarted
  obtain ⟨header, -, -, -, -, -, planned, hplanned, rfl, -⟩ := hstarted
  obtain ⟨hsame, hinventory, htasks⟩ := planTransferLines_frame hplanned
  have hopened : SameTransfers db (openBatch ctx header.sourceWarehouseId db) := ⟨rfl, rfl, rfl⟩
  exact ⟨hopened.trans hsame, hinventory, htasks⟩

/-! ## Approval -/

/-- A snapshot entry with units, approved: its line is credited within its picks,
the units leave the source and reach a staging bin of the destination. -/
structure Moved (now : ℕ) (header : TransferOrder) (entry : ℕ × ℕ × ℤ)
    (db db' : Db) : Prop where
  positive : 0 < entry.2.2
  fits : ∀ line ∈ db.transferOrderLines.rows, line.toLineId = entry.1 →
    line.approvedQty + entry.2.2 ≤ line.pickedQty
  stock : ∃ (credited taken : Db) (bin : Bin), credited.inventory = db.inventory ∧
    decrementSourceInventory now entry.2.1 header.sourceWarehouseId entry.2.2 credited = .ok taken ∧
    db'.inventory = (addInventory now entry.2.1 bin.binId
      header.destinationWarehouseId entry.2.2 none taken).inventory
  lines : db'.transferOrderLines = db.transferOrderLines.updateKey entry.1 (addApproved entry.2.2)
  orders : db'.transferOrders = db.transferOrders
  approvals : db'.transferOrderApprovals = db.transferOrderApprovals
  tasks : db'.pickTasks = db.pickTasks

theorem consumeAll_frame (now : ℕ) (db : Db) (takes : List (InventoryRow × ℤ)) :
    SameTransfers db (run (consume now) db takes) ∧
      (run (consume now) db takes).pickTasks = db.pickTasks := by
  constructor
  · apply sameTransfers_run
    intro state take
    exact ⟨rfl, rfl, rfl⟩
  · apply run_unchanged Db.pickTasks
    intro state take
    rfl

theorem moveEntry_cases {entry : ℕ × ℕ × ℤ} (hmoved : moveEntry now header entry db = .ok db') :
    (entry.2.2 ≤ 0 ∧ db' = db) ∨ Moved now header entry db db' := by
  unfold moveEntry at hmoved
  split at hmoved
  · rename_i hnothing
    rw [pure_eq_ok] at hmoved
    exact Or.inl ⟨hnothing, hmoved.symm⟩
  · rename_i hpositive
    simp only [approveLine, bind_eq_ok, require_eq_ok, pure_eq_ok] at hmoved
    obtain ⟨credited, ⟨-, hfits, hcredited⟩, taken, htaken, hlanded⟩ := hmoved
    simp only [creditDestinationInventory, bind_eq_ok, orThrow_eq_ok, pure_eq_ok] at hlanded
    obtain ⟨bin, -, rfl⟩ := hlanded
    have hsource := htaken
    simp only [decrementSourceInventory, bind_eq_ok, require_eq_ok, pure_eq_ok] at hsource
    obtain ⟨-, -, hsource⟩ := hsource
    obtain ⟨hconsumed, hconsumedtasks⟩ := consumeAll_frame now credited
      (consumedTakes credited entry.2.1 header.sourceWarehouseId entry.2.2)
    rw [hsource] at hconsumed hconsumedtasks
    have hadded := sameTransfers_addInventory now entry.2.1 bin.binId
      header.destinationWarehouseId entry.2.2 none taken
    have haddedtasks : (addInventory now entry.2.1 bin.binId
        header.destinationWarehouseId entry.2.2 none taken).pickTasks =
        taken.pickTasks := by
      unfold addInventory
      split <;> rfl
    have hsame := hconsumed.trans hadded
    refine Or.inr
      { positive := not_le.mp hpositive
        fits := hfits
        stock := ⟨credited, taken, bin, by rw [← hcredited], htaken, rfl⟩
        lines := ?_
        orders := ?_
        approvals := ?_
        tasks := ?_ }
    · rw [hsame.lines, ← hcredited]
    · rw [hsame.orders, ← hcredited]
    · rw [hsame.approvals, ← hcredited]
    · rw [haddedtasks, hconsumedtasks, ← hcredited]

/-- What holds of the entries still to come is kept by skipping an entry without
units and by moving one with units, so it holds at the end with none to come. -/
theorem moveEntries_induct (holds : List (ℕ × ℕ × ℤ) → Db → Prop)
    (hskip : ∀ entry rest db, entry.2.2 ≤ 0 → holds (entry :: rest) db →
      holds rest db) (hmove : ∀ entry rest db db', Moved now header entry db db' →
      holds (entry :: rest) db → holds rest db')
    (hmoved : moveEntries now header entries db = .ok db') (hinit : holds entries db) :
    holds [] db' := by
  induction entries generalizing db with
  | nil =>
      obtain rfl : db = db' := by simpa [moveEntries] using hmoved
      exact hinit
  | cons entry rest ih =>
      obtain ⟨middle, hone, hrest⟩ := bind_eq_ok.mp hmoved
      cases moveEntry_cases hone with
      | inl hnothing =>
          obtain ⟨hnonpos, rfl⟩ := hnothing
          exact ih hrest (hskip entry rest _ hnonpos hinit)
      | inr hunits => exact ih hrest (hmove entry rest db middle hunits hinit)

/-- The header, the approvals and the tasks are not touched while the units
move. -/
theorem moveEntries_frame (hmoved : moveEntries now header entries db = .ok db') :
    db'.transferOrders = db.transferOrders ∧
      db'.transferOrderApprovals = db.transferOrderApprovals ∧
      db'.pickTasks = db.pickTasks := by
  refine moveEntries_induct (fun _ state =>
    state.transferOrders = db.transferOrders ∧
      state.transferOrderApprovals = db.transferOrderApprovals ∧
      state.pickTasks = db.pickTasks) ?_ ?_ hmoved ⟨rfl, rfl, rfl⟩
  · intro entry rest state _ hstate
    exact hstate
  · intro entry rest state next hunits hstate
    exact ⟨hunits.orders.trans hstate.1, hunits.approvals.trans hstate.2.1,
      hunits.tasks.trans hstate.2.2⟩

/-- The pending approval that an answer found. -/
theorem loadPendingApproval_eq_ok {names : Bool} {approval : TransferOrderApproval} :
    loadPendingApproval names db toId toApprovalId = .ok approval ↔
      db.transferOrderApprovals.find? toApprovalId = some approval ∧
        approval.toId = toId ∧ approval.status = .approvalPending := by
  simp only [loadPendingApproval, bind_eq_ok, orThrow_eq_ok, require_eq_ok,
    pure_eq_ok, Option.filter_eq_some_iff, decide_eq_true_eq]
  constructor
  · rintro ⟨found, ⟨hfound, horder⟩, -, hpending, rfl⟩
    exact ⟨hfound, horder, hpending⟩
  · rintro ⟨hfound, horder, hpending⟩
    exact ⟨approval, ⟨hfound, horder⟩, (), hpending, rfl⟩

/-- An accepted approval. -/
structure Approved (ctx : RequestContext) (toId toApprovalId : ℕ)
    (header : TransferOrder) (approval : TransferOrderApproval)
    (db moved db' : Db) : Prop where
  found : db.transferOrderApprovals.find? toApprovalId = some approval
  order : approval.toId = toId
  pending : approval.status = .approvalPending
  stored : db.transferOrders.find? toId = some header
  moves : moveEntries ctx.now header (snapshotEntries approval) db = .ok moved
  lines : db'.transferOrderLines = moved.transferOrderLines
  inventory : db'.inventory = moved.inventory
  orders : db'.transferOrders =
    if evaluateToClosure (answerApproval approval.toApprovalId .approvalApproved
        (some ctx.username) moved) header.toId then
      db.transferOrders.updateKey header.toId fun row =>
        { row with status := .toClosed }
    else db.transferOrders
  approvals : db'.transferOrderApprovals =
    db.transferOrderApprovals.updateKey toApprovalId fun row =>
      { row with status := .approvalApproved, approvedBy := some ctx.username }
  tasks : db'.pickTasks = db.pickTasks

theorem approve_approved {lineCount : ℕ}
    (happroved : approveTransferOrderApproval ctx db toId toApprovalId = .ok (db', lineCount)) :
    ∃ header approval moved,
      Approved ctx toId toApprovalId header approval db moved db' := by
  simp only [approveTransferOrderApproval, orApprovalFailed_eq_ok, bind_eq_ok,
    loadPendingApproval_eq_ok,
    orThrow_eq_ok, require_eq_ok, pure_eq_ok, Prod.mk.injEq] at happroved
  obtain ⟨approval, ⟨hfound, horder, hpending⟩, -, -, header, hheader, -, -, moved,
    hmoved, rfl, -⟩ := happroved
  obtain ⟨hsameorders, hsameapprovals, hsametasks⟩ := moveEntries_frame hmoved
  have hid : approval.toApprovalId = toApprovalId := Table.find?_key hfound
  have hevent : ∀ state : Db,
      SameTransfers state (if (snapshotEntries approval).any
          fun entry => 0 < entry.2.2 then
        emitEvent ctx .inventoryTransferCompleted approval.toApprovalId
          header.destinationWarehouseId state
        else state) ∧
      (if (snapshotEntries approval).any fun entry => 0 < entry.2.2 then
        emitEvent ctx .inventoryTransferCompleted approval.toApprovalId
          header.destinationWarehouseId state
        else state).inventory = state.inventory ∧
      (if (snapshotEntries approval).any fun entry => 0 < entry.2.2 then
        emitEvent ctx .inventoryTransferCompleted approval.toApprovalId
          header.destinationWarehouseId state
        else state).pickTasks = state.pickTasks := by
    intro state
    split
    · unfold emitEvent
      split <;> exact ⟨⟨rfl, rfl, rfl⟩, rfl, rfl⟩
    · exact ⟨SameTransfers.refl state, rfl, rfl⟩
  have hsettled : ∀ closes : Bool, ∀ state : Db,
      (if closes then setTransferStatus header.toId .toClosed state
        else state).transferOrderLines = state.transferOrderLines ∧
      (if closes then setTransferStatus header.toId .toClosed state
        else state).inventory = state.inventory ∧
      (if closes then setTransferStatus header.toId .toClosed state
        else state).pickTasks = state.pickTasks ∧
      (if closes then setTransferStatus header.toId .toClosed state
        else state).transferOrderApprovals = state.transferOrderApprovals := by
    intro closes state
    cases closes <;> exact ⟨rfl, rfl, rfl, rfl⟩
  unfold finishApproval
  dsimp only
  obtain ⟨hevents, heventstock, heventtasks⟩ := hevent
    (if evaluateToClosure (answerApproval approval.toApprovalId .approvalApproved
        (some ctx.username) moved) header.toId then
      setTransferStatus header.toId .toClosed (answerApproval
        approval.toApprovalId .approvalApproved (some ctx.username) moved)
    else answerApproval approval.toApprovalId .approvalApproved (some ctx.username) moved)
  obtain ⟨hlines, hstock, htasks, happrovals⟩ := hsettled
    (evaluateToClosure (answerApproval approval.toApprovalId .approvalApproved
        (some ctx.username) moved) header.toId)
    (answerApproval approval.toApprovalId .approvalApproved (some ctx.username) moved)
  refine ⟨header, approval, moved,
    { found := hfound
      order := horder
      pending := hpending
      stored := hheader
      moves := hmoved
      lines := hevents.lines.trans hlines
      inventory := heventstock.trans hstock
      orders := ?_
      approvals := ?_
      tasks := (heventtasks.trans htasks).trans hsametasks }⟩
  · rw [hevents.orders, ← hsameorders]
    split <;> rfl
  · rw [hevents.approvals, happrovals, ← hsameapprovals, ← hid]
    rfl

/-! ## Reject, cancel, delete and short-close -/

/-- A rejected approval writes its own row. -/
structure Rejected (toId toApprovalId : ℕ) (db db' : Db) : Prop where
  found : ∃ approval,
    db.transferOrderApprovals.find? toApprovalId = some approval ∧
      approval.toId = toId ∧ approval.status = .approvalPending
  approvals : ∃ approvedBy, db'.transferOrderApprovals =
    db.transferOrderApprovals.updateKey toApprovalId fun row =>
      { row with status := .approvalRejected, approvedBy := approvedBy }
  lines : db'.transferOrderLines = db.transferOrderLines
  orders : db'.transferOrders = db.transferOrders
  inventory : db'.inventory = db.inventory
  tasks : db'.pickTasks = db.pickTasks

theorem reject_rejected {status : ApprovalStatus}
    (hrejected : rejectTransferOrderApproval db toId toApprovalId =
      .ok (db', status)) : Rejected toId toApprovalId db db' := by
  simp only [rejectTransferOrderApproval, bind_eq_ok, loadPendingApproval_eq_ok,
    pure_eq_ok, Prod.mk.injEq] at hrejected
  obtain ⟨approval, hfound, rfl, -⟩ := hrejected
  have hid : approval.toApprovalId = toApprovalId := Table.find?_key hfound.1
  subst hid
  exact ⟨⟨approval, hfound⟩, ⟨_, rfl⟩, rfl, rfl, rfl, rfl⟩

/-- A cancelled transfer order, with its reservations released. -/
structure CancelledTransfer (toId : ℕ) (db db' : Db) : Prop where
  header : ∃ header, db.transferOrders.find? toId = some header ∧
    .toCancelled ∈ headerTransitions header.status ∧
    db'.inventory = (releaseReservations toId header.sourceWarehouseId db).inventory
  unanswered : ∀ approval ∈ db.transferOrderApprovals.rows,
    approval.toId = toId → approval.status = .approvalPending
  orders : db'.transferOrders = db.transferOrders.updateKey toId fun row =>
    { row with status := .toCancelled }
  lines : db'.transferOrderLines = db.transferOrderLines
  approvals : db'.transferOrderApprovals = db.transferOrderApprovals
  tasks : db'.pickTasks = db.pickTasks

theorem releaseLine_pickTasks (sourceWarehouseId : ℕ) (db : Db) (line : TransferOrderLine) :
    (releaseLine sourceWarehouseId db line).pickTasks = db.pickTasks := by
  apply run_unchanged Db.pickTasks
  intro state take
  rfl

theorem releaseReservations_pickTasks (toId sourceWarehouseId : ℕ) (db : Db) :
    (releaseReservations toId sourceWarehouseId db).pickTasks = db.pickTasks :=
  run_unchanged Db.pickTasks (releaseLine_pickTasks sourceWarehouseId) db _

theorem cancel_cancelled {status : TransferStatus}
    (hcancelled : cancelTransferOrder db toId = .ok (db', status)) :
    CancelledTransfer toId db db' := by
  simp only [cancelTransferOrder, bind_eq_ok, orThrow_eq_ok, require_eq_ok,
    validateHeaderTransition_eq_ok, pure_eq_ok, Prod.mk.injEq] at hcancelled
  obtain ⟨header, hheader, -, hedge, -, hunanswered, rfl, -⟩ := hcancelled
  have hsame := sameTransfers_releaseReservations toId header.sourceWarehouseId db
  refine
    { header := ⟨header, hheader, hedge, rfl⟩
      unanswered := fun approval happroval horder => ?_
      orders := congrArg (fun orders : Table TransferOrder TransferOrder.toId =>
        orders.updateKey toId (fun row => { row with status := .toCancelled }) fun _ => rfl)
        hsame.orders
      lines := hsame.lines
      approvals := hsame.approvals
      tasks := releaseReservations_pickTasks .. }
  by_contra hanswered
  have hlisted : approval ∈ db.transferOrderApprovals.select fun approval =>
      approval.toId = toId ∧ approval.status ≠ .approvalPending :=
    List.mem_filter.mpr ⟨happroval, by simp [horder, hanswered]⟩
  rw [hunanswered] at hlisted
  cases hlisted

/-- A deleted transfer order, with its reservations released and its lines gone. -/
structure DeletedTransfer (toId : ℕ) (db db' : Db) : Prop where
  header : ∃ header, db.transferOrders.find? toId = some header ∧
    db'.inventory = (releaseReservations toId header.sourceWarehouseId db).inventory
  unapproved : ∀ approval ∈ db.transferOrderApprovals.rows, approval.toId ≠ toId
  orders : db'.transferOrders = db.transferOrders.delete fun row => row.toId = toId
  lines : db'.transferOrderLines = db.transferOrderLines.delete fun line => line.toId = toId
  approvals : db'.transferOrderApprovals = db.transferOrderApprovals
  tasks : db'.pickTasks = db.pickTasks

theorem delete_deleted {u : Unit} (hdeleted : deleteTransferOrder db toId = .ok (db', u)) :
    DeletedTransfer toId db db' := by
  simp only [deleteTransferOrder, bind_eq_ok, orThrow_eq_ok, require_eq_ok,
    pure_eq_ok, Prod.mk.injEq] at hdeleted
  obtain ⟨header, hheader, -, ⟨-, hunapproved⟩, -, -, rfl, -⟩ := hdeleted
  have hsame := sameTransfers_releaseReservations toId header.sourceWarehouseId db
  refine
    { header := ⟨header, hheader, rfl⟩
      unapproved := fun approval happroval horder => ?_
      orders := congrArg (fun orders : Table TransferOrder TransferOrder.toId =>
        orders.delete fun row => row.toId = toId) hsame.orders
      lines := congrArg
        (fun lines : Table TransferOrderLine TransferOrderLine.toLineId =>
          lines.delete fun line => line.toId = toId) hsame.lines
      approvals := hsame.approvals
      tasks := releaseReservations_pickTasks .. }
  have hlisted : approval ∈ db.transferOrderApprovals.select fun approval =>
      approval.toId = toId :=
    List.mem_filter.mpr ⟨happroval, by simp [horder]⟩
  rw [hunapproved] at hlisted
  cases hlisted

/-- A short-closed line, with what it had reserved released. -/
structure ShortClosed (toId toLineId : ℕ) (db db' : Db) : Prop where
  line : ∃ line header, db.transferOrderLines.find? toLineId = some line ∧
    line.toId = toId ∧ db.transferOrders.find? toId = some header ∧
    .toLineShortClosed ∈ lineTransitions line.status ∧
    db'.inventory = (releaseLine header.sourceWarehouseId db line).inventory
  lines : db'.transferOrderLines = db.transferOrderLines.updateKey toLineId
    fun row => { row with status := .toLineShortClosed }
  orders : db'.transferOrders = db.transferOrders
  approvals : db'.transferOrderApprovals = db.transferOrderApprovals
  tasks : db'.pickTasks = db.pickTasks

theorem shortClose_shortClosed {toLineId : ℕ} {units : ℤ}
    (hclosed : shortCloseToLine db toId toLineId = .ok (db', units)) :
    ShortClosed toId toLineId db db' := by
  simp only [shortCloseToLine, bind_eq_ok, orThrow_eq_ok,
    validateLineTransition_eq_ok, pure_eq_ok, Prod.mk.injEq,
    Option.filter_eq_some_iff, decide_eq_true_eq] at hclosed
  obtain ⟨line, ⟨hline, horder⟩, header, hheader, -, hedge, rfl, -⟩ := hclosed
  have hsame : SameTransfers db (releaseLine header.sourceWarehouseId db line) :=
    sameTransfers_applyTakes ..
  exact
    { line := ⟨line, header, hline, horder, hheader, hedge, rfl⟩
      lines := congrArg
        (fun lines : Table TransferOrderLine TransferOrderLine.toLineId =>
          lines.updateKey toLineId (fun row =>
            { row with status := .toLineShortClosed }) fun _ => rfl) hsame.lines
      orders := hsame.orders
      approvals := hsame.approvals
      tasks := releaseLine_pickTasks .. }

/-! ## All requests -/

/-- What a request has written in the transfer tables.  A refused request, and one about
other tables, has written nothing. -/
inductive TransferWrites (ctx : RequestContext) (db : Db) : TransferRequest → Db → Prop
  | nothing {request : TransferRequest} {db' : Db} (hsame : SameTransfers db db') :
      TransferWrites ctx db request db'
  | imports {request : ImportRequest} {db' : Db} {result : ImportedTransferOrder}
      (hserved : importTransferOrder db request = .ok (db', result)) :
      TransferWrites ctx db (.importTransferOrder request) db'
  | picks {request : ConfirmPickRequest} {toId toLineId : ℕ} {quantity : ℤ} {db' : Db}
      (hpicked : Picked db toId toLineId quantity db') :
      TransferWrites ctx db (.confirmPick request) db'
  | submits (toId : ℕ) :
      TransferWrites ctx db (.submitPicks toId) (submitPicks db toId ctx.username)
  | completes {batchId : ℕ} {db' : Db} {summary : BatchSummary}
      (hserved : completeBatch ctx db batchId = .ok (db', summary)) :
      TransferWrites ctx db (.completeBatch batchId) db'
  | approves {toId toApprovalId : ℕ} {header : TransferOrder}
      {approval : TransferOrderApproval} {moved db' : Db}
      (haccepted : (approveTransferOrderApproval ctx db toId toApprovalId).isOk = true)
      (happroved : Approved ctx toId toApprovalId header approval db moved db') :
      TransferWrites ctx db (.approve toId toApprovalId) db'
  | rejects {toId toApprovalId : ℕ} {db' : Db} (hrejected : Rejected toId toApprovalId db db') :
      TransferWrites ctx db (.reject toId toApprovalId) db'
  | cancels {toId : ℕ} {db' : Db} (hcancelled : CancelledTransfer toId db db') :
      TransferWrites ctx db (.cancel toId) db'
  | deletes {toId : ℕ} {db' : Db} (hdeleted : DeletedTransfer toId db db') :
      TransferWrites ctx db (.delete toId) db'
  | closes {toId toLineId : ℕ} {db' : Db} (hclosed : ShortClosed toId toLineId db db') :
      TransferWrites ctx db (.shortClose toId toLineId) db'

theorem serveTransfer_writes (ctx : RequestContext) (request : TransferRequest) (db : Db) :
    TransferWrites ctx db request (serveTransfer db ⟨ctx, request⟩) := by
  have hrefused : ∀ request, TransferWrites ctx db request db :=
    fun _ => .nothing (SameTransfers.refl db)
  cases request with
  | outside request => exact .nothing (request.sameTransfers ctx db)
  | importTransferOrder request =>
      exact committed_cases (hrefused _) fun _ _ hserved => .imports hserved
  | startToPicking toId =>
      exact committed_cases (hrefused _) fun _ _ hserved =>
        .nothing (startToPicking_frame hserved).1
  | confirmPick request =>
      refine committed_cases (hrefused _) fun db' result hserved => ?_
      cases confirmPick_transfers hserved with
      | inl hsame => exact .nothing hsame
      | inr hpicked =>
          obtain ⟨task, toId, toLineId, -, -, -, hpicked⟩ := hpicked
          exact .picks hpicked
  | shortPick request =>
      exact committed_cases (hrefused _) fun _ _ hserved => .nothing (shortPick_transfers hserved)
  | completeBatch batchId =>
      exact committed_cases (hrefused _) fun _ _ hserved => .completes hserved
  | cancelBatch batchId =>
      exact committed_cases (hrefused _) fun _ _ hserved =>
        .nothing (fullRevertBatch_transfers hserved)
  | submitPicks toId => exact .submits toId
  | approve toId toApprovalId =>
      refine committed_cases (hrefused _) fun db' result hserved => ?_
      obtain ⟨header, approval, moved, happroved⟩ := approve_approved hserved
      exact .approves (by rw [hserved]; rfl) happroved
  | reject toId toApprovalId =>
      exact committed_cases (hrefused _) fun _ _ hserved => .rejects (reject_rejected hserved)
  | cancel toId =>
      exact committed_cases (hrefused _) fun _ _ hserved => .cancels (cancel_cancelled hserved)
  | delete toId =>
      exact committed_cases (hrefused _) fun _ _ hserved => .deletes (delete_deleted hserved)
  | shortClose toId toLineId =>
      exact committed_cases (hrefused _) fun _ _ hserved => .closes (shortClose_shortClosed hserved)

end SentryWms.TransferOrders
