import Mathlib.Tactic.Ring
import SentryWms.System

/-!
# Conservation of picked units

What an accepted pick credits to order lines, what it stores on its task and what
it takes off the shelf are three separate updates.  This module computes the
first and the last in terms of the state before the pick, and says exactly when
the three agree.
-/

namespace SentryWms.Picking

open Relational Inventory

/-! ## The two measures -/

/-- Picked units of the lines with the given identifiers. -/
def pickedOn (soLineIds : List ℕ) (db : Db) : ℤ :=
  db.salesOrderLines.sum fun line =>
    if line.soLineId ∈ soLineIds then line.quantityPicked else 0

/-- Units on hand in the whole inventory. -/
def onHandTotal (db : Db) : ℤ :=
  onHandOver (fun _ => true) db

/-- The lines that contribute to a task: those of its shares, or the one it
points to. -/
def contributors (db : Db) (task : PickTask) : List ℕ :=
  match breakdownOf db task.pickTaskId with
  | [] => task.soLineId?.toList
  | share :: rest => (share :: rest).filterMap WavePickBreakdown.soLineId

def lineExists (db : Db) (soLineId : Option ℕ) : Bool :=
  soLineId.any fun k => (db.salesOrderLines.find? k).isSome

/-! ## Crediting -/

/-- The units a confirm credits: all shares in full when the task has shares, and
the confirmed quantity otherwise. -/
def confirmCredit (db : Db) (task : PickTask) (quantity : ℤ) : ℤ :=
  match breakdownOf db task.pickTaskId with
  | [] => if lineExists db task.soLineId? then quantity else 0
  | share :: rest =>
      ((share :: rest).map fun share =>
        if lineExists db share.soLineId then share.quantity else 0).sum

/-- The units a short pick credits: first-in first-out over the shares, none of
them negative. -/
def shortCredit (db : Db) (task : PickTask) (quantity : ℤ) : ℤ :=
  match breakdownOf db task.pickTaskId with
  | [] => if lineExists db task.soLineId? then quantity else 0
  | share :: rest =>
      ((gives quantity (share :: rest)).map fun give =>
        if lineExists db give.1.soLineId ∧ 0 < give.2 then give.2 else 0).sum

theorem lineExists_updateLine (db : Db) (k : Option ℕ)
    (set : SalesOrderLine → SalesOrderLine)
    (hset : ∀ line, (set line).soLineId = line.soLineId) (j : Option ℕ) :
    lineExists (updateLine k set db hset) j = lineExists db j := by
  cases k with
  | none => rfl
  | some k =>
      cases j with
      | none => rfl
      | some j =>
          simp only [lineExists, updateLine, Option.any_some, Table.find?_updateKey]
          by_cases h : j = k <;> simp [h]

theorem pickedOn_addPicked (ids : List ℕ) (db : Db) (k : Option ℕ) (qty : ℤ)
    {hset : ∀ line, (SalesOrderLine.addPicked qty line).soLineId = line.soLineId}
    (hk : ∀ j ∈ k, j ∈ ids) :
    pickedOn ids (updateLine k (SalesOrderLine.addPicked qty) db hset) =
      pickedOn ids db + if lineExists db k then qty else 0 := by
  cases k with
  | none => simp [updateLine, lineExists]
  | some k =>
      have hmem : k ∈ ids := hk k rfl
      rw [pickedOn, sum_updateLine]
      cases hfind : db.salesOrderLines.find? k with
      | none => simp [lineExists, hfind, pickedOn]
      | some line =>
          have hkey := Table.find?_key hfind
          simp [lineExists, hfind, pickedOn, SalesOrderLine.addPicked, hkey, hmem]

theorem pickedOn_creditShares (ids : List ℕ) (db : Db) (rows : List WavePickBreakdown)
    (hrows : ∀ share ∈ rows, ∀ k ∈ share.soLineId, k ∈ ids) :
    pickedOn ids (run creditShare db rows) =
      pickedOn ids db + (rows.map fun share =>
        if lineExists db share.soLineId then share.quantity else 0).sum := by
  induction rows generalizing db with
  | nil => simp [run]
  | cons share rest ih =>
      have hexists : ∀ k, lineExists (creditShare db share) k = lineExists db k :=
        fun k => lineExists_updateLine ..
      have hhead : pickedOn ids (creditShare db share) =
          pickedOn ids db +
            if lineExists db share.soLineId then share.quantity else 0 :=
        pickedOn_addPicked ids _ _ _ (hrows share List.mem_cons_self)
      have hrest := ih (creditShare db share) fun other hother =>
        hrows other (List.mem_cons_of_mem _ hother)
      simp only [hexists] at hrest
      calc
        pickedOn ids (run creditShare db (share :: rest)) =
            pickedOn ids (run creditShare (creditShare db share) rest) := rfl
        _ = _ := by rw [hrest, hhead, List.map_cons, List.sum_cons, add_assoc]

theorem pickedOn_creditGives (ids : List ℕ) (db : Db) (rows : List (WavePickBreakdown × ℤ))
    (hrows : ∀ give ∈ rows, ∀ k ∈ give.1.soLineId, k ∈ ids) :
    pickedOn ids (run creditGive db rows) =
      pickedOn ids db + (rows.map fun give =>
        if lineExists db give.1.soLineId ∧ 0 < give.2 then give.2 else 0).sum := by
  induction rows generalizing db with
  | nil => simp [run]
  | cons give rest ih =>
      have hexists : ∀ k, lineExists (creditGive db give) k = lineExists db k := by
        intro k
        by_cases hgive : 0 < give.2
        · simp only [creditGive, if_pos hgive]
          exact lineExists_updateLine ..
        · simp only [creditGive, if_neg hgive]
          rfl
      have hhead : pickedOn ids (creditGive db give) =
          pickedOn ids db +
            if lineExists db give.1.soLineId ∧ 0 < give.2 then give.2 else 0 := by
        by_cases hgive : 0 < give.2
        · simp only [creditGive, hgive, if_true, and_true]
          exact pickedOn_addPicked ids _ _ _ (hrows give List.mem_cons_self)
        · simp only [creditGive, hgive, if_false, and_false, add_zero]
          rfl
      have hrest := ih (creditGive db give) fun other hother =>
        hrows other (List.mem_cons_of_mem _ hother)
      simp only [hexists] at hrest
      calc
        pickedOn ids (run creditGive db (give :: rest)) =
            pickedOn ids (run creditGive (creditGive db give) rest) := rfl
        _ = _ := by rw [hrest, hhead, List.map_cons, List.sum_cons, add_assoc]

theorem gives_fst (quantity : ℤ) (rows : List WavePickBreakdown) :
    (gives quantity rows).map Prod.fst = rows := by
  induction rows generalizing quantity with
  | nil => rfl
  | cons share rest ih => simp [gives, ih]

theorem pickedOn_creditConfirmed (db : Db) (task : PickTask) (quantity : ℤ) :
    pickedOn (contributors db task) (creditConfirmed task quantity db) =
      pickedOn (contributors db task) db + confirmCredit db task quantity := by
  unfold contributors creditConfirmed confirmCredit
  cases breakdownOf db task.pickTaskId with
  | nil =>
      refine pickedOn_addPicked _ _ _ _ fun k hk => ?_
      simpa [Option.mem_toList] using hk
  | cons share rest =>
      refine pickedOn_creditShares _ _ _ fun other hother k hk => ?_
      exact List.mem_filterMap.mpr ⟨other, hother, hk⟩

theorem pickedOn_creditShorted (db : Db) (task : PickTask) (quantity : ℤ) :
    pickedOn (contributors db task) (creditShorted task quantity db) =
      pickedOn (contributors db task) db + shortCredit db task quantity := by
  unfold contributors creditShorted shortCredit
  cases breakdownOf db task.pickTaskId with
  | nil =>
      refine pickedOn_addPicked _ _ _ _ fun k hk => ?_
      simpa [Option.mem_toList] using hk
  | cons share rest =>
      refine pickedOn_creditGives _ _ _ fun give hgive k hk => ?_
      have hshare : give.1 ∈ share :: rest := by
        rw [← gives_fst quantity (share :: rest)]
        exact List.mem_map.mpr ⟨give, hgive, rfl⟩
      exact List.mem_filterMap.mpr ⟨give.1, hshare, hk⟩

theorem creditShare_inventory (db : Db) (share : WavePickBreakdown) :
    (creditShare db share).inventory = db.inventory := by
  simp [creditShare]

theorem creditGive_inventory (db : Db) (give : WavePickBreakdown × ℤ) :
    (creditGive db give).inventory = db.inventory := by
  by_cases hgive : 0 < give.2 <;> simp [creditGive, hgive]

@[simp]
theorem creditConfirmed_inventory (db : Db) (task : PickTask) (quantity : ℤ) :
    (creditConfirmed task quantity db).inventory = db.inventory := by
  unfold creditConfirmed
  cases breakdownOf db task.pickTaskId with
  | nil => simp
  | cons share rest =>
      exact run_unchanged Db.inventory creditShare_inventory _ _

@[simp]
theorem creditShorted_inventory (db : Db) (task : PickTask) (quantity : ℤ) :
    (creditShorted task quantity db).inventory = db.inventory := by
  unfold creditShorted
  cases breakdownOf db task.pickTaskId with
  | nil => simp
  | cons share rest =>
      exact run_unchanged Db.inventory creditGive_inventory _ _

/-! ## Picked, stored and taken -/

/-- A confirm or a short pick. -/
inductive Pick
  | confirm (request : ConfirmPickRequest)
  | short (request : ShortPickRequest)

namespace Pick

def pickTaskId : Pick → ℕ
  | confirm request => request.pickTaskId
  | short request => request.pickTaskId

def quantity : Pick → ℤ
  | confirm request => request.quantityPicked
  | short request => request.quantityAvailable

def serve (ctx : RequestContext) (db : Db) :
    Pick → Except ServiceError (Db × SettledTask)
  | confirm request => confirmPick ctx db request
  | short request => shortPick ctx db request

/-- The units the pick credits to the lines of its task. -/
def credit (db : Db) (task : PickTask) : Pick → ℤ
  | confirm request => confirmCredit db task request.quantityPicked
  | short request => shortCredit db task request.quantityAvailable

end Pick

/-- The growth of the contributing lines, the quantity on the task and the units
off the shelf are one number. -/
def PickConserved (db db' : Db) (task : PickTask) : Prop :=
  ∃ stored ∈ db'.pickTasks.find? task.pickTaskId,
    pickedOn (contributors db task) db' - pickedOn (contributors db task) db =
      stored.quantityPicked ∧
    onHandTotal db - onHandTotal db' = stored.quantityPicked

instance (db db' : Db) (task : PickTask) : Decidable (PickConserved db db' task) :=
  inferInstanceAs (Decidable (∃ stored ∈ db'.pickTasks.find? task.pickTaskId, _))

variable {db db' : Db} {places : Place → Bool}

theorem find?_recordPick {task : PickTask} {pickTaskId : ℕ}
    (hfound : db.pickTasks.find? pickTaskId = some task) (status : TaskStatus)
    (quantity : ℤ) :
    (recordPick task.pickTaskId status quantity db).pickTasks.find? task.pickTaskId =
      some { task with status := status, quantityPicked := quantity } := by
  have hkey := Table.find?_key hfound
  simp [recordPick, Table.find?_updateKey, hkey, hfound]

theorem creditShare_pickTasks (db : Db) (share : WavePickBreakdown) :
    (creditShare db share).pickTasks = db.pickTasks := by
  simp [creditShare]

theorem creditGive_pickTasks (db : Db) (give : WavePickBreakdown × ℤ) :
    (creditGive db give).pickTasks = db.pickTasks := by
  by_cases hgive : 0 < give.2 <;> simp [creditGive, hgive]

@[simp]
theorem creditConfirmed_pickTasks (db : Db) (task : PickTask) (quantity : ℤ) :
    (creditConfirmed task quantity db).pickTasks = db.pickTasks := by
  unfold creditConfirmed
  cases breakdownOf db task.pickTaskId with
  | nil => simp
  | cons share rest =>
      exact run_unchanged Db.pickTasks creditShare_pickTasks _ _

@[simp]
theorem creditShorted_pickTasks (db : Db) (task : PickTask) (quantity : ℤ) :
    (creditShorted task quantity db).pickTasks = db.pickTasks := by
  unfold creditShorted
  cases breakdownOf db task.pickTaskId with
  | nil => simp
  | cons share rest =>
      exact run_unchanged Db.pickTasks creditGive_pickTasks _ _

/-- Totals over the inventory see nothing but the inventory. -/
theorem onHandOver_congr (hinventory : db'.inventory = db.inventory) :
    onHandOver places db' = onHandOver places db := by
  rw [onHandOver, onHandOver, hinventory]

theorem takenFrom_congr (hinventory : db'.inventory = db.inventory) (itemId binId : ℕ) (qty : ℤ) :
    takenFrom places itemId binId qty db' = takenFrom places itemId binId qty db := by
  rw [takenFrom, takenFrom, hinventory]

/-- The numbers of an accepted confirm of a sales-order task. -/
theorem confirmSalesOrderTask_spec (ctx : RequestContext) (db : Db)
    (task : PickTask) (quantity : ℤ) (places : Place → Bool) :
    let db' := confirmSalesOrderTask ctx task quantity
      (recordPick task.pickTaskId .taskPicked quantity db)
    db'.pickTasks = (recordPick task.pickTaskId .taskPicked quantity db).pickTasks ∧
    pickedOn (contributors db task) db' =
      pickedOn (contributors db task) db + confirmCredit db task quantity ∧
    onHandOver places db' =
      onHandOver places db - takenFrom places task.itemId task.binId quantity db := by
  refine ⟨?_, ?_, ?_⟩
  · exact creditConfirmed_pickTasks ..
  · exact pickedOn_creditConfirmed
      (recordPick task.pickTaskId .taskPicked quantity db) task quantity
  · have hsame : (creditConfirmed task quantity
        (recordPick task.pickTaskId .taskPicked quantity db)).inventory =
          db.inventory := creditConfirmed_inventory ..
    rw [confirmSalesOrderTask, onHandOver_takePicked, onHandOver_congr hsame, takenFrom_congr hsame]

/-- The numbers of an accepted short pick. -/
theorem shortTask_spec (ctx : RequestContext) (db : Db) (task : PickTask)
    (quantity : ℤ) (places : Place → Bool) :
    let db' := shortTask ctx task quantity (recordPick task.pickTaskId .taskShort quantity db)
    db'.pickTasks = (recordPick task.pickTaskId .taskShort quantity db).pickTasks ∧
    pickedOn (contributors db task) db' =
      pickedOn (contributors db task) db + shortCredit db task quantity ∧
    onHandOver places db' =
      onHandOver places db - takenFrom places task.itemId task.binId quantity db := by
  refine ⟨?_, ?_, ?_⟩
  · exact creditShorted_pickTasks ..
  · exact pickedOn_creditShorted
      (takePicked ctx.now task.itemId task.binId quantity task.quantityToPick
        (recordPick task.pickTaskId .taskShort quantity db)) task quantity
  · rw [shortTask, onHandOver_congr (creditShorted_inventory ..), onHandOver_takePicked]
    rfl

/-- An accepted pick of a sales-order task conserves units exactly when the lines
it credits take up the quantity and the rows of its bin give it up. -/
theorem pickConserved_iff {ctx : RequestContext} {db db' : Db} {pick : Pick}
    {settled : SettledTask} {task : PickTask}
    (hserved : pick.serve ctx db = .ok (db', settled))
    (htask : db.pickTasks.find? pick.pickTaskId = some task)
    (hsalesOrder : task.soId? ≠ none) :
    PickConserved db db' task ↔
      pick.credit db task = pick.quantity ∧
        takenFrom (fun _ => true) task.itemId task.binId pick.quantity db =
          pick.quantity := by
  have hgeneral : ∀ status,
      db'.pickTasks = (recordPick task.pickTaskId status pick.quantity db).pickTasks ∧
        pickedOn (contributors db task) db' =
          pickedOn (contributors db task) db + pick.credit db task ∧
        onHandOver (fun _ => true) db' = onHandOver (fun _ => true) db -
          takenFrom (fun _ => true) task.itemId task.binId pick.quantity db →
      (PickConserved db db' task ↔ pick.credit db task = pick.quantity ∧
        takenFrom (fun _ => true) task.itemId task.binId pick.quantity db =
          pick.quantity) := by
    rintro status ⟨htasks, hpicked, honHand⟩
    have hstored := find?_recordPick htask status pick.quantity
    simp only [PickConserved, htasks, hstored, Option.mem_def, Option.some.injEq,
      hpicked, onHandTotal, honHand, exists_eq_left']
    constructor
    · rintro ⟨hcredit, htaken⟩
      exact ⟨by omega, by omega⟩
    · rintro ⟨hcredit, htaken⟩
      exact ⟨by omega, by omega⟩
  cases pick with
  | confirm request =>
      obtain ⟨found, hfound, -, -, hstate⟩ := confirmPick_ok hserved
      obtain rfl : found = task := Option.some.inj (hfound.symm.trans htask)
      cases hstate with
      | salesOrder soId soLineId htarget hstate =>
          subst hstate
          exact hgeneral .taskPicked
            (confirmSalesOrderTask_spec ctx db found request.quantityPicked _)
      | transferOrder toId toLineId credited htarget =>
          simp [PickTask.soId?, htarget] at hsalesOrder
  | short request =>
      obtain ⟨found, hfound, -, -, rfl⟩ := shortPick_ok hserved
      obtain rfl : found = task := Option.some.inj (hfound.symm.trans htask)
      exact hgeneral .taskShort (shortTask_spec ctx db found request.quantityAvailable _)

/-- Two orders of 3 and 2 units in one wave over 10 units in one bin. -/
def waved : Db :=
  SmallWarehouse.after
    [SmallWarehouse.receive 1 10 none, SmallWarehouse.order "S1" [SmallWarehouse.line 3],
      SmallWarehouse.order "S2" [SmallWarehouse.line 2],
      .createWave (SmallWarehouse.wave [1, 2] [])]

/-- The combined task of the wave. -/
def wavedTask : PickTask :=
  { pickTaskId := 1
    batchId := 1
    target := .salesOrder 1 (some 1)
    itemId := 1
    binId := 1
    quantityToPick := 5
    pickSequence := 1
    toteNumber := some "WAVE" }

theorem pickConserved_iff_waved :
    ∃ db' settled,
      (Pick.confirm (SmallWarehouse.confirm 1 5)).serve (SmallWarehouse.pat 5)
        waved = .ok (db', settled) ∧
      (PickConserved waved db' wavedTask ↔
        (Pick.confirm (SmallWarehouse.confirm 1 5)).credit waved wavedTask = 5 ∧
          takenFrom (fun _ => true) 1 1 5 waved = 5) := by
  obtain ⟨⟨db', settled⟩, hserved⟩ := exists_eq_ok
    ((Pick.confirm (SmallWarehouse.confirm 1 5)).serve
      (SmallWarehouse.pat 5) waved) (by decide)
  exact ⟨db', settled, hserved,
    pickConserved_iff hserved (by decide) (by decide)⟩

/-- Four of the five units are confirmed: both lines are credited in full, five
units, and four leave the shelf. -/
theorem pickConserved_waved_partial :
    waved.pickTasks.find? 1 = some wavedTask ∧
    ((Pick.confirm (SmallWarehouse.confirm 1 4)).serve (SmallWarehouse.pat 5) waved).isOk ∧
    ¬ PickConserved waved
      (committed waved ((Pick.confirm (SmallWarehouse.confirm 1 4)).serve
        (SmallWarehouse.pat 5) waved)) wavedTask := by
  decide

/-! ## Lots of one bin -/

/-- What a floored decrement takes off the rows of a bin. -/
def takenAt (db : Db) (itemId binId : ℕ) (qty : ℤ) : ℤ :=
  takenFrom (itemInBin itemId binId) itemId binId qty db

/-- The four operations that take units of an item from a bin. -/
inductive StockPick
  | confirm (request : ConfirmPickRequest)
  | short (request : ShortPickRequest)
  | adminPick (batchId seq : ℕ) (line : SalesOrderLine)
      (entry : SalesOrders.AdminPickEntry)
  | shortage (itemId warehouseId : ℕ) (shortQty : ℤ)
      (reasonDetail boSoNumber : String)

namespace StockPick

/-- The state an accepted operation leaves. -/
def outcome (ctx : RequestContext) (db : Db) : StockPick → Except ServiceError Db
  | confirm request => (confirmPick ctx db request).map Prod.fst
  | short request => (shortPick ctx db request).map Prod.fst
  | adminPick batchId seq line entry =>
      SalesOrders.applyAdminPick ctx batchId seq line entry db
  | shortage itemId warehouseId shortQty reasonDetail boSoNumber =>
      .ok (SalesOrders.writeShortAdjustment ctx itemId warehouseId shortQty
        reasonDetail boSoNumber db)

/-- The item, the bin and the units the operation says it takes. -/
def taken? (db : Db) : StockPick → Option (ℕ × ℕ × ℤ)
  | confirm request => (db.pickTasks.find? request.pickTaskId).map fun task =>
      (task.itemId, task.binId, request.quantityPicked)
  | short request => (db.pickTasks.find? request.pickTaskId).map fun task =>
      (task.itemId, task.binId, request.quantityAvailable)
  | adminPick _ _ line entry => some (line.itemId, entry.binId, entry.quantity)
  | shortage itemId warehouseId shortQty _ _ =>
      (SalesOrders.shortAdjustment? db itemId warehouseId shortQty).map
        fun found => (itemId, found.1.binId, found.2)

/-- The rows of the bin give up exactly the units: a floored decrement finds
them on its rows, an admin pick matches one row, and a confirm is of a
sales-order task. -/
def TakesExactly (db : Db) (itemId binId : ℕ) (qty : ℤ) : StockPick → Prop
  | confirm request =>
      (db.pickTasks.find? request.pickTaskId).any (fun task =>
        task.soId?.isSome) ∧ takenAt db itemId binId qty = qty
  | short _ => takenAt db itemId binId qty = qty
  | adminPick _ _ _ _ =>
      (SalesOrders.coveringRows db itemId binId qty).length = 1
  | shortage _ _ _ _ _ => takenAt db itemId binId qty = qty

end StockPick

/-- An admin pick takes its quantity once for each row that covers it. -/
theorem onHandAt_takeAvailable (db : Db) (now itemId binId : ℕ) (qty : ℤ) :
    onHandAt (takeAvailable now itemId binId qty db) itemId binId =
      onHandAt db itemId binId -
        (SalesOrders.coveringRows db itemId binId qty).length * qty := by
  rw [onHandAt, onHandOver_takeAvailable, onHandAt]
  congr 1
  simp only [Table.sum, SalesOrders.coveringRows, Table.select]
  induction db.inventory.rows with
  | nil => simp
  | cons row rows ih =>
      rw [List.map_cons, List.sum_cons, ih, List.filter_cons]
      by_cases hrow : row.itemId = itemId ∧ row.binId = binId ∧ qty ≤ row.available
      · have hplace : itemInBin itemId binId row.place = true := by
          simp [itemInBin, InventoryRow.place, hrow.1, hrow.2.1]
        rw [if_pos ⟨hrow, hplace⟩, if_pos (decide_eq_true hrow), List.length_cons]
        push_cast
        ring
      · rw [if_neg fun h => hrow h.1, if_neg (by simpa using hrow), zero_add]

theorem onHandAt_writeShortAdjustment {itemId warehouseId : ℕ} {shortQty : ℤ}
    {row : InventoryRow} {adjQty : ℤ}
    (hfound : SalesOrders.shortAdjustment? db itemId warehouseId shortQty =
      some (row, adjQty)) (ctx : RequestContext) (reasonDetail boSoNumber : String) :
    onHandAt (SalesOrders.writeShortAdjustment ctx itemId warehouseId shortQty
        reasonDetail boSoNumber db) itemId row.binId =
      onHandAt db itemId row.binId - takenAt db itemId row.binId adjQty := by
  simp only [SalesOrders.writeShortAdjustment, hfound]
  exact onHandOver_writeOff ..

theorem Except_map_eq_ok {Value Other : Type} {outcome : Except ServiceError Value}
    {f : Value → Other} {result : Other} (h : outcome.map f = .ok result) :
    ∃ value, outcome = .ok value ∧ f value = result := by
  cases outcome with
  | error e => simp [Except.map] at h
  | ok value => exact ⟨value, rfl, by simpa [Except.map] using h⟩

/-- Crediting a transfer line leaves the inventory alone. -/
theorem confirmed_transferOrder_inventory {credited : Db} {toLineId : ℕ} {delta : ℤ}
    (hcredited : TransferOrders.updateTransferOrderLinePicked db toLineId delta =
      .ok credited) : credited.inventory = db.inventory := by
  simp only [TransferOrders.updateTransferOrderLinePicked, bind_eq_ok,
    require_eq_ok, orThrow_eq_ok, pure_eq_ok] at hcredited
  obtain ⟨-, -, line, -, rfl⟩ := hcredited
  rfl

/-- An accepted operation lowers the units of its bin by exactly what it says it
takes, if and only if the rows of the bin give up exactly that. -/
theorem onHandAt_drop_iff {ctx : RequestContext} {db db' : Db} {pick : StockPick}
    {itemId binId : ℕ} {qty : ℤ}
    (hserved : pick.outcome ctx db = .ok db')
    (htaken : pick.taken? db = some (itemId, binId, qty)) :
    onHandAt db itemId binId - onHandAt db' itemId binId = qty ↔
      pick.TakesExactly db itemId binId qty := by
  have hfloor : onHandAt db' itemId binId = onHandAt db itemId binId - takenAt db itemId binId qty →
      (onHandAt db itemId binId - onHandAt db' itemId binId = qty ↔
        takenAt db itemId binId qty = qty) := by
    intro hdrop
    rw [hdrop]
    constructor <;> intro h <;> omega
  cases pick with
  | confirm request =>
      obtain ⟨⟨_, settled⟩, hpick, rfl⟩ := Except_map_eq_ok hserved
      obtain ⟨task, htask, -, -, hstate⟩ := confirmPick_ok hpick
      simp only [StockPick.taken?, htask, Option.map_some, Option.some.injEq,
        Prod.mk.injEq] at htaken
      obtain ⟨rfl, rfl, rfl⟩ := htaken
      cases hstate with
      | salesOrder soId soLineId htarget hstate =>
          rw [hfloor (by
            rw [hstate]
            exact (confirmSalesOrderTask_spec ctx db task request.quantityPicked
              _).2.2)]
          simp [StockPick.TakesExactly, htask, PickTask.soId?, htarget]
      | transferOrder toId toLineId credited htarget hcredited hstate =>
          have hsame := confirmed_transferOrder_inventory hcredited
          have hdrop : onHandAt db task.itemId task.binId -
              onHandAt (TransferOrders.maybePromoteHeaderToPartiallyPicked
                credited toId) task.itemId task.binId = 0 :=
            sub_eq_zero.mpr (onHandOver_congr hsame).symm
          have hpos := request.quantityPicked_pos
          simp only [hstate, hdrop, StockPick.TakesExactly, htask,
            PickTask.soId?, htarget, Option.any_some, Option.isSome_none,
            Bool.false_eq_true, false_and, iff_false]
          omega
  | short request =>
      obtain ⟨⟨_, settled⟩, hpick, rfl⟩ := Except_map_eq_ok hserved
      obtain ⟨task, htask, -, -, hstate⟩ := shortPick_ok hpick
      simp only [StockPick.taken?, htask, Option.map_some, Option.some.injEq,
        Prod.mk.injEq] at htaken
      obtain ⟨rfl, rfl, rfl⟩ := htaken
      exact hfloor (by
        rw [hstate]
        exact (shortTask_spec ctx db task request.quantityAvailable _).2.2)
  | adminPick batchId seq line entry =>
      simp only [StockPick.taken?, Option.some.injEq, Prod.mk.injEq] at htaken
      obtain ⟨rfl, rfl, rfl⟩ := htaken
      simp only [StockPick.outcome, SalesOrders.applyAdminPick, bind_eq_ok,
        require_eq_ok, pure_eq_ok] at hserved
      obtain ⟨-, -, rfl⟩ := hserved
      have hsame : onHandAt (SalesOrders.writeAdminPick batchId seq line entry
            (takeAvailable ctx.now line.itemId entry.binId entry.quantity db))
            line.itemId entry.binId =
          onHandAt (takeAvailable ctx.now line.itemId entry.binId entry.quantity
            db) line.itemId entry.binId := onHandOver_congr rfl
      have hpos := entry.quantity_pos
      rw [hsame, onHandAt_takeAvailable, StockPick.TakesExactly, sub_sub_cancel]
      constructor
      · intro h
        have hone : ((SalesOrders.coveringRows db line.itemId entry.binId
            entry.quantity).length : ℤ) = 1 :=
          mul_right_cancel₀ hpos.ne' (h.trans (one_mul _).symm)
        exact_mod_cast hone
      · intro h
        simp [h]
  | shortage item warehouseId shortQty reasonDetail boSoNumber =>
      cases hfound : SalesOrders.shortAdjustment? db item warehouseId shortQty with
      | none => simp [StockPick.taken?, hfound] at htaken
      | some found =>
          simp only [StockPick.taken?, hfound, Option.map_some, Option.some.injEq,
            Prod.mk.injEq] at htaken
          obtain ⟨rfl, rfl, rfl⟩ := htaken
          simp only [StockPick.outcome, Except.ok.injEq] at hserved
          subst hserved
          exact hfloor (onHandAt_writeShortAdjustment hfound ..)

theorem onHandAt_drop_iff_waved :
    ∃ db',
      (StockPick.confirm (SmallWarehouse.confirm 1 5)).outcome
        (SmallWarehouse.pat 5) waved = .ok db' ∧
      (onHandAt waved 1 1 - onHandAt db' 1 1 = 5 ↔
        (StockPick.confirm (SmallWarehouse.confirm 1 5)).TakesExactly waved
          1 1 5) := by
  obtain ⟨db', hserved⟩ := exists_eq_ok
    ((StockPick.confirm (SmallWarehouse.confirm 1 5)).outcome
      (SmallWarehouse.pat 5) waved) (by decide)
  exact ⟨db', hserved, onHandAt_drop_iff hserved (by decide)⟩

/-- `UNIQUE(item_id, bin_id, lot_number)`; missing lot numbers are distinct. -/
def LotsUnique (db : Db) : Prop :=
  ∀ left ∈ db.inventory.rows, ∀ right ∈ db.inventory.rows,
    left.itemId = right.itemId → left.binId = right.binId →
      left.lotNumber = right.lotNumber → left.lotNumber ≠ none →
        left.inventoryId = right.inventoryId

instance (db : Db) : Decidable (LotsUnique db) :=
  inferInstanceAs (Decidable (∀ left ∈ db.inventory.rows, ∀ right ∈ db.inventory.rows, _))

/-- Two lots of five units in one bin, and a batch for three of them. -/
def lotted : Db :=
  SmallWarehouse.after
    [SmallWarehouse.receive 1 5 (some "L1"), SmallWarehouse.receive 1 5 (some "L2"),
      SmallWarehouse.order "S1" [SmallWarehouse.line 3],
      .createBatch (SmallWarehouse.batch ["S1"] [])]

/-- Confirming the three units takes three from each lot. -/
theorem onHandAt_drop_lotted :
    LotsUnique lotted ∧
    (StockPick.confirm (SmallWarehouse.confirm 1 3)).taken? lotted = some (1, 1, 3) ∧
    ((confirmPick (SmallWarehouse.pat 5) lotted (SmallWarehouse.confirm 1 3)).isOk) ∧
    onHandAt lotted 1 1 -
      onHandAt (committed lotted (confirmPick (SmallWarehouse.pat 5) lotted
        (SmallWarehouse.confirm 1 3))) 1 1 = 6 := by
  decide

end SentryWms.Picking
