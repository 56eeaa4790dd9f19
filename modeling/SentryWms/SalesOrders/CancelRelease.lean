import SentryWms.System

/-!
# What a cancellation releases

An order's reservation may stand on inventory rows, on pending tasks, or half
consumed by picks; the unwind of an open order finds it through the pending tasks
of its lines, and the other unwinds release nothing.  A cancellation gives back
the order's outstanding reservation exactly when the two agree.
-/

namespace SentryWms.SalesOrders

open Relational Inventory

/-! ## One order -/

/-- A line of an order after the unwind its order's status calls for. -/
def unwoundLine (status : SalesOrderStatus) (line : SalesOrderLine) : SalesOrderLine :=
  match status with
  | .soOpen =>
      if 0 < line.quantityAllocated then line.setAllocated 0 else line
  | .soPicked => if 0 < line.quantityPicked then line.unwindPicked else line
  | .soPacked => if 0 < line.quantityPicked then line.unwindPicked else line
  | _ => line

/-- What the unwind of an open order takes off the reservations of the places:
for each pending task of a reserving line, the task's quantity once for every
row of its bin. -/
def foundOver (places : Place → Bool) (db : Db) (order : SalesOrder) : ℤ :=
  match order.status with
  | .soOpen =>
      ((allocatedLines db order.soId).map fun line =>
        ((pendingTasksOf db line.soLineId).map fun task =>
          subtractedFrom places line.itemId task.binId task.quantityToPick db).sum).sum
  | _ => 0

/-- What the unwind puts back on hand of an item: the picked units of a picked or
packed order's lines, and nothing for another order. -/
def returnedOf (itemId : ℕ) (db : Db) (order : SalesOrder) : ℤ :=
  match order.status with
  | .soPicked | .soPacked =>
      ((pickedLines db order.soId).map fun line =>
        if line.itemId = itemId then line.quantityPicked else 0).sum
  | _ => 0

/-- An unfloored decrement asks the same of every state it leaves. -/
theorem subtractedFrom_subtractAllocated (places : Place → Bool)
    (itemId binId otherItem otherBin : ℕ) (qty otherQty : ℤ) (db : Db) :
    subtractedFrom places otherItem otherBin otherQty (subtractAllocated itemId binId qty db) =
      subtractedFrom places otherItem otherBin otherQty db := by
  simp only [subtractedFrom, subtractAllocated]
  exact Table.sum_update_same _ _ _ _ fun _ => rfl

theorem run_unwindTask (places : Place → Bool) (itemId : ℕ) (db : Db) (tasks : List PickTask) :
    allocatedOver places (run (unwindTask itemId) db tasks) =
        allocatedOver places db - (tasks.map fun task =>
          subtractedFrom places itemId task.binId task.quantityToPick db).sum ∧
      ∀ otherItem otherBin otherQty,
        subtractedFrom places otherItem otherBin otherQty (run (unwindTask itemId) db tasks) =
          subtractedFrom places otherItem otherBin otherQty db := by
  induction tasks generalizing db with
  | nil => simp [run]
  | cons task rest ih =>
      obtain ⟨htotal, hsame⟩ := ih (unwindTask itemId db task)
      have hasked : ∀ otherItem otherBin otherQty,
          subtractedFrom places otherItem otherBin otherQty (unwindTask itemId db task) =
            subtractedFrom places otherItem otherBin otherQty db :=
        fun _ _ _ => subtractedFrom_subtractAllocated ..
      constructor
      · simp only [hasked] at htotal
        refine htotal.trans ?_
        rw [unwindTask, allocatedOver_subtractAllocated, List.map_cons, List.sum_cons, sub_sub]
      · intro otherItem otherBin otherQty
        exact (hsame _ _ _).trans (hasked _ _ _)

theorem run_unwindTask_frame (itemId : ℕ) (db : Db) (tasks : List PickTask) :
    (run (unwindTask itemId) db tasks).salesOrderLines = db.salesOrderLines ∧
      (run (unwindTask itemId) db tasks).pickTasks = db.pickTasks ∧
      (run (unwindTask itemId) db tasks).salesOrders = db.salesOrders := by
  induction tasks generalizing db with
  | nil => exact ⟨rfl, rfl, rfl⟩
  | cons task rest ih => exact ih (unwindTask itemId db task)

theorem unwindLine_frame (db : Db) (line : SalesOrderLine) :
    (unwindLine db line).pickTasks = db.pickTasks ∧
      (unwindLine db line).salesOrders = db.salesOrders := by
  obtain ⟨-, htasks, horders⟩ := run_unwindTask_frame line.itemId db
    (pendingTasksOf db line.soLineId)
  exact ⟨htasks, horders⟩

theorem allocatedOver_unwindLines (places : Place → Bool) (db : Db) (lines : List SalesOrderLine) :
    allocatedOver places (run unwindLine db lines) =
      allocatedOver places db - (lines.map fun line =>
        ((pendingTasksOf db line.soLineId).map fun task =>
          subtractedFrom places line.itemId task.binId task.quantityToPick
            db).sum).sum := by
  induction lines generalizing db with
  | nil => simp [run]
  | cons line rest ih =>
      obtain ⟨htotal, hsame⟩ := run_unwindTask places line.itemId db
        (pendingTasksOf db line.soLineId)
      have hpending : ∀ k, pendingTasksOf (unwindLine db line) k =
          pendingTasksOf db k := fun k => by
        rw [pendingTasksOf, (unwindLine_frame db line).1]
        rfl
      have hasked : ∀ itemId binId qty,
          subtractedFrom places itemId binId qty (unwindLine db line) =
            subtractedFrom places itemId binId qty db := hsame
      have hhere : allocatedOver places (unwindLine db line) =
          allocatedOver places (run (unwindTask line.itemId) db
            (pendingTasksOf db line.soLineId)) := rfl
      refine (ih (unwindLine db line)).trans ?_
      simp only [hpending, hasked]
      rw [hhere, htotal, List.map_cons, List.sum_cons, sub_sub]

theorem unwindLines_rows (db : Db) (soId : ℕ) :
    (unwindLines db soId).salesOrderLines.rows =
      db.salesOrderLines.rows.map fun line =>
        if line.soId = soId then unwoundLine .soOpen line else line := by
  rw [unwindLines, run_lines_rows (SalesOrderLine.setAllocated 0)]
  · refine List.map_congr_left fun line hline => ?_
    have hvisited := Table.key_mem_select db.salesOrderLines
      (fun line => line.soId = soId ∧ 0 < line.quantityAllocated) hline
    rw [decide_eq_true_eq] at hvisited
    rw [allocatedLines, if_congr hvisited rfl rfl, unwoundLine, ite_and]
  · intro db line
    rw [unwindLine, updateLine_rows, (run_unwindTask_frame _ _ _).1]
  · exact fun _ => rfl
  · exact fun _ => rfl

theorem unwindPicked_rows (ctx : RequestContext) (receivingBinId warehouseId : ℕ)
    (db : Db) (soId : ℕ) :
    (run (unwindPickedLine ctx receivingBinId warehouseId) db
        (pickedLines db soId)).salesOrderLines.rows =
      db.salesOrderLines.rows.map fun line =>
        if line.soId = soId then unwoundLine .soPicked line else line := by
  rw [run_lines_rows SalesOrderLine.unwindPicked]
  · refine List.map_congr_left fun line hline => ?_
    have hvisited := Table.key_mem_select db.salesOrderLines
      (fun line => line.soId = soId ∧ 0 < line.quantityPicked) hline
    rw [decide_eq_true_eq] at hvisited
    rw [pickedLines, if_congr hvisited rfl rfl, unwoundLine, ite_and]
  · intro db line
    have hframe : (addInventory ctx.now line.itemId receivingBinId warehouseId
        line.quantityPicked none db).salesOrderLines = db.salesOrderLines := by
      unfold addInventory
      split <;> rfl
    rw [unwindPickedLine, updateLine_rows, hframe]
  · exact fun _ => rfl
  · exact fun _ => rfl

/-- Releasing reservations moves no stock. -/
theorem onHandOver_unwindLines (places : Place → Bool) (db : Db) (lines : List SalesOrderLine) :
    onHandOver places (run unwindLine db lines) = onHandOver places db := by
  apply run_unchanged
  intro db line
  have htasks : onHandOver places (run (unwindTask line.itemId) db
      (pendingTasksOf db line.soLineId)) = onHandOver places db :=
    run_unchanged (onHandOver places)
      (fun state task => onHandOver_subtractAllocated ..) db _
  exact htasks

theorem onHandOf_unwindPicked (ctx : RequestContext)
    (receivingBinId warehouseId : ℕ) (db : Db) (lines : List SalesOrderLine)
    (itemId : ℕ) :
    onHandOf (run (unwindPickedLine ctx receivingBinId warehouseId) db lines) itemId =
      onHandOf db itemId + (lines.map fun line =>
        if line.itemId = itemId then line.quantityPicked else 0).sum := by
  induction lines generalizing db with
  | nil => simp [run]
  | cons line rest ih =>
      have hline : onHandOf (unwindPickedLine ctx receivingBinId warehouseId db
          line) itemId = onHandOf db itemId +
            if line.itemId = itemId then line.quantityPicked else 0 :=
        onHandOf_addInventory ..
      rw [List.map_cons, List.sum_cons, ← add_assoc, ← hline]
      exact ih _

theorem unwoundLine_soId (status : SalesOrderStatus) (line : SalesOrderLine) :
    (unwoundLine status line).soId = line.soId := by
  unfold unwoundLine
  split <;> first | rfl | (split <;> rfl)

/-- An accepted unwind rewrites the order's lines, takes what it finds off the
reservations, and leaves the headers alone. -/
structure Unwound (order : SalesOrder) (before after : Db) : Prop where
  lines : after.salesOrderLines.rows = before.salesOrderLines.rows.map fun line =>
    if line.soId = order.soId then unwoundLine order.status line else line
  allocated : ∀ places, allocatedOver places after =
    allocatedOver places before - foundOver places before order
  onHand : ∀ itemId, onHandOf after itemId = onHandOf before itemId + returnedOf itemId before order
  orders : after.salesOrders = before.salesOrders

theorem unwindLines_frame (db : Db) (soId : ℕ) :
    (unwindLines db soId).salesOrders = db.salesOrders :=
  run_unchanged Db.salesOrders (fun db line => (unwindLine_frame db line).2) _ _

variable {db db' before after : Db} {order : SalesOrder} {ctx : RequestContext} {soId : ℕ}

theorem unwindAllocated_ok (hstatus : order.status = .soOpen)
    (hunwound : unwindAllocated db order.soId = .ok db') : Unwound order db db' := by
  simp only [unwindAllocated, deleteTasks, bind_eq_ok, require_eq_ok, pure_eq_ok] at hunwound
  obtain ⟨untasked, ⟨-, -, rfl⟩, rfl⟩ := hunwound
  refine ⟨?_, fun places => ?_, fun itemId => ?_, unwindLines_frame db order.soId⟩
  · rw [hstatus]
    exact unwindLines_rows db order.soId
  · have hlines := allocatedOver_unwindLines places db (allocatedLines db order.soId)
    rw [foundOver, hstatus]
    exact hlines
  · rw [returnedOf, hstatus, add_zero]
    exact onHandOver_unwindLines _ db (allocatedLines db order.soId)

theorem unwindPickedOrPacked_ok (hstatus : order.status = .soPicked ∨ order.status = .soPacked)
    (hunwound : unwindPickedOrPacked ctx db order.soId order.warehouseId =
      .ok db') : Unwound order db db' := by
  simp only [unwindPickedOrPacked, bind_eq_ok, orThrow_eq_ok, pure_eq_ok] at hunwound
  obtain ⟨receivingBinId, -, rfl⟩ := hunwound
  have hnone : ∀ places, foundOver places db order = 0 := by
    intro places
    cases hstatus with
    | inl hpicked => simp [foundOver, hpicked]
    | inr hpacked => simp [foundOver, hpacked]
  have hall : ∀ itemId, returnedOf itemId db order =
      ((pickedLines db order.soId).map fun line =>
        if line.itemId = itemId then line.quantityPicked else 0).sum := by
    intro itemId
    cases hstatus with
    | inl hpicked => simp [returnedOf, hpicked]
    | inr hpacked => simp [returnedOf, hpacked]
  refine ⟨?_, fun places => ?_, fun itemId => ?_, ?_⟩
  · have hsame : unwoundLine order.status = unwoundLine .soPicked := by
      cases hstatus with
      | inl hpicked => rw [hpicked]
      | inr hpacked =>
          rw [hpacked]
          rfl
    rw [hsame]
    exact unwindPicked_rows ctx receivingBinId order.warehouseId db order.soId
  · rw [hnone, sub_zero]
    refine run_unchanged (allocatedOver places) (fun db line => ?_) db (pickedLines db order.soId)
    exact allocatedOver_addInventory ..
  · rw [hall]
    exact onHandOf_unwindPicked ctx receivingBinId order.warehouseId db _ itemId
  · refine run_unchanged Db.salesOrders (fun db line => ?_) db (pickedLines db order.soId)
    simp only [unwindPickedLine, updateLine_salesOrders]
    unfold addInventory
    split <;> rfl

theorem unwindOrder_ok (hunwound : unwindOrder ctx db order = .ok db') : Unwound order db db' := by
  unfold unwindOrder at hunwound
  split at hunwound
  case h_1 hstatus => exact unwindAllocated_ok hstatus hunwound
  case h_2 hstatus => exact unwindPickedOrPacked_ok (Or.inl hstatus) hunwound
  case h_3 hstatus => exact unwindPickedOrPacked_ok (Or.inr hstatus) hunwound
  case h_4 hopen hpicked hpacked =>
      rw [pure_eq_ok] at hunwound
      subst hunwound
      refine ⟨?_, fun places => ?_, fun itemId => ?_, rfl⟩
      · simp [unwoundLine]
      · simp [foundOver]
      · simp [returnedOf]

/-- The unwind the order's status calls for has nothing to do: an open order
reserves nothing, a picked or packed one has nothing picked. -/
def Idle (db : Db) (order : SalesOrder) : Prop :=
  match order.status with
  | .soOpen => allocatedLines db order.soId = []
  | .soPicked => pickedLines db order.soId = []
  | .soPacked => pickedLines db order.soId = []
  | _ => True

theorem allocatedLines_eq_nil_iff :
    allocatedLines db soId = [] ↔
      ∀ line ∈ linesOf db soId, line.quantityAllocated ≤ 0 := by
  simp only [allocatedLines, Table.select, List.filter_eq_nil_iff, mem_linesOf,
    decide_eq_true_eq, not_and, not_lt, and_imp]

theorem pickedLines_eq_nil_iff :
    pickedLines db soId = [] ↔
      ∀ line ∈ linesOf db soId, line.quantityPicked ≤ 0 := by
  simp only [pickedLines, Table.select, List.filter_eq_nil_iff, mem_linesOf,
    decide_eq_true_eq, not_and, not_lt, and_imp]

/-- An order is idle when the unwind keeps the reservation of its lines. -/
theorem idle_iff :
    Idle db order ↔ ∀ line ∈ linesOf db order.soId,
      (unwoundLine order.status line).outstanding = line.outstanding := by
  have hreleased : ∀ line : SalesOrderLine,
      line.quantityAllocated ≤ 0 ↔
        (unwoundLine .soOpen line).outstanding = line.outstanding := by
    intro line
    by_cases hpos : 0 < line.quantityAllocated
    · simp only [unwoundLine, if_pos hpos, SalesOrderLine.setAllocated, SalesOrderLine.outstanding]
      omega
    · simp only [unwoundLine, if_neg hpos, iff_true]
      omega
  have hreturned : ∀ line : SalesOrderLine,
      line.quantityPicked ≤ 0 ↔
        (unwoundLine .soPicked line).outstanding = line.outstanding := by
    intro line
    by_cases hpos : 0 < line.quantityPicked
    · simp only [unwoundLine, if_pos hpos, SalesOrderLine.unwindPicked, SalesOrderLine.outstanding]
      omega
    · simp only [unwoundLine, if_neg hpos, iff_true]
      omega
  cases hstatus : order.status
  case soOpen =>
    simp only [Idle, hstatus, allocatedLines_eq_nil_iff, hreleased]
  case soPicked =>
    simp only [Idle, hstatus, pickedLines_eq_nil_iff, hreturned]
  case soPacked =>
    simp only [Idle, hstatus, pickedLines_eq_nil_iff, hreturned]
    rfl
  all_goals simp [Idle, hstatus, unwoundLine]

theorem foundOver_of_idle (hidle : Idle db order) (places : Place → Bool) :
    foundOver places db order = 0 := by
  unfold foundOver
  split
  case h_1 hstatus =>
    simp only [Idle, hstatus] at hidle
    simp [hidle]
  case h_2 => rfl

theorem returnedOf_of_idle (hidle : Idle db order) (itemId : ℕ) :
    returnedOf itemId db order = 0 := by
  unfold returnedOf
  split
  case h_1 hstatus =>
    simp only [Idle, hstatus] at hidle
    simp [hidle]
  case h_2 hstatus =>
    simp only [Idle, hstatus] at hidle
    simp [hidle]
  case h_3 => rfl

/-- What the rewritten rows say about the lines of each order. -/
theorem linesOf_of_rows {set : SalesOrderLine → SalesOrderLine}
    (hset : ∀ line, (set line).soId = line.soId)
    (hrows : after.salesOrderLines.rows = before.salesOrderLines.rows.map
      fun line => if line.soId = soId then set line else line) (other : ℕ) :
    linesOf after other =
      if other = soId then (linesOf before other).map set
      else linesOf before other := by
  simp only [linesOf, Table.select, hrows]
  induction before.salesOrderLines.rows with
  | nil => simp
  | cons line rest ih =>
      rw [List.map_cons, List.filter_cons, List.filter_cons, ih]
      by_cases hother : other = soId
      · subst hother
        by_cases howner : line.soId = other <;> simp [howner, hset]
      · by_cases howner : line.soId = soId
        · have hne : ¬ soId = other := fun h => hother h.symm
          simp [howner, hset, hne, hother]
        · by_cases hhere : line.soId = other <;> simp [howner, hhere, hother]

/-! ## The header and the cascade -/

/-- `cancel_sales_order` on one order, accepted. -/
structure CancelledOne (order : SalesOrder) (before after : Db) : Prop where
  stored : before.salesOrders.find? order.soId = some order
  unwound : ∃ middle, Unwound order before middle ∧ after.inventory = middle.inventory ∧
    after.salesOrderLines = middle.salesOrderLines
  orders : after.salesOrders =
    if order.status = .soCancelled then before.salesOrders
    else before.salesOrders.updateKey order.soId fun row =>
      { row with status := .soCancelled }

theorem emitEvent_frame (ctx : RequestContext) (eventType : EventType)
    (aggregateId warehouseId : ℕ) (db : Db) :
    (emitEvent ctx eventType aggregateId warehouseId db).inventory = db.inventory ∧
      (emitEvent ctx eventType aggregateId warehouseId db).salesOrderLines = db.salesOrderLines ∧
      (emitEvent ctx eventType aggregateId warehouseId db).salesOrders =
        db.salesOrders := by
  unfold emitEvent
  split <;> exact ⟨rfl, rfl, rfl⟩

theorem closeCancelled_frame (ctx : RequestContext) (order : SalesOrder) (db : Db) :
    (closeCancelled ctx order db).inventory = db.inventory ∧
      (closeCancelled ctx order db).salesOrderLines = db.salesOrderLines ∧
      (closeCancelled ctx order db).salesOrders =
        db.salesOrders.updateKey order.soId fun row =>
          { row with status := .soCancelled } := by
  unfold closeCancelled
  split
  · obtain ⟨hinventory, hlines, horders⟩ := emitEvent_frame ctx .backorderCancelled
      order.soId order.warehouseId (setOrderStatus order.soId .soCancelled db)
    exact ⟨hinventory, hlines, horders⟩
  · exact ⟨rfl, rfl, rfl⟩

theorem cancelOne_ok (hcancelled : cancelOne ctx db soId = .ok (db', order)) :
    order.soId = soId ∧ CancelledOne order db db' := by
  simp only [cancelOne, bind_eq_ok, orThrow_eq_ok, require_eq_ok] at hcancelled
  obtain ⟨stored, hstored, -, -, hrest⟩ := hcancelled
  have hkey := Table.find?_key hstored
  by_cases hdone : stored.status = .soCancelled
  · rw [if_pos hdone, pure_eq_ok] at hrest
    obtain ⟨rfl, rfl⟩ := Prod.mk.injEq .. ▸ hrest
    refine ⟨hkey, hkey ▸ hstored, ⟨db, ?_, rfl, rfl⟩, by rw [if_pos hdone]⟩
    refine ⟨?_, fun places => ?_, fun itemId => ?_, rfl⟩
    · simp [unwoundLine, hdone]
    · simp [foundOver, hdone]
    · simp [returnedOf, hdone]
  · rw [if_neg hdone] at hrest
    simp only [bind_eq_ok, pure_eq_ok, Prod.mk.injEq] at hrest
    obtain ⟨unwound, hunwound, rfl, rfl⟩ := hrest
    obtain ⟨hinventory, hlines, horders⟩ := closeCancelled_frame ctx stored unwound
    have hunwound := unwindOrder_ok hunwound
    refine ⟨hkey, hkey ▸ hstored, ⟨unwound, hunwound, hinventory, hlines⟩, ?_⟩
    rw [if_neg hdone, horders, hunwound.orders]

theorem CancelledOne.linesOf_eq (hcancelled : CancelledOne order before after) (other : ℕ) :
    linesOf after other =
      if other = order.soId then
        (linesOf before other).map (unwoundLine order.status)
      else linesOf before other := by
  obtain ⟨middle, hunwound, -, hlines⟩ := hcancelled.unwound
  refine linesOf_of_rows (unwoundLine_soId order.status) ?_ other
  rw [hlines, hunwound.lines]

theorem CancelledOne.allocated_eq (hcancelled : CancelledOne order before after)
    (places : Place → Bool) :
    allocatedOver places after =
      allocatedOver places before - foundOver places before order := by
  obtain ⟨middle, hunwound, hinventory, -⟩ := hcancelled.unwound
  rw [← hunwound.allocated, allocatedOver, allocatedOver, hinventory]

theorem CancelledOne.onHand_eq (hcancelled : CancelledOne order before after) (itemId : ℕ) :
    onHandOf after itemId =
      onHandOf before itemId + returnedOf itemId before order := by
  obtain ⟨middle, hunwound, hinventory, -⟩ := hcancelled.unwound
  rw [← hunwound.onHand, onHandOf, onHandOf, onHandOver, onHandOver, hinventory]

theorem Idle.congr (hlines : linesOf db' order.soId = linesOf db order.soId) :
    Idle db' order ↔ Idle db order := by
  rw [idle_iff, idle_iff, hlines]

/-- A header's status is only changed by its own cancellation. -/
theorem CancelledOne.find?_status (hcancelled : CancelledOne order before after)
    (hother : soId ≠ order.soId) :
    after.salesOrders.find? soId = before.salesOrders.find? soId := by
  rw [hcancelled.orders]
  split
  · rfl
  · rw [Table.find?_updateKey, if_neg hother]

theorem find?_stampReason (soId k : ℕ) (reason : String) (db : Db) :
    ((stampReason soId reason db).salesOrders.find? k).map SalesOrder.status =
      (db.salesOrders.find? k).map SalesOrder.status := by
  rw [stampReason, Table.find?_updateKey]
  split
  · rw [Option.map_map]
    rfl
  · rfl

/-- The cascade unwinds each backorder by the status it was found in; when they
are all idle it moves neither reservations nor stock. -/
theorem cancelBackorders_ok {children : List SalesOrder}
    (hnodup : (children.map SalesOrder.soId).Nodup) (hstored : ∀ child ∈ children,
      (db.salesOrders.find? child.soId).map SalesOrder.status =
        some child.status) (hcascade : cancelBackorders ctx children db = .ok db') :
    (∀ soId, soId ∉ children.map SalesOrder.soId → linesOf db' soId = linesOf db soId) ∧
    (∀ child ∈ children, linesOf db' child.soId =
      (linesOf db child.soId).map (unwoundLine child.status)) ∧
    ((∀ child ∈ children, Idle db child) →
      (∀ places, allocatedOver places db' = allocatedOver places db) ∧
      ∀ itemId, onHandOf db' itemId = onHandOf db itemId) := by
  induction children generalizing db with
  | nil =>
      obtain rfl : db = db' := by simpa [cancelBackorders] using hcascade
      simp
  | cons child rest ih =>
      simp only [cancelBackorders, bind_eq_ok] at hcascade
      obtain ⟨⟨cancelled, order⟩, hone, hrest⟩ := hcascade
      obtain ⟨hkey, hcancelled⟩ := cancelOne_ok hone
      rw [List.map_cons, List.nodup_cons] at hnodup
      have hstatus : order.status = child.status := by
        have hfound := find?_stampReason child.soId child.soId "parent_cancelled" db
        rw [hstored child List.mem_cons_self] at hfound
        have hstamped := hcancelled.stored
        rw [hkey] at hstamped
        rw [hstamped] at hfound
        exact Option.some.inj hfound
      have hlines := hcancelled.linesOf_eq
      have hsame : ∀ soId, linesOf (stampReason child.soId "parent_cancelled" db)
          soId = linesOf db soId := fun _ => rfl
      simp only [hsame, hkey, hstatus] at hlines
      have hdistinct : ∀ other ∈ rest, other.soId ≠ child.soId :=
        fun other hother h => hnodup.1 (h ▸ List.mem_map_of_mem hother)
      obtain ⟨hkept, hunwound, hidle⟩ := ih hnodup.2 (fun other hother => by
        rw [hcancelled.find?_status (hkey ▸ hdistinct other hother), find?_stampReason]
        exact hstored other (List.mem_cons_of_mem _ hother)) hrest
      refine ⟨?_, ?_, ?_⟩
      · intro soId hsoId
        rw [List.map_cons, List.mem_cons, not_or] at hsoId
        rw [hkept soId hsoId.2, hlines, if_neg hsoId.1]
      · intro other hother
        cases List.mem_cons.mp hother with
        | inl hhere =>
            subst hhere
            rw [hkept _ hnodup.1, hlines, if_pos rfl]
        | inr hlater =>
            rw [hunwound other hlater, hlines, if_neg (hdistinct other hlater)]
      · intro hall
        have hrestidle : ∀ other ∈ rest, Idle cancelled other := by
          intro other hother
          have hsamelines := hlines other.soId
          rw [if_neg (hdistinct other hother)] at hsamelines
          exact (Idle.congr hsamelines).mpr (hall other (List.mem_cons_of_mem _ hother))
        have hhere : Idle (stampReason child.soId "parent_cancelled" db) order := by
          have hchild := hall child List.mem_cons_self
          rw [idle_iff] at hchild ⊢
          rw [hkey, hstatus]
          exact hchild
        obtain ⟨hallocated, honHand⟩ := hidle hrestidle
        constructor
        · intro places
          rw [hallocated, hcancelled.allocated_eq, foundOver_of_idle hhere, sub_zero]
          rfl
        · intro itemId
          rw [honHand, hcancelled.onHand_eq, returnedOf_of_idle hhere, add_zero]
          rfl

/-! ## Releasing exactly the order's reservation -/

/-- The order's outstanding reservation of an item. -/
def reservationOf (db : Db) (soId itemId : ℕ) : ℤ :=
  (((linesOf db soId).filter fun line => line.itemId = itemId).map SalesOrderLine.outstanding).sum

/-- The reserved units of each of the order's items in its warehouse drop by
exactly its outstanding reservation, and no line of another order reserves more
or less than before. -/
structure ReleasesExactly (order : SalesOrder) (before after : Db) : Prop where
  items : ∀ line ∈ linesOf before order.soId,
    allocatedIn before line.itemId order.warehouseId -
        allocatedIn after line.itemId order.warehouseId =
      reservationOf before order.soId line.itemId
  others : ∀ soId, soId ≠ order.soId →
    (linesOf after soId).map SalesOrderLine.outstanding =
      (linesOf before soId).map SalesOrderLine.outstanding

/-- What the unwind finds of each of the order's items is what the order has
outstanding of it. -/
def FindsReservation (db : Db) (order : SalesOrder) : Prop :=
  ∀ line ∈ linesOf db order.soId,
    foundOver (itemInWarehouse line.itemId order.warehouseId) db order =
      reservationOf db order.soId line.itemId

/-- The backorders cancelled along with the order. -/
def cascadeOf (db : Db) (order : SalesOrder) : List SalesOrder :=
  if order.status = .soCancelled ∨ order.orderType = .backorder then []
  else (openBackorders db order.soId).filter fun child => child.soId ≠ order.soId

theorem openBackorders_cancelled (hcancelled : CancelledOne order before after)
    (hstatus : order.status ≠ .soCancelled) :
    openBackorders after order.soId =
      (openBackorders before order.soId).filter fun child =>
        child.soId ≠ order.soId := by
  rw [openBackorders, hcancelled.orders, if_neg hstatus, Table.select_updateKey_drop]
  · rfl
  · simp

/-- An accepted cancellation: the order, and then its cascade. -/
theorem cancelSalesOrder_ok {result : CancelledOrder}
    (hcancel : cancelSalesOrder ctx db soId = .ok (db', result)) :
    ∃ order middle, order.soId = soId ∧ CancelledOne order db middle ∧
      cancelBackorders ctx (cascadeOf db order) middle = .ok db' := by
  simp only [cancelSalesOrder, bind_eq_ok] at hcancel
  obtain ⟨⟨middle, order⟩, hone, hrest⟩ := hcancel
  obtain ⟨hkey, hcancelled⟩ := cancelOne_ok hone
  refine ⟨order, middle, hkey, hcancelled, ?_⟩
  by_cases hends : order.status = .soCancelled ∨ order.orderType = .backorder
  · rw [if_pos hends, pure_eq_ok, Prod.mk.injEq] at hrest
    rw [cascadeOf, if_pos hends, cancelBackorders]
    exact congrArg Except.ok hrest.1
  · rw [if_neg hends, bind_eq_ok] at hrest
    obtain ⟨cascaded, hcascade, hresult⟩ := hrest
    rw [pure_eq_ok, Prod.mk.injEq] at hresult
    obtain ⟨rfl, -⟩ := hresult
    rw [cascadeOf, if_neg hends,
      ← openBackorders_cancelled hcancelled fun h => hends (Or.inl h), hkey]
    exact hcascade

theorem cascadeOf_sublist (db : Db) (order : SalesOrder) :
    (cascadeOf db order).Sublist db.salesOrders.rows := by
  unfold cascadeOf
  split
  · exact List.nil_sublist _
  · exact List.filter_sublist.trans List.filter_sublist

theorem cascadeOf_distinct {child : SalesOrder} (hchild : child ∈ cascadeOf db order) :
    child.soId ≠ order.soId := by
  unfold cascadeOf at hchild
  split at hchild
  · simp at hchild
  · simpa using (List.mem_filter.mp hchild).2

/-- What an accepted cancellation does to the lines and the stock: the order and
the backorders it cascades to are unwound, and when those are idle, what is
released and returned is what the order's own unwind finds. -/
structure Cancelled (order : SalesOrder) (before after : Db) : Prop where
  kept : ∀ soId, soId ≠ order.soId → soId ∉ (cascadeOf before order).map SalesOrder.soId →
    linesOf after soId = linesOf before soId
  cascaded : ∀ child ∈ cascadeOf before order,
    linesOf after child.soId = (linesOf before child.soId).map (unwoundLine child.status)
  allocated : (∀ child ∈ cascadeOf before order, Idle before child) →
    ∀ places, allocatedOver places after =
      allocatedOver places before - foundOver places before order
  onHand : (∀ child ∈ cascadeOf before order, Idle before child) →
    ∀ itemId, onHandOf after itemId = onHandOf before itemId + returnedOf itemId before order

theorem cancelSalesOrder_cancelled {result : CancelledOrder}
    (horder : db.salesOrders.find? soId = some order)
    (hcancel : cancelSalesOrder ctx db soId = .ok (db', result)) :
    Cancelled order db db' := by
  obtain ⟨stored, middle, hkey, hone, hcascade⟩ := cancelSalesOrder_ok hcancel
  obtain rfl : stored = order := by
    have hstored := hone.stored
    rw [hkey, horder] at hstored
    exact (Option.some.inj hstored).symm
  have hnodup : ((cascadeOf db stored).map SalesOrder.soId).Nodup :=
    ((cascadeOf_sublist db stored).map _).nodup db.salesOrders.keys_nodup
  have hfound : ∀ child ∈ cascadeOf db stored,
      (middle.salesOrders.find? child.soId).map SalesOrder.status =
        some child.status := by
    intro child hchild
    have hmem := (cascadeOf_sublist db stored).subset hchild
    rw [hone.find?_status (cascadeOf_distinct hchild),
      Table.find?_eq_some_iff.mpr ⟨hmem, rfl⟩, Option.map_some]
  have hmiddle : ∀ soId, soId ≠ stored.soId →
      linesOf middle soId = linesOf db soId := by
    intro soId hother
    rw [hone.linesOf_eq, if_neg hother]
  have hidle : (∀ child ∈ cascadeOf db stored, Idle db child) →
      ∀ child ∈ cascadeOf db stored, Idle middle child :=
    fun hall child hchild =>
      (Idle.congr (hmiddle _ (cascadeOf_distinct hchild))).mpr (hall child hchild)
  obtain ⟨hkept, hunwound, htotal⟩ := cancelBackorders_ok hnodup hfound hcascade
  constructor
  · intro soId hother hchild
    rw [hkept soId hchild, hmiddle soId hother]
  · intro child hchild
    rw [hunwound child hchild, hmiddle _ (cascadeOf_distinct hchild)]
  · intro hall places
    rw [(htotal (hidle hall)).1, hone.allocated_eq]
  · intro hall itemId
    rw [(htotal (hidle hall)).2, hone.onHand_eq]

/-- The lines of the other orders keep what they observe exactly when the
backorders of the cascade do. -/
theorem Cancelled.others_iff (hcancelled : Cancelled order before after) {Value : Type}
    (view : SalesOrderLine → Value) :
    (∀ soId, soId ≠ order.soId → (linesOf after soId).map view = (linesOf before soId).map view) ↔
    ∀ child ∈ cascadeOf before order, ∀ line ∈ linesOf before child.soId,
      view (unwoundLine child.status line) = view line := by
  constructor
  · intro hsame child hchild
    have hlines := hsame child.soId (cascadeOf_distinct hchild)
    rw [hcancelled.cascaded child hchild, List.map_map] at hlines
    exact List.map_inj_left.mp hlines
  · intro hall soId hother
    by_cases hchild : soId ∈ (cascadeOf before order).map SalesOrder.soId
    · obtain ⟨child, hmem, rfl⟩ := List.mem_map.mp hchild
      rw [hcancelled.cascaded child hmem, List.map_map]
      exact List.map_inj_left.mpr (hall child hmem)
    · rw [hcancelled.kept soId hother hchild]

/-- An accepted cancellation drops the reserved units of each of the order's items
by exactly its outstanding reservation, with no other order's reservation
touched, if and only if the pending tasks account for the reservation and the
backorders it cascades to have nothing to unwind. -/
theorem cancel_releasesExactly_iff {ctx : RequestContext} {db db' : Db} {soId : ℕ}
    {order : SalesOrder} {result : CancelledOrder}
    (horder : db.salesOrders.find? soId = some order)
    (hcancel : cancelSalesOrder ctx db soId = .ok (db', result)) :
    ReleasesExactly order db db' ↔
      FindsReservation db order ∧ ∀ child ∈ cascadeOf db order, Idle db child := by
  have hcancelled := cancelSalesOrder_cancelled horder hcancel
  have hothers := hcancelled.others_iff SalesOrderLine.outstanding
  have hitems : (∀ child ∈ cascadeOf db order, Idle db child) → ∀ itemId,
      allocatedIn db itemId order.warehouseId - allocatedIn db' itemId order.warehouseId =
        foundOver (itemInWarehouse itemId order.warehouseId) db order := by
    intro hall itemId
    rw [allocatedIn, allocatedIn, hcancelled.allocated hall, sub_sub_cancel]
  constructor
  · rintro ⟨hdrops, hsame⟩
    have hall : ∀ child ∈ cascadeOf db order, Idle db child :=
      fun child hchild => idle_iff.mpr (hothers.mp hsame child hchild)
    refine ⟨fun line hline => ?_, hall⟩
    rw [← hitems hall]
    exact hdrops line hline
  · rintro ⟨hfinds, hall⟩
    refine ⟨fun line hline => ?_, hothers.mpr fun child hchild => idle_iff.mp (hall child hchild)⟩
    rw [hitems hall]
    exact hfinds line hline

/-- An order taken before its stock arrives, and batched once it has. -/
def batched : Db :=
  SmallWarehouse.after
    [SmallWarehouse.order "S1" [SmallWarehouse.line 3], SmallWarehouse.receive 1 5 none,
      .createBatch (SmallWarehouse.batch ["S1"] [])]

theorem cancel_releasesExactly_iff_batched :
    ∃ order db' result, cancelSalesOrder (SmallWarehouse.pat 4) batched 1 = .ok (db', result) ∧
      (ReleasesExactly order batched db' ↔
        FindsReservation batched order ∧
          ∀ child ∈ cascadeOf batched order, Idle batched child) := by
  obtain ⟨order, horder⟩ := Option.isSome_iff_exists.mp
    (show (batched.salesOrders.find? 1).isSome = true by decide)
  obtain ⟨⟨db', result⟩, hcancel⟩ := exists_eq_ok
    (cancelSalesOrder (SmallWarehouse.pat 4) batched 1) (by decide)
  exact ⟨order, db', result, hcancel, cancel_releasesExactly_iff horder hcancel⟩

/-- An order that reserves three of five units when it is taken. -/
def reserved : Db :=
  SmallWarehouse.after
    [SmallWarehouse.receive 1 5 none, SmallWarehouse.order "S1" [SmallWarehouse.line 3]]

/-- Cancelling the order leaves its three units reserved on the shelf: no task
leads the unwind to them. -/
theorem cancel_keeps_reserved :
    (cancelSalesOrder (SmallWarehouse.pat 3) reserved 1).isOk ∧
    reservationOf reserved 1 1 = 3 ∧ allocatedIn reserved 1 1 = 3 ∧
    allocatedIn (committed reserved
      (cancelSalesOrder (SmallWarehouse.pat 3) reserved 1)) 1 1 = 3 := by
  decide

end SentryWms.SalesOrders
