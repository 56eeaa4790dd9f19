import SentryWms.System

/-!
# Footprints

What a step may do to the short markers of the lines, to the batches and to the
`pick.confirmed` events.  A silent step leaves no marker and no event it did not
find; the statements, the batch reverts and the two ways of creating a batch are
shown to be silent here.
-/

namespace SentryWms.History

open Relational Inventory Picking

/-! ## Observations -/

/-- A `SHORT` task of the batch on the line. -/
def ShortIn (db : Db) (soLineId batchId : ℕ) : Prop :=
  ∃ task ∈ db.pickTasks.rows, task.status = .taskShort ∧
    task.soLineId? = some soLineId ∧ task.batchId = batchId

/-- A wave share of the line with a short quantity. -/
def ShareShort (db : Db) (soLineId : ℕ) : Prop :=
  ∃ share ∈ db.wavePickBreakdown.rows, share.soLineId = some soLineId ∧ 0 < share.shortQuantity

variable {db before after middle db' : Db} {ctx : RequestContext} {k : ℕ}

theorem hasShortMarker_iff {soLineId : ℕ} :
    hasShortMarker db soLineId = true ↔
      (∃ batchId, ShortIn db soLineId batchId) ∨ ShareShort db soLineId := by
  simp only [hasShortMarker, Bool.or_eq_true, List.any_eq_true,
    decide_eq_true_eq, ShortIn, ShareShort]
  constructor
  · rintro (⟨task, htask, hline, hshort⟩ | hshare)
    · exact Or.inl ⟨task.batchId, task, htask, hshort, hline, rfl⟩
    · exact Or.inr hshare
  · rintro (⟨batchId, task, htask, hshort, hline, -⟩ | hshare)
    · exact Or.inl ⟨task, htask, hline, hshort⟩
    · exact Or.inr hshare

/-- `sales_orders.status` of an order. -/
def orderStatusOf (db : Db) (soId : ℕ) : Option SalesOrderStatus :=
  (db.salesOrders.find? soId).map SalesOrder.status

/-- `pick_batches.status` of a batch. -/
def batchStatusOf (db : Db) (batchId : ℕ) : Option BatchStatus :=
  (db.pickBatches.find? batchId).map PickBatch.status

/-- The step cancels a batch that was open or in progress. -/
def Cancels (before after : Db) (batchId : ℕ) : Prop :=
  (∃ status, batchStatusOf before batchId = some status ∧ status.active = true) ∧
    batchStatusOf after batchId = some .batchCancelled

instance (before after : Db) (batchId : ℕ) : Decidable (Cancels before after batchId) :=
  decidable_of_iff
    ((batchStatusOf before batchId).any BatchStatus.active = true ∧
      batchStatusOf after batchId = some .batchCancelled)
    (and_congr_left' (Option.any_eq_true _ _))

/-- The `pick.confirmed` events of an order. -/
def confirmedEvents (db : Db) (soId : ℕ) : ℕ :=
  (db.integrationEvents.select fun event =>
    event.eventType = .pickConfirmed ∧ event.aggregateId = soId).length

/-! ## Quiet and silent steps -/

/-- The step leaves no short marker it did not find, moves a batch only to
`COMPLETED` or out of an active status, and leaves no `SHORT` task in a batch it
cancels. -/
structure Quiet (before after : Db) : Prop where
  shorts : ∀ soLineId batchId, ShortIn after soLineId batchId → ShortIn before soLineId batchId
  shares : ∀ soLineId, ShareShort after soLineId → ShareShort before soLineId
  batches : ∀ batchId status, batchStatusOf before batchId = some status →
    ∃ next, batchStatusOf after batchId = some next ∧
      (next = status ∨ status.active = true ∨ next = .batchCompleted)
  settled : ∀ soLineId batchId, Cancels before after batchId → ¬ ShortIn after soLineId batchId

/-- A quiet step that emits no `pick.confirmed`. -/
structure Silent (before after : Db) : Prop extends Quiet before after where
  events : ∀ soId, confirmedEvents after soId = confirmedEvents before soId

/-- A step that keeps every batch's status and marks no line short. -/
theorem Quiet.of_statuses
    (hkept : ∀ batchId status, batchStatusOf before batchId = some status →
      batchStatusOf after batchId = some status)
    (hshorts : ∀ soLineId batchId, ShortIn after soLineId batchId → ShortIn before soLineId batchId)
    (hshares : ∀ soLineId, ShareShort after soLineId →
      ShareShort before soLineId) : Quiet before after where
  shorts := hshorts
  shares := hshares
  batches := fun batchId status hstatus => ⟨status, hkept batchId status hstatus, Or.inl rfl⟩
  settled := fun _ batchId hcancels _ => by
    obtain ⟨⟨status, hstatus, hactive⟩, hcancelled⟩ := hcancels
    rw [hkept batchId status hstatus] at hcancelled
    rw [Option.some.inj hcancelled] at hactive
    cases hactive

theorem Quiet.of_batches (hbatches : after.pickBatches = before.pickBatches)
    (hshorts : ∀ soLineId batchId, ShortIn after soLineId batchId → ShortIn before soLineId batchId)
    (hshares : ∀ soLineId, ShareShort after soLineId →
      ShareShort before soLineId) : Quiet before after :=
  .of_statuses (fun batchId status hstatus => by
    rw [batchStatusOf, hbatches]
    exact hstatus) hshorts hshares

theorem Quiet.refl (db : Db) : Quiet db db :=
  .of_batches rfl (fun _ _ hshort => hshort) fun _ hshare => hshare

theorem Quiet.trans (hfirst : Quiet before middle) (hsecond : Quiet middle after) :
    Quiet before after where
  shorts := fun soLineId batchId hshort =>
    hfirst.shorts _ _ (hsecond.shorts soLineId batchId hshort)
  shares := fun soLineId hshare => hfirst.shares _ (hsecond.shares soLineId hshare)
  batches := fun batchId status hstatus => by
    obtain ⟨next, hnext, hmove⟩ := hfirst.batches batchId status hstatus
    obtain ⟨last, hlast, hmoved⟩ := hsecond.batches batchId next hnext
    refine ⟨last, hlast, ?_⟩
    rcases hmoved with rfl | hopen | hdone
    · exact hmove
    · rcases hmove with rfl | hactive | rfl
      · exact Or.inr (Or.inl hopen)
      · exact Or.inr (Or.inl hactive)
      · cases hopen
    · exact Or.inr (Or.inr hdone)
  settled := fun soLineId batchId hcancels hshort => by
    obtain ⟨⟨status, hstatus, hopen⟩, hcancelled⟩ := hcancels
    obtain ⟨next, hnext, -⟩ := hfirst.batches batchId status hstatus
    obtain ⟨last, hlast, hmoved⟩ := hsecond.batches batchId next hnext
    obtain rfl : .batchCancelled = last := by
      rw [hcancelled] at hlast
      exact Option.some.inj hlast
    rcases hmoved with rfl | hmiddle | hdone
    · exact hfirst.settled soLineId batchId ⟨⟨status, hstatus, hopen⟩, hnext⟩
        (hsecond.shorts _ _ hshort)
    · exact hsecond.settled soLineId batchId ⟨⟨next, hnext, hmiddle⟩, hcancelled⟩ hshort
    · cases hdone

theorem Silent.refl (db : Db) : Silent db db where
  toQuiet := Quiet.refl db
  events := fun _ => rfl

theorem Silent.trans (hfirst : Silent before middle) (hsecond : Silent middle after) :
    Silent before after where
  toQuiet := hfirst.toQuiet.trans hsecond.toQuiet
  events := fun soId => (hsecond.events soId).trans (hfirst.events soId)

/-- What all steps of a walk are, the walk is. -/
theorem silent_run {Input : Type} {step : Db → Input → Db}
    (hstep : ∀ db input, Silent db (step db input)) (db : Db)
    (inputs : List Input) : Silent db (run step db inputs) := by
  induction inputs generalizing db with
  | nil => exact Silent.refl db
  | cons input rest ih => exact (hstep db input).trans (ih _)

/-- The tables a footprint is read from. -/
structure SameTables (before after : Db) : Prop where
  tasks : after.pickTasks = before.pickTasks
  shares : after.wavePickBreakdown = before.wavePickBreakdown
  batches : after.pickBatches = before.pickBatches
  events : after.integrationEvents = before.integrationEvents

theorem SameTables.silent (hsame : SameTables before after) :
    Silent before after where
  toQuiet := by
    refine .of_batches hsame.batches (fun soLineId batchId hshort => ?_)
      fun soLineId hshare => ?_
    · rwa [ShortIn, hsame.tasks] at hshort
    · rwa [ShareShort, hsame.shares] at hshare
  events := fun soId => by rw [confirmedEvents, hsame.events]; rfl

/-! ## Statements -/

theorem silent_emitEvent {eventType : EventType} (hother : eventType ≠ .pickConfirmed)
    (aggregateId warehouseId : ℕ) (db : Db) :
    Silent db (emitEvent ctx eventType aggregateId warehouseId db) := by
  unfold emitEvent
  split
  · exact Silent.refl db
  · refine ⟨.of_batches rfl (fun _ _ hshort => hshort) fun _ hshare => hshare,
      fun soId => ?_⟩
    simp [confirmedEvents, Table.select, Table.insert, hother]

/-- A step that only touches the tasks, and marks no task `SHORT`. -/
theorem silent_of_tasks (hrest : after = { before with pickTasks := after.pickTasks })
    (hshorts : ∀ soLineId batchId, ShortIn after soLineId batchId →
      ShortIn before soLineId batchId) : Silent before after where
  toQuiet := by
    refine .of_batches (by rw [hrest]) hshorts fun soLineId hshare => ?_
    rwa [ShareShort, hrest] at hshare
  events := fun soId => by rw [confirmedEvents, hrest]; rfl

theorem silent_insertTask {make : ℕ → PickTask} (hkey : ∀ value, (make value).pickTaskId = value)
    (hstatus : ∀ value, (make value).status ≠ .taskShort) :
    Silent db { db with pickTasks := db.pickTasks.insert make hkey } := by
  refine silent_of_tasks rfl fun soLineId batchId hshort => ?_
  obtain ⟨task, htask, hmarked, hline, hbatch⟩ := hshort
  cases List.mem_append.mp htask with
  | inl hold => exact ⟨task, hold, hmarked, hline, hbatch⟩
  | inr hnew =>
      rw [List.mem_singleton.mp hnew] at hmarked
      exact absurd hmarked (hstatus _)

theorem silent_updateTask {set : PickTask → PickTask}
    (hset : ∀ task, (set task).pickTaskId = task.pickTaskId)
    (hstatus : ∀ task, (set task).status ≠ .taskShort) :
    Silent db { db with pickTasks := db.pickTasks.updateKey k set hset } := by
  refine silent_of_tasks rfl fun soLineId batchId hshort => ?_
  obtain ⟨task, htask, hmarked, hline, hbatch⟩ := hshort
  obtain ⟨row, hrow, rfl⟩ := List.mem_map.mp htask
  split at hmarked
  · exact absurd hmarked (hstatus row)
  · rename_i hother
    rw [if_neg hother] at hline hbatch
    exact ⟨row, hrow, hmarked, hline, hbatch⟩

theorem silent_setTaskStatus {status : TaskStatus} (hstatus : status ≠ .taskShort)
    (pickTaskId : ℕ) (db : Db) :
    Silent db (setTaskStatus pickTaskId status db) :=
  silent_updateTask _ fun _ => hstatus

theorem silent_deleteTasks {test : PickTask → Bool}
    (hdeleted : deleteTasks test db = .ok db') : Silent db db' := by
  simp only [deleteTasks, bind_eq_ok, require_eq_ok, pure_eq_ok] at hdeleted
  obtain ⟨-, -, rfl⟩ := hdeleted
  refine silent_of_tasks rfl fun soLineId batchId hshort => ?_
  obtain ⟨task, htask, hrest⟩ := hshort
  exact ⟨task, List.mem_of_mem_filter htask, hrest⟩

theorem sameTables_updateLine (k : Option ℕ) (set : SalesOrderLine → SalesOrderLine)
    (db : Db) (hset : ∀ line, (set line).soLineId = line.soLineId) :
    SameTables db (updateLine k set db hset) := by
  cases k <;> exact ⟨rfl, rfl, rfl, rfl⟩

theorem sameTables_addInventory (now itemId binId warehouseId : ℕ) (quantity : ℤ)
    (lotNumber : Option String) (db : Db) :
    SameTables db
      (addInventory now itemId binId warehouseId quantity lotNumber db) := by
  unfold addInventory
  split <;> exact ⟨rfl, rfl, rfl, rfl⟩

theorem silent_applyTakes (stamp : Option ℕ) (sign : ℤ) (db : Db)
    (takes : List (InventoryRow × ℤ)) :
    Silent db (applyTakes stamp sign db takes) := by
  refine silent_run (fun db take => ?_) db takes
  exact SameTables.silent ⟨rfl, rfl, rfl, rfl⟩

theorem silent_updateLine (k : Option ℕ) (set : SalesOrderLine → SalesOrderLine)
    (db : Db) (hset : ∀ line, (set line).soLineId = line.soLineId) :
    Silent db (updateLine k set db hset) :=
  (sameTables_updateLine k set db hset).silent

/-- Clearing a deleted line from its tasks and shares marks nothing. -/
theorem silent_deleteLine {soLineId : ℕ} (hdeleted : deleteLine soLineId db = .ok db') :
    Silent db db' := by
  simp only [deleteLine, bind_eq_ok, require_eq_ok, pure_eq_ok] at hdeleted
  obtain ⟨-, -, -, -, rfl⟩ := hdeleted
  refine ⟨.of_batches rfl (fun k batchId hshort => ?_) fun k hshare => ?_,
    fun _ => rfl⟩
  · obtain ⟨task, htask, hmarked, hline, hbatch⟩ := hshort
    obtain ⟨row, hrow, rfl⟩ := List.mem_map.mp htask
    rw [if_pos rfl] at hmarked hline hbatch
    have hkept : clearTaskLine soLineId row = row ∨
        (clearTaskLine soLineId row).soLineId? = none := by
      unfold clearTaskLine
      split
      · split
        · exact Or.inr rfl
        · exact Or.inl rfl
      · exact Or.inl rfl
      · exact Or.inl rfl
    cases hkept with
    | inl hsame => exact ⟨row, hrow, hsame ▸ hmarked, hsame ▸ hline, hsame ▸ hbatch⟩
    | inr hcleared =>
        rw [hcleared] at hline
        cases hline
  · obtain ⟨share, hshare, hline, hshort⟩ := hshare
    obtain ⟨row, hrow, rfl⟩ := List.mem_map.mp hshare
    split at hline
    · cases hline
    · rename_i hother
      rw [if_neg hother] at hshort
      exact ⟨row, hrow, hline, hshort⟩

/-! ## Batch reverts -/

theorem sameTables_releasePending (ctx : RequestContext) (task : PickTask)
    (db : Db) : SameTables db (releasePending ctx task db) := by
  unfold releasePending
  split <;> exact ⟨rfl, rfl, rfl, rfl⟩

theorem sameTables_restorePicked (ctx : RequestContext) (warehouseId : ℕ)
    (task : PickTask) (db : Db) :
    SameTables db (restorePicked ctx warehouseId task db) := by
  unfold restorePicked
  split
  · exact sameTables_addInventory ..
  · exact ⟨rfl, rfl, rfl, rfl⟩

theorem SameTables.trans (hfirst : SameTables before middle)
    (hsecond : SameTables middle after) : SameTables before after :=
  ⟨hsecond.tasks.trans hfirst.tasks, hsecond.shares.trans hfirst.shares,
    hsecond.batches.trans hfirst.batches, hsecond.events.trans hfirst.events⟩

theorem sameTables_undoTaskLine (task : PickTask) (db : Db) :
    SameTables db (undoTaskLine task db) := by
  unfold undoTaskLine
  split
  · exact sameTables_updateLine ..
  · exact ⟨rfl, rfl, rfl, rfl⟩

/-- Undoing a task sets it to a status that is no short marker; a task that is
not settled is left alone. -/
theorem undoTask_cases (ctx : RequestContext) (warehouseId : ℕ) (db : Db) (task : PickTask) :
    (settledBy task = false ∧ undoTask ctx warehouseId db task = db) ∨
    (settledBy task = true ∧ ∃ middle status, SameTables db middle ∧
      status ≠ .taskShort ∧ undoTask ctx warehouseId db task =
        setTaskStatus task.pickTaskId status middle) := by
  by_cases htarget : task.soId? = none
  · exact Or.inl ⟨by simp [settledBy, htarget], by simp [undoTask, htarget]⟩
  · cases hstatus : task.status with
    | taskPending =>
        refine Or.inr ⟨by simp [settledBy, htarget, hstatus],
          undoTaskLine task (releasePending ctx task db), .taskSkipped, ?_,
          by decide, by simp only [undoTask, htarget, if_false, hstatus]⟩
        exact (sameTables_releasePending ctx task db).trans (sameTables_undoTaskLine task _)
    | taskPicked =>
        refine Or.inr ⟨by simp [settledBy, htarget, hstatus],
          undoTaskLine task (restorePicked ctx warehouseId task db), .taskReleased,
          ?_, by decide, by simp only [undoTask, htarget, if_false, hstatus]⟩
        exact (sameTables_restorePicked ctx warehouseId task db).trans
          (sameTables_undoTaskLine task _)
    | taskShort =>
        refine Or.inr ⟨by simp [settledBy, htarget, hstatus],
          undoTaskLine task (restorePicked ctx warehouseId task db), .taskSkipped,
          ?_, by decide, by simp only [undoTask, htarget, if_false, hstatus]⟩
        exact (sameTables_restorePicked ctx warehouseId task db).trans
          (sameTables_undoTaskLine task _)
    | taskSkipped | taskReleased =>
        exact Or.inl ⟨by simp [settledBy, hstatus],
          by simp [undoTask, htarget, hstatus]⟩

theorem silent_undoTask (ctx : RequestContext) (warehouseId : ℕ) (db : Db)
    (task : PickTask) : Silent db (undoTask ctx warehouseId db task) := by
  rcases undoTask_cases ctx warehouseId db task with
    ⟨-, hsame⟩ | ⟨-, middle, status, hmiddle, hstatus, hstep⟩
  · rw [hsame]
    exact Silent.refl db
  · rw [hstep]
    exact hmiddle.silent.trans (silent_setTaskStatus hstatus _ middle)

/-- A task that is `SHORT` after the walk was so before, and is none of the
tasks the walk settled. -/
theorem short_of_run_undoTask {warehouseId : ℕ} {tasks : List PickTask}
    {short : PickTask} (hshort : short ∈ (run (undoTask ctx warehouseId) db tasks).pickTasks.rows)
    (hstatus : short.status = .taskShort) :
    short ∈ db.pickTasks.rows ∧ ∀ task ∈ tasks, settledBy task = true →
      short.pickTaskId ≠ task.pickTaskId := by
  induction tasks generalizing db with
  | nil => exact ⟨hshort, by simp⟩
  | cons task rest ih =>
      obtain ⟨hstored, hrest⟩ := ih hshort
      rcases undoTask_cases ctx warehouseId db task with
        ⟨hskipped, hsame⟩ | ⟨-, middle, status, hmiddle, hother, hstep⟩
      · rw [hsame] at hstored
        refine ⟨hstored, List.forall_mem_cons.mpr ⟨fun hsettled => ?_, hrest⟩⟩
        rw [hskipped] at hsettled
        cases hsettled
      · rw [hstep] at hstored
        obtain ⟨row, hrow, hset⟩ := List.mem_map.mp hstored
        rw [hmiddle.tasks] at hrow
        by_cases hkey : row.pickTaskId = task.pickTaskId
        · rw [if_pos (decide_eq_true hkey)] at hset
          rw [← hset] at hstatus
          exact absurd hstatus hother
        · rw [if_neg (by simpa using hkey)] at hset
          subst hset
          exact ⟨hrow, List.forall_mem_cons.mpr ⟨fun _ => hkey, hrest⟩⟩

theorem run_undoTask_batches (ctx : RequestContext) (warehouseId : ℕ) (db : Db)
    (tasks : List PickTask) :
    (run (undoTask ctx warehouseId) db tasks).pickBatches = db.pickBatches := by
  refine run_unchanged Db.pickBatches (fun db task => ?_) db tasks
  rcases undoTask_cases ctx warehouseId db task with
    ⟨-, hsame⟩ | ⟨-, middle, status, hmiddle, -, hstep⟩
  · rw [hsame]
  · rw [hstep]
    exact hmiddle.batches

theorem batchStatusOf_setBatchStatus (batchId k : ℕ) (status : BatchStatus) (db : Db) :
    batchStatusOf (setBatchStatus batchId status db) k =
      if k = batchId then (batchStatusOf db k).map fun _ => status
      else batchStatusOf db k := by
  rw [batchStatusOf, setBatchStatus, Table.find?_updateKey]
  split
  · rw [Option.map_map, batchStatusOf, Option.map_map]
    rfl
  · rfl

theorem silent_revertBatch {batch : PickBatch}
    (hstored : batchStatusOf db batch.batchId = some batch.status) :
    Silent db (revertBatch ctx db batch) := by
  unfold revertBatch
  split
  case isFalse => exact Silent.refl db
  case isTrue hactive =>
    set walked := run (undoTask ctx batch.warehouseId) db
      (tasksOf db batch.batchId) with hwalked
    have hsilent : Silent db walked := silent_run (silent_undoTask ctx _) db _
    have hbatches : ∀ k, batchStatusOf walked k = batchStatusOf db k := by
      intro k
      rw [batchStatusOf, hwalked, run_undoTask_batches]
      rfl
    refine ⟨⟨hsilent.shorts, hsilent.shares, fun k status hstatus => ?_,
      fun soLineId k hcancels hshort => ?_⟩, hsilent.events⟩
    · rw [batchStatusOf_setBatchStatus, hbatches, hstatus]
      by_cases hkey : k = batch.batchId
      · rw [if_pos hkey]
        refine ⟨.batchCancelled, rfl, Or.inr (Or.inl ?_)⟩
        rw [hkey, hstored] at hstatus
        rwa [← Option.some.inj hstatus]
      · rw [if_neg hkey]
        exact ⟨status, rfl, Or.inl rfl⟩
    · obtain ⟨task, htask, hmarked, hline, hbatch⟩ := hshort
      by_cases hkey : k = batch.batchId
      · obtain ⟨hmem, hnot⟩ := short_of_run_undoTask htask hmarked
        have hlisted : task ∈ tasksOf db batch.batchId :=
          List.mem_filter.mpr ⟨hmem, by simp [hbatch, hkey]⟩
        refine hnot task hlisted ?_ rfl
        have htarget : task.soId? ≠ none := by
          intro hnone
          cases htarget : task.target with
          | salesOrder soId soLineId => simp [PickTask.soId?, htarget] at hnone
          | transferOrder toId toLineId =>
              simp [PickTask.soLineId?, htarget] at hline
        simp [settledBy, htarget, hmarked]
      · obtain ⟨⟨status, hstatus, hopen⟩, hcancelled⟩ := hcancels
        rw [batchStatusOf_setBatchStatus, if_neg hkey, hbatches, hstatus,
          Option.some.injEq] at hcancelled
        rw [hcancelled] at hopen
        cases hopen

theorem batchStatusOf_revertBatch {batch : PickBatch} (hother : k ≠ batch.batchId) :
    batchStatusOf (revertBatch ctx db batch) k = batchStatusOf db k := by
  unfold revertBatch
  split
  · rw [batchStatusOf_setBatchStatus, if_neg hother]
    rw [batchStatusOf, run_undoTask_batches]
    rfl
  · rfl

theorem silent_revertBatches {batches : List PickBatch}
    (hnodup : (batches.map PickBatch.batchId).Nodup) (hstored : ∀ batch ∈ batches,
      batchStatusOf db batch.batchId = some batch.status) :
    Silent db (run (revertBatch ctx) db batches) := by
  induction batches generalizing db with
  | nil => exact Silent.refl db
  | cons batch rest ih =>
      rw [List.map_cons, List.nodup_cons] at hnodup
      have hfirst : Silent db (revertBatch ctx db batch) :=
        silent_revertBatch (hstored batch List.mem_cons_self)
      refine hfirst.trans (ih hnodup.2 fun other hother => ?_)
      have hne : other.batchId ≠ batch.batchId := fun h => hnodup.1 (h ▸ List.mem_map_of_mem hother)
      rw [batchStatusOf_revertBatch hne]
      exact hstored other (List.mem_cons_of_mem _ hother)

theorem silent_cancelPriorUserBatches (ctx : RequestContext) (db : Db)
    (warehouseId : ℕ) : Silent db (cancelPriorUserBatches ctx db warehouseId) := by
  refine silent_revertBatches ?_ fun batch hbatch => ?_
  · rw [priorUserBatches, ((orderBy_perm _ _).map _).nodup_iff]
    exact (List.filter_sublist.map _).nodup db.pickBatches.keys_nodup
  · have hmem := List.mem_of_mem_filter (mem_orderBy.mp hbatch)
    rw [batchStatusOf, Table.find?_eq_some_iff.mpr ⟨hmem, rfl⟩, Option.map_some]

/-! ## Creating batches -/

theorem silent_normalizeOrders (now warehouseId : ℕ) (db : Db) (orders : List SalesOrder) :
    Silent db (normalizeOrders now warehouseId db orders) := by
  refine silent_run (fun db order => ?_) db orders
  refine silent_run (fun db line => ?_) db _
  exact (silent_applyTakes _ _ db _).trans (silent_updateLine ..)

/-- A stored batch is not the one an insert adds. -/
theorem find?_insertBatch {make : ℕ → PickBatch}
    (hkey : ∀ value, (make value).batchId = value) {status : BatchStatus}
    (hstatus : batchStatusOf db k = some status) :
    ((db.pickBatches.insert make hkey).find? k).map PickBatch.status =
      some status := by
  have hne : k ≠ db.pickBatches.nextKey := by
    rintro rfl
    rw [batchStatusOf, Table.find?_nextKey] at hstatus
    cases hstatus
  rw [Table.find?_insert, if_neg hne]
  exact hstatus

theorem silent_openBatch (ctx : RequestContext) (warehouseId : ℕ) (db : Db) :
    Silent db (openBatch ctx warehouseId db) := by
  refine ⟨.of_statuses (fun k status hstatus => ?_) (fun _ _ hshort => hshort)
    fun _ hshare => hshare, fun _ => rfl⟩
  exact find?_insertBatch (fun _ => rfl) hstatus

theorem sameTables_addBatchOrders {batchId : ℕ} {orders : List (SalesOrder × String)}
    (hlisted : addBatchOrders batchId orders db = .ok db') : SameTables db db' := by
  induction orders generalizing db with
  | nil =>
      obtain rfl : db = db' := by simpa [addBatchOrders] using hlisted
      exact ⟨rfl, rfl, rfl, rfl⟩
  | cons order rest ih =>
      obtain ⟨listed, hfirst, hrest⟩ := bind_eq_ok.mp hlisted
      simp only [addBatchOrder, bind_eq_ok, require_eq_ok, pure_eq_ok] at hfirst
      obtain ⟨-, -, rfl⟩ := hfirst
      refine SameTables.trans ?_ (ih hrest)
      exact ⟨rfl, rfl, rfl, rfl⟩

theorem silent_setBatchTotals (batchId totalOrders : ℕ) (db : Db) :
    Silent db (setBatchTotals batchId totalOrders db) := by
  refine ⟨.of_statuses (fun k status hstatus => ?_) (fun _ _ hshort => hshort)
    fun _ hshare => hshare, fun _ => rfl⟩
  rw [batchStatusOf, setBatchTotals, Table.find?_updateKey]
  split
  · rw [Option.map_map]
    exact hstatus
  · exact hstatus

theorem silent_allocateOrders (batchId warehouseId : ℕ) (db : Db)
    (orders : List (SalesOrder × String)) :
    Silent db (allocateOrders batchId warehouseId db orders) := by
  refine silent_run (fun db order => ?_) db orders
  refine silent_run (fun db line => ?_) db _
  refine silent_run (fun db take => ?_) db _
  have hreserved : SameTables db (updateLine (some line.soLineId)
      (SalesOrderLine.addAllocated take.2)
      (addAllocated none take.2 take.1.inventoryId db) fun _ => rfl) := by
    refine SameTables.trans ?_ (sameTables_updateLine ..)
    exact ⟨rfl, rfl, rfl, rfl⟩
  exact hreserved.silent.trans
    (silent_insertTask (fun _ => rfl) fun _ hstatus => by cases hstatus)

theorem silent_createPickBatch {request : CreateBatchRequest} {created : CreatedBatch}
    (hcreated : createPickBatch ctx db request = .ok (db', created)) :
    Silent db db' := by
  simp only [createPickBatch, bind_eq_ok, require_eq_ok, pure_eq_ok, Prod.mk.injEq] at hcreated
  obtain ⟨orders, -, -, -, -, -, listed, hlisted, rfl, -⟩ := hcreated
  exact (silent_cancelPriorUserBatches ctx db request.warehouseId).trans
    ((silent_normalizeOrders ..).trans
      ((silent_openBatch ..).trans
        ((sameTables_addBatchOrders hlisted).silent.trans
          ((silent_allocateOrders ..).trans (silent_setBatchTotals ..)))))

/-! ## Creating waves -/

theorem silent_writeShare (pickTaskId : ℕ) (db : Db) (share : Contribution × ℤ) :
    Silent db (writeShare pickTaskId db share) := by
  refine Silent.trans ?_ (silent_updateLine ..)
  refine ⟨.of_batches rfl (fun _ _ hshort => hshort) fun soLineId hshare => ?_,
    fun _ => rfl⟩
  obtain ⟨row, hrow, hline, hshort⟩ := hshare
  cases List.mem_append.mp hrow with
  | inl hold => exact ⟨row, hold, hline, hshort⟩
  | inr hnew =>
      rw [List.mem_singleton.mp hnew] at hshort
      exact absurd hshort (lt_irrefl 0)

theorem silent_allocateWaveTakes (batchId : ℕ) (first : Contribution)
    (state : Db × List Contribution) (takes : List (InventoryRow × ℤ)) :
    Silent state.1 (run (allocateWaveTake batchId first) state takes).1 := by
  induction takes generalizing state with
  | nil => exact Silent.refl state.1
  | cons take rest ih =>
      have hreserved : SameTables state.1
          (addAllocated none take.2 take.1.inventoryId state.1) :=
        ⟨rfl, rfl, rfl, rfl⟩
      refine Silent.trans ?_ (ih (allocateWaveTake batchId first state take))
      exact hreserved.silent.trans
        ((silent_insertTask (fun _ => rfl) fun _ hstatus => by cases hstatus).trans
          (silent_run (silent_writeShare _) _ _))

theorem silent_allocateWave (batchId : ℕ) (db : Db)
    (groups : List ((ℕ × List Contribution) × List InventoryRow)) :
    Silent db (allocateWave batchId db groups) := by
  refine silent_run (fun db group => ?_) db groups
  unfold allocateWaveItem
  split
  · exact Silent.refl db
  · exact silent_allocateWaveTakes batchId _ (db, _) _

theorem silent_waveCreate {request : WaveCreateRequest} {created : CreatedWave}
    (hcreated : waveCreate ctx db request = .ok (db', created)) : Silent db db' := by
  simp only [waveCreate, bind_eq_ok, require_eq_ok, pure_eq_ok, Prod.mk.injEq] at hcreated
  obtain ⟨-, -, -, -, orders, -, -, -, -, -, listed, hlisted, rfl, -⟩ := hcreated
  exact (silent_cancelPriorUserBatches ctx db request.warehouseId).trans
    ((silent_normalizeOrders ..).trans
      ((silent_openBatch ..).trans
        ((sameTables_addBatchOrders hlisted).silent.trans
          ((silent_allocateWave ..).trans (silent_setBatchTotals ..)))))

theorem silent_committed {Result : Type} {outcome : Except ServiceError (Db × Result)}
    (hserved : ∀ db' result, outcome = .ok (db', result) → Silent db db') :
    Silent db (committed db outcome) :=
  committed_cases (Silent.refl db) hserved

theorem silent_createWaveRoute (ctx : RequestContext) (db : Db) (request : WaveCreateRequest) :
    Silent db (createWaveRoute ctx db request) := by
  unfold createWaveRoute
  split
  case h_1 created result hcreated => exact silent_waveCreate hcreated
  case h_2 soNumber batchId hcollision =>
    split
    case h_1 reverted hstale =>
      have hreverted : Silent db reverted := by
        unfold cancelStaleSelfBatch at hstale
        split at hstale
        case h_1 => cases hstale
        case h_2 batch hbatch =>
          split at hstale
          · obtain rfl := Option.some.inj hstale
            refine silent_revertBatch ?_
            rw [batchStatusOf, Table.find?_key hbatch, hbatch, Option.map_some]
          · cases hstale
      exact hreverted.trans (silent_committed fun _ _ => silent_waveCreate)
    case h_2 => exact Silent.refl db
  case h_3 => exact Silent.refl db

end SentryWms.History
