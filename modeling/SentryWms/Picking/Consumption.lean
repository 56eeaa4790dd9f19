import Mathlib.Data.Fintype.Basic
import SentryWms.History.Footprint
import SentryWms.Picking.Conservation
import SentryWms.Relational.Sessions

/-!
# A task is consumed once

Confirming, shorting, reverting and completing, statement by statement, with the row
locks on the tasks.  Both picks read the status of their task before they lock its row,
and do not read it again; the revert reads its tasks under the lock.  A log of the tasks
each commit settles says how often a task was consumed.
-/

namespace SentryWms.Picking

open Relational Sessions Inventory History

/-! ## The transactions -/

/-- The floor, and the task of every settlement so far. -/
structure PickFloor where
  db : Db
  consumed : List ℕ

inductive TaskRequest
  | confirm (request : ConfirmPickRequest)
  | short (request : ShortPickRequest)
  | revert (batchId : ℕ)
  | complete (batchId : ℕ)

structure TaskCall where
  ctx : RequestContext
  request : TaskRequest

/-- The next statement, with what the earlier ones have found. -/
inductive TaskMemory
  | start
  | loaded (task : PickTask)
  | updated (task : PickTask)
  | found (batch : PickBatch)
  | holding (batch : PickBatch) (tasks : List PickTask)
  | counted (batch : PickBatch)

/-- The tasks whose rows the transaction has locked. -/
def TaskMemory.holds : TaskMemory → ℕ → Bool
  | .updated task => fun pickTaskId => pickTaskId = task.pickTaskId
  | .holding _ tasks => fun pickTaskId => pickTaskId ∈ tasks.map PickTask.pickTaskId
  | _ => fun _ => false

inductive TaskAnswer
  | settled (pickTaskId : ℕ)
  | reverted (batchId : ℕ)
  | unchanged (batchId : ℕ)
  | completed (batchId : ℕ)
  | refused (error : ServiceError)
  deriving DecidableEq, Repr

abbrev TaskOutcome := Outcome PickFloor TaskMemory TaskAnswer

/-- `UPDATE pick_tasks`, behind the lock on the row. -/
def lockTask (isLocked : ℕ → Bool) (task : PickTask) : TaskOutcome :=
  if isLocked task.pickTaskId then .wait else .proceed (.updated task)

def settleWith (floor : PickFloor) (task : PickTask)
    (settled : Except ServiceError Db) : TaskOutcome :=
  match settled with
  | .error error => .rollback (.refused error)
  | .ok db =>
      .commit ⟨db, task.pickTaskId :: floor.consumed⟩ (.settled task.pickTaskId)

/-- `confirm_pick`: the read, the update of the task, and the rest. -/
def confirmStatement (ctx : RequestContext) (request : ConfirmPickRequest) :
    TaskMemory → (ℕ → Bool) → PickFloor → TaskOutcome
  | .start, _, floor =>
      match loadPendingTask floor.db request.pickTaskId with
      | .error error => .rollback (.refused error)
      | .ok task =>
          if request.quantityPicked ≤ task.quantityToPick then .proceed (.loaded task)
          else .rollback (.refused (.valueError
            s!"Cannot pick {request.quantityPicked} - task only requires {task.quantityToPick}"))
  | .loaded task, isLocked, floor =>
      match floor.db.items.find? task.itemId with
      | none => .rollback (.refused (.runtimeError "item row missing"))
      | some item =>
          if barcodeMatches request.scannedBarcode item then lockTask isLocked task
          else .rollback (.refused (.barcodeError s!"Wrong item scanned. Expected SKU: {item.sku}"))
  | .updated task, _, floor =>
      settleWith floor task (settleConfirmed ctx task request.quantityPicked
        (recordPick task.pickTaskId .taskPicked request.quantityPicked floor.db))
  | _, _, _ => .wait

/-- `short_pick`. -/
def shortStatement (ctx : RequestContext) (request : ShortPickRequest) :
    TaskMemory → (ℕ → Bool) → PickFloor → TaskOutcome
  | .start, _, floor =>
      match loadPendingTask floor.db request.pickTaskId with
      | .error error => .rollback (.refused error)
      | .ok task =>
          if request.quantityAvailable ≤ task.quantityToPick then .proceed (.loaded task)
          else .rollback (.refused (.valueError
            s!"Available quantity {request.quantityAvailable} exceeds task requirement {task.quantityToPick} - use confirm instead"))
  | .loaded task, isLocked, _ => lockTask isLocked task
  | .updated task, _, floor =>
      settleWith floor task (settleShorted ctx task request.quantityAvailable
        (recordPick task.pickTaskId .taskShort request.quantityAvailable floor.db))
  | _, _, _ => .wait

/-- `full_revert_batch`: the status of the batch, its tasks `FOR UPDATE`, and the loop. -/
def revertStatement (ctx : RequestContext) (batchId : ℕ) :
    TaskMemory → (ℕ → Bool) → PickFloor → TaskOutcome
  | .start, _, floor =>
      match floor.db.pickBatches.find? batchId with
      | none => .rollback (.refused (.valueError s!"Batch {batchId} not found"))
      | some batch =>
          if batch.status.active then .proceed (.found batch)
          else .rollback (.unchanged batchId)
  | .found batch, isLocked, floor =>
      let tasks := tasksOf floor.db batch.batchId
      if tasks.any fun task => isLocked task.pickTaskId then .wait
      else .proceed (.holding batch tasks)
  | .holding batch tasks, _, floor =>
      .commit
        { db := setBatchStatus batch.batchId .batchCancelled
            (run (undoTask ctx batch.warehouseId) floor.db tasks)
          consumed := (tasks.filter settledBy).map PickTask.pickTaskId ++ floor.consumed }
        (.reverted batch.batchId)
  | _, _, _ => .wait

/-- `complete_batch`: the two guards, and the rest. -/
def completeStatement (ctx : RequestContext) (batchId : ℕ) :
    TaskMemory → (ℕ → Bool) → PickFloor → TaskOutcome
  | .start, _, floor =>
      match floor.db.pickBatches.find? batchId with
      | none => .rollback (.refused (.valueError "Batch not found"))
      | some batch => .proceed (.found batch)
  | .found batch, _, floor =>
      let pending := pendingCount floor.db batchId
      if pending = 0 then .proceed (.counted batch)
      else .rollback (.refused
        (.valueError s!"Cannot complete batch - {pending} tasks still pending"))
  | .counted _, _, floor =>
      let short := silentlyShortIn floor.db batchId
      if short = [] then
        .commit { floor with db := finishBatch ctx floor.db batchId } (.completed batchId)
      else .rollback (.refused (.valueError (silentlyShortMessage floor.db short)))
  | _, _, _ => .wait

def taskStatement (call : TaskCall) : TaskMemory → (ℕ → Bool) → PickFloor → TaskOutcome :=
  match call.request with
  | .confirm request => confirmStatement call.ctx request
  | .short request => shortStatement call.ctx request
  | .revert batchId => revertStatement call.ctx batchId
  | .complete batchId => completeStatement call.ctx batchId

def taskProgram : Program PickFloor TaskCall TaskMemory ℕ TaskAnswer where
  start := fun _ => .start
  holds := fun _ => TaskMemory.holds
  statement := taskStatement
  start_holds := fun _ _ => rfl

/-! ## What a commit settles -/

/-- The tasks the next commit settles. -/
def TaskMemory.settles : TaskMemory → List ℕ
  | .updated task => [task.pickTaskId]
  | .holding _ tasks => (tasks.filter settledBy).map PickTask.pickTaskId
  | _ => []

/-- The task rows after a settlement: those settled are pending no more, the others are
as they were. -/
structure Settles (ids : List ℕ) (before after : Db) : Prop where
  settled : ∀ pickTaskId ∈ ids, ∀ task, after.pickTasks.find? pickTaskId = some task →
    task.status ≠ .taskPending
  others : ∀ pickTaskId, pickTaskId ∉ ids →
    after.pickTasks.find? pickTaskId = before.pickTasks.find? pickTaskId

variable {before after : Db} {task : PickTask}

theorem Settles.of_same (hsame : after.pickTasks = before.pickTasks) :
    Settles [] before after where
  settled := nofun
  others := fun _ _ => by rw [hsame]

variable {status : TaskStatus} {middle : Db} {ctx : RequestContext} {quantity : ℤ}
  {pickTaskId : ℕ} {call : TaskCall}

theorem settles_recordPick (hstatus : status ≠ .taskPending) (quantity : ℤ)
    (hafter : after.pickTasks = (recordPick task.pickTaskId status quantity before).pickTasks) :
    Settles [task.pickTaskId] before after where
  settled := by
    intro pickTaskId hmem found hfound
    obtain rfl := List.mem_singleton.mp hmem
    rw [hafter, recordPick, Table.find?_updateKey, if_pos rfl] at hfound
    obtain ⟨old, -, rfl⟩ := Option.map_eq_some_iff.mp hfound
    exact hstatus
  others := by
    intro pickTaskId hother
    rw [hafter, recordPick, Table.find?_updateKey,
      if_neg fun hsame => hother (List.mem_singleton.mpr hsame)]

/-- Undoing a task settles it, or leaves the tasks alone. -/
theorem settles_undoTask (ctx : RequestContext) (warehouseId : ℕ) (db : Db) (task : PickTask) :
    Settles (if settledBy task then [task.pickTaskId] else []) db
      (undoTask ctx warehouseId db task) := by
  have hset : ∀ {status : TaskStatus} {middle : Db}, status ≠ .taskPending →
      SameTables db middle →
        Settles [task.pickTaskId] db (setTaskStatus task.pickTaskId status middle) := by
    intro status middle hstatus hmiddle
    constructor
    · intro pickTaskId hmem found hfound
      obtain rfl := List.mem_singleton.mp hmem
      rw [setTaskStatus, Table.find?_updateKey, if_pos rfl] at hfound
      obtain ⟨old, -, rfl⟩ := Option.map_eq_some_iff.mp hfound
      exact hstatus
    · intro pickTaskId hother
      rw [setTaskStatus, Table.find?_updateKey,
        if_neg fun hsame => hother (List.mem_singleton.mpr hsame), hmiddle.tasks]
  by_cases htarget : task.soId? = none
  · have hsettled : settledBy task = false := by simp [settledBy, htarget]
    rw [hsettled, undoTask, if_pos htarget]
    exact Settles.of_same rfl
  · rw [undoTask, if_neg htarget]
    cases hstatus : task.status with
    | taskPending =>
        rw [if_pos (by simp [settledBy, htarget, hstatus])]
        exact hset (by decide) ((sameTables_releasePending ctx task db).trans
          (sameTables_undoTaskLine task _))
    | taskPicked | taskShort =>
        rw [if_pos (by simp [settledBy, htarget, hstatus])]
        exact hset (by decide) ((sameTables_restorePicked ctx warehouseId task db).trans
          (sameTables_undoTaskLine task _))
    | taskSkipped | taskReleased =>
        rw [if_neg (by simp [settledBy, hstatus])]
        exact Settles.of_same rfl

theorem Settles.trans {first second : List ℕ} (hfirst : Settles first before middle)
    (hsecond : Settles second middle after) :
    Settles (first ++ second) before after where
  settled := by
    intro pickTaskId hmem task htask
    by_cases hlater : pickTaskId ∈ second
    · exact hsecond.settled pickTaskId hlater task htask
    · rw [hsecond.others pickTaskId hlater] at htask
      exact hfirst.settled pickTaskId ((List.mem_append.mp hmem).resolve_right hlater) task htask
  others := by
    intro pickTaskId hother
    rw [List.mem_append, not_or] at hother
    rw [hsecond.others pickTaskId hother.2, hfirst.others pickTaskId hother.1]

theorem settles_undoTasks (ctx : RequestContext) (warehouseId : ℕ) (tasks : List PickTask)
    (db : Db) :
    Settles ((tasks.filter settledBy).map PickTask.pickTaskId) db
      (run (undoTask ctx warehouseId) db tasks) := by
  induction tasks generalizing db with
  | nil => exact Settles.of_same rfl
  | cons task rest ih =>
      have hstep := (settles_undoTask ctx warehouseId db task).trans
        (ih (undoTask ctx warehouseId db task))
      by_cases hsettled : settledBy task
      · rw [List.filter_cons_of_pos hsettled, List.map_cons]
        rw [if_pos hsettled] at hstep
        exact hstep
      · rw [List.filter_cons_of_neg hsettled]
        rw [if_neg hsettled] at hstep
        exact hstep

/-- Tasks that are all settled are left alone. -/
theorem run_undoTask_idle {warehouseId : ℕ} {tasks : List PickTask} {db : Db}
    (hnone : tasks.filter settledBy = []) :
    run (undoTask ctx warehouseId) db tasks = db := by
  induction tasks with
  | nil => rfl
  | cons task rest ih =>
      rw [List.filter_eq_nil_iff] at hnone
      have hthis : settledBy task = false := by
        simpa using hnone task List.mem_cons_self
      have hsame : undoTask ctx warehouseId db task = db := by
        rcases undoTask_cases ctx warehouseId db task with ⟨-, hsame⟩ | ⟨hsettled, -⟩
        · exact hsame
        · rw [hthis] at hsettled
          cases hsettled
      change run (undoTask ctx warehouseId) (undoTask ctx warehouseId db task) rest = db
      rw [hsame]
      exact ih (List.filter_eq_nil_iff.mpr
        fun other hother => hnone other (List.mem_cons_of_mem _ hother))

theorem settleConfirmed_pickTasks
    (hsettled : settleConfirmed ctx task quantity before = .ok after) :
    after.pickTasks = before.pickTasks := by
  cases htarget : task.target with
  | salesOrder soId soLineId =>
      simp only [settleConfirmed, htarget, pure_eq_ok] at hsettled
      rw [← hsettled]
      exact creditConfirmed_pickTasks ..
  | transferOrder toId toLineId =>
      simp only [settleConfirmed, htarget, bind_eq_ok, pure_eq_ok,
        TransferOrders.updateTransferOrderLinePicked] at hsettled
      obtain ⟨credited, ⟨-, -, line, -, rfl⟩, rfl⟩ := hsettled
      rfl

/-- The stock, the lines and the tasks: what a settlement may move. -/
structure SameFloor (before after : Db) : Prop where
  inventory : after.inventory = before.inventory
  lines : after.salesOrderLines = before.salesOrderLines
  tasks : after.pickTasks = before.pickTasks

theorem SameFloor.refl (db : Db) : SameFloor db db := ⟨rfl, rfl, rfl⟩

theorem SameFloor.trans (hfirst : SameFloor before middle)
    (hsecond : SameFloor middle after) : SameFloor before after where
  inventory := hsecond.inventory.trans hfirst.inventory
  lines := hsecond.lines.trans hfirst.lines
  tasks := hsecond.tasks.trans hfirst.tasks

theorem sameFloor_run {Input : Type} {step : Db → Input → Db}
    (hstep : ∀ db input, SameFloor db (step db input)) (inputs : List Input) (db : Db) :
    SameFloor db (run step db inputs) := by
  induction inputs generalizing db with
  | nil => exact SameFloor.refl db
  | cons input rest ih => exact (hstep db input).trans (ih _)

theorem sameFloor_pickOrder (ctx : RequestContext) (db : Db) (order : SalesOrder) :
    SameFloor db (pickOrder ctx db order) := by
  unfold pickOrder emitEvent
  split <;> exact ⟨rfl, rfl, rfl⟩

theorem sameFloor_submitPicks (db : Db) (toId : ℕ) (username : String) :
    SameFloor db (TransferOrders.submitPicks db toId username) := by
  unfold TransferOrders.submitPicks
  split
  · exact SameFloor.refl db
  · split
    · exact SameFloor.refl db
    · dsimp only
      split <;> exact ⟨rfl, rfl, rfl⟩

/-- Completing a batch moves statuses only. -/
theorem sameFloor_finishBatch (ctx : RequestContext) (db : Db) (batchId : ℕ) :
    SameFloor db (finishBatch ctx db batchId) := by
  have hstatus : SameFloor db (setBatchStatus batchId .batchCompleted db) := ⟨rfl, rfl, rfl⟩
  exact (hstatus.trans (sameFloor_run (sameFloor_pickOrder ctx) _ _)).trans
    (sameFloor_run (fun state toId => sameFloor_submitPicks state toId ctx.username) _ _)

/-! ## One statement -/

section Statements

variable {call : TaskCall} {memory after : TaskMemory} {isLocked : ℕ → Bool}
  {floor next : PickFloor} {answer : TaskAnswer}

/-- A statement that goes on has read a pending task, or locks the rows it is about to
settle. -/
inductive Proceeds (isLocked : ℕ → Bool) (floor : PickFloor) (memory : TaskMemory) :
    TaskMemory → Prop
  | loads (task : PickTask) (hmemory : memory = .start)
      (hfound : floor.db.pickTasks.find? task.pickTaskId = some task)
      (hpending : task.status = .taskPending) : Proceeds isLocked floor memory (.loaded task)
  | locks (task : PickTask) (hmemory : memory = .loaded task)
      (hfree : isLocked task.pickTaskId = false) :
      Proceeds isLocked floor memory (.updated task)
  | finds (batch : PickBatch) : Proceeds isLocked floor memory (.found batch)
  | holds (batch : PickBatch)
      (hfree : ∀ task ∈ tasksOf floor.db batch.batchId, isLocked task.pickTaskId = false) :
      Proceeds isLocked floor memory (.holding batch (tasksOf floor.db batch.batchId))
  | counts (batch : PickBatch) : Proceeds isLocked floor memory (.counted batch)

theorem loads_of_load (hload : loadPendingTask floor.db pickTaskId = .ok task) :
    Proceeds isLocked floor .start (.loaded task) := by
  obtain ⟨hfound, hpending⟩ := loadPendingTask_eq_ok.mp hload
  exact .loads task rfl (Table.find?_key hfound ▸ hfound) hpending

theorem lockTask_proceed (hlock : lockTask isLocked task = .proceed after) :
    Proceeds isLocked floor (.loaded task) after := by
  rw [lockTask] at hlock
  split at hlock <;> cases hlock
  rename_i hfree
  exact .locks task rfl (by simpa using hfree)

theorem task_proceed (hproceed : taskStatement call memory isLocked floor = .proceed after) :
    Proceeds isLocked floor memory after := by
  obtain ⟨ctx, request⟩ := call
  cases request with
  | confirm request =>
      simp only [taskStatement] at hproceed
      cases memory with
      | start =>
          simp only [confirmStatement] at hproceed
          split at hproceed
          · cases hproceed
          · rename_i hload
            split at hproceed <;> cases hproceed
            exact loads_of_load hload
      | loaded task =>
          simp only [confirmStatement] at hproceed
          split at hproceed
          · cases hproceed
          · split at hproceed
            · exact lockTask_proceed hproceed
            · cases hproceed
      | updated task =>
          simp only [confirmStatement, settleWith] at hproceed
          split at hproceed <;> cases hproceed
      | found | holding | counted => cases hproceed
  | short request =>
      simp only [taskStatement] at hproceed
      cases memory with
      | start =>
          simp only [shortStatement] at hproceed
          split at hproceed
          · cases hproceed
          · rename_i hload
            split at hproceed <;> cases hproceed
            exact loads_of_load hload
      | loaded task => exact lockTask_proceed hproceed
      | updated task =>
          simp only [shortStatement, settleWith] at hproceed
          split at hproceed <;> cases hproceed
      | found | holding | counted => cases hproceed
  | revert batchId =>
      simp only [taskStatement] at hproceed
      cases memory with
      | start =>
          simp only [revertStatement] at hproceed
          split at hproceed
          · cases hproceed
          · split at hproceed <;> cases hproceed
            exact .finds _
      | found batch =>
          simp only [revertStatement] at hproceed
          split at hproceed <;> cases hproceed
          rename_i hfree
          exact .holds batch (by simpa using hfree)
      | loaded | updated | holding | counted => cases hproceed
  | complete batchId =>
      simp only [taskStatement] at hproceed
      cases memory with
      | start =>
          simp only [completeStatement] at hproceed
          split at hproceed <;> cases hproceed
          exact .finds _
      | found batch =>
          simp only [completeStatement] at hproceed
          split at hproceed <;> cases hproceed
          exact .counts _
      | counted batch =>
          simp only [completeStatement] at hproceed
          split at hproceed <;> cases hproceed
      | loaded | updated | holding => cases hproceed

/-- What a commit does: the tasks it logs are settled, and where it logs none, nothing of
the floor moves. -/
structure Commits (memory : TaskMemory) (floor next : PickFloor) : Prop where
  logged : next.consumed = memory.settles ++ floor.consumed
  settles : Settles memory.settles floor.db next.db
  idle : memory.settles = [] → SameFloor floor.db next.db

theorem commits_settled (hstatus : status ≠ .taskPending) {db : Db}
    (hdb : db.pickTasks = (recordPick task.pickTaskId status quantity floor.db).pickTasks) :
    Commits (.updated task) floor ⟨db, task.pickTaskId :: floor.consumed⟩ where
  logged := rfl
  settles := settles_recordPick hstatus quantity hdb
  idle := nofun

theorem task_commit
    (hcommit : taskStatement call memory isLocked floor = .commit next answer) :
    Commits memory floor next := by
  obtain ⟨ctx, request⟩ := call
  cases request with
  | confirm request =>
      simp only [taskStatement] at hcommit
      cases memory with
      | start =>
          simp only [confirmStatement] at hcommit
          split at hcommit
          · cases hcommit
          · split at hcommit <;> cases hcommit
      | loaded task =>
          simp only [confirmStatement, lockTask] at hcommit
          split at hcommit
          · cases hcommit
          · split at hcommit
            · split at hcommit <;> cases hcommit
            · cases hcommit
      | updated task =>
          simp only [confirmStatement, settleWith] at hcommit
          split at hcommit <;> cases hcommit
          rename_i hsettled
          exact commits_settled (by decide) (settleConfirmed_pickTasks hsettled)
      | found | holding | counted => cases hcommit
  | short request =>
      simp only [taskStatement] at hcommit
      cases memory with
      | start =>
          simp only [shortStatement] at hcommit
          split at hcommit
          · cases hcommit
          · split at hcommit <;> cases hcommit
      | loaded task =>
          simp only [shortStatement, lockTask] at hcommit
          split at hcommit <;> cases hcommit
      | updated task =>
          simp only [shortStatement, settleWith] at hcommit
          split at hcommit <;> cases hcommit
          rename_i hsettled
          simp only [settleShorted, bind_eq_ok, pure_eq_ok] at hsettled
          obtain ⟨-, -, rfl⟩ := hsettled
          exact commits_settled (by decide) (creditShorted_pickTasks ..)
      | found | holding | counted => cases hcommit
  | revert batchId =>
      simp only [taskStatement] at hcommit
      cases memory with
      | start =>
          simp only [revertStatement] at hcommit
          split at hcommit
          · cases hcommit
          · split at hcommit <;> cases hcommit
      | found batch =>
          simp only [revertStatement] at hcommit
          split at hcommit <;> cases hcommit
      | holding batch tasks =>
          cases hcommit
          have hstatus : ∀ db, SameFloor db
              (setBatchStatus batch.batchId .batchCancelled db) := fun _ => ⟨rfl, rfl, rfl⟩
          refine ⟨rfl, ?_, ?_⟩
          · have hundone := settles_undoTasks ctx batch.warehouseId tasks floor.db
            exact ⟨hundone.settled, hundone.others⟩
          · intro hnone
            rw [run_undoTask_idle (List.map_eq_nil_iff.mp hnone)]
            exact hstatus floor.db
      | loaded | updated | counted => cases hcommit
  | complete batchId =>
      simp only [taskStatement] at hcommit
      cases memory with
      | start | found =>
          simp only [completeStatement] at hcommit
          split at hcommit <;> cases hcommit
      | counted batch =>
          simp only [completeStatement] at hcommit
          split at hcommit <;> cases hcommit
          have hsame := sameFloor_finishBatch ctx floor.db batchId
          exact ⟨rfl, Settles.of_same hsame.tasks, fun _ => hsame⟩
      | loaded | updated | holding => cases hcommit

end Statements

/-! ## What the transactions rely on -/

/-- No task is consumed twice, and none that was consumed is pending. -/
structure ConsumedOnce (floor : PickFloor) : Prop where
  once : floor.consumed.Nodup
  settled : ∀ pickTaskId ∈ floor.consumed, ∀ task,
    floor.db.pickTasks.find? pickTaskId = some task → task.status ≠ .taskPending

/-- The row of the task is still pending. -/
def StillPending (floor : PickFloor) (pickTaskId : ℕ) : Prop :=
  ∃ task, floor.db.pickTasks.find? pickTaskId = some task ∧ task.status = .taskPending

def taskKnown (_call : TaskCall) (memory : TaskMemory) (floor : PickFloor) : Prop :=
  match memory with
  | .loaded task | .updated task => StillPending floor task.pickTaskId
  | .holding _ tasks =>
      (tasks.map PickTask.pickTaskId).Nodup ∧
        ∀ task ∈ tasks, floor.db.pickTasks.find? task.pickTaskId = some task
  | .start | .found _ | .counted _ => True

/-- A revert finds none of its tasks picked or short by another request. -/
def Untouched (_call : TaskCall) (memory : TaskMemory) (floor : PickFloor) : Prop :=
  match memory with
  | .holding _ tasks => ∀ task ∈ tasks, settledBy task = true →
      task.status = .taskPending ∨ task.pickTaskId ∉ floor.consumed
  | _ => True

/-- The other request does not stand between the read of a task and its update while the
task is settled. -/
def NotBetween (_floor : PickFloor) (_call : TaskCall) (memory : TaskMemory)
    (_other : TaskCall) (memory' : TaskMemory) : Prop :=
  match memory' with
  | .loaded task => task.pickTaskId ∉ memory.settles
  | _ => True

instance (call : TaskCall) (floor : PickFloor) :
    ∀ memory, Decidable (Untouched call memory floor)
  | .holding _ tasks =>
      inferInstanceAs (Decidable (∀ task ∈ tasks, settledBy task = true →
        task.status = .taskPending ∨ task.pickTaskId ∉ floor.consumed))
  | .start | .loaded _ | .updated _ | .found _ | .counted _ => .isTrue trivial

instance (floor : PickFloor) (call : TaskCall) (memory : TaskMemory) (other : TaskCall) :
    ∀ memory', Decidable (NotBetween floor call memory other memory')
  | .loaded task => inferInstanceAs (Decidable (task.pickTaskId ∉ memory.settles))
  | .start | .updated _ | .found _ | .holding _ _ | .counted _ => .isTrue trivial

section Outline

variable {memory memory' : TaskMemory} {floor next : PickFloor}

/-- What a commit settles it has locked. -/
theorem holds_of_settles (hsettles : pickTaskId ∈ memory.settles) :
    memory.holds pickTaskId = true := by
  cases memory with
  | updated task => simpa [TaskMemory.settles, TaskMemory.holds] using hsettles
  | holding batch tasks =>
      obtain ⟨task, htask, rfl⟩ := List.mem_map.mp hsettles
      exact decide_eq_true (List.mem_map_of_mem (List.mem_of_mem_filter htask))
  | start | loaded | found | counted => cases hsettles

/-- The tasks about to be settled were not consumed before. -/
theorem fresh_of_known (honce : ConsumedOnce floor)
    (hknown : taskKnown call memory floor) (huntouched : Untouched call memory floor) :
    memory.settles.Nodup ∧ ∀ pickTaskId ∈ memory.settles, pickTaskId ∉ floor.consumed := by
  cases memory with
  | updated task =>
      obtain ⟨stored, hstored, hpending⟩ := hknown
      refine ⟨List.nodup_singleton _, ?_⟩
      intro pickTaskId hmem hconsumed
      obtain rfl := List.mem_singleton.mp hmem
      exact honce.settled _ hconsumed stored hstored hpending
  | holding batch tasks =>
      obtain ⟨hnodup, hstored⟩ := hknown
      refine ⟨hnodup.sublist (List.filter_sublist.map _), ?_⟩
      intro pickTaskId hmem hconsumed
      obtain ⟨task, htask, rfl⟩ := List.mem_map.mp hmem
      obtain ⟨hheld, hsettled⟩ := List.mem_filter.mp htask
      rcases huntouched task hheld hsettled with hpending | hfresh
      · exact honce.settled _ hconsumed task (hstored task hheld) hpending
      · exact hfresh hconsumed
  | start | loaded | found | counted => exact ⟨List.nodup_nil, nofun⟩

theorem Commits.consumedOnce (hcommits : Commits memory floor next)
    (honce : ConsumedOnce floor) (hknown : taskKnown call memory floor)
    (huntouched : Untouched call memory floor) : ConsumedOnce next where
  once := by
    obtain ⟨hnodup, hfresh⟩ := fresh_of_known honce hknown huntouched
    rw [hcommits.logged]
    exact hnodup.append honce.once fun pickTaskId => hfresh pickTaskId
  settled := by
    intro pickTaskId hmem task htask
    by_cases hsettles : pickTaskId ∈ memory.settles
    · exact hcommits.settles.settled pickTaskId hsettles task htask
    · rw [hcommits.logged] at hmem
      rw [hcommits.settles.others pickTaskId hsettles] at htask
      exact honce.settled pickTaskId ((List.mem_append.mp hmem).resolve_left hsettles) task htask

/-- What another request knows survives where its tasks are not settled. -/
theorem Commits.known {other : TaskCall} (hcommits : Commits memory floor next)
    (hapart : ∀ pickTaskId, memory'.holds pickTaskId = true → pickTaskId ∉ memory.settles)
    (hbetween : ∀ task, memory' = .loaded task → task.pickTaskId ∉ memory.settles)
    (hknown : taskKnown other memory' floor) : taskKnown other memory' next := by
  have hpending : ∀ {pickTaskId}, pickTaskId ∉ memory.settles →
      StillPending floor pickTaskId → StillPending next pickTaskId := by
    rintro pickTaskId hother ⟨task, htask, hpending⟩
    exact ⟨task, (hcommits.settles.others pickTaskId hother).trans htask, hpending⟩
  cases memory' with
  | loaded task => exact hpending (hbetween task rfl) hknown
  | updated task => exact hpending (hapart _ (decide_eq_true rfl)) hknown
  | holding batch tasks =>
      refine ⟨hknown.1, ?_⟩
      intro task htask
      have hheld : TaskMemory.holds (.holding batch tasks) task.pickTaskId = true :=
        decide_eq_true (List.mem_map_of_mem htask)
      rw [hcommits.settles.others _ (hapart _ hheld)]
      exact hknown.2 task htask
  | start | found | counted => trivial

end Outline

theorem task_outline :
    Outline taskProgram ConsumedOnce taskKnown Untouched NotBetween where
  start := fun _ _ _ => trivial
  acquires := by
    intro call memory isLocked floor after hproceed pickTaskId hheld
    have hstep : taskStatement call memory isLocked floor = .proceed after := hproceed
    cases task_proceed hstep with
    | loads task => cases hheld
    | locks task hmemory hfree =>
        right
        obtain rfl := of_decide_eq_true hheld
        exact hfree
    | finds batch => cases hheld
    | holds batch hfree =>
        right
        obtain ⟨task, htask, rfl⟩ := List.mem_map.mp (of_decide_eq_true hheld)
        exact hfree task htask
    | counts batch => cases hheld
  proceeds := by
    intro call memory isLocked floor after _ hknown hproceed
    have hstep : taskStatement call memory isLocked floor = .proceed after := hproceed
    cases task_proceed hstep with
    | loads task hmemory hfound hpending => exact ⟨task, hfound, hpending⟩
    | locks task hmemory hfree =>
        subst hmemory
        exact hknown
    | finds batch => trivial
    | holds batch hfree =>
        constructor
        · exact floor.db.pickTasks.keys_nodup.sublist (List.filter_sublist.map _)
        · intro task htask
          exact Table.find?_eq_some_iff.mpr ⟨List.mem_of_mem_filter htask, rfl⟩
    | counts batch => trivial
  commits := by
    intro call memory isLocked floor next answer honce hknown huntouched hcommit
    exact (task_commit hcommit).consumedOnce honce hknown huntouched
  stable := by
    intro call memory isLocked floor next answer other memory' _ _ hother hlocked hapart
      hbetween hcommit
    apply (task_commit hcommit).known _ _ hother
    · intro pickTaskId hheld hsettles
      have hfree := hapart pickTaskId (holds_of_settles hsettles)
      exact Bool.false_ne_true (hfree.symm.trans hheld)
    · rintro task rfl
      exact hbetween

/-- Where no pick stands between its read and its update while its task is settled, and
no revert finds a task that another request has picked, no task is consumed twice; what
settles nothing moves nothing of the stock, the lines and the tasks. -/
theorem task_consumed_once {Ticket : Type} [Fintype Ticket] [DecidableEq Ticket]
    (calls : Ticket → TaskCall) (db : Db) (steps : List (Step Ticket))
    (hclear : Along (Sessions.serve taskProgram calls)
      (Clear taskProgram calls Untouched NotBetween)
      (opened taskProgram calls ⟨db, []⟩) steps) (ticket : Ticket) :
    let service := run (Sessions.serve taskProgram calls) (opened taskProgram calls ⟨db, []⟩) steps
    let next := Sessions.serve taskProgram calls service (.advance ticket)
    service.world.consumed.Nodup ∧
      ∃ settled, next.world.consumed = settled ++ service.world.consumed ∧
        Settles settled service.world.db next.world.db ∧
          (settled = [] → SameFloor service.world.db next.world.db) := by
  intro service next
  have hsound : Sound taskProgram calls ConsumedOnce taskKnown service :=
    sound_run task_outline ⟨List.nodup_nil, (fun _ hmem => by cases hmem)⟩ hclear
  refine ⟨hsound.inv.once, ?_⟩
  rcases serve_advance_world service ticket with
    hsame | ⟨memory, world, answer, -, houtcome, hworld⟩
  · have hnext : next.world = service.world := hsame
    rw [hnext]
    exact ⟨[], rfl, Settles.of_same rfl, fun _ => SameFloor.refl _⟩
  · have hnext : next.world = world := hworld
    have hcommits := task_commit houtcome
    rw [hnext]
    exact ⟨memory.settles, hcommits.logged, hcommits.settles, hcommits.idle⟩

namespace DoubleTap

/-- Ten widgets, three of them on a pending task. -/
def db : Db :=
  SmallWarehouse.after
    [SmallWarehouse.receive 1 10 none, SmallWarehouse.order "S1" [SmallWarehouse.line 3],
      .createBatch (SmallWarehouse.batch ["S1"] [])]

/-- `pat` taps twice on the scanner. -/
def taps (tap : Fin 2) : TaskCall :=
  ⟨SmallWarehouse.pat (4 + tap), .confirm (SmallWarehouse.confirm 1 3)⟩

/-- The second tap after the first. -/
def inTurn : List (Step (Fin 2)) := [.advance 0, .advance 0, .advance 0, .advance 1]

/-- Both read the task before either writes it. -/
def together : List (Step (Fin 2)) :=
  [.advance 0, .advance 1, .advance 0, .advance 0, .advance 1, .advance 1]

def floorAfter (steps : List (Step (Fin 2))) : PickFloor :=
  (run (Sessions.serve taskProgram taps) (opened taskProgram taps ⟨db, []⟩) steps).world

end DoubleTap

open DoubleTap in
theorem task_consumed_once_in_turn :
    let service := run (Sessions.serve taskProgram taps) (opened taskProgram taps ⟨db, []⟩) inTurn
    let next := Sessions.serve taskProgram taps service (.advance 1)
    service.world.consumed.Nodup ∧
      ∃ settled, next.world.consumed = settled ++ service.world.consumed ∧
        Settles settled service.world.db next.world.db ∧
          (settled = [] → SameFloor service.world.db next.world.db) :=
  task_consumed_once taps db inTurn (by decide +kernel) 1

open DoubleTap in
/-- Both taps settle the task: six widgets leave the bin and six are on the line. -/
theorem task_consumed_twice :
    (floorAfter together).consumed = [1, 1] ∧
      onHandAt db 1 1 = 10 ∧ onHandAt (floorAfter together).db 1 1 = 4 ∧
      ((floorAfter together).db.salesOrderLines.find? 1).map
        (fun line => (line.quantityOrdered, line.quantityPicked)) = some (3, 6) := by
  decide +kernel

end SentryWms.Picking
