import Mathlib.Data.List.MinMax
import Mathlib.Data.List.Sort
import Mathlib.Data.Prod.Lex
import SentryWms.Relational.Keyed
import SentryWms.Schema

/-!
# Warehouse work

The tables of Work Control and the queries and statements its services are made of.  A
work batch is one pack note; its picking and its packing are separate tasks, owned by
whoever has claimed them or else by whom they are assigned to.  Minutes of work are
floating-point estimates and are not modelled: a dispatch comes with the rank it gives
each worker for each task.
-/

namespace SentryWms.WorkControl

open Relational

/-! ## Tables -/

inductive WorkTaskType
  | picking
  | packing
  | receiving
  | putaway
  | stockCheck
  | other
  deriving DecidableEq, Repr

inductive WorkTaskStatus
  | queued
  | assigned
  | claimed
  | inProgress
  | paused
  | completed
  | cancelled
  deriving DecidableEq, Repr

inductive WorkBatchStatus
  | opened
  | inProgress
  | completed
  | cancelled
  deriving DecidableEq, Repr

inductive Availability
  | available
  | onBreak
  | offDuty
  deriving DecidableEq, Repr

/-- `ACTIVE_STATUSES`. -/
def WorkTaskStatus.isActive : WorkTaskStatus → Bool
  | .claimed | .inProgress | .paused => true
  | _ => false

/-- `OPEN_STATUSES`; the others are `COMPLETED` and `CANCELLED`. -/
def WorkTaskStatus.isOpen : WorkTaskStatus → Bool
  | .completed | .cancelled => false
  | _ => true

structure WorkTask where
  taskId : ℕ
  batchId : Option ℕ
  warehouseId : ℕ
  taskType : WorkTaskType
  status : WorkTaskStatus
  priority : ℕ
  assignedTo : Option String := none
  claimedBy : Option String := none
  availableAt : ℕ := 0
  deriving DecidableEq, Repr

structure WorkBatch where
  batchId : ℕ
  warehouseId : ℕ
  status : WorkBatchStatus
  deriving DecidableEq, Repr

/-- The columns of `users` that dispatch reads, `task_types` those of the granted
functions. -/
structure Worker where
  userId : ℕ
  username : String
  isUser : Bool
  isActive : Bool
  warehouseIds : List ℕ
  taskTypes : List WorkTaskType
  deriving DecidableEq, Repr

/-- `work_worker_status`. -/
structure WorkerStatus where
  warehouseId : ℕ
  userId : ℕ
  workDate : ℕ
  availabilityStatus : Availability
  deriving DecidableEq, Repr

def WorkerStatus.uniqueKey (row : WorkerStatus) : ℕ × ℕ × ℕ :=
  (row.warehouseId, row.userId, row.workDate)

structure WorkDb where
  tasks : Table WorkTask WorkTask.taskId
  batches : Table WorkBatch WorkBatch.batchId
  workers : List Worker
  workerStatus : Keyed WorkerStatus WorkerStatus.uniqueKey := .empty
  verifiedScans : List (ℕ × String) := []

/-! ## Tasks and their owners -/

/-- `COALESCE(claimed_by, assigned_to)`. -/
def WorkTask.owner (task : WorkTask) : Option String := task.claimedBy.or task.assignedTo

def WorkTask.isPickOrPack (task : WorkTask) : Bool :=
  task.taskType = .picking ∨ task.taskType = .packing

/-- The picking and the packing of one batch, one of each. -/
def Counterparts (task other : WorkTask) : Prop :=
  task.batchId.isSome ∧ task.batchId = other.batchId ∧ task.isPickOrPack = true ∧
    other.isPickOrPack = true ∧ task.taskType ≠ other.taskType

instance (task other : WorkTask) : Decidable (Counterparts task other) :=
  inferInstanceAs (Decidable (_ ∧ _))

/-- A counterpart of the task is the worker's. -/
def counterpartOwned (db : WorkDb) (task : WorkTask) (username : String) : Bool :=
  db.tasks.rows.any fun counterpart =>
    Counterparts task counterpart ∧ counterpart.owner = some username

/-- `get_current_task`. -/
def currentTask? (db : WorkDb) (username : String) : Option WorkTask :=
  db.tasks.rows.find? fun task => task.claimedBy = some username ∧ task.status.isActive

/-- The availability a worker has reported for the day. -/
def reportedAvailability (db : WorkDb) (warehouseId workDate : ℕ) (username : String) :
    Option Availability :=
  (db.workers.find? fun worker => worker.username = username).bind fun worker =>
    (db.workerStatus.lookup (warehouseId, worker.userId, workDate)).map
      WorkerStatus.availabilityStatus

/-! ## Claiming -/

structure ClaimRequest where
  warehouseId : ℕ
  username : String
  taskTypes : Option (List WorkTaskType)
  workDate : ℕ
  now : ℕ
  deriving DecidableEq, Repr

/-- The `WHERE` of the candidate query. -/
def isCandidate (db : WorkDb) (request : ClaimRequest) (task : WorkTask) : Bool :=
  task.warehouseId = request.warehouseId ∧ (task.status = .queued ∨ task.status = .assigned) ∧
    task.availableAt ≤ request.now ∧
    (task.assignedTo = none ∨ task.assignedTo = some request.username) ∧
    counterpartOwned db task request.username = false ∧
    request.taskTypes.all (task.taskType ∈ ·)

/-- The `ORDER BY` of the candidate query. -/
def claimOrder (username : String) (task : WorkTask) : ℕ ×ₗ ℕᵒᵈ ×ₗ ℕ ×ₗ ℕ :=
  toLex (if task.assignedTo = some username then 0 else 1,
    toLex (OrderDual.toDual task.priority, toLex (task.availableAt, task.taskId)))

/-- `FOR UPDATE SKIP LOCKED LIMIT 1`. -/
def candidate? (db : WorkDb) (request : ClaimRequest) (isLocked : ℕ → Bool) : Option WorkTask :=
  (db.tasks.rows.filter fun task =>
    isCandidate db request task && !isLocked task.taskId).argmin (claimOrder request.username)

/-- `SET status = 'CLAIMED', claimed_by = :username`. -/
def claimTask (taskId : ℕ) (username : String) (db : WorkDb) : WorkDb :=
  { db with
    tasks := db.tasks.updateKey taskId fun task =>
      { task with
        status := .claimed
        claimedBy := some username } }

/-- `SET status = 'IN_PROGRESS' WHERE batch_id = :bid AND status = 'OPEN'`. -/
def startBatch (batchId : Option ℕ) (db : WorkDb) : WorkDb :=
  { db with
    batches := db.batches.update
      (fun batch => some batch.batchId = batchId ∧ batch.status = .opened)
      fun batch => { batch with status := .inProgress } }

/-! ## Assigning and dispatching -/

/-- Reported available, or not reported. -/
def isAvailable (db : WorkDb) (warehouseId workDate : ℕ) (username : String) : Bool :=
  (reportedAvailability db warehouseId workDate username).all (· = .available)

def Worker.worksIn (warehouseId : ℕ) (worker : Worker) : Bool :=
  worker.isUser ∧ worker.isActive ∧ warehouseId ∈ worker.warehouseIds

/-- `_eligible_workers`. -/
def eligibleWorkers (db : WorkDb) (warehouseId : ℕ) : List Worker :=
  db.workers.filter fun worker => worker.worksIn warehouseId ∧ worker.taskTypes ≠ []

def availableWorkers (db : WorkDb) (warehouseId workDate : ℕ) : List Worker :=
  (eligibleWorkers db warehouseId).filter fun worker =>
    isAvailable db warehouseId workDate worker.username

/-- `SET status = ..., assigned_to = :assigned_to`. -/
def assignTo (taskId : ℕ) (assignedTo : Option String) (db : WorkDb) : WorkDb :=
  { db with
    tasks := db.tasks.updateKey taskId fun task =>
      { task with
        status := if assignedTo = none then .queued else .assigned
        assignedTo := assignedTo } }

/-- The order in which dispatch goes through the open tasks. -/
def dispatchOrder (task : WorkTask) : ℕᵒᵈ ×ₗ ℕ ×ₗ ℕ :=
  toLex (OrderDual.toDual task.priority, toLex (task.availableAt, task.taskId))

/-- `_open_tasks`. -/
def openTasks (db : WorkDb) (warehouseId : ℕ) : List WorkTask :=
  (db.tasks.select fun task => task.warehouseId = warehouseId ∧ task.status.isOpen)
    |>.insertionSort fun task other => dispatchOrder task ≤ dispatchOrder other

/-- `_counterpart_workers`: the batches with the owners of their tasks. -/
def counterpartWorkers (db : WorkDb) (warehouseId : ℕ) : List (ℕ × String) :=
  db.tasks.rows.filterMap fun task =>
    if task.warehouseId = warehouseId ∧ task.isPickOrPack = true then
      task.batchId.bind fun batchId => task.owner.map fun worker => (batchId, worker)
    else none

structure DispatchRequest where
  warehouseId : ℕ
  workDate : ℕ
  now : ℕ
  rank : ℕ → String → ℕ

instance batchPairs : LawfulBEq (ℕ × String) := inferInstance

/-- The workers a task may be given to. -/
def dispatchCandidates (available : List Worker) (taken : List (ℕ × String))
    (task : WorkTask) : List Worker :=
  available.filter fun worker =>
    task.taskType ∈ worker.taskTypes ∧
      ¬ (task.isPickOrPack = true ∧
        task.batchId.any fun batchId => (batchId, worker.username) ∈ taken)

/-- One turn of the loop of `auto_dispatch`: the task, if it is still unowned and ready,
goes to the candidate of least rank. -/
def dispatchTask (request : DispatchRequest) (available : List Worker)
    (state : WorkDb × List (ℕ × String)) (taskId : ℕ) : WorkDb × List (ℕ × String) :=
  match state.1.tasks.find? taskId with
  | none => state
  | some task =>
      if task.status = .queued ∧ task.assignedTo = none ∧
          task.availableAt ≤ request.now then
        match (dispatchCandidates available state.2 task).argmin fun worker =>
          request.rank taskId worker.username with
        | none => state
        | some chosen =>
            (assignTo taskId (some chosen.username) state.1,
              match task.batchId with
              | some batchId => (batchId, chosen.username) :: state.2
              | none => state.2)
      else state

/-- `auto_dispatch` over the tasks it has locked. -/
def autoDispatch (request : DispatchRequest) (available : List Worker)
    (taskIds : List ℕ) (db : WorkDb) : WorkDb :=
  (taskIds.foldl (dispatchTask request available) (db, counterpartWorkers db request.warehouseId)).1

/-! ## Availability -/

/-- `INSERT INTO work_worker_status ... ON CONFLICT DO UPDATE`. -/
def reportStatus (row : WorkerStatus) (db : WorkDb) : WorkDb :=
  { db with
    workerStatus := db.workerStatus.upsert row
      (fun old => { old with availabilityStatus := row.availabilityStatus })
      fun _ hold => hold }

/-- `assigned_to = :username AND claimed_by IS NULL AND status = 'ASSIGNED'`. -/
def assignedTasks (db : WorkDb) (warehouseId : ℕ) (username : String) : List WorkTask :=
  db.tasks.select fun task =>
    task.warehouseId = warehouseId ∧ task.assignedTo = some username ∧
      task.claimedBy = none ∧ task.status = .assigned

/-- `SET status = 'QUEUED', assigned_to = NULL`. -/
def releaseTasks (taskIds : List ℕ) (db : WorkDb) : WorkDb :=
  { db with
    tasks := db.tasks.update (fun task => task.taskId ∈ taskIds) fun task =>
      { task with
        status := .queued
        assignedTo := none } }

end SentryWms.WorkControl
