import Mathlib.Data.Fintype.Basic
import SentryWms.WorkControl.PickerPacker

/-!
# A batch is completed when its tasks are done

Task transitions and task creation, statement by statement, beside the requests that
give tasks their owners.  A transition that ends a task counts what its batch has left
and completes the batch when nothing is.  No request locks the batch; but a transition
writes its audit entry before it counts and a creation before it assigns, the entry
locks the head of the audit chain to the commit, and so what has been counted stays
right.
-/

namespace SentryWms.WorkControl

open Relational Sessions

/-! ## The requests -/

inductive TaskAction
  | start
  | pause
  | resume
  | complete
  | cancel
  | exception
  deriving DecidableEq, Repr

/-- `action.lower()`. -/
def TaskAction.lower : TaskAction → String
  | .start => "start"
  | .pause => "pause"
  | .resume => "resume"
  | .complete => "complete"
  | .cancel => "cancel"
  | .exception => "exception"

def WorkTaskStatus.text : WorkTaskStatus → String
  | .queued => "QUEUED"
  | .assigned => "ASSIGNED"
  | .claimed => "CLAIMED"
  | .inProgress => "IN_PROGRESS"
  | .paused => "PAUSED"
  | .completed => "COMPLETED"
  | .cancelled => "CANCELLED"

/-- `TaskTransitionRequest` with the caller. -/
structure TransitionRequest where
  taskId : ℕ
  username : String
  isAdmin : Bool
  action : TaskAction
  claimNext : Bool
  nextTaskTypes : Option (List WorkTaskType)
  workDate : ℕ
  now : ℕ
  deriving DecidableEq, Repr

/-- `CreateTaskRequest`, with the key the sequence hands its row. -/
structure CreateTaskRequest where
  taskId : ℕ
  batchId : Option ℕ
  warehouseId : ℕ
  taskType : WorkTaskType
  priority : ℕ
  assignedTo : Option String
  workDate : ℕ
  now : ℕ
  rank : ℕ → String → ℕ

inductive BatchRequest
  | transition (request : TransitionRequest)
  | createTask (request : CreateTaskRequest)
  | owner (request : OwnerRequest)

/-- What a transaction has written so far. -/
inductive OwnBatch
  | nothing
  | transitioned (task : WorkTask) (status : WorkTaskStatus) (completes : Bool)
  | created (task : WorkTask)
  deriving DecidableEq, Repr

/-- The next statement, with what the earlier ones have read. -/
inductive BatchMemory
  | start
  | transitioning (task : WorkTask)
  | counting (task : WorkTask) (status : WorkTaskStatus)
  | inserting
  | serving (own : OwnBatch) (request : OwnerRequest) (memory : OwnerMemory)
  | closing (own : OwnBatch)

inductive BatchAnswer
  | transitioned
  | served (answer : OwnerAnswer)
  | refused (error : ServiceError)
  deriving DecidableEq, Repr

abbrev BatchOutcome := Outcome WorkDb BatchMemory BatchAnswer

/-! ## Transitions -/

/-- The statuses an action is allowed in and the one it leads to; `EXCEPTION` leads to
none. -/
def transitions : TaskAction → Option (List WorkTaskStatus × WorkTaskStatus)
  | .start => some ([.claimed], .inProgress)
  | .pause => some ([.inProgress], .paused)
  | .resume => some ([.paused], .inProgress)
  | .complete => some ([.inProgress], .completed)
  | .cancel => some ([.queued, .assigned, .claimed, .inProgress, .paused], .cancelled)
  | .exception => none

/-- The checks of `transition_task`, and the status it sets. -/
def nextStatus (db : WorkDb) (request : TransitionRequest) (task : WorkTask) :
    Except ServiceError (Option WorkTaskStatus) := do
  require (request.isAdmin ∨ task.claimedBy = some request.username)
    (.httpError 403 "Task is not claimed by this employee")
  match transitions request.action with
  | none =>
      require task.status.isActive (.httpError 409
        ("Cannot record an exception while task is " ++ task.status.text))
      return none
  | some (allowed, next) =>
      require (task.status ∈ allowed) (.httpError 409 ("Cannot " ++ request.action.lower ++
        " task while status is " ++ task.status.text))
      require (request.action = .cancel → request.isAdmin)
        (.httpError 403 "Only an administrator can cancel a task")
      require (request.action = .start → task.isPickOrPack = true →
          (task.taskId, request.username) ∈ db.verifiedScans)
        (.httpError 409 "Scan one courier barcode from this Pack Note before starting")
      return some next

/-- `SET status = ...`. -/
def setTaskStatus (taskId : ℕ) (status : WorkTaskStatus) (db : WorkDb) : WorkDb :=
  { db with
    tasks := db.tasks.updateKey taskId fun task => { task with status := status } }

/-- `SET status = 'COMPLETED' WHERE batch_id = :bid`. -/
def completeBatch (batchId : Option ℕ) (db : WorkDb) : WorkDb :=
  { db with
    batches := db.batches.update (fun batch => some batch.batchId = batchId)
      fun batch => { batch with status := .completed } }

/-- `SELECT COUNT(*) ... AND status NOT IN ('COMPLETED','CANCELLED')`. -/
def remainingTasks (batchId : Option ℕ) (db : WorkDb) : ℕ :=
  (db.tasks.select fun task => task.batchId = batchId ∧ task.status.isOpen).length

/-- `INSERT INTO work_tasks`. -/
def insertTask (task : WorkTask) (db : WorkDb) : WorkDb :=
  if hfree : db.tasks.find? task.taskId = none then
    { db with tasks := db.tasks.insertAs task hfree }
  else db

/-- The tables as the transaction sees them. -/
def OwnBatch.apply : OwnBatch → WorkDb → WorkDb
  | .nothing, db => db
  | .transitioned task status completes, db =>
      if completes then completeBatch task.batchId (setTaskStatus task.taskId status db)
      else setTaskStatus task.taskId status db
  | .created task, db => insertTask task db

/-- An empty list of task types is no filter. -/
def TransitionRequest.nextClaim (request : TransitionRequest) (task : WorkTask) :
    ClaimRequest where
  warehouseId := task.warehouseId
  username := request.username
  taskTypes := request.nextTaskTypes.filter fun taskTypes => taskTypes ≠ []
  workDate := request.workDate
  now := request.now

/-- What follows `transition_task` in its route. -/
def TransitionRequest.following (request : TransitionRequest) (task : WorkTask)
    (own : OwnBatch) : BatchMemory :=
  if request.action = .complete ∧ request.claimNext then
    .serving own (.claimNext (request.nextClaim task)) .start
  else .closing own

/-- `transition_task`. -/
def transitionTask (request : TransitionRequest) (isLocked : WorkLock → Bool)
    (db : WorkDb) : BatchMemory → BatchOutcome
  | .start =>
      match db.tasks.find? request.taskId with
      | none => .rollback (.refused (.httpError 404 "Task not found"))
      | some task =>
          if isLocked (.task task.taskId) then .wait else .proceed (.transitioning task)
  | .transitioning task =>
      match nextStatus db request task with
      | .error error => .rollback (.refused error)
      | .ok none => if isLocked .auditChain then .wait else .commit db .transitioned
      | .ok (some status) =>
          -- the audit entry waits for the head of the chain
          if isLocked .auditChain then .wait
          else if task.batchId.isSome ∧ status.isOpen = false then
            .proceed (.counting task status)
          else .proceed (request.following task (.transitioned task status false))
  | .counting task status =>
      let remaining := remainingTasks task.batchId (setTaskStatus task.taskId status db)
      .proceed (request.following task (.transitioned task status (remaining = 0)))
  | _ => .wait

/-! ## Creation -/

def CreateTaskRequest.row (request : CreateTaskRequest) : WorkTask where
  taskId := request.taskId
  batchId := request.batchId
  warehouseId := request.warehouseId
  taskType := request.taskType
  status := .queued
  priority := request.priority
  availableAt := request.now

/-- A task created without an employee is dispatched, otherwise it is assigned. -/
def CreateTaskRequest.owner (request : CreateTaskRequest) : OwnerRequest :=
  match request.assignedTo with
  | none => .autoDispatch
      ⟨request.warehouseId, request.workDate, request.now, request.rank⟩
  | some assignedTo => .assignTask request.taskId (some assignedTo) request.workDate

/-- The batch a task may be created in. -/
def checkBatch (db : WorkDb) (request : CreateTaskRequest) : Except ServiceError Unit :=
  match request.batchId with
  | none => .ok ()
  | some batchId => do
      let batch ← orThrow (db.batches.find? batchId) (.httpError 404 "Batch not found")
      require (batch.warehouseId = request.warehouseId)
        (.httpError 400 "Batch belongs to another warehouse")

/-- `create_task`, up to the assignment it ends in. -/
def createTask (request : CreateTaskRequest) (isLocked : WorkLock → Bool) (db : WorkDb) :
    BatchMemory → BatchOutcome
  | .start =>
      match checkBatch db request with
      | .error error => .rollback (.refused error)
      | .ok _ => .proceed .inserting
  | .inserting =>
      if isLocked (.task request.taskId) ∨ isLocked .auditChain then .wait
      else if (db.tasks.find? request.taskId).isSome then
        .rollback (.refused (.integrityError "work_tasks_pkey"))
      else .proceed (.serving (.created request.row) request.owner request.owner.first)
  | _ => .wait

/-! ## The program -/

def OwnBatch.holds : OwnBatch → WorkLock → Bool
  | .nothing => fun _ => false
  | .transitioned task _ _ | .created task => fun lock =>
      lock = .task task.taskId ∨ lock = .auditChain

def BatchMemory.holds : BatchMemory → WorkLock → Bool
  | .start | .inserting => fun _ => false
  | .transitioning task => fun lock => lock = .task task.taskId
  | .counting task _ => fun lock => lock = .task task.taskId ∨ lock = .auditChain
  | .serving own _ memory => fun lock => own.holds lock || memory.holds lock
  | .closing own => own.holds

/-- Where a request begins. -/
def BatchRequest.first : BatchRequest → BatchMemory
  | .owner request => .serving .nothing request request.first
  | _ => .start

def batchStatement (request : BatchRequest) (memory : BatchMemory)
    (isLocked : WorkLock → Bool) (db : WorkDb) : BatchOutcome :=
  match memory with
  | .serving own request memory =>
      (ownerStatement request memory isLocked (own.apply db)).map (.serving own request) .served
  | .closing own => .commit (own.apply db) .transitioned
  | memory =>
      match request with
      | .transition request => transitionTask request isLocked db memory
      | .createTask request => createTask request isLocked db memory
      | .owner _ => .wait

def batchProgram : Program WorkDb BatchRequest BatchMemory WorkLock BatchAnswer where
  start := BatchRequest.first
  holds := fun _ => BatchMemory.holds
  statement := batchStatement
  start_holds := by
    intro request lock
    cases request with
    | transition | createTask => rfl
    | owner request => exact ownerProgram.start_holds request lock

/-! ## The claim -/

/-- The batch has tasks, and all of them are done. -/
def BatchDone (batchId : ℕ) (db : WorkDb) : Prop :=
  (∃ task ∈ db.tasks.rows, task.batchId = some batchId) ∧
    ∀ task ∈ db.tasks.rows, task.batchId = some batchId → task.status.isOpen = false

instance (batchId : ℕ) (db : WorkDb) : Decidable (BatchDone batchId db) :=
  inferInstanceAs (Decidable (_ ∧ _))

def CompletedWhenDone (db : WorkDb) : Prop :=
  ∀ batch ∈ db.batches.rows, batch.status = .completed ↔ BatchDone batch.batchId db

instance (db : WorkDb) : Decidable (CompletedWhenDone db) :=
  inferInstanceAs (Decidable (∀ _ ∈ _, _ ↔ _))

/-- Everything else in the task's batch is done. -/
def OthersDone (task : WorkTask) (db : WorkDb) : Prop :=
  ∀ other ∈ db.tasks.rows, other.batchId = task.batchId → other.taskId ≠ task.taskId →
    other.status.isOpen = false

def BatchMemory.own : BatchMemory → OwnBatch
  | .serving own _ _ | .closing own => own
  | _ => .nothing

/-- A task is not created under a completed batch. -/
def OwnBatch.MayCommit (db : WorkDb) : OwnBatch → Prop
  | .created task => ∀ batch ∈ db.batches.rows, some batch.batchId = task.batchId →
      batch.status ≠ .completed
  | _ => True

instance (db : WorkDb) : ∀ own : OwnBatch, Decidable (own.MayCommit db)
  | .created _ => inferInstanceAs (Decidable (∀ _ ∈ _, _ → _))
  | .nothing => .isTrue trivial
  | .transitioned .. => .isTrue trivial

/-- The own writes of a transaction still fit the committed tables. -/
def OwnBatch.Stands (db : WorkDb) : OwnBatch → Prop
  | .nothing => True
  | .transitioned task status completes =>
      task ∈ db.tasks.rows ∧ task.status.isOpen = true ∧
        (completes = true ↔ task.batchId.isSome = true ∧ status.isOpen = false ∧ OthersDone task db)
  | .created task => db.tasks.find? task.taskId = none ∧ task.status.isOpen = true

/-- The tasks a request has found waiting, and locked, still wait. -/
def Reserved (request : OwnerRequest) (db : WorkDb) : OwnerMemory → Prop
  | .claiming task | .checkConflict task | .assigning task => Waiting db task
  | .checkWorker task => task ∈ db.tasks.rows
  | .gathering own | .locking own _ | .dispatching own _ _ =>
      Releasable own request.warehouseId db
  | _ => True

def batchKnown (_ : BatchRequest) (memory : BatchMemory) (db : WorkDb) : Prop :=
  match memory with
  | .start | .inserting => True
  | .transitioning task => task ∈ db.tasks.rows
  | .counting task status => task ∈ db.tasks.rows ∧ task.status.isOpen = true ∧
      task.batchId.isSome = true ∧ status.isOpen = false
  | .serving own request memory => own.Stands db ∧ Reserved request (own.apply db) memory
  | .closing own => own.Stands db

/-! ## Batches -/

/-- Batches are at most started. -/
def BatchesStarted (db next : WorkDb) : Prop :=
  ∀ batch' ∈ next.batches.rows, ∃ batch ∈ db.batches.rows,
    batch'.batchId = batch.batchId ∧ (batch'.status = .completed ↔ batch.status = .completed)

variable {next : WorkDb} {touched held : ℕ → Prop} {batchId : ℕ}
  {status : WorkTaskStatus} {own : OwnBatch} {transition : TransitionRequest}

theorem BatchesStarted.of_batches_eq {db : WorkDb}
    (hbatches : next.batches = db.batches) : BatchesStarted db next :=
  fun batch hmem => ⟨batch, hbatches ▸ hmem, rfl, Iff.rfl⟩

theorem batchesStarted_startBatch (batchId : Option ℕ) (db : WorkDb) :
    BatchesStarted db (startBatch batchId db) := by
  intro batch' hmem'
  obtain ⟨batch, hmem, rfl⟩ := List.mem_map.mp hmem'
  refine ⟨batch, hmem, ?_⟩
  split
  · rename_i hstarts
    have hopened : batch.status = .opened := (of_decide_eq_true hstarts).2
    refine ⟨rfl, ?_⟩
    rw [hopened]
    constructor <;> intro hstatus <;> cases hstatus
  · exact ⟨rfl, Iff.rfl⟩

theorem dispatchTask_batches (request : DispatchRequest) (available : List Worker)
    (state : WorkDb × List (ℕ × String)) (taskId : ℕ) :
    (dispatchTask request available state taskId).1.batches = state.1.batches := by
  rw [dispatchTask]
  split
  · rfl
  · split
    · split <;> rfl
    · rfl

theorem autoDispatch_batches (request : DispatchRequest) (available : List Worker)
    (taskIds : List ℕ) (db : WorkDb) :
    (autoDispatch request available taskIds db).batches = db.batches := by
  have hloop : ∀ state : WorkDb × List (ℕ × String),
      (taskIds.foldl (dispatchTask request available) state).1.batches = state.1.batches := by
    induction taskIds with
    | nil => exact fun _ => rfl
    | cons taskId rest ih =>
        intro state
        rw [List.foldl_cons, ih, dispatchTask_batches]
  exact hloop _

theorem OwnWrites.apply_batches (own : OwnWrites) (db : WorkDb) :
    (own.apply db).batches = db.batches := by
  rw [OwnWrites.apply]
  cases own.status <;> rfl

theorem batchDone_rewrites {db : WorkDb} (hrewrites : Rewrites touched db next) :
    BatchDone batchId next ↔ BatchDone batchId db := by
  constructor
  · rintro ⟨⟨task', hmem', hbatch⟩, hdone⟩
    constructor
    · obtain ⟨task, hmem, hsame, -⟩ := hrewrites.back task' hmem'
      exact ⟨task, hmem, hsame.batchId.symm.trans hbatch⟩
    · intro task hmem hbatch
      obtain ⟨task', hmem', hsame, -⟩ := hrewrites.forth task hmem
      rw [← hsame.isOpen]
      exact hdone task' hmem' (hsame.batchId.trans hbatch)
  · rintro ⟨⟨task, hmem, hbatch⟩, hdone⟩
    constructor
    · obtain ⟨task', hmem', hsame, -⟩ := hrewrites.forth task hmem
      exact ⟨task', hmem', hsame.batchId.trans hbatch⟩
    · intro task' hmem' hbatch
      obtain ⟨task, hmem, hsame, -⟩ := hrewrites.back task' hmem'
      rw [hsame.isOpen]
      exact hdone task hmem (hsame.batchId.symm.trans hbatch)

/-- Only the tasks of the batch count. -/
theorem batchDone_congr {db : WorkDb} (hsame : ∀ task, task.batchId = some batchId →
      (task ∈ next.tasks.rows ↔ task ∈ db.tasks.rows)) :
    BatchDone batchId next ↔ BatchDone batchId db := by
  constructor
  · rintro ⟨⟨task, hmem, hbatch⟩, hdone⟩
    exact ⟨⟨task, (hsame task hbatch).mp hmem, hbatch⟩,
      fun task hmem hbatch => hdone task ((hsame task hbatch).mpr hmem) hbatch⟩
  · rintro ⟨⟨task, hmem, hbatch⟩, hdone⟩
    exact ⟨⟨task, (hsame task hbatch).mpr hmem, hbatch⟩,
      fun task hmem hbatch => hdone task ((hsame task hbatch).mp hmem) hbatch⟩

theorem CompletedWhenDone.rewrites {db : WorkDb} (hexact : CompletedWhenDone db)
    (hrewrites : Rewrites touched db next) (hstarted : BatchesStarted db next) :
    CompletedWhenDone next := by
  intro batch' hmem'
  obtain ⟨batch, hmem, hkey, hstatus⟩ := hstarted batch' hmem'
  rw [hstatus, hexact batch hmem, hkey, batchDone_rewrites hrewrites]

/-! ## The own writes -/

theorem transitioned_tasks (task : WorkTask) (status : WorkTaskStatus) (completes : Bool)
    (db : WorkDb) : ((OwnBatch.transitioned task status completes).apply db).tasks =
      (setTaskStatus task.taskId status db).tasks := by
  cases completes <;> rfl

theorem mem_setTaskStatus {db : WorkDb} {task task' : WorkTask} (hmem : task ∈ db.tasks.rows) :
    task' ∈ (setTaskStatus task.taskId status db).tasks.rows ↔
      (task' ∈ db.tasks.rows ∧ task'.taskId ≠ task.taskId) ∨
        task' = { task with status := status } :=
  Table.mem_updateKey hmem

theorem insertTask_rows {db : WorkDb} {task : WorkTask}
    (hfree : db.tasks.find? task.taskId = none) :
    (insertTask task db).tasks.rows = db.tasks.rows ++ [task] := by
  rw [insertTask, dif_pos hfree]
  rfl

theorem insertTask_batches (db : WorkDb) (task : WorkTask) :
    (insertTask task db).batches = db.batches := by
  rw [insertTask]
  split <;> rfl

theorem batchDone_transitioned {db : WorkDb} {task : WorkTask}
    (hmem : task ∈ db.tasks.rows) (hbatch : task.batchId = some batchId) :
    BatchDone batchId (setTaskStatus task.taskId status db) ↔
      status.isOpen = false ∧ OthersDone task db := by
  constructor
  · rintro ⟨-, hdone⟩
    constructor
    · exact hdone _ ((mem_setTaskStatus hmem).mpr (Or.inr rfl)) hbatch
    · intro other hother hshared hne
      exact hdone other ((mem_setTaskStatus hmem).mpr (Or.inl ⟨hother, hne⟩)) (hshared.trans hbatch)
  · rintro ⟨hfinal, hothers⟩
    refine ⟨⟨_, (mem_setTaskStatus hmem).mpr (Or.inr rfl), hbatch⟩, ?_⟩
    intro other hother hshared
    rcases (mem_setTaskStatus hmem).mp hother with ⟨hother, hne⟩ | rfl
    · exact hothers other hother (hshared.trans hbatch.symm) hne
    · exact hfinal

theorem batchDone_transitioned_other {db : WorkDb} {task : WorkTask}
    (hmem : task ∈ db.tasks.rows) (hbatch : task.batchId ≠ some batchId) :
    BatchDone batchId (setTaskStatus task.taskId status db) ↔ BatchDone batchId db := by
  apply batchDone_congr
  intro other hother
  rw [mem_setTaskStatus hmem]
  constructor
  · rintro (⟨hold, -⟩ | rfl)
    · exact hold
    · exact (hbatch hother).elim
  · intro hold
    refine Or.inl ⟨hold, ?_⟩
    intro hkey
    rw [eq_of_taskId hold hmem hkey] at hother
    exact hbatch hother

theorem mem_completeBatch {db : WorkDb} {batch' : WorkBatch} {batchId : Option ℕ}
    (hmem : batch' ∈ (completeBatch batchId db).batches.rows) :
    (batch' ∈ db.batches.rows ∧ some batch'.batchId ≠ batchId) ∨
      (some batch'.batchId = batchId ∧ batch'.status = .completed) := by
  obtain ⟨batch, hbatch, rfl⟩ := List.mem_map.mp hmem
  split
  · rename_i hkey
    exact Or.inr ⟨of_decide_eq_true hkey, rfl⟩
  · rename_i hkey
    exact Or.inl ⟨hbatch, by simpa using hkey⟩

theorem completedWhenDone_transitioned {db : WorkDb} {task : WorkTask}
    {completes : Bool} (hexact : CompletedWhenDone db)
    (hstands : (OwnBatch.transitioned task status completes).Stands db) :
    CompletedWhenDone ((OwnBatch.transitioned task status completes).apply db) := by
  obtain ⟨hmem, hopen, hcount⟩ := hstands
  have hunchanged : ∀ batch ∈ db.batches.rows, task.batchId ≠ some batch.batchId →
      (batch.status = .completed ↔
        BatchDone batch.batchId (setTaskStatus task.taskId status db)) := by
    intro batch hbatch hother
    rw [hexact batch hbatch, batchDone_transitioned_other hmem hother]
  cases hcompletes : completes with
  | true =>
      obtain ⟨-, hfinal, hothers⟩ := hcount.mp hcompletes
      intro batch' hmem'
      change batch'.status = .completed ↔
        BatchDone batch'.batchId (setTaskStatus task.taskId status db)
      rcases mem_completeBatch hmem' with ⟨hbatch, hother⟩ | ⟨hbatch, hstatus⟩
      · exact hunchanged batch' hbatch (Ne.symm hother)
      · rw [batchDone_transitioned hmem hbatch.symm]
        exact ⟨fun _ => ⟨hfinal, hothers⟩, fun _ => hstatus⟩
  | false =>
      intro batch hbatch
      change batch.status = .completed ↔
        BatchDone batch.batchId (setTaskStatus task.taskId status db)
      by_cases hshared : task.batchId = some batch.batchId
      · rw [batchDone_transitioned hmem hshared, hexact batch hbatch]
        constructor
        · rintro ⟨-, hdone⟩
          rw [hdone task hmem hshared] at hopen
          cases hopen
        · rintro ⟨hfinal, hothers⟩
          have hdone := hcount.mpr ⟨by rw [hshared]; rfl, hfinal, hothers⟩
          rw [hcompletes] at hdone
          cases hdone
      · exact hunchanged batch hbatch hshared

theorem completedWhenDone_created {db : WorkDb} {task : WorkTask}
    (hexact : CompletedWhenDone db) (hstands : (OwnBatch.created task).Stands db)
    (hmay : (OwnBatch.created task).MayCommit db) :
    CompletedWhenDone ((OwnBatch.created task).apply db) := by
  obtain ⟨hfree, hopen⟩ := hstands
  have hrows := insertTask_rows hfree
  intro batch hbatch
  rw [OwnBatch.apply, insertTask_batches] at hbatch
  rw [OwnBatch.apply]
  by_cases hshared : task.batchId = some batch.batchId
  · constructor
    · intro hstatus
      exact (hmay batch hbatch hshared.symm hstatus).elim
    · rintro ⟨-, hdone⟩
      rw [hdone task (hrows ▸ List.mem_append_right _ List.mem_cons_self) hshared] at hopen
      cases hopen
  · rw [hexact batch hbatch]
    apply Iff.symm
    apply batchDone_congr
    intro other hother
    rw [hrows, List.mem_append, List.mem_singleton]
    constructor
    · rintro (hold | rfl)
      · exact hold
      · exact (hshared hother).elim
    · exact Or.inl

theorem completedWhenDone_apply {db : WorkDb} (hexact : CompletedWhenDone db)
    (hstands : own.Stands db) (hmay : own.MayCommit db) :
    CompletedWhenDone (own.apply db) := by
  cases own with
  | nothing => exact hexact
  | transitioned task status completes =>
      exact completedWhenDone_transitioned hexact hstands
  | created task => exact completedWhenDone_created hexact hstands hmay

/-! ## Rows nobody else has locked -/

/-- The two states have the same rows under these keys. -/
def SameRows (held : ℕ → Prop) (db next : WorkDb) : Prop :=
  ∀ task, held task.taskId → (task ∈ next.tasks.rows ↔ task ∈ db.tasks.rows)

theorem SameRows.of_rewrites {db : WorkDb} (hrewrites : Rewrites touched db next) :
    SameRows (fun taskId => ¬ touched taskId) db next := by
  intro task hfree
  constructor
  · intro hmem'
    obtain ⟨old, hmem, hsame, htouched⟩ := hrewrites.back task hmem'
    rw [hsame.taskId] at hfree
    rw [htouched.resolve_left hfree]
    exact hmem
  · exact fun hmem => hrewrites.untouched hmem hfree

variable {last : WorkDb} {dispatch : DispatchRequest} {creation : CreateTaskRequest}

theorem SameRows.trans {db : WorkDb} (hfirst : SameRows held db next)
    (hsecond : SameRows held next last) : SameRows held db last :=
  fun task hheld => (hsecond task hheld).trans (hfirst task hheld)

theorem SameRows.mono {wider : ℕ → Prop} {db : WorkDb} (hsame : SameRows wider db next)
    (hwider : ∀ taskId, held taskId → wider taskId) : SameRows held db next :=
  fun task hheld => hsame task (hwider _ hheld)

theorem SameRows.find?_eq_none {db : WorkDb} {taskId : ℕ}
    (hsame : SameRows held db next) (hheld : held taskId)
    (hfree : db.tasks.find? taskId = none) : next.tasks.find? taskId = none := by
  rw [Table.find?_eq_none_iff] at hfree ⊢
  rintro task hmem rfl
  exact hfree task ((hsame task hheld).mp hmem) rfl

/-- The task of the own writes is there, or its key free. -/
def OwnBatch.Rests (db : WorkDb) : OwnBatch → Prop
  | .nothing => True
  | .transitioned task _ _ => task ∈ db.tasks.rows
  | .created task => db.tasks.find? task.taskId = none

theorem OwnBatch.Stands.rests {db : WorkDb} (hstands : own.Stands db) : own.Rests db := by
  cases own with
  | nothing => trivial
  | transitioned | created => exact hstands.1

theorem sameRows_own {db : WorkDb} (hrests : own.Rests db) :
    SameRows (fun taskId => own.holds (.task taskId) = false) db (own.apply db) := by
  intro task hfree
  cases own with
  | nothing => exact Iff.rfl
  | transitioned mine status completes =>
      have hne : task.taskId ≠ mine.taskId := by simpa [OwnBatch.holds] using hfree
      rw [transitioned_tasks, mem_setTaskStatus hrests]
      constructor
      · rintro (⟨hold, -⟩ | rfl)
        · exact hold
        · exact (hne rfl).elim
      · exact fun hold => Or.inl ⟨hold, hne⟩
  | created mine =>
      have hne : task.taskId ≠ mine.taskId := by simpa [OwnBatch.holds] using hfree
      rw [OwnBatch.apply, insertTask_rows hrests, List.mem_append, List.mem_singleton]
      constructor
      · rintro (hold | rfl)
        · exact hold
        · exact (hne rfl).elim
      · exact Or.inl

theorem SameRows.apply {db : WorkDb} (hsame : SameRows held db next)
    (hrests : own.Rests db) (hrests' : own.Rests next) :
    SameRows held (own.apply db) (own.apply next) := by
  intro task hheld
  cases own with
  | nothing => exact hsame task hheld
  | transitioned mine status completes =>
      rw [transitioned_tasks, transitioned_tasks, mem_setTaskStatus hrests,
        mem_setTaskStatus hrests', hsame task hheld]
  | created mine =>
      rw [OwnBatch.apply, OwnBatch.apply, insertTask_rows hrests,
        insertTask_rows hrests', List.mem_append, List.mem_append, hsame task hheld]

theorem SameRows.waiting {db : WorkDb} {task : WorkTask} (hsame : SameRows held db next)
    (hheld : held task.taskId) (hwaiting : Waiting db task) : Waiting next task :=
  ⟨(hsame task hheld).mpr hwaiting.1, hwaiting.2⟩

theorem SameRows.releasable {db : WorkDb} {own : OwnWrites} {warehouseId : ℕ}
    (hsame : SameRows held db next) (hheld : ∀ taskId ∈ own.released, held taskId)
    (hreleasable : Releasable own warehouseId db) : Releasable own warehouseId next :=
  fun task hmem hin => hreleasable task ((hsame task (hheld _ hin)).mp hmem) hin

/-! ## Requests that give tasks their owners -/

section Owners

variable {isLocked : WorkLock → Bool} {db next : WorkDb} {answer : OwnerAnswer}
  {request : OwnerRequest} {memory after : OwnerMemory}

theorem reserved_first (request : OwnerRequest) (db : WorkDb) :
    Reserved request db request.first := by
  cases request with
  | autoDispatch dispatch => exact fun _ _ hnone => (List.not_mem_nil hnone).elim
  | claimNext | assignTask | setWorkerAvailability => trivial

theorem reserved_sameRows
    (hsame : SameRows (fun taskId => memory.holds (.task taskId) = true) db next)
    (hreserved : Reserved request db memory) : Reserved request next memory := by
  cases memory with
  | claiming | checkConflict | assigning => exact hsame.waiting (decide_eq_true rfl) hreserved
  | checkWorker task => exact (hsame task (decide_eq_true rfl)).mpr hreserved
  | gathering own => exact hsame.releasable (fun _ hin => decide_eq_true hin) hreserved
  | locking own available =>
      exact hsame.releasable (fun _ hin => decide_eq_true hin) hreserved
  | dispatching own available taskIds =>
      apply hsame.releasable _ hreserved
      intro taskId hin
      simp [OwnerMemory.holds, OwnWrites.holds, hin]
  | start | readAvailability | selectCandidate | releasing => trivial

theorem reserved_dispatch (hreserved : Reserved request db memory)
    (hproceed : dispatchLocked dispatch isLocked db memory = .proceed after) :
    Reserved request db after := by
  rcases dispatchLocked_proceed hproceed with
    ⟨own, available, rfl, rfl⟩ | ⟨own, available, rfl, -, rfl⟩
  · exact hreserved
  · exact hreserved

theorem reserved_proceeds (hreserved : Reserved request db memory)
    (hproceed : ownerStatement request memory isLocked db = .proceed after) :
    Reserved request db after := by
  cases request with
  | claimNext claim =>
      rcases claimNextTask_proceed hproceed with rfl | rfl | ⟨task, hcandidate, rfl⟩
      · trivial
      · trivial
      · obtain ⟨hstored, heligible, -⟩ := candidate?_spec hcandidate
        exact ⟨hstored, (of_decide_eq_true heligible).2.1⟩
  | assignTask taskId assignedTo workDate =>
      rcases assignTask_proceed hproceed with
        ⟨task, hfind, -, rfl⟩ | ⟨task, rfl, hwaiting, -, rfl⟩ | ⟨task, rfl, -, rfl⟩
      · exact (mem_rows_of_find? hfind).1
      · exact ⟨hreserved, hwaiting⟩
      · exact hreserved
  | autoDispatch dispatch => exact reserved_dispatch hreserved hproceed
  | setWorkerAvailability userId status dispatch =>
      rcases setWorkerAvailability_proceed hproceed with ⟨username, -, rfl⟩ |
        ⟨row, username, rfl, rfl⟩ | ⟨row, username, rfl, -, rfl⟩ | hlocked
      · trivial
      · exact fun _ _ hnone => (List.not_mem_nil hnone).elim
      · exact releasable_assignedTasks row db dispatch.warehouseId username
      · exact reserved_dispatch hreserved hlocked

theorem owner_rewrites_dispatch (hwarehouse : request.warehouseId = dispatch.warehouseId)
    (hreserved : Reserved request db memory)
    (hcommit : dispatchLocked dispatch isLocked db memory = .commit next answer) :
    Rewrites (fun taskId => memory.holds (.task taskId) = true) db next ∧
      BatchesStarted db next := by
  obtain ⟨own, available, taskIds, rfl, rfl⟩ := dispatchLocked_commit hcommit
  have hreleasable : Releasable own dispatch.warehouseId db := hwarehouse ▸ hreserved
  constructor
  · apply (rewrites_autoDispatch available taskIds hreleasable).mono
    intro taskId htouched
    simpa [OwnerMemory.holds, OwnWrites.holds] using htouched
  · apply BatchesStarted.of_batches_eq
    rw [autoDispatch_batches, OwnWrites.apply_batches]

/-- A commit rewrites locked tasks, neither opening nor closing one, and completes no
batch. -/
theorem owner_rewrites (hreserved : Reserved request db memory)
    (hcommit : ownerStatement request memory isLocked db = .commit next answer) :
    Rewrites (fun taskId => memory.holds (.task taskId) = true) db next ∧
      BatchesStarted db next := by
  cases request with
  | claimNext claim =>
      rcases claimNextTask_commit hcommit with rfl | ⟨task, rfl, -, rfl⟩
      · exact ⟨.of_tasks_eq rfl, .of_batches_eq rfl⟩
      · constructor
        · apply (rewrites_claimTask hreserved.1 hreserved.2).mono
          rintro _ rfl
          exact decide_eq_true rfl
        · exact batchesStarted_startBatch task.batchId (claimTask task.taskId claim.username db)
  | assignTask taskId assignedTo workDate =>
      obtain ⟨task, rfl, rfl⟩ := assignTask_commit hcommit
      refine ⟨(rewrites_assignTo hreserved.1 hreserved.2).mono ?_, .of_batches_eq rfl⟩
      rintro _ rfl
      exact decide_eq_true rfl
  | autoDispatch dispatch => exact owner_rewrites_dispatch rfl hreserved hcommit
  | setWorkerAvailability userId status dispatch =>
      exact owner_rewrites_dispatch rfl hreserved (setWorkerAvailability_commit hcommit)

end Owners

/-! ## What a commit leaves to the others -/

/-- Own writes hold the head of the audit chain. -/
theorem OwnBatch.eq_nothing (hfree : own.holds .auditChain = false) : own = .nothing := by
  cases own with
  | nothing => rfl
  | transitioned | created => simp [OwnBatch.holds] at hfree

theorem othersDone_rewrites {db : WorkDb} {task : WorkTask}
    (hrewrites : Rewrites touched db next) : OthersDone task next ↔ OthersDone task db := by
  constructor
  · intro hothers other hmem hshared hne
    obtain ⟨other', hmem', hsame, -⟩ := hrewrites.forth other hmem
    rw [← hsame.isOpen]
    exact hothers other' hmem' (hsame.batchId.trans hshared) (hsame.taskId ▸ hne)
  · intro hothers other' hmem' hshared hne
    obtain ⟨other, hmem, hsame, -⟩ := hrewrites.back other' hmem'
    rw [hsame.isOpen]
    exact hothers other hmem (hsame.batchId.symm.trans hshared) (hsame.taskId ▸ hne)

/-- A commit that neither ends nor creates a task leaves what another transaction has
counted. -/
theorem OwnBatch.Stands.rewrites {db : WorkDb} (hstands : own.Stands db)
    (hrewrites : Rewrites touched db next)
    (hsame : SameRows (fun taskId => own.holds (.task taskId) = true) db next) :
    own.Stands next := by
  cases own with
  | nothing => trivial
  | created task =>
      exact ⟨hsame.find?_eq_none (decide_eq_true (Or.inl rfl)) hstands.1, hstands.2⟩
  | transitioned task status completes =>
      obtain ⟨hmem, hopen, hcount⟩ := hstands
      refine ⟨(hsame task (decide_eq_true (Or.inl rfl))).mpr hmem, hopen, ?_⟩
      rw [hcount, othersDone_rewrites hrewrites]

/-! ## The outline -/

section Outline

variable {isLocked : WorkLock → Bool} {db next : WorkDb} {answer : BatchAnswer}
  {request : BatchRequest} {memory after : BatchMemory}

/-- The points a transition goes through. -/
theorem transitionTask_proceed
    (hproceed : transitionTask transition isLocked db memory = .proceed after) :
    (∃ task ∈ db.tasks.rows, isLocked (.task task.taskId) = false ∧ after = .transitioning task) ∨
    (∃ task status, memory = .transitioning task ∧
      nextStatus db transition task = .ok (some status) ∧ isLocked .auditChain = false ∧
      ((task.batchId.isSome = true ∧ status.isOpen = false ∧ after = .counting task status) ∨
        (¬ (task.batchId.isSome = true ∧ status.isOpen = false) ∧
          after = transition.following task (.transitioned task status false)))) ∨
    ∃ task status, memory = .counting task status ∧
      after = transition.following task (.transitioned task status
        (remainingTasks task.batchId (setTaskStatus task.taskId status db) = 0)) := by
  rw [transitionTask.eq_def] at hproceed
  split at hproceed
  · split at hproceed
    · cases hproceed
    · rename_i task hfind
      split at hproceed <;> cases hproceed
      rename_i hfree
      exact Or.inl ⟨task, (mem_rows_of_find? hfind).1, by simpa using hfree, rfl⟩
  · rename_i task
    split at hproceed
    · cases hproceed
    · split at hproceed <;> cases hproceed
    · rename_i status hnext
      split at hproceed
      · cases hproceed
      · rename_i hlocked
        have hfree : isLocked .auditChain = false := by simpa using hlocked
        split at hproceed <;> cases hproceed
        · rename_i hends
          exact Or.inr (Or.inl
            ⟨task, status, rfl, hnext, hfree, Or.inl ⟨hends.1, hends.2, rfl⟩⟩)
        · rename_i hstays
          exact Or.inr (Or.inl ⟨task, status, rfl, hnext, hfree, Or.inr ⟨hstays, rfl⟩⟩)
  · rename_i task status
    cases hproceed
    exact Or.inr (Or.inr ⟨task, status, rfl, rfl⟩)
  · cases hproceed

theorem transitions_isOpen {action : TaskAction} {allowed : List WorkTaskStatus}
    {next : WorkTaskStatus} (hrow : transitions action = some (allowed, next)) :
    ∀ status ∈ allowed, status.isOpen = true := by
  cases action <;> cases hrow <;> decide

/-- Only open tasks go through a transition. -/
theorem nextStatus_isOpen {task : WorkTask}
    (hnext : nextStatus db transition task = .ok (some status)) :
    task.status.isOpen = true := by
  rw [nextStatus] at hnext
  obtain ⟨-, -, hnext⟩ := bind_eq_ok.mp hnext
  cases hrow : transitions transition.action with
  | none =>
      simp only [hrow] at hnext
      obtain ⟨-, -, hnext⟩ := bind_eq_ok.mp hnext
      cases hnext
  | some row =>
      simp only [hrow] at hnext
      obtain ⟨_, hstatus, -⟩ := bind_eq_ok.mp hnext
      exact transitions_isOpen hrow _ (require_eq_ok.mp hstatus)

/-- What is remaining when the transaction sees its own transition. -/
theorem remainingTasks_eq_zero_iff {task : WorkTask} (hmem : task ∈ db.tasks.rows)
    (hfinal : status.isOpen = false) :
    remainingTasks task.batchId (setTaskStatus task.taskId status db) = 0 ↔
      OthersDone task db := by
  rw [remainingTasks, List.length_eq_zero_iff, Table.select, List.filter_eq_nil_iff]
  constructor
  · intro hnone other hother hshared hne
    by_contra hopen
    apply hnone other ((mem_setTaskStatus hmem).mpr (Or.inl ⟨hother, hne⟩))
    exact decide_eq_true ⟨hshared, by simpa using hopen⟩
  · intro hothers other hother hcounted
    obtain ⟨hshared, hopen⟩ := of_decide_eq_true hcounted
    rcases (mem_setTaskStatus hmem).mp hother with ⟨hother, hne⟩ | rfl
    · rw [hothers other hother hshared hne] at hopen
      cases hopen
    · rw [hfinal] at hopen
      cases hopen

theorem known_following {task : WorkTask} (hstands : own.Stands db) :
    batchKnown request (transition.following task own) db := by
  rw [TransitionRequest.following]
  split
  · exact ⟨hstands, trivial⟩
  · exact hstands

theorem holds_following {task : WorkTask} (lock : WorkLock) :
    (transition.following task own).holds lock = own.holds lock := by
  rw [TransitionRequest.following]
  split
  · exact Bool.or_false _
  · rfl

theorem createTask_proceed (hproceed : createTask creation isLocked db memory = .proceed after) :
    after = .inserting ∨ (isLocked (.task creation.taskId) = false ∧
      isLocked .auditChain = false ∧ db.tasks.find? creation.taskId = none ∧
      after = .serving (.created creation.row) creation.owner creation.owner.first) := by
  rw [createTask.eq_def] at hproceed
  split at hproceed
  · split at hproceed <;> cases hproceed
    exact Or.inl rfl
  · split at hproceed
    · cases hproceed
    · rename_i hfree
      split at hproceed <;> cases hproceed
      rename_i hnew
      obtain ⟨htask, hchain⟩ := not_or.mp hfree
      exact Or.inr ⟨by simpa using htask, by simpa using hchain, by simpa using hnew, rfl⟩
  · cases hproceed

/-- Recording an exception changes no task. -/
theorem transitionTask_commit
    (hcommit : transitionTask transition isLocked db memory = .commit next answer) :
    next = db := by
  rw [transitionTask.eq_def] at hcommit
  split at hcommit
  · split at hcommit
    · cases hcommit
    · split at hcommit <;> cases hcommit
  · split at hcommit
    · cases hcommit
    · split at hcommit <;> cases hcommit
      rfl
    · split at hcommit
      · cases hcommit
      · split at hcommit <;> cases hcommit
  · cases hcommit
  · cases hcommit

theorem createTask_ne_commit
    (hcommit : createTask creation isLocked db memory = .commit next answer) : False := by
  rw [createTask.eq_def] at hcommit
  split at hcommit
  · split at hcommit <;> cases hcommit
  · split at hcommit
    · cases hcommit
    · split at hcommit <;> cases hcommit
  · cases hcommit

theorem batchStatement_proceed
    (hproceed : batchStatement request memory isLocked db = .proceed after) :
    (∃ own inner step later, memory = .serving own inner step ∧
      ownerStatement inner step isLocked (own.apply db) = .proceed later ∧
      after = .serving own inner later) ∨
    (∃ transition, request = .transition transition ∧
      transitionTask transition isLocked db memory = .proceed after) ∨
    ∃ creation, request = .createTask creation ∧
      createTask creation isLocked db memory = .proceed after := by
  cases memory with
  | serving own inner step =>
      obtain ⟨later, hlater, rfl⟩ := Outcome.map_eq_proceed hproceed
      exact Or.inl ⟨own, inner, step, later, rfl, hlater, rfl⟩
  | closing own => cases hproceed
  | start | inserting | transitioning task | counting task status =>
      cases request with
      | transition transition => exact Or.inr (Or.inl ⟨transition, rfl, hproceed⟩)
      | createTask creation => exact Or.inr (Or.inr ⟨creation, rfl, hproceed⟩)
      | owner inner => cases hproceed

/-- A commit is of the owner's request, of the own writes, or of nothing. -/
theorem batchStatement_commit
    (hcommit : batchStatement request memory isLocked db = .commit next answer) :
    (∃ own inner step innerAnswer, memory = .serving own inner step ∧
      ownerStatement inner step isLocked (own.apply db) = .commit next innerAnswer) ∨
    (∃ own, memory = .closing own ∧ next = own.apply db) ∨
    memory.own = .nothing ∧ next = db := by
  cases memory with
  | serving own inner step =>
      obtain ⟨innerAnswer, hinner⟩ := Outcome.map_eq_commit hcommit
      exact Or.inl ⟨own, inner, step, innerAnswer, rfl, hinner⟩
  | closing own =>
      cases hcommit
      exact Or.inr (Or.inl ⟨own, rfl, rfl⟩)
  | start | inserting | transitioning task | counting task status =>
      refine Or.inr (Or.inr ⟨rfl, ?_⟩)
      cases request with
      | owner inner => cases hcommit
      | transition transition =>
          simp only [batchStatement] at hcommit
          exact transitionTask_commit hcommit
      | createTask creation =>
          simp only [batchStatement] at hcommit
          exact (createTask_ne_commit hcommit).elim

theorem batch_acquires {lock : WorkLock}
    (hproceed : batchStatement request memory isLocked db = .proceed after)
    (hheld : after.holds lock = true) :
    memory.holds lock = true ∨ isLocked lock = false := by
  rcases batchStatement_proceed hproceed with
    ⟨own, inner, step, later, rfl, hlater, rfl⟩ | ⟨transition, -, hstep⟩ |
      ⟨creation, -, hstep⟩
  · rcases Bool.or_eq_true_iff.mp hheld with hown | hinner
    · exact Or.inl (Bool.or_eq_true_iff.mpr (Or.inl hown))
    · exact (owner_acquires hlater hinner).imp_left
        fun hold => Bool.or_eq_true_iff.mpr (Or.inr hold)
  · rcases transitionTask_proceed hstep with ⟨task, -, hfree, rfl⟩ |
      ⟨task, status, rfl, -, hfree, ⟨-, -, rfl⟩ | ⟨-, rfl⟩⟩ | ⟨task, status, rfl, rfl⟩
    · obtain rfl := of_decide_eq_true hheld
      exact Or.inr hfree
    · rcases of_decide_eq_true hheld with rfl | rfl
      · exact Or.inl (decide_eq_true rfl)
      · exact Or.inr hfree
    · rw [holds_following] at hheld
      rcases of_decide_eq_true hheld with rfl | rfl
      · exact Or.inl (decide_eq_true rfl)
      · exact Or.inr hfree
    · rw [holds_following] at hheld
      exact Or.inl hheld
  · rcases createTask_proceed hstep with rfl | ⟨hfree, hchain, -, rfl⟩
    · cases hheld
    · rcases Bool.or_eq_true_iff.mp hheld with hown | hinner
      · rcases of_decide_eq_true hown with rfl | rfl
        · exact Or.inr hfree
        · exact Or.inr hchain
      · rw [show creation.owner.first.holds lock = false from
          ownerProgram.start_holds creation.owner lock] at hinner
        cases hinner

theorem batch_proceeds (hknown : batchKnown request memory db)
    (hproceed : batchStatement request memory isLocked db = .proceed after) :
    batchKnown request after db := by
  rcases batchStatement_proceed hproceed with
    ⟨own, inner, step, later, rfl, hlater, rfl⟩ | ⟨transition, -, hstep⟩ |
      ⟨creation, -, hstep⟩
  · exact ⟨hknown.1, reserved_proceeds hknown.2 hlater⟩
  · rcases transitionTask_proceed hstep with ⟨task, hmem, -, rfl⟩ |
      ⟨task, status, rfl, hnext, -, ⟨hbatch, hfinal, rfl⟩ | ⟨hstays, rfl⟩⟩ |
        ⟨task, status, rfl, rfl⟩
    · exact hmem
    · exact ⟨hknown, nextStatus_isOpen hnext, hbatch, hfinal⟩
    · apply known_following
      refine ⟨hknown, nextStatus_isOpen hnext, ?_⟩
      constructor
      · intro hcompletes
        cases hcompletes
      · rintro ⟨hbatch, hfinal, -⟩
        exact (hstays ⟨hbatch, hfinal⟩).elim
    · obtain ⟨hmem, hopen, hbatch, hfinal⟩ := hknown
      apply known_following
      refine ⟨hmem, hopen, ?_⟩
      rw [decide_eq_true_iff, remainingTasks_eq_zero_iff hmem hfinal]
      exact ⟨fun hothers => ⟨hbatch, hfinal, hothers⟩, fun hall => hall.2.2⟩
  · rcases createTask_proceed hstep with rfl | ⟨-, -, hnew, rfl⟩
    · trivial
    · exact ⟨⟨hnew, rfl⟩, reserved_first creation.owner _⟩

/-- A commit is the own writes, and what the owner's request makes of them. -/
structure CommitSpec (memory : BatchMemory) (db next : WorkDb) : Prop where
  stands : memory.own.Stands db
  rewrites : Rewrites (fun taskId => memory.holds (.task taskId) = true)
    (memory.own.apply db) next
  started : BatchesStarted (memory.own.apply db) next

theorem batch_commit_spec (hknown : batchKnown request memory db)
    (hcommit : batchStatement request memory isLocked db = .commit next answer) :
    CommitSpec memory db next := by
  rcases batchStatement_commit hcommit with
    ⟨own, inner, step, innerAnswer, rfl, hinner⟩ | ⟨own, rfl, rfl⟩ | ⟨hown, rfl⟩
  · obtain ⟨hrewrites, hstarted⟩ := owner_rewrites hknown.2 hinner
    refine ⟨hknown.1, hrewrites.mono ?_, hstarted⟩
    exact fun taskId hheld => Bool.or_eq_true_iff.mpr (Or.inr hheld)
  · exact ⟨hknown, .of_tasks_eq rfl, .of_batches_eq rfl⟩
  · constructor
    · rw [hown]
      trivial
    · rw [hown]
      exact .of_tasks_eq rfl
    · rw [hown]
      exact .of_batches_eq rfl

theorem own_holds (lock : WorkLock) (hheld : memory.own.holds lock = true) :
    memory.holds lock = true := by
  cases memory with
  | serving own inner step => exact Bool.or_eq_true_iff.mpr (Or.inl hheld)
  | closing own => exact hheld
  | start | inserting | transitioning task | counting task status => cases hheld

theorem CommitSpec.sameRows (hspec : CommitSpec memory db next) :
    SameRows (fun taskId => memory.holds (.task taskId) = false) db next := by
  apply SameRows.trans ((sameRows_own hspec.stands.rests).mono _)
    ((SameRows.of_rewrites hspec.rewrites).mono _)
  · intro taskId hfree
    by_contra hown
    rw [own_holds _ (by simpa using hown)] at hfree
    cases hfree
  · intro taskId hfree hheld
    rw [hfree] at hheld
    cases hheld

theorem batch_stable {other : BatchRequest} {memory' : BatchMemory}
    (hspec : CommitSpec memory db next) (hknown : batchKnown other memory' db)
    (hapart : ∀ lock, memory.holds lock = true → memory'.holds lock = false) :
    batchKnown other memory' next := by
  have hunlocked : ∀ lock, memory'.holds lock = true → memory.holds lock = false := by
    intro lock hheld
    by_contra hboth
    rw [hapart lock (by simpa using hboth)] at hheld
    cases hheld
  have hsame : SameRows (fun taskId => memory'.holds (.task taskId) = true) db next :=
    hspec.sameRows.mono fun taskId hheld => hunlocked _ hheld
  have hstands : memory'.own.Stands db → memory'.own.Stands next := by
    intro hstands
    -- only one of the two holds the head of the audit chain
    cases hchain : memory.own.holds .auditChain with
    | true =>
        have hfree : memory'.own.holds .auditChain = false := by
          by_contra hheld
          have hlocked := own_holds .auditChain (by simpa using hheld)
          rw [hapart _ (own_holds _ hchain)] at hlocked
          cases hlocked
        rw [OwnBatch.eq_nothing hfree]
        trivial
    | false =>
        have hrewrites := hspec.rewrites
        rw [OwnBatch.eq_nothing hchain] at hrewrites
        exact hstands.rewrites hrewrites (hsame.mono fun taskId hheld => own_holds _ hheld)
  cases memory' with
  | start | inserting => trivial
  | transitioning task => exact (hsame task (decide_eq_true rfl)).mpr hknown
  | counting task status =>
      exact ⟨(hsame task (decide_eq_true (Or.inl rfl))).mpr hknown.1, hknown.2⟩
  | closing own => exact hstands hknown
  | serving own inner step =>
      refine ⟨hstands hknown.1, reserved_sameRows ?_ hknown.2⟩
      apply SameRows.apply (hsame.mono _) hknown.1.rests (hstands hknown.1).rests
      exact fun taskId hheld => Bool.or_eq_true_iff.mpr (Or.inr hheld)

end Outline

/-- A commit is allowed unless it creates a task under a completed batch. -/
def batchAllowed (_ : BatchRequest) (memory : BatchMemory) (db : WorkDb) : Prop :=
  memory.own.MayCommit db

instance (request : BatchRequest) (memory : BatchMemory) (db : WorkDb) :
    Decidable (batchAllowed request memory db) :=
  inferInstanceAs (Decidable (memory.own.MayCommit db))

theorem batch_outline :
    Outline batchProgram CompletedWhenDone batchKnown batchAllowed fun _ _ _ _ _ => True where
  start := by
    intro request db _
    cases request with
    | transition | createTask => trivial
    | owner request => exact ⟨trivial, reserved_first request db⟩
  acquires := fun _ _ _ _ _ hproceed _ hheld => batch_acquires hproceed hheld
  proceeds := fun _ _ _ _ _ _ hknown hproceed => batch_proceeds hknown hproceed
  commits := by
    intro request memory isLocked db next answer hexact hknown hallowed hcommit
    have hspec := batch_commit_spec hknown hcommit
    exact (completedWhenDone_apply hexact hspec.stands hallowed).rewrites hspec.rewrites
      hspec.started
  stable := fun _ _ _ _ _ _ _ _ _ hknown hother _ hapart _ hcommit =>
    batch_stable (batch_commit_spec hknown hcommit) hother hapart

/-- In every run in which no task is created under a completed batch, a batch is completed
exactly when it has tasks and all of them are done. -/
theorem batch_completed_when_done {Ticket : Type*} [Fintype Ticket] [DecidableEq Ticket]
    (requests : Ticket → BatchRequest) (db : WorkDb) (hexact : CompletedWhenDone db)
    (steps : List (Step Ticket))
    (hclear : Along (Sessions.serve batchProgram requests)
      (Clear batchProgram requests batchAllowed fun _ _ _ _ _ => True)
      (opened batchProgram requests db) steps) :
    CompletedWhenDone (run (Sessions.serve batchProgram requests)
      (opened batchProgram requests db) steps).world :=
  (sound_run batch_outline hexact hclear).inv

namespace PackNote

/-- The task in the hands of a worker. -/
def inHand (taskType : WorkTaskType) (username : String) (taskId : ℕ) : WorkTask where
  taskId := taskId
  batchId := some 1
  warehouseId := 1
  taskType := taskType
  status := .inProgress
  priority := 50
  claimedBy := some username

/-- The last two tasks of a pack note, both in work. -/
def lastTwo : WorkDb where
  tasks := (Table.empty.insert fun taskId => inHand .picking "ana" taskId).insert
    fun taskId => inHand .packing "ben" taskId
  batches := Table.empty.insert fun batchId => ⟨batchId, 1, .inProgress⟩
  workers := [⟨1, "ana", true, true, [1], [.picking, .packing]⟩,
    ⟨2, "ben", true, true, [1], [.picking, .packing]⟩]

theorem lastTwo_exact : CompletedWhenDone lastTwo := by decide

def completes (taskId : ℕ) (username : String) : BatchRequest :=
  .transition ⟨taskId, username, false, .complete, false, none, 1, 1⟩

/-- Both tasks are completed, and a third is created. -/
def closings : Fin 3 → BatchRequest
  | 0 => completes 1 "ana"
  | 1 => completes 2 "ben"
  | 2 => .createTask ⟨3, some 1, 1, .other, 50, none, 1, 1, fun _ _ => 0⟩

def oneByOne (ticket : Fin 3) : List (Step (Fin 3)) :=
  [.advance ticket, .advance ticket, .advance ticket, .advance ticket, .advance ticket]

/-- Each completion has locked its task before the other counts; the second then waits for
the head of the audit chain. -/
def together : List (Step (Fin 3)) :=
  [.advance 0, .advance 1, .advance 0, .advance 1, .advance 0, .advance 1, .advance 0,
    .advance 1, .advance 1, .advance 1]

end PackNote

open PackNote in
/-- The third task is created first, and the two completions run at the same time. -/
theorem batch_completed_when_done_together :
    Along (Sessions.serve batchProgram closings)
      (Clear batchProgram closings batchAllowed fun _ _ _ _ _ => True)
      (opened batchProgram closings lastTwo) (oneByOne 2 ++ together) ∧
      CompletedWhenDone (run (Sessions.serve batchProgram closings)
        (opened batchProgram closings lastTwo) (oneByOne 2 ++ together)).world := by
  have hclear : Along (Sessions.serve batchProgram closings)
      (Clear batchProgram closings batchAllowed fun _ _ _ _ _ => True)
      (opened batchProgram closings lastTwo) (oneByOne 2 ++ together) := by
    decide +kernel
  exact ⟨hclear, batch_completed_when_done _ _ lastTwo_exact _ hclear⟩

open PackNote in
/-- The two completions complete the batch, also at the same time; a task created after
both leaves it completed above the task. -/
theorem batch_left_completed :
    (run (Sessions.serve batchProgram closings)
      (opened batchProgram closings lastTwo) together).world.batches.rows.map WorkBatch.status =
        [.completed] ∧
      ¬ CompletedWhenDone (run (Sessions.serve batchProgram closings)
        (opened batchProgram closings lastTwo) (oneByOne 0 ++ oneByOne 1 ++ oneByOne 2)).world :=
  ⟨by decide +kernel, by decide +kernel⟩

end SentryWms.WorkControl
