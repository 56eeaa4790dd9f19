import Mathlib.Data.Fintype.Basic
import SentryWms.Relational.Sessions
import SentryWms.WorkControl.Tasks

/-!
# One worker does not both pick and pack

Claiming, assigning, dispatching and reporting a worker's availability, each as the
statements of one transaction.  All of them look for a counterpart task that is already
the worker's; only dispatch holds the counterpart while it looks.
-/

namespace SentryWms.WorkControl

open Relational Sessions

/-! ## The transactions -/

inductive OwnerRequest
  | claimNext (request : ClaimRequest)
  | assignTask (taskId : ℕ) (assignedTo : Option String) (workDate : ℕ)
  | autoDispatch (request : DispatchRequest)
  | setWorkerAvailability (userId : ℕ) (status : Availability) (request : DispatchRequest)

/-- What a change of availability has written before it dispatches. -/
structure OwnWrites where
  status : Option WorkerStatus
  released : List ℕ
  deriving DecidableEq, Repr

def OwnWrites.none : OwnWrites := ⟨.none, []⟩

/-- The tables as the transaction sees them. -/
def OwnWrites.apply (own : OwnWrites) (db : WorkDb) : WorkDb :=
  releaseTasks own.released (own.status.elim db fun row => reportStatus row db)

/-- The next statement, with what the earlier ones have read. -/
inductive OwnerMemory
  | start
  | readAvailability
  | selectCandidate
  | claiming (task : WorkTask)
  | checkWorker (task : WorkTask)
  | checkConflict (task : WorkTask)
  | assigning (task : WorkTask)
  | releasing (row : WorkerStatus) (username : String)
  | gathering (own : OwnWrites)
  | locking (own : OwnWrites) (available : List Worker)
  | dispatching (own : OwnWrites) (available : List Worker) (taskIds : List ℕ)
  deriving DecidableEq, Repr

inductive WorkLock
  | task (taskId : ℕ)
  | workerStatus (warehouseId userId workDate : ℕ)
  /-- The head of the audit chain, which every audit entry locks to the commit. -/
  | auditChain
  deriving DecidableEq, Repr

def OwnWrites.holds (own : OwnWrites) : WorkLock → Bool
  | .task taskId => taskId ∈ own.released
  | .workerStatus warehouseId userId workDate =>
      own.status.any fun row => row.uniqueKey = (warehouseId, userId, workDate)
  | .auditChain => false

def OwnerMemory.holds : OwnerMemory → WorkLock → Bool
  | .claiming task | .checkWorker task | .checkConflict task | .assigning task =>
      fun lock => lock = .task task.taskId
  | .releasing row _ => OwnWrites.holds ⟨some row, []⟩
  | .gathering own | .locking own _ => own.holds
  | .dispatching own _ taskIds => fun lock =>
      own.holds lock || match lock with
        | .task taskId => taskId ∈ taskIds
        | .workerStatus .. | .auditChain => false
  | _ => fun _ => false

inductive OwnerAnswer
  | claimed (task : Option WorkTask)
  | assigned
  | dispatched
  | refused (error : ServiceError)
  deriving DecidableEq, Repr

abbrev OwnerOutcome := Outcome WorkDb OwnerMemory OwnerAnswer

/-- `claim_next_task`. -/
def claimNextTask (request : ClaimRequest) (isLocked : WorkLock → Bool) (db : WorkDb) :
    OwnerMemory → OwnerOutcome
  | .start =>
      match currentTask? db request.username with
      | some current => .commit db (.claimed (some current))
      | none => .proceed .readAvailability
  | .readAvailability =>
      if isAvailable db request.warehouseId request.workDate request.username then
        .proceed .selectCandidate
      else .commit db (.claimed none)
  | .selectCandidate =>
      match candidate? db request fun taskId => isLocked (.task taskId) with
      | some task => .proceed (.claiming task)
      | none => .commit db (.claimed none)
  | .claiming task =>
      -- `ux_work_tasks_one_active_per_worker`
      if (currentTask? db request.username).isSome then
        .rollback (.refused (.integrityError "ux_work_tasks_one_active_per_worker"))
      else
        .commit (startBatch task.batchId (claimTask task.taskId request.username db))
          (.claimed (some task))
  | _ => .wait

/-- The checks `assign_task` makes of the worker before it looks for a conflict. -/
def assignable (db : WorkDb) (task : WorkTask) (workDate : ℕ) (assignedTo : String) :
    Except ServiceError Unit := do
  let worker ← orThrow
    ((eligibleWorkers db task.warehouseId).find? fun worker =>
      worker.username = assignedTo ∧ task.taskType ∈ worker.taskTypes)
    (.valueError "Employee is not eligible for this work type")
  require (isAvailable db task.warehouseId workDate worker.username)
    (.valueError "Employee is not currently available for new work")

/-- `assign_task`. -/
def assignTask (taskId : ℕ) (assignedTo : Option String) (workDate : ℕ)
    (isLocked : WorkLock → Bool) (db : WorkDb) : OwnerMemory → OwnerOutcome
  | .start =>
      match db.tasks.find? taskId with
      | none => .rollback (.refused (.httpError 404 "Task not found"))
      | some task =>
          if isLocked (.task taskId) then .wait else .proceed (.checkWorker task)
  | .checkWorker task =>
      if (task.status = .queued ∨ task.status = .assigned) ∧ task.claimedBy = none then
        match assignedTo.elim (.ok ()) (assignable db task workDate) with
        | .ok _ => .proceed (.checkConflict task)
        | .error error => .rollback (.refused error)
      else .rollback (.refused (.valueError "Only waiting tasks can be reassigned"))
  | .checkConflict task =>
      if assignedTo.any (counterpartOwned db task) then
        .rollback (.refused (.valueError
          "Picker and packer for one Pack Note must be different employees"))
      else .proceed (.assigning task)
  | .assigning task => .commit (assignTo task.taskId assignedTo db) .assigned
  | _ => .wait

/-- `auto_dispatch`, from the tasks it locks to its commit. -/
def dispatchLocked (request : DispatchRequest) (isLocked : WorkLock → Bool)
    (db : WorkDb) : OwnerMemory → OwnerOutcome
  | .gathering own =>
      .proceed (.locking own
        (availableWorkers (own.apply db) request.warehouseId request.workDate))
  | .locking own available =>
      let taskIds := (openTasks db request.warehouseId).map WorkTask.taskId
      if taskIds.any fun taskId => isLocked (.task taskId) then .wait
      else .proceed (.dispatching own available taskIds)
  | .dispatching own available taskIds =>
      .commit (autoDispatch request available taskIds (own.apply db)) .dispatched
  | _ => .wait

/-- `set_worker_availability`, up to the dispatch it ends in. -/
def setWorkerAvailability (userId : ℕ) (status : Availability)
    (request : DispatchRequest) (isLocked : WorkLock → Bool) (db : WorkDb) :
    OwnerMemory → OwnerOutcome
  | .start =>
      match db.workers.find? fun worker => worker.userId = userId with
      | none => .rollback (.refused (.httpError 404 "Employee not found"))
      | some worker =>
          if worker.worksIn request.warehouseId then
            if isLocked (.workerStatus request.warehouseId userId request.workDate) then
              .wait
            else
              .proceed (.releasing
                ⟨request.warehouseId, userId, request.workDate, status⟩ worker.username)
          else
            .rollback (.refused (.valueError "Employee is not active in this warehouse"))
  | .releasing row username =>
      if status = .available then .proceed (.gathering ⟨some row, []⟩)
      else
        let released := (assignedTasks db request.warehouseId username).map WorkTask.taskId
        if released.any fun taskId => isLocked (.task taskId) then .wait
        else .proceed (.gathering ⟨some row, released⟩)
  | memory => dispatchLocked request isLocked db memory

def ownerStatement (request : OwnerRequest) (memory : OwnerMemory)
    (isLocked : WorkLock → Bool) (db : WorkDb) : OwnerOutcome :=
  match request with
  | .claimNext request => claimNextTask request isLocked db memory
  | .assignTask taskId assignedTo workDate =>
      assignTask taskId assignedTo workDate isLocked db memory
  | .autoDispatch request => dispatchLocked request isLocked db memory
  | .setWorkerAvailability userId status request =>
      setWorkerAvailability userId status request isLocked db memory

/-- Where a request begins. -/
def OwnerRequest.first : OwnerRequest → OwnerMemory
  | .autoDispatch _ => .gathering .none
  | _ => .start

def ownerProgram : Program WorkDb OwnerRequest OwnerMemory WorkLock OwnerAnswer where
  start := OwnerRequest.first
  holds := fun _ => OwnerMemory.holds
  statement := ownerStatement
  start_holds := by
    intro request lock
    cases request with
    | autoDispatch request => cases lock <;> rfl
    | claimNext | assignTask | setWorkerAvailability => rfl

/-! ## What a commit may rewrite -/

/-- The same task, neither closed nor reopened; one in work stays as it is. -/
structure SameTask (task task' : WorkTask) : Prop where
  taskId : task'.taskId = task.taskId
  batchId : task'.batchId = task.batchId
  warehouseId : task'.warehouseId = task.warehouseId
  taskType : task'.taskType = task.taskType
  isOpen : task'.status.isOpen = task.status.isOpen
  active : task.status.isActive = true → task' = task

theorem SameTask.refl (task : WorkTask) : SameTask task task :=
  ⟨rfl, rfl, rfl, rfl, rfl, fun _ => rfl⟩

theorem SameTask.trans {first second third : WorkTask} (hfirst : SameTask first second)
    (hsecond : SameTask second third) : SameTask first third where
  taskId := hsecond.taskId.trans hfirst.taskId
  batchId := hsecond.batchId.trans hfirst.batchId
  warehouseId := hsecond.warehouseId.trans hfirst.warehouseId
  taskType := hsecond.taskType.trans hfirst.taskType
  isOpen := hsecond.isOpen.trans hfirst.isOpen
  active := by
    intro hactive
    obtain rfl := hfirst.active hactive
    exact hsecond.active hactive

variable {task' other : WorkTask} {taskId : ℕ} {username : String}
  {assignedTo : Option String} {taskIds : List ℕ} {touched : ℕ → Prop} {db' : WorkDb}
  {available : List Worker} {own : OwnWrites} {request : DispatchRequest}

theorem SameTask.counterparts {task other' : WorkTask} (htask : SameTask task task')
    (hother : SameTask other other') :
    Counterparts task' other' ↔ Counterparts task other := by
  simp only [Counterparts, WorkTask.isPickOrPack, htask.batchId, htask.taskType,
    hother.batchId, hother.taskType]

/-- The tasks are the same ones, and only touched ones are rewritten. -/
structure Rewrites (touched : ℕ → Prop) (db db' : WorkDb) : Prop where
  forth : ∀ task ∈ db.tasks.rows, ∃ task' ∈ db'.tasks.rows,
    SameTask task task' ∧ (touched task.taskId ∨ task' = task)
  back : ∀ task' ∈ db'.tasks.rows, ∃ task ∈ db.tasks.rows,
    SameTask task task' ∧ (touched task.taskId ∨ task' = task)

namespace Rewrites

variable {touched : ℕ → Prop} {db db' db'' : WorkDb}

theorem of_tasks_eq (htasks : db'.tasks.rows = db.tasks.rows) : Rewrites touched db db' where
  forth := fun task hmem => ⟨task, htasks ▸ hmem, .refl task, Or.inr rfl⟩
  back := fun task hmem => ⟨task, htasks ▸ hmem, .refl task, Or.inr rfl⟩

theorem trans (hfirst : Rewrites touched db db') (hsecond : Rewrites touched db' db'') :
    Rewrites touched db db'' where
  forth := by
    intro task hmem
    obtain ⟨task', hmem', hsame, htouched⟩ := hfirst.forth task hmem
    obtain ⟨task'', hmem'', hsame', htouched'⟩ := hsecond.forth task' hmem'
    refine ⟨task'', hmem'', hsame.trans hsame', ?_⟩
    rw [hsame.taskId] at htouched'
    rcases htouched with htouched | rfl
    · exact Or.inl htouched
    · exact htouched'
  back := by
    intro task'' hmem''
    obtain ⟨task', hmem', hsame', htouched'⟩ := hsecond.back task'' hmem''
    obtain ⟨task, hmem, hsame, htouched⟩ := hfirst.back task' hmem'
    refine ⟨task, hmem, hsame.trans hsame', ?_⟩
    rw [hsame.taskId] at htouched'
    rcases htouched with htouched | rfl
    · exact Or.inl htouched
    · exact htouched'

theorem mono {wider : ℕ → Prop} (hrewrites : Rewrites touched db db')
    (hwider : ∀ taskId, touched taskId → wider taskId) : Rewrites wider db db' where
  forth := by
    intro task hmem
    obtain ⟨task', hmem', hsame, htouched⟩ := hrewrites.forth task hmem
    exact ⟨task', hmem', hsame, htouched.imp_left (hwider _)⟩
  back := by
    intro task' hmem'
    obtain ⟨task, hmem, hsame, htouched⟩ := hrewrites.back task' hmem'
    exact ⟨task, hmem, hsame, htouched.imp_left (hwider _)⟩

theorem update {test : WorkTask → Bool} {set : WorkTask → WorkTask}
    (hrows : db'.tasks.rows =
      db.tasks.rows.map fun task => if test task = true then set task else task)
    (hsame : ∀ task ∈ db.tasks.rows, test task = true →
      touched task.taskId ∧ SameTask task (set task)) : Rewrites touched db db' := by
  have hrow : ∀ task ∈ db.tasks.rows,
      SameTask task (if test task = true then set task else task) ∧
        (touched task.taskId ∨ (if test task = true then set task else task) = task) := by
    intro task hmem
    by_cases htest : test task = true
    · rw [if_pos htest]
      exact ⟨(hsame task hmem htest).2, Or.inl (hsame task hmem htest).1⟩
    · rw [if_neg htest]
      exact ⟨.refl task, Or.inr rfl⟩
  constructor
  · intro task hmem
    refine ⟨_, ?_, hrow task hmem⟩
    rw [hrows]
    exact List.mem_map_of_mem hmem
  · intro task' hmem'
    rw [hrows] at hmem'
    obtain ⟨task, hmem, rfl⟩ := List.mem_map.mp hmem'
    exact ⟨task, hmem, hrow task hmem⟩

theorem untouched (hrewrites : Rewrites touched db db') {task : WorkTask}
    (hmem : task ∈ db.tasks.rows) (hfree : ¬ touched task.taskId) :
    task ∈ db'.tasks.rows := by
  obtain ⟨task', hmem', -, htouched⟩ := hrewrites.forth task hmem
  rw [← htouched.resolve_left hfree]
  exact hmem'

end Rewrites

theorem mem_rows_of_find? {db : WorkDb} {task : WorkTask}
    (hfind : db.tasks.find? taskId = some task) :
    task ∈ db.tasks.rows ∧ task.taskId = taskId :=
  Table.find?_eq_some_iff.mp hfind

theorem eq_of_taskId {db : WorkDb} {task : WorkTask} (htask : task ∈ db.tasks.rows)
    (hother : other ∈ db.tasks.rows) (hsame : task.taskId = other.taskId) :
    task = other :=
  List.inj_on_of_nodup_map db.tasks.keys_nodup htask hother hsame

theorem currentTask?_isSome_iff {db : WorkDb} :
    (currentTask? db username).isSome = true ↔ ∃ task ∈ db.tasks.rows,
      task.claimedBy = some username ∧ task.status.isActive = true := by
  rw [currentTask?, List.find?_isSome]
  simp only [decide_eq_true_eq]

theorem counterpartOwned_eq_false_iff {db : WorkDb} {task : WorkTask} :
    counterpartOwned db task username = false ↔
      ∀ other ∈ db.tasks.rows, Counterparts task other → other.owner ≠ some username := by
  simp [counterpartOwned, List.any_eq_false]

/-! ## The statements that give or take a task -/

theorem rewrites_claimTask {db : WorkDb} {task : WorkTask} (hmem : task ∈ db.tasks.rows)
    (hstatus : task.status = .queued ∨ task.status = .assigned) :
    Rewrites (· = task.taskId) db
      (startBatch task.batchId (claimTask task.taskId username db)) := by
  apply Rewrites.update rfl
  intro other hother hkey
  obtain rfl := eq_of_taskId hother hmem (of_decide_eq_true hkey)
  refine ⟨rfl, rfl, rfl, rfl, rfl, ?_, ?_⟩
  · rcases hstatus with hstatus | hstatus <;> rw [hstatus] <;> rfl
  · intro hactive
    rcases hstatus with hstatus | hstatus <;> rw [hstatus] at hactive <;> cases hactive

theorem SameTask.of_queued {task : WorkTask} {status : WorkTaskStatus}
    (hwaiting : task.status = .queued ∨ task.status = .assigned)
    (hstatus : status.isOpen = true) :
    SameTask task { task with
      status := status
      assignedTo := assignedTo } where
  taskId := rfl
  batchId := rfl
  warehouseId := rfl
  taskType := rfl
  isOpen := by rcases hwaiting with hwaiting | hwaiting <;> rw [hwaiting] <;> exact hstatus
  active := by
    intro hactive
    rcases hwaiting with hwaiting | hwaiting <;> rw [hwaiting] at hactive <;> cases hactive

theorem rewrites_assignTo {db : WorkDb} {task : WorkTask} (hmem : task ∈ db.tasks.rows)
    (hstatus : task.status = .queued ∨ task.status = .assigned) :
    Rewrites (· = task.taskId) db (assignTo task.taskId assignedTo db) := by
  apply Rewrites.update rfl
  intro other hother hkey
  obtain rfl := eq_of_taskId hother hmem (of_decide_eq_true hkey)
  exact ⟨rfl, .of_queued hstatus (by cases assignedTo <;> rfl)⟩

theorem rewrites_releaseTasks {db : WorkDb}
    (hassigned : ∀ task ∈ db.tasks.rows, task.taskId ∈ taskIds → task.status = .assigned) :
    Rewrites (· ∈ taskIds) db (releaseTasks taskIds db) := by
  apply Rewrites.update rfl
  intro task hmem hkey
  have hlisted : task.taskId ∈ taskIds := of_decide_eq_true hkey
  exact ⟨hlisted, .of_queued (Or.inr (hassigned task hmem hlisted)) rfl⟩

/-! ## The outline -/

/-- No worker owns both the picking and the packing of a batch. -/
def PickerPackerDiffer (db : WorkDb) : Prop :=
  ∀ task ∈ db.tasks.rows, ∀ other ∈ db.tasks.rows, Counterparts task other →
    ∀ username ∈ task.owner, other.owner ≠ some username

instance (db : WorkDb) : Decidable (PickerPackerDiffer db) :=
  inferInstanceAs (Decidable (∀ _ ∈ _, ∀ _ ∈ _, _ → ∀ _ ∈ _, _ ≠ _))

/-- The tasks of a batch are in one warehouse, as `create_task` sees to. -/
def OneWarehouse (db : WorkDb) : Prop :=
  ∀ task ∈ db.tasks.rows, ∀ other ∈ db.tasks.rows, Counterparts task other →
    task.warehouseId = other.warehouseId

instance (db : WorkDb) : Decidable (OneWarehouse db) :=
  inferInstanceAs (Decidable (∀ _ ∈ _, ∀ _ ∈ _, _ → _ = _))

structure OwnersSound (db : WorkDb) : Prop where
  differ : PickerPackerDiffer db
  oneWarehouse : OneWarehouse db

/-- A task that waits for an owner. -/
def Waiting (db : WorkDb) (task : WorkTask) : Prop :=
  task ∈ db.tasks.rows ∧ (task.status = .queued ∨ task.status = .assigned)

/-- The tasks a change of availability releases are still assigned and unclaimed. -/
def Releasable (own : OwnWrites) (warehouseId : ℕ) (db : WorkDb) : Prop :=
  ∀ task ∈ db.tasks.rows, task.taskId ∈ own.released →
    task.warehouseId = warehouseId ∧ task.status = .assigned ∧ task.claimedBy = none

/-- Dispatch has locked the open tasks of its warehouse. -/
def Covered (warehouseId : ℕ) (taskIds : List ℕ) (db : WorkDb) : Prop :=
  ∀ task ∈ db.tasks.rows, (task.warehouseId = warehouseId ∧
    task.status.isOpen = true → task.taskId ∈ taskIds) ∧
      (task.taskId ∈ taskIds → task.warehouseId = warehouseId)

def OwnerRequest.warehouseId : OwnerRequest → ℕ
  | .autoDispatch request | .setWorkerAvailability _ _ request => request.warehouseId
  | .claimNext request => request.warehouseId
  | .assignTask .. => 0

/-- What a transaction knows of the committed tables. -/
def ownerKnown (request : OwnerRequest) (memory : OwnerMemory) (db : WorkDb) : Prop :=
  match request, memory with
  | .claimNext request, .claiming task =>
      Waiting db task ∧ (counterpartOwned db task request.username = false ∨
        (currentTask? db request.username).isSome = true)
  | .assignTask taskId _ _, .checkWorker task => task ∈ db.tasks.rows ∧ task.taskId = taskId
  | .assignTask .., .checkConflict task => Waiting db task ∧ task.claimedBy = none
  | .assignTask _ assignedTo _, .assigning task =>
      Waiting db task ∧ task.claimedBy = none ∧
        ∀ username ∈ assignedTo, counterpartOwned db task username = false
  | request, .gathering own => Releasable own request.warehouseId db
  | request, .locking own _ => Releasable own request.warehouseId db
  | request, .dispatching own _ taskIds =>
      Releasable own request.warehouseId db ∧ Covered request.warehouseId taskIds db
  | _, _ => True

/-- The task a transaction is about to give a worker, once it has looked for conflicts. -/
def intended : OwnerRequest → OwnerMemory → Option (WorkTask × String)
  | .claimNext request, .claiming task => some (task, request.username)
  | .assignTask _ assignedTo _, .assigning task =>
      assignedTo.map fun username => (task, username)
  | _, _ => none

def OwnerRequest.isClaim : OwnerRequest → Bool
  | .claimNext _ => true
  | _ => false

/-- Two transactions are not about to give one worker both tasks of a batch.  Of two
claims the unique index refuses the second. -/
def NoCross (_ : WorkDb) (request : OwnerRequest) (memory : OwnerMemory)
    (other : OwnerRequest) (memory' : OwnerMemory) : Prop :=
  (request.isClaim = true ∧ other.isClaim = true) ∨
    ∀ first ∈ intended request memory, ∀ second ∈ intended other memory',
      Counterparts first.1 second.1 → first.2 ≠ second.2

instance (db : WorkDb) (request : OwnerRequest) (memory : OwnerMemory)
    (other : OwnerRequest) (memory' : OwnerMemory) :
    Decidable (NoCross db request memory other memory') :=
  inferInstanceAs (Decidable (_ ∨ ∀ _ ∈ _, ∀ _ ∈ _, _ → _))

theorem Counterparts.symm {task : WorkTask} (hpair : Counterparts task other) :
    Counterparts other task := by
  obtain ⟨hbatch, hsame, htask, hother, htype⟩ := hpair
  exact ⟨hsame ▸ hbatch, hsame.symm, hother, htask, htype.symm⟩

theorem OneWarehouse.rewrites {db : WorkDb} (hone : OneWarehouse db)
    (hrewrites : Rewrites touched db db') : OneWarehouse db' := by
  intro task' hmem' other' hother' hpair
  obtain ⟨task, hmem, hsame, -⟩ := hrewrites.back task' hmem'
  obtain ⟨other, hother, hsameother, -⟩ := hrewrites.back other' hother'
  rw [hsame.warehouseId, hsameother.warehouseId]
  exact hone task hmem other hother ((hsame.counterparts hsameother).mp hpair)

/-- Owners stay apart when whoever becomes an owner owns no counterpart. -/
theorem PickerPackerDiffer.rewrites {db : WorkDb} (hdiffer : PickerPackerDiffer db)
    (hrewrites : Rewrites touched db db')
    (honly : ∀ first second, touched first → touched second → ∀ task ∈ db.tasks.rows,
      ∀ other ∈ db.tasks.rows, task.taskId = first → other.taskId = second →
        ¬ Counterparts task other)
    (howner : ∀ task ∈ db.tasks.rows, ∀ task' ∈ db'.tasks.rows, SameTask task task' →
      ∀ username, task'.owner = some username → task.owner = some username ∨
        counterpartOwned db task username = false) : PickerPackerDiffer db' := by
  intro task' hmem' other' hother' hpair username howns hshares
  obtain ⟨task, hmem, hsame, htouched⟩ := hrewrites.back task' hmem'
  obtain ⟨other, hother, hsameother, htouchedother⟩ := hrewrites.back other' hother'
  have hold := (hsame.counterparts hsameother).mp hpair
  rcases htouched with htouched | rfl
  · rcases htouchedother with htouchedother | rfl
    · exact honly _ _ htouched htouchedother task hmem other hother rfl rfl hold
    · cases howner task hmem task' hmem' hsame username howns with
      | inl hbefore => exact hdiffer task hmem other' hother hold username hbefore hshares
      | inr hfree =>
          exact counterpartOwned_eq_false_iff.mp hfree other' hother hold hshares
  · rcases htouchedother with htouchedother | rfl
    · cases howner other hother other' hother' hsameother username hshares with
      | inl hbefore => exact hdiffer task' hmem other hother hold username howns hbefore
      | inr hfree =>
          exact counterpartOwned_eq_false_iff.mp hfree task' hmem hold.symm howns
    · exact hdiffer task' hmem other' hother hold username howns hshares

/-- A task whose counterparts are untouched, or go to others, stays free for a worker. -/
theorem counterpartOwned_rewrites {db : WorkDb} {task : WorkTask}
    (hrewrites : Rewrites touched db db')
    (hfree : counterpartOwned db task username = false)
    (hothers : ∀ other ∈ db.tasks.rows, Counterparts task other → touched other.taskId →
      ∀ other' ∈ db'.tasks.rows, other'.taskId = other.taskId →
        other'.owner ≠ some username) : counterpartOwned db' task username = false := by
  rw [counterpartOwned_eq_false_iff]
  intro other' hother' hpair
  obtain ⟨other, hother, hsame, htouched⟩ := hrewrites.back other' hother'
  have hold := ((SameTask.refl task).counterparts hsame).mp hpair
  rcases htouched with htouched | rfl
  · exact hothers other hother hold htouched other' hother' hsame.taskId
  · exact counterpartOwned_eq_false_iff.mp hfree other' hother hold

theorem currentTask?_rewrites {db : WorkDb} (hrewrites : Rewrites touched db db')
    (hcurrent : (currentTask? db username).isSome = true) :
    (currentTask? db' username).isSome = true := by
  obtain ⟨task, hmem, hclaimed, hactive⟩ := currentTask?_isSome_iff.mp hcurrent
  obtain ⟨task', hmem', hsame, -⟩ := hrewrites.forth task hmem
  obtain rfl := hsame.active hactive
  exact currentTask?_isSome_iff.mpr ⟨task', hmem', hclaimed, hactive⟩

/-! ## Dispatch -/

/-- Every owner of a picking or packing task of the warehouse is on the list. -/
def Listed (warehouseId : ℕ) (taken : List (ℕ × String)) (db : WorkDb) : Prop :=
  ∀ task ∈ db.tasks.rows, task.warehouseId = warehouseId → task.isPickOrPack = true →
    ∀ batchId username, task.batchId = some batchId → task.owner = some username →
      (batchId, username) ∈ taken

theorem listed_counterpartWorkers (warehouseId : ℕ) (db : WorkDb) :
    Listed warehouseId (counterpartWorkers db warehouseId) db := by
  intro task hmem hplace hkind batchId username hbatch howner
  rw [counterpartWorkers, List.mem_filterMap]
  refine ⟨task, hmem, ?_⟩
  rw [if_pos ⟨hplace, hkind⟩, hbatch, howner]
  rfl

/-- A worker dispatch may choose owns no counterpart of the task. -/
theorem free_of_candidate {db : WorkDb} {warehouseId : ℕ} {taken : List (ℕ × String)}
    {task : WorkTask} {chosen : Worker} (hone : OneWarehouse db)
    (hlisted : Listed warehouseId taken db) (hmem : task ∈ db.tasks.rows)
    (hplace : task.warehouseId = warehouseId)
    (hchosen : chosen ∈ dispatchCandidates available taken task) :
    counterpartOwned db task chosen.username = false := by
  rw [counterpartOwned_eq_false_iff]
  intro other hother hpair howns
  obtain ⟨batchId, hbatch⟩ := Option.isSome_iff_exists.mp hpair.1
  have hin := hlisted other hother ((hone task hmem other hother hpair).symm.trans hplace)
    hpair.2.2.2.1 batchId chosen.username (hpair.2.1.symm.trans hbatch) howns
  have hallowed := (List.mem_filter.mp hchosen).2
  rw [decide_eq_true_eq] at hallowed
  apply hallowed.2
  refine ⟨hpair.2.2.1, ?_⟩
  rw [hbatch]
  exact decide_eq_true hin

/-- What the loop of `auto_dispatch` keeps. -/
structure Dispatching (warehouseId : ℕ) (state : WorkDb × List (ℕ × String)) : Prop where
  differ : PickerPackerDiffer state.1
  oneWarehouse : OneWarehouse state.1
  listed : Listed warehouseId state.2 state.1

theorem owner_assigned {task : WorkTask} {status : WorkTaskStatus}
    (howner : ({ task with
      status := status
      assignedTo := assignedTo } : WorkTask).owner = some username) :
    task.owner = some username ∨ assignedTo = some username := by
  cases hclaimed : task.claimedBy with
  | none =>
      rw [WorkTask.owner, hclaimed, Option.none_or] at howner
      exact Or.inr howner
  | some claimer =>
      rw [WorkTask.owner, hclaimed] at howner ⊢
      exact Or.inl howner

/-- The row of a rewritten task. -/
theorem mem_assignTo {db : WorkDb} {task : WorkTask} (hmem : task ∈ db.tasks.rows)
    (hmem' : task' ∈ (assignTo task.taskId assignedTo db).tasks.rows) :
    task' ∈ db.tasks.rows ∧ task'.taskId ≠ task.taskId ∨
      task' = { task with
        status := if assignedTo = none then .queued else .assigned
        assignedTo := assignedTo } :=
  (Table.mem_updateKey hmem).mp hmem'

theorem not_counterparts_self {task : WorkTask} {db : WorkDb}
    (hmem : task ∈ db.tasks.rows) (hother : other ∈ db.tasks.rows)
    (hsame : task.taskId = other.taskId) : ¬ Counterparts task other := by
  intro hpair
  obtain rfl := eq_of_taskId hmem hother hsame
  exact hpair.2.2.2.2 rfl

/-- One task given to nobody who owns one of its counterparts. -/
theorem PickerPackerDiffer.given {db : WorkDb} {task given : WorkTask}
    (hdiffer : PickerPackerDiffer db) (hrewrites : Rewrites (· = task.taskId) db next)
    (hmem : task ∈ db.tasks.rows)
    (hrows : ∀ task' ∈ next.tasks.rows,
      task' ∈ db.tasks.rows ∧ task'.taskId ≠ task.taskId ∨ task' = given)
    (hkey : given.taskId = task.taskId) (hfree : ∀ username, given.owner = some username →
      task.owner = some username ∨ counterpartOwned db task username = false) :
    PickerPackerDiffer next := by
  apply hdiffer.rewrites hrewrites
  · rintro _ _ rfl rfl first hfirst second hsecond hone hother
    exact not_counterparts_self hfirst hsecond (hone.trans hother.symm)
  · intro old hold task' hmem' hsame username howner
    cases hrows task' hmem' with
    | inl hkept =>
        rw [← eq_of_taskId hkept.1 hold hsame.taskId]
        exact Or.inl howner
    | inr hset =>
        rw [hset] at hsame howner
        obtain rfl := eq_of_taskId hold hmem (hsame.taskId.symm.trans hkey)
        exact hfree username howner

/-- Giving one task to a worker who owns none of its counterparts. -/
theorem differ_assignTo {db : WorkDb} {task : WorkTask}
    (hdiffer : PickerPackerDiffer db) (hmem : task ∈ db.tasks.rows)
    (hwaiting : task.status = .queued ∨ task.status = .assigned)
    (hfree : ∀ username ∈ assignedTo, counterpartOwned db task username = false) :
    PickerPackerDiffer (assignTo task.taskId assignedTo db) := by
  apply hdiffer.given (rewrites_assignTo hmem hwaiting) hmem (fun _ => mem_assignTo hmem) rfl
  intro username howner
  cases owner_assigned howner with
  | inl hbefore => exact Or.inl hbefore
  | inr hgiven => exact Or.inr (hfree username hgiven)

theorem listed_assignTo {db : WorkDb} {task : WorkTask} {warehouseId : ℕ}
    {taken : List (ℕ × String)} (hlisted : Listed warehouseId taken db)
    (hmem : task ∈ db.tasks.rows) :
    Listed warehouseId
      (match task.batchId with
        | some batchId => (batchId, username) :: taken
        | none => taken)
      (assignTo task.taskId (some username) db) := by
  intro task' hmem' hplace hkind batchId owner hbatch howner
  have hlater : ∀ entry, entry ∈ taken → entry ∈
      (match task.batchId with
        | some batchId => (batchId, username) :: taken
        | none => taken) := by
    intro entry hentry
    cases task.batchId with
    | none => exact hentry
    | some other => exact List.mem_cons_of_mem _ hentry
  cases mem_assignTo hmem hmem' with
  | inl hkept => exact hlater _ (hlisted task' hkept.1 hplace hkind batchId owner hbatch howner)
  | inr hset =>
      subst hset
      have hbatch' : task.batchId = some batchId := hbatch
      cases owner_assigned howner with
      | inl hbefore =>
          exact hlater _ (hlisted task hmem hplace hkind batchId owner hbatch' hbefore)
      | inr hgiven =>
          rw [hbatch', Option.some.inj hgiven]
          exact List.mem_cons_self

/-- What the dispatch of a task rewrites, whoever it goes to. -/
theorem rewrites_dispatchTask (request : DispatchRequest) (available : List Worker)
    (state : WorkDb × List (ℕ × String)) (taskId : ℕ) :
    Rewrites (· = taskId) state.1 (dispatchTask request available state taskId).1 := by
  rw [dispatchTask]
  split
  · exact .of_tasks_eq rfl
  · rename_i task hfind
    obtain ⟨hmem, rfl⟩ := mem_rows_of_find? hfind
    split
    · rename_i hready
      split
      · exact .of_tasks_eq rfl
      · exact rewrites_assignTo hmem (Or.inl hready.1)
    · exact .of_tasks_eq rfl

theorem rewrites_dispatchTasks (request : DispatchRequest) (available : List Worker)
    (taskIds : List ℕ) (state : WorkDb × List (ℕ × String)) :
    Rewrites (· ∈ taskIds) state.1
      (taskIds.foldl (dispatchTask request available) state).1 := by
  induction taskIds generalizing state with
  | nil => exact .of_tasks_eq rfl
  | cons taskId rest ih =>
      apply ((rewrites_dispatchTask request available state taskId).mono _).trans ((ih _).mono _)
      · rintro _ rfl
        exact List.mem_cons_self
      · exact fun _ hin => List.mem_cons_of_mem taskId hin

theorem dispatchTask_spec (request : DispatchRequest) (available : List Worker)
    {state : WorkDb × List (ℕ × String)}
    (hstate : Dispatching request.warehouseId state)
    (hplace : ∀ task ∈ state.1.tasks.rows, task.taskId = taskId →
      task.warehouseId = request.warehouseId) :
    Dispatching request.warehouseId (dispatchTask request available state taskId) := by
  have hrewrites := rewrites_dispatchTask request available state taskId
  rw [dispatchTask] at hrewrites ⊢
  split
  · exact hstate
  · rename_i task hfind
    obtain ⟨hmem, rfl⟩ := mem_rows_of_find? hfind
    split
    · rename_i hready
      split
      · exact hstate
      · rename_i chosen hchosen
        have hfree := free_of_candidate hstate.oneWarehouse hstate.listed hmem
          (hplace task hmem rfl) (List.argmin_mem hchosen)
        simp only [hfind, if_pos hready, hchosen] at hrewrites
        refine ⟨?_, hstate.oneWarehouse.rewrites hrewrites, ?_⟩
        · apply differ_assignTo hstate.differ hmem (Or.inl hready.1)
          intro username hgiven
          rw [← Option.some.inj hgiven]
          exact hfree
        · exact listed_assignTo hstate.listed hmem
    · exact hstate

theorem dispatchTasks_spec (request : DispatchRequest) (available : List Worker)
    (taskIds : List ℕ) (state : WorkDb × List (ℕ × String))
    (hstate : Dispatching request.warehouseId state)
    (hplace : ∀ task ∈ state.1.tasks.rows, task.taskId ∈ taskIds →
      task.warehouseId = request.warehouseId) :
    PickerPackerDiffer (taskIds.foldl (dispatchTask request available) state).1 := by
  induction taskIds generalizing state with
  | nil => exact hstate.differ
  | cons taskId rest ih =>
      apply ih
      · apply dispatchTask_spec request available hstate
        exact fun task hmem hkey => hplace task hmem (hkey ▸ List.mem_cons_self)
      · intro task' hmem' hin
        obtain ⟨task, hmem, hsame, -⟩ :=
          (rewrites_dispatchTask request available state taskId).back task' hmem'
        rw [hsame.warehouseId]
        exact hplace task hmem (hsame.taskId ▸ List.mem_cons_of_mem taskId hin)

theorem OwnWrites.tasks_reported (own : OwnWrites) (db : WorkDb) :
    (own.status.elim db fun row => reportStatus row db).tasks = db.tasks := by
  cases own.status <;> rfl

theorem rewrites_ownWrites {warehouseId : ℕ} {db : WorkDb}
    (hreleasable : Releasable own warehouseId db) :
    Rewrites (· ∈ own.released) db (own.apply db) := by
  apply Rewrites.trans (.of_tasks_eq (congrArg Table.rows (own.tasks_reported db)))
  apply rewrites_releaseTasks
  intro task hmem hin
  rw [own.tasks_reported] at hmem
  exact (hreleasable task hmem hin).2.1

/-- The own writes only take owners away. -/
theorem ownWrites_spec {warehouseId : ℕ} {db : WorkDb} (hsound : OwnersSound db)
    (hreleasable : Releasable own warehouseId db) : OwnersSound (own.apply db) := by
  refine ⟨?_, hsound.oneWarehouse.rewrites (rewrites_ownWrites hreleasable)⟩
  have hback : ∀ task' ∈ (own.apply db).tasks.rows, ∀ username,
      task'.owner = some username → task' ∈ db.tasks.rows := by
    intro task' hmem' username howner
    obtain ⟨task, hmem, hset⟩ := List.mem_map.mp hmem'
    rw [own.tasks_reported] at hmem
    by_cases hin : task.taskId ∈ own.released
    · rw [if_pos (decide_eq_true hin)] at hset
      have hclaimed := (hreleasable task hmem hin).2.2
      rw [← hset, WorkTask.owner, hclaimed] at howner
      cases howner
    · rw [if_neg (by simpa using hin)] at hset
      exact hset ▸ hmem
  intro task hmem other hother hpair username howns hshares
  exact hsound.differ task (hback task hmem username howns) other
    (hback other hother username hshares) hpair username howns hshares

theorem rewrites_autoDispatch (available : List Worker) (taskIds : List ℕ) {db : WorkDb}
    (hreleasable : Releasable own request.warehouseId db) :
    Rewrites (fun taskId => taskId ∈ own.released ∨ taskId ∈ taskIds) db
      (autoDispatch request available taskIds (own.apply db)) := by
  have hloop := rewrites_dispatchTasks request available taskIds
    (own.apply db, counterpartWorkers (own.apply db) request.warehouseId)
  exact ((rewrites_ownWrites hreleasable).mono fun _ => Or.inl).trans
    (hloop.mono fun _ => Or.inr)

theorem autoDispatch_spec (available : List Worker) {db : WorkDb}
    (hsound : OwnersSound db) (hreleasable : Releasable own request.warehouseId db)
    (hcovered : Covered request.warehouseId taskIds db) :
    OwnersSound (autoDispatch request available taskIds (own.apply db)) := by
  have hown := ownWrites_spec hsound hreleasable
  refine ⟨?_, hsound.oneWarehouse.rewrites (rewrites_autoDispatch available taskIds hreleasable)⟩
  apply dispatchTasks_spec request available taskIds
    (own.apply db, counterpartWorkers (own.apply db) request.warehouseId)
    ⟨hown.differ, hown.oneWarehouse, listed_counterpartWorkers _ _⟩
  intro task' hmem' hin
  obtain ⟨task, hmem, hsame, -⟩ := (rewrites_ownWrites hreleasable).back task' hmem'
  rw [hsame.warehouseId]
  exact (hcovered task hmem).2 (hsame.taskId ▸ hin)

/-! ## Claims -/

theorem mem_claimTask {db : WorkDb} {task : WorkTask} {batchId : Option ℕ}
    (hmem : task ∈ db.tasks.rows)
    (hmem' : task' ∈ (startBatch batchId (claimTask task.taskId username db)).tasks.rows) :
    task' ∈ db.tasks.rows ∧ task'.taskId ≠ task.taskId ∨
      task' = { task with
        status := .claimed
        claimedBy := some username } :=
  (Table.mem_updateKey hmem).mp hmem'

theorem ownersSound_claimTask {db : WorkDb} {task : WorkTask} (hsound : OwnersSound db)
    (hwaiting : Waiting db task) (hfree : counterpartOwned db task username = false) :
    OwnersSound (startBatch task.batchId (claimTask task.taskId username db)) := by
  obtain ⟨hmem, hstatus⟩ := hwaiting
  have hrewrites : Rewrites (· = task.taskId) db
      (startBatch task.batchId (claimTask task.taskId username db)) :=
    rewrites_claimTask hmem hstatus
  refine ⟨?_, hsound.oneWarehouse.rewrites hrewrites⟩
  apply hsound.differ.given hrewrites hmem (fun _ => mem_claimTask hmem) rfl
  intro owner howner
  have hself : username = owner := Option.some.inj howner
  exact Or.inr (hself ▸ hfree)

/-! ## The statements, one by one -/

section Statements

variable {isLocked : WorkLock → Bool} {db next : WorkDb} {answer : OwnerAnswer}
  {memory after : OwnerMemory}

theorem claimNextTask_commit {claim : ClaimRequest}
    (hcommit : claimNextTask claim isLocked db memory = .commit next answer) :
    next = db ∨ ∃ task, memory = .claiming task ∧ (currentTask? db claim.username).isSome = false ∧
      next = startBatch task.batchId (claimTask task.taskId claim.username db) := by
  rw [claimNextTask.eq_def] at hcommit
  split at hcommit
  · split at hcommit <;> cases hcommit
    exact Or.inl rfl
  · split at hcommit <;> cases hcommit
    exact Or.inl rfl
  · split at hcommit <;> cases hcommit
    exact Or.inl rfl
  · rename_i task
    split at hcommit <;> cases hcommit
    rename_i hidle
    exact Or.inr ⟨task, rfl, by simpa using hidle, rfl⟩
  · cases hcommit

/-- The candidate is a stored row that no other transaction holds. -/
theorem candidate?_spec {claim : ClaimRequest} {task : WorkTask} {held : ℕ → Bool}
    (hcandidate : candidate? db claim held = some task) :
    task ∈ db.tasks.rows ∧ isCandidate db claim task = true ∧ held task.taskId = false := by
  obtain ⟨hstored, htest⟩ := List.mem_filter.mp (List.argmin_mem hcandidate)
  obtain ⟨heligible, hfree⟩ := Bool.and_eq_true_iff.mp htest
  exact ⟨hstored, heligible, by simpa using hfree⟩

theorem claimNextTask_proceed {claim : ClaimRequest}
    (hproceed : claimNextTask claim isLocked db memory = .proceed after) :
    after = .readAvailability ∨ after = .selectCandidate ∨ ∃ task,
      candidate? db claim (fun taskId => isLocked (.task taskId)) = some task ∧
        after = .claiming task := by
  rw [claimNextTask.eq_def] at hproceed
  split at hproceed
  · split at hproceed <;> cases hproceed
    exact Or.inl rfl
  · split at hproceed <;> cases hproceed
    exact Or.inr (Or.inl rfl)
  · split at hproceed <;> cases hproceed
    rename_i task hcandidate
    exact Or.inr (Or.inr ⟨task, hcandidate, rfl⟩)
  · split at hproceed <;> cases hproceed
  · cases hproceed

theorem assignTask_commit {workDate : ℕ}
    (hcommit : assignTask taskId assignedTo workDate isLocked db memory = .commit next answer) :
    ∃ task, memory = .assigning task ∧ next = assignTo task.taskId assignedTo db := by
  rw [assignTask.eq_def] at hcommit
  split at hcommit
  · split at hcommit
    · cases hcommit
    · split at hcommit <;> cases hcommit
  · split at hcommit
    · split at hcommit <;> cases hcommit
    · cases hcommit
  · split at hcommit <;> cases hcommit
  · rename_i task
    cases hcommit
    exact ⟨task, rfl, rfl⟩
  · cases hcommit

theorem assignTask_proceed {workDate : ℕ}
    (hproceed : assignTask taskId assignedTo workDate isLocked db memory = .proceed after) :
    (∃ task, db.tasks.find? taskId = some task ∧ isLocked (.task taskId) = false ∧
      after = .checkWorker task) ∨
    (∃ task, memory = .checkWorker task ∧
      (task.status = .queued ∨ task.status = .assigned) ∧ task.claimedBy = none ∧
      after = .checkConflict task) ∨
    ∃ task, memory = .checkConflict task ∧
      (∀ username ∈ assignedTo, counterpartOwned db task username = false) ∧
      after = .assigning task := by
  rw [assignTask.eq_def] at hproceed
  split at hproceed
  · split at hproceed
    · cases hproceed
    · rename_i task hfind
      split at hproceed <;> cases hproceed
      rename_i hfree
      exact Or.inl ⟨task, hfind, by simpa using hfree, rfl⟩
  · rename_i task
    split at hproceed
    · rename_i hwaiting
      split at hproceed <;> cases hproceed
      exact Or.inr (Or.inl ⟨task, rfl, hwaiting.1, hwaiting.2, rfl⟩)
    · cases hproceed
  · rename_i task
    split at hproceed <;> cases hproceed
    rename_i hnoconflict
    refine Or.inr (Or.inr ⟨task, rfl, ?_, rfl⟩)
    intro username hgiven
    rw [Option.mem_def.mp hgiven] at hnoconflict
    simpa using hnoconflict
  · cases hproceed
  · cases hproceed

theorem dispatchLocked_commit
    (hcommit : dispatchLocked request isLocked db memory = .commit next answer) :
    ∃ own available taskIds, memory = .dispatching own available taskIds ∧
      next = autoDispatch request available taskIds (own.apply db) := by
  rw [dispatchLocked.eq_def] at hcommit
  split at hcommit
  · cases hcommit
  · dsimp only at hcommit
    split at hcommit <;> cases hcommit
  · rename_i own available taskIds
    cases hcommit
    exact ⟨own, available, taskIds, rfl, rfl⟩
  · cases hcommit

theorem dispatchLocked_proceed
    (hproceed : dispatchLocked request isLocked db memory = .proceed after) :
    (∃ own available, memory = .gathering own ∧ after = .locking own available) ∨
    ∃ own available, memory = .locking own available ∧
      (∀ task ∈ openTasks db request.warehouseId, isLocked (.task task.taskId) = false) ∧
      after = .dispatching own available
        ((openTasks db request.warehouseId).map WorkTask.taskId) := by
  rw [dispatchLocked.eq_def] at hproceed
  split at hproceed
  · rename_i own
    cases hproceed
    exact Or.inl ⟨own, _, rfl, rfl⟩
  · rename_i own available
    dsimp only at hproceed
    split at hproceed <;> cases hproceed
    rename_i hfree
    exact Or.inr ⟨own, available, rfl, by simpa using hfree, rfl⟩
  · cases hproceed
  · cases hproceed

theorem setWorkerAvailability_commit {userId : ℕ} {status : Availability}
    (hcommit : setWorkerAvailability userId status request isLocked db memory =
      .commit next answer) : dispatchLocked request isLocked db memory =
        .commit next answer := by
  rw [setWorkerAvailability.eq_def] at hcommit
  split at hcommit
  · split at hcommit
    · cases hcommit
    · split at hcommit
      · split at hcommit <;> cases hcommit
      · cases hcommit
  · split at hcommit
    · cases hcommit
    · dsimp only at hcommit
      split at hcommit <;> cases hcommit
  · exact hcommit

theorem setWorkerAvailability_proceed {userId : ℕ} {status : Availability}
    (hproceed : setWorkerAvailability userId status request isLocked db memory = .proceed after) :
    (∃ username, isLocked (.workerStatus request.warehouseId userId request.workDate) =
        false ∧ after = .releasing
          ⟨request.warehouseId, userId, request.workDate, status⟩ username) ∨
    (∃ row username, memory = .releasing row username ∧ after = .gathering ⟨some row, []⟩) ∨
    (∃ row username, memory = .releasing row username ∧
      (∀ task ∈ assignedTasks db request.warehouseId username,
        isLocked (.task task.taskId) = false) ∧
      after = .gathering ⟨some row,
        (assignedTasks db request.warehouseId username).map WorkTask.taskId⟩) ∨
    dispatchLocked request isLocked db memory = .proceed after := by
  rw [setWorkerAvailability.eq_def] at hproceed
  split at hproceed
  · split at hproceed
    · cases hproceed
    · rename_i worker _
      split at hproceed
      · split at hproceed <;> cases hproceed
        rename_i hfree
        exact Or.inl ⟨worker.username, by simpa using hfree, rfl⟩
      · cases hproceed
  · rename_i row username
    split at hproceed
    · cases hproceed
      exact Or.inr (Or.inl ⟨row, username, rfl, rfl⟩)
    · dsimp only at hproceed
      split at hproceed <;> cases hproceed
      rename_i hfree
      exact Or.inr (Or.inr (Or.inl ⟨row, username, rfl, by simpa using hfree, rfl⟩))
  · exact Or.inr (Or.inr (Or.inr hproceed))

/-! ## What a commit leaves to the others -/

/-- A waiting task stays free for a worker through the claim of another task, unless the
claim gives a counterpart to the worker. -/
theorem free_after_claim {task : WorkTask} {claimer : String}
    (hwaiting : Waiting db task) (hfree : counterpartOwned db other username = false)
    (hcross : Counterparts task other → claimer ≠ username) :
    counterpartOwned (startBatch task.batchId (claimTask task.taskId claimer db)) other
      username = false := by
  apply counterpartOwned_rewrites (rewrites_claimTask hwaiting.1 hwaiting.2) hfree
  intro third hthird hpair htouched third' hthird' hkey howner
  obtain rfl := eq_of_taskId hthird hwaiting.1 htouched
  cases mem_claimTask hwaiting.1 hthird' with
  | inl hkept => exact hkept.2 hkey
  | inr hset =>
      rw [hset] at howner
      exact hcross hpair.symm (Option.some.inj howner)

theorem free_after_assign {task : WorkTask} (hwaiting : Waiting db task)
    (hunclaimed : task.claimedBy = none)
    (hfree : counterpartOwned db other username = false)
    (hcross : ∀ given ∈ assignedTo, Counterparts task other → given ≠ username) :
    counterpartOwned (assignTo task.taskId assignedTo db) other username = false := by
  apply counterpartOwned_rewrites (rewrites_assignTo hwaiting.1 hwaiting.2) hfree
  intro third hthird hpair htouched third' hthird' hkey howner
  obtain rfl := eq_of_taskId hthird hwaiting.1 htouched
  cases mem_assignTo hwaiting.1 hthird' with
  | inl hkept => exact hkept.2 hkey
  | inr hset =>
      rw [hset, WorkTask.owner, hunclaimed, Option.none_or] at howner
      exact hcross username howner hpair.symm rfl

/-- Dispatch has locked the counterparts of every waiting task of its warehouse. -/
theorem free_after_dispatch {task : WorkTask} (hsound : OwnersSound db)
    (hreleasable : Releasable own request.warehouseId db)
    (hcovered : Covered request.warehouseId taskIds db) (hwaiting : Waiting db task)
    (hunlocked : task.taskId ∉ taskIds)
    (hfree : counterpartOwned db task username = false) :
    counterpartOwned (autoDispatch request available taskIds (own.apply db)) task username =
      false := by
  apply counterpartOwned_rewrites (rewrites_autoDispatch available taskIds hreleasable) hfree
  intro other hother hpair htouched
  have hplace : other.warehouseId = request.warehouseId :=
    htouched.elim (fun hin => (hreleasable other hother hin).1) (hcovered other hother).2
  have hopen : task.status.isOpen = true := by
    rcases hwaiting.2 with hstatus | hstatus <;> rw [hstatus] <;> rfl
  have hsame := hsound.oneWarehouse task hwaiting.1 other hother hpair
  exact (hunlocked ((hcovered task hwaiting.1).1 ⟨hsame.trans hplace, hopen⟩)).elim

/-- What a transaction knows of its own rows survives the commit of another. -/
theorem releasable_rewrites {warehouseId : ℕ}
    (hreleasable : Releasable own warehouseId db) (hrewrites : Rewrites touched db next)
    (hfree : ∀ taskId ∈ own.released, ¬ touched taskId) :
    Releasable own warehouseId next := by
  intro task' hmem' hin
  obtain ⟨task, hmem, hsame, htouched⟩ := hrewrites.back task' hmem'
  rw [hsame.taskId] at hin
  rw [htouched.resolve_left (hfree _ hin)]
  exact hreleasable task hmem hin

theorem covered_rewrites {warehouseId : ℕ} (hcovered : Covered warehouseId taskIds db)
    (hrewrites : Rewrites touched db next) : Covered warehouseId taskIds next := by
  intro task' hmem'
  obtain ⟨task, hmem, hsame, -⟩ := hrewrites.back task' hmem'
  rw [hsame.taskId, hsame.warehouseId, hsame.isOpen]
  exact hcovered task hmem

/-- A commit rewrites tasks it has locked, and takes no waiting task's freedom away from
a worker a compatible transaction has in mind for it. -/
structure Leaves (request : OwnerRequest) (memory : OwnerMemory) (db next : WorkDb) :
    Prop where
  rewrites : Rewrites (fun taskId => memory.holds (.task taskId) = true) db next
  free : ∀ task username, Waiting db task → memory.holds (.task task.taskId) = false →
    counterpartOwned db task username = false →
      (∀ given ∈ intended request memory, Counterparts given.1 task →
        given.2 ≠ username) → counterpartOwned next task username = false
  claims : ∀ claim, request = .claimNext claim → next = db ∨
    (currentTask? next claim.username).isSome = true ∧
      ∀ given ∈ intended request memory, given.2 = claim.username

theorem Leaves.refl (request : OwnerRequest) (memory : OwnerMemory) (db : WorkDb) :
    Leaves request memory db db where
  rewrites := .of_tasks_eq rfl
  free := fun _ _ _ _ hfree _ => hfree
  claims := fun _ _ => Or.inl rfl

theorem leaves_dispatch {request : OwnerRequest} {dispatch : DispatchRequest}
    (hwarehouse : request.warehouseId = dispatch.warehouseId)
    (hkind : ∀ claim, request ≠ .claimNext claim) (hsound : OwnersSound db)
    (hreleasable : Releasable own request.warehouseId db)
    (hcovered : Covered request.warehouseId taskIds db) :
    OwnersSound (autoDispatch dispatch available taskIds (own.apply db)) ∧
      Leaves request (.dispatching own available taskIds) db
        (autoDispatch dispatch available taskIds (own.apply db)) := by
  rw [hwarehouse] at hreleasable hcovered
  have hrewrites := rewrites_autoDispatch available taskIds hreleasable
  refine ⟨autoDispatch_spec available hsound hreleasable hcovered, hrewrites.mono ?_, ?_,
    fun claim hclaim => (hkind claim hclaim).elim⟩
  · intro taskId htouched
    simpa [OwnerMemory.holds, OwnWrites.holds] using htouched
  · intro task username hwaiting hunlocked hfree _
    apply free_after_dispatch hsound hreleasable hcovered hwaiting _ hfree
    intro hin
    simp [OwnerMemory.holds, hin] at hunlocked

/-- The commits, one by one. -/
theorem commit_spec {request : OwnerRequest} (hsound : OwnersSound db)
    (hknown : ownerKnown request memory db)
    (hcommit : ownerStatement request memory isLocked db = .commit next answer) :
    OwnersSound next ∧ Leaves request memory db next := by
  cases request with
  | claimNext claim =>
      rcases claimNextTask_commit hcommit with rfl | ⟨task, rfl, hidle, rfl⟩
      · exact ⟨hsound, .refl _ _ _⟩
      · obtain ⟨hwaiting, hfree⟩ := hknown
        have hunowned := hfree.resolve_right (by rw [hidle]; exact Bool.false_ne_true)
        have hrewrites : Rewrites (· = task.taskId) db
            (startBatch task.batchId (claimTask task.taskId claim.username db)) :=
          rewrites_claimTask hwaiting.1 hwaiting.2
        refine ⟨ownersSound_claimTask hsound hwaiting hunowned, hrewrites.mono ?_, ?_, ?_⟩
        · rintro _ rfl
          exact decide_eq_true rfl
        · intro other username _ _ hotherfree hcross
          exact free_after_claim hwaiting hotherfree fun hpair =>
            hcross (task, claim.username) rfl hpair
        · intro other hother
          obtain rfl := OwnerRequest.claimNext.inj hother
          refine Or.inr ⟨?_, fun given hgiven => by rw [← Option.some.inj hgiven]⟩
          rw [currentTask?_isSome_iff]
          refine ⟨_, List.mem_map_of_mem hwaiting.1, ?_, ?_⟩ <;>
            rw [if_pos (decide_eq_true rfl)]
          rfl
  | assignTask taskId assignedTo workDate =>
      obtain ⟨task, rfl, rfl⟩ := assignTask_commit hcommit
      obtain ⟨hwaiting, hunclaimed, hfree⟩ := hknown
      have hrewrites : Rewrites (· = task.taskId) db (assignTo task.taskId assignedTo db) :=
        rewrites_assignTo hwaiting.1 hwaiting.2
      refine ⟨⟨differ_assignTo hsound.differ hwaiting.1 hwaiting.2 hfree,
        hsound.oneWarehouse.rewrites hrewrites⟩, hrewrites.mono ?_, ?_, ?_⟩
      · rintro _ rfl
        exact decide_eq_true rfl
      · intro other username _ _ hotherfree hcross
        apply free_after_assign hwaiting hunclaimed hotherfree
        intro given hgiven hpair
        exact hcross (task, given) (by
          rw [intended, Option.mem_def.mp hgiven]
          rfl) hpair
      · intro claim hclaim
        cases hclaim
  | autoDispatch dispatch =>
      obtain ⟨own, available, taskIds, rfl, rfl⟩ := dispatchLocked_commit hcommit
      exact leaves_dispatch rfl (fun claim hclaim => by cases hclaim) hsound hknown.1
        hknown.2
  | setWorkerAvailability userId status dispatch =>
      obtain ⟨own, available, taskIds, rfl, rfl⟩ :=
        dispatchLocked_commit (setWorkerAvailability_commit hcommit)
      exact leaves_dispatch rfl (fun claim hclaim => by cases hclaim) hsound hknown.1
        hknown.2

/-! ## Locks and assertions along a transaction -/

theorem owner_acquires {request : OwnerRequest} {lock : WorkLock}
    (hproceed : ownerStatement request memory isLocked db = .proceed after)
    (hheld : after.holds lock = true) :
    memory.holds lock = true ∨ isLocked lock = false := by
  have hdispatch : ∀ {dispatch : DispatchRequest},
      dispatchLocked dispatch isLocked db memory = .proceed after →
        memory.holds lock = true ∨ isLocked lock = false := by
    intro dispatch hlocked
    rcases dispatchLocked_proceed hlocked with
      ⟨own, available, rfl, rfl⟩ | ⟨own, available, rfl, hfree, rfl⟩
    · exact Or.inl hheld
    · cases lock with
      | workerStatus warehouseId userId workDate =>
          exact Or.inl (by simpa [OwnerMemory.holds] using hheld)
      | auditChain => simp [OwnerMemory.holds, OwnWrites.holds] at hheld
      | task taskId =>
          simp only [OwnerMemory.holds, Bool.or_eq_true, decide_eq_true_eq, List.mem_map] at hheld
          cases hheld with
          | inl hown => exact Or.inl hown
          | inr hlisted =>
              obtain ⟨task, hmem, rfl⟩ := hlisted
              exact Or.inr (hfree task hmem)
  cases request with
  | claimNext claim =>
      rcases claimNextTask_proceed hproceed with rfl | rfl | ⟨task, hcandidate, rfl⟩
      · cases hheld
      · cases hheld
      · obtain rfl := of_decide_eq_true hheld
        exact Or.inr (candidate?_spec hcandidate).2.2
  | assignTask taskId assignedTo workDate =>
      rcases assignTask_proceed hproceed with
        ⟨task, hfind, hfree, rfl⟩ | ⟨task, rfl, -, -, rfl⟩ | ⟨task, rfl, -, rfl⟩
      · obtain rfl := of_decide_eq_true hheld
        rw [(mem_rows_of_find? hfind).2]
        exact Or.inr hfree
      · exact Or.inl hheld
      · exact Or.inl hheld
  | autoDispatch dispatch => exact hdispatch hproceed
  | setWorkerAvailability userId status dispatch =>
      rcases setWorkerAvailability_proceed hproceed with ⟨username, hfree, rfl⟩ |
        ⟨row, username, rfl, rfl⟩ | ⟨row, username, rfl, hfree, rfl⟩ | hlocked
      · cases lock with
        | task taskId => simp [OwnerMemory.holds, OwnWrites.holds] at hheld
        | auditChain => cases hheld
        | workerStatus warehouseId user workDate =>
            have hkey : (dispatch.warehouseId, userId, dispatch.workDate) =
              (warehouseId, user, workDate) := of_decide_eq_true hheld
            cases hkey
            exact Or.inr hfree
      · exact Or.inl hheld
      · cases lock with
        | workerStatus warehouseId user workDate => exact Or.inl hheld
        | auditChain => cases hheld
        | task taskId =>
            obtain ⟨task, hmem, rfl⟩ := List.mem_map.mp (of_decide_eq_true hheld)
            exact Or.inr (hfree task hmem)
      · exact hdispatch hlocked

theorem covered_openTasks (db : WorkDb) (warehouseId : ℕ) :
    Covered warehouseId ((openTasks db warehouseId).map WorkTask.taskId) db := by
  have hopen : ∀ task, task ∈ openTasks db warehouseId ↔
      task ∈ db.tasks.rows ∧ task.warehouseId = warehouseId ∧
        task.status.isOpen = true := by
    intro task
    simp [openTasks, Table.select, List.mem_insertionSort]
  intro task hmem
  constructor
  · intro hplace
    exact List.mem_map_of_mem ((hopen task).mpr ⟨hmem, hplace⟩)
  · intro hlisted
    obtain ⟨other, hother, hkey⟩ := List.mem_map.mp hlisted
    have hrow := (hopen other).mp hother
    rw [eq_of_taskId hmem hrow.1 hkey.symm]
    exact hrow.2.1

theorem releasable_assignedTasks (row : WorkerStatus) (db : WorkDb) (warehouseId : ℕ)
    (username : String) :
    Releasable ⟨some row, (assignedTasks db warehouseId username).map WorkTask.taskId⟩
      warehouseId db := by
  intro task hmem hlisted
  obtain ⟨other, hother, hkey⟩ := List.mem_map.mp hlisted
  simp only [assignedTasks, Table.select, List.mem_filter, decide_eq_true_eq] at hother
  obtain rfl := eq_of_taskId hmem hother.1 hkey.symm
  exact ⟨hother.2.1, hother.2.2.2.2, hother.2.2.2.1⟩

theorem owner_proceeds {request : OwnerRequest} (hknown : ownerKnown request memory db)
    (hproceed : ownerStatement request memory isLocked db = .proceed after) :
    ownerKnown request after db := by
  cases request with
  | claimNext claim =>
      rcases claimNextTask_proceed hproceed with rfl | rfl | ⟨task, hcandidate, rfl⟩
      · trivial
      · trivial
      · obtain ⟨hstored, heligible, -⟩ := candidate?_spec hcandidate
        have hfacts := of_decide_eq_true heligible
        exact ⟨⟨hstored, hfacts.2.1⟩, Or.inl hfacts.2.2.2.2.1⟩
  | assignTask taskId assignedTo workDate =>
      rcases assignTask_proceed hproceed with
        ⟨task, hfind, -, rfl⟩ | ⟨task, rfl, hwaiting, hunclaimed, rfl⟩ |
          ⟨task, rfl, hfree, rfl⟩
      · exact mem_rows_of_find? hfind
      · exact ⟨⟨hknown.1, hwaiting⟩, hunclaimed⟩
      · exact ⟨hknown.1, hknown.2, hfree⟩
  | autoDispatch dispatch =>
      rcases dispatchLocked_proceed hproceed with
        ⟨own, available, rfl, rfl⟩ | ⟨own, available, rfl, -, rfl⟩
      · exact hknown
      · exact ⟨hknown, covered_openTasks db dispatch.warehouseId⟩
  | setWorkerAvailability userId status dispatch =>
      rcases setWorkerAvailability_proceed hproceed with ⟨username, -, rfl⟩ |
        ⟨row, username, rfl, rfl⟩ | ⟨row, username, rfl, -, rfl⟩ | hlocked
      · trivial
      · exact fun _ _ hnone => (List.not_mem_nil hnone).elim
      · exact releasable_assignedTasks row db dispatch.warehouseId username
      · rcases dispatchLocked_proceed hlocked with
          ⟨own, available, rfl, rfl⟩ | ⟨own, available, rfl, -, rfl⟩
        · exact hknown
        · exact ⟨hknown, covered_openTasks db dispatch.warehouseId⟩

theorem OwnerRequest.isClaim_iff {request : OwnerRequest} :
    request.isClaim = true ↔ ∃ claim, request = .claimNext claim := by
  cases request <;> simp [OwnerRequest.isClaim]

theorem waiting_rewrites {task : WorkTask} (hwaiting : Waiting db task)
    (hrewrites : Rewrites touched db next) (hfree : ¬ touched task.taskId) :
    Waiting next task :=
  ⟨hrewrites.untouched hwaiting.1 hfree, hwaiting.2⟩

/-- The assertions of a transaction survive the commit of a compatible one. -/
theorem owner_stable {request other : OwnerRequest} {memory' : OwnerMemory}
    (hleaves : Leaves request memory db next) (hknown : ownerKnown other memory' db)
    (hapart : ∀ lock, memory.holds lock = true → memory'.holds lock = false)
    (hcross : NoCross db request memory other memory') : ownerKnown other memory' next := by
  have hunlocked : ∀ taskId, memory'.holds (.task taskId) = true →
      memory.holds (.task taskId) = false := by
    intro taskId hheld
    by_contra hboth
    have hnot := hapart _ (by simpa using hboth)
    rw [hheld] at hnot
    cases hnot
  have hself : ∀ {task : WorkTask}, memory'.holds (.task task.taskId) = true →
      Waiting db task → Waiting next task := by
    intro task hheld hwaiting
    apply waiting_rewrites hwaiting hleaves.rewrites
    rw [hunlocked task.taskId hheld]
    exact Bool.false_ne_true
  have hreleasable : ∀ (own : OwnWrites) (warehouseId : ℕ),
      (∀ taskId ∈ own.released, memory'.holds (.task taskId) = true) →
        Releasable own warehouseId db → Releasable own warehouseId next := by
    intro own warehouseId hheld hreleasable
    apply releasable_rewrites hreleasable hleaves.rewrites
    intro taskId hin
    rw [hunlocked taskId (hheld taskId hin)]
    exact Bool.false_ne_true
  cases memory' with
  | start | readAvailability | selectCandidate | releasing => cases other <;> trivial
  | claiming task =>
      cases other with
      | claimNext claim =>
          obtain ⟨hwaiting, hfree⟩ := hknown
          have hheld : memory.holds (.task task.taskId) = false :=
            hunlocked task.taskId (decide_eq_true rfl)
          refine ⟨hself (decide_eq_true rfl) hwaiting, ?_⟩
          cases hfree with
          | inr hbusy => exact Or.inr (currentTask?_rewrites hleaves.rewrites hbusy)
          | inl hfree =>
              cases hcross with
              | inl hclaims =>
                  obtain ⟨first, rfl⟩ := OwnerRequest.isClaim_iff.mp hclaims.1
                  cases hleaves.claims first rfl with
                  | inl hsame => exact Or.inl (hsame ▸ hfree)
                  | inr hbusy =>
                      by_cases huser : first.username = claim.username
                      · exact Or.inr (huser ▸ hbusy.1)
                      · apply Or.inl
                        apply hleaves.free task _ hwaiting hheld hfree
                        intro given hgiven _ hshared
                        exact huser ((hbusy.2 given hgiven).symm.trans hshared)
              | inr hapartners =>
                  apply Or.inl
                  apply hleaves.free task _ hwaiting hheld hfree
                  exact fun given hgiven hpair =>
                    hapartners given hgiven (task, claim.username) rfl hpair
      | assignTask | autoDispatch | setWorkerAvailability => trivial
  | checkWorker task =>
      cases other with
      | assignTask taskId assignedTo workDate =>
          refine ⟨hleaves.rewrites.untouched hknown.1 ?_, hknown.2⟩
          rw [hunlocked task.taskId (decide_eq_true rfl)]
          exact Bool.false_ne_true
      | claimNext | autoDispatch | setWorkerAvailability => trivial
  | checkConflict task =>
      cases other with
      | assignTask taskId assignedTo workDate =>
          exact ⟨hself (decide_eq_true rfl) hknown.1, hknown.2⟩
      | claimNext | autoDispatch | setWorkerAvailability => trivial
  | assigning task =>
      cases other with
      | assignTask taskId assignedTo workDate =>
          obtain ⟨hwaiting, hunclaimed, hfree⟩ := hknown
          refine ⟨hself (decide_eq_true rfl) hwaiting, hunclaimed, ?_⟩
          intro username hgiven
          apply hleaves.free task _ hwaiting (hunlocked task.taskId (decide_eq_true rfl))
            (hfree username hgiven)
          intro given hintended hpair
          have hmine : (task, username) ∈ intended
              (.assignTask taskId assignedTo workDate) (.assigning task) := by
            rw [intended, Option.mem_def.mp hgiven]
            rfl
          have hclaim : ¬ (request.isClaim = true ∧
              (OwnerRequest.assignTask taskId assignedTo workDate).isClaim = true) :=
            fun hboth => Bool.false_ne_true hboth.2
          exact hcross.resolve_left hclaim given hintended (task, username) hmine hpair
      | claimNext | autoDispatch | setWorkerAvailability => trivial
  | gathering own =>
      have hkept := hreleasable own other.warehouseId
        (fun taskId hin => decide_eq_true hin)
      cases other <;> exact hkept hknown
  | locking own available =>
      have hkept := hreleasable own other.warehouseId
        (fun taskId hin => decide_eq_true hin)
      cases other <;> exact hkept hknown
  | dispatching own available taskIds =>
      have hkept := hreleasable own other.warehouseId
        (fun taskId hin => by
          simp [OwnerMemory.holds, OwnWrites.holds, hin])
      cases other <;>
        exact ⟨hkept hknown.1, covered_rewrites hknown.2 hleaves.rewrites⟩

end Statements

theorem owner_outline :
    Outline ownerProgram OwnersSound ownerKnown (fun _ _ _ => True) NoCross where
  start := by
    intro request db _
    cases request with
    | autoDispatch dispatch => exact fun _ _ hnone => (List.not_mem_nil hnone).elim
    | claimNext | assignTask | setWorkerAvailability => trivial
  acquires := fun _ _ _ _ _ hproceed _ hheld => owner_acquires hproceed hheld
  proceeds := fun _ _ _ _ _ _ hknown hproceed => owner_proceeds hknown hproceed
  commits := fun _ _ _ _ _ _ hsound hknown _ hcommit => (commit_spec hsound hknown hcommit).1
  stable := fun _ _ _ _ _ _ _ _ hsound hknown hother _ hapart hcross hcommit =>
    owner_stable (commit_spec hsound hknown hcommit).2 hother hapart hcross

/-- In every run whose commits find no other transaction about to give the worker the
counterpart, no worker comes to own both the picking and the packing of a batch. -/
theorem picker_packer_differ {Ticket : Type*} [Fintype Ticket] [DecidableEq Ticket]
    (requests : Ticket → OwnerRequest) (db : WorkDb) (hsound : OwnersSound db)
    (steps : List (Step Ticket))
    (hclear : Along (Sessions.serve ownerProgram requests)
      (Clear ownerProgram requests (fun _ _ _ => True) NoCross)
      (opened ownerProgram requests db) steps) :
    PickerPackerDiffer (run (Sessions.serve ownerProgram requests)
      (opened ownerProgram requests db) steps).world :=
  (sound_run owner_outline hsound hclear).inv.differ

namespace PackNote

def task (taskId : ℕ) (taskType : WorkTaskType) : WorkTask where
  taskId := taskId
  batchId := some 1
  warehouseId := 1
  taskType := taskType
  status := .queued
  priority := 50

/-- One pack note to pick and to pack, and a worker granted both. -/
def db : WorkDb where
  tasks := (Table.empty.insert fun taskId => task taskId .picking).insert
    fun taskId => task taskId .packing
  batches := Table.empty.insert fun batchId => ⟨batchId, 1, .opened⟩
  workers := [⟨1, "ana", true, true, [1], [.picking, .packing]⟩,
    ⟨2, "ben", true, true, [1], [.picking, .packing]⟩]

theorem sound : OwnersSound db where
  differ := by decide
  oneWarehouse := by decide

/-- Both tasks are assigned, by two dispatchers. -/
def assigns (picker packer : String) : Fin 2 → OwnerRequest
  | 0 => .assignTask 1 (some picker) 1
  | 1 => .assignTask 2 (some packer) 1

/-- Their statements in turn. -/
def inTurn : List (Step (Fin 2)) :=
  [.advance 0, .advance 1, .advance 0, .advance 1, .advance 0, .advance 1, .advance 0, .advance 1]

end PackNote

open PackNote in
theorem picker_packer_differ_two_workers :
    Along (Sessions.serve ownerProgram (assigns "ana" "ben"))
      (Clear ownerProgram (assigns "ana" "ben") (fun _ _ _ => True) NoCross)
      (opened ownerProgram (assigns "ana" "ben") PackNote.db) inTurn ∧
      PickerPackerDiffer (run (Sessions.serve ownerProgram (assigns "ana" "ben"))
        (opened ownerProgram (assigns "ana" "ben") PackNote.db) inTurn).world := by
  have hclear : Along (Sessions.serve ownerProgram (assigns "ana" "ben"))
      (Clear ownerProgram (assigns "ana" "ben") (fun _ _ _ => True) NoCross)
      (opened ownerProgram (assigns "ana" "ben") PackNote.db) inTurn := by decide +kernel
  exact ⟨hclear, picker_packer_differ _ _ sound _ hclear⟩

open PackNote in
/-- Each dispatcher finds the other task unowned, and both give theirs to `ana`. -/
theorem one_worker_picks_and_packs :
    OwnersSound PackNote.db ∧
      ¬ PickerPackerDiffer (run (Sessions.serve ownerProgram (assigns "ana" "ana"))
        (opened ownerProgram (assigns "ana" "ana") PackNote.db) inTurn).world :=
  ⟨sound, by decide +kernel⟩

end SentryWms.WorkControl
