import SentryWms.WorkControl.BatchCompletion

/-!
# Nobody on break holds waiting work

Claims, assignments, dispatches and changes of availability beside each other.  Whoever
gives a task to a worker has read that the worker is available before the task is locked;
a change of availability releases the tasks it finds assigned.  The two can pass each
other.  What has been claimed stays with the worker who has claimed it in any order.
-/

namespace SentryWms.WorkControl

open Relational Sessions

/-! ## What is to be kept -/

/-- Whoever has a task waiting today is available in its warehouse. -/
def NoneHeldBack (today : ℕ) (db : WorkDb) : Prop :=
  ∀ task ∈ db.tasks.rows, task.status = .assigned → task.claimedBy = none →
    ∀ username ∈ task.assignedTo, isAvailable db task.warehouseId today username = true

/-- A waiting task is unclaimed, and a claimed one is assigned to nobody else. -/
structure OneWorker (db : WorkDb) : Prop where
  unclaimed : ∀ task ∈ db.tasks.rows, task.status = .queued ∨ task.status = .assigned →
    task.claimedBy = none
  same : ∀ task ∈ db.tasks.rows, ∀ claimer ∈ task.claimedBy, ∀ assignee ∈ task.assignedTo,
    assignee = claimer

/-- No claimed task is taken from the worker who has claimed it. -/
def KeepsClaims (before after : WorkDb) : Prop :=
  ∀ task ∈ before.tasks.rows, ∀ claimer ∈ task.claimedBy,
    ∃ task' ∈ after.tasks.rows, task'.taskId = task.taskId ∧ task'.claimedBy = some claimer

/-- Whoever is given a task is still available when it is. -/
def AssignsAvailable (today : ℕ) (assignedTo : Option String) (task : WorkTask)
    (db : WorkDb) : Prop :=
  ∀ username ∈ assignedTo, isAvailable db task.warehouseId today username = true

/-- Everyone a waiting task may be dispatched to is still available, under the availability
that is reported. -/
def DispatchesAvailable (today : ℕ) (request : DispatchRequest) (own : OwnWrites)
    (available : List Worker) (taskIds : List ℕ) (db : WorkDb) : Prop :=
  ∀ task ∈ (own.apply db).tasks.rows, task.taskId ∈ taskIds →
    task.status = .queued ∧ task.assignedTo = none ∧ task.availableAt ≤ request.now →
      ∀ worker ∈ available, task.taskType ∈ worker.taskTypes →
        isAvailable (own.apply db) task.warehouseId today worker.username = true

/-- A worker who is no longer available has no task waiting but those to be released. -/
def Relieves (userId : ℕ) (status : Availability) (warehouseId : ℕ) (released : List ℕ)
    (db : WorkDb) : Prop :=
  status = .available ∨
    ∀ task ∈ db.tasks.rows, task.warehouseId = warehouseId → task.status = .assigned →
      task.claimedBy = none → ∀ worker ∈ db.workers, worker.userId = userId →
        task.assignedTo = some worker.username → task.taskId ∈ released

/-- What a commit must meet: a claim nothing, an assignment and a dispatch what they read
of availability. -/
def GivesAvailable (today : ℕ) : OwnerRequest → OwnerMemory → WorkDb → Prop
  | .assignTask _ assignedTo _, .assigning task, db =>
      AssignsAvailable today assignedTo task db
  | .autoDispatch request, .dispatching own available taskIds, db =>
      DispatchesAvailable today request own available taskIds db
  | .setWorkerAvailability userId status request, .dispatching own available taskIds, db =>
      Relieves userId status request.warehouseId own.released db ∧
        DispatchesAvailable today request own available taskIds db
  | _, _, _ => True

/-- The row a change of availability writes. -/
def OwnerRequest.reported : OwnerRequest → Option WorkerStatus
  | .setWorkerAvailability userId status request =>
      some ⟨request.warehouseId, userId, request.workDate, status⟩
  | _ => none

def Reports (request : OwnerRequest) : OwnerMemory → Prop
  | .releasing row _ => request.reported = some row
  | .gathering own | .locking own _ | .dispatching own _ _ => own.status = request.reported
  | _ => True

/-- What a transaction knows of the tasks it has locked; a claim has locked one that is
assigned to nobody else. -/
def KnowsWaiting (request : OwnerRequest) (memory : OwnerMemory) (db : WorkDb) : Prop :=
  Reserved request db memory ∧ Reports request memory ∧
    match request, memory with
    | .claimNext claim, .claiming task =>
        ∀ assignee ∈ task.assignedTo, assignee = claim.username
    | _, _ => True

variable {request : DispatchRequest} {available : List Worker} {task' task : WorkTask}
  {taskIds : List ℕ} {own : OwnWrites} {username : String} {warehouseId : ℕ}

variable {state : WorkDb × List (ℕ × String)} {assignedTo : Option String} {before : WorkDb}

/-! ## The commits -/

section Commits

variable {db : WorkDb}

/-- The tables a commit leaves. -/
inductive OwnerCommit (db : WorkDb) : OwnerRequest → OwnerMemory → WorkDb → Prop
  | nothing (request : OwnerRequest) (memory : OwnerMemory) : OwnerCommit db request memory db
  | claims (claim : ClaimRequest) (task : WorkTask) :
      OwnerCommit db (.claimNext claim) (.claiming task)
        (startBatch task.batchId (claimTask task.taskId claim.username db))
  | assigns (taskId workDate : ℕ) (assignedTo : Option String) (task : WorkTask) :
      OwnerCommit db (.assignTask taskId assignedTo workDate) (.assigning task)
        (assignTo task.taskId assignedTo db)
  | dispatches (request : DispatchRequest) (own : OwnWrites) (available : List Worker)
      (taskIds : List ℕ) :
      OwnerCommit db (.autoDispatch request) (.dispatching own available taskIds)
        (autoDispatch request available taskIds (own.apply db))
  | reports (userId : ℕ) (status : Availability) (request : DispatchRequest)
      (own : OwnWrites) (available : List Worker) (taskIds : List ℕ) :
      OwnerCommit db (.setWorkerAvailability userId status request)
        (.dispatching own available taskIds)
        (autoDispatch request available taskIds (own.apply db))

theorem owner_commits {request : OwnerRequest} {memory : OwnerMemory}
    {isLocked : WorkLock → Bool} {next : WorkDb} {answer : OwnerAnswer}
    (hcommit : ownerStatement request memory isLocked db = .commit next answer) :
    OwnerCommit db request memory next := by
  cases request with
  | claimNext claim =>
      rcases claimNextTask_commit hcommit with rfl | ⟨task, rfl, -, rfl⟩
      · exact .nothing ..
      · exact .claims ..
  | assignTask taskId assignedTo workDate =>
      obtain ⟨task, rfl, rfl⟩ := assignTask_commit hcommit
      exact .assigns ..
  | autoDispatch dispatch =>
      obtain ⟨own, available, taskIds, rfl, rfl⟩ := dispatchLocked_commit hcommit
      exact .dispatches ..
  | setWorkerAvailability userId status dispatch =>
      obtain ⟨own, available, taskIds, rfl, rfl⟩ :=
        dispatchLocked_commit (setWorkerAvailability_commit hcommit)
      exact .reports ..

/-! ### Availability -/

/-- The tables availability is read from. -/
structure SameWorkers (db db' : WorkDb) : Prop where
  workers : db'.workers = db.workers
  status : db'.workerStatus = db.workerStatus

theorem SameWorkers.isAvailable {db' : WorkDb} (hsame : SameWorkers db db')
    (warehouseId workDate : ℕ) (username : String) :
    isAvailable db' warehouseId workDate username =
      isAvailable db warehouseId workDate username := by
  rw [WorkControl.isAvailable, WorkControl.isAvailable, reportedAvailability,
    reportedAvailability, hsame.workers, hsame.status]

theorem sameWorkers_dispatchTask (request : DispatchRequest) (available : List Worker)
    (state : WorkDb × List (ℕ × String)) (taskId : ℕ) :
    SameWorkers state.1 (dispatchTask request available state taskId).1 := by
  rw [dispatchTask]
  split
  · exact ⟨rfl, rfl⟩
  · split
    · split <;> exact ⟨rfl, rfl⟩
    · exact ⟨rfl, rfl⟩

theorem sameWorkers_autoDispatch (request : DispatchRequest) (available : List Worker)
    (taskIds : List ℕ) (db : WorkDb) :
    SameWorkers db (autoDispatch request available taskIds db) := by
  have hloop : ∀ state : WorkDb × List (ℕ × String),
      SameWorkers state.1 (taskIds.foldl (dispatchTask request available) state).1 := by
    induction taskIds with
    | nil => exact fun _ => ⟨rfl, rfl⟩
    | cons taskId rest ih =>
        intro state
        have hfirst := sameWorkers_dispatchTask request available state taskId
        have hrest := ih (dispatchTask request available state taskId)
        exact ⟨hrest.workers.trans hfirst.workers, hrest.status.trans hfirst.status⟩
  exact hloop (db, counterpartWorkers db request.warehouseId)

/-! ### The tasks a dispatch leaves -/

/-- A task a dispatch leaves: one as it was, or one that was ready and has gone to a worker
on the list who may do it. -/
def Dispatched (request : DispatchRequest) (available : List Worker) (taskIds : List ℕ)
    (before : WorkDb) (task' : WorkTask) : Prop :=
  task' ∈ before.tasks.rows ∨
    ∃ task ∈ before.tasks.rows, ∃ worker ∈ available,
      task.taskId ∈ taskIds ∧ task.taskType ∈ worker.taskTypes ∧
        (task.status = .queued ∧ task.assignedTo = none ∧ task.availableAt ≤ request.now) ∧
        task' = { task with
          status := .assigned
          assignedTo := some worker.username }

theorem dispatched_dispatchTask {taskId : ℕ}
    (hmem : task' ∈ (dispatchTask request available state taskId).1.tasks.rows) :
    Dispatched request available [taskId] state.1 task' := by
  rw [dispatchTask] at hmem
  split at hmem
  · exact Or.inl hmem
  · rename_i task hfind
    obtain ⟨htask, rfl⟩ := mem_rows_of_find? hfind
    split at hmem
    · rename_i hready
      split at hmem
      · exact Or.inl hmem
      · rename_i worker hchosen
        have hcandidate := List.mem_filter.mp (List.argmin_mem hchosen)
        cases mem_assignTo htask hmem with
        | inl hkept => exact Or.inl hkept.1
        | inr hgiven =>
            exact Or.inr ⟨task, htask, worker, hcandidate.1, List.mem_cons_self,
              (of_decide_eq_true hcandidate.2).1, hready, hgiven⟩
    · exact Or.inl hmem

theorem dispatched_dispatchTasks
    (hmem : task' ∈ (taskIds.foldl (dispatchTask request available) state).1.tasks.rows) :
    Dispatched request available taskIds state.1 task' := by
  induction taskIds generalizing state with
  | nil => exact Or.inl hmem
  | cons taskId rest ih =>
      cases ih hmem with
      | inl hmiddle =>
          cases dispatched_dispatchTask hmiddle with
          | inl hold => exact Or.inl hold
          | inr hgiven =>
              obtain ⟨task, htask, worker, hworker, hlisted, hrest⟩ := hgiven
              have hhere : task.taskId ∈ taskId :: rest := by
                rw [List.mem_singleton.mp hlisted]
                exact List.mem_cons_self
              exact Or.inr ⟨task, htask, worker, hworker, hhere, hrest⟩
      | inr hgiven =>
          obtain ⟨task, htask, worker, hworker, hlisted, htype, hready, hset⟩ := hgiven
          cases dispatched_dispatchTask htask with
          | inl hold =>
              exact Or.inr ⟨task, hold, worker, hworker, List.mem_cons_of_mem _ hlisted, htype,
                hready, hset⟩
          | inr hearlier =>
              -- a task that has been given is ready no longer
              obtain ⟨_, _, _, _, _, _, _, hassigned⟩ := hearlier
              rw [hassigned] at hready
              cases hready.1

/-- The own writes leave a task as it is, or release it. -/
theorem mem_ownWrites (hmem : task' ∈ (own.apply db).tasks.rows) :
    (task' ∈ db.tasks.rows ∧ task'.taskId ∉ own.released) ∨
      ∃ task ∈ db.tasks.rows, task.taskId ∈ own.released ∧
        task' = { task with
          status := .queued
          assignedTo := none } := by
  obtain ⟨task, htask, rfl⟩ := List.mem_map.mp hmem
  rw [own.tasks_reported] at htask
  by_cases hin : task.taskId ∈ own.released
  · rw [if_pos (decide_eq_true hin)]
    exact Or.inr ⟨task, htask, hin, rfl⟩
  · rw [if_neg (by simpa using hin)]
    exact Or.inl ⟨htask, hin⟩

end Commits

/-! ## Nobody is held back -/

section Held

variable {today : ℕ} {db : WorkDb}

theorem NoneHeldBack.claims (hnone : NoneHeldBack today db) (hmem : task ∈ db.tasks.rows) :
    NoneHeldBack today (startBatch task.batchId (claimTask task.taskId username db)) := by
  intro task' hmem' hstatus hunclaimed
  cases mem_claimTask hmem hmem' with
  | inl hkept => exact hnone task' hkept.1 hstatus hunclaimed
  | inr hclaimed =>
      rw [hclaimed] at hstatus
      cases hstatus

theorem NoneHeldBack.assigns (hnone : NoneHeldBack today db)
    (hmem : task ∈ db.tasks.rows) (hgives : AssignsAvailable today assignedTo task db) :
    NoneHeldBack today (assignTo task.taskId assignedTo db) := by
  intro task' hmem' hstatus hunclaimed username hassigned
  cases mem_assignTo hmem hmem' with
  | inl hkept => exact hnone task' hkept.1 hstatus hunclaimed username hassigned
  | inr hgiven =>
      rw [hgiven] at hassigned ⊢
      exact hgives username hassigned

theorem lookup_reportStatus (row : WorkerStatus) (db : WorkDb) (key : ℕ × ℕ × ℕ) :
    (reportStatus row db).workerStatus.lookup key =
      if key = row.uniqueKey then
        some ((db.workerStatus.lookup key).elim row fun old =>
          { old with availabilityStatus := row.availabilityStatus })
      else db.workerStatus.lookup key :=
  db.workerStatus.lookup_upsert row
    (fun old => { old with availabilityStatus := row.availabilityStatus })
    (fun _ hold => hold) key

/-- A report leaves available whom it does not concern. -/
theorem isAvailable_reportStatus {row : WorkerStatus}
    (hbefore : isAvailable db warehouseId today username = true)
    (hreport : row.availabilityStatus = .available ∨
      ∀ worker ∈ db.workers, worker.username = username →
        (warehouseId, worker.userId, today) ≠ row.uniqueKey) :
    isAvailable (reportStatus row db) warehouseId today username = true := by
  have hworkers : (reportStatus row db).workers = db.workers := rfl
  rw [isAvailable, reportedAvailability] at hbefore ⊢
  rw [hworkers]
  cases hfind : db.workers.find? fun worker => worker.username = username with
  | none => rfl
  | some worker =>
      have husername : worker.username = username := by simpa using List.find?_some hfind
      rw [hfind, Option.bind_some] at hbefore
      rw [Option.bind_some, lookup_reportStatus]
      by_cases hkey : (warehouseId, worker.userId, today) = row.uniqueKey
      · have havailable : row.availabilityStatus = .available :=
          hreport.resolve_right fun hother =>
            hother worker (List.mem_of_find?_eq_some hfind) husername hkey
        rw [if_pos hkey]
        cases db.workerStatus.lookup (warehouseId, worker.userId, today) with
        | none | some => exact decide_eq_true havailable
      · rw [if_neg hkey]
        exact hbefore

/-- Every task that waits is released, or its worker available after the own writes. -/
def Relieved (today : ℕ) (own : OwnWrites) (db : WorkDb) : Prop :=
  ∀ task ∈ db.tasks.rows, task.status = .assigned → task.claimedBy = none →
    ∀ username ∈ task.assignedTo, task.taskId ∈ own.released ∨
      isAvailable (own.apply db) task.warehouseId today username = true

theorem NoneHeldBack.relieved (hnone : NoneHeldBack today db)
    (hstatus : own.status = none) : Relieved today own db := by
  intro task hmem hassigned hunclaimed username husername
  apply Or.inr
  rw [OwnWrites.apply, hstatus]
  exact hnone task hmem hassigned hunclaimed username husername

theorem NoneHeldBack.relieved_reports {userId workDate : ℕ} {status : Availability}
    (hnone : NoneHeldBack today db)
    (hstatus : own.status = some ⟨warehouseId, userId, workDate, status⟩)
    (hrelieves : Relieves userId status warehouseId own.released db) :
    Relieved today own db := by
  intro task hmem hassigned hunclaimed username husername
  by_cases hin : task.taskId ∈ own.released
  · exact Or.inl hin
  · apply Or.inr
    rw [OwnWrites.apply, hstatus]
    apply isAvailable_reportStatus (hnone task hmem hassigned hunclaimed username husername)
    apply hrelieves.imp_right
    intro hreleased worker hworker hname hkey
    obtain ⟨hwarehouse, huser, -⟩ :
        task.warehouseId = warehouseId ∧ worker.userId = userId ∧ today = workDate := by
      simpa [WorkerStatus.uniqueKey] using hkey
    exact hin (hreleased task hmem hwarehouse hassigned hunclaimed worker hworker huser
      (hname ▸ husername))

theorem NoneHeldBack.dispatches (hrelieved : Relieved today own db)
    (hgives : DispatchesAvailable today request own available taskIds db) :
    NoneHeldBack today (autoDispatch request available taskIds (own.apply db)) := by
  have hsame := sameWorkers_autoDispatch request available taskIds (own.apply db)
  intro task' hmem' hstatus hunclaimed username hassigned
  rw [hsame.isAvailable]
  cases dispatched_dispatchTasks hmem' with
  | inl hkept =>
      cases mem_ownWrites hkept with
      | inl hold =>
          obtain ⟨hmem, hin⟩ := hold
          exact (hrelieved task' hmem hstatus hunclaimed username hassigned).resolve_left hin
      | inr hreleased =>
          obtain ⟨task, -, -, rfl⟩ := hreleased
          cases hstatus
  | inr hgiven =>
      obtain ⟨task, hmem, worker, hworker, hlisted, htype, hready, rfl⟩ := hgiven
      obtain rfl := Option.some.inj hassigned
      exact hgives task hmem hlisted hready worker hworker htype

end Held

/-! ## One worker a task -/

section One

variable {db : WorkDb}

theorem OneWorker.claims (hone : OneWorker db) (hmem : task ∈ db.tasks.rows)
    (hassigned : ∀ assignee ∈ task.assignedTo, assignee = username) :
    OneWorker (startBatch task.batchId (claimTask task.taskId username db)) := by
  constructor
  · intro task' hmem' hwaiting
    cases mem_claimTask hmem hmem' with
    | inl hkept => exact hone.unclaimed task' hkept.1 hwaiting
    | inr hclaimed =>
        rw [hclaimed] at hwaiting
        rcases hwaiting with hwaiting | hwaiting <;> cases hwaiting
  · intro task' hmem' claimer hclaimer assignee hassignee
    cases mem_claimTask hmem hmem' with
    | inl hkept => exact hone.same task' hkept.1 claimer hclaimer assignee hassignee
    | inr hclaimed =>
        rw [hclaimed] at hclaimer hassignee
        rw [hassigned assignee hassignee]
        exact Option.some.inj hclaimer

theorem OneWorker.assigns (hone : OneWorker db) (hwaiting : Waiting db task) :
    OneWorker (assignTo task.taskId assignedTo db) := by
  have hunclaimed := hone.unclaimed task hwaiting.1 hwaiting.2
  constructor
  · intro task' hmem' hwaiting'
    cases mem_assignTo hwaiting.1 hmem' with
    | inl hkept => exact hone.unclaimed task' hkept.1 hwaiting'
    | inr hgiven =>
        rw [hgiven]
        exact hunclaimed
  · intro task' hmem' claimer hclaimer assignee hassignee
    cases mem_assignTo hwaiting.1 hmem' with
    | inl hkept => exact hone.same task' hkept.1 claimer hclaimer assignee hassignee
    | inr hgiven =>
        rw [hgiven] at hclaimer
        rw [hunclaimed] at hclaimer
        cases hclaimer

theorem OneWorker.ownWrites (hone : OneWorker db)
    (hreleasable : Releasable own warehouseId db) : OneWorker (own.apply db) := by
  constructor
  · intro task' hmem' hwaiting
    cases mem_ownWrites hmem' with
    | inl hkept => exact hone.unclaimed task' hkept.1 hwaiting
    | inr hreleased =>
        obtain ⟨task, hmem, hin, rfl⟩ := hreleased
        exact (hreleasable task hmem hin).2.2
  · intro task' hmem' claimer hclaimer assignee hassignee
    cases mem_ownWrites hmem' with
    | inl hkept => exact hone.same task' hkept.1 claimer hclaimer assignee hassignee
    | inr hreleased =>
        obtain ⟨task, -, -, rfl⟩ := hreleased
        cases hassignee

theorem OneWorker.dispatches (hone : OneWorker db) :
    OneWorker (autoDispatch request available taskIds db) := by
  constructor
  · intro task' hmem' hwaiting
    cases dispatched_dispatchTasks hmem' with
    | inl hkept => exact hone.unclaimed task' hkept hwaiting
    | inr hgiven =>
        obtain ⟨task, hmem, worker, -, -, -, hready, rfl⟩ := hgiven
        exact hone.unclaimed task hmem (Or.inl hready.1)
  · intro task' hmem' claimer hclaimer assignee hassignee
    cases dispatched_dispatchTasks hmem' with
    | inl hkept => exact hone.same task' hkept claimer hclaimer assignee hassignee
    | inr hgiven =>
        obtain ⟨task, hmem, worker, -, -, -, hready, rfl⟩ := hgiven
        have hunclaimed := hone.unclaimed task hmem (Or.inl hready.1)
        change claimer ∈ task.claimedBy at hclaimer
        rw [hunclaimed] at hclaimer
        cases hclaimer

end One

/-! ## Claims stay -/

section Claims

variable {db : WorkDb}

theorem KeepsClaims.refl (db : WorkDb) : KeepsClaims db db :=
  fun task hmem _ hclaimer => ⟨task, hmem, rfl, hclaimer⟩

theorem KeepsClaims.trans {middle after : WorkDb} (hfirst : KeepsClaims before middle)
    (hsecond : KeepsClaims middle after) : KeepsClaims before after := by
  intro task hmem claimer hclaimer
  obtain ⟨later, hlater, hkey, hclaimed⟩ := hfirst task hmem claimer hclaimer
  obtain ⟨last, hlast, hkey', hclaimed'⟩ := hsecond later hlater claimer hclaimed
  exact ⟨last, hlast, hkey'.trans hkey, hclaimed'⟩

/-- An update that rewrites no claim. -/
theorem keepsClaims_update {after : WorkDb} {test : WorkTask → Bool}
    {set : WorkTask → WorkTask} (hrows : after.tasks.rows =
      before.tasks.rows.map fun task => if test task = true then set task else task)
    (hset : ∀ task ∈ before.tasks.rows, test task = true →
      (set task).taskId = task.taskId ∧
        ∀ claimer ∈ task.claimedBy, (set task).claimedBy = some claimer) :
    KeepsClaims before after := by
  intro task hmem claimer hclaimer
  refine ⟨if test task = true then set task else task, ?_, ?_⟩
  · rw [hrows]
    exact List.mem_map_of_mem hmem
  · by_cases htest : test task = true
    · rw [if_pos htest]
      obtain ⟨hkey, hkept⟩ := hset task hmem htest
      exact ⟨hkey, hkept claimer hclaimer⟩
    · rw [if_neg htest]
      exact ⟨rfl, hclaimer⟩

theorem keepsClaims_assignTo (taskId : ℕ) (assignedTo : Option String) (db : WorkDb) :
    KeepsClaims db (assignTo taskId assignedTo db) :=
  keepsClaims_update rfl fun _ _ _ => ⟨rfl, fun _ hclaimer => hclaimer⟩

theorem keepsClaims_ownWrites (own : OwnWrites) (db : WorkDb) : KeepsClaims db (own.apply db) := by
  have hrows : (own.apply db).tasks.rows = db.tasks.rows.map fun task =>
      if decide (task.taskId ∈ own.released) = true then
        { task with
          status := .queued
          assignedTo := none }
      else task := by
    rw [← own.tasks_reported db]
    rfl
  exact keepsClaims_update hrows fun _ _ _ => ⟨rfl, fun _ hclaimer => hclaimer⟩

theorem keepsClaims_autoDispatch (request : DispatchRequest) (available : List Worker)
    (taskIds : List ℕ) (db : WorkDb) :
    KeepsClaims db (autoDispatch request available taskIds db) := by
  have hloop : ∀ state : WorkDb × List (ℕ × String),
      KeepsClaims state.1 (taskIds.foldl (dispatchTask request available) state).1 := by
    induction taskIds with
    | nil => exact fun state => .refl state.1
    | cons taskId rest ih =>
        intro state
        apply KeepsClaims.trans _ (ih (dispatchTask request available state taskId))
        rw [dispatchTask]
        split
        · exact .refl _
        · split
          · split
            · exact .refl _
            · exact keepsClaims_assignTo _ _ _
          · exact .refl _
  exact hloop (db, counterpartWorkers db request.warehouseId)

theorem keepsClaims_claimTask {batchId : Option ℕ} (hmem : task ∈ db.tasks.rows)
    (hunclaimed : task.claimedBy = none) :
    KeepsClaims db (startBatch batchId (claimTask task.taskId username db)) := by
  apply keepsClaims_update rfl
  intro other hother hkey
  obtain rfl := eq_of_taskId hother hmem (of_decide_eq_true hkey)
  refine ⟨rfl, ?_⟩
  intro claimer hclaimer
  rw [hunclaimed] at hclaimer
  cases hclaimer

end Claims

/-! ## The outline -/

section Statements

variable {request : OwnerRequest} {memory after : OwnerMemory} {isLocked : WorkLock → Bool}
  {db next : WorkDb} {answer : OwnerAnswer}

/-- A commit leaves one worker a task, and every claim. -/
theorem one_commits (hone : OneWorker db) (hknown : KnowsWaiting request memory db)
    (hcommit : ownerStatement request memory isLocked db = .commit next answer) :
    OneWorker next ∧ KeepsClaims db next := by
  obtain ⟨hreserved, -, hassigned⟩ := hknown
  cases owner_commits hcommit with
  | nothing => exact ⟨hone, .refl db⟩
  | claims claim task =>
      exact ⟨hone.claims hreserved.1 hassigned,
        keepsClaims_claimTask hreserved.1 (hone.unclaimed task hreserved.1 hreserved.2)⟩
  | assigns taskId workDate assignedTo task =>
      exact ⟨hone.assigns hreserved, keepsClaims_assignTo _ _ _⟩
  | dispatches dispatch own available taskIds =>
      exact ⟨(hone.ownWrites hreserved).dispatches,
        (keepsClaims_ownWrites own db).trans (keepsClaims_autoDispatch _ _ _ _)⟩
  | reports userId status dispatch own available taskIds =>
      exact ⟨(hone.ownWrites hreserved).dispatches,
        (keepsClaims_ownWrites own db).trans (keepsClaims_autoDispatch _ _ _ _)⟩

/-- A commit that gives tasks to available workers holds nobody back. -/
theorem held_commits {today : ℕ} (hnone : NoneHeldBack today db)
    (hknown : KnowsWaiting request memory db)
    (hgives : GivesAvailable today request memory db)
    (hcommit : ownerStatement request memory isLocked db = .commit next answer) :
    NoneHeldBack today next := by
  obtain ⟨hreserved, hreports, -⟩ := hknown
  cases owner_commits hcommit with
  | nothing => exact hnone
  | claims claim task => exact hnone.claims hreserved.1
  | assigns taskId workDate assignedTo task => exact hnone.assigns hreserved.1 hgives
  | dispatches dispatch own available taskIds =>
      exact .dispatches (hnone.relieved hreports) hgives
  | reports userId status dispatch own available taskIds =>
      exact .dispatches (hnone.relieved_reports hreports hgives.1) hgives.2

theorem reports_dispatch {dispatch : DispatchRequest} (hreports : Reports request memory)
    (hproceed : dispatchLocked dispatch isLocked db memory = .proceed after) :
    Reports request after := by
  rcases dispatchLocked_proceed hproceed with
    ⟨own, available, rfl, rfl⟩ | ⟨own, available, rfl, -, rfl⟩
  · exact hreports
  · exact hreports

theorem reports_proceeds (hreports : Reports request memory)
    (hproceed : ownerStatement request memory isLocked db = .proceed after) :
    Reports request after := by
  cases request with
  | claimNext claim =>
      rcases claimNextTask_proceed hproceed with rfl | rfl | ⟨task, -, rfl⟩ <;> trivial
  | assignTask taskId assignedTo workDate =>
      rcases assignTask_proceed hproceed with
        ⟨task, -, -, rfl⟩ | ⟨task, -, -, -, rfl⟩ | ⟨task, -, -, rfl⟩ <;> trivial
  | autoDispatch dispatch => exact reports_dispatch hreports hproceed
  | setWorkerAvailability userId status dispatch =>
      rcases setWorkerAvailability_proceed hproceed with ⟨username, -, rfl⟩ |
        ⟨row, username, rfl, rfl⟩ | ⟨row, username, rfl, -, rfl⟩ | hlocked
      · rfl
      · exact hreports.symm
      · exact hreports.symm
      · exact reports_dispatch hreports hlocked

theorem waiting_proceeds (hknown : KnowsWaiting request memory db)
    (hproceed : ownerStatement request memory isLocked db = .proceed after) :
    KnowsWaiting request after db := by
  refine ⟨reserved_proceeds hknown.1 hproceed, reports_proceeds hknown.2.1 hproceed, ?_⟩
  cases request with
  | claimNext claim =>
      rcases claimNextTask_proceed hproceed with rfl | rfl | ⟨task, hcandidate, rfl⟩
      · trivial
      · trivial
      · have hfacts := of_decide_eq_true (candidate?_spec hcandidate).2.1
        intro assignee hassignee
        rcases hfacts.2.2.2.1 with hnobody | hself
        · rw [hnobody] at hassignee
          cases hassignee
        · rw [hself] at hassignee
          exact (Option.some.inj hassignee).symm
  | assignTask | autoDispatch | setWorkerAvailability => trivial

theorem owner_commit_rewrites (hreserved : Reserved request db memory)
    (hcommit : ownerStatement request memory isLocked db = .commit next answer) :
    Rewrites (fun taskId => memory.holds (.task taskId) = true) db next :=
  (owner_rewrites hreserved hcommit).1

theorem waiting_stable {other : OwnerRequest} {memory' : OwnerMemory}
    (hknown : KnowsWaiting request memory db) (hother : KnowsWaiting other memory' db)
    (hapart : ∀ lock, memory.holds lock = true → memory'.holds lock = false)
    (hcommit : ownerStatement request memory isLocked db = .commit next answer) :
    KnowsWaiting other memory' next := by
  refine ⟨reserved_sameRows ?_ hother.1, hother.2⟩
  apply (SameRows.of_rewrites (owner_commit_rewrites hknown.1 hcommit)).mono
  intro taskId hheld hboth
  rw [hapart (.task taskId) hboth] at hheld
  cases hheld

end Statements

/-- The outline of these requests with an invariant that their commits keep. -/
theorem waiting_outline {inv : WorkDb → Prop} {allowed : OwnerRequest → OwnerMemory → WorkDb → Prop}
    (hcommits : ∀ request memory isLocked db next answer, inv db →
      KnowsWaiting request memory db → allowed request memory db →
        ownerStatement request memory isLocked db = .commit next answer → inv next) :
    Outline ownerProgram inv KnowsWaiting allowed fun _ _ _ _ _ => True where
  start := by
    intro request db _
    refine ⟨reserved_first request db, ?_⟩
    cases request with
    | claimNext | assignTask => exact ⟨trivial, trivial⟩
    | autoDispatch dispatch => exact ⟨rfl, trivial⟩
    | setWorkerAvailability userId status dispatch => exact ⟨trivial, trivial⟩
  acquires := fun _ _ _ _ _ hproceed _ hheld => owner_acquires hproceed hheld
  proceeds := fun _ _ _ _ _ _ hknown hproceed => waiting_proceeds hknown hproceed
  commits := hcommits
  stable := fun _ _ _ _ _ _ _ _ _ hknown hother _ hapart _ hcommit =>
    waiting_stable hknown hother hapart hcommit

section Runs

variable {Ticket : Type*} [Fintype Ticket] [DecidableEq Ticket]
  {requests : Ticket → OwnerRequest} {opening : WorkDb} {steps : List (Step Ticket)}

/-- In any order of statements a claimed task stays with the worker who has claimed it, and
no task has two workers. -/
theorem claims_stay (hone : OneWorker opening) :
    OneWorker (run (Sessions.serve ownerProgram requests)
        (opened ownerProgram requests opening) steps).world ∧
      Along (Sessions.serve ownerProgram requests)
        (fun service step =>
          KeepsClaims service.world (Sessions.serve ownerProgram requests service step).world)
        (opened ownerProgram requests opening) steps := by
  have houtline : Outline ownerProgram OneWorker KnowsWaiting (fun _ _ _ => True)
      fun _ _ _ _ _ => True :=
    waiting_outline fun _ _ _ _ _ _ hone hknown _ hcommit => (one_commits hone hknown hcommit).1
  refine ⟨(sound_run_always houtline hone steps).inv, ?_⟩
  exact along_sound houtline KeepsClaims.refl
    (fun _ _ _ _ _ _ hone hknown _ hcommit => (one_commits hone hknown hcommit).2) hone
    (along_forall clear_always _ steps)

/-- While whoever is given a task is still available when it commits, and a change of
availability has released all that its worker has waiting by then, no worker who is on
break or off duty has a task waiting; and in any case claims stay. -/
theorem unavailable_hold_nothing {today : ℕ} (hnone : NoneHeldBack today opening)
    (hone : OneWorker opening)
    (hclear : Along (Sessions.serve ownerProgram requests)
      (Clear ownerProgram requests (GivesAvailable today) fun _ _ _ _ _ => True)
      (opened ownerProgram requests opening) steps) :
    NoneHeldBack today (run (Sessions.serve ownerProgram requests)
        (opened ownerProgram requests opening) steps).world ∧
      OneWorker (run (Sessions.serve ownerProgram requests)
        (opened ownerProgram requests opening) steps).world ∧
      Along (Sessions.serve ownerProgram requests)
        (fun service step =>
          KeepsClaims service.world (Sessions.serve ownerProgram requests service step).world)
        (opened ownerProgram requests opening) steps := by
  have houtline : Outline ownerProgram (NoneHeldBack today) KnowsWaiting
      (GivesAvailable today) fun _ _ _ _ _ => True :=
    waiting_outline fun _ _ _ _ _ _ hnone hknown hgives hcommit =>
      held_commits hnone hknown hgives hcommit
  exact ⟨(sound_run houtline hnone hclear).inv, claims_stay hone⟩

end Runs

instance (today : ℕ) (db : WorkDb) : Decidable (NoneHeldBack today db) :=
  inferInstanceAs (Decidable (∀ _ ∈ _, _ → _ → ∀ _ ∈ _, _ = true))

instance (db : WorkDb) : Decidable (OneWorker db) :=
  decidable_of_iff
    ((∀ task ∈ db.tasks.rows, task.status = .queued ∨ task.status = .assigned →
        task.claimedBy = none) ∧
      ∀ task ∈ db.tasks.rows, ∀ claimer ∈ task.claimedBy, ∀ assignee ∈ task.assignedTo,
        assignee = claimer)
    ⟨fun ⟨hunclaimed, hsame⟩ => ⟨hunclaimed, hsame⟩, fun hone => ⟨hone.unclaimed, hone.same⟩⟩

instance (today : ℕ) (request : DispatchRequest) (own : OwnWrites) (available : List Worker)
    (taskIds : List ℕ) (db : WorkDb) :
    Decidable (DispatchesAvailable today request own available taskIds db) :=
  inferInstanceAs (Decidable (∀ _ ∈ _, _ → _ → ∀ _ ∈ _, _ → _ = true))

instance (userId : ℕ) (status : Availability) (warehouseId : ℕ) (released : List ℕ)
    (db : WorkDb) : Decidable (Relieves userId status warehouseId released db) :=
  inferInstanceAs (Decidable (_ ∨ ∀ _ ∈ _, _ → _ → _ → ∀ _ ∈ _, _ → _ → _))

instance (today : ℕ) (request : OwnerRequest) (memory : OwnerMemory) (db : WorkDb) :
    Decidable (GivesAvailable today request memory db) := by
  unfold GivesAvailable AssignsAvailable
  split <;> infer_instance

/-! ## One task and two workers -/

namespace SmallShift

/-- A task to put away, and two workers who may do it. -/
def opening : WorkDb where
  tasks := Table.empty.insert fun taskId =>
    { taskId := taskId
      batchId := none
      warehouseId := 1
      taskType := .putaway
      status := .queued
      priority := 50
      assignedTo := none
      claimedBy := none
      availableAt := 0 }
  batches := .empty
  workers := [⟨1, "ana", true, true, [1], [.putaway]⟩, ⟨2, "ben", true, true, [1], [.putaway]⟩]

/-- A dispatch on day 1 that prefers `ana`. -/
def dispatch : DispatchRequest :=
  ⟨1, 1, 5, fun _ username => if username = "ana" then 0 else 1⟩

def offDuty : OwnerRequest := .setWorkerAvailability 1 .offDuty dispatch

/-- `ana` is given the task, and goes off duty. -/
def assigned : Fin 2 → OwnerRequest
  | 0 => .assignTask 1 (some "ana") 1
  | 1 => offDuty

def dispatched : Fin 2 → OwnerRequest
  | 0 => .autoDispatch dispatch
  | 1 => offDuty

def advance (ticket : Fin 2) (count : ℕ) : List (Step (Fin 2)) :=
  List.replicate count (.advance ticket)

/-- The change of availability begins when the task has been given. -/
def inTurn : List (Step (Fin 2)) := advance 0 4 ++ advance 1 5

/-- It finds nothing to release while the task is being given, and reads the workers once
it has been. -/
def across : List (Step (Fin 2)) := advance 0 2 ++ advance 1 2 ++ advance 0 2 ++ advance 1 3

/-- It is done before the dispatch has locked the task. -/
def ahead : List (Step (Fin 2)) := advance 0 1 ++ advance 1 5 ++ advance 0 2

/-- The same shift without `ben`. -/
def alone : WorkDb :=
  { opening with workers := opening.workers.take 1 }

def after (db : WorkDb) (requests : Fin 2 → OwnerRequest) (steps : List (Step (Fin 2))) : WorkDb :=
  (run (Sessions.serve ownerProgram requests) (opened ownerProgram requests db) steps).world

/-- Whom the tasks are assigned to. -/
def holders (db : WorkDb) : List (Option String) := db.tasks.rows.map WorkTask.assignedTo

end SmallShift

open SmallShift in
theorem unavailable_hold_nothing_in_turn :
    holders (after opening assigned inTurn) = [some "ben"] ∧
      NoneHeldBack 1 (after opening assigned inTurn) := by
  have hclear : Along (Sessions.serve ownerProgram assigned)
      (Clear ownerProgram assigned (GivesAvailable 1) fun _ _ _ _ _ => True)
      (opened ownerProgram assigned opening) inTurn := by decide +kernel
  exact ⟨by decide +kernel,
    (unavailable_hold_nothing (by decide) (by decide) hclear).1⟩

open SmallShift in
/-- An assignment and a dispatch each give `ana` the task beside the change that takes her
off duty. -/
theorem unavailable_holds_work :
    NoneHeldBack 1 opening ∧ OneWorker opening ∧
      isAvailable (after opening assigned across) 1 1 "ana" = false ∧
      holders (after opening assigned across) = [some "ana"] ∧
      ¬ NoneHeldBack 1 (after opening assigned across) ∧
      NoneHeldBack 1 alone ∧ OneWorker alone ∧
      ¬ NoneHeldBack 1 (after alone dispatched ahead) := by
  decide +kernel

end SentryWms.WorkControl
