import SentryWms.Relational.Stretches
import SentryWms.WorkControl.Availability

/-!
# The time of a task

A transition writes, beside the status, when the task was last started or paused and the
seconds it has been worked on and paused.  Each of the five actions writes other columns;
over any requests they add up the intervals in which the task was in progress, and those in
which it was paused.
-/

namespace SentryWms.WorkControl

open Function Relational Sessions

/-! ## The columns -/

/-- The time columns of a task.  A time is in microseconds. -/
structure TaskTimes where
  activeStartedAt : Option ℤ
  pauseStartedAt : Option ℤ
  activeSeconds : ℤ
  pausedSeconds : ℤ
  deriving DecidableEq, Repr

/-- The columns of a row that has just been inserted. -/
def TaskTimes.fresh : TaskTimes := ⟨none, none, 0, 0⟩

/-- A value of type `INT`; one out of range is an error. -/
def int4 (value : ℤ) : Option ℤ :=
  if -2 ^ 31 ≤ value ∧ value < 2 ^ 31 then some value else none

/-- `EXTRACT(EPOCH FROM ...)::int`: whole seconds, half away from zero. -/
def epochSeconds (microseconds : ℤ) : ℤ :=
  if 0 ≤ microseconds then (microseconds + 500000) / 1000000
  else -((-microseconds + 500000) / 1000000)

/-- `seconds + GREATEST(0, EXTRACT(EPOCH FROM (NOW() - started_at))::int)`; `GREATEST`
passes over a null. -/
def addElapsed (seconds now : ℤ) : Option ℤ → Option ℤ
  | none => some seconds
  | some startedAt => do
      let elapsed ← int4 (epochSeconds (now - startedAt))
      int4 (seconds + max 0 elapsed)

/-- `active_delta` and `pause_delta`, each counted in one status. -/
def addIn (counted status : WorkTaskStatus) (seconds now : ℤ) (startedAt : Option ℤ) : Option ℤ :=
  if status = counted then addElapsed seconds now startedAt else some seconds

/-- `set_sql`. -/
def setTimes (action : TaskAction) (status : WorkTaskStatus) (now : ℤ) (times : TaskTimes) :
    Option TaskTimes :=
  match action with
  | .start => some { times with
      activeStartedAt := some now
      pauseStartedAt := none }
  | .pause => (addElapsed times.activeSeconds now times.activeStartedAt).map fun seconds =>
      { times with
        activeSeconds := seconds
        activeStartedAt := none
        pauseStartedAt := some now }
  | .resume => (addElapsed times.pausedSeconds now times.pauseStartedAt).map fun seconds =>
      { times with
        pausedSeconds := seconds
        pauseStartedAt := none
        activeStartedAt := some now }
  | .complete => (addElapsed times.activeSeconds now times.activeStartedAt).map fun seconds =>
      { times with
        activeSeconds := seconds
        activeStartedAt := none
        pauseStartedAt := none }
  | .cancel => do
      let activeSeconds ←
        addIn .inProgress status times.activeSeconds now times.activeStartedAt
      let pausedSeconds ← addIn .paused status times.pausedSeconds now times.pauseStartedAt
      return ⟨none, none, activeSeconds, pausedSeconds⟩
  | .exception => some times

/-! ## Requests -/

structure TimedDb where
  work : WorkDb
  times : ℕ → TaskTimes

/-- A request and the time its transaction reads from `NOW()`. -/
structure TimedRequest where
  request : BatchRequest
  now : ℤ

/-- What the own writes of a transaction make of the time columns. -/
def OwnBatch.writeTimes (timed : TimedRequest) (times : ℕ → TaskTimes) :
    OwnBatch → Option (ℕ → TaskTimes)
  | .nothing => some times
  | .created task => some (update times task.taskId .fresh)
  | .transitioned task _ _ =>
      match timed.request with
      | .transition request =>
          (setTimes request.action task.status timed.now (times task.taskId)).map
            (update times task.taskId)
      | _ => some times

/-- A request is served in a transaction of its own. -/
def serveTimed (state : TimedDb) (timed : TimedRequest) : TimedDb :=
  match commitAlone batchProgram timed.request 8 timed.request.first state.work with
  | none => state
  | some (memory, work) =>
      match memory.own.writeTimes timed state.times with
      | none => state
      | some times => ⟨work, times⟩

/-- No task has been touched yet. -/
def TimedDb.opened (work : WorkDb) : TimedDb := ⟨work, fun _ => .fresh⟩

def statusOf (work : WorkDb) (taskId : ℕ) : Option WorkTaskStatus :=
  (work.tasks.find? taskId).map WorkTask.status

/-! ## What is claimed of the columns -/

/-- The task is in the status. -/
def isIn (taskId : ℕ) (status : WorkTaskStatus) (state : TimedDb) : Bool :=
  statusOf state.work taskId = some status

/-- The intervals of the run in which the task was in the status. -/
def taskStretches (taskId : ℕ) (status : WorkTaskStatus) (work : WorkDb)
    (requests : List TimedRequest) : Stretches ℤ :=
  stretches serveTimed TimedRequest.now (isIn taskId status) .empty (.opened work) requests

/-- The length of an interval in seconds. -/
def seconds (start finish : ℤ) : ℤ := epochSeconds (finish - start)

/-- The columns of a task after the requests: the two start times are set exactly in the
statuses they belong to, the seconds are those of the closed intervals, and those of a task
that is completed or cancelled change no more. -/
structure TimesExact (taskId : ℕ) (work : WorkDb) (requests : List TimedRequest) : Prop where
  active : ((run serveTimed (.opened work) requests).times taskId).activeStartedAt.isSome =
    isIn taskId .inProgress (run serveTimed (.opened work) requests)
  pause : ((run serveTimed (.opened work) requests).times taskId).pauseStartedAt.isSome =
    isIn taskId .paused (run serveTimed (.opened work) requests)
  activeSeconds : ((run serveTimed (.opened work) requests).times taskId).activeSeconds =
    (taskStretches taskId .inProgress work requests).total seconds
  pausedSeconds : ((run serveTimed (.opened work) requests).times taskId).pausedSeconds =
    (taskStretches taskId .paused work requests).total seconds
  closed : ∀ status, statusOf (run serveTimed (.opened work) requests).work taskId =
      some status → status.isOpen = false →
    ∀ later, (run serveTimed (run serveTimed (.opened work) requests) later).times taskId =
      (run serveTimed (.opened work) requests).times taskId

/-! ## Statuses of a commit -/

/-- The task has not been started. -/
def WorkTaskStatus.beforeStart : WorkTaskStatus → Bool
  | .queued | .assigned | .claimed => true
  | _ => false

variable {status : WorkTaskStatus} {task : WorkTask} {state : TimedDb}

section Statuses

variable {db next : WorkDb} {isLocked : WorkLock → Bool}

/-- The statements that give tasks their owners start none. -/
theorem settled_owner {request : OwnerRequest} {memory : OwnerMemory} {answer : OwnerAnswer}
    (hcommit : ownerStatement request memory isLocked db = .commit next answer)
    {task' : WorkTask} (hmem : task' ∈ next.tasks.rows) :
    task' ∈ db.tasks.rows ∨ task'.status.beforeStart = true := by
  have hdispatch : ∀ (dispatch : DispatchRequest) (own : OwnWrites) (available : List Worker)
      (taskIds : List ℕ),
      task' ∈ (autoDispatch dispatch available taskIds (own.apply db)).tasks.rows →
        task' ∈ db.tasks.rows ∨ task'.status.beforeStart = true := by
    intro dispatch own available taskIds hgiven
    rcases dispatched_dispatchTasks hgiven with hown | ⟨task, -, worker, -, -, -, -, rfl⟩
    · rcases mem_ownWrites hown with ⟨hkept, -⟩ | ⟨task, -, -, rfl⟩
      · exact Or.inl hkept
      · exact Or.inr rfl
    · exact Or.inr rfl
  cases owner_commits hcommit with
  | nothing => exact Or.inl hmem
  | claims claim task =>
      obtain ⟨old, hold, rfl⟩ := List.mem_map.mp hmem
      split
      · exact Or.inr rfl
      · exact Or.inl hold
  | assigns taskId workDate assignedTo task =>
      obtain ⟨old, hold, rfl⟩ := List.mem_map.mp hmem
      split
      · right
        cases assignedTo <;> rfl
      · exact Or.inl hold
  | dispatches dispatch own available taskIds =>
      exact hdispatch dispatch own available taskIds hmem
  | reports userId status dispatch own available taskIds =>
      exact hdispatch dispatch own available taskIds hmem

theorem statusOf_eq_some {taskId : ℕ} :
    statusOf db taskId = some status ↔
      ∃ task ∈ db.tasks.rows, task.taskId = taskId ∧ task.status = status := by
  rw [statusOf, Option.map_eq_some_iff]
  constructor
  · rintro ⟨task, hfind, hstatus⟩
    obtain ⟨hmem, hkey⟩ := mem_rows_of_find? hfind
    exact ⟨task, hmem, hkey, hstatus⟩
  · rintro ⟨task, hmem, hkey, hstatus⟩
    exact ⟨task, Table.find?_eq_some_iff.mpr ⟨hmem, hkey⟩, hstatus⟩

theorem statusOf_eq_none {taskId : ℕ} :
    statusOf db taskId = none ↔ ∀ task ∈ db.tasks.rows, task.taskId ≠ taskId := by
  rw [statusOf, Option.map_eq_none_iff, Table.find?_eq_none_iff]

/-- Where tasks are rewritten but not started, a status stays or is not yet that of a
started task. -/
theorem statusOf_rewrites {touched : ℕ → Prop} (hrewrites : Rewrites touched db next)
    (hsettled : ∀ task' ∈ next.tasks.rows,
      task' ∈ db.tasks.rows ∨ task'.status.beforeStart = true) (taskId : ℕ) :
    statusOf next taskId = statusOf db taskId ∨
      ∃ before after, statusOf db taskId = some before ∧ statusOf next taskId = some after ∧
        before.beforeStart = true ∧ after.beforeStart = true := by
  cases hstatus : statusOf db taskId with
  | none =>
      left
      rw [statusOf_eq_none] at hstatus ⊢
      intro task' hmem'
      obtain ⟨task, hmem, hsame, -⟩ := hrewrites.back task' hmem'
      rw [hsame.taskId]
      exact hstatus task hmem
  | some before =>
      obtain ⟨task, hmem, hkey, rfl⟩ := statusOf_eq_some.mp hstatus
      obtain ⟨task', hmem', hsame, -⟩ := hrewrites.forth task hmem
      have hafter : statusOf next taskId = some task'.status :=
        statusOf_eq_some.mpr ⟨task', hmem', hsame.taskId.trans hkey, rfl⟩
      cases hsettled task' hmem' with
      | inl hold =>
          left
          rw [hafter, eq_of_taskId hold hmem hsame.taskId]
      | inr hwaits =>
          by_cases hactive : task.status.isActive = true
          · left
            rw [hafter, hsame.active hactive]
          · right
            refine ⟨task.status, task'.status, rfl, hafter, ?_, hwaits⟩
            have hopen := hsame.isOpen
            revert hopen hwaits hactive
            cases task.status <;> cases task'.status <;> decide

theorem statusOf_transitioned (status : WorkTaskStatus) (completes : Bool)
    (hmem : task ∈ db.tasks.rows) (taskId : ℕ) :
    statusOf ((OwnBatch.transitioned task status completes).apply db) taskId =
      if taskId = task.taskId then some status else statusOf db taskId := by
  have hset : statusOf (setTaskStatus task.taskId status db) taskId =
      if taskId = task.taskId then some status else statusOf db taskId := by
    rw [statusOf, setTaskStatus, Table.find?_updateKey]
    split
    · rename_i hkey
      rw [hkey, Table.find?_eq_some_iff.mpr ⟨hmem, rfl⟩]
      rfl
    · rfl
  rw [OwnBatch.apply]
  split
  · exact hset
  · exact hset

theorem statusOf_created (hfree : db.tasks.find? task.taskId = none) (taskId : ℕ) :
    statusOf ((OwnBatch.created task).apply db) taskId =
      if taskId = task.taskId then some task.status else statusOf db taskId := by
  have hrow : ∀ row, row ∈ ((OwnBatch.created task).apply db).tasks.rows ↔
      row ∈ db.tasks.rows ∨ row = task := by
    intro row
    rw [OwnBatch.apply, insertTask_rows hfree, List.mem_append, List.mem_singleton]
  split
  · rename_i hkey
    exact statusOf_eq_some.mpr ⟨task, (hrow task).mpr (Or.inr rfl), hkey.symm, rfl⟩
  · rename_i hkey
    ext status
    rw [statusOf_eq_some, statusOf_eq_some]
    constructor
    · rintro ⟨row, hmem, hrowkey, hstatus⟩
      rcases (hrow row).mp hmem with hold | rfl
      · exact ⟨row, hold, hrowkey, hstatus⟩
      · exact (hkey hrowkey.symm).elim
    · rintro ⟨row, hmem, hrowkey, hstatus⟩
      exact ⟨row, (hrow row).mpr (Or.inl hmem), hrowkey, hstatus⟩

end Statuses

/-! ## What a transaction writes it has checked -/

/-- The request moves the task to the status, which its own status allows. -/
def ActsOn (request : BatchRequest) (task : WorkTask) (status : WorkTaskStatus) : Prop :=
  ∃ transition, request = .transition transition ∧
    ∃ allowed, transitions transition.action = some (allowed, status) ∧ task.status ∈ allowed

def OwnBatch.Acts (request : BatchRequest) : OwnBatch → Prop
  | .nothing => True
  | .created task => task.status = .queued
  | .transitioned task status _ => ActsOn request task status

/-- The own writes of a transaction are what its request asks for. -/
def Acting (request : BatchRequest) : BatchMemory → Prop
  | .counting task status => ActsOn request task status
  | .serving own _ _ | .closing own => own.Acts request
  | _ => True

section Acting

variable {db next : WorkDb} {isLocked : WorkLock → Bool} {request : BatchRequest}
  {memory after : BatchMemory} {answer : BatchAnswer}

theorem acting_own (hacting : Acting request memory) : memory.own.Acts request := by
  cases memory with
  | serving | closing => exact hacting
  | start | inserting | transitioning task | counting task status => trivial

theorem acting_following {transition : TransitionRequest} {own : OwnBatch}
    (hacts : own.Acts request) : Acting request (transition.following task own) := by
  rw [TransitionRequest.following]
  split
  · exact hacts
  · exact hacts

theorem nextStatus_leads {transition : TransitionRequest}
    (hnext : nextStatus db transition task = .ok (some status)) :
    ∃ allowed, transitions transition.action = some (allowed, status) ∧
      task.status ∈ allowed := by
  rw [nextStatus] at hnext
  obtain ⟨-, -, hnext⟩ := bind_eq_ok.mp hnext
  cases hrow : transitions transition.action with
  | none =>
      simp only [hrow] at hnext
      obtain ⟨-, -, hnext⟩ := bind_eq_ok.mp hnext
      cases hnext
  | some row =>
      simp only [hrow] at hnext
      obtain ⟨_, hstatus, hnext⟩ := bind_eq_ok.mp hnext
      obtain ⟨-, -, hnext⟩ := bind_eq_ok.mp hnext
      obtain ⟨-, -, hnext⟩ := bind_eq_ok.mp hnext
      cases hnext
      exact ⟨row.1, rfl, require_eq_ok.mp hstatus⟩

theorem acting_proceeds (hacting : Acting request memory)
    (hproceed : batchStatement request memory isLocked db = .proceed after) :
    Acting request after := by
  rcases batchStatement_proceed hproceed with
    ⟨own, inner, step, later, rfl, -, rfl⟩ | ⟨transition, hrequest, hstep⟩ |
      ⟨creation, -, hstep⟩
  · exact hacting
  · have hacts : ∀ task status, nextStatus db transition task = .ok (some status) →
        ActsOn request task status := by
      intro task status hnext
      obtain ⟨allowed, hrow, hbefore⟩ := nextStatus_leads hnext
      exact ⟨transition, hrequest, allowed, hrow, hbefore⟩
    rcases transitionTask_proceed hstep with ⟨task, -, -, rfl⟩ |
      ⟨task, status, rfl, hnext, -, ⟨-, -, rfl⟩ | ⟨-, rfl⟩⟩ | ⟨task, status, rfl, rfl⟩
    · trivial
    · exact hacts task status hnext
    · exact acting_following (hacts task status hnext)
    · exact acting_following hacting
  · rcases createTask_proceed hstep with rfl | ⟨-, -, -, rfl⟩
    · trivial
    · rfl

end Acting

/-! ## One request -/

/-- What a request makes of the status and the time columns of one task. -/
inductive TimeStep (now : ℤ) :
    Option WorkTaskStatus → TaskTimes → Option WorkTaskStatus → TaskTimes → Prop
  | quiet (status : Option WorkTaskStatus) (times : TaskTimes) :
      TimeStep now status times status times
  | given {before after : WorkTaskStatus} (times : TaskTimes)
      (hbefore : before.beforeStart = true) (hafter : after.beforeStart = true) :
      TimeStep now (some before) times (some after) times
  | created {after : WorkTaskStatus} (times : TaskTimes) (hafter : after.beforeStart = true) :
      TimeStep now none times (some after) .fresh
  | moved {action : TaskAction} {allowed : List WorkTaskStatus} {before after : WorkTaskStatus}
      {times times' : TaskTimes} (hrow : transitions action = some (allowed, after))
      (hbefore : before ∈ allowed) (hset : setTimes action before now times = some times') :
      TimeStep now (some before) times (some after) times'

theorem transitions_beforeStart {action : TaskAction} {allowed : List WorkTaskStatus}
    {after : WorkTaskStatus} (hrow : transitions action = some (allowed, after)) :
    after.beforeStart = false := by
  cases action <;> cases hrow <;> rfl

section Steps

variable {work next : WorkDb} {timed : TimedRequest} {times times' : ℕ → TaskTimes}
  {memory : BatchMemory} {answer : BatchAnswer}

/-- The owner's request on top of the own writes. -/
theorem statusOf_commit (hknown : batchKnown timed.request memory work)
    (hcommit : batchStatement timed.request memory (fun _ => false) work =
      .commit next answer) (taskId : ℕ) :
    statusOf next taskId = statusOf (memory.own.apply work) taskId ∨
      ∃ before after, statusOf (memory.own.apply work) taskId = some before ∧
        statusOf next taskId = some after ∧
          before.beforeStart = true ∧ after.beforeStart = true := by
  have hspec := batch_commit_spec hknown hcommit
  rcases batchStatement_commit hcommit with
    ⟨own, inner, step, innerAnswer, rfl, hinner⟩ | ⟨own, rfl, rfl⟩ | ⟨hown, rfl⟩
  · exact statusOf_rewrites hspec.rewrites (fun _ hmem => settled_owner hinner hmem) taskId
  · exact Or.inl rfl
  · rw [hown]
    exact Or.inl rfl

/-- A commit and its time columns. -/
theorem timeStep_commit (hknown : batchKnown timed.request memory work)
    (hacting : Acting timed.request memory)
    (hcommit : batchStatement timed.request memory (fun _ => false) work = .commit next answer)
    (hwrites : memory.own.writeTimes timed times = some times') (taskId : ℕ) :
    TimeStep timed.now (statusOf work taskId) (times taskId) (statusOf next taskId)
      (times' taskId) := by
  have hstands := (batch_commit_spec hknown hcommit).stands
  have hacts := acting_own hacting
  have hsettles := statusOf_commit hknown hcommit taskId
  -- a task that is not the transaction's own
  have hother : statusOf (memory.own.apply work) taskId = statusOf work taskId →
      times' taskId = times taskId →
        TimeStep timed.now (statusOf work taskId) (times taskId) (statusOf next taskId)
          (times' taskId) := by
    intro hstatus htimes
    rw [hstatus] at hsettles
    rw [htimes]
    rcases hsettles with hsame | ⟨before, after, hbefore, hafter, hfrom, hto⟩
    · rw [hsame]
      exact .quiet _ _
    · rw [hbefore, hafter]
      exact .given _ hfrom hto
  cases hown : memory.own with
  | nothing =>
      rw [hown] at hwrites hother
      cases hwrites
      exact hother rfl rfl
  | created task =>
      rw [hown] at hwrites hother hstands hacts hsettles
      cases hwrites
      rw [statusOf_created hstands.1] at hother hsettles
      by_cases hkey : taskId = task.taskId
      · rw [if_pos hkey] at hsettles
        have habsent : statusOf work taskId = none := by
          rw [hkey, statusOf, hstands.1]
          rfl
        have hwaits : task.status.beforeStart = true := by
          rw [show task.status = .queued from hacts]
          rfl
        rw [habsent, hkey, update_self]
        rw [hkey] at hsettles
        rcases hsettles with hsame | ⟨before, after, -, hafter, -, hto⟩
        · rw [hsame]
          exact .created _ hwaits
        · rw [hafter]
          exact .created _ hto
      · exact hother (if_neg hkey) (update_of_ne hkey _ _)
  | transitioned task status completes =>
      rw [hown] at hwrites hother hstands hacts hsettles
      obtain ⟨transition, hrequest, allowed, hrow, hbefore⟩ := hacts
      simp only [OwnBatch.writeTimes, hrequest, Option.map_eq_some_iff] at hwrites
      obtain ⟨written, hset, rfl⟩ := hwrites
      rw [statusOf_transitioned status completes hstands.1] at hother hsettles
      by_cases hkey : taskId = task.taskId
      · rw [if_pos hkey] at hsettles
        have hfrom : statusOf work taskId = some task.status :=
          statusOf_eq_some.mpr ⟨task, hstands.1, hkey.symm, rfl⟩
        have hto : statusOf next taskId = some status := by
          rcases hsettles with hsame | ⟨before, after, hstatus, -, hwaits, -⟩
          · exact hsame
          · rw [← Option.some.inj hstatus, transitions_beforeStart hrow] at hwaits
            cases hwaits
        rw [hfrom, hto, hkey, update_self]
        exact .moved hrow hbefore hset
      · exact hother (if_neg hkey) (update_of_ne hkey _ _)

/-- What is known where a request stands. -/
def Stood (request : BatchRequest) (work : WorkDb) (memory : BatchMemory) : Prop :=
  batchKnown request memory work ∧ Acting request memory

theorem stood_first (request : BatchRequest) (work : WorkDb) :
    Stood request work request.first := by
  cases request with
  | transition | createTask => exact ⟨trivial, trivial⟩
  | owner inner => exact ⟨⟨trivial, reserved_first inner work⟩, trivial⟩

theorem serveTimed_step (state : TimedDb) (timed : TimedRequest) (taskId : ℕ) :
    TimeStep timed.now (statusOf state.work taskId) (state.times taskId)
      (statusOf (serveTimed state timed).work taskId)
      ((serveTimed state timed).times taskId) := by
  have hproceeds : ∀ memory next, Stood timed.request state.work memory →
      batchStatement timed.request memory (fun _ => false) state.work = .proceed next →
        Stood timed.request state.work next :=
    fun _ _ hstood hproceed => ⟨batch_proceeds hstood.1 hproceed, acting_proceeds hstood.2 hproceed⟩
  rw [serveTimed]
  split
  · exact .quiet _ _
  · rename_i memory work hcommit
    obtain ⟨hstood, answer, hstatement⟩ :=
      commitAlone_spec hproceeds (stood_first timed.request state.work) hcommit
    split
    · exact .quiet _ _
    · rename_i times hwrites
      exact timeStep_commit hstood.1 hstood.2 hstatement hwrites taskId

end Steps

/-! ## The two columns -/

/-- A start time and the seconds beside it, over a request. -/
structure ColumnStep (now : ℤ) (was is : Bool) (startedAt startedAt' : Option ℤ)
    (total total' : ℤ) : Prop where
  stays : is = was → startedAt' = startedAt ∧ total' = total
  enters : was = false → is = true → startedAt' = some now ∧ total' = total
  leaves : was = true → is = false → startedAt' = none ∧
    ∃ start, startedAt = some start ∧ (start ≤ now → total' = total + seconds start now)

section Columns

variable {now total total' : ℤ} {was is : Bool} {startedAt startedAt' : Option ℤ}

theorem ColumnStep.kept (hsame : is = was) (hstarted : startedAt' = startedAt)
    (htotal : total' = total) : ColumnStep now was is startedAt startedAt' total total' where
  stays := fun _ => ⟨hstarted, htotal⟩
  enters := by
    rintro rfl rfl
    cases hsame
  leaves := by
    rintro rfl rfl
    cases hsame

theorem ColumnStep.entered : ColumnStep now false true startedAt (some now) total total where
  stays := nofun
  enters := fun _ _ => ⟨rfl, rfl⟩
  leaves := nofun

theorem int4_eq_some {value result : ℤ} (hint : int4 value = some result) : result = value := by
  rw [int4] at hint
  split at hint
  · exact (Option.some.inj hint).symm
  · cases hint

theorem epochSeconds_nonneg {microseconds : ℤ} (hnonneg : 0 ≤ microseconds) :
    0 ≤ epochSeconds microseconds := by
  rw [epochSeconds, if_pos hnonneg]
  omega

theorem addElapsed_eq {start : ℤ} (hadd : addElapsed total now (some start) = some total')
    (hbefore : start ≤ now) : total' = total + seconds start now := by
  rw [addElapsed] at hadd
  obtain ⟨elapsed, helapsed, hsum⟩ := Option.bind_eq_some_iff.mp hadd
  have hnonneg := epochSeconds_nonneg (sub_nonneg.mpr hbefore)
  calc
    total' = total + max 0 elapsed := int4_eq_some hsum
    _ = total + max 0 (epochSeconds (now - start)) := by rw [int4_eq_some helapsed]
    _ = total + seconds start now := by rw [max_eq_right hnonneg, seconds]

theorem ColumnStep.left (hset : startedAt.isSome = true)
    (hadd : addElapsed total now startedAt = some total') :
    ColumnStep now true false startedAt none total total' where
  stays := nofun
  enters := nofun
  leaves := by
    intro _ _
    obtain ⟨start, rfl⟩ := Option.isSome_iff_exists.mp hset
    exact ⟨rfl, start, rfl, addElapsed_eq hadd⟩

end Columns

/-- The start times are set in their statuses, and a task that is not there has no time. -/
structure ColumnsInTime (status : Option WorkTaskStatus) (times : TaskTimes) : Prop where
  active : times.activeStartedAt.isSome = decide (status = some .inProgress)
  pause : times.pauseStartedAt.isSome = decide (status = some .paused)
  absent : status = none → times = .fresh

section Times

variable {now : ℤ} {status status' : Option WorkTaskStatus} {times times' : TaskTimes}
  {before after : WorkTaskStatus} {action : TaskAction} {allowed : List WorkTaskStatus}

theorem beforeStart_ne (hwaits : before.beforeStart = true) :
    decide (some before = some WorkTaskStatus.inProgress) = false ∧
      decide (some before = some WorkTaskStatus.paused) = false := by
  cases before <;> first | exact ⟨rfl, rfl⟩ | cases hwaits

theorem beforeStart_isOpen (hwaits : before.beforeStart = true) : before.isOpen = true := by
  cases before <;> first | rfl | cases hwaits

/-- A cancelled task has no start time, and its seconds are added in the status it was in. -/
theorem setTimes_cancel (hset : setTimes .cancel before now times = some times') :
    ∃ worked rested,
      addIn .inProgress before times.activeSeconds now times.activeStartedAt = some worked ∧
      addIn .paused before times.pausedSeconds now times.pauseStartedAt = some rested ∧
      times' = ⟨none, none, worked, rested⟩ := by
  obtain ⟨worked, hworked, hset⟩ := Option.bind_eq_some_iff.mp hset
  obtain ⟨rested, hrested, hset⟩ := Option.bind_eq_some_iff.mp hset
  exact ⟨worked, rested, hworked, hrested, (Option.some.inj hset).symm⟩

/-- A transition and the columns of the time worked. -/
theorem active_moved (hin : ColumnsInTime (some before) times)
    (hrow : transitions action = some (allowed, after)) (hbefore : before ∈ allowed)
    (hset : setTimes action before now times = some times') :
    ColumnStep now (decide (some before = some WorkTaskStatus.inProgress))
      (decide (some after = some WorkTaskStatus.inProgress))
      times.activeStartedAt times'.activeStartedAt times.activeSeconds times'.activeSeconds := by
  have hactive := hin.active
  have hnone : before ≠ .inProgress → none = times.activeStartedAt := by
    intro hnot
    rw [decide_eq_false (by simpa using hnot)] at hactive
    exact (Option.not_isSome_iff_eq_none.mp (by simp [hactive])).symm
  cases action with
  | start =>
      cases hrow
      obtain rfl := List.mem_singleton.mp hbefore
      cases hset
      exact .entered
  | pause | complete =>
      cases hrow
      obtain rfl := List.mem_singleton.mp hbefore
      obtain ⟨sum, hsum, rfl⟩ := Option.map_eq_some_iff.mp hset
      exact .left hactive hsum
  | resume =>
      cases hrow
      obtain rfl := List.mem_singleton.mp hbefore
      obtain ⟨sum, hsum, rfl⟩ := Option.map_eq_some_iff.mp hset
      exact .entered
  | cancel =>
      cases hrow
      obtain ⟨worked, rested, hworked, hrested, rfl⟩ := setTimes_cancel hset
      by_cases hwas : before = .inProgress
      · obtain rfl := hwas
        exact .left hactive hworked
      · rw [addIn, if_neg hwas] at hworked
        exact .kept (by simp [hwas]) (hnone hwas) (Option.some.inj hworked).symm
  | exception => cases hrow

/-- A transition and the columns of the time paused. -/
theorem pause_moved (hin : ColumnsInTime (some before) times)
    (hrow : transitions action = some (allowed, after)) (hbefore : before ∈ allowed)
    (hset : setTimes action before now times = some times') :
    ColumnStep now (decide (some before = some WorkTaskStatus.paused))
      (decide (some after = some WorkTaskStatus.paused))
      times.pauseStartedAt times'.pauseStartedAt times.pausedSeconds times'.pausedSeconds := by
  have hpause := hin.pause
  have hnone : before ≠ .paused → none = times.pauseStartedAt := by
    intro hnot
    rw [decide_eq_false (by simpa using hnot)] at hpause
    exact (Option.not_isSome_iff_eq_none.mp (by simp [hpause])).symm
  cases action with
  | start =>
      cases hrow
      obtain rfl := List.mem_singleton.mp hbefore
      cases hset
      exact .kept rfl (hnone nofun) rfl
  | pause =>
      cases hrow
      obtain rfl := List.mem_singleton.mp hbefore
      obtain ⟨sum, hsum, rfl⟩ := Option.map_eq_some_iff.mp hset
      exact .entered
  | resume =>
      cases hrow
      obtain rfl := List.mem_singleton.mp hbefore
      obtain ⟨sum, hsum, rfl⟩ := Option.map_eq_some_iff.mp hset
      exact .left hpause hsum
  | complete =>
      cases hrow
      obtain rfl := List.mem_singleton.mp hbefore
      obtain ⟨sum, hsum, rfl⟩ := Option.map_eq_some_iff.mp hset
      exact .kept rfl (hnone nofun) rfl
  | cancel =>
      cases hrow
      obtain ⟨worked, rested, hworked, hrested, rfl⟩ := setTimes_cancel hset
      by_cases hwas : before = .paused
      · obtain rfl := hwas
        exact .left hpause hrested
      · rw [addIn, if_neg hwas] at hrested
        exact .kept (by simp [hwas]) (hnone hwas) (Option.some.inj hrested).symm
  | exception => cases hrow

theorem TimeStep.active (hstep : TimeStep now status times status' times')
    (hin : ColumnsInTime status times) :
    ColumnStep now (decide (status = some .inProgress)) (decide (status' = some .inProgress))
      times.activeStartedAt times'.activeStartedAt times.activeSeconds times'.activeSeconds := by
  cases hstep with
  | quiet => exact .kept rfl rfl rfl
  | given _ hfrom hto =>
      exact .kept ((beforeStart_ne hto).1.trans (beforeStart_ne hfrom).1.symm) rfl rfl
  | created _ hto =>
      rw [hin.absent rfl]
      exact .kept (beforeStart_ne hto).1 rfl rfl
  | moved hrow hbefore hset => exact active_moved hin hrow hbefore hset

theorem TimeStep.pause (hstep : TimeStep now status times status' times')
    (hin : ColumnsInTime status times) :
    ColumnStep now (decide (status = some .paused)) (decide (status' = some .paused))
      times.pauseStartedAt times'.pauseStartedAt times.pausedSeconds times'.pausedSeconds := by
  cases hstep with
  | quiet => exact .kept rfl rfl rfl
  | given _ hfrom hto =>
      exact .kept ((beforeStart_ne hto).2.trans (beforeStart_ne hfrom).2.symm) rfl rfl
  | created _ hto =>
      rw [hin.absent rfl]
      exact .kept (beforeStart_ne hto).2 rfl rfl
  | moved hrow hbefore hset => exact pause_moved hin hrow hbefore hset

/-- A column that steps so stays set in its status and in no other. -/
theorem ColumnStep.isSome {was is : Bool} {startedAt startedAt' : Option ℤ}
    {total total' : ℤ} (hcolumn : ColumnStep now was is startedAt startedAt' total total')
    (hwas : startedAt.isSome = was) : startedAt'.isSome = is := by
  cases was with
  | false =>
      cases is with
      | false => rw [(hcolumn.stays rfl).1, hwas]
      | true => rw [(hcolumn.enters rfl rfl).1, Option.isSome_some]
  | true =>
      cases is with
      | false => rw [(hcolumn.leaves rfl rfl).1, Option.isSome_none]
      | true => rw [(hcolumn.stays rfl).1, hwas]

theorem TimeStep.inTime (hstep : TimeStep now status times status' times')
    (hin : ColumnsInTime status times) : ColumnsInTime status' times' where
  active := (hstep.active hin).isSome hin.active
  pause := (hstep.pause hin).isSome hin.pause
  absent := by
    cases hstep with
    | quiet => exact hin.absent
    | given | created | moved => exact nofun

/-- A task that is done keeps its status and its times. -/
theorem TimeStep.closed (hstep : TimeStep now (some before) times status' times')
    (hclosed : before.isOpen = false) : status' = some before ∧ times' = times := by
  cases hstep with
  | quiet => exact ⟨rfl, rfl⟩
  | given _ hfrom _ =>
      rw [beforeStart_isOpen hfrom] at hclosed
      cases hclosed
  | moved hrow hbefore _ =>
      rw [transitions_isOpen hrow before hbefore] at hclosed
      cases hclosed

end Times

/-! ## Over a run -/

section Runs

variable (taskId : ℕ)

/-- The columns of the task are in time. -/
def TaskInTime (state : TimedDb) : Prop :=
  ColumnsInTime (statusOf state.work taskId) (state.times taskId)

variable {taskId}

theorem taskInTime_serve (hin : TaskInTime taskId state) (timed : TimedRequest) :
    TaskInTime taskId (serveTimed state timed) :=
  (serveTimed_step state timed taskId).inTime hin

/-- Columns that step so track the stretches of their status. -/
theorem tracks_of_columns {since : TimedDb → Option ℤ} {total : TimedDb → ℤ}
    (hcolumns : ∀ state timed, TaskInTime taskId state →
      ColumnStep timed.now (isIn taskId status state) (isIn taskId status (serveTimed state timed))
        (since state) (since (serveTimed state timed)) (total state)
        (total (serveTimed state timed))) :
    Tracks serveTimed TimedRequest.now (isIn taskId status) (TaskInTime taskId) since total
      seconds where
  keeps := fun _ timed hin => taskInTime_serve hin timed
  stays := fun state timed hin hsame => (hcolumns state timed hin).stays hsame
  enters := fun state timed hin hwas his => (hcolumns state timed hin).enters hwas his
  leaves := fun state timed hin hwas his => (hcolumns state timed hin).leaves hwas his

/-- No task has been started, whatever its batch. -/
def NoneStarted (work : WorkDb) : Prop := ∀ task ∈ work.tasks.rows, task.status.beforeStart = true

instance (work : WorkDb) : Decidable (NoneStarted work) := inferInstanceAs (Decidable (∀ _ ∈ _, _))

theorem statusOf_noneStarted {work : WorkDb} (hnone : NoneStarted work)
    (hstarted : status.beforeStart = false) : statusOf work taskId ≠ some status := by
  intro hstatus
  obtain ⟨task, hmem, -, rfl⟩ := statusOf_eq_some.mp hstatus
  rw [hnone task hmem] at hstarted
  cases hstarted

theorem taskInTime_opened {work : WorkDb} (hnone : NoneStarted work) :
    TaskInTime taskId (.opened work) where
  active := (decide_eq_false (statusOf_noneStarted hnone rfl)).symm
  pause := (decide_eq_false (statusOf_noneStarted hnone rfl)).symm
  absent := fun _ => rfl

theorem taskInTime_run (hin : TaskInTime taskId state) (requests : List TimedRequest) :
    TaskInTime taskId (run serveTimed state requests) := by
  have hstep : ∀ state timed, TaskInTime taskId state → True →
      TaskInTime taskId (serveTimed state timed) := fun _ timed hin _ => taskInTime_serve hin timed
  exact run_invariant hstep hin (along_forall (fun _ _ => trivial) state requests)

/-- The requests after a task is done leave its times. -/
theorem times_closed (hstatus : statusOf state.work taskId = some status)
    (hclosed : status.isOpen = false) (later : List TimedRequest) :
    (run serveTimed state later).times taskId = state.times taskId := by
  induction later generalizing state with
  | nil => rfl
  | cons timed rest ih =>
      have hstep := serveTimed_step state timed taskId
      rw [hstatus] at hstep
      obtain ⟨hkept, htimes⟩ := hstep.closed hclosed
      exact (ih hkept).trans htimes

/-- Whatever the requests, if their transactions read no earlier time than those before
them. -/
theorem times_exact (work : WorkDb) (hnone : NoneStarted work) (requests : List TimedRequest)
    (hordered : requests.Pairwise fun first second => first.now ≤ second.now)
    (taskId : ℕ) : TimesExact taskId work requests := by
  have hopened : TaskInTime taskId (.opened work) := taskInTime_opened hnone
  have hin := taskInTime_run hopened requests
  have hactive : Tracks serveTimed TimedRequest.now (isIn taskId .inProgress)
      (TaskInTime taskId) (fun state => (state.times taskId).activeStartedAt)
      (fun state => (state.times taskId).activeSeconds) seconds :=
    tracks_of_columns fun state timed hin => (serveTimed_step state timed taskId).active hin
  have hpause : Tracks serveTimed TimedRequest.now (isIn taskId .paused)
      (TaskInTime taskId) (fun state => (state.times taskId).pauseStartedAt)
      (fun state => (state.times taskId).pausedSeconds) seconds :=
    tracks_of_columns fun state timed hin => (serveTimed_step state timed taskId).pause hin
  have hempty : ∀ start ∈ (Stretches.empty : Stretches ℤ).since,
      ∀ timed ∈ requests, start ≤ timed.now := nofun
  exact {
    active := hin.active
    pause := hin.pause
    activeSeconds := (hactive.run hopened rfl rfl hempty hordered).2
    pausedSeconds := (hpause.run hopened rfl rfl hempty hordered).2
    closed := fun _ hstatus hclosed later => times_closed hstatus hclosed later }

end Runs

namespace OneErrand

/-- One task of no batch, and a worker. -/
def work : WorkDb where
  tasks := Table.empty.insert
    (fun taskId => ⟨taskId, none, 1, .other, .queued, 50, none, none, 0⟩) fun _ => rfl
  batches := Table.empty
  workers := [⟨1, "ana", true, true, [1], [.other]⟩]

def transition (action : TaskAction) (now : ℤ) : TimedRequest where
  request := .transition ⟨1, "ana", false, action, false, none, 1, 0⟩
  now := now

/-- The task is claimed, started, paused after 90.5 seconds, resumed 30 seconds later and
completed after another minute. -/
def requests : List TimedRequest :=
  [⟨.owner (.claimNext ⟨1, "ana", none, 1, 0⟩), 0⟩, transition .start 5000000,
    transition .pause 95500000, transition .resume 125500000,
    transition .complete 185500000]

end OneErrand

open OneErrand in
theorem times_exact_oneErrand :
    (run serveTimed (.opened work) requests).times 1 = ⟨none, none, 151, 30⟩ ∧
      TimesExact 1 work requests := by
  have hnone : NoneStarted work := by decide
  have hordered : requests.Pairwise fun first second => first.now ≤ second.now := by decide
  exact ⟨by decide +kernel, times_exact work hnone requests hordered 1⟩

end SentryWms.WorkControl
