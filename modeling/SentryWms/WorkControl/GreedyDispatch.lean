import Mathlib.Algebra.Order.Floor.Ring
import Mathlib.Algebra.Order.Round
import Mathlib.Data.Rat.Floor
import Mathlib.Data.String.Basic
import SentryWms.WorkControl.PickerPacker

/-!
# Dispatch by projected minutes

`auto_dispatch` goes through the open tasks of a warehouse by priority and gives each one
that is ready and unowned to the worker with the fewest projected minutes.  A worker who owns
the picking of a batch is not given its packing, nor the other way round; but the loop also
passes over workers whom it has given some other task of the batch.
-/

namespace SentryWms.WorkControl

open Function Relational

/-! ## Minutes -/

/-- The columns of a task that minutes are reckoned from. -/
structure Labour where
  orderCount : ℕ
  skuCount : ℕ
  unitCount : ℕ
  complexityLevel : ℕ
  estimatedMinutes : Option ℚ
  activeSeconds : ℕ
  activeStartedAt : Option ℚ
  deriving DecidableEq, Repr

/-- What `load_dispatch_rates` returns: minutes for fifty orders. -/
structure DispatchRates where
  picking : ℚ
  packing : ℚ

/-- `round(minutes, 1)`, half to even. -/
def roundTenth (minutes : ℚ) : ℚ :=
  let tenths := ⌊minutes * 10⌋
  let part := minutes * 10 - tenths
  (if part < 1 / 2 ∨ (part = 1 / 2 ∧ tenths % 2 = 0) then tenths else tenths + 1) / 10

/-- `COMPLEXITY_MULTIPLIERS.get(level, 1.0)`. -/
def complexityMultiplier (level : ℕ) : ℚ :=
  if level = 1 then 3 / 4
  else if level = 3 then 27 / 20
  else if level = 4 then 7 / 4
  else if level = 5 then 9 / 4
  else 1

/-- `estimate_task_minutes`. -/
def estimateTaskMinutes (rates : DispatchRates) (taskType : WorkTaskType) (labour : Labour) : ℚ :=
  let orders : ℚ := if labour.orderCount = 0 then 50 else labour.orderCount
  let skus : ℚ := labour.skuCount
  let units : ℚ := labour.unitCount
  let multiplier := complexityMultiplier labour.complexityLevel
  let minutes :=
    match taskType with
    | .picking => rates.picking * orders / 50
    | .packing => rates.packing * orders / 50
    | .receiving => (4 + skus * (5 / 2) + units * (8 / 100)) * multiplier
    | .putaway => (3 + skus + units * (5 / 100)) * multiplier
    | .stockCheck => (4 + skus * (3 / 2) + units * (8 / 100)) * multiplier
    | .other => 15 * multiplier
  roundTenth (max 1 minutes)

/-- A call of `auto_dispatch`: the rates, the minutes' columns of each task, what the clock
reads when an owned task's minutes are reckoned and when a task's turn comes, and
`str.lower`. -/
structure LoadRequest where
  warehouseId : ℕ
  workDate : ℕ
  rates : DispatchRates
  labour : ℕ → Labour
  readAt : ℕ → ℚ
  clock : ℕ → ℕ
  lower : String → String

namespace LoadRequest

variable (request : LoadRequest)

/-- `task_minutes`: the estimate that is stored, or a new one. -/
def taskMinutes (task : WorkTask) : ℚ :=
  let stored := (request.labour task.taskId).estimatedMinutes.getD 0
  if stored ≤ 0 then estimateTaskMinutes request.rates task.taskType (request.labour task.taskId)
  else stored

/-- `_remaining_minutes`. -/
def remainingMinutes (task : WorkTask) : ℚ :=
  let labour := request.labour task.taskId
  let running : ℤ :=
    match task.status, labour.activeStartedAt with
    | .inProgress, some started => max 0 ⌊request.readAt task.taskId - started⌋
    | _, _ => 0
  roundTenth (max 0 (request.taskMinutes task - (labour.activeSeconds + running) / 60))

end LoadRequest

/-! ## The loop -/

/-- What the loop keeps: the tables, `projected`, `assigned_counts` and
`counterpart_workers`. -/
structure DispatchState where
  db : WorkDb
  projected : String → ℚ
  assignedCounts : String → ℕ
  taken : List (ℕ × String)

namespace DispatchState

variable (request : LoadRequest) (available : List Worker)

/-- An owned task counts for its owner. -/
def countOwned (loads : (String → ℚ) × (String → ℕ)) (task : WorkTask) :
    (String → ℚ) × (String → ℕ) :=
  match task.owner with
  | none => loads
  | some owner =>
      (update loads.1 owner (loads.1 owner + request.remainingMinutes task),
        update loads.2 owner (loads.2 owner + 1))

/-- The state before the first turn. -/
def start (db : WorkDb) (tasks : List WorkTask) : DispatchState :=
  let loads := tasks.foldl (countOwned request) (fun _ => 0, fun _ => 0)
  { db := db
    projected := loads.1
    assignedCounts := loads.2
    taken := counterpartWorkers db request.warehouseId }

/-- The `key` of `min`. -/
def dispatchKey (state : DispatchState) (worker : Worker) : ℚ ×ₗ ℕ ×ₗ String :=
  toLex (state.projected worker.username,
    toLex (state.assignedCounts worker.username, request.lower worker.username))

/-- The task waits, nobody has been assigned to it, and it is available when its turn
comes. -/
def Ready (task : WorkTask) : Prop :=
  task.status = .queued ∧ task.assignedTo = none ∧ task.availableAt ≤ request.clock task.taskId

instance (task : WorkTask) : Decidable (Ready request task) := inferInstanceAs (Decidable (_ ∧ _))

/-- The worker chosen for a task. -/
def choice (state : DispatchState) (task : WorkTask) : Option Worker :=
  if Ready request task then
    (dispatchCandidates available state.taken task).argmin (state.dispatchKey request)
  else none

/-- The task is assigned to a worker. -/
def give (state : DispatchState) (task : WorkTask) (chosen : Worker) : DispatchState where
  db := assignTo task.taskId (some chosen.username) state.db
  projected := update state.projected chosen.username
    (state.projected chosen.username + request.taskMinutes task)
  assignedCounts := update state.assignedCounts chosen.username
    (state.assignedCounts chosen.username + 1)
  taken :=
    match task.batchId with
    | some batchId => (batchId, chosen.username) :: state.taken
    | none => state.taken

/-- One turn of the loop. -/
def turn (state : DispatchState) (task : WorkTask) : DispatchState :=
  match choice request available state task with
  | none => state
  | some chosen => give request state task chosen

end DispatchState

open DispatchState

/-- The state after these tasks have had their turns. -/
def dispatched (request : LoadRequest) (db : WorkDb) (tasks : List WorkTask) : DispatchState :=
  run (turn request (availableWorkers db request.warehouseId request.workDate))
    (start request db (openTasks db request.warehouseId)) tasks

/-- `auto_dispatch`. -/
def autoDispatchByLoad (request : LoadRequest) (db : WorkDb) : DispatchState :=
  dispatched request db (openTasks db request.warehouseId)

/-! ## What a dispatch should do -/

/-- The worker owns the picking or the packing of the batch. -/
def OwnsPart (warehouseId : ℕ) (db : WorkDb) (batchId : ℕ) (username : String) : Prop :=
  ∃ task ∈ db.tasks.rows, task.warehouseId = warehouseId ∧ task.isPickOrPack = true ∧
    task.batchId = some batchId ∧ task.owner = some username

/-- The task is a picking or packing, and the worker owns one of its batch. -/
def OwnsCounterpart (warehouseId : ℕ) (db : WorkDb) (task : WorkTask) (username : String) : Prop :=
  task.isPickOrPack = true ∧ ∃ batchId ∈ task.batchId, OwnsPart warehouseId db batchId username

instance (warehouseId : ℕ) (db : WorkDb) (task : WorkTask) (username : String) :
    Decidable (OwnsCounterpart warehouseId db task username) :=
  inferInstanceAs (Decidable (_ ∧ ∃ batchId ∈ task.batchId, ∃ part ∈ db.tasks.rows, _))

/-- The worker may be given the task. -/
def Eligible (warehouseId : ℕ) (available : List Worker) (db : WorkDb) (task : WorkTask)
    (worker : Worker) : Prop :=
  worker ∈ available ∧ task.taskType ∈ worker.taskTypes ∧
    ¬ OwnsCounterpart warehouseId db task worker.username

/-- Dispatch is complete and greedy: a task that is ready and unowned is assigned, unless
every available worker with its type owns a counterpart; a chosen worker is eligible, and no
eligible one has fewer projected minutes; other tasks stay as they were; and no worker is
given two of the picking and packing tasks of a batch. -/
structure CompleteAndGreedy (request : LoadRequest) (db : WorkDb) : Prop where
  complete : ∀ task ∈ openTasks db request.warehouseId,
    Ready request task → task.claimedBy = none →
      (∃ worker ∈ availableWorkers db request.warehouseId request.workDate,
        (autoDispatchByLoad request db).db.tasks.find? task.taskId = some
          { task with
            status := .assigned
            assignedTo := some worker.username }) ∨
      ∀ worker ∈ availableWorkers db request.warehouseId request.workDate,
        task.taskType ∈ worker.taskTypes →
          OwnsCounterpart request.warehouseId (autoDispatchByLoad request db).db task
            worker.username
  greedy : ∀ front task back, openTasks db request.warehouseId = front ++ task :: back →
    ∀ chosen ∈ choice request (availableWorkers db request.warehouseId request.workDate)
        (dispatched request db front) task,
      Eligible request.warehouseId (availableWorkers db request.warehouseId request.workDate)
        (dispatched request db front).db task chosen ∧
      ∀ worker, Eligible request.warehouseId
          (availableWorkers db request.warehouseId request.workDate)
          (dispatched request db front).db task worker →
        (dispatched request db front).projected chosen.username ≤
          (dispatched request db front).projected worker.username
  unchanged : ∀ task ∈ db.tasks.rows,
    ¬ (task.warehouseId = request.warehouseId ∧ Ready request task ∧ task.claimedBy = none) →
      (autoDispatchByLoad request db).db.tasks.find? task.taskId = some task
  apart : ∀ front first middle second back,
    openTasks db request.warehouseId = front ++ first :: (middle ++ second :: back) →
      first.isPickOrPack = true → second.isPickOrPack = true →
      first.batchId.isSome → first.batchId = second.batchId →
        ∀ one ∈ choice request (availableWorkers db request.warehouseId request.workDate)
            (dispatched request db front) first,
        ∀ other ∈ choice request (availableWorkers db request.warehouseId request.workDate)
            (dispatched request db (front ++ first :: middle)) second,
          one.username ≠ other.username

/-- Before the dispatch nobody can be passed over: whoever has the type of a ready task that
somebody has claimed owns a counterpart of it; and so does whoever has the types both of a
ready picking or packing that nobody has claimed and of a ready task of another kind that
comes before it in the same batch. -/
structure NobodyPassedOver (request : LoadRequest) (db : WorkDb) : Prop where
  claimed : ∀ task ∈ openTasks db request.warehouseId, Ready request task →
    task.claimedBy ≠ none →
      ∀ worker ∈ availableWorkers db request.warehouseId request.workDate,
        task.taskType ∈ worker.taskTypes →
          OwnsCounterpart request.warehouseId db task worker.username
  others : ∀ task ∈ openTasks db request.warehouseId, Ready request task →
    task.claimedBy = none → task.isPickOrPack = true →
      ∀ other ∈ openTasks db request.warehouseId, Ready request other →
        other.isPickOrPack = false → other.batchId = task.batchId →
          dispatchOrder other ≤ dispatchOrder task →
            ∀ giver ∈ availableWorkers db request.warehouseId request.workDate,
            ∀ worker ∈ availableWorkers db request.warehouseId request.workDate,
              giver.username = worker.username → other.taskType ∈ giver.taskTypes →
                task.taskType ∈ worker.taskTypes →
                  OwnsCounterpart request.warehouseId db task worker.username

/-- A ready task of another kind of the batch, whose type an available worker of this name
has. -/
def GivenOther (request : LoadRequest) (db : WorkDb) (other : WorkTask) (batchId : ℕ)
    (username : String) : Prop :=
  Ready request other ∧ other.isPickOrPack = false ∧ other.batchId = some batchId ∧
    ∃ giver ∈ availableWorkers db request.warehouseId request.workDate,
      giver.username = username ∧ other.taskType ∈ giver.taskTypes

/-- At this turn nobody is passed over wrongly: a task that somebody has claimed finds no
candidate, and an eligible worker who is no candidate has at least the projected minutes of
some candidate. -/
def ClearTurn (request : LoadRequest) (available : List Worker) (state : DispatchState)
    (task : WorkTask) : Prop :=
  Ready request task →
    (task.claimedBy ≠ none → dispatchCandidates available state.taken task = []) ∧
    (task.claimedBy = none →
      ∀ worker, Eligible request.warehouseId available state.db task worker →
        worker ∉ dispatchCandidates available state.taken task →
          ∃ other ∈ dispatchCandidates available state.taken task,
            state.projected other.username ≤ state.projected worker.username)

variable {other : Worker} {taskId : ℕ} {pair : ℕ × String} {front back : List WorkTask}

/-! ## One turn -/

section Turns

variable {request : LoadRequest} {available : List Worker} {state : DispatchState}
  {task : WorkTask} {chosen : Worker} {warehouseId batchId : ℕ} {username : String}

theorem turn_of_none (hnone : choice request available state task = none) :
    turn request available state task = state := by
  rw [turn, hnone]

theorem turn_of_some (hchosen : choice request available state task = some chosen) :
    turn request available state task = give request state task chosen := by
  rw [turn, hchosen]

/-- The task was ready, and the chosen worker is the candidate of least key. -/
theorem choice_spec (hchosen : choice request available state task = some chosen) :
    Ready request task ∧ chosen ∈ dispatchCandidates available state.taken task ∧
      ∀ other ∈ dispatchCandidates available state.taken task,
        state.dispatchKey request chosen ≤ state.dispatchKey request other := by
  rw [choice] at hchosen
  split at hchosen
  · rename_i hready
    refine ⟨hready, List.argmin_mem hchosen, ?_⟩
    intro other hother
    exact List.le_of_mem_argmin hother hchosen
  · cases hchosen

theorem choice_eq_none_iff :
    choice request available state task = none ↔
      (Ready request task → dispatchCandidates available state.taken task = []) := by
  rw [choice]
  by_cases hready : Ready request task
  · rw [if_pos hready, List.argmin_eq_none]
    exact ⟨fun hnone _ => hnone, fun hnone => hnone hready⟩
  · rw [if_neg hready]
    exact ⟨fun _ hyes => absurd hyes hready, fun _ => rfl⟩

/-- The least key has the fewest projected minutes. -/
theorem projected_le (hleast : state.dispatchKey request chosen ≤ state.dispatchKey request other) :
    state.projected chosen.username ≤ state.projected other.username := by
  rcases (Prod.Lex.toLex_le_toLex).mp hleast with hless | ⟨hsame, -⟩
  · exact hless.le
  · exact hsame.le

theorem mem_candidates {worker : Worker} :
    worker ∈ dispatchCandidates available state.taken task ↔
      worker ∈ available ∧ task.taskType ∈ worker.taskTypes ∧
        ¬ (task.isPickOrPack = true ∧
          ∃ batchId ∈ task.batchId, (batchId, worker.username) ∈ state.taken) := by
  rw [dispatchCandidates, List.mem_filter, decide_eq_true_eq]
  cases task.batchId with
  | none | some => simp

theorem find?_give (taskId : ℕ) :
    (give request state task chosen).db.tasks.find? taskId =
      if taskId = task.taskId then
        (state.db.tasks.find? taskId).map fun row =>
          { row with
            status := .assigned
            assignedTo := some chosen.username }
      else state.db.tasks.find? taskId :=
  Table.find?_updateKey state.db.tasks
    (fun row =>
      { row with
        status := .assigned
        assignedTo := some chosen.username })
    (fun _ => rfl) task.taskId taskId

/-- The row of another task stays. -/
theorem find?_turn_of_ne (hother : taskId ≠ task.taskId) :
    (turn request available state task).db.tasks.find? taskId =
      state.db.tasks.find? taskId := by
  cases hchoice : choice request available state task with
  | none => rw [turn_of_none hchoice]
  | some chosen =>
      rw [turn_of_some hchoice]
      exact (find?_give taskId).trans (if_neg hother)

/-- A row that is given is assigned to the worker. -/
theorem find?_turn_given (hrow : state.db.tasks.find? task.taskId = some task)
    (hchosen : choice request available state task = some chosen) :
    (turn request available state task).db.tasks.find? task.taskId = some
      { task with
        status := .assigned
        assignedTo := some chosen.username } := by
  rw [turn_of_some hchosen, find?_give, if_pos rfl, hrow]
  rfl

/-- An owner stays one. -/
theorem OwnsPart.turn (hrow : state.db.tasks.find? task.taskId = some task)
    (howns : OwnsPart warehouseId state.db batchId username) :
    OwnsPart warehouseId (DispatchState.turn request available state task).db batchId
      username := by
  cases hchoice : choice request available state task with
  | none => rwa [turn_of_none hchoice]
  | some chosen =>
      obtain ⟨part, hpart, hplace, hkind, hbatch, howner⟩ := howns
      by_cases hsame : part.taskId = task.taskId
      · have hfound := Table.find?_eq_some_iff.mpr ⟨hpart, hsame⟩
        obtain rfl : task = part := Option.some.inj (hrow.symm.trans hfound)
        have hready := (choice_spec hchoice).1
        have hclaimed : task.claimedBy = some username := by
          rw [WorkTask.owner, hready.2.1, Option.or_none] at howner
          exact howner
        refine ⟨_, (Table.find?_eq_some_iff.mp (find?_turn_given hrow hchoice)).1, hplace,
          hkind, hbatch, ?_⟩
        rw [WorkTask.owner, hclaimed]
        rfl
      · have hfound := Table.find?_eq_some_iff.mpr ⟨hpart, rfl⟩
        rw [← find?_turn_of_ne hsame] at hfound
        exact ⟨part, (Table.find?_eq_some_iff.mp hfound).1, hplace, hkind, hbatch, howner⟩

/-- A new owner is the worker chosen. -/
theorem ownsPart_turn (hrow : state.db.tasks.find? task.taskId = some task)
    (howns : OwnsPart warehouseId (turn request available state task).db batchId username) :
    OwnsPart warehouseId state.db batchId username ∨
      task.isPickOrPack = true ∧ task.batchId = some batchId ∧
        ∃ chosen ∈ choice request available state task, chosen.username = username := by
  cases hchoice : choice request available state task with
  | none =>
      rw [turn_of_none hchoice] at howns
      exact Or.inl howns
  | some chosen =>
      obtain ⟨part, hpart, hplace, hkind, hbatch, howner⟩ := howns
      have hfound := Table.find?_eq_some_iff.mpr ⟨hpart, rfl⟩
      by_cases hsame : part.taskId = task.taskId
      · rw [hsame, find?_turn_given hrow hchoice] at hfound
        obtain rfl := Option.some.inj hfound
        cases owner_assigned howner with
        | inl hbefore =>
            exact Or.inl ⟨task, (Table.find?_eq_some_iff.mp hrow).1, hplace, hkind, hbatch, hbefore⟩
        | inr hgiven =>
            exact Or.inr ⟨hkind, hbatch, chosen, rfl, Option.some.inj hgiven⟩
      · rw [find?_turn_of_ne hsame] at hfound
        exact Or.inl ⟨part, (Table.find?_eq_some_iff.mp hfound).1, hplace, hkind, hbatch, howner⟩

theorem mem_taken_turn (htaken : pair ∈ state.taken) :
    pair ∈ (turn request available state task).taken := by
  cases hchoice : choice request available state task with
  | none => rwa [turn_of_none hchoice]
  | some chosen =>
      rw [turn_of_some hchoice, give]
      cases task.batchId with
      | none => exact htaken
      | some batchId => exact List.mem_cons_of_mem _ htaken

/-- A turn notes the worker chosen for the batch of the task. -/
theorem taken_turn_cases (htaken : pair ∈ (turn request available state task).taken) :
    pair ∈ state.taken ∨ ∃ chosen, choice request available state task = some chosen ∧
      task.batchId = some pair.1 ∧ chosen.username = pair.2 := by
  cases hchoice : choice request available state task with
  | none =>
      rw [turn_of_none hchoice] at htaken
      exact Or.inl htaken
  | some chosen =>
      rw [turn_of_some hchoice, give] at htaken
      cases hbatch : task.batchId with
      | none =>
          simp only [hbatch] at htaken
          exact Or.inl htaken
      | some batchId =>
          simp only [hbatch, List.mem_cons] at htaken
          rcases htaken with rfl | hbefore
          · exact Or.inr ⟨chosen, rfl, rfl, rfl⟩
          · exact Or.inl hbefore

/-- The chosen worker has a part of the batch from now on. -/
theorem taken_turn_given (hchosen : choice request available state task = some chosen)
    (hbatch : task.batchId = some batchId) :
    (batchId, chosen.username) ∈ (turn request available state task).taken := by
  rw [turn_of_some hchosen, give, hbatch]
  exact List.mem_cons_self

end Turns

/-! ## The run -/

/-- The tasks whose turns are still to come are stored as they were read. -/
structure Pending (state : DispatchState) (tasks : List WorkTask) : Prop where
  nodup : (tasks.map WorkTask.taskId).Nodup
  rows : ∀ task ∈ tasks, state.db.tasks.find? task.taskId = some task

section Runs

variable {request : LoadRequest} {available : List Worker} {state : DispatchState}
  {task : WorkTask} {tasks : List WorkTask} {warehouseId batchId : ℕ} {username : String}

theorem Pending.turn (hpending : Pending state (task :: tasks)) :
    Pending (DispatchState.turn request available state task) tasks where
  nodup := (List.nodup_cons.mp hpending.nodup).2
  rows := by
    intro later hlater
    have hother : later.taskId ≠ task.taskId := by
      intro hsame
      apply (List.nodup_cons.mp hpending.nodup).1
      rw [← hsame]
      exact List.mem_map_of_mem hlater
    rw [find?_turn_of_ne hother]
    exact hpending.rows later (List.mem_cons_of_mem _ hlater)

theorem Pending.run (hpending : Pending state (front ++ back)) :
    Pending (Relational.run (DispatchState.turn request available) state front) back := by
  induction front generalizing state with
  | nil => exact hpending
  | cons first rest ih => exact ih hpending.turn

/-- A task that has no turn stays as it is. -/
theorem find?_run (hother : taskId ∉ tasks.map WorkTask.taskId) :
    (run (turn request available) state tasks).db.tasks.find? taskId =
      state.db.tasks.find? taskId := by
  induction tasks generalizing state with
  | nil => rfl
  | cons first rest ih =>
      rw [List.map_cons, List.mem_cons, not_or] at hother
      exact (ih hother.2).trans (find?_turn_of_ne hother.1)

theorem OwnsPart.run (hpending : Pending state tasks)
    (howns : OwnsPart warehouseId state.db batchId username) :
    OwnsPart warehouseId (Relational.run (DispatchState.turn request available) state tasks).db
      batchId username := by
  induction tasks generalizing state with
  | nil => exact howns
  | cons first rest ih =>
      exact ih hpending.turn (howns.turn (hpending.rows first List.mem_cons_self))

theorem mem_taken_run (htaken : pair ∈ state.taken) :
    pair ∈ (run (turn request available) state tasks).taken := by
  induction tasks generalizing state with
  | nil => exact htaken
  | cons first rest ih => exact ih (mem_taken_turn htaken)

/-- Whoever owns a part of a batch is passed over for it. -/
theorem taken_run (hpending : Pending state (front ++ back))
    (hlisted : ∀ batchId username, OwnsPart warehouseId state.db batchId username →
      (batchId, username) ∈ state.taken)
    (howns : OwnsPart warehouseId (run (turn request available) state front).db batchId username) :
    (batchId, username) ∈ (run (turn request available) state front).taken := by
  induction front generalizing state with
  | nil => exact hlisted batchId username howns
  | cons first rest ih =>
      refine ih hpending.turn ?_ howns
      intro part owner howner
      have hrow := hpending.rows first List.mem_cons_self
      rcases ownsPart_turn hrow howner with hbefore | ⟨-, hbatch, chosen, hchosen, rfl⟩
      · exact mem_taken_turn (hlisted part owner hbefore)
      · exact taken_turn_given hchosen hbatch

end Runs

/-! ## Every turn of a dispatch -/

section Dispatch

variable {request : LoadRequest} {db : WorkDb} {front back : List WorkTask}
  {task : WorkTask} {batchId : ℕ} {username : String}

theorem mem_openTasks {warehouseId : ℕ} :
    task ∈ openTasks db warehouseId ↔
      task ∈ db.tasks.rows ∧ task.warehouseId = warehouseId ∧ task.status.isOpen = true := by
  simp [openTasks, Table.select, List.mem_insertionSort]

theorem openTasks_sorted (db : WorkDb) (warehouseId : ℕ) :
    (openTasks db warehouseId).Pairwise
      fun task other => dispatchOrder task ≤ dispatchOrder other := by
  have : Std.Total fun task other : WorkTask => dispatchOrder task ≤ dispatchOrder other :=
    ⟨fun _ _ => le_total _ _⟩
  have : IsTrans WorkTask fun task other => dispatchOrder task ≤ dispatchOrder other :=
    ⟨fun _ _ _ => le_trans⟩
  exact List.pairwise_insertionSort _ _

theorem pending_openTasks :
    Pending (start request db (openTasks db request.warehouseId))
      (openTasks db request.warehouseId) where
  nodup := by
    have hperm := List.perm_insertionSort
      (fun task other => dispatchOrder task ≤ dispatchOrder other)
      (db.tasks.select fun task => task.warehouseId = request.warehouseId ∧ task.status.isOpen)
    refine (hperm.map WorkTask.taskId).nodup_iff.mpr ?_
    exact (List.filter_sublist.map WorkTask.taskId).nodup db.tasks.keys_nodup
  rows := by
    intro task htask
    exact Table.find?_eq_some_iff.mpr ⟨(mem_openTasks.mp htask).1, rfl⟩

variable (hsplit : openTasks db request.warehouseId = front ++ task :: back)

include hsplit

theorem pending_dispatched : Pending (dispatched request db front) (task :: back) := by
  have hpending : Pending (start request db (openTasks db request.warehouseId))
      (openTasks db request.warehouseId) := pending_openTasks
  rw [hsplit] at hpending
  rw [dispatched, hsplit]
  exact hpending.run

theorem dispatched_row : (dispatched request db front).db.tasks.find? task.taskId = some task :=
  (pending_dispatched hsplit).rows task List.mem_cons_self

theorem autoDispatch_split :
    autoDispatchByLoad request db =
      run (turn request (availableWorkers db request.warehouseId request.workDate))
        (turn request (availableWorkers db request.warehouseId request.workDate)
          (dispatched request db front) task) back := by
  have happend : dispatched request db (front ++ task :: back) =
      run (turn request (availableWorkers db request.warehouseId request.workDate))
        (dispatched request db front) (task :: back) := run_append _ _ _
  rw [← hsplit] at happend
  exact happend

/-- After its turn the row of a task stays. -/
theorem autoDispatch_row :
    (autoDispatchByLoad request db).db.tasks.find? task.taskId =
      (turn request (availableWorkers db request.warehouseId request.workDate)
        (dispatched request db front) task).db.tasks.find? task.taskId := by
  rw [autoDispatch_split hsplit]
  exact find?_run (List.nodup_cons.mp (pending_dispatched hsplit).nodup).1

theorem taken_dispatched
    (howns : OwnsPart request.warehouseId (dispatched request db front).db batchId username) :
    (batchId, username) ∈ (dispatched request db front).taken := by
  have hpending : Pending (start request db (openTasks db request.warehouseId))
      (openTasks db request.warehouseId) := pending_openTasks
  have hlisted : ∀ batchId username, OwnsPart request.warehouseId db batchId username →
      (batchId, username) ∈ counterpartWorkers db request.warehouseId := by
    rintro part owner ⟨row, hrow, hplace, hkind, hbatch, howner⟩
    exact listed_counterpartWorkers _ db row hrow hplace hkind part owner hbatch howner
  rw [hsplit] at hpending
  rw [dispatched, hsplit] at howns ⊢
  exact taken_run hpending hlisted howns

theorem OwnsPart.autoDispatch
    (howns : OwnsPart request.warehouseId (dispatched request db front).db batchId username) :
    OwnsPart request.warehouseId (autoDispatchByLoad request db).db batchId username := by
  rw [autoDispatch_split hsplit]
  have hpending := pending_dispatched hsplit
  exact (howns.turn (dispatched_row hsplit)).run hpending.turn

/-- Candidates own no counterpart. -/
theorem eligible_of_candidate {chosen : Worker}
    (hcandidate : chosen ∈ dispatchCandidates
      (availableWorkers db request.warehouseId request.workDate)
      (dispatched request db front).taken task) :
    Eligible request.warehouseId (availableWorkers db request.warehouseId request.workDate)
      (dispatched request db front).db task chosen := by
  obtain ⟨havailable, htype, hfree⟩ := mem_candidates.mp hcandidate
  refine ⟨havailable, htype, ?_⟩
  rintro ⟨hkind, batchId, hbatch, howns⟩
  exact hfree ⟨hkind, batchId, hbatch, taken_dispatched hsplit howns⟩

end Dispatch

/-! ## When dispatch is complete and greedy -/

section Greedy

variable {request : LoadRequest} {db : WorkDb}

/-- No worker is given two of the picking and packing tasks of a batch. -/
theorem given_apart {middle : List WorkTask} {first second : WorkTask}
    (hkind : second.isPickOrPack = true) (hbatch : first.batchId.isSome)
    (hsame : first.batchId = second.batchId) {one : Worker}
    (hone : one ∈ choice request (availableWorkers db request.warehouseId request.workDate)
      (dispatched request db front) first)
    (hother : other ∈ choice request (availableWorkers db request.warehouseId request.workDate)
      (dispatched request db (front ++ first :: middle)) second) :
    one.username ≠ other.username := by
  intro hworker
  obtain ⟨batchId, hbatch⟩ := Option.isSome_iff_exists.mp hbatch
  have happend : dispatched request db (front ++ first :: middle) =
      run (turn request (availableWorkers db request.warehouseId request.workDate))
        (turn request (availableWorkers db request.warehouseId request.workDate)
          (dispatched request db front) first) middle := run_append _ _ _
  have htaken : (batchId, one.username) ∈
      (dispatched request db (front ++ first :: middle)).taken := by
    rw [happend]
    exact mem_taken_run (taken_turn_given hone hbatch)
  rw [hworker] at htaken
  exact (mem_candidates.mp (choice_spec hother).2.1).2.2
    ⟨hkind, batchId, hsame.symm.trans hbatch, htaken⟩

theorem completeAndGreedy_of_clearTurn
    (hclear : ∀ front task back, openTasks db request.warehouseId = front ++ task :: back →
      ClearTurn request (availableWorkers db request.warehouseId request.workDate)
        (dispatched request db front) task) : CompleteAndGreedy request db where
  complete := by
    intro task htask hready hunclaimed
    obtain ⟨front, back, hsplit⟩ := List.append_of_mem htask
    cases hchoice : choice request (availableWorkers db request.warehouseId request.workDate)
        (dispatched request db front) task with
    | some chosen =>
        left
        obtain ⟨-, hcandidate, -⟩ := choice_spec hchoice
        refine ⟨chosen, (mem_candidates.mp hcandidate).1, ?_⟩
        rw [autoDispatch_row hsplit, find?_turn_given (dispatched_row hsplit) hchoice]
    | none =>
        right
        intro worker havailable htype
        have hempty := choice_eq_none_iff.mp hchoice hready
        have howned : OwnsCounterpart request.warehouseId (dispatched request db front).db
            task worker.username := by
          by_contra hfree
          obtain ⟨other, hother, -⟩ := (hclear front task back hsplit hready).2 hunclaimed
            worker ⟨havailable, htype, hfree⟩ (hempty ▸ List.not_mem_nil)
          rw [hempty] at hother
          cases hother
        obtain ⟨hkind, batchId, hbatch, howns⟩ := howned
        exact ⟨hkind, batchId, hbatch, howns.autoDispatch hsplit⟩
  greedy := by
    intro front task back hsplit chosen hchosen
    obtain ⟨hready, hcandidate, hleast⟩ := choice_spec hchosen
    refine ⟨eligible_of_candidate hsplit hcandidate, ?_⟩
    intro worker heligible
    obtain ⟨hclaimed, hpassed⟩ := hclear front task back hsplit hready
    by_cases hworker : worker ∈ dispatchCandidates
        (availableWorkers db request.warehouseId request.workDate)
        (dispatched request db front).taken task
    · exact projected_le (hleast worker hworker)
    · have hunclaimed : task.claimedBy = none := by
        by_contra hsome
        rw [hclaimed hsome] at hcandidate
        cases hcandidate
      obtain ⟨other, hother, hfewer⟩ := hpassed hunclaimed worker heligible hworker
      exact (projected_le (hleast other hother)).trans hfewer
  unchanged := by
    intro task hrow hnot
    by_cases htask : task ∈ openTasks db request.warehouseId
    · obtain ⟨front, back, hsplit⟩ := List.append_of_mem htask
      have hnone : choice request (availableWorkers db request.warehouseId request.workDate)
          (dispatched request db front) task = none := by
        apply choice_eq_none_iff.mpr
        intro hready
        apply (hclear front task back hsplit hready).1
        intro hunclaimed
        exact hnot ⟨(mem_openTasks.mp htask).2.1, hready, hunclaimed⟩
      rw [autoDispatch_row hsplit, turn_of_none hnone, dispatched_row hsplit]
    · have hother : task.taskId ∉
          (openTasks db request.warehouseId).map WorkTask.taskId := by
        intro hin
        obtain ⟨other, hother, hsame⟩ := List.mem_map.mp hin
        rw [eq_of_taskId (mem_openTasks.mp hother).1 hrow hsame] at hother
        exact htask hother
      exact (find?_run hother).trans (Table.find?_eq_some_iff.mpr ⟨hrow, rfl⟩)
  apart := by
    intro front first middle second back _ _ hkind hbatch hsame one hone other hother
    exact given_apart hkind hbatch hsame hone hother

/-- Nobody who may do a task that somebody has claimed is a candidate for it. -/
theorem NobodyPassedOver.no_candidates (hclear : NobodyPassedOver request db) {task : WorkTask}
    (hsplit : openTasks db request.warehouseId = front ++ task :: back)
    (hready : Ready request task) (hclaimed : task.claimedBy ≠ none) :
    dispatchCandidates (availableWorkers db request.warehouseId request.workDate)
      (dispatched request db front).taken task = [] := by
  apply List.eq_nil_iff_forall_not_mem.mpr
  intro worker hcandidate
  obtain ⟨havailable, htype, hfree⟩ := mem_candidates.mp hcandidate
  have htask : task ∈ openTasks db request.warehouseId := by
    rw [hsplit]
    exact List.mem_append_right front List.mem_cons_self
  obtain ⟨hkind, batchId, hbatch, row, hrow, hplace, hpart, hrowbatch, howner⟩ :=
    hclear.claimed task htask hready hclaimed worker havailable htype
  have hlisted : (batchId, worker.username) ∈ counterpartWorkers db request.warehouseId :=
    listed_counterpartWorkers _ db row hrow hplace hpart batchId worker.username hrowbatch howner
  exact hfree ⟨hkind, batchId, hbatch, mem_taken_run hlisted⟩

/-- Whoever is passed over for a batch owns a part of it, or has been given a task of another
kind. -/
theorem NobodyPassedOver.taken_cases (hclear : NobodyPassedOver request db)
    (hsplit : openTasks db request.warehouseId = front ++ back) {batchId : ℕ} {username : String}
    (htaken : (batchId, username) ∈ (dispatched request db front).taken) :
    OwnsPart request.warehouseId (dispatched request db front).db batchId username ∨
      ∃ other ∈ front, GivenOther request db other batchId username := by
  induction front using List.reverseRecOn generalizing back with
  | nil =>
      obtain ⟨row, hrow, hpair⟩ := List.mem_filterMap.mp htaken
      split at hpair
      · rename_i hplace
        obtain ⟨part, hbatch, hpair⟩ := Option.bind_eq_some_iff.mp hpair
        obtain ⟨owner, howner, hsame⟩ := Option.map_eq_some_iff.mp hpair
        cases hsame
        exact Or.inl ⟨row, hrow, hplace.1, hplace.2, hbatch, howner⟩
      · cases hpair
  | append_singleton front task ih =>
      rw [List.append_assoc, List.singleton_append] at hsplit
      have hturn : dispatched request db (front ++ [task]) =
          turn request (availableWorkers db request.warehouseId request.workDate)
            (dispatched request db front) task := run_append _ _ _
      rw [hturn] at htaken ⊢
      rcases taken_turn_cases htaken with hbefore | ⟨chosen, hchosen, hbatch, rfl⟩
      · rcases ih hsplit hbefore with howns | ⟨other, hother, hgiven⟩
        · exact Or.inl (howns.turn (dispatched_row hsplit))
        · exact Or.inr ⟨other, List.mem_append_left _ hother, hgiven⟩
      · obtain ⟨hready, hcandidate, -⟩ := choice_spec hchosen
        obtain ⟨havailable, htype, -⟩ := mem_candidates.mp hcandidate
        have hunclaimed : task.claimedBy = none := by
          by_contra hclaimed
          rw [hclear.no_candidates hsplit hready hclaimed] at hcandidate
          cases hcandidate
        have hrow := find?_turn_given (dispatched_row hsplit) hchosen
        cases hkind : task.isPickOrPack with
        | true =>
            refine Or.inl ⟨_, (Table.find?_eq_some_iff.mp hrow).1, ?_, hkind, hbatch, ?_⟩
            · have htask : task ∈ openTasks db request.warehouseId := by
                rw [hsplit]
                exact List.mem_append_right front List.mem_cons_self
              exact (mem_openTasks.mp htask).2.1
            · rw [WorkTask.owner, hunclaimed, Option.none_or]
        | false =>
            exact Or.inr ⟨task, List.mem_append_right _ List.mem_cons_self, hready, hkind, hbatch,
              chosen, havailable, rfl, htype⟩

theorem NobodyPassedOver.clearTurn (hclear : NobodyPassedOver request db) {task : WorkTask}
    (hsplit : openTasks db request.warehouseId = front ++ task :: back) :
    ClearTurn request (availableWorkers db request.warehouseId request.workDate)
      (dispatched request db front) task := by
  intro hready
  refine ⟨hclear.no_candidates hsplit hready, ?_⟩
  intro hunclaimed worker heligible hpassed
  obtain ⟨havailable, htype, hfree⟩ := heligible
  exfalso
  apply hpassed
  refine mem_candidates.mpr ⟨havailable, htype, ?_⟩
  rintro ⟨hkind, batchId, hbatch, htaken⟩
  rcases hclear.taken_cases hsplit htaken with howns | ⟨other, hother, hgiven⟩
  · exact hfree ⟨hkind, batchId, hbatch, howns⟩
  · obtain ⟨hotherready, hotherkind, hotherbatch, giver, hgiver, hname, hgivertype⟩ := hgiven
    have htasks : task ∈ openTasks db request.warehouseId ∧
        other ∈ openTasks db request.warehouseId := by
      rw [hsplit]
      exact ⟨List.mem_append_right front List.mem_cons_self, List.mem_append_left _ hother⟩
    have hbefore : dispatchOrder other ≤ dispatchOrder task := by
      have hsorted := openTasks_sorted db request.warehouseId
      rw [hsplit] at hsorted
      exact (List.pairwise_append.mp hsorted).2.2 other hother task List.mem_cons_self
    obtain ⟨-, part, hpart, howns⟩ := hclear.others task htasks.1 hready hunclaimed hkind other
      htasks.2 hotherready hotherkind (hbatch ▸ hotherbatch) hbefore giver hgiver worker havailable
      hname hgivertype htype
    have hpending : Pending (start request db (openTasks db request.warehouseId))
        (front ++ task :: back) := by
      rw [← hsplit]
      exact pending_openTasks
    apply hfree
    refine ⟨hkind, part, hpart, ?_⟩
    exact OwnsPart.run ⟨(List.nodup_append.mp (List.map_append ▸ hpending.nodup)).1,
      fun row hrow => hpending.rows row (List.mem_append_left _ hrow)⟩ howns

end Greedy

namespace BatchWithReceiving

def task (taskType : WorkTaskType) (priority taskId : ℕ) : WorkTask where
  taskId := taskId
  batchId := some 1
  warehouseId := 1
  taskType := taskType
  status := .queued
  priority := priority

/-- A batch with a receiving task before its picking, and one worker granted both. -/
def db : WorkDb where
  tasks := (Table.empty.insert (task .receiving 90) fun _ => rfl).insert
    (task .picking 50) fun _ => rfl
  batches := Table.empty.insert (fun batchId => ⟨batchId, 1, .opened⟩) fun _ => rfl
  workers := [⟨1, "ana", true, true, [1], [.receiving, .picking]⟩]

def request : LoadRequest where
  warehouseId := 1
  workDate := 1
  rates := ⟨40, 30⟩
  labour := fun _ => ⟨10, 5, 20, 2, some 12, 0, none⟩
  readAt := fun _ => 0
  clock := fun _ => 0
  lower := id

end BatchWithReceiving

/-- A batch whose picking and packing come before its receiving, and two workers. -/
def BatchWithReceiving.last : WorkDb where
  tasks := ((Table.empty.insert (BatchWithReceiving.task .picking 90) fun _ => rfl).insert
    (BatchWithReceiving.task .packing 80) fun _ => rfl).insert
      (BatchWithReceiving.task .receiving 50) fun _ => rfl
  batches := Table.empty.insert (fun batchId => ⟨batchId, 1, .opened⟩) fun _ => rfl
  workers := [⟨1, "ana", true, true, [1], [.receiving, .picking, .packing]⟩,
    ⟨2, "ben", true, true, [1], [.receiving, .packing]⟩]

end SentryWms.WorkControl
