import Mathlib.Data.Fintype.Basic
import SentryWms.Relational.Keyed
import SentryWms.Relational.Sessions

/-!
# The state of a sync run

One row for each connector, warehouse and sync type says whether a sync is running, and
under which run id.  A worker starts a run by a plain read and an upsert, and ends it by
an update that asks for its own run id; an admin may reset what is running.  Beside the
table the world keeps what the table does not say: the runs that were told they started
and have not ended, and the completions that were applied.
-/

namespace SentryWms.Sync

open Relational Sessions

/-! ## The table -/

structure SyncKey where
  connectorName : String
  warehouseId : ℕ
  syncType : String
  deriving DecidableEq, Repr

inductive SyncStatus
  | idle
  | running
  | error
  deriving DecidableEq, Repr

abbrev RunId := ℕ

/-- A row of `sync_state`; times are in microseconds. -/
structure SyncState where
  key : SyncKey
  syncStatus : SyncStatus
  runningSince : Option ℕ
  runId : Option RunId
  lastSyncedAt : Option ℕ
  lastSuccessAt : Option ℕ
  lastErrorAt : Option ℕ
  lastErrorMessage : Option String
  consecutiveErrors : ℕ
  deriving DecidableEq, Repr

abbrev SyncTable := Keyed SyncState SyncState.key

/-- `ERROR_THRESHOLD`. -/
def errorThreshold : ℕ := 3

/-- `RUNNING_TIMEOUT`, one hour. -/
def runningTimeout : ℕ := 3600 * 1000000

/-- A run this old may not be taken over yet.  A run without a start counts as fresh. -/
def fresh (now : ℕ) : Option ℕ → Bool
  | none => true
  | some since => now < since + runningTimeout

/-- The check of `_set_running_impl` on the row it has read. -/
def occupied (now : ℕ) : Option SyncState → Bool
  | none => false
  | some row => row.syncStatus = .running ∧ fresh now row.runningSince = true

/-- The row `_set_running_impl` inserts. -/
def newState (key : SyncKey) (runId : RunId) (startedAt : ℕ) : SyncState where
  key := key
  syncStatus := .running
  runningSince := some startedAt
  runId := some runId
  lastSyncedAt := none
  lastSuccessAt := none
  lastErrorAt := none
  lastErrorMessage := none
  consecutiveErrors := 0

namespace SyncState

/-- `DO UPDATE` of `_set_running_impl`. -/
def start (runId : RunId) (startedAt : ℕ) (row : SyncState) : SyncState :=
  { row with syncStatus := .running, runningSince := some startedAt, runId := some runId }

/-- `UPDATE` of `set_success_standalone`. -/
def succeed (now : ℕ) (row : SyncState) : SyncState :=
  { row with
    syncStatus := .idle
    runningSince := none
    runId := none
    lastSyncedAt := some now
    lastSuccessAt := some now
    consecutiveErrors := 0 }

/-- `UPDATE` of `set_error_standalone`, with the count it has read. -/
def fail (now : ℕ) (errorMessage : String) (currentErrors : ℕ) (row : SyncState) : SyncState :=
  { row with
    syncStatus := if errorThreshold ≤ currentErrors + 1 then .error else .idle
    runningSince := none
    runId := none
    lastSyncedAt := some now
    lastErrorAt := some now
    lastErrorMessage := some errorMessage
    consecutiveErrors := currentErrors + 1 }

/-- `UPDATE` of `reset_running`. -/
def reset (row : SyncState) : SyncState :=
  { row with syncStatus := .idle, runningSince := none, runId := none }

end SyncState

/-! ## The world -/

/-- A run that was told it started. -/
structure Run where
  runId : Option RunId
  runningSince : Option ℕ
  deriving DecidableEq, Repr

/-- A completion that changed the row. -/
inductive Completion
  | success
  | error
  deriving DecidableEq, Repr

/-- The error completions since the last success, newest first. -/
def errorsSince (completions : List Completion) : ℕ :=
  (completions.takeWhile fun completion => completion = .error).length

theorem errorsSince_error (completions : List Completion) :
    errorsSince (.error :: completions) = errorsSince completions + 1 := by
  simp [errorsSince]

/-- The committed table and the clock; the runs that have started and not ended, and the
completions applied so far, newest first, under each key. -/
structure SyncWorld where
  clock : ℕ
  states : SyncTable
  active : SyncKey → List Run
  completions : SyncKey → List Completion

/-- The run a row shows. -/
def SyncState.runs (row : SyncState) : List Run :=
  if row.syncStatus = .running then [⟨row.runId, row.runningSince⟩] else []

/-- A table with the runs it shows, and nothing completed yet. -/
def SyncWorld.start (clock : ℕ) (states : SyncTable) : SyncWorld where
  clock := clock
  states := states
  active := fun key => (states.lookup key).elim [] SyncState.runs
  completions := fun _ => []

namespace SyncWorld

/-- The row asks for this run, so its completion is applied. -/
def stores (world : SyncWorld) (key : SyncKey) (runId : RunId) : Bool :=
  match world.states.lookup key with
  | none => false
  | some row => row.runId = some runId

theorem stores_eq_true_iff {world : SyncWorld} {key : SyncKey} {runId : RunId} :
    world.stores key runId = true ↔
      ∃ row, world.states.lookup key = some row ∧ row.runId = some runId := by
  unfold stores
  cases world.states.lookup key with
  | none | some => simp

/-- The runs of a key that have not timed out. -/
def unexpired (world : SyncWorld) (key : SyncKey) : List Run :=
  (world.active key).filter fun run => fresh world.clock run.runningSince

/-- The upsert of `_set_running_impl`. -/
def startRun (world : SyncWorld) (key : SyncKey) (runId : RunId) (startedAt : ℕ) : SyncWorld :=
  { world with
    states := world.states.upsert (newState key runId startedAt)
      (SyncState.start runId startedAt) (fun _ hkey => hkey)
    active := Function.update world.active key (⟨some runId, some startedAt⟩ :: world.active key) }

/-- The run has ended for its worker. -/
def endRun (world : SyncWorld) (key : SyncKey) (runId : RunId) : SyncWorld :=
  { world with
    active := Function.update world.active key
      ((world.active key).filter fun run => run.runId ≠ some runId) }

/-- An update under `run_id = :run_id`, and the record of it where it found the row. -/
def complete (world : SyncWorld) (key : SyncKey) (runId : RunId) (completion : Completion)
    (set : SyncState → SyncState) (hset : ∀ row, (set row).key = row.key) : SyncWorld :=
  { world.endRun key runId with
    states := world.states.modify (fun row => row.key = key ∧ row.runId = some runId)
      set hset
    completions :=
      if world.stores key runId then
        Function.update world.completions key (completion :: world.completions key)
      else world.completions }

/-- `reset_running` reaches the key. -/
def resets (connectorName : String) (warehouseId : ℕ) (syncType : Option String)
    (key : SyncKey) : Bool :=
  key.connectorName = connectorName && key.warehouseId = warehouseId &&
    syncType.all fun syncType => key.syncType = syncType

/-- `UPDATE` of `reset_running`. -/
def resetRunning (world : SyncWorld) (connectorName : String) (warehouseId : ℕ)
    (syncType : Option String) : SyncWorld :=
  { world with
    states := world.states.modify
      (fun row => resets connectorName warehouseId syncType row.key ∧
        row.syncStatus = .running) SyncState.reset (fun _ => rfl)
    active := fun key =>
      if resets connectorName warehouseId syncType key then [] else world.active key }

def elapse (world : SyncWorld) (duration : ℕ) : SyncWorld :=
  { world with clock := world.clock + duration }

end SyncWorld

/-! ## The transactions -/

/-- The calls; a `set_running` brings the UUID it mints, and time passes in between. -/
inductive SyncRequest
  | setRunning (key : SyncKey) (newRunId : RunId)
  | setSuccess (key : SyncKey) (runId : RunId)
  | setError (key : SyncKey) (errorMessage : String) (runId : RunId)
  | resetRunning (connectorName : String) (warehouseId : ℕ) (syncType : Option String)
  | elapse (duration : ℕ)

inductive SyncMemory
  | start
  | selected (seen : Option SyncState) (startedAt : ℕ)
  | cleared (startedAt : ℕ)
  | stamped (now : ℕ)
  | counted (now : ℕ) (currentErrors : ℕ)
  deriving DecidableEq, Repr

inductive SyncAnswer
  | started (runId : RunId)
  | duplicateRun
  | applied (changed : Bool)
  | updated (rowcount : ℕ)
  | elapsed
  deriving DecidableEq, Repr

abbrev SyncOutcome := Outcome SyncWorld SyncMemory SyncAnswer

/-- `set_running_standalone`: the read, with `NOW()` fixed by it, the check against the
worker's clock, and the upsert with its commit. -/
def setRunningStatement (key : SyncKey) (newRunId : RunId) :
    SyncMemory → SyncWorld → SyncOutcome
  | .start, world => .proceed (.selected (world.states.lookup key) world.clock)
  | .selected seen startedAt, world =>
      if occupied world.clock seen then .rollback .duplicateRun
      else .proceed (.cleared startedAt)
  | .cleared startedAt, world =>
      .commit (world.startRun key newRunId startedAt) (.started newRunId)
  | _, _ => .wait

/-- `set_success_standalone`. -/
def setSuccessStatement (key : SyncKey) (runId : RunId) :
    SyncMemory → SyncWorld → SyncOutcome
  | .start, world => .proceed (.stamped world.clock)
  | .stamped now, world =>
      .commit (world.complete key runId .success (SyncState.succeed now) fun _ => rfl)
        (.applied (world.stores key runId))
  | _, _ => .wait

/-- `set_error_standalone`: the count is read in one statement and written back in
another, and both ask for the run id. -/
def setErrorStatement (key : SyncKey) (errorMessage : String) (runId : RunId) :
    SyncMemory → SyncWorld → SyncOutcome
  | .start, world => .proceed (.stamped world.clock)
  | .stamped now, world =>
      match world.states.lookup key with
      | none => .commit (world.endRun key runId) (.applied false)
      | some row =>
          if row.runId = some runId then .proceed (.counted now row.consecutiveErrors)
          else .commit (world.endRun key runId) (.applied false)
  | .counted now currentErrors, world =>
      .commit (world.complete key runId .error
          (SyncState.fail now errorMessage currentErrors) fun _ => rfl)
        (.applied (world.stores key runId))
  | _, _ => .wait

/-- `reset_running`. -/
def resetStatement (connectorName : String) (warehouseId : ℕ) (syncType : Option String) :
    SyncMemory → SyncWorld → SyncOutcome
  | .start, world =>
      .commit (world.resetRunning connectorName warehouseId syncType)
        (.updated (world.states.rows.countP fun row =>
          SyncWorld.resets connectorName warehouseId syncType row.key ∧ row.syncStatus = .running))
  | _, _ => .wait

def syncStatement : SyncRequest → SyncMemory → SyncWorld → SyncOutcome
  | .setRunning key newRunId => setRunningStatement key newRunId
  | .setSuccess key runId => setSuccessStatement key runId
  | .setError key errorMessage runId => setErrorStatement key errorMessage runId
  | .resetRunning connectorName warehouseId syncType =>
      resetStatement connectorName warehouseId syncType
  | .elapse duration => fun _ world => .commit (world.elapse duration) .elapsed

/-- No lock is kept from one statement to the next. -/
def syncProgram : Program SyncWorld SyncRequest SyncMemory Empty SyncAnswer where
  start := fun _ => .start
  holds := fun _ _ _ => false
  statement := fun request memory _ world => syncStatement request memory world
  start_holds := fun _ _ => rfl

variable {Ticket : Type*}

abbrev SyncService (Ticket : Type*) := Service SyncWorld Ticket SyncMemory SyncAnswer

/-- The calls on a table, before any of them runs. -/
def syncOpened (requests : Ticket → SyncRequest) (clock : ℕ) (states : SyncTable) :
    SyncService Ticket :=
  opened syncProgram requests (SyncWorld.start clock states)

variable [Fintype Ticket] [DecidableEq Ticket]

/-- One statement of one call, or the loss of its connection. -/
def serveSync (requests : Ticket → SyncRequest) (service : SyncService Ticket)
    (step : Step Ticket) : SyncService Ticket :=
  Sessions.serve syncProgram requests service step

/-- The calls on a table, after these statements. -/
def syncRun (requests : Ticket → SyncRequest) (clock : ℕ) (states : SyncTable)
    (steps : List (Step Ticket)) : SyncService Ticket :=
  run (serveSync requests) (syncOpened requests clock states) steps

/-! ## What a commit does -/

/-- The commits of each call, each at the memory it comes from. -/
inductive SyncCommit (world : SyncWorld) : SyncRequest → SyncMemory → SyncWorld → Prop
  | starts (key : SyncKey) (newRunId : RunId) (startedAt : ℕ) :
      SyncCommit world (.setRunning key newRunId) (.cleared startedAt)
        (world.startRun key newRunId startedAt)
  | succeeds (key : SyncKey) (runId : RunId) (now : ℕ) :
      SyncCommit world (.setSuccess key runId) (.stamped now)
        (world.complete key runId .success (SyncState.succeed now) fun _ => rfl)
  | loses (key : SyncKey) (errorMessage : String) (runId : RunId) (now : ℕ)
      (hlost : world.stores key runId = false) :
      SyncCommit world (.setError key errorMessage runId) (.stamped now) (world.endRun key runId)
  | fails (key : SyncKey) (errorMessage : String) (runId : RunId) (now currentErrors : ℕ) :
      SyncCommit world (.setError key errorMessage runId) (.counted now currentErrors)
        (world.complete key runId .error (SyncState.fail now errorMessage currentErrors)
          fun _ => rfl)
  | resets (connectorName : String) (warehouseId : ℕ) (syncType : Option String) :
      SyncCommit world (.resetRunning connectorName warehouseId syncType) .start
        (world.resetRunning connectorName warehouseId syncType)
  | elapses (duration : ℕ) (memory : SyncMemory) :
      SyncCommit world (.elapse duration) memory (world.elapse duration)

theorem sync_commit {request : SyncRequest} {memory : SyncMemory} {world next : SyncWorld}
    {answer : SyncAnswer}
    (hcommit : syncStatement request memory world = .commit next answer) :
    SyncCommit world request memory next := by
  cases request with
  | setRunning key newRunId =>
      cases memory with
      | cleared startedAt =>
          cases hcommit
          exact .starts key newRunId startedAt
      | selected seen startedAt =>
          simp only [syncStatement, setRunningStatement] at hcommit
          split at hcommit <;> cases hcommit
      | start | stamped | counted => cases hcommit
  | setSuccess key runId =>
      cases memory with
      | stamped now =>
          cases hcommit
          exact .succeeds key runId now
      | start | selected | cleared | counted => cases hcommit
  | setError key errorMessage runId =>
      cases memory with
      | stamped now =>
          simp only [syncStatement, setErrorStatement] at hcommit
          cases hlookup : world.states.lookup key with
          | none =>
              rw [hlookup] at hcommit
              cases hcommit
              apply SyncCommit.loses
              rw [SyncWorld.stores, hlookup]
          | some row =>
              simp only [hlookup] at hcommit
              split at hcommit
              · cases hcommit
              · rename_i hother
                cases hcommit
                apply SyncCommit.loses
                rw [SyncWorld.stores, hlookup]
                exact decide_eq_false hother
      | counted now currentErrors =>
          cases hcommit
          exact .fails key errorMessage runId now currentErrors
      | start | selected | cleared => cases hcommit
  | resetRunning connectorName warehouseId syncType =>
      cases memory with
      | start =>
          cases hcommit
          exact .resets connectorName warehouseId syncType
      | selected | cleared | stamped | counted => cases hcommit
  | elapse duration =>
      cases hcommit
      exact .elapses duration memory

/-- A step changes the world only where a call commits. -/
theorem serveSync_world (requests : Ticket → SyncRequest) (service : SyncService Ticket)
    (step : Step Ticket) :
    (serveSync requests service step).world = service.world ∨
      ∃ ticket memory, step = .advance ticket ∧ service.stage ticket = .running memory ∧
        SyncCommit service.world (requests ticket) memory
          (serveSync requests service step).world := by
  cases step with
  | crash ticket =>
      left
      rw [serveSync, Sessions.serve]
      split
      · rfl
      · rfl
  | advance ticket =>
      rcases @serve_advance_world _ _ _ _ _ _ syncProgram requests _ _ service ticket with
        hsame | ⟨memory, world, answer, hstage, houtcome, hworld⟩
      · exact Or.inl hsame
      · right
        refine ⟨ticket, memory, rfl, hstage, ?_⟩
        rw [serveSync, hworld]
        exact sync_commit houtcome

namespace SyncWorld

variable (world : SyncWorld) (key : SyncKey) (runId : RunId)

theorem lookup_startRun (startedAt : ℕ) (k : SyncKey) :
    (world.startRun key runId startedAt).states.lookup k =
      if k = key then
        some ((world.states.lookup k).elim (newState key runId startedAt)
          (SyncState.start runId startedAt))
      else world.states.lookup k :=
  Keyed.lookup_upsert world.states (newState key runId startedAt)
    (SyncState.start runId startedAt) (fun _ hkey => hkey) k

theorem lookup_complete (completion : Completion) (set : SyncState → SyncState)
    (hset : ∀ row, (set row).key = row.key) (k : SyncKey) :
    (world.complete key runId completion set hset).states.lookup k =
      if k = key ∧ world.stores key runId = true then (world.states.lookup k).map set
      else world.states.lookup k := by
  have hmodify : (world.complete key runId completion set hset).states.lookup k = _ :=
    Keyed.lookup_modify _ _ _ hset k
  rw [hmodify]
  cases hlookup : world.states.lookup k with
  | none => simp
  | some row =>
      have hkey : row.key = k := Keyed.key_of_lookup hlookup
      by_cases hk : k = key
      · subst hk
        simp only [Option.map_some, stores, hlookup, hkey, true_and, decide_eq_true_eq]
        split <;> rfl
      · have hother : ¬ row.key = key := hkey ▸ hk
        simp [hk, hother]

theorem lookup_resetRunning (connectorName : String) (warehouseId : ℕ)
    (syncType : Option String) (k : SyncKey) :
    (world.resetRunning connectorName warehouseId syncType).states.lookup k =
      (world.states.lookup k).map fun row =>
        if resets connectorName warehouseId syncType k ∧ row.syncStatus = .running then
          row.reset
        else row := by
  have hmodify : (world.resetRunning connectorName warehouseId syncType).states.lookup k = _ :=
    Keyed.lookup_modify _ _ SyncState.reset (fun _ => rfl) k
  rw [hmodify]
  cases hlookup : world.states.lookup k with
  | none => rfl
  | some row =>
      have hkey : row.key = k := Keyed.key_of_lookup hlookup
      simp [hkey]

end SyncWorld

end SentryWms.Sync
