import Mathlib.Tactic.FinCases
import SentryWms.Sync.State

/-!
# Completions that come too late

A completion asks for the run id it started with, twice on the error path.  As no two
runs share an id, a row that shows an id cannot come back to it once it has lost it: what
the error path has counted is still true of the row whenever its update finds it.
-/

namespace SentryWms.Sync

open Relational Sessions

variable {Ticket : Type*}

/-- What `uuid4` promises: no two calls mint the same run id, and none mints one that a
row shows at the start. -/
structure FreshRunIds (requests : Ticket → SyncRequest) (states : SyncTable) : Prop where
  distinct : ∀ ticket other key key' runId, requests ticket = .setRunning key runId →
    requests other = .setRunning key' runId → ticket = other
  unused : ∀ ticket key runId, requests ticket = .setRunning key runId →
    ∀ row ∈ states.rows, row.runId ≠ some runId

/-- The key and the run that a completion is about. -/
def SyncRequest.completes : SyncRequest → Option (SyncKey × RunId)
  | .setSuccess key runId => some (key, runId)
  | .setError key _ runId => some (key, runId)
  | _ => none

/-- `consecutive_errors` of a key; zero where there is no row. -/
def storedErrors (states : SyncTable) (key : SyncKey) : ℕ :=
  (states.lookup key).elim 0 SyncState.consecutiveErrors

variable {states : SyncTable} {key : SyncKey} {world : SyncWorld} {runId : RunId}
  {memory : SyncMemory}

theorem storedErrors_of_lookup {row : SyncState} (hlookup : states.lookup key = some row) :
    storedErrors states key = row.consecutiveErrors := by
  rw [storedErrors, hlookup, Option.elim_some]

/-! ## The counter and the table over one commit -/

/-- A row that shows a run id has shown it before, with the same count. -/
def KeepsRuns (before after : SyncTable) : Prop :=
  ∀ key row runId, after.lookup key = some row → row.runId = some runId →
    ∃ old, before.lookup key = some old ∧ old.runId = some runId ∧
      old.consecutiveErrors = row.consecutiveErrors

theorem keepsRuns_complete (world : SyncWorld) (key : SyncKey) (runId : RunId)
    (completion : Completion) (set : SyncState → SyncState)
    (hset : ∀ row, (set row).key = row.key) (hcleared : ∀ row, (set row).runId = none) :
    KeepsRuns world.states (world.complete key runId completion set hset).states := by
  intro k row stored hlookup hshown
  rw [SyncWorld.lookup_complete] at hlookup
  split at hlookup
  · obtain ⟨old, -, rfl⟩ := Option.map_eq_some_iff.mp hlookup
    rw [hcleared] at hshown
    cases hshown
  · exact ⟨row, hlookup, hshown, rfl⟩

theorem keepsRuns_resetRunning (world : SyncWorld) (connectorName : String)
    (warehouseId : ℕ) (syncType : Option String) :
    KeepsRuns world.states
      (world.resetRunning connectorName warehouseId syncType).states := by
  intro k row stored hlookup hshown
  rw [SyncWorld.lookup_resetRunning] at hlookup
  obtain ⟨old, hold, hrow⟩ := Option.map_eq_some_iff.mp hlookup
  split at hrow
  · subst hrow
    cases hshown
  · subst hrow
    exact ⟨old, hold, hshown, rfl⟩

/-- Every count is that of the completions applied. -/
def Counted (world : SyncWorld) : Prop :=
  ∀ key, storedErrors world.states key = errorsSince (world.completions key)

theorem Counted.startRun (hcounted : Counted world) (key : SyncKey) (runId : RunId)
    (startedAt : ℕ) : Counted (world.startRun key runId startedAt) := by
  intro k
  have hk : storedErrors world.states k = errorsSince (world.completions k) := hcounted k
  rw [storedErrors] at hk ⊢
  rw [SyncWorld.lookup_startRun]
  by_cases hkey : k = key
  · rw [if_pos hkey]
    cases hlookup : world.states.lookup k with
    | none | some =>
        rw [hlookup] at hk
        exact hk
  · rw [if_neg hkey]
    exact hk

theorem Counted.resetRunning (hcounted : Counted world) (connectorName : String)
    (warehouseId : ℕ) (syncType : Option String) :
    Counted (world.resetRunning connectorName warehouseId syncType) := by
  intro k
  have hk : storedErrors world.states k = errorsSince (world.completions k) := hcounted k
  rw [storedErrors] at hk ⊢
  rw [SyncWorld.lookup_resetRunning]
  cases hlookup : world.states.lookup k with
  | none =>
      rw [hlookup] at hk
      exact hk
  | some row =>
      rw [hlookup] at hk
      rw [Option.map_some]
      split
      · exact hk
      · exact hk

variable {completion : Completion} {set : SyncState → SyncState} {request : SyncRequest}
  {answer : SyncAnswer} {next : SyncWorld}

/-- A completion counts right where it leaves the next count on a row it finds. -/
theorem Counted.complete (hcounted : Counted world)
    {hset : ∀ row, (set row).key = row.key}
    (hnext : ∀ row, world.states.lookup key = some row → row.runId = some runId →
      (set row).consecutiveErrors = errorsSince (completion :: world.completions key)) :
    Counted (world.complete key runId completion set hset) := by
  intro k
  have hk : storedErrors world.states k = errorsSince (world.completions k) := hcounted k
  have hcompletions : (world.complete key runId completion set hset).completions =
      if world.stores key runId then
        Function.update world.completions key (completion :: world.completions key)
      else world.completions := rfl
  rw [hcompletions]
  rw [storedErrors] at hk ⊢
  rw [SyncWorld.lookup_complete]
  by_cases hstores : world.stores key runId = true
  · rw [if_pos hstores]
    by_cases hkey : k = key
    · subst hkey
      obtain ⟨row, hlookup, hshown⟩ := SyncWorld.stores_eq_true_iff.mp hstores
      rw [if_pos ⟨rfl, hstores⟩, Function.update_self, hlookup]
      exact hnext row hlookup hshown
    · rw [if_neg (fun hboth => hkey hboth.1), Function.update_of_ne hkey]
      exact hk
  · rw [if_neg hstores, if_neg (fun hboth => hstores hboth.2)]
    exact hk

/-! ## The run ids that are spent -/

/-- No open call is about to start the run. -/
def Spent (requests : Ticket → SyncRequest) (service : SyncService Ticket)
    (runId : RunId) : Prop :=
  ∀ ticket key memory, requests ticket = .setRunning key runId →
    service.stage ticket ≠ .running memory

/-- The counts are right, the run ids that are shown are spent, and what an open error
completion has counted is true of the row as long as it shows the run. -/
structure Sound (requests : Ticket → SyncRequest) (service : SyncService Ticket) :
    Prop where
  counted : Counted service.world
  shown : ∀ key row runId, service.world.states.lookup key = some row →
    row.runId = some runId → Spent requests service runId
  read : ∀ ticket key errorMessage runId now currentErrors,
    requests ticket = .setError key errorMessage runId →
      service.stage ticket = .running (.counted now currentErrors) →
        Spent requests service runId ∧
          ∀ row, service.world.states.lookup key = some row → row.runId = some runId →
            row.consecutiveErrors = currentErrors

variable {requests : Ticket → SyncRequest}

theorem sound_opened {clock : ℕ} (hfresh : FreshRunIds requests states)
    (hzero : ∀ row ∈ states.rows, row.consecutiveErrors = 0) :
    Sound requests (syncOpened requests clock states) where
  counted := by
    intro key
    change storedErrors states key = 0
    rw [storedErrors]
    cases hlookup : states.lookup key with
    | none => rfl
    | some row => exact hzero row (Keyed.lookup_eq_some_iff.mp hlookup).1
  shown := by
    intro key row runId hlookup hshown ticket other memory hrequest
    have hmem : row ∈ states.rows := (Keyed.lookup_eq_some_iff.mp hlookup).1
    exact absurd hshown (hfresh.unused ticket other runId hrequest row hmem)
  read := by
    intro ticket key errorMessage runId now currentErrors hrequest hstage
    cases hstage

variable [Fintype Ticket] [DecidableEq Ticket]
variable {service : SyncService Ticket}

/-- Nobody starts running again. -/
theorem running_of_serve {step : Step Ticket} {ticket : Ticket}
    (hrunning : (serveSync requests service step).stage ticket =
      .running memory) : ∃ before, service.stage ticket = .running before := by
  have hmoved : ∀ {moved : Ticket} {stage : Stage SyncMemory SyncAnswer} {before : SyncMemory},
      service.stage moved = .running before →
        (moveTo service moved stage).stage ticket = .running memory →
          ∃ before, service.stage ticket = .running before := by
    intro moved stage before hbefore hafter
    by_cases hsame : ticket = moved
    · exact ⟨before, hsame ▸ hbefore⟩
    · exact ⟨memory, by simpa [moveTo, hsame] using hafter⟩
  cases step with
  | crash moved =>
      rw [serveSync, Sessions.serve] at hrunning
      split at hrunning
      · rename_i before hstage
        exact hmoved hstage hrunning
      · exact ⟨memory, hrunning⟩
  | advance moved =>
      cases hstage : service.stage moved with
      | ended answer =>
          rw [serveSync, serve_ended hstage] at hrunning
          exact ⟨memory, hrunning⟩
      | running before =>
          rw [serveSync, serve_advance hstage] at hrunning
          cases houtcome : syncProgram.statement (requests moved) before
              (locked syncProgram requests service moved) service.world with
          | wait =>
              rw [houtcome] at hrunning
              exact ⟨memory, hrunning⟩
          | proceed | rollback | commit =>
              rw [houtcome] at hrunning
              exact hmoved hstage hrunning

theorem Spent.serve (hspent : Spent requests service runId) (step : Step Ticket) :
    Spent requests (serveSync requests service step) runId := by
  intro ticket key memory hrequest hrunning
  obtain ⟨before, hbefore⟩ := running_of_serve hrunning
  exact hspent ticket key before hrequest hbefore

/-- An error completion has counted only in the statement that reads. -/
theorem counted_proceed {errorMessage : String} {now currentErrors : ℕ}
    (hrequest : request = .setError key errorMessage runId)
    (hproceed : syncStatement request memory world = .proceed (.counted now currentErrors)) :
    ∃ row, world.states.lookup key = some row ∧ row.runId = some runId ∧
      row.consecutiveErrors = currentErrors := by
  subst hrequest
  cases memory with
  | stamped stamp =>
      simp only [syncStatement, setErrorStatement] at hproceed
      cases hlookup : world.states.lookup key with
      | none =>
          rw [hlookup] at hproceed
          cases hproceed
      | some row =>
          simp only [hlookup] at hproceed
          split at hproceed
          · rename_i hshown
            cases hproceed
            exact ⟨row, rfl, hshown, rfl⟩
          · cases hproceed
  | start | selected | cleared | counted => cases hproceed

/-- A step that leaves the table and the completions alone keeps what is known. -/
theorem Sound.moveTo (hsound : Sound requests service) {step : Step Ticket}
    {ticket : Ticket} {stage : Stage SyncMemory SyncAnswer}
    (hserve : serveSync requests service step = Sessions.moveTo service ticket stage)
    (hread : ∀ key errorMessage runId now currentErrors,
      requests ticket = .setError key errorMessage runId →
        stage = .running (.counted now currentErrors) →
          ∃ row, service.world.states.lookup key = some row ∧ row.runId = some runId ∧
            row.consecutiveErrors = currentErrors) :
    Sound requests (Sessions.moveTo service ticket stage) where
  counted := hsound.counted
  shown := by
    intro key row runId hlookup hshown
    rw [← hserve]
    exact (hsound.shown key row runId hlookup hshown).serve step
  read := by
    intro other key errorMessage runId now currentErrors hrequest hstage
    have hspent : ∀ {stored : RunId}, Spent requests service stored →
        Spent requests (Sessions.moveTo service ticket stage) stored := by
      intro stored hstored
      rw [← hserve]
      exact hstored.serve step
    by_cases hsame : other = ticket
    · subst hsame
      have hstage' : stage = .running (.counted now currentErrors) := by
        simpa [Sessions.moveTo] using hstage
      obtain ⟨row, hlookup, hshown, hcount⟩ :=
        hread key errorMessage runId now currentErrors hrequest hstage'
      refine ⟨hspent (hsound.shown key row runId hlookup hshown), ?_⟩
      intro stored hstored _
      have hrow : stored = row := Option.some.inj (hstored.symm.trans hlookup)
      rw [hrow]
      exact hcount
    · have hbefore : service.stage other = .running (.counted now currentErrors) := by
        simpa [Sessions.moveTo, hsame] using hstage
      obtain ⟨hold, hcount⟩ :=
        hsound.read other key errorMessage runId now currentErrors hrequest hbefore
      exact ⟨hspent hold, hcount⟩

/-- A commit that shows no new run id keeps what is known of the others. -/
theorem Sound.commit (hsound : Sound requests service) {step : Step Ticket}
    {ticket : Ticket} (hserve : serveSync requests service step =
      { Sessions.moveTo service ticket (.ended (some answer)) with world := next })
    (hcounted : Counted next) (hkeeps : KeepsRuns service.world.states next.states) :
    Sound requests
      { Sessions.moveTo service ticket (.ended (some answer)) with world := next } where
  counted := hcounted
  shown := by
    intro key row runId hlookup hshown
    obtain ⟨old, hold, hrun, -⟩ := hkeeps key row runId hlookup hshown
    rw [← hserve]
    exact (hsound.shown key old runId hold hrun).serve step
  read := by
    intro other key errorMessage runId now currentErrors hrequest hstage
    by_cases hsame : other = ticket
    · subst hsame
      simp [Sessions.moveTo] at hstage
    · have hbefore : service.stage other = .running (.counted now currentErrors) := by
        simpa [Sessions.moveTo, hsame] using hstage
      obtain ⟨hspent, hcount⟩ :=
        hsound.read other key errorMessage runId now currentErrors hrequest hbefore
      constructor
      · rw [← hserve]
        exact hspent.serve step
      · intro row hlookup hshown
        obtain ⟨old, hold, hrun, hsamecount⟩ := hkeeps key row runId hlookup hshown
        rw [← hsamecount]
        exact hcount old hold hrun

/-- A run that starts shows an id that nobody else mints or has counted under. -/
theorem Sound.starts (hsound : Sound requests service)
    (hfresh : FreshRunIds requests states) {ticket : Ticket} {newRunId : RunId}
    {startedAt : ℕ} {step : Step Ticket}
    (hrequest : requests ticket = .setRunning key newRunId)
    (hstage : service.stage ticket = .running (.cleared startedAt))
    (hserve : serveSync requests service step =
      { Sessions.moveTo service ticket (.ended (some answer)) with
        world := service.world.startRun key newRunId startedAt }) :
    Sound requests
      { Sessions.moveTo service ticket (.ended (some answer)) with
        world := service.world.startRun key newRunId startedAt } where
  counted := hsound.counted.startRun key newRunId startedAt
  shown := by
    intro k row runId hlookup hshown
    change (service.world.startRun key newRunId startedAt).states.lookup k = some row at hlookup
    rw [SyncWorld.lookup_startRun] at hlookup
    split at hlookup
    · have hnew : runId = newRunId := by
        cases hold : service.world.states.lookup k with
        | none | some =>
            rw [hold] at hlookup
            cases hlookup
            exact (Option.some.inj hshown).symm
      subst hnew
      intro other key' memory hother hrunning
      have hsame : other = ticket := hfresh.distinct _ _ _ _ _ hother hrequest
      subst hsame
      simp [Sessions.moveTo] at hrunning
    · rw [← hserve]
      exact (hsound.shown k row runId hlookup hshown).serve step
  read := by
    intro other key' errorMessage runId now currentErrors hother hcounted
    by_cases hsame : other = ticket
    · subst hsame
      simp [Sessions.moveTo] at hcounted
    · have hbefore : service.stage other = .running (.counted now currentErrors) := by
        simpa [Sessions.moveTo, hsame] using hcounted
      obtain ⟨hspent, hcount⟩ :=
        hsound.read other key' errorMessage runId now currentErrors hother hbefore
      have hne : newRunId ≠ runId := by
        rintro rfl
        exact hspent ticket key _ hrequest hstage
      constructor
      · rw [← hserve]
        exact hspent.serve step
      · intro row hlookup hshown
        change (service.world.startRun key newRunId startedAt).states.lookup key' =
          some row at hlookup
        rw [SyncWorld.lookup_startRun] at hlookup
        split at hlookup
        · exfalso
          cases hold : service.world.states.lookup key' with
          | none | some =>
              rw [hold] at hlookup
              cases hlookup
              exact hne (Option.some.inj hshown)
        · exact hcount row hlookup hshown

/-- One statement of one call keeps the counts right. -/
theorem sound_serve (hfresh : FreshRunIds requests states)
    (service : SyncService Ticket) (step : Step Ticket)
    (hsound : Sound requests service) :
    Sound requests (serveSync requests service step) := by
  cases step with
  | crash ticket =>
      cases hstage : service.stage ticket with
      | ended answer =>
          have hserve : serveSync requests service (.crash ticket) =
              service := by
            simp only [serveSync, Sessions.serve, hstage]
          rw [hserve]
          exact hsound
      | running memory =>
          have hserve : serveSync requests service (.crash ticket) =
              Sessions.moveTo service ticket (.ended none) := by
            simp only [serveSync, Sessions.serve, hstage]
          rw [hserve]
          apply hsound.moveTo hserve
          intro key errorMessage runId now currentErrors _ hcounted
          cases hcounted
  | advance ticket =>
      cases hstage : service.stage ticket with
      | ended answer =>
          rw [serveSync, serve_ended hstage]
          exact hsound
      | running memory =>
          have hserve : serveSync requests service (.advance ticket) =
              settle service ticket (syncStatement (requests ticket) memory service.world) :=
            serve_advance hstage
          cases houtcome : syncStatement (requests ticket) memory service.world with
          | wait =>
              rw [houtcome] at hserve
              rw [hserve]
              exact hsound
          | rollback answer =>
              rw [houtcome] at hserve
              rw [hserve]
              apply hsound.moveTo hserve
              intro key errorMessage runId now currentErrors _ hcounted
              cases hcounted
          | proceed next =>
              rw [houtcome] at hserve
              rw [hserve]
              apply hsound.moveTo hserve
              intro key errorMessage runId now currentErrors hrequest hcounted
              cases hcounted
              exact counted_proceed hrequest houtcome
          | commit next answer =>
              rw [houtcome] at hserve
              rw [hserve]
              have hcommit : SyncCommit service.world (requests ticket) memory next :=
                sync_commit houtcome
              generalize hrequest : requests ticket = request at hcommit
              cases hcommit with
              | starts key newRunId startedAt =>
                  exact hsound.starts hfresh hrequest hstage hserve
              | succeeds key runId now =>
                  apply hsound.commit hserve
                  · apply hsound.counted.complete
                    intro row hlookup hshown
                    rfl
                  · exact keepsRuns_complete _ _ _ _ _ _ fun _ => rfl
              | loses | elapses =>
                  apply hsound.commit hserve hsound.counted
                  intro k row stored hlookup hshown
                  exact ⟨row, hlookup, hshown, rfl⟩
              | fails key errorMessage runId now currentErrors =>
                  apply hsound.commit hserve
                  · apply hsound.counted.complete
                    intro row hlookup hshown
                    have hread : row.consecutiveErrors = currentErrors :=
                      (hsound.read ticket key errorMessage runId now currentErrors hrequest
                        hstage).2 row hlookup hshown
                    have hcount : storedErrors service.world.states key = _ := hsound.counted key
                    rw [storedErrors_of_lookup hlookup, hread] at hcount
                    rw [errorsSince_error, ← hcount]
                    rfl
                  · exact keepsRuns_complete _ _ _ _ _ _ fun _ => rfl
              | resets connectorName warehouseId syncType =>
                  exact hsound.commit hserve (hsound.counted.resetRunning _ _ _)
                    (keepsRuns_resetRunning _ _ _ _)

/-! ## Completions on the row of another run -/

theorem complete_changed {k : SyncKey} {hset : ∀ row, (set row).key = row.key}
    (hchanged : (world.complete key runId completion set hset).states.lookup k ≠
      world.states.lookup k) : k = key ∧ world.stores key runId = true := by
  rw [SyncWorld.lookup_complete] at hchanged
  by_contra hother
  exact hchanged (if_neg hother)

/-- A completion writes only the row of its key, and only while it shows its run. -/
theorem complete_only_own (hcompletes : request.completes = some (key, runId))
    (hcommit : SyncCommit world request memory next) (k : SyncKey)
    (hchanged : next.states.lookup k ≠ world.states.lookup k) :
    k = key ∧ world.stores key runId = true := by
  cases hcommit with
  | succeeds | fails =>
      cases hcompletes
      exact complete_changed hchanged
  | loses key' errorMessage runId' now hlost => exact absurd rfl hchanged
  | starts | resets | elapses => cases hcompletes

/-- After any order of statements the error counts are those of the completions applied,
and a completion changes a row only if the row still shows its run. -/
theorem stale_completion_inert (requests : Ticket → SyncRequest) (clock : ℕ)
    (states : SyncTable) (hfresh : FreshRunIds requests states)
    (hzero : ∀ row ∈ states.rows, row.consecutiveErrors = 0) (steps : List (Step Ticket)) :
    (∀ key, storedErrors (syncRun requests clock states steps).world.states key =
      errorsSince ((syncRun requests clock states steps).world.completions key)) ∧
    ∀ ticket key runId, (requests ticket).completes = some (key, runId) →
      ∀ k, (serveSync requests (syncRun requests clock states steps)
            (.advance ticket)).world.states.lookup k ≠
          (syncRun requests clock states steps).world.states.lookup k →
        k = key ∧ ∃ row,
          (syncRun requests clock states steps).world.states.lookup key = some row ∧
            row.runId = some runId := by
  have hsound : Sound requests (syncRun requests clock states steps) := by
    apply run_invariant (fun service step hsound _ => sound_serve hfresh service step hsound)
      (sound_opened hfresh hzero) (along_forall (fun _ _ => trivial) _ _)
  refine ⟨hsound.counted, ?_⟩
  intro ticket key runId hcompletes k hchanged
  rcases serveSync_world requests (syncRun requests clock states steps) (.advance ticket) with
    hsame | ⟨committer, memory, hstep, hstage, hcommit⟩
  · rw [hsame] at hchanged
    exact absurd rfl hchanged
  · cases hstep
    obtain ⟨hkey, hstores⟩ := complete_only_own hcompletes hcommit k hchanged
    exact ⟨hkey, SyncWorld.stores_eq_true_iff.mp hstores⟩

namespace SmallSync

def orders : SyncKey := ⟨"shopify", 1, "orders"⟩

/-- A run that hangs is taken over after an hour; then it fails, and so does the second. -/
def twoRuns : Fin 5 → SyncRequest
  | 0 => .setRunning orders 7
  | 1 => .elapse (3601 * 1000000)
  | 2 => .setRunning orders 8
  | 3 => .setError orders "timeout" 7
  | 4 => .setError orders "timeout" 8

theorem twoRuns_fresh : FreshRunIds twoRuns (.empty : SyncTable) where
  distinct := by
    intro ticket other key key' runId hticket hother
    fin_cases ticket <;> fin_cases other <;> cases hticket <;> cases hother <;> rfl
  unused := by
    intro ticket key runId _ row hrow
    cases hrow

/-- Up to the last statement of the first run's failure, and on to the last one of the
second run's. -/
def takenOver : List (Step (Fin 5)) :=
  [.advance 0, .advance 0, .advance 0, .advance 1, .advance 2, .advance 2, .advance 2, .advance 3]

def failed : List (Step (Fin 5)) := takenOver ++ [.advance 3, .advance 4, .advance 4]

end SmallSync

open SmallSync in
/-- The failure of the first run changes nothing; the one of the second finds its run, and
is counted. -/
theorem stale_completion_inert_taken_over :
    (serveSync twoRuns (syncRun twoRuns 0 .empty takenOver)
        (.advance 3)).world.states.lookup orders =
      (syncRun twoRuns 0 .empty takenOver).world.states.lookup orders ∧
    (∃ row, (syncRun twoRuns 0 .empty failed).world.states.lookup orders = some row ∧
      row.runId = some 8) ∧
    storedErrors (syncRun twoRuns 0 .empty (failed ++ [.advance 4])).world.states orders =
      errorsSince ((syncRun twoRuns 0 .empty (failed ++ [.advance 4])).world.completions
        orders) ∧
    storedErrors (syncRun twoRuns 0 .empty (failed ++ [.advance 4])).world.states orders =
      1 := by
  have hinert (steps : List (Step (Fin 5))) :=
    stale_completion_inert twoRuns 0 .empty twoRuns_fresh (fun row hrow => by cases hrow) steps
  refine ⟨?_, ?_, (hinert _).1 orders, by decide⟩
  · by_contra hchanged
    obtain ⟨-, row, hrow, hshown⟩ := (hinert takenOver).2 3 orders 7 rfl orders hchanged
    have hother : ((syncRun twoRuns 0 .empty takenOver).world.states.lookup orders).map
        SyncState.runId = some (some 8) := by decide
    rw [hrow, Option.map_some, hshown] at hother
    cases hother
  · exact ((hinert failed).2 4 orders 8 rfl orders (by decide)).2

end SentryWms.Sync
