import SentryWms.Sync.State

/-!
# One run at a time

A worker that has found the row free writes its upsert whatever the row holds by then.
Two workers that read before either writes are both told they started.  A start finds
every run of its key timed out exactly where the check of the row would still pass when
the upsert runs.
-/

namespace SentryWms.Sync

open Relational Sessions

/-! ## The runs that have started, and the row -/

/-- A running row shows a run that has started and not ended. -/
def Shown (world : SyncWorld) : Prop :=
  ∀ key row, world.states.lookup key = some row → row.syncStatus = .running →
    ⟨row.runId, row.runningSince⟩ ∈ world.active key

/-- Nobody runs, or only the run that the row shows. -/
def Backed (world : SyncWorld) : Prop :=
  ∀ key, world.unexpired key = [] ∨
    ∃ row, world.states.lookup key = some row ∧ row.syncStatus = .running ∧
      world.unexpired key = [⟨row.runId, row.runningSince⟩]

theorem shown_start (clock : ℕ) (states : SyncTable) : Shown (SyncWorld.start clock states) := by
  intro key row hlookup hrunning
  change _ ∈ (states.lookup key).elim [] SyncState.runs
  have hlookup' : states.lookup key = some row := hlookup
  rw [hlookup', Option.elim_some, SyncState.runs, if_pos hrunning]
  exact List.mem_singleton_self _

theorem backed_start (clock : ℕ) (states : SyncTable) : Backed (SyncWorld.start clock states) := by
  intro key
  have hactive : (SyncWorld.start clock states).active key =
      (states.lookup key).elim [] SyncState.runs := rfl
  rw [SyncWorld.unexpired, hactive]
  cases hlookup : states.lookup key with
  | none => exact Or.inl rfl
  | some row =>
      rw [Option.elim_some, SyncState.runs]
      by_cases hrunning : row.syncStatus = .running
      · rw [if_pos hrunning, List.filter_cons, List.filter_nil]
        split
        · exact Or.inr ⟨row, hlookup, hrunning, rfl⟩
        · exact Or.inl rfl
      · rw [if_neg hrunning]
        exact Or.inl rfl

variable {world : SyncWorld} {key : SyncKey} {runId : RunId}

theorem Backed.length_le_one (hbacked : Backed world) (key : SyncKey) :
    (world.unexpired key).length ≤ 1 := by
  cases hbacked key with
  | inl hnone => simp [hnone]
  | inr hone =>
      obtain ⟨row, -, -, hone⟩ := hone
      simp [hone]

/-- A free row has no run behind it. -/
theorem Backed.unexpired_eq_nil (hbacked : Backed world)
    (hfree : occupied world.clock (world.states.lookup key) = false) :
    world.unexpired key = [] := by
  cases hbacked key with
  | inl hnone => exact hnone
  | inr hone =>
      obtain ⟨row, hlookup, hrunning, hone⟩ := hone
      exfalso
      have hmem : (⟨row.runId, row.runningSince⟩ : Run) ∈ world.unexpired key := by
        rw [hone]
        exact List.mem_singleton_self _
      have hfresh : fresh world.clock row.runningSince = true := (List.mem_filter.mp hmem).2
      rw [hlookup, occupied] at hfree
      exact of_decide_eq_false hfree ⟨hrunning, hfresh⟩

/-- An occupied row has a run behind it. -/
theorem Shown.unexpired_ne_nil (hshown : Shown world)
    (htaken : occupied world.clock (world.states.lookup key) = true) :
    world.unexpired key ≠ [] := by
  cases hlookup : world.states.lookup key with
  | none =>
      rw [hlookup] at htaken
      cases htaken
  | some row =>
      rw [hlookup, occupied] at htaken
      obtain ⟨hrunning, hfresh⟩ := of_decide_eq_true htaken
      have hmem : (⟨row.runId, row.runningSince⟩ : Run) ∈ world.unexpired key :=
        List.mem_filter.mpr ⟨hshown key row hlookup hrunning, hfresh⟩
      exact List.ne_nil_of_mem hmem

/-! ## One commit -/

theorem fresh_of_le {now later : ℕ} (hle : now ≤ later) {since : Option ℕ}
    (hfresh : fresh later since = true) : fresh now since = true := by
  cases since with
  | none => rfl
  | some startedAt =>
      have hlater : later < startedAt + runningTimeout := of_decide_eq_true hfresh
      exact decide_eq_true (lt_of_le_of_lt hle hlater)

theorem unexpired_endRun (world : SyncWorld) (key : SyncKey) (runId : RunId) (k : SyncKey) :
    (world.endRun key runId).unexpired k =
      if k = key then (world.unexpired key).filter fun run => run.runId ≠ some runId
      else world.unexpired k := by
  have hactive : (world.endRun key runId).active = Function.update world.active key _ := rfl
  have hclock : (world.endRun key runId).clock = world.clock := rfl
  rw [SyncWorld.unexpired, hactive, hclock]
  by_cases hk : k = key
  · subst hk
    rw [if_pos rfl, Function.update_self, SyncWorld.unexpired, List.filter_comm]
  · rw [if_neg hk, Function.update_of_ne hk]
    rfl

variable {after : SyncWorld} {completion : Completion} {set : SyncState → SyncState}
  {k : SyncKey} {row : SyncState}

/-- A running row survives the end of another run. -/
theorem Shown.of_ends (hshown : Shown world)
    (hactive : after.active = (world.endRun key runId).active)
    (hrows : ∀ k row, after.states.lookup k = some row → row.syncStatus = .running →
      world.states.lookup k = some row ∧ (k = key → row.runId ≠ some runId)) :
    Shown after := by
  intro k row hlookup hrunning
  obtain ⟨hbefore, hother⟩ := hrows k row hlookup hrunning
  have hmem := hshown k row hbefore hrunning
  rw [hactive]
  change _ ∈ Function.update world.active key _ k
  by_cases hk : k = key
  · subst hk
    rw [Function.update_self]
    exact List.mem_filter.mpr ⟨hmem, decide_eq_true (hother rfl)⟩
  · rw [Function.update_of_ne hk]
    exact hmem

/-- The run of a row that is left ends, or is still the one the row shows. -/
theorem Backed.of_ends (hbacked : Backed world)
    (hunexpired : after.unexpired = (world.endRun key runId).unexpired)
    (hrows : ∀ k row, world.states.lookup k = some row →
      (k = key → row.runId ≠ some runId) → after.states.lookup k = some row) :
    Backed after := by
  intro k
  rw [hunexpired, unexpired_endRun]
  cases hbacked k with
  | inl hnone =>
      left
      split
      · rename_i hk
        subst hk
        rw [hnone, List.filter_nil]
      · exact hnone
  | inr hone =>
      obtain ⟨row, hlookup, hrunning, hone⟩ := hone
      by_cases hk : k = key
      · subst hk
        rw [if_pos rfl, hone, List.filter_cons, List.filter_nil]
        by_cases hown : row.runId = some runId
        · left
          rw [if_neg (by simpa using hown)]
        · right
          rw [if_pos (by simpa using hown)]
          exact ⟨row, hrows k row hlookup (fun _ => hown), hrunning, rfl⟩
      · right
        rw [if_neg hk]
        exact ⟨row, hrows k row hlookup (fun hkey => absurd hkey hk), hrunning, hone⟩

/-- An update under a run id leaves the rows of the other runs. -/
theorem lookup_complete_other {hset : ∀ row, (set row).key = row.key}
    (hlookup : world.states.lookup k = some row)
    (hother : k = key → row.runId ≠ some runId) :
    (world.complete key runId completion set hset).states.lookup k = some row := by
  rw [SyncWorld.lookup_complete, if_neg, hlookup]
  rintro ⟨rfl, hstores⟩
  obtain ⟨stored, hstored, hrun⟩ := SyncWorld.stores_eq_true_iff.mp hstores
  have hsame : stored = row := Option.some.inj (hstored.symm.trans hlookup)
  exact hother rfl (hsame ▸ hrun)

theorem lookup_complete_running {hset : ∀ row, (set row).key = row.key}
    (hended : ∀ row, (set row).syncStatus ≠ .running)
    (hlookup : (world.complete key runId completion set hset).states.lookup k = some row)
    (hrunning : row.syncStatus = .running) :
    world.states.lookup k = some row ∧ (k = key → row.runId ≠ some runId) := by
  rw [SyncWorld.lookup_complete] at hlookup
  split at hlookup
  · obtain ⟨old, -, rfl⟩ := Option.map_eq_some_iff.mp hlookup
    exact absurd hrunning (hended old)
  · rename_i hnot
    refine ⟨hlookup, ?_⟩
    rintro rfl hrun
    exact hnot ⟨rfl, SyncWorld.stores_eq_true_iff.mpr ⟨row, hlookup, hrun⟩⟩

theorem succeed_not_running (now : ℕ) (row : SyncState) :
    (row.succeed now).syncStatus ≠ .running := by
  simp [SyncState.succeed]

theorem fail_not_running (now : ℕ) (errorMessage : String) (currentErrors : ℕ)
    (row : SyncState) : (row.fail now errorMessage currentErrors).syncStatus ≠ .running := by
  rw [SyncState.fail]
  dsimp only
  split <;> nofun

variable {request : SyncRequest} {memory : SyncMemory} {world next : SyncWorld}

/-- Whatever commits, a running row shows a run that has started. -/
theorem Shown.commit (hshown : Shown world)
    (hcommit : SyncCommit world request memory next) : Shown next := by
  cases hcommit with
  | starts key newRunId startedAt =>
      intro k row hlookup hrunning
      rw [SyncWorld.lookup_startRun] at hlookup
      change _ ∈ Function.update world.active key _ k
      by_cases hk : k = key
      · subst hk
        rw [if_pos rfl] at hlookup
        rw [Function.update_self]
        cases hold : world.states.lookup k with
        | none | some =>
            rw [hold] at hlookup
            cases hlookup
            exact List.mem_cons_self
      · rw [if_neg hk] at hlookup
        rw [Function.update_of_ne hk]
        exact hshown k row hlookup hrunning
  | succeeds key runId now =>
      exact hshown.of_ends rfl fun k row => lookup_complete_running (succeed_not_running now)
  | loses key errorMessage runId now hlost =>
      apply hshown.of_ends rfl
      intro k row hlookup _
      have hbefore : world.states.lookup k = some row := hlookup
      refine ⟨hbefore, ?_⟩
      rintro rfl hrun
      rw [SyncWorld.stores_eq_true_iff.mpr ⟨row, hbefore, hrun⟩] at hlost
      cases hlost
  | fails key errorMessage runId now currentErrors =>
      exact hshown.of_ends rfl fun k row =>
        lookup_complete_running (fail_not_running now errorMessage currentErrors)
  | resets connectorName warehouseId syncType =>
      intro k row hlookup hrunning
      rw [SyncWorld.lookup_resetRunning] at hlookup
      obtain ⟨old, hold, hrow⟩ := Option.map_eq_some_iff.mp hlookup
      change _ ∈ if _ then _ else _
      split at hrow
      · subst hrow
        cases hrunning
      · rename_i hnot
        subst hrow
        have hreached : ¬ SyncWorld.resets connectorName warehouseId syncType k = true :=
          fun hreached => hnot ⟨hreached, hrunning⟩
        rw [if_neg hreached]
        exact hshown k old hold hrunning
  | elapses duration => exact hshown

/-- A commit that starts no run over a fresh one leaves at most the run that the row
shows. -/
theorem Backed.commit (hbacked : Backed world)
    (hfree : ∀ key newRunId startedAt, request = .setRunning key newRunId →
      memory = .cleared startedAt → occupied world.clock (world.states.lookup key) = false)
    (hcommit : SyncCommit world request memory next) : Backed next := by
  cases hcommit with
  | starts key newRunId startedAt =>
      have hidle := hbacked.unexpired_eq_nil (hfree key newRunId startedAt rfl rfl)
      intro k
      rw [SyncWorld.lookup_startRun]
      have hunexpired : (world.startRun key newRunId startedAt).unexpired k =
          ((Function.update world.active key (⟨some newRunId, some startedAt⟩ ::
            world.active key)) k).filter fun run => fresh world.clock run.runningSince := rfl
      rw [hunexpired]
      by_cases hk : k = key
      · subst hk
        have hold : (world.active k).filter (fun run => fresh world.clock run.runningSince) =
            [] := hidle
        rw [if_pos rfl, Function.update_self, List.filter_cons, hold]
        split
        · right
          cases world.states.lookup k with
          | none | some => exact ⟨_, rfl, rfl, rfl⟩
        · exact Or.inl rfl
      · rw [if_neg hk, Function.update_of_ne hk]
        exact hbacked k
  | succeeds key runId now =>
      exact hbacked.of_ends rfl fun k row => lookup_complete_other
  | loses key errorMessage runId now hlost =>
      exact hbacked.of_ends rfl fun k row hlookup _ => hlookup
  | fails key errorMessage runId now currentErrors =>
      exact hbacked.of_ends rfl fun k row => lookup_complete_other
  | resets connectorName warehouseId syncType =>
      intro k
      have hunexpired :
          (world.resetRunning connectorName warehouseId syncType).unexpired k =
            (if SyncWorld.resets connectorName warehouseId syncType k = true then []
              else world.active k).filter fun run => fresh world.clock run.runningSince :=
        rfl
      rw [hunexpired, SyncWorld.lookup_resetRunning]
      by_cases hreached : SyncWorld.resets connectorName warehouseId syncType k = true
      · rw [if_pos hreached]
        exact Or.inl rfl
      · rw [if_neg hreached]
        cases hbacked k with
        | inl hnone => exact Or.inl hnone
        | inr hone =>
            obtain ⟨row, hlookup, hrunning, hone⟩ := hone
            refine Or.inr ⟨row, ?_, hrunning, hone⟩
            rw [hlookup, Option.map_some, if_neg (fun hboth => hreached hboth.1)]
  | elapses duration =>
      intro k
      have hlater : (world.elapse duration).unexpired k =
          (world.unexpired k).filter fun run =>
            fresh (world.clock + duration) run.runningSince := by
        rw [SyncWorld.unexpired, SyncWorld.unexpired, List.filter_filter]
        apply List.filter_congr
        intro run _
        change fresh (world.clock + duration) run.runningSince = _
        cases hlate : fresh (world.clock + duration) run.runningSince with
        | false => rfl
        | true => rw [fresh_of_le (Nat.le_add_right _ _) hlate]; rfl
      rw [hlater]
      cases hbacked k with
      | inl hnone =>
          left
          rw [hnone, List.filter_nil]
      | inr hone =>
          obtain ⟨row, hlookup, hrunning, hone⟩ := hone
          rw [hone, List.filter_cons, List.filter_nil]
          split
          · exact Or.inr ⟨row, hlookup, hrunning, rfl⟩
          · exact Or.inl rfl

/-! ## Whole runs -/

variable {Ticket : Type*}

/-- The key under which the next statement of a call starts a run. -/
def starting : SyncRequest → Stage SyncMemory SyncAnswer → Option SyncKey
  | .setRunning key _, .running (.cleared _) => some key
  | _, _ => none

variable (requests : Ticket → SyncRequest)

/-- A call that is told it started finds every run of its key ended or timed out. -/
def StartsAlone (service : SyncService Ticket) : Step Ticket → Prop
  | .advance ticket =>
      ∀ key ∈ starting (requests ticket) (service.stage ticket), service.world.unexpired key = []
  | .crash _ => True

/-- The check of the row would still pass when the upsert runs. -/
def StillFree (service : SyncService Ticket) : Step Ticket → Prop
  | .advance ticket =>
      ∀ key ∈ starting (requests ticket) (service.stage ticket),
        occupied service.world.clock (service.world.states.lookup key) = false
  | .crash _ => True

variable [Fintype Ticket] [DecidableEq Ticket]

/-- Every start of the run is alone, and at most one unexpired run is left at its end. -/
def OneAtATime (service : SyncService Ticket) (steps : List (Step Ticket)) : Prop :=
  Along (serveSync requests) (StartsAlone requests) service steps ∧
    ∀ key, ((run (serveSync requests) service steps).world.unexpired key).length ≤ 1

variable {requests}
variable {service : SyncService Ticket}

theorem shown_serve (service : SyncService Ticket) (step : Step Ticket)
    (hshown : Shown service.world) : Shown (serveSync requests service step).world := by
  rcases serveSync_world requests service step with
    hsame | ⟨ticket, memory, -, -, hcommit⟩
  · rw [hsame]
    exact hshown
  · exact hshown.commit hcommit

theorem backed_serve (service : SyncService Ticket) (step : Step Ticket)
    (hbacked : Backed service.world) (hfree : StillFree requests service step) :
    Backed (serveSync requests service step).world := by
  rcases serveSync_world requests service step with
    hsame | ⟨ticket, memory, rfl, hstage, hcommit⟩
  · rw [hsame]
    exact hbacked
  · apply hbacked.commit _ hcommit
    intro key newRunId startedAt hrequest hmemory
    apply hfree key
    rw [hstage, hrequest, hmemory]
    rfl

omit [Fintype Ticket] [DecidableEq Ticket] in
theorem startsAlone_of_stillFree (service : SyncService Ticket) (step : Step Ticket)
    (hbacked : Backed service.world) (hfree : StillFree requests service step) :
    StartsAlone requests service step := by
  cases step with
  | crash ticket => trivial
  | advance ticket =>
      intro key hkey
      exact hbacked.unexpired_eq_nil (hfree key hkey)

omit [Fintype Ticket] [DecidableEq Ticket] in
theorem stillFree_of_startsAlone (service : SyncService Ticket) (step : Step Ticket)
    (hshown : Shown service.world) (halone : StartsAlone requests service step) :
    StillFree requests service step := by
  cases step with
  | crash ticket => trivial
  | advance ticket =>
      intro key hkey
      by_contra htaken
      exact hshown.unexpired_ne_nil (by simpa using htaken) (halone key hkey)

/-- In any order of statements, the runs exclude each other exactly where each start
finds the row it has checked still free. -/
theorem one_run_at_a_time (requests : Ticket → SyncRequest) (clock : ℕ) (states : SyncTable)
    (steps : List (Step Ticket)) :
    OneAtATime requests (syncOpened requests clock states) steps ↔
      Along (serveSync requests) (StillFree requests)
        (syncOpened requests clock states) steps := by
  constructor
  · rintro ⟨halone, -⟩
    apply along_of_invariant (fun service step hshown _ => shown_serve service step hshown)
      stillFree_of_startsAlone _ halone
    exact shown_start clock states
  · intro hfree
    constructor
    · apply along_of_invariant backed_serve startsAlone_of_stillFree _ hfree
      exact backed_start clock states
    · have hbacked : Backed (syncRun requests clock states steps).world := by
        apply run_invariant backed_serve _ hfree
        exact backed_start clock states
      exact hbacked.length_le_one

/-- Two workers that both read before either writes. -/
def twoWorkers : Bool → SyncRequest
  | false => .setRunning ⟨"shopify", 1, "orders"⟩ 7
  | true => .setRunning ⟨"shopify", 1, "orders"⟩ 8

theorem two_runs_at_once :
    ¬ OneAtATime twoWorkers (syncOpened twoWorkers 0 .empty)
      [.advance false, .advance true, .advance false, .advance true, .advance false,
        .advance true] := by
  rintro ⟨-, hone⟩
  exact absurd (hone ⟨"shopify", 1, "orders"⟩) (by decide)

end SentryWms.Sync
