import Mathlib.Logic.Function.Iterate
import SentryWms.Relational.Run

/-!
# The scan queue of a screen

Scans are queued and handed to `processFn` one at a time; while an error popup is shown
the loop polls for it to be cleared.  The code runs on one thread: a job runs to its
end, the continuations of settled promises run before the next timer or event handler,
in the order they were queued, and what a job does between two statements of the loop is
in the actions of that job.
-/

namespace SentryWms.Mobile

open Relational

/-! ## Jobs -/

/-- What the code of a job can do to the queue: an event handler, a timer, a promise
callback, or the part of `processFn` before its first `await`. -/
inductive ScanAction (Barcode : Type*)
  | enqueue (barcode : Barcode)
  | raise
  | clear
  /-- A promise callback is queued. -/
  | defer
  /-- The promise of the call in flight is resolved or rejected. -/
  | settle
  deriving DecidableEq, Repr

/-- How a call of `processFn` comes back: with a promise that is not settled, with one
that is, or by an exception. -/
inductive CallEnding
  | pending
  | settled
  | threw
  deriving DecidableEq, Repr

/-- What a call of `processFn` does before it comes back. -/
structure CallScript (Barcode : Type*) where
  actions : List (ScanAction Barcode)
  ending : CallEnding
  deriving DecidableEq, Repr

/-- Where `processQueue` is. -/
inductive LoopPlace
  | idle
  /-- At the test of the loop. -/
  | testing
  /-- At the `shift`, after the wait. -/
  | starting
  /-- In the part of `processFn` before it comes back. -/
  | calling (ending : CallEnding)
  /-- Waiting for the poll. -/
  | paused
  /-- The poll has resolved its promise. -/
  | resuming
  /-- Waiting for the call. -/
  | inFlight
  /-- The promise of the call is settled. -/
  | settling
  deriving DecidableEq, Repr

/-- The loop is running on the thread. -/
def LoopPlace.onThread : LoopPlace → Bool
  | .testing | .starting | .calling _ => true
  | _ => false

/-- A call has been started and is not settled. -/
def LoopPlace.unsettled : LoopPlace → Bool
  | .calling _ | .inFlight => true
  | _ => false

/-- A promise callback: the rest of the loop after a wait, or another one. -/
inductive Microtask
  | resume
  | settled
  | other
  deriving DecidableEq, Repr

/-- The callback of the loop that is queued where it is. -/
def LoopPlace.callbacks : LoopPlace → List Microtask
  | .resuming => [.resume]
  | .settling => [.settled]
  | _ => []

/-- There is a barcode to be handed over after the wait. -/
def LoopPlace.waits : LoopPlace → Bool
  | .paused | .resuming | .starting => true
  | _ => false

/-- A call that was started, and what held when it was. -/
structure StartedCall (Barcode : Type*) where
  barcode : Option Barcode
  unsettled : ℕ
  errorRef : Bool
  deriving DecidableEq, Repr

/-- The refs of the hook, the thread, and what has been enqueued and started so far. -/
structure ScanQueue (Barcode : Type*) where
  queue : List Barcode
  processing : Bool
  errorRef : Bool
  loop : LoopPlace
  /-- The rest of the running job, if there is one. -/
  job : Option (List (ScanAction Barcode))
  /-- The rest of `processFn` before it comes back. -/
  script : List (ScanAction Barcode)
  microtasks : List Microtask
  enqueued : List Barcode
  calls : List (StartedCall Barcode)
  /-- How many calls are started and not settled. -/
  unsettled : ℕ
  deriving DecidableEq, Repr

inductive ScanEvent (Barcode : Type*)
  /-- An event handler or a timer of another part of the screen runs. -/
  | job (actions : List (ScanAction Barcode))
  /-- The interval of the wait fires. -/
  | poll
  /-- The next promise callback runs; another one than the loop's does these actions. -/
  | microtask (actions : List (ScanAction Barcode))
  /-- The thread runs on; a call it starts goes by the script. -/
  | run (script : CallScript Barcode)
  deriving DecidableEq, Repr

variable {Barcode : Type*}

def ScanAction.enqueues : ScanAction Barcode → List Barcode
  | .enqueue barcode => [barcode]
  | _ => []

namespace ScanQueue

/-- The hook when the screen is mounted. -/
def mount : ScanQueue Barcode where
  queue := []
  processing := false
  errorRef := false
  loop := .idle
  job := none
  script := []
  microtasks := []
  enqueued := []
  calls := []
  unsettled := 0

/-- `queue.current.push(barcode)`. -/
def push (state : ScanQueue Barcode) (barcode : Barcode) : ScanQueue Barcode :=
  { state with queue := state.queue ++ [barcode], enqueued := state.enqueued ++ [barcode] }

/-- `processQueue`, up to the loop. -/
def processQueue (state : ScanQueue Barcode) : ScanQueue Barcode :=
  if state.processing then state
  else { state with processing := true, loop := .testing }

def enqueue (state : ScanQueue Barcode) (barcode : Barcode) : ScanQueue Barcode :=
  (state.push barcode).processQueue

/-- The promise of the call in flight is settled, and the loop's callback is queued. -/
def settle (state : ScanQueue Barcode) : ScanQueue Barcode :=
  match state.loop with
  | .inFlight =>
      { state with
        loop := .settling
        microtasks := state.microtasks ++ [.settled]
        unsettled := state.unsettled - 1 }
  | _ => state

def act (state : ScanQueue Barcode) : ScanAction Barcode → ScanQueue Barcode
  | .enqueue barcode => state.enqueue barcode
  | .raise => { state with errorRef := true }
  | .clear => { state with errorRef := false }
  | .defer => { state with microtasks := state.microtasks ++ [.other] }
  | .settle => state.settle

/-- `const barcode = queue.current.shift()` and the call of `processFn`. -/
def start (state : ScanQueue Barcode) (script : CallScript Barcode) : ScanQueue Barcode :=
  { state with
    queue := state.queue.tail
    loop := .calling script.ending
    script := script.actions
    calls := state.calls ++ [⟨state.queue.head?, state.unsettled, state.errorRef⟩]
    unsettled := state.unsettled + 1 }

/-- `while (queue.current.length > 0)` and the check of the popup. -/
def test (state : ScanQueue Barcode) (script : CallScript Barcode) : ScanQueue Barcode :=
  if state.queue.isEmpty then { state with processing := false, loop := .idle }
  else if state.errorRef then { state with loop := .paused }
  else state.start script

/-- `processFn` comes back. -/
def returned (state : ScanQueue Barcode) : CallEnding → ScanQueue Barcode
  | .pending => { state with loop := .inFlight }
  | .settled =>
      { state with
        loop := .settling
        microtasks := state.microtasks ++ [.settled]
        unsettled := state.unsettled - 1 }
  | .threw => { state with loop := .testing, unsettled := state.unsettled - 1 }

/-- The thread's next statement: the loop's where it is on the thread, else the job's. -/
def runThread (state : ScanQueue Barcode) (script : CallScript Barcode) : ScanQueue Barcode :=
  match state.loop with
  | .testing => state.test script
  | .starting => state.start script
  | .calling ending =>
      match state.script with
      | action :: rest => { state with script := rest }.act action
      | [] => state.returned ending
  | _ =>
      match state.job with
      | some (action :: rest) => { state with job := some rest }.act action
      | _ => { state with job := none }

/-- The interval's callback: the promise of the wait is resolved when no popup is shown. -/
def poll (state : ScanQueue Barcode) : ScanQueue Barcode :=
  if state.errorRef then state
  else { state with loop := .resuming, microtasks := state.microtasks ++ [.resume] }

/-- A promise callback begins. -/
def runMicrotask (state : ScanQueue Barcode) (actions : List (ScanAction Barcode)) :
    ScanQueue Barcode :=
  match state.microtasks with
  | [] => state
  | .resume :: rest =>
      { state with microtasks := rest, job := some [], loop := .starting }
  | .settled :: rest =>
      { state with microtasks := rest, job := some [], loop := .testing }
  | .other :: rest => { state with microtasks := rest, job := some actions }

/-- What the engine does next, where it may: a timer or an event handler waits for the
thread and for every promise callback, and a promise callback for the thread. -/
def serve (state : ScanQueue Barcode) : ScanEvent Barcode → ScanQueue Barcode
  | .job actions =>
      if state.job.isNone && state.microtasks.isEmpty then
        { state with job := some actions }
      else state
  | .poll =>
      if state.job.isNone && state.microtasks.isEmpty && state.loop = .paused then
        state.poll
      else state
  | .microtask actions => if state.job.isNone then state.runMicrotask actions else state
  | .run script => if state.job.isSome then state.runThread script else state

/-- The action, of the job or of `processFn`, that the event performs. -/
def performed (state : ScanQueue Barcode) : ScanEvent Barcode → Option (ScanAction Barcode)
  | .run _ =>
      if state.job.isSome then
        match state.loop with
        | .testing | .starting => none
        | .calling _ => state.script.head?
        | _ => state.job.bind List.head?
      else none
  | _ => none

/-- The barcodes that the events of a run enqueue. -/
def enqueues : ScanQueue Barcode → List (ScanEvent Barcode) → List Barcode
  | _, [] => []
  | state, event :: rest =>
      (state.performed event).elim [] ScanAction.enqueues ++ enqueues (state.serve event) rest

end ScanQueue

/-! ## The invariant -/

namespace ScanQueue

/-- The promise callbacks of the loop among those queued. -/
def loopCallbacks (microtasks : List Microtask) : List Microtask :=
  microtasks.filter fun callback => callback ≠ .other

/-- What the place of the loop says of the rest. -/
structure Placed (state : ScanQueue Barcode) : Prop where
  processing : state.processing = decide (state.loop ≠ .idle)
  unsettled : state.unsettled = state.loop.unsettled.toNat
  callbacks : loopCallbacks state.microtasks = state.loop.callbacks
  idle : state.loop = .idle → state.queue = []
  waits : state.loop.waits = true → state.queue ≠ []
  busy : state.loop.onThread = true → state.job.isSome = true
  /-- No job runs between the poll that finds no popup and the rest of the loop. -/
  resuming : state.loop = .resuming →
    state.job = none ∧ state.microtasks = [.resume] ∧ state.errorRef = false
  starting : state.loop = .starting → state.errorRef = false

/-- The loop goes on: it is on the thread of the running job, or it polls, or it waits for
the call in flight, or its callback is queued. -/
def Active (state : ScanQueue Barcode) : Prop :=
  (state.loop.onThread = true ∧ state.job.isSome = true) ∨ state.loop = .paused ∨
    state.loop = .inFlight ∨ ∃ callback ∈ state.microtasks, state.loop.callbacks = [callback]

/-- Every barcode that was enqueued has been handed over, or is in the queue, in order;
and every call was started with none unsettled and no popup shown. -/
structure Handed (state : ScanQueue Barcode) : Prop where
  inOrder : state.calls.map StartedCall.barcode ++ state.queue.map some = state.enqueued.map some
  alone : ∀ call ∈ state.calls, call.unsettled = 0 ∧ call.errorRef = false

variable {state after : ScanQueue Barcode}

theorem loopCallbacks_append (microtasks : List Microtask) (callback : Microtask) :
    loopCallbacks (microtasks ++ [callback]) =
      loopCallbacks microtasks ++ loopCallbacks [callback] :=
  List.filter_append _ _

/-- An action of a job, after which the loop is where it was. -/
theorem Placed.keep (hplaced : Placed state) (hjob : state.job.isSome = true)
    (hplace : state.loop ≠ .starting) (hloop : after.loop = state.loop)
    (hprocessing : after.processing = state.processing)
    (hunsettled : after.unsettled = state.unsettled) (hstill : after.job = state.job)
    (hcallbacks : loopCallbacks after.microtasks = loopCallbacks state.microtasks)
    (hidle : state.loop = .idle → after.queue = [])
    (hqueue : state.queue ≠ [] → after.queue ≠ []) : Placed after where
  processing := by rw [hprocessing, hloop, hplaced.processing]
  unsettled := by rw [hunsettled, hloop, hplaced.unsettled]
  callbacks := by rw [hcallbacks, hloop, hplaced.callbacks]
  idle := by
    rw [hloop]
    exact hidle
  waits := by
    rw [hloop]
    exact fun hwaits => hqueue (hplaced.waits hwaits)
  busy := by
    rw [hstill]
    exact fun _ => hjob
  resuming := by
    rw [hloop]
    intro hresuming
    rw [(hplaced.resuming hresuming).1] at hjob
    cases hjob
  starting := by
    rw [hloop]
    exact fun hstarting => absurd hstarting hplace

/-- A place of the loop at which no barcode has to wait. -/
theorem placed_plain (hprocessing : state.processing = true) (hidle : state.loop ≠ .idle)
    (hwaits : state.loop.waits = false)
    (hunsettled : state.unsettled = state.loop.unsettled.toNat)
    (hcallbacks : loopCallbacks state.microtasks = state.loop.callbacks)
    (hbusy : state.loop.onThread = true → state.job.isSome = true) : Placed state where
  processing := by simp [hprocessing, hidle]
  unsettled := hunsettled
  callbacks := hcallbacks
  idle := fun hat => absurd hat hidle
  waits := by
    rw [hwaits]
    intro hnot
    cases hnot
  busy := hbusy
  resuming := by
    intro hresuming
    rw [hresuming] at hwaits
    cases hwaits
  starting := by
    intro hstarting
    rw [hstarting] at hwaits
    cases hwaits

theorem Placed.enqueue (hplaced : Placed state) (hjob : state.job.isSome = true)
    (hplace : state.loop ≠ .starting) (barcode : Barcode) :
    Placed (state.enqueue barcode) := by
  have hpushed : state.queue ++ [barcode] ≠ [] := by simp
  have hat := hplaced.processing
  rw [ScanQueue.enqueue, processQueue]
  split
  · rename_i hprocessing
    have hbusy : state.loop ≠ .idle := by
      change state.processing = true at hprocessing
      rw [hprocessing] at hat
      exact of_decide_eq_true hat.symm
    exact hplaced.keep hjob hplace rfl rfl rfl rfl rfl (fun hidle => absurd hidle hbusy)
      (fun _ => hpushed)
  · rename_i hprocessing
    have hidle : state.loop = .idle := by
      by_contra hbusy
      apply hprocessing
      change state.processing = true
      rw [hat]
      exact decide_eq_true hbusy
    apply placed_plain rfl
    · simp
    · rfl
    · exact hplaced.unsettled.trans (by rw [hidle]; rfl)
    · exact hplaced.callbacks.trans (by rw [hidle]; rfl)
    · exact fun _ => hjob

theorem Placed.settle (hplaced : Placed state) : Placed state.settle := by
  unfold ScanQueue.settle
  split
  · rename_i hloop
    apply placed_plain
    · exact hplaced.processing.trans (by rw [hloop]; rfl)
    · simp
    · rfl
    · change state.unsettled - 1 = 0
      rw [hplaced.unsettled, hloop]
      rfl
    · change loopCallbacks (state.microtasks ++ [.settled]) = [.settled]
      rw [loopCallbacks_append, hplaced.callbacks, hloop]
      rfl
    · intro hnot
      cases hnot
  · exact hplaced

/-- Whatever a job does, the loop is where the refs say. -/
theorem Placed.act (hplaced : Placed state) (hjob : state.job.isSome = true)
    (hplace : state.loop ≠ .starting) (action : ScanAction Barcode) :
    Placed (state.act action) := by
  cases action with
  | enqueue barcode => exact hplaced.enqueue hjob hplace barcode
  | raise | clear => exact hplaced.keep hjob hplace rfl rfl rfl rfl rfl hplaced.idle id
  | defer =>
      refine hplaced.keep hjob hplace rfl rfl rfl rfl ?_ hplaced.idle id
      change loopCallbacks (state.microtasks ++ [.other]) = _
      rw [loopCallbacks_append]
      exact List.append_nil _
  | settle => exact hplaced.settle

/-! ## The thread -/

theorem Placed.start (hplaced : Placed state) (script : CallScript Barcode)
    (hplace : state.loop = .testing ∨ state.loop = .starting) :
    Placed (state.start script) := by
  have hat : state.loop ≠ .idle ∧ state.loop.unsettled = false ∧
      state.loop.callbacks = [] ∧ state.loop.onThread = true := by
    cases hplace with
    | inl htesting =>
        rw [htesting]
        exact ⟨by simp, rfl, rfl, rfl⟩
    | inr hstarting =>
        rw [hstarting]
        exact ⟨by simp, rfl, rfl, rfl⟩
  obtain ⟨hbusy, hunsettled, hcallbacks, hthread⟩ := hat
  apply placed_plain
  · exact hplaced.processing.trans (decide_eq_true hbusy)
  · simp [ScanQueue.start]
  · rfl
  · change state.unsettled + 1 = 1
    rw [hplaced.unsettled, hunsettled]
    rfl
  · exact hplaced.callbacks.trans hcallbacks
  · exact fun _ => hplaced.busy hthread

theorem Placed.test (hplaced : Placed state) (script : CallScript Barcode)
    (htesting : state.loop = .testing) : Placed (state.test script) := by
  have hcallbacks := hplaced.callbacks
  have hunsettled := hplaced.unsettled
  rw [htesting] at hcallbacks hunsettled
  unfold ScanQueue.test
  split
  · rename_i hempty
    exact
      { processing := rfl
        unsettled := hunsettled
        callbacks := hcallbacks
        idle := fun _ => List.isEmpty_iff.mp hempty
        waits := by
          intro hnot
          cases hnot
        busy := by
          intro hnot
          cases hnot
        resuming := by
          intro hnot
          cases hnot
        starting := by
          intro hnot
          cases hnot }
  · rename_i hempty
    split
    · exact
        { processing := by
            rw [hplaced.processing, htesting]
            rfl
          unsettled := hunsettled
          callbacks := hcallbacks
          idle := by
            intro hnot
            cases hnot
          waits := by
            intro _ hnil
            exact hempty (List.isEmpty_iff.mpr hnil)
          busy := by
            intro hnot
            cases hnot
          resuming := by
            intro hnot
            cases hnot
          starting := by
            intro hnot
            cases hnot }
    · exact hplaced.start script (Or.inl htesting)

theorem Placed.returned (hplaced : Placed state) {ending : CallEnding}
    (hcalling : state.loop = .calling ending) : Placed (state.returned ending) := by
  have hcallbacks := hplaced.callbacks
  have hunsettled := hplaced.unsettled
  have hprocessing : state.processing = true := by
    rw [hplaced.processing, hcalling]
    rfl
  have hjob : state.job.isSome = true := hplaced.busy (by rw [hcalling]; rfl)
  rw [hcalling] at hcallbacks hunsettled
  cases ending with
  | pending =>
      exact placed_plain hprocessing (by simp [ScanQueue.returned]) rfl hunsettled hcallbacks
        (fun hnot => by cases hnot)
  | settled =>
      apply placed_plain
      · exact hprocessing
      · simp [ScanQueue.returned]
      · rfl
      · change state.unsettled - 1 = 0
        rw [hunsettled]
        rfl
      · change loopCallbacks (state.microtasks ++ [.settled]) = [.settled]
        rw [loopCallbacks_append, hcallbacks]
        rfl
      · intro hnot
        cases hnot
  | threw =>
      apply placed_plain
      · exact hprocessing
      · simp [ScanQueue.returned]
      · rfl
      · change state.unsettled - 1 = 0
        rw [hunsettled]
        rfl
      · exact hcallbacks
      · exact fun _ => hjob

theorem Placed.runThread (hplaced : Placed state) (script : CallScript Barcode)
    (hjob : state.job.isSome = true) : Placed (state.runThread script) := by
  unfold ScanQueue.runThread
  split
  · exact hplaced.test script ‹_›
  · exact hplaced.start script (Or.inr ‹_›)
  · rename_i ending hcalling
    have hplace : state.loop ≠ .starting := by
      rw [hcalling]
      simp
    split
    · rename_i action rest hscript
      have hrest : Placed { state with script := rest } :=
        hplaced.keep hjob hplace rfl rfl rfl rfl rfl hplaced.idle id
      exact hrest.act hjob hplace action
    · exact hplaced.returned hcalling
  · rename_i htesting hstarting hcalling
    have hoff : state.loop.onThread = false := by
      cases hloop : state.loop with
      | testing => exact absurd hloop htesting
      | starting => exact absurd hloop hstarting
      | calling ending => exact absurd hloop (hcalling ending)
      | idle | paused | resuming | inFlight | settling => rfl
    have hjobs : ∀ job, Placed { state with job := job } := by
      intro job
      exact
        { hplaced with
          busy := by
            intro hbusy
            cases hoff.symm.trans hbusy
          resuming := by
            intro hresuming
            rw [(hplaced.resuming hresuming).1] at hjob
            cases hjob }
    split
    · rename_i action rest _
      exact (hjobs (some rest)).act rfl hstarting action
    · exact hjobs none

/-! ## Between jobs -/

theorem Placed.poll (hplaced : Placed state) (hjob : state.job = none)
    (hmicrotasks : state.microtasks = []) (hpaused : state.loop = .paused) :
    Placed state.poll := by
  unfold ScanQueue.poll
  split
  · exact hplaced
  · rename_i hclear
    have hunsettled := hplaced.unsettled
    have hwaits := hplaced.waits
    rw [hpaused] at hunsettled hwaits
    exact
      { processing := by
          rw [hplaced.processing, hpaused]
          rfl
        unsettled := hunsettled
        callbacks := by
          rw [hmicrotasks]
          rfl
        idle := by
          intro hnot
          cases hnot
        waits := fun _ => hwaits rfl
        busy := by
          intro hnot
          cases hnot
        resuming := fun _ => ⟨hjob, by rw [hmicrotasks]; rfl, by simpa using hclear⟩
        starting := by
          intro hnot
          cases hnot }

/-- The callback of the loop that is queued tells where the loop is. -/
theorem Placed.callback (hplaced : Placed state) {callback : Microtask}
    {rest : List Microtask} (hmicrotasks : state.microtasks = callback :: rest)
    (hours : callback ≠ .other) :
    state.loop.callbacks = [callback] ∧ loopCallbacks rest = [] := by
  have hcallbacks := hplaced.callbacks
  rw [hmicrotasks, loopCallbacks, List.filter_cons_of_pos (by simpa using hours)]
    at hcallbacks
  cases hloop : state.loop with
  | resuming | settling =>
      rw [hloop] at hcallbacks
      obtain ⟨hhead, htail⟩ := List.cons.inj hcallbacks
      rw [hhead]
      exact ⟨rfl, htail⟩
  | idle | testing | starting | calling | paused | inFlight =>
      rw [hloop] at hcallbacks
      cases hcallbacks

theorem Placed.runMicrotask (hplaced : Placed state)
    (actions : List (ScanAction Barcode)) : Placed (state.runMicrotask actions) := by
  unfold ScanQueue.runMicrotask
  split
  · exact hplaced
  · rename_i rest hmicrotasks
    obtain ⟨hcallback, hrest⟩ := hplaced.callback hmicrotasks (by simp)
    have hresuming : state.loop = .resuming := by
      cases hloop : state.loop <;> rw [hloop] at hcallback <;> cases hcallback
    have hunsettled := hplaced.unsettled
    have hwaits := hplaced.waits
    rw [hresuming] at hunsettled hwaits
    exact
      { processing := by
          rw [hplaced.processing, hresuming]
          rfl
        unsettled := hunsettled
        callbacks := hrest
        idle := by
          intro hnot
          cases hnot
        waits := fun _ => hwaits rfl
        busy := fun _ => rfl
        resuming := by
          intro hnot
          cases hnot
        starting := fun _ => (hplaced.resuming hresuming).2.2 }
  · rename_i rest hmicrotasks
    obtain ⟨hcallback, hrest⟩ := hplaced.callback hmicrotasks (by simp)
    have hsettling : state.loop = .settling := by
      cases hloop : state.loop <;> rw [hloop] at hcallback <;> cases hcallback
    have hunsettled := hplaced.unsettled
    rw [hsettling] at hunsettled
    apply placed_plain
    · rw [hplaced.processing, hsettling]
      rfl
    · simp
    · rfl
    · exact hunsettled
    · exact hrest
    · exact fun _ => rfl
  · rename_i rest hmicrotasks
    have hcallbacks := hplaced.callbacks
    rw [hmicrotasks, loopCallbacks, List.filter_cons_of_neg (by simp)] at hcallbacks
    exact
      { hplaced with
        callbacks := hcallbacks
        busy := fun _ => rfl
        resuming := by
          intro hresuming
          have honly := (hplaced.resuming hresuming).2.1
          rw [hmicrotasks] at honly
          cases honly
        starting := hplaced.starting }

theorem Placed.serve (hplaced : Placed state) (event : ScanEvent Barcode) :
    Placed (state.serve event) := by
  cases event with
  | job actions =>
      rw [ScanQueue.serve]
      split
      · rename_i hfree
        simp only [Bool.and_eq_true, Option.isNone_iff_eq_none, List.isEmpty_iff] at hfree
        exact
          { hplaced with
            busy := fun _ => rfl
            resuming := by
              intro hresuming
              have honly := (hplaced.resuming hresuming).2.1
              rw [hfree.2] at honly
              cases honly }
      · exact hplaced
  | poll =>
      rw [ScanQueue.serve]
      split
      · rename_i hfree
        simp only [Bool.and_eq_true, Option.isNone_iff_eq_none, List.isEmpty_iff,
          decide_eq_true_eq] at hfree
        exact hplaced.poll hfree.1.1 hfree.1.2 hfree.2
      · exact hplaced
  | microtask actions =>
      rw [ScanQueue.serve]
      split
      · exact hplaced.runMicrotask actions
      · exact hplaced
  | run script =>
      rw [ScanQueue.serve]
      split
      · rename_i hjob
        exact hplaced.runThread script hjob
      · exact hplaced

theorem Placed.active (hplaced : Placed state) (hbusy : state.loop ≠ .idle) : state.Active := by
  have hqueued : ∀ callback, state.loop.callbacks = [callback] →
      ∃ callback ∈ state.microtasks, state.loop.callbacks = [callback] := by
    intro callback hcallback
    refine ⟨callback, ?_, hcallback⟩
    have hmem : callback ∈ loopCallbacks state.microtasks := by
      rw [hplaced.callbacks, hcallback]
      exact List.mem_singleton_self callback
    exact List.mem_of_mem_filter hmem
  cases hloop : state.loop with
  | idle => exact absurd hloop hbusy
  | testing | starting | calling =>
      left
      rw [hloop]
      exact ⟨rfl, hplaced.busy (by rw [hloop]; rfl)⟩
  | paused => exact Or.inr (Or.inl hloop)
  | inFlight => exact Or.inr (Or.inr (Or.inl hloop))
  | resuming | settling =>
      exact Or.inr (Or.inr (Or.inr (hqueued _ (by rw [hloop]; rfl))))

/-! ## What has been handed over -/

theorem Handed.same (hhanded : Handed state) (hcalls : after.calls = state.calls)
    (hqueue : after.queue = state.queue) (henqueued : after.enqueued = state.enqueued) :
    Handed after where
  inOrder := by
    rw [hcalls, hqueue, henqueued]
    exact hhanded.inOrder
  alone := by
    rw [hcalls]
    exact hhanded.alone

theorem Handed.act (hhanded : Handed state) (action : ScanAction Barcode) :
    Handed (state.act action) := by
  cases action with
  | enqueue barcode =>
      have hpushed : Handed (state.push barcode) :=
        { inOrder := by
            change _ ++ (state.queue ++ [barcode]).map some = (state.enqueued ++ [barcode]).map some
            rw [List.map_append, List.map_append, ← List.append_assoc]
            exact congrArg (· ++ [some barcode]) hhanded.inOrder
          alone := hhanded.alone }
      rw [ScanQueue.act, ScanQueue.enqueue, processQueue]
      split
      · exact hpushed
      · exact hpushed.same rfl rfl rfl
  | raise | clear | defer => exact hhanded.same rfl rfl rfl
  | settle =>
      rw [ScanQueue.act, ScanQueue.settle]
      split
      · exact hhanded.same rfl rfl rfl
      · exact hhanded

/-- A call takes the first barcode of the queue, alone and with no popup shown. -/
theorem Handed.start (hhanded : Handed state) (script : CallScript Barcode)
    (hqueue : state.queue ≠ []) (hunsettled : state.unsettled = 0)
    (hclear : state.errorRef = false) : Handed (state.start script) where
  inOrder := by
    obtain ⟨barcode, rest, hfirst⟩ := List.exists_cons_of_ne_nil hqueue
    have hinOrder := hhanded.inOrder
    rw [hfirst] at hinOrder
    change (state.calls ++ [_]).map StartedCall.barcode ++ state.queue.tail.map some = _
    rw [hfirst, List.map_append, List.append_assoc]
    exact hinOrder
  alone := by
    intro call hcall
    cases List.mem_append.mp hcall with
    | inl hold => exact hhanded.alone call hold
    | inr hnew =>
        rw [List.mem_singleton.mp hnew]
        exact ⟨hunsettled, hclear⟩

theorem Handed.runThread (hhanded : Handed state) (hplaced : Placed state)
    (script : CallScript Barcode) : Handed (state.runThread script) := by
  have hunsettled := hplaced.unsettled
  unfold ScanQueue.runThread
  split
  · rename_i htesting
    rw [htesting] at hunsettled
    unfold ScanQueue.test
    split
    · exact hhanded.same rfl rfl rfl
    · rename_i hnonempty
      split
      · exact hhanded.same rfl rfl rfl
      · rename_i hclear
        apply hhanded.start script _ hunsettled (by simpa using hclear)
        intro hnil
        exact hnonempty (List.isEmpty_iff.mpr hnil)
  · rename_i hstarting
    rw [hstarting] at hunsettled
    exact hhanded.start script (hplaced.waits (by rw [hstarting]; rfl)) hunsettled
      (hplaced.starting hstarting)
  · rename_i ending _
    split
    · rename_i rest _
      have hrest : Handed { state with script := rest } := hhanded.same rfl rfl rfl
      exact hrest.act _
    · cases ending with
      | pending | settled | threw => exact hhanded.same rfl rfl rfl
  · split
    · rename_i rest _
      have hrest : Handed { state with job := some rest } := hhanded.same rfl rfl rfl
      exact hrest.act _
    · exact hhanded.same rfl rfl rfl

theorem Handed.serve (hhanded : Handed state) (hplaced : Placed state)
    (event : ScanEvent Barcode) : Handed (state.serve event) := by
  cases event with
  | job actions =>
      rw [ScanQueue.serve]
      split
      · exact hhanded.same rfl rfl rfl
      · exact hhanded
  | poll =>
      rw [ScanQueue.serve]
      split
      · unfold ScanQueue.poll
        split
        · exact hhanded
        · exact hhanded.same rfl rfl rfl
      · exact hhanded
  | microtask actions =>
      rw [ScanQueue.serve]
      split
      · unfold ScanQueue.runMicrotask
        split
        · exact hhanded
        all_goals exact hhanded.same rfl rfl rfl
      · exact hhanded
  | run script =>
      rw [ScanQueue.serve]
      split
      · exact hhanded.runThread hplaced script
      · exact hhanded

/-! ## What the events enqueue -/

theorem act_enqueued (state : ScanQueue Barcode) (action : ScanAction Barcode) :
    (state.act action).enqueued = state.enqueued ++ action.enqueues := by
  cases action with
  | enqueue barcode =>
      rw [act, ScanQueue.enqueue, processQueue]
      split <;> rfl
  | raise | clear | defer => exact (List.append_nil _).symm
  | settle =>
      rw [act, ScanQueue.settle]
      split <;> exact (List.append_nil _).symm

theorem runThread_enqueued (state : ScanQueue Barcode) (script : CallScript Barcode)
    (hjob : state.job.isSome = true) :
    (state.runThread script).enqueued =
      state.enqueued ++ (state.performed (.run script)).elim [] ScanAction.enqueues := by
  rw [performed, if_pos hjob]
  unfold ScanQueue.runThread
  split
  · unfold ScanQueue.test
    split
    · exact (List.append_nil _).symm
    · split <;> exact (List.append_nil _).symm
  · exact (List.append_nil _).symm
  · rename_i ending hcalling
    split
    · rename_i action rest hscript
      rw [hscript]
      exact act_enqueued { state with script := rest } action
    · rename_i hscript
      rw [hscript]
      cases ending <;> exact (List.append_nil _).symm
  · rename_i htesting hstarting hcalling
    split
    · rename_i action rest hactions
      rw [act_enqueued, hactions]
      cases hloop : state.loop with
      | testing => exact absurd hloop htesting
      | starting => exact absurd hloop hstarting
      | calling ending => exact absurd hloop (hcalling ending)
      | idle | paused | resuming | inFlight | settling => rfl
    · rename_i hnone
      have hhead : state.job.bind List.head? = none := by
        cases hactions : state.job with
        | none => rfl
        | some actions =>
            cases actions with
            | nil => rfl
            | cons action rest => exact absurd hactions (hnone action rest)
      cases hloop : state.loop <;> simp [hhead] at *

theorem serve_enqueued (state : ScanQueue Barcode) (event : ScanEvent Barcode) :
    (state.serve event).enqueued =
      state.enqueued ++ (state.performed event).elim [] ScanAction.enqueues := by
  cases event with
  | job actions =>
      rw [ScanQueue.serve]
      split <;> exact (List.append_nil _).symm
  | poll =>
      rw [ScanQueue.serve, ScanQueue.poll]
      split
      · split <;> exact (List.append_nil _).symm
      · exact (List.append_nil _).symm
  | microtask actions =>
      rw [ScanQueue.serve]
      split
      · unfold ScanQueue.runMicrotask
        split <;> exact (List.append_nil _).symm
      · exact (List.append_nil _).symm
  | run script =>
      rw [ScanQueue.serve]
      split
      · rename_i hjob
        exact state.runThread_enqueued script hjob
      · rename_i hjob
        rw [performed, if_neg hjob]
        exact (List.append_nil _).symm

theorem run_enqueued (state : ScanQueue Barcode) (events : List (ScanEvent Barcode)) :
    (run serve state events).enqueued = state.enqueued ++ state.enqueues events := by
  induction events generalizing state with
  | nil => exact (List.append_nil _).symm
  | cons event rest ih =>
      calc
        (run serve (state.serve event) rest).enqueued =
            (state.serve event).enqueued ++ (state.serve event).enqueues rest := ih _
        _ = state.enqueued ++ state.enqueues (event :: rest) := by
            rw [serve_enqueued, List.append_assoc]
            rfl

/-! ## The queue moves on -/

/-- A call that has nothing more to do and is still to be settled. -/
def idleCall : CallScript Barcode := ⟨[], .pending⟩

/-- What comes next when nobody touches the screen: the thread runs on, then the promise
callbacks, then the interval fires, or the call in flight is settled. -/
def quietly (state : ScanQueue Barcode) : List (ScanEvent Barcode) :=
  if state.job.isSome then [.run idleCall]
  else if state.microtasks.isEmpty then
    match state.loop with
    | .paused => [.poll]
    | .inFlight => [.job [.settle], .run idleCall]
    | _ => []
  else [.microtask []]

def quietStep (state : ScanQueue Barcode) : ScanQueue Barcode := run serve state state.quietly

/-- The loop waits for the popup, and nothing else is to be run. -/
def HeldUp (state : ScanQueue Barcode) : Prop :=
  state.loop = .paused ∧ state.errorRef = true ∧ state.job = none ∧ state.microtasks = []

/-- How far the loop is from the next call. -/
def LoopPlace.distance : LoopPlace → ℕ
  | .calling _ => 9
  | .inFlight => 8
  | .settling | .testing => 4
  | .paused => 3
  | .idle | .resuming | .starting => 0

/-- What there is to run before the next call. -/
def distance (state : ScanQueue Barcode) : ℕ :=
  LoopPlace.distance state.loop + state.job.elim 0 (fun actions => 3 * actions.length + 1) +
    3 * state.script.length + 2 * state.microtasks.length

/-- The first barcode is still first, no call has begun, and the loop is closer to it. -/
structure Closer (state after : ScanQueue Barcode) (barcode : Barcode) : Prop where
  first : ∃ rest, after.queue = barcode :: rest
  calls : after.calls = state.calls
  distance : after.distance < state.distance

/-- An action leaves the first barcode first, and adds at most a promise callback. -/
theorem act_distance {barcode : Barcode} {rest : List Barcode}
    (hqueue : state.queue = barcode :: rest) (hprocessing : state.processing = true)
    (action : ScanAction Barcode) :
    (∃ rest, (state.act action).queue = barcode :: rest) ∧
      (state.act action).calls = state.calls ∧
      (state.act action).distance ≤ state.distance + 2 := by
  cases action with
  | enqueue other =>
      have hpushed : state.enqueue other = state.push other := if_pos hprocessing
      rw [act, hpushed]
      exact ⟨⟨rest ++ [other], by rw [push, hqueue]; rfl⟩, rfl, Nat.le_add_right _ 2⟩
  | raise | clear => exact ⟨⟨rest, hqueue⟩, rfl, Nat.le_add_right _ 2⟩
  | defer =>
      refine ⟨⟨rest, hqueue⟩, rfl, ?_⟩
      simp only [act, ScanQueue.distance, List.length_append, List.length_singleton]
      omega
  | settle =>
      rw [act, ScanQueue.settle]
      split
      · rename_i hloop
        refine ⟨⟨rest, hqueue⟩, rfl, ?_⟩
        simp only [ScanQueue.distance, hloop, LoopPlace.distance, List.length_append,
          List.length_singleton]
        omega
      · exact ⟨⟨rest, hqueue⟩, rfl, Nat.le_add_right _ 2⟩

/-- A call of the first barcode begins, alone and with no popup shown. -/
def Begins (state after : ScanQueue Barcode) (barcode : Barcode) : Prop :=
  after.calls = state.calls ++ [⟨some barcode, 0, false⟩]

theorem begins_start {barcode : Barcode} {rest : List Barcode}
    (hqueue : state.queue = barcode :: rest) (hunsettled : state.unsettled = 0)
    (hclear : state.errorRef = false) (script : CallScript Barcode) :
    Begins state (state.start script) barcode := by
  rw [Begins, ScanQueue.start, hqueue, hunsettled, hclear]
  rfl

/-- The thread runs on: the call begins, or is closer. -/
theorem runThread_closer {barcode : Barcode} {rest : List Barcode} (hplaced : Placed state)
    (hqueue : state.queue = barcode :: rest) (hjob : state.job.isSome = true)
    (script : CallScript Barcode) :
    Begins state (state.runThread script) barcode ∨
      Closer state (state.runThread script) barcode := by
  have hbusy : state.loop ≠ .idle := by
    intro hidle
    rw [hplaced.idle hidle] at hqueue
    cases hqueue
  have hprocessing : state.processing = true :=
    hplaced.processing.trans (decide_eq_true hbusy)
  have hunsettled := hplaced.unsettled
  unfold ScanQueue.runThread
  split
  · rename_i htesting
    rw [htesting] at hunsettled
    rw [ScanQueue.test, hqueue, List.isEmpty_cons, if_neg (by simp)]
    split
    · refine Or.inr ⟨⟨rest, rfl⟩, rfl, ?_⟩
      simp only [ScanQueue.distance, htesting, LoopPlace.distance]
      omega
    · rename_i hclear
      exact Or.inl (begins_start hqueue hunsettled (by simpa using hclear) script)
  · rename_i hstarting
    rw [hstarting] at hunsettled
    exact Or.inl (begins_start hqueue hunsettled (hplaced.starting hstarting) script)
  · rename_i ending hcalling
    right
    split
    · rename_i action later hscript
      obtain ⟨hfirst, hcalls, hless⟩ := @act_distance _ { state with script := later } _ _
        hqueue hprocessing action
      refine ⟨hfirst, hcalls, Nat.lt_of_le_of_lt hless ?_⟩
      simp only [ScanQueue.distance, hscript, List.length_cons]
      omega
    · refine ⟨⟨rest, by cases ending <;> exact hqueue⟩, by cases ending <;> rfl, ?_⟩
      cases ending with
      | pending | threw =>
          simp only [returned, ScanQueue.distance, hcalling, LoopPlace.distance]
          omega
      | settled =>
          simp only [returned, ScanQueue.distance, hcalling, LoopPlace.distance,
            List.length_append, List.length_singleton]
          omega
  · right
    obtain ⟨actions, hactions⟩ := Option.isSome_iff_exists.mp hjob
    cases actions with
    | nil =>
        rw [hactions]
        refine ⟨⟨rest, hqueue⟩, rfl, ?_⟩
        simp only [ScanQueue.distance, hactions, Option.elim]
        omega
    | cons action later =>
        obtain ⟨hfirst, hcalls, hless⟩ := @act_distance _ { state with job := some later } _ _
          hqueue hprocessing action
        rw [hactions]
        refine ⟨hfirst, hcalls, Nat.lt_of_le_of_lt hless ?_⟩
        simp only [ScanQueue.distance, hactions, Option.elim, List.length_cons]
        omega

/-- With nobody at the screen the call begins, or is closer, unless the popup holds it up. -/
theorem quietStep_closer {barcode : Barcode} {rest : List Barcode} (hplaced : Placed state)
    (hqueue : state.queue = barcode :: rest) (hfree : ¬ HeldUp state) :
    Begins state state.quietStep barcode ∨ Closer state state.quietStep barcode := by
  cases hjob : state.job with
  | some actions =>
      have hrun : state.quietStep = state.runThread idleCall := by
        simp [quietStep, quietly, hjob, run, ScanQueue.serve]
      rw [hrun]
      exact runThread_closer hplaced hqueue (by rw [hjob]; rfl) idleCall
  | none =>
      right
      cases hmicrotasks : state.microtasks with
      | cons callback later =>
          have hrun : state.quietStep = state.runMicrotask [] := by
            simp [quietStep, quietly, hjob, hmicrotasks, run, ScanQueue.serve]
          rw [hrun, ScanQueue.runMicrotask, hmicrotasks]
          cases callback with
          | other =>
              refine ⟨⟨rest, hqueue⟩, rfl, ?_⟩
              simp only [ScanQueue.distance, hjob, hmicrotasks, Option.elim, List.length_cons,
                List.length_nil]
              omega
          | resume =>
              refine ⟨⟨rest, hqueue⟩, rfl, ?_⟩
              simp only [ScanQueue.distance, hjob, hmicrotasks, Option.elim, List.length_cons,
                List.length_nil, LoopPlace.distance]
              omega
          | settled =>
              obtain ⟨hcallback, -⟩ := hplaced.callback hmicrotasks (by simp)
              have hsettling : state.loop = .settling := by
                cases hloop : state.loop <;> rw [hloop] at hcallback <;> cases hcallback
              refine ⟨⟨rest, hqueue⟩, rfl, ?_⟩
              simp only [ScanQueue.distance, hjob, hmicrotasks, hsettling, Option.elim,
                List.length_cons, List.length_nil, LoopPlace.distance]
              omega
      | nil =>
          have hcallbacks := hplaced.callbacks
          rw [hmicrotasks] at hcallbacks
          cases hloop : state.loop with
          | idle =>
              rw [hplaced.idle hloop] at hqueue
              cases hqueue
          | testing | starting | calling =>
              have hbusy := hplaced.busy (by rw [hloop]; rfl)
              rw [hjob] at hbusy
              cases hbusy
          | resuming | settling =>
              rw [hloop] at hcallbacks
              cases hcallbacks
          | paused =>
              have hclear : state.errorRef = false := by
                by_contra hshown
                exact hfree ⟨hloop, by simpa using hshown, hjob, hmicrotasks⟩
              have hrun : state.quietStep =
                  { state with loop := .resuming, microtasks := [.resume] } := by
                simp [quietStep, quietly, hjob, hmicrotasks, hloop, run, ScanQueue.serve,
                  ScanQueue.poll, hclear]
              rw [hrun]
              refine ⟨⟨rest, hqueue⟩, rfl, ?_⟩
              simp only [ScanQueue.distance, hjob, hmicrotasks, hloop, LoopPlace.distance,
                Option.elim, List.length_singleton, List.length_nil]
              omega
          | inFlight =>
              have hrun : state.quietStep =
                  { state with
                    loop := .settling
                    job := some []
                    microtasks := [.settled]
                    unsettled := state.unsettled - 1 } := by
                simp [quietStep, quietly, hjob, hmicrotasks, hloop, run, ScanQueue.serve,
                  ScanQueue.runThread, act, ScanQueue.settle]
              rw [hrun]
              refine ⟨⟨rest, hqueue⟩, rfl, ?_⟩
              simp only [ScanQueue.distance, hjob, hmicrotasks, hloop, LoopPlace.distance,
                Option.elim, List.length_singleton, List.length_nil]
              omega

theorem Placed.quietStep (hplaced : Placed state) : Placed state.quietStep := by
  have hstep : ∀ (before : ScanQueue Barcode) event, Placed before → True →
      Placed (before.serve event) :=
    fun _ event hbefore _ => hbefore.serve event
  exact run_invariant hstep hplaced (along_forall (fun _ _ => trivial) _ _)

/-- What becomes of the first barcode of the queue: with nobody at the screen its call
begins, unless a popup comes up that holds the loop; and when the popup is cleared it
begins at the next poll. -/
structure MovesOn (state : ScanQueue Barcode) : Prop where
  begins : ∀ barcode rest, state.queue = barcode :: rest → ∃ steps,
    Begins state (ScanQueue.quietStep^[steps] state) barcode ∨
      HeldUp (ScanQueue.quietStep^[steps] state)
  cleared : ∀ barcode rest, state.queue = barcode :: rest → HeldUp state → ∀ script,
    Begins state (run serve state
      [.job [.clear], .run script, .run script, .poll, .microtask [], .run script]) barcode

theorem Placed.movesOn (hplaced : Placed state) : MovesOn state where
  begins := by
    intro barcode rest hqueue
    induction hdistance : state.distance using Nat.strongRecOn generalizing state rest with
    | ind distance ih =>
        by_cases hheld : HeldUp state
        · exact ⟨0, Or.inr hheld⟩
        · rcases quietStep_closer hplaced hqueue hheld with hbegins | hcloser
          · exact ⟨1, Or.inl hbegins⟩
          · obtain ⟨later, hlater⟩ := hcloser.first
            obtain ⟨steps, hsteps⟩ := ih _ (hdistance ▸ hcloser.distance) hplaced.quietStep
              later hlater rfl
            refine ⟨steps + 1, ?_⟩
            unfold Begins at hsteps ⊢
            rw [hcloser.calls] at hsteps
            exact hsteps
  cleared := by
    intro barcode rest hqueue hheld script
    have hnone := hplaced.unsettled
    rw [hheld.1] at hnone
    obtain ⟨queue, processing, errorRef, loop, job, earlier, microtasks, enqueued, calls,
      unsettled⟩ := state
    obtain ⟨rfl, -, rfl, rfl⟩ := hheld
    obtain rfl : queue = barcode :: rest := hqueue
    obtain rfl : unsettled = 0 := hnone
    rfl

end ScanQueue

/-! ## Every run -/

theorem placed_mount : (ScanQueue.mount : ScanQueue Barcode).Placed where
  processing := rfl
  unsettled := rfl
  callbacks := rfl
  idle := fun _ => rfl
  waits := by
    intro hnot
    cases hnot
  busy := by
    intro hnot
    cases hnot
  resuming := by
    intro hnot
    cases hnot
  starting := by
    intro hnot
    cases hnot

theorem handed_mount : (ScanQueue.mount : ScanQueue Barcode).Handed where
  inOrder := rfl
  alone := by
    intro call hcall
    cases hcall

theorem handed_run (events : List (ScanEvent Barcode)) :
    (run ScanQueue.serve ScanQueue.mount events).Placed ∧
      (run ScanQueue.serve ScanQueue.mount events).Handed := by
  have hstep : ∀ (state : ScanQueue Barcode) event, state.Placed ∧ state.Handed → True →
      (state.serve event).Placed ∧ (state.serve event).Handed :=
    fun state event hboth _ => ⟨hboth.1.serve event, hboth.2.serve hboth.1 event⟩
  exact run_invariant hstep ⟨placed_mount, handed_mount⟩
    (along_forall (fun _ _ => trivial) _ events)

/-- Whatever the jobs of the screen do, the calls are of the enqueued barcodes, each once
and in order, except those still in the queue; each was started when the one before was
settled and no popup was shown; and where a barcode is in the queue the loop is active, and
comes to the call of the first one. -/
theorem scan_queue_in_order (events : List (ScanEvent Barcode)) :
    let final := run ScanQueue.serve ScanQueue.mount events
    final.calls.map StartedCall.barcode ++ final.queue.map some =
      (ScanQueue.mount.enqueues events).map some ∧
    (∀ call ∈ final.calls, call.unsettled = 0 ∧ call.errorRef = false) ∧
    final.unsettled ≤ 1 ∧
    (final.queue ≠ [] → final.processing = true ∧ final.Active) ∧
    final.MovesOn := by
  intro final
  obtain ⟨hplaced, hhanded⟩ := handed_run events
  refine ⟨?_, hhanded.alone, ?_, ?_, hplaced.movesOn⟩
  · exact hhanded.inOrder.trans (congrArg (List.map some) (ScanQueue.run_enqueued _ events))
  · have hunsettled := hplaced.unsettled
    change final.unsettled = _ at hunsettled
    rw [hunsettled]
    exact Bool.toNat_le _
  · intro hqueue
    have hactive : final.loop ≠ .idle := fun hidle => hqueue (hplaced.idle hidle)
    exact ⟨hplaced.processing.trans (decide_eq_true hactive), hplaced.active hactive⟩

/-- Two scans; the popup shown during the first call, which is settled, holds the second
one back. -/
def popupShown : List (ScanEvent ℕ) :=
  [.job [.enqueue 1, .enqueue 2], .run ScanQueue.idleCall, .run ScanQueue.idleCall,
    .run ScanQueue.idleCall, .run ScanQueue.idleCall, .run ScanQueue.idleCall,
    .job [.raise, .settle], .run ScanQueue.idleCall, .run ScanQueue.idleCall,
    .run ScanQueue.idleCall, .microtask [], .run ScanQueue.idleCall, .run ScanQueue.idleCall,
    .poll]

/-- When the popup is cleared the second call begins. -/
theorem scan_queue_in_order_popupShown :
    (run ScanQueue.serve ScanQueue.mount popupShown).calls = [⟨some 1, 0, false⟩] ∧
    (run ScanQueue.serve (run ScanQueue.serve ScanQueue.mount popupShown)
      [.job [.clear], .run ScanQueue.idleCall, .run ScanQueue.idleCall, .poll, .microtask [],
        .run ScanQueue.idleCall]).calls = [⟨some 1, 0, false⟩, ⟨some 2, 0, false⟩] :=
  ⟨by decide, (scan_queue_in_order popupShown).2.2.2.2.cleared 2 [] (by decide)
    ⟨by decide, by decide, by decide, by decide⟩ ScanQueue.idleCall⟩

end SentryWms.Mobile
