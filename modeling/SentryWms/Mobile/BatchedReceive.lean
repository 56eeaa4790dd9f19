import Mathlib.Data.List.Count
import Mathlib.Data.List.Dedup
import Mathlib.Data.List.Induction
import SentryWms.Relational.Grouping
import SentryWms.Relational.Run

/-!
# Batched receiving

Scans are counted at once and buffered; a flush takes the whole buffer, submits one line
for each item and bin, and when the submit settles, reports it and takes the scans back
from the counts.  One flush runs at a time.  Handlers, timers, callbacks and the submit
itself can enqueue, drain and reset at any moment the thread is theirs.
-/

namespace SentryWms.Mobile

open Relational

/-! ## Lines of a batch -/

structure ReceivePayload where
  itemId : ℕ
  binId : ℕ
  deriving DecidableEq, Repr

structure ReceiveLine where
  itemId : ℕ
  binId : ℕ
  quantity : ℕ
  deriving DecidableEq, Repr

/-- The template string that keys the map. -/
def ReceivePayload.mapKey (payload : ReceivePayload) : String :=
  toString payload.itemId ++ ":" ++ toString payload.binId

/-- `byKey.set(k, line)`: an entry keeps its place, a new one goes last. -/
def setLine (key : String) (line : ReceiveLine) :
    List (String × ReceiveLine) → List (String × ReceiveLine)
  | [] => [(key, line)]
  | (other, old) :: rest =>
      if other = key then (key, line) :: rest else (other, old) :: setLine key line rest

/-- One scan of the batch. -/
def addScan (byKey : List (String × ReceiveLine)) (payload : ReceivePayload) :
    List (String × ReceiveLine) :=
  let cur := ((byKey.find? fun entry => entry.1 = payload.mapKey).map Prod.snd).getD
    ⟨payload.itemId, payload.binId, 0⟩
  setLine payload.mapKey { cur with quantity := cur.quantity + 1 } byKey

def aggregateReceiveBatch (payloads : List ReceivePayload) : List ReceiveLine :=
  (payloads.foldl addScan []).map Prod.snd

/-- The values of a list, each where it is first seen. -/
def firstSeen {Value : Type*} [DecidableEq Value] (values : List Value) : List Value :=
  values.reverse.dedup.reverse

/-- One line for each item and bin, where it is first seen, with the number of its
scans. -/
def lineCounts (payloads : List ReceivePayload) : List ReceiveLine :=
  (firstSeen payloads).map fun payload => ⟨payload.itemId, payload.binId, payloads.count payload⟩

theorem firstSeen_concat {Value : Type*} [DecidableEq Value] (values : List Value) (value : Value) :
    firstSeen (values ++ [value]) =
      if value ∈ values then firstSeen values else firstSeen values ++ [value] := by
  rw [firstSeen, List.reverse_append, List.reverse_singleton, List.singleton_append]
  split
  · rename_i hmem
    rw [List.dedup_cons_of_mem (List.mem_reverse.mpr hmem), firstSeen]
  · rename_i hnot
    rw [List.dedup_cons_of_notMem (fun hmem => hnot (List.mem_reverse.mp hmem)),
      List.reverse_cons, firstSeen]

theorem firstSeen_nodup {Value : Type*} [DecidableEq Value] (values : List Value) :
    (firstSeen values).Nodup :=
  List.nodup_reverse.mpr (List.nodup_dedup _)

theorem mem_firstSeen {Value : Type*} [DecidableEq Value] {values : List Value}
    {value : Value} : value ∈ firstSeen values ↔ value ∈ values := by
  rw [firstSeen, List.mem_reverse, List.mem_dedup, List.mem_reverse]

theorem colon_notMem_toString (n : ℕ) : ':' ∉ (toString n).toList := by
  rw [Nat.toString_eq_repr, Nat.toList_repr]
  intro hcolon
  have hdigit := Nat.isDigit_of_mem_toDigits (by decide) (by decide) hcolon
  exact absurd hdigit (by decide)

theorem toString_nat_inj {n m : ℕ} (hsame : (toString n).toList = (toString m).toList) : n = m := by
  rw [Nat.toString_eq_repr, Nat.toString_eq_repr, Nat.toList_repr, Nat.toList_repr] at hsame
  rw [← Nat.ofDigitChars_ten_toDigits (n := n), hsame, Nat.ofDigitChars_ten_toDigits]

variable {payload : ReceivePayload} {payloads : List ReceivePayload}

/-- The key of the map tells the item and the bin. -/
theorem mapKey_inj {other : ReceivePayload} (hsame : payload.mapKey = other.mapKey) :
    payload = other := by
  have hlist := congrArg String.toList hsame
  simp only [ReceivePayload.mapKey, String.toList_append, List.append_assoc] at hlist
  obtain ⟨hitem, hbin⟩ := split_at_separator (colon_notMem_toString _)
    (colon_notMem_toString _) hlist
  cases payload
  cases other
  rw [ReceivePayload.mk.injEq]
  exact ⟨toString_nat_inj hitem, toString_nat_inj hbin⟩

/-- What the map is after some scans. -/
def lineEntries (payloads : List ReceivePayload) (quantity : ReceivePayload → ℕ) :
    List (String × ReceiveLine) :=
  payloads.map fun payload => (payload.mapKey, ⟨payload.itemId, payload.binId, quantity payload⟩)

theorem lineEntries_cons (payload : ReceivePayload) (rest : List ReceivePayload)
    (quantity : ReceivePayload → ℕ) :
    lineEntries (payload :: rest) quantity =
      (payload.mapKey, ⟨payload.itemId, payload.binId, quantity payload⟩) ::
        lineEntries rest quantity :=
  rfl

theorem lineEntries_congr {quantity quantity' : ReceivePayload → ℕ}
    (hsame : ∀ payload ∈ payloads, quantity payload = quantity' payload) :
    lineEntries payloads quantity = lineEntries payloads quantity' := by
  apply List.map_congr_left
  intro payload hmem
  rw [hsame payload hmem]

theorem find?_lineEntries (payloads : List ReceivePayload)
    (quantity : ReceivePayload → ℕ) (payload : ReceivePayload) :
    ((lineEntries payloads quantity).find? fun entry => entry.1 = payload.mapKey).map Prod.snd =
      if payload ∈ payloads then
        some ⟨payload.itemId, payload.binId, quantity payload⟩
      else none := by
  induction payloads with
  | nil => rfl
  | cons head rest ih =>
      rw [lineEntries_cons, List.find?_cons]
      by_cases hhead : head = payload
      · subst hhead
        simp
      · have hkey : head.mapKey ≠ payload.mapKey := fun hsame => hhead (mapKey_inj hsame)
        simpa [hkey, Ne.symm hhead] using ih

theorem setLine_of_mem (hnodup : payloads.Nodup) (quantity : ReceivePayload → ℕ)
    (hmem : payload ∈ payloads) (next : ℕ) :
    setLine payload.mapKey ⟨payload.itemId, payload.binId, next⟩ (lineEntries payloads quantity) =
      lineEntries payloads (Function.update quantity payload next) := by
  induction payloads with
  | nil => cases hmem
  | cons head rest ih =>
      have hrest := List.nodup_cons.mp hnodup
      rw [lineEntries_cons, setLine, lineEntries_cons]
      by_cases hhead : head = payload
      · subst hhead
        have hothers : lineEntries rest quantity =
            lineEntries rest (Function.update quantity head next) := by
          apply lineEntries_congr
          intro other hother
          rw [Function.update_of_ne]
          rintro rfl
          exact hrest.1 hother
        rw [if_pos rfl, Function.update_self, hothers]
      · have hkey : head.mapKey ≠ payload.mapKey := fun hsame => hhead (mapKey_inj hsame)
        have hstill := ih hrest.2 ((List.mem_cons.mp hmem).resolve_left (Ne.symm hhead))
        rw [if_neg hkey, Function.update_of_ne hhead, hstill]

theorem setLine_of_notMem (quantity : ReceivePayload → ℕ) (hnot : payload ∉ payloads)
    (line : ReceiveLine) :
    setLine payload.mapKey line (lineEntries payloads quantity) =
      lineEntries payloads quantity ++ [(payload.mapKey, line)] := by
  induction payloads with
  | nil => rfl
  | cons head rest ih =>
      have hkey : head.mapKey ≠ payload.mapKey := by
        intro hsame
        exact hnot (mapKey_inj hsame ▸ List.mem_cons_self)
      have hstill := ih fun hmem => hnot (List.mem_cons_of_mem _ hmem)
      rw [lineEntries_cons, setLine, if_neg hkey, hstill, List.cons_append]

/-- The map after a batch. -/
theorem foldl_addScan (payloads : List ReceivePayload) :
    payloads.foldl addScan [] =
      lineEntries (firstSeen payloads) fun payload => payloads.count payload := by
  induction payloads using List.reverseRecOn with
  | nil => rfl
  | append_singleton payloads payload ih =>
      rw [List.foldl_concat, ih, addScan, find?_lineEntries, firstSeen_concat]
      by_cases hmem : payload ∈ payloads
      · rw [if_pos (mem_firstSeen.mpr hmem), if_pos hmem, Option.getD_some]
        rw [setLine_of_mem (firstSeen_nodup _) _ (mem_firstSeen.mpr hmem)]
        apply lineEntries_congr
        intro other _
        rw [List.count_append]
        by_cases hother : other = payload
        · rw [hother, Function.update_self, List.count_singleton_self]
        · rw [Function.update_of_ne hother, List.count_singleton, if_neg (by
            simpa using Ne.symm hother), Nat.add_zero]
      · have hnot : payload ∉ firstSeen payloads := fun hseen => hmem (mem_firstSeen.mp hseen)
        rw [if_neg hnot, if_neg hmem, Option.getD_none, setLine_of_notMem _ hnot]
        rw [lineEntries, lineEntries, List.map_append]
        congr 1
        · apply List.map_congr_left
          intro other hseen
          have hother : other ≠ payload := by
            rintro rfl
            exact hnot hseen
          rw [List.count_append, List.count_singleton, if_neg (by
            simpa using Ne.symm hother), Nat.add_zero]
        · rw [List.map_singleton, List.count_append, List.count_eq_zero_of_not_mem hmem,
            List.count_singleton_self]

/-- A batch is submitted as one line for each item and bin, with its count. -/
theorem aggregateReceiveBatch_eq (payloads : List ReceivePayload) :
    aggregateReceiveBatch payloads = lineCounts payloads := by
  rw [aggregateReceiveBatch, foldl_addScan, lineEntries, List.map_map]
  rfl

/-! ## The hook -/

/-- A buffered scan; `id` is how many were enqueued before it. -/
structure Scan (Key : Type*) where
  id : ℕ
  key : Key
  payload : ReceivePayload
  deriving DecidableEq, Repr

/-- What code with the thread can do to the hook. -/
inductive ReceiveAction (Key : Type*)
  | enqueue (key : Key) (payload : ReceivePayload)
  | drain
  | reset
  deriving DecidableEq, Repr

/-- What `submit` does before its first `await`, or what a callback does, and whether it
ends in an exception. -/
structure ReceiveScript (Key : Type*) where
  actions : List (ReceiveAction Key)
  throws : Bool
  deriving DecidableEq, Repr

/-- Where `flush` is. -/
inductive FlushPlace
  | idle
  /-- In `submit`, before it comes back. -/
  | submitting (throws : Bool)
  | inFlight
  /-- In `onConfirm`. -/
  | confirming (throws : Bool)
  /-- In `onError`. -/
  | reporting
  /-- At the `finally`. -/
  | finishing
  deriving DecidableEq, Repr

/-- A batch that was submitted. -/
structure Submission (Key : Type*) where
  scans : List (Scan Key)
  items : List ReceiveLine
  deriving DecidableEq, Repr

/-- How a submit came out, and how often each callback was called with its batch. -/
structure BatchReport where
  resolved : Bool
  confirms : ℕ
  errors : ℕ
  deriving DecidableEq, Repr

/-- A batch is reported to one callback, and to `onError` only if its submit rejected. -/
def BatchReport.ReportedOnce (report : BatchReport) : Prop :=
  report.confirms + report.errors = 1 ∧ (report.errors = 1 → report.resolved = false)

/-- What was buffered, and how many submits were in flight, when a drain was resolved. -/
structure DrainReport where
  buffered : ℕ
  inFlight : ℕ
  deriving DecidableEq, Repr

/-- The refs of the hook, the thread, and what has become of the scans so far. -/
structure Receiver (Key : Type*) where
  buffer : List (Scan Key)
  flushing : Bool
  timer : Bool
  drainWaiters : ℕ
  pendingRef : Key → ℕ
  batchMax : ℕ
  place : FlushPlace
  /-- The batch of the running flush. -/
  batch : List (Scan Key)
  report : BatchReport
  /-- The rest of the running job, and of the running callback. -/
  job : Option (List (ReceiveAction Key))
  script : List (ReceiveAction Key)
  enqueued : List (Scan Key)
  settled : List (Scan Key)
  dropped : List (Scan Key)
  /-- How many scans had been enqueued when the hook was last reset. -/
  resetAt : ℕ
  submissions : List (Submission Key)
  /-- How many submits have been called and are not settled. -/
  unsettled : ℕ
  reports : List BatchReport
  drains : List DrainReport

inductive ReceiveEvent (Key : Type*)
  /-- A handler, another timer or a promise callback of the screen runs. -/
  | job (actions : List (ReceiveAction Key))
  | timer (script : ReceiveScript Key)
  /-- The submit settles, and its batch is reported by a callback that does this. -/
  | settle (resolved : Bool) (script : ReceiveScript Key)
  /-- A render may bring another `batchMax`. -/
  | render (batchMax : ℕ)
  /-- The thread runs on; a submit or a callback it calls goes by the script. -/
  | run (script : ReceiveScript Key)
  deriving DecidableEq, Repr

variable {Key : Type*}

namespace Receiver

/-- The hook when the screen is mounted. -/
def mount (batchMax : ℕ) : Receiver Key where
  buffer := []
  flushing := false
  timer := false
  drainWaiters := 0
  pendingRef := fun _ => 0
  batchMax := batchMax
  place := .idle
  batch := []
  report := ⟨false, 0, 0⟩
  job := none
  script := []
  enqueued := []
  settled := []
  dropped := []
  resetAt := 0
  submissions := []
  unsettled := 0
  reports := []
  drains := []

/-- The drains are resolved. -/
def resolveDrains (state : Receiver Key) (waiters : ℕ) : Receiver Key :=
  { state with
    drains := state.drains ++ List.replicate waiters ⟨state.buffer.length, state.unsettled⟩ }

def maybeSettleDrain (state : Receiver Key) : Receiver Key :=
  if state.buffer.isEmpty && !state.flushing then
    { state.resolveDrains state.drainWaiters with drainWaiters := 0 }
  else state

/-- `flush`, up to what `submit` does. -/
def flush (state : Receiver Key) (script : ReceiveScript Key) : Receiver Key :=
  if state.flushing || state.buffer.isEmpty then state.maybeSettleDrain
  else
    { state with
      flushing := true
      timer := false
      batch := state.buffer
      buffer := []
      place := .submitting script.throws
      script := script.actions
      submissions := state.submissions ++
        [⟨state.buffer, aggregateReceiveBatch (state.buffer.map Scan.payload)⟩]
      unsettled := state.unsettled + 1 }

/-- `scheduleFlush`. -/
def scheduleFlush (state : Receiver Key) (script : ReceiveScript Key) : Receiver Key :=
  if state.batchMax ≤ state.buffer.length then state.flush script
  else { state with timer := true }

/-- `catch (err)`: `onError` is called. -/
def reportError (state : Receiver Key) (script : ReceiveScript Key) : Receiver Key :=
  { state with
    place := .reporting
    script := script.actions
    report := { state.report with errors := state.report.errors + 1 } }

def drain (state : Receiver Key) (script : ReceiveScript Key) : Receiver Key :=
  if state.buffer.isEmpty && !state.flushing then state.resolveDrains 1
  else { state with drainWaiters := state.drainWaiters + 1 }.flush script

def reset (state : Receiver Key) : Receiver Key :=
  { state with
    timer := false
    buffer := []
    dropped := state.dropped ++ state.buffer
    pendingRef := fun _ => 0
    resetAt := state.enqueued.length }

variable [DecidableEq Key]

/-- `buffer.current.push({ key, payload })` and `bumpPending(key, +1)`. -/
def push (state : Receiver Key) (key : Key) (payload : ReceivePayload) : Receiver Key :=
  let scan : Scan Key := ⟨state.enqueued.length, key, payload⟩
  { state with
    buffer := state.buffer ++ [scan]
    enqueued := state.enqueued ++ [scan]
    pendingRef := Function.update state.pendingRef key (state.pendingRef key + 1) }

def enqueue (state : Receiver Key) (key : Key) (payload : ReceivePayload)
    (script : ReceiveScript Key) : Receiver Key :=
  (state.push key payload).scheduleFlush script

/-- `for (const { key } of batch) bumpPending(key, -1)`: a count of zero is deleted. -/
def unbump (pendingRef : Key → ℕ) (batch : List (Scan Key)) : Key → ℕ :=
  batch.foldl (fun pending scan => Function.update pending scan.key (pending scan.key - 1))
    pendingRef

/-- The batch has settled: what the `finally` does before it goes on. -/
def settleBatch (state : Receiver Key) : Receiver Key :=
  { state with
    pendingRef := unbump state.pendingRef state.batch
    flushing := false
    place := .idle
    settled := state.settled ++ state.batch
    batch := []
    unsettled := state.unsettled - 1
    reports := state.reports ++ [state.report] }

/-- `finally`. -/
def finish (state : Receiver Key) (script : ReceiveScript Key) : Receiver Key :=
  if state.settleBatch.buffer.isEmpty then state.settleBatch.maybeSettleDrain
  else state.settleBatch.flush script

def act (state : Receiver Key) (script : ReceiveScript Key) :
    ReceiveAction Key → Receiver Key
  | .enqueue key payload => state.enqueue key payload script
  | .drain => state.drain script
  | .reset => state.reset

/-- The thread's next statement: the flush's where it has the thread, else the job's. -/
def runThread (state : Receiver Key) (script : ReceiveScript Key) : Receiver Key :=
  match state.place, state.script, state.job with
  | .submitting _, action :: rest, _ | .confirming _, action :: rest, _
  | .reporting, action :: rest, _ => { state with script := rest }.act script action
  | .submitting true, [], _ =>
      { state with report := ⟨false, 0, 0⟩ }.reportError script
  | .submitting false, [], _ => { state with place := .inFlight }
  | .confirming true, [], _ => state.reportError script
  | .confirming false, [], _ | .reporting, [], _ => { state with place := .finishing }
  | .finishing, _, _ => state.finish script
  | _, _, some (action :: rest) => { state with job := some rest }.act script action
  | _, _, _ => { state with job := none }

/-- The promise of the submit is settled, and `flush` goes on. -/
def settle (state : Receiver Key) (resolved : Bool) (script : ReceiveScript Key) : Receiver Key :=
  if resolved then
    { state with
      job := some []
      place := .confirming script.throws
      script := script.actions
      report := ⟨true, 1, 0⟩ }
  else { state with job := some [], report := ⟨false, 0, 0⟩ }.reportError script

/-- What happens next, where it may: only one job has the thread. -/
def serve (state : Receiver Key) : ReceiveEvent Key → Receiver Key
  | .job actions => if state.job.isNone then { state with job := some actions } else state
  | .timer script =>
      if state.job.isNone && state.timer then
        { state with job := some [], timer := false }.flush script
      else state
  | .settle resolved script =>
      if state.job.isNone && state.place = .inFlight then state.settle resolved script
      else state
  | .render batchMax => { state with batchMax := batchMax }
  | .run script => if state.job.isSome then state.runThread script else state

/-! ## Where every scan is -/

/-- Every scan is in one place, each submission is of the scans it took, and a drain was
resolved only with nothing buffered or in flight. -/
structure Flows (state : Receiver Key) : Prop where
  flushing : state.flushing = decide (state.place ≠ .idle)
  unsettled : state.unsettled = state.flushing.toNat
  idle : state.place = .idle → state.batch = []
  ids : state.enqueued.map Scan.id = List.range state.enqueued.length
  parts : (state.buffer ++ state.batch ++ state.settled ++ state.dropped).Perm state.enqueued
  submitted : state.submissions.flatMap Submission.scans = state.settled ++ state.batch
  items : ∀ submission ∈ state.submissions,
    submission.items = lineCounts (submission.scans.map Scan.payload)
  drains : ∀ drain ∈ state.drains, drain.buffered = 0 ∧ drain.inFlight = 0

section Flowing

variable {state after : Receiver Key} {script : ReceiveScript Key}

omit [DecidableEq Key] in
/-- The thread moves on, and no scan with it. -/
theorem Flows.same (hflows : Flows state) (hplace : after.place = .idle ↔ state.place = .idle)
    (hflushing : after.flushing = state.flushing) (hunsettled : after.unsettled = state.unsettled)
    (hbuffer : after.buffer = state.buffer) (hbatch : after.batch = state.batch)
    (henqueued : after.enqueued = state.enqueued) (hsettled : after.settled = state.settled)
    (hdropped : after.dropped = state.dropped)
    (hsubmissions : after.submissions = state.submissions)
    (hdrains : after.drains = state.drains) : Flows after where
  flushing := by
    rw [hflushing, hflows.flushing]
    exact decide_eq_decide.mpr (not_congr hplace.symm)
  unsettled := by rw [hunsettled, hflushing, hflows.unsettled]
  idle := by
    rw [hbatch]
    exact fun hidle => hflows.idle (hplace.mp hidle)
  ids := by
    rw [henqueued]
    exact hflows.ids
  parts := by
    rw [hbuffer, hbatch, hsettled, hdropped, henqueued]
    exact hflows.parts
  submitted := by
    rw [hsubmissions, hsettled, hbatch]
    exact hflows.submitted
  items := by
    rw [hsubmissions]
    exact hflows.items
  drains := by
    rw [hdrains]
    exact hflows.drains

omit [DecidableEq Key] in
/-- Drains are resolved with an empty buffer and no flush. -/
theorem Flows.resolveDrains (hflows : Flows state) (hbuffer : state.buffer = [])
    (hidle : state.flushing = false) (waiters : ℕ) :
    Flows (state.resolveDrains waiters) where
  flushing := hflows.flushing
  unsettled := hflows.unsettled
  idle := hflows.idle
  ids := hflows.ids
  parts := hflows.parts
  submitted := hflows.submitted
  items := hflows.items
  drains := by
    intro drain hdrain
    cases List.mem_append.mp hdrain with
    | inl hold => exact hflows.drains drain hold
    | inr hnew =>
        rw [List.eq_of_mem_replicate hnew, hbuffer, hflows.unsettled, hidle]
        exact ⟨rfl, rfl⟩

omit [DecidableEq Key] in
theorem Flows.maybeSettleDrain (hflows : Flows state) : Flows state.maybeSettleDrain := by
  unfold Receiver.maybeSettleDrain
  split
  · rename_i hempty
    simp only [Bool.and_eq_true, List.isEmpty_iff, Bool.not_eq_true'] at hempty
    exact (hflows.resolveDrains hempty.1 hempty.2 state.drainWaiters).same Iff.rfl rfl rfl rfl
      rfl rfl rfl rfl rfl rfl
  · exact hflows

omit [DecidableEq Key] in
/-- A flush takes the whole buffer, where no batch is in flight. -/
theorem Flows.flush (hflows : Flows state) (script : ReceiveScript Key) :
    Flows (state.flush script) := by
  unfold Receiver.flush
  split
  · exact hflows.maybeSettleDrain
  · rename_i hbusy
    simp only [Bool.or_eq_true, not_or, Bool.not_eq_true] at hbusy
    have hidle : state.place = .idle := by
      by_contra hplace
      have hflushing := hflows.flushing
      rw [hbusy.1] at hflushing
      exact absurd hflushing (by simp [hplace])
    have hnone := hflows.idle hidle
    have hparts := hflows.parts
    have hsubmitted := hflows.submitted
    rw [hnone, List.append_nil] at hparts hsubmitted
    exact
      { flushing := by simp
        unsettled := by
          change state.unsettled + 1 = 1
          rw [hflows.unsettled, hbusy.1]
          rfl
        idle := by
          intro hnot
          cases hnot
        ids := hflows.ids
        parts := hparts
        submitted := by
          change (state.submissions ++ [_]).flatMap Submission.scans = _
          rw [List.flatMap_append, hsubmitted]
          simp
        items := by
          intro submission hsubmission
          cases List.mem_append.mp hsubmission with
          | inl hold => exact hflows.items submission hold
          | inr hnew =>
              rw [List.mem_singleton.mp hnew]
              exact aggregateReceiveBatch_eq _
        drains := hflows.drains }

theorem Flows.push (hflows : Flows state) (key : Key) (payload : ReceivePayload) :
    Flows (state.push key payload) :=
  { hflows with
    ids := by
      change (state.enqueued ++ [_]).map Scan.id = List.range (state.enqueued ++ [_]).length
      rw [List.map_append, hflows.ids, List.length_append, List.length_singleton, List.range_succ]
      rfl
    parts := by
      let scan : Scan Key := ⟨state.enqueued.length, key, payload⟩
      have hjoin : ∀ buffer : List (Scan Key),
          buffer ++ state.batch ++ state.settled ++ state.dropped =
            buffer ++ (state.batch ++ state.settled ++ state.dropped) := by
        intro buffer
        simp only [List.append_assoc]
      have hparts := hflows.parts
      rw [hjoin] at hparts
      change (state.buffer ++ [scan] ++ state.batch ++ state.settled ++ state.dropped).Perm
        (state.enqueued ++ [scan])
      rw [hjoin, List.append_assoc]
      apply (List.perm_append_comm.append_left state.buffer).trans
      rw [← List.append_assoc]
      exact hparts.append_right [scan] }

theorem Flows.enqueue (hflows : Flows state) (key : Key) (payload : ReceivePayload)
    (script : ReceiveScript Key) : Flows (state.enqueue key payload script) := by
  have hpushed := hflows.push key payload
  unfold Receiver.enqueue Receiver.scheduleFlush
  split
  · exact hpushed.flush script
  · exact hpushed.same Iff.rfl rfl rfl rfl rfl rfl rfl rfl rfl rfl

omit [DecidableEq Key] in
theorem Flows.drain (hflows : Flows state) (script : ReceiveScript Key) :
    Flows (state.drain script) := by
  unfold Receiver.drain
  split
  · rename_i hempty
    simp only [Bool.and_eq_true, List.isEmpty_iff, Bool.not_eq_true'] at hempty
    exact hflows.resolveDrains hempty.1 hempty.2 1
  · apply Flows.flush
    exact hflows.same Iff.rfl rfl rfl rfl rfl rfl rfl rfl rfl rfl

omit [DecidableEq Key] in
theorem Flows.reset (hflows : Flows state) : Flows state.reset :=
  { hflows with
    parts := by
      have hparts := hflows.parts
      change ([] ++ state.batch ++ state.settled ++ (state.dropped ++ state.buffer)).Perm _
      apply List.Perm.trans _ hparts
      rw [List.nil_append, ← List.append_assoc]
      apply List.perm_append_comm.trans
      simp only [List.append_assoc]
      exact List.Perm.refl _ }

theorem Flows.act (hflows : Flows state) (script : ReceiveScript Key)
    (action : ReceiveAction Key) : Flows (state.act script action) := by
  cases action with
  | enqueue key payload => exact hflows.enqueue key payload script
  | drain => exact hflows.drain script
  | reset => exact hflows.reset

/-- The scans of a batch that has settled join the settled ones. -/
theorem Flows.settleBatch (hflows : Flows state) (hplace : state.place ≠ .idle) :
    Flows state.settleBatch where
  flushing := by
    change false = decide (FlushPlace.idle ≠ .idle)
    simp
  unsettled := by
    change state.unsettled - 1 = 0
    rw [hflows.unsettled, hflows.flushing, decide_eq_true hplace]
    rfl
  idle := fun _ => rfl
  ids := hflows.ids
  parts := by
    have hparts := hflows.parts
    change (state.buffer ++ [] ++ (state.settled ++ state.batch) ++ state.dropped).Perm _
    apply List.Perm.trans _ hparts
    rw [List.append_nil]
    simp only [List.append_assoc]
    apply List.Perm.append_left
    simp only [← List.append_assoc]
    exact List.perm_append_comm.append_right _
  submitted := by
    change state.submissions.flatMap Submission.scans = (state.settled ++ state.batch) ++ []
    rw [List.append_nil]
    exact hflows.submitted
  items := hflows.items
  drains := hflows.drains

theorem Flows.runThread (hflows : Flows state) (script : ReceiveScript Key) :
    Flows (state.runThread script) := by
  have hscript : ∀ rest, Flows { state with script := rest } := fun _ =>
    hflows.same Iff.rfl rfl rfl rfl rfl rfl rfl rfl rfl rfl
  have hjob : ∀ job, Flows { state with job := job } := fun _ =>
    hflows.same Iff.rfl rfl rfl rfl rfl rfl rfl rfl rfl rfl
  have hmoves : ∀ {after : Receiver Key} (hat : state.place ≠ .idle)
      (hafter : after.place ≠ .idle), after.flushing = state.flushing →
        after.unsettled = state.unsettled → after.buffer = state.buffer →
          after.batch = state.batch → after.enqueued = state.enqueued →
            after.settled = state.settled → after.dropped = state.dropped →
              after.submissions = state.submissions → after.drains = state.drains →
                Flows after :=
    fun hat hafter => hflows.same (iff_of_false hafter hat)
  unfold Receiver.runThread
  split
  · exact (hscript _).act script _
  · exact (hscript _).act script _
  · exact (hscript _).act script _
  · rename_i hplace _
    exact hmoves (by rw [hplace]; simp) (by simp [Receiver.reportError]) rfl rfl rfl rfl rfl
      rfl rfl rfl rfl
  · rename_i hplace _
    exact hmoves (by rw [hplace]; simp) (by simp) rfl rfl rfl rfl rfl rfl rfl rfl rfl
  · rename_i hplace _
    exact hmoves (by rw [hplace]; simp) (by simp [Receiver.reportError]) rfl rfl rfl rfl rfl
      rfl rfl rfl rfl
  · rename_i hplace _
    exact hmoves (by rw [hplace]; simp) (by simp) rfl rfl rfl rfl rfl rfl rfl rfl rfl
  · rename_i hplace _
    exact hmoves (by rw [hplace]; simp) (by simp) rfl rfl rfl rfl rfl rfl rfl rfl rfl
  · rename_i hplace
    have hsettled := hflows.settleBatch (by rw [hplace]; simp)
    unfold Receiver.finish
    split
    · exact hsettled.maybeSettleDrain
    · exact hsettled.flush script
  · exact (hjob _).act script _
  · exact hjob none

theorem Flows.serve (hflows : Flows state) (event : ReceiveEvent Key) :
    Flows (state.serve event) := by
  cases event with
  | job actions =>
      rw [Receiver.serve]
      split
      · exact hflows.same Iff.rfl rfl rfl rfl rfl rfl rfl rfl rfl rfl
      · exact hflows
  | timer script =>
      rw [Receiver.serve]
      split
      · apply Flows.flush
        exact hflows.same Iff.rfl rfl rfl rfl rfl rfl rfl rfl rfl rfl
      · exact hflows
  | settle resolved script =>
      rw [Receiver.serve]
      split
      · rename_i hready
        simp only [Bool.and_eq_true, decide_eq_true_eq] at hready
        have hat : state.place ≠ .idle := by
          rw [hready.2]
          simp
        unfold Receiver.settle
        split
        · exact hflows.same (iff_of_false (by simp) hat) rfl rfl rfl rfl rfl rfl rfl rfl rfl
        · exact hflows.same (iff_of_false (by simp [Receiver.reportError]) hat) rfl rfl rfl
            rfl rfl rfl rfl rfl rfl
      · exact hflows
  | render batchMax => exact hflows.same Iff.rfl rfl rfl rfl rfl rfl rfl rfl rfl rfl
  | run script =>
      rw [Receiver.serve]
      split
      · exact hflows.runThread script
      · exact hflows

end Flowing

/-! ## Counts and reports -/

/-- A scan of the key that was enqueued after the last reset. -/
def since (state : Receiver Key) (key : Key) (scan : Scan Key) : Bool :=
  scan.key = key && state.resetAt ≤ scan.id

/-- How many scans of the key, enqueued since the last reset, are not settled. -/
def unsettledSince (state : Receiver Key) (key : Key) : ℕ :=
  (state.buffer ++ state.batch).countP (state.since key)

/-- No submit that resolves has an `onConfirm` that throws, and no batch settles across a
reset while a newer scan of one of its keys is buffered. -/
def Orderly (state : Receiver Key) : ReceiveEvent Key → Prop
  | .settle resolved script =>
      state.place = .inFlight → resolved = true → script.throws = false
  | .run _ =>
      state.place = .finishing → ∀ old ∈ state.batch, old.id < state.resetAt →
        ∀ scan ∈ state.buffer, scan.key ≠ old.key
  | _ => True

instance (state : Receiver Key) (event : ReceiveEvent Key) : Decidable (state.Orderly event) := by
  unfold Orderly
  split <;> infer_instance

/-- The counts are of what is buffered or in flight since the last reset; a batch is all
from before it or all from after it. -/
structure Counted (state : Receiver Key) : Prop where
  resetAt : state.resetAt ≤ state.enqueued.length
  below : ∀ scan ∈ state.buffer ++ state.batch, scan.id < state.enqueued.length
  buffered : ∀ scan ∈ state.buffer, state.resetAt ≤ scan.id
  whole : (∀ scan ∈ state.batch, state.resetAt ≤ scan.id) ∨
    ∀ scan ∈ state.batch, scan.id < state.resetAt
  pending : ∀ key, state.pendingRef key = state.unsettledSince key

section Counting

variable {state after : Receiver Key} {script : ReceiveScript Key}

theorem Counted.same (hcounted : Counted state) (hbuffer : after.buffer = state.buffer)
    (hbatch : after.batch = state.batch) (henqueued : after.enqueued = state.enqueued)
    (hresetAt : after.resetAt = state.resetAt)
    (hpending : after.pendingRef = state.pendingRef) : Counted after where
  resetAt := by
    rw [hresetAt, henqueued]
    exact hcounted.resetAt
  below := by
    rw [hbuffer, hbatch, henqueued]
    exact hcounted.below
  buffered := by
    rw [hbuffer, hresetAt]
    exact hcounted.buffered
  whole := by
    rw [hbatch, hresetAt]
    exact hcounted.whole
  pending := by
    intro key
    have hsince : after.since key = state.since key := by
      funext scan
      rw [since, since, hresetAt]
    rw [unsettledSince, hpending, hbuffer, hbatch, hsince]
    exact hcounted.pending key

theorem Counted.maybeSettleDrain (hcounted : Counted state) : Counted state.maybeSettleDrain := by
  unfold Receiver.maybeSettleDrain
  split
  · exact hcounted.same rfl rfl rfl rfl rfl
  · exact hcounted

/-- The buffer becomes the batch, and counts as before. -/
theorem Counted.flush (hcounted : Counted state) (hflows : Flows state)
    (script : ReceiveScript Key) : Counted (state.flush script) := by
  unfold Receiver.flush
  split
  · exact hcounted.maybeSettleDrain
  · rename_i hbusy
    simp only [Bool.or_eq_true, not_or, Bool.not_eq_true] at hbusy
    have hidle : state.place = .idle := by
      by_contra hplace
      have hflushing := hflows.flushing
      rw [hbusy.1] at hflushing
      exact absurd hflushing (by simp [hplace])
    have hnone := hflows.idle hidle
    have hbelow := hcounted.below
    have hpending := hcounted.pending
    simp only [unsettledSince, hnone, List.append_nil] at hbelow hpending
    exact
      { resetAt := hcounted.resetAt
        below := hbelow
        buffered := by
          intro scan hscan
          cases hscan
        whole := Or.inl hcounted.buffered
        pending := hpending }

theorem Counted.push (hcounted : Counted state) (key : Key) (payload : ReceivePayload) :
    Counted (state.push key payload) where
  resetAt := Nat.le_trans hcounted.resetAt (by simp [Receiver.push])
  below := by
    intro scan hscan
    change scan ∈ (state.buffer ++ [_]) ++ state.batch at hscan
    change scan.id < (state.enqueued ++ [_]).length
    rw [List.length_append, List.length_singleton]
    rw [List.append_assoc, List.mem_append, List.mem_append] at hscan
    rcases hscan with hbuffer | hnew | hbatch
    · exact Nat.lt_succ_of_lt (hcounted.below scan (List.mem_append_left _ hbuffer))
    · rw [List.mem_singleton.mp hnew]
      exact Nat.lt_succ_self _
    · exact Nat.lt_succ_of_lt (hcounted.below scan (List.mem_append_right _ hbatch))
  buffered := by
    intro scan hscan
    cases List.mem_append.mp hscan with
    | inl hold => exact hcounted.buffered scan hold
    | inr hnew =>
        rw [List.mem_singleton.mp hnew]
        exact hcounted.resetAt
  whole := hcounted.whole
  pending := by
    intro other
    have hpending := hcounted.pending other
    change Function.update state.pendingRef key (state.pendingRef key + 1) other =
      (state.buffer ++ [_] ++ state.batch).countP (state.since other)
    rw [unsettledSince, List.countP_append] at hpending
    rw [List.countP_append, List.countP_append, List.countP_singleton]
    by_cases hother : other = key
    · subst hother
      rw [Function.update_self, hpending, since, if_pos (by simpa using hcounted.resetAt)]
      omega
    · rw [Function.update_of_ne hother, hpending, since,
        if_neg (by simp [Ne.symm hother])]
      omega

theorem Counted.reset (hcounted : Counted state) : Counted state.reset where
  resetAt := Nat.le_refl _
  below := by
    intro scan hscan
    exact hcounted.below scan (List.mem_append_right _ hscan)
  buffered := by
    intro scan hscan
    cases hscan
  whole := Or.inr fun scan hscan => hcounted.below scan (List.mem_append_right _ hscan)
  pending := by
    intro key
    symm
    change ([] ++ state.batch).countP (state.reset.since key) = 0
    rw [List.countP_eq_zero]
    intro scan hscan
    have hbelow := hcounted.below scan (List.mem_append_right _ hscan)
    simp only [since, Bool.and_eq_true, decide_eq_true_eq, not_and]
    intro _
    exact Nat.not_le.mpr hbelow

theorem Counted.act (hcounted : Counted state) (hflows : Flows state)
    (script : ReceiveScript Key) (action : ReceiveAction Key) :
    Counted (state.act script action) := by
  cases action with
  | enqueue key payload =>
      have hpushed := hcounted.push key payload
      rw [Receiver.act, Receiver.enqueue, scheduleFlush]
      split
      · exact hpushed.flush (hflows.push key payload) script
      · exact hpushed.same rfl rfl rfl rfl rfl
  | drain =>
      rw [Receiver.act, Receiver.drain]
      split
      · exact hcounted.same rfl rfl rfl rfl rfl
      · apply Counted.flush
        · exact hcounted.same rfl rfl rfl rfl rfl
        · exact hflows.same Iff.rfl rfl rfl rfl rfl rfl rfl rfl rfl rfl
  | reset => exact hcounted.reset

theorem unbump_apply (batch : List (Scan Key)) (pendingRef : Key → ℕ) (key : Key) :
    unbump pendingRef batch key =
      pendingRef key - batch.countP (fun scan => scan.key = key) := by
  induction batch generalizing pendingRef with
  | nil => rfl
  | cons scan rest ih =>
      rw [unbump, List.foldl_cons, ← unbump, ih, List.countP_cons]
      by_cases hkey : key = scan.key
      · rw [hkey, Function.update_self]
        simp only [decide_true, if_true]
        omega
      · rw [Function.update_of_ne hkey, if_neg (by simpa using Ne.symm hkey), Nat.add_zero]

/-- A batch that has settled is taken back from the counts it is part of. -/
theorem Counted.settleBatch (hcounted : Counted state)
    (horderly : ∀ old ∈ state.batch, old.id < state.resetAt →
      ∀ scan ∈ state.buffer, scan.key ≠ old.key) : Counted state.settleBatch where
  resetAt := hcounted.resetAt
  below := by
    intro scan hscan
    apply hcounted.below scan
    apply List.mem_append_left
    simpa [Receiver.settleBatch] using hscan
  buffered := hcounted.buffered
  whole := by
    left
    intro scan hscan
    cases hscan
  pending := by
    intro key
    have hpending := hcounted.pending key
    rw [unsettledSince, List.countP_append] at hpending
    change unbump state.pendingRef state.batch key = (state.buffer ++ []).countP (state.since key)
    rw [unbump_apply, hpending, List.append_nil]
    cases hcounted.whole with
    | inl hnew =>
        have hbatch : state.batch.countP (state.since key) =
            state.batch.countP fun scan => scan.key = key := by
          apply List.countP_congr
          intro scan hscan
          simp [since, hnew scan hscan]
        omega
    | inr hold =>
        have hbatch : state.batch.countP (state.since key) = 0 := by
          rw [List.countP_eq_zero]
          intro scan hscan
          have hbelow := hold scan hscan
          simp only [since, Bool.and_eq_true, decide_eq_true_eq, not_and]
          intro _
          exact Nat.not_le.mpr hbelow
        by_cases hkey : ∃ old ∈ state.batch, old.key = key
        · obtain ⟨old, hmem, hkey⟩ := hkey
          have hbuffer : state.buffer.countP (state.since key) = 0 := by
            rw [List.countP_eq_zero]
            intro scan hscan
            have hne := horderly old hmem (hold old hmem) scan hscan
            simp [since, hkey ▸ hne]
          omega
        · have hnone : state.batch.countP (fun scan => scan.key = key) = 0 := by
            rw [List.countP_eq_zero]
            intro scan hscan hsame
            exact hkey ⟨scan, hscan, of_decide_eq_true hsame⟩
          omega

theorem Counted.runThread (hcounted : Counted state) (hflows : Flows state)
    (script : ReceiveScript Key) (horderly : state.Orderly (.run script)) :
    Counted (state.runThread script) := by
  have hacts : ∀ {after : Receiver Key} action, after.buffer = state.buffer →
      after.batch = state.batch → after.enqueued = state.enqueued →
        after.resetAt = state.resetAt → after.pendingRef = state.pendingRef →
          Flows after → Counted (after.act script action) :=
    fun action hbuffer hbatch henqueued hresetAt hpending hafter =>
      (hcounted.same hbuffer hbatch henqueued hresetAt hpending).act hafter script action
  have hscript : ∀ rest, Flows { state with script := rest } := fun _ =>
    hflows.same Iff.rfl rfl rfl rfl rfl rfl rfl rfl rfl rfl
  have hjob : ∀ job, Flows { state with job := job } := fun _ =>
    hflows.same Iff.rfl rfl rfl rfl rfl rfl rfl rfl rfl rfl
  unfold Receiver.runThread
  split
  · exact hacts _ rfl rfl rfl rfl rfl (hscript _)
  · exact hacts _ rfl rfl rfl rfl rfl (hscript _)
  · exact hacts _ rfl rfl rfl rfl rfl (hscript _)
  · exact hcounted.same rfl rfl rfl rfl rfl
  · exact hcounted.same rfl rfl rfl rfl rfl
  · exact hcounted.same rfl rfl rfl rfl rfl
  · exact hcounted.same rfl rfl rfl rfl rfl
  · exact hcounted.same rfl rfl rfl rfl rfl
  · rename_i hplace
    have hsettled := hcounted.settleBatch (horderly hplace)
    unfold Receiver.finish
    split
    · exact hsettled.maybeSettleDrain
    · exact hsettled.flush (hflows.settleBatch (by rw [hplace]; simp)) script
  · exact hacts _ rfl rfl rfl rfl rfl (hjob _)
  · exact hcounted.same rfl rfl rfl rfl rfl

theorem Counted.serve (hcounted : Counted state) (hflows : Flows state)
    (event : ReceiveEvent Key) (horderly : state.Orderly event) :
    Counted (state.serve event) := by
  cases event with
  | job actions =>
      rw [Receiver.serve]
      split
      · exact hcounted.same rfl rfl rfl rfl rfl
      · exact hcounted
  | timer script =>
      rw [Receiver.serve]
      split
      · apply Counted.flush
        · exact hcounted.same rfl rfl rfl rfl rfl
        · exact hflows.same Iff.rfl rfl rfl rfl rfl rfl rfl rfl rfl rfl
      · exact hcounted
  | settle resolved script =>
      rw [Receiver.serve]
      split
      · unfold Receiver.settle
        split
        · exact hcounted.same rfl rfl rfl rfl rfl
        · exact hcounted.same rfl rfl rfl rfl rfl
      · exact hcounted
  | render batchMax => exact hcounted.same rfl rfl rfl rfl rfl
  | run script =>
      rw [Receiver.serve]
      split
      · exact hcounted.runThread hflows script horderly
      · exact hcounted

end Counting

/-- The report of the running flush is as its place says, and the others are of one
callback each. -/
structure Reported (state : Receiver Key) : Prop where
  confirming : ∀ throws, state.place = .confirming throws →
    throws = false ∧ state.report = ⟨true, 1, 0⟩
  reporting : state.place = .reporting → state.report = ⟨false, 0, 1⟩
  finishing : state.place = .finishing → state.report.ReportedOnce
  reports : ∀ report ∈ state.reports, report.ReportedOnce

section Reporting

variable {state after : Receiver Key} {script : ReceiveScript Key}

/-- The flush is where it was, or a new one has been started. -/
def Follows (before after : FlushPlace) : Prop :=
  after = before ∨ ∃ throws, after = .submitting throws

omit [DecidableEq Key] in
theorem Reported.follow (hreported : Reported state) (hplace : Follows state.place after.place)
    (hreport : after.report = state.report) (hreports : after.reports = state.reports) :
    Reported after where
  confirming := by
    intro throws hat
    rw [hreport]
    cases hplace with
    | inl hsame => exact hreported.confirming throws (hsame ▸ hat)
    | inr hnew =>
        obtain ⟨again, hnew⟩ := hnew
        rw [hnew] at hat
        cases hat
  reporting := by
    intro hat
    rw [hreport]
    cases hplace with
    | inl hsame => exact hreported.reporting (hsame ▸ hat)
    | inr hnew =>
        obtain ⟨again, hnew⟩ := hnew
        rw [hnew] at hat
        cases hat
  finishing := by
    intro hat
    rw [hreport]
    cases hplace with
    | inl hsame => exact hreported.finishing (hsame ▸ hat)
    | inr hnew =>
        obtain ⟨again, hnew⟩ := hnew
        rw [hnew] at hat
        cases hat
  reports := by
    rw [hreports]
    exact hreported.reports

omit [DecidableEq Key] in
/-- A place at which nothing has been reported yet, or all has. -/
theorem Reported.away (hreports : ∀ report ∈ after.reports, report.ReportedOnce)
    (haway : after.place = .idle ∨ (∃ throws, after.place = .submitting throws) ∨
      after.place = .inFlight) : Reported after where
  confirming := by
    intro throws hat
    rw [hat] at haway
    rcases haway with hnot | ⟨_, hnot⟩ | hnot <;> cases hnot
  reporting := by
    intro hat
    rw [hat] at haway
    rcases haway with hnot | ⟨_, hnot⟩ | hnot <;> cases hnot
  finishing := by
    intro hat
    rw [hat] at haway
    rcases haway with hnot | ⟨_, hnot⟩ | hnot <;> cases hnot
  reports := hreports

omit [DecidableEq Key] in
theorem Reported.maybeSettleDrain (hreported : Reported state) :
    Reported state.maybeSettleDrain := by
  unfold Receiver.maybeSettleDrain
  split
  · exact hreported.follow (Or.inl rfl) rfl rfl
  · exact hreported

omit [DecidableEq Key] in
theorem Reported.flush (hreported : Reported state) (script : ReceiveScript Key) :
    Reported (state.flush script) := by
  unfold Receiver.flush
  split
  · exact hreported.maybeSettleDrain
  · exact hreported.follow (Or.inr ⟨script.throws, rfl⟩) rfl rfl

theorem Reported.act (hreported : Reported state) (script : ReceiveScript Key)
    (action : ReceiveAction Key) : Reported (state.act script action) := by
  cases action with
  | enqueue key payload =>
      have hpushed : Reported (state.push key payload) := hreported.follow (Or.inl rfl) rfl rfl
      rw [Receiver.act, Receiver.enqueue, scheduleFlush]
      split
      · exact hpushed.flush script
      · exact hpushed.follow (Or.inl rfl) rfl rfl
  | drain =>
      rw [Receiver.act, Receiver.drain]
      split
      · exact hreported.follow (Or.inl rfl) rfl rfl
      · apply Reported.flush
        exact hreported.follow (Or.inl rfl) rfl rfl
  | reset => exact hreported.follow (Or.inl rfl) rfl rfl

omit [DecidableEq Key] in
/-- `onError` is called, and with nothing reported before. -/
theorem Reported.reportError (hreported : Reported state)
    (hnone : state.report = ⟨false, 0, 0⟩) (script : ReceiveScript Key) :
    Reported (state.reportError script) where
  confirming := by
    intro throws hnot
    cases hnot
  reporting := by
    intro _
    change { state.report with errors := state.report.errors + 1 } = _
    rw [hnone]
  finishing := by
    intro hnot
    cases hnot
  reports := hreported.reports

omit [DecidableEq Key] in
theorem Reported.finished (hreported : Reported state) (honce : state.report.ReportedOnce) :
    Reported { state with place := .finishing } where
  confirming := by
    intro throws hnot
    cases hnot
  reporting := by
    intro hnot
    cases hnot
  finishing := fun _ => honce
  reports := hreported.reports

theorem Reported.settleBatch (hreported : Reported state)
    (honce : state.report.ReportedOnce) : Reported state.settleBatch := by
  apply Reported.away _ (Or.inl rfl)
  intro report hreport
  cases List.mem_append.mp hreport with
  | inl hold => exact hreported.reports report hold
  | inr hnew =>
      rw [List.mem_singleton.mp hnew]
      exact honce

theorem Reported.runThread (hreported : Reported state) (script : ReceiveScript Key) :
    Reported (state.runThread script) := by
  have hscript : ∀ rest, Reported { state with script := rest } := fun _ =>
    hreported.follow (Or.inl rfl) rfl rfl
  have hjob : ∀ job, Reported { state with job := job } := fun _ =>
    hreported.follow (Or.inl rfl) rfl rfl
  unfold Receiver.runThread
  split
  · exact (hscript _).act script _
  · exact (hscript _).act script _
  · exact (hscript _).act script _
  · rename_i hplace _
    have hcleared : Reported { state with report := ⟨false, 0, 0⟩ } :=
      Reported.away hreported.reports (Or.inr (Or.inl ⟨true, hplace⟩))
    exact hcleared.reportError rfl script
  · exact Reported.away hreported.reports (Or.inr (Or.inr rfl))
  · rename_i hplace _
    cases (hreported.confirming true hplace).1
  · rename_i hplace _
    apply hreported.finished
    rw [(hreported.confirming false hplace).2]
    exact ⟨rfl, by decide⟩
  · rename_i hplace _
    apply hreported.finished
    rw [hreported.reporting hplace]
    exact ⟨rfl, by decide⟩
  · rename_i hplace
    have hsettled := hreported.settleBatch (hreported.finishing hplace)
    unfold Receiver.finish
    split
    · exact hsettled.maybeSettleDrain
    · exact hsettled.flush script
  · exact (hjob _).act script _
  · exact hjob none

theorem Reported.serve (hreported : Reported state) (event : ReceiveEvent Key)
    (horderly : state.Orderly event) : Reported (state.serve event) := by
  cases event with
  | job actions =>
      rw [Receiver.serve]
      split
      · exact hreported.follow (Or.inl rfl) rfl rfl
      · exact hreported
  | timer script =>
      rw [Receiver.serve]
      split
      · apply Reported.flush
        exact hreported.follow (Or.inl rfl) rfl rfl
      · exact hreported
  | settle resolved script =>
      rw [Receiver.serve]
      split
      · rename_i hready
        simp only [Bool.and_eq_true, decide_eq_true_eq] at hready
        unfold Receiver.settle
        split
        · rename_i hresolved
          exact
            { confirming := by
                intro throws hat
                have hthrows : script.throws = throws := FlushPlace.confirming.inj hat
                rw [← hthrows]
                exact ⟨horderly hready.2 hresolved, rfl⟩
              reporting := by
                intro hnot
                cases hnot
              finishing := by
                intro hnot
                cases hnot
              reports := hreported.reports }
        · have hcleared : Reported
              { state with job := some [], report := ⟨false, 0, 0⟩ } :=
            Reported.away hreported.reports (Or.inr (Or.inr hready.2))
          exact hcleared.reportError rfl script
      · exact hreported
  | render batchMax => exact hreported.follow (Or.inl rfl) rfl rfl
  | run script =>
      rw [Receiver.serve]
      split
      · exact hreported.runThread script
      · exact hreported

end Reporting

end Receiver

/-! ## Every run -/

section Runs

variable [DecidableEq Key]

omit [DecidableEq Key] in
theorem flows_mount (batchMax : ℕ) : (Receiver.mount batchMax : Receiver Key).Flows where
  flushing := rfl
  unsettled := rfl
  idle := fun _ => rfl
  ids := rfl
  parts := List.Perm.refl _
  submitted := rfl
  items := by
    intro submission hsubmission
    cases hsubmission
  drains := by
    intro drain hdrain
    cases hdrain

theorem counted_mount (batchMax : ℕ) : (Receiver.mount batchMax : Receiver Key).Counted where
  resetAt := Nat.le_refl _
  below := by
    intro scan hscan
    cases hscan
  buffered := by
    intro scan hscan
    cases hscan
  whole := by
    left
    intro scan hscan
    cases hscan
  pending := fun _ => rfl

omit [DecidableEq Key] in
theorem reported_mount (batchMax : ℕ) : (Receiver.mount batchMax : Receiver Key).Reported := by
  apply Receiver.Reported.away _ (Or.inl rfl)
  intro report hreport
  cases hreport

/-- In every run each scan is in one place, one submit is in flight at most, each batch is
submitted as the counts of the scans it took, and drains resolve with nothing left.  Where
no batch settles across a reset beside newer scans of its keys, and no `onConfirm` throws,
each batch is reported once and the counts are of the scans that are not settled. -/
theorem batched_receive_keeps_scans (batchMax : ℕ) (events : List (ReceiveEvent Key)) :
    let final := run Receiver.serve (Receiver.mount batchMax) events
    (final.enqueued.map Scan.id = List.range final.enqueued.length ∧
      (final.buffer ++ final.batch ++ final.settled ++ final.dropped).Perm final.enqueued) ∧
    (final.unsettled ≤ 1 ∧ (final.unsettled = 0 → final.batch = [])) ∧
    (final.submissions.flatMap Submission.scans = final.settled ++ final.batch ∧
      ∀ submission ∈ final.submissions,
        submission.items = lineCounts (submission.scans.map Scan.payload)) ∧
    (∀ drain ∈ final.drains, drain.buffered = 0 ∧ drain.inFlight = 0) ∧
    (Along Receiver.serve Receiver.Orderly (Receiver.mount batchMax) events →
      (∀ report ∈ final.reports, report.ReportedOnce) ∧
        ∀ key, final.pendingRef key = final.unsettledSince key) := by
  intro final
  have hflowing : ∀ (state : Receiver Key) event, state.Flows → True →
      (state.serve event).Flows :=
    fun state event hflows _ => hflows.serve event
  have hflows : final.Flows :=
    run_invariant hflowing (flows_mount batchMax) (along_forall (fun _ _ => trivial) _ events)
  refine ⟨⟨hflows.ids, hflows.parts⟩, ⟨?_, ?_⟩, ⟨hflows.submitted, hflows.items⟩, hflows.drains, ?_⟩
  · rw [hflows.unsettled]
    exact Bool.toNat_le _
  · intro hnone
    apply hflows.idle
    by_contra hplace
    rw [hflows.unsettled, hflows.flushing, decide_eq_true hplace] at hnone
    cases hnone
  · intro horderly
    have hstep : ∀ (state : Receiver Key) event,
        state.Flows ∧ state.Counted ∧ state.Reported → state.Orderly event →
          (state.serve event).Flows ∧ (state.serve event).Counted ∧
            (state.serve event).Reported := by
      rintro state event ⟨hflows, hcounted, hreported⟩ hclear
      exact ⟨hflows.serve event, hcounted.serve hflows event hclear, hreported.serve event hclear⟩
    obtain ⟨_, hcounted, hreported⟩ := run_invariant hstep
      ⟨flows_mount batchMax, counted_mount batchMax, reported_mount batchMax⟩ horderly
    exact ⟨hreported.reports, hcounted.pending⟩

end Runs

namespace TwoScans

def quiet : ReceiveScript ℕ := ⟨[], false⟩

def scan : ReceiveAction ℕ := .enqueue 7 ⟨7, 3⟩

/-- The thread runs to the end of a job. -/
def finish (count : ℕ) : List (ReceiveEvent ℕ) := List.replicate count (.run quiet)

/-- A scan is in flight when the hook is reset and the item is scanned again. -/
def resetInFlight : List (ReceiveEvent ℕ) :=
  [.job [scan]] ++ finish 2 ++ [.timer quiet] ++ finish 2 ++
    [.job [.reset, scan]] ++ finish 3 ++ [.settle true quiet] ++ finish 3

/-- The batch has settled when the item is scanned again, and its submit rejects. -/
def resetBetween : List (ReceiveEvent ℕ) :=
  [.job [scan]] ++ finish 2 ++ [.timer quiet] ++ finish 2 ++ [.settle true quiet] ++
    finish 4 ++ [.job [scan, .reset, scan]] ++ finish 4 ++ [.timer quiet] ++ finish 2 ++
    [.settle false quiet] ++ finish 1

/-- The screen throws on the confirmation of a batch. -/
def confirmThrows : List (ReceiveEvent ℕ) :=
  [.job [scan]] ++ finish 2 ++ [.timer quiet] ++ finish 2 ++ [.settle true ⟨[], true⟩] ++ finish 4

end TwoScans

theorem batched_receive_keeps_scans_reset :
    let final := run Receiver.serve (Receiver.mount 20) TwoScans.resetBetween
    final.dropped.map Scan.id = [1] ∧ final.batch.map Scan.id = [2] ∧
      (∀ report ∈ final.reports, report.ReportedOnce) ∧
      final.pendingRef 7 = final.unsettledSince 7 := by
  have horderly : Along Receiver.serve Receiver.Orderly (Receiver.mount 20)
      TwoScans.resetBetween := by
    decide +kernel
  obtain ⟨hreports, hpending⟩ :=
    (batched_receive_keeps_scans 20 TwoScans.resetBetween).2.2.2.2 horderly
  exact ⟨by decide +kernel, by decide +kernel, hreports, hpending 7⟩

/-- A settled batch takes a newer scan of its key out of the counts, and an exception of
`onConfirm` has a confirmed batch reported as failed too. -/
theorem newer_scan_uncounted :
    let after := run Receiver.serve (Receiver.mount 20) TwoScans.resetInFlight
    let thrown := run Receiver.serve (Receiver.mount 20) TwoScans.confirmThrows
    (after.unsettledSince 7 = 1 ∧ after.pendingRef 7 = 0) ∧
      thrown.reports = [⟨true, 1, 1⟩] ∧ ∃ report ∈ thrown.reports, ¬ report.ReportedOnce := by
  refine ⟨⟨by decide +kernel, by decide +kernel⟩, by decide +kernel, ⟨true, 1, 1⟩,
    by decide +kernel, ?_⟩
  rintro ⟨hsum, _⟩
  cases hsum

end SentryWms.Mobile
