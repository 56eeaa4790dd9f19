import SentryWms.Events.Polling
import SentryWms.Relational.Table
import Mathlib.Logic.Function.Basic

/-!
# The webhook dispatcher

One worker a subscription delivers the events of the outbox.  A delivery cycle claims
the next pending delivery or makes one for the next fresh event, signs the request,
sends it and writes the result, with a commit after each of these.  A cycle that is
abandoned leaves its row in flight until a reaper flips it back.
-/

namespace SentryWms.Webhooks

open Relational SentryWms.Events

/-! ## Tables -/

inductive DeliveryStatus
  | pending
  | inFlight
  | succeeded
  | failed
  | dlq
  deriving DecidableEq, Repr

structure WebhookDelivery where
  deliveryId : ℕ
  subscriptionId : String
  eventId : ℕ
  attemptNumber : ℕ
  status : DeliveryStatus
  scheduledAt : ℕ
  attemptedAt : Option ℕ := none
  completedAt : Option ℕ := none
  httpStatus : Option ℕ := none
  responseTimeMs : Option ℕ := none
  errorKind : Option String := none
  errorDetail : Option String := none
  secretGeneration : ℕ := 1
  deriving DecidableEq, Repr

abbrev Deliveries := Table WebhookDelivery WebhookDelivery.deliveryId

/-- `SubscriptionFilter`: an absent list is no filter. -/
structure SubscriptionFilter where
  eventTypes : Option (List String) := none
  warehouseIds : Option (List ℕ) := none
  aggregateExternalIdAllowlist : Option (List String) := none
  deriving DecidableEq, Repr

inductive SubscriptionStatus
  | active
  | paused
  | revoked
  deriving DecidableEq, Repr

/-- A filter that does not parse is `none`. -/
structure WebhookSubscription where
  subscriptionId : String
  subscriptionFilter : Option SubscriptionFilter
  lastDeliveredEventId : ℕ
  status : SubscriptionStatus
  pauseReason : Option String
  pendingCeiling : ℕ
  dlqCeiling : ℕ
  deriving DecidableEq, Repr

/-- What a cycle holds between its commits: the claimed row, the subscription it read,
and whether the request is signed. -/
structure Cycle where
  deliveryId : ℕ
  eventId : ℕ
  attemptNumber : ℕ
  subscription : WebhookSubscription
  signed : Bool
  deriving DecidableEq, Repr

structure Dispatcher (Effect : Type*) where
  outbox : Outbox Effect
  subscriptions : List WebhookSubscription
  deliveries : Deliveries
  workers : String → Option Cycle

/-! ## Retries -/

/-- `RETRY_SCHEDULE_SECONDS`. -/
def retryScheduleSeconds : List ℕ := [1, 4, 15, 60, 300, 1800, 7200, 43200]

def maxAttempts : ℕ := 8

/-- A factor between 0.9 and 1.1. -/
structure Jitter where
  num : ℕ
  den : ℕ
  den_pos : 0 < den
  min : 9 * den ≤ 10 * num
  max : 10 * num ≤ 11 * den

/-- `retry_delay`, in seconds; `none` where it raises. -/
def retryDelay (nextAttemptNumber : ℕ) (jitter : Jitter) : Option ℕ :=
  if nextAttemptNumber < 2 ∨ maxAttempts < nextAttemptNumber then none
  else
    let base := retryScheduleSeconds.getD (nextAttemptNumber - 1) 0
    if base = 0 then some 0 else some (max 1 (base * jitter.num / jitter.den))

/-- There is a delay before every attempt but the first. -/
theorem retryDelay_ne_none {attemptNumber : ℕ} {jitter : Jitter}
    (hpos : 0 < attemptNumber) (hlt : attemptNumber < maxAttempts) :
    retryDelay (attemptNumber + 1) jitter ≠ none := by
  have hinside : ¬ (attemptNumber + 1 < 2 ∨ maxAttempts < attemptNumber + 1) := by omega
  rw [retryDelay, if_neg hinside]
  dsimp only
  split <;> exact Option.some_ne_none _

def isTerminalAttempt (attemptNumber : ℕ) : Bool := maxAttempts ≤ attemptNumber

/-- `_RETRYABLE_4XX_STATUS`. -/
def retryable4xxStatus : List ℕ := [408, 429]

def isPermanentFailure (errorKind : String) (httpStatus : Option ℕ) : Bool :=
  errorKind = "ssrf_rejected" ∨
    (errorKind = "4xx" ∧ ¬ httpStatus.any (fun code => code ∈ retryable4xxStatus))

/-! ## Selecting -/

def findSubscription? (subscriptions : List WebhookSubscription)
    (subscriptionId : String) : Option WebhookSubscription :=
  subscriptions.find? fun subscription => subscription.subscriptionId = subscriptionId

/-- `UPDATE webhook_subscriptions SET set WHERE subscription_id = :subscriptionId`. -/
def updateSubscription (subscriptionId : String)
    (set : WebhookSubscription → WebhookSubscription)
    (subscriptions : List WebhookSubscription) : List WebhookSubscription :=
  subscriptions.map fun subscription =>
    if subscription.subscriptionId = subscriptionId then set subscription
    else subscription

/-- `_build_filter_clauses`. -/
def matchesFilter (filter : SubscriptionFilter) (event : Events.IntegrationEvent) : Bool :=
  listAllows (filter.eventTypes.getD []) event.eventType ∧
    listAllows (filter.warehouseIds.getD []) event.warehouseId ∧
    listAllows (filter.aggregateExternalIdAllowlist.getD []) event.aggregateExternalId

/-- The deliveries of a subscription. -/
def deliveriesOf (subscriptionId : String) (deliveries : Deliveries) : List WebhookDelivery :=
  deliveries.select fun row => row.subscriptionId = subscriptionId

/-- `ORDER BY scheduled_at ASC, delivery_id ASC`. -/
def scheduledBefore (left right : WebhookDelivery) : Bool :=
  left.scheduledAt < right.scheduledAt ∨
    (left.scheduledAt = right.scheduledAt ∧ left.deliveryId ≤ right.deliveryId)

/-- `_select_next_pending`. -/
def selectNextPending (subscriptionId : String) (now : ℕ) (deliveries : Deliveries) :
    Option WebhookDelivery :=
  (((deliveriesOf subscriptionId deliveries).filter fun row =>
    row.status = .pending ∧ row.scheduledAt ≤ now).insertionSort fun left right =>
      scheduledBefore left right).head?

/-- `status IN ('pending', 'in_flight')`. -/
def nonTerminal (row : WebhookDelivery) : Bool := row.status = .pending ∨ row.status = .inFlight

/-- `_has_non_terminal_delivery`. -/
def hasNonTerminalDelivery (subscriptionId : String) (deliveries : Deliveries) : Bool :=
  (deliveriesOf subscriptionId deliveries).any nonTerminal

/-- The query of `_select_next_fresh_event`. -/
def freshEvent {Effect : Type*} (filter : SubscriptionFilter) (now cursor : ℕ)
    (outbox : Outbox Effect) : Option EventRow :=
  (Tail.readPage (matchesFilter filter) visibleAtBuffer now cursor 1 outbox).head?

/-! ## Pausing -/

/-- `UPDATE ... SET status = 'paused' WHERE status = 'active'`. -/
def pause (reason : String) (subscription : WebhookSubscription) : WebhookSubscription :=
  if subscription.status = .active then
    { subscription with status := .paused, pauseReason := some reason }
  else subscription

/-- `_maybe_auto_pause`. -/
def maybeAutoPause (subscription : WebhookSubscription) (afterTerminalDlq : Bool)
    (deliveries : Deliveries) (subscriptions : List WebhookSubscription) :
    List WebhookSubscription :=
  let rows := deliveriesOf subscription.subscriptionId deliveries
  if afterTerminalDlq then
    if (rows.countP fun row => row.status = .dlq) < subscription.dlqCeiling then
      subscriptions
    else
      updateSubscription subscription.subscriptionId (pause "dlq_ceiling") subscriptions
  else
    if rows.countP nonTerminal < subscription.pendingCeiling then subscriptions
    else
      updateSubscription subscription.subscriptionId (pause "pending_ceiling") subscriptions

/-- `SET last_delivered_event_id = :id ... AND last_delivered_event_id < :id`. -/
def advanceCursor (eventId : ℕ) (subscription : WebhookSubscription) : WebhookSubscription :=
  if subscription.lastDeliveredEventId < eventId then
    { subscription with lastDeliveredEventId := eventId }
  else subscription

/-! ## A delivery cycle -/

variable {Effect : Type*}

def setWorker (subscriptionId : String) (cycle : Option Cycle)
    (state : Dispatcher Effect) : Dispatcher Effect :=
  { state with workers := Function.update state.workers subscriptionId cycle }

/-- The row of a claimed delivery. -/
def claimedRow (now : ℕ) (row : WebhookDelivery) : WebhookDelivery :=
  { row with status := .inFlight, attemptedAt := some now }

/-- The flip to `in_flight`, which ends the first transaction of a cycle. -/
def flipInFlight (subscription : WebhookSubscription) (now : ℕ) (row : WebhookDelivery)
    (state : Dispatcher Effect) : Dispatcher Effect :=
  setWorker subscription.subscriptionId
    (some ⟨row.deliveryId, row.eventId, row.attemptNumber, subscription, false⟩)
    { state with
      deliveries := state.deliveries.updateKey row.deliveryId (claimedRow now) }

/-- `INSERT INTO webhook_deliveries` of a pending attempt. -/
def pendingDelivery (subscriptionId : String) (eventId attemptNumber scheduledAt : ℕ)
    (deliveryId : ℕ) : WebhookDelivery where
  deliveryId := deliveryId
  subscriptionId := subscriptionId
  eventId := eventId
  attemptNumber := attemptNumber
  status := .pending
  scheduledAt := scheduledAt

/-- The first transaction of a cycle of a subscription with a rate token. -/
def claim (subscriptionId : String) (now : ℕ) (state : Dispatcher Effect) : Dispatcher Effect :=
  match findSubscription? state.subscriptions subscriptionId with
  | none => state
  | some subscription =>
      if subscription.status ≠ .active then state
      else
        match selectNextPending subscriptionId now state.deliveries with
        | some row => flipInFlight subscription now row state
        | none =>
            if hasNonTerminalDelivery subscriptionId state.deliveries then state
            else
              match subscription.subscriptionFilter with
              | none =>
                  { state with
                    subscriptions := updateSubscription subscriptionId
                      (pause "malformed_filter") state.subscriptions }
              | some filter =>
                  match freshEvent filter now subscription.lastDeliveredEventId
                      state.outbox with
                  | none => state
                  | some event =>
                      flipInFlight subscription now
                        (pendingDelivery subscriptionId event.id 1 now state.deliveries.nextKey)
                        { state with
                          deliveries := state.deliveries.insert
                            (pendingDelivery subscriptionId event.id 1 now) }

/-- The row of a signed request. -/
def signedRow (generation : ℕ) (row : WebhookDelivery) : WebhookDelivery :=
  { row with secretGeneration := generation }

/-- The row of an event that is gone. -/
def missingRow (now : ℕ) (row : WebhookDelivery) : WebhookDelivery :=
  { row with
    status := .failed
    completedAt := some now
    errorKind := some "unknown"
    errorDetail := some "integration_events row missing at dispatch time" }

theorem signedRow_key (generation : ℕ) (row : WebhookDelivery) :
    (signedRow generation row).deliveryId = row.deliveryId :=
  rfl

theorem missingRow_key (now : ℕ) (row : WebhookDelivery) :
    (missingRow now row).deliveryId = row.deliveryId :=
  rfl

/-- The signing of the request: `none` where loading the secret, building the envelope
or signing raises, and the generation of the secret otherwise. -/
def sign (cycle : Cycle) (now : ℕ) (generation : Option ℕ) (state : Dispatcher Effect) :
    Dispatcher Effect :=
  if state.outbox.entries.any fun event => event.id = cycle.eventId then
    match generation with
    | none => setWorker cycle.subscription.subscriptionId none state
    | some generation =>
        setWorker cycle.subscription.subscriptionId (some { cycle with signed := true })
          { state with
            deliveries := state.deliveries.updateKey cycle.deliveryId
              (signedRow generation) (signedRow_key generation) }
  else
    setWorker cycle.subscription.subscriptionId none
      { state with
        deliveries := state.deliveries.updateKey cycle.deliveryId (missingRow now)
          (missingRow_key now) }

/-- What the HTTP client returns, or the classes of what it raises. -/
inductive SendResult
  | response (statusCode : Option ℕ) (errorKind errorDetail : Option String)
  | raised (errorKind errorDetail : String)
  | violation
  deriving DecidableEq, Repr

def is2xx (httpStatus : Option ℕ) : Bool :=
  httpStatus.any fun code => 200 ≤ code ∧ code < 300

/-- The kind and the detail of a failure the client has not classified. -/
def classifyStatus (httpStatus : Option ℕ) (errorDetail : Option String) : String × Option String :=
  match httpStatus with
  | some code =>
      (if 400 ≤ code ∧ code < 500 then "4xx"
        else if 500 ≤ code ∧ code < 600 then "5xx" else "unknown",
        some (errorDetail.getD ("HTTP " ++ toString code)))
  | none => ("unknown", some (errorDetail.getD "no response"))

def classifyFailure (httpStatus : Option ℕ) (errorKind errorDetail : Option String) :
    String × Option String :=
  match errorKind with
  | some kind => (kind, errorDetail)
  | none => classifyStatus httpStatus errorDetail

/-- `(error_detail or "")[:512]`. -/
def storedDetail (errorDetail : Option String) : String :=
  String.ofList ((errorDetail.getD "").toList.take 512)

/-- The row of a 2xx reply. -/
def succeededRow (now elapsedMs : ℕ) (httpStatus : Option ℕ) (row : WebhookDelivery) :
    WebhookDelivery :=
  { row with
    status := .succeeded
    completedAt := some now
    httpStatus := httpStatus
    responseTimeMs := some elapsedMs }

def markSucceeded (cycle : Cycle) (now elapsedMs : ℕ) (httpStatus : Option ℕ)
    (state : Dispatcher Effect) : Dispatcher Effect :=
  setWorker cycle.subscription.subscriptionId none
    { state with
      deliveries := state.deliveries.updateKey cycle.deliveryId
        (succeededRow now elapsedMs httpStatus)
      subscriptions := updateSubscription cycle.subscription.subscriptionId
        (advanceCursor cycle.eventId) state.subscriptions }

/-- The result of a failed attempt. -/
def failedRow (status : DeliveryStatus) (now elapsedMs : ℕ) (httpStatus : Option ℕ)
    (failure : String × Option String) (row : WebhookDelivery) : WebhookDelivery :=
  { row with
    status := status
    completedAt := some now
    httpStatus := httpStatus
    responseTimeMs := some elapsedMs
    errorKind := some failure.1
    errorDetail := some (storedDetail failure.2) }

/-- A permanent failure, or the failure of the last attempt. -/
def markDlq (cycle : Cycle) (now elapsedMs : ℕ) (httpStatus : Option ℕ)
    (failure : String × Option String) (state : Dispatcher Effect) :
    Dispatcher Effect :=
  let deliveries := state.deliveries.updateKey cycle.deliveryId
    (failedRow .dlq now elapsedMs httpStatus failure)
  setWorker cycle.subscription.subscriptionId none
    { state with
      deliveries := deliveries
      subscriptions := maybeAutoPause cycle.subscription true deliveries
        (updateSubscription cycle.subscription.subscriptionId
          (advanceCursor cycle.eventId) state.subscriptions) }

/-- `INTERVAL '1 second'`, in microseconds. -/
def second : ℕ := 1000000

/-- A failure with a retry slot after it. -/
def markFailed (cycle : Cycle) (now elapsedMs delay : ℕ) (httpStatus : Option ℕ)
    (failure : String × Option String) (state : Dispatcher Effect) :
    Dispatcher Effect :=
  let deliveries := (state.deliveries.updateKey cycle.deliveryId
      (failedRow .failed now elapsedMs httpStatus failure)).insert
    (pendingDelivery cycle.subscription.subscriptionId cycle.eventId
      (cycle.attemptNumber + 1) (now + delay * second))
  setWorker cycle.subscription.subscriptionId none
    { state with
      deliveries := deliveries
      subscriptions := maybeAutoPause cycle.subscription false deliveries state.subscriptions }

theorem markDlq_subscriptions (cycle : Cycle) (now elapsedMs : ℕ) (httpStatus : Option ℕ)
    (failure : String × Option String) (state : Dispatcher Effect) :
    (markDlq cycle now elapsedMs httpStatus failure state).subscriptions =
      maybeAutoPause cycle.subscription true
        (markDlq cycle now elapsedMs httpStatus failure state).deliveries
        (updateSubscription cycle.subscription.subscriptionId
          (advanceCursor cycle.eventId) state.subscriptions) :=
  rfl

theorem markFailed_deliveries (cycle : Cycle) (now elapsedMs delay : ℕ)
    (httpStatus : Option ℕ) (failure : String × Option String)
    (state : Dispatcher Effect) :
    (markFailed cycle now elapsedMs delay httpStatus failure state).deliveries =
      (state.deliveries.updateKey cycle.deliveryId
        (failedRow .failed now elapsedMs httpStatus failure)).insert
        (pendingDelivery cycle.subscription.subscriptionId cycle.eventId
          (cycle.attemptNumber + 1) (now + delay * second)) :=
  rfl

theorem markFailed_subscriptions (cycle : Cycle) (now elapsedMs delay : ℕ)
    (httpStatus : Option ℕ) (failure : String × Option String)
    (state : Dispatcher Effect) :
    (markFailed cycle now elapsedMs delay httpStatus failure state).subscriptions =
      maybeAutoPause cycle.subscription false
        (markFailed cycle now elapsedMs delay httpStatus failure state).deliveries
        state.subscriptions :=
  rfl

/-- The last transaction of a cycle; what raises in it leaves the row in flight. -/
def finish (cycle : Cycle) (now elapsedMs : ℕ) (jitter : Jitter) (result : SendResult)
    (state : Dispatcher Effect) : Dispatcher Effect :=
  match result with
  | .violation => setWorker cycle.subscription.subscriptionId none state
  | .raised errorKind errorDetail =>
      conclude none (some errorKind) (some errorDetail)
  | .response statusCode errorKind errorDetail =>
      conclude statusCode errorKind errorDetail
where
  conclude (httpStatus : Option ℕ) (errorKind errorDetail : Option String) :
      Dispatcher Effect :=
    if is2xx httpStatus then markSucceeded cycle now elapsedMs httpStatus state
    else
      let failure := classifyFailure httpStatus errorKind errorDetail
      if isPermanentFailure failure.1 httpStatus ∨
          isTerminalAttempt cycle.attemptNumber then
        markDlq cycle now elapsedMs httpStatus failure state
      else
        match retryDelay (cycle.attemptNumber + 1) jitter with
        | none => setWorker cycle.subscription.subscriptionId none state
        | some delay => markFailed cycle now elapsedMs delay httpStatus failure state

/-! ## Reapers -/

def release (now : ℕ) (row : WebhookDelivery) : WebhookDelivery :=
  { row with status := .pending, scheduledAt := now }

/-- `reset_orphaned_in_flight`. -/
def resetOrphanedInFlight (now : ℕ) (deliveries : Deliveries) : Deliveries :=
  deliveries.update (fun row => row.status = .inFlight) (release now)

/-- `reclaim_stale_in_flight`. -/
def reclaimStaleInFlight (now olderThan : ℕ) (deliveries : Deliveries) : Deliveries :=
  deliveries.update
    (fun row => row.status = .inFlight ∧
      row.attemptedAt.any fun attempted => attempted + olderThan * second < now)
    (release now)

/-- An admin's change of a subscription. -/
def configure (filter : Option SubscriptionFilter) (status : SubscriptionStatus)
    (pauseReason : Option String) (pendingCeiling dlqCeiling : ℕ)
    (subscription : WebhookSubscription) : WebhookSubscription :=
  { subscription with
    subscriptionFilter := filter
    status := status
    pauseReason := pauseReason
    pendingCeiling := pendingCeiling
    dlqCeiling := dlqCeiling }

/-! ## Steps -/

/-- A statement of an emitting transaction, the commits of a cycle, a cycle that ends
without one, a boot of the dispatcher, the periodic reaper, and an admin's change. -/
inductive DispatchStep (Effect : Type*)
  | outbox (step : OutboxStep Effect)
  | claim (subscriptionId : String) (now : ℕ)
  | sign (subscriptionId : String) (now : ℕ) (generation : Option ℕ)
  | send (subscriptionId : String) (now elapsedMs : ℕ) (jitter : Jitter)
      (result : SendResult)
  | abandon (subscriptionId : String)
  | restart (now : ℕ)
  | reclaim (now olderThan : ℕ)
  | configure (subscriptionId : String) (filter : Option SubscriptionFilter)
      (status : SubscriptionStatus) (pauseReason : Option String)
      (pendingCeiling dlqCeiling : ℕ)

def serveDispatch (state : Dispatcher Effect) : DispatchStep Effect → Dispatcher Effect
  | .outbox step => { state with outbox := state.outbox.serve step }
  | .claim subscriptionId now =>
      match state.workers subscriptionId with
      | none => claim subscriptionId now state
      | some _ => state
  | .sign subscriptionId now generation =>
      match state.workers subscriptionId with
      | some cycle => if cycle.signed then state else sign cycle now generation state
      | none => state
  | .send subscriptionId now elapsedMs jitter result =>
      match state.workers subscriptionId with
      | some cycle =>
          if cycle.signed then finish cycle now elapsedMs jitter result state else state
      | none => state
  | .abandon subscriptionId => setWorker subscriptionId none state
  | .restart now =>
      { state with
        deliveries := resetOrphanedInFlight now state.deliveries
        workers := fun _ => none }
  | .reclaim now olderThan =>
      { state with deliveries := reclaimStaleInFlight now olderThan state.deliveries }
  | .configure subscriptionId filter status pauseReason pendingCeiling dlqCeiling =>
      { state with
        subscriptions := updateSubscription subscriptionId
          (configure filter status pauseReason pendingCeiling dlqCeiling)
          state.subscriptions }

end SentryWms.Webhooks
