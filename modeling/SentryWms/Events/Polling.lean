import SentryWms.Events.Outbox

/-!
# Polling

`GET /api/v1/events` serves one page of events, beyond a cursor the client sends or
beyond the stored cursor of a consumer group.  `POST /api/v1/events/ack` moves the
cursor of a group.
-/

namespace SentryWms.Events

open Relational

/-! ## Requests -/

structure WmsToken where
  warehouseIds : List ℕ
  eventTypes : List String
  connectorId : Option String
  deriving DecidableEq, Repr

/-- The query of a poll, with `types` split; `after` and `consumer_group` exclude each
other. -/
structure PollQuery where
  after : Option ℕ
  consumerGroup : Option String
  types : List String
  warehouseId : Option ℕ
  limit : PageLimit
  exclusive : after = none ∨ consumerGroup = none

/-- `consumer_groups.subscription`; a shape the handler cannot parse is malformed. -/
inductive Subscription
  | lists (warehouseIds : List ℕ) (eventTypes : List String)
  | malformed
  deriving DecidableEq, Repr

structure ConsumerGroup where
  consumerGroupId : String
  connectorId : String
  lastCursor : ℕ
  subscription : Subscription
  deriving DecidableEq, Repr

structure AckBody where
  consumerGroup : String
  cursor : ℕ
  deriving DecidableEq, Repr

/-- An error response: its `error`, its `field` and its status. -/
structure ApiError where
  error : String
  field : Option String
  status : ℕ
  deriving DecidableEq, Repr

structure PollResponse where
  events : List EventRow
  nextCursor : ℕ
  deriving DecidableEq, Repr

/-! ## The page -/

/-- Any requested value is outside the token's scope. -/
def scopeViolation {Value : Type*} [DecidableEq Value] (requested allowed : List Value) : Bool :=
  requested.any fun value => value ∉ allowed

/-- A filter list without entries is no filter. -/
def listAllows {Value : Type*} [DecidableEq Value] (allowed : List Value)
    (value : Value) : Bool :=
  allowed = [] ∨ value ∈ allowed

def Subscription.allows (event : IntegrationEvent) : Subscription → Bool
  | .lists warehouseIds eventTypes =>
      listAllows warehouseIds event.warehouseId ∧ listAllows eventTypes event.eventType
  | .malformed => true

/-- Token scope, request filter and subscription filter together. -/
def inScope (token : WmsToken) (warehouseId : Option ℕ) (types : List String)
    (subscription : Subscription) (event : IntegrationEvent) : Bool :=
  event.warehouseId ∈ token.warehouseIds ∧ event.eventType ∈ token.eventTypes ∧
    warehouseId.all (fun requested => requested = event.warehouseId) ∧
    listAllows types event.eventType ∧ subscription.allows event

def findGroup? (groups : List ConsumerGroup) (consumerGroupId : String) : Option ConsumerGroup :=
  groups.find? fun group => group.consumerGroupId = consumerGroupId

/-- Where a poll starts, and the filter of its group. -/
def pollStart (groups : List ConsumerGroup) (query : PollQuery) :
    Except ApiError (ℕ × Subscription) :=
  match query.consumerGroup with
  | none => pure (query.after.getD 0, .lists [] [])
  | some consumerGroupId => do
      let group ← orThrow (findGroup? groups consumerGroupId)
        ⟨"consumer_group_not_found", none, 404⟩
      require (group.subscription ≠ .malformed) ⟨"subscription_invalid", none, 409⟩
      pure (group.lastCursor, group.subscription)

/-- `poll_events`. -/
def pollEvents {Effect : Type*} (token : WmsToken) (now : ℕ)
    (groups : List ConsumerGroup) (outbox : Outbox Effect) (query : PollQuery) :
    Except ApiError PollResponse := do
  require (query.warehouseId.all fun requested => requested ∈ token.warehouseIds)
    ⟨"scope_violation", some "warehouse_id", 403⟩
  require (¬ scopeViolation query.types token.eventTypes) ⟨"scope_violation", some "types", 403⟩
  let (after, subscription) ← pollStart groups query
  let scope := inScope token query.warehouseId query.types subscription
  pure
    { events := Tail.readPage scope visibleAtBuffer now after query.limit.value outbox
      nextCursor := Tail.cursorAfter scope visibleAtBuffer now after query.limit.value outbox }

/-! ## Acknowledging -/

/-- An event the token could not have polled lies between the two cursors. -/
def acksOutOfScope {Effect : Type*} (token : WmsToken) (lastCursor cursor : ℕ)
    (outbox : Outbox Effect) : Bool :=
  outbox.entries.any fun event =>
    lastCursor < event.id ∧ event.id ≤ cursor ∧
      ¬ (event.payload.warehouseId ∈ token.warehouseIds ∧
        event.payload.eventType ∈ token.eventTypes)

/-- `UPDATE consumer_groups SET last_cursor = :cursor ... AND last_cursor <= :cursor`. -/
def advance (cursor : ℕ) (group : ConsumerGroup) : ConsumerGroup :=
  if group.lastCursor ≤ cursor then { group with lastCursor := cursor } else group

/-- `ack_cursor`: the groups after it. -/
def ackCursor {Effect : Type*} (token : WmsToken) (groups : List ConsumerGroup)
    (outbox : Outbox Effect) (body : AckBody) : Except ApiError (List ConsumerGroup) := do
  let group ← orThrow (findGroup? groups body.consumerGroup) ⟨"consumer_group_not_found", none, 404⟩
  require (token.connectorId.all fun connectorId =>
      connectorId = "" ∨ connectorId = group.connectorId)
    ⟨"consumer_group_scope_violation", none, 403⟩
  require (group.lastCursor < body.cursor →
      body.cursor ≤ maxEventId (fun _ => true) outbox)
    ⟨"cursor_beyond_horizon", none, 400⟩
  require (group.lastCursor < body.cursor →
      ¬ acksOutOfScope token group.lastCursor body.cursor outbox)
    ⟨"ack_scope_violation", none, 403⟩
  pure (groups.map fun stored =>
    if stored.consumerGroupId = body.consumerGroup then advance body.cursor stored
    else stored)

end SentryWms.Events
