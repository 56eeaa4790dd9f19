import SentryWms.Relational.Tail
import Mathlib.Order.MinMax

/-!
# The transactional outbox

Every inventory-changing write emits an integration event in its own transaction.
The event draws its `event_id` from a sequence at the insert, a deferred trigger sets
`visible_at` at the commit, and readers leave out events whose `visible_at` is less
than two seconds old.
-/

namespace SentryWms.Events

open Relational

/-- A row of `integration_events`; its `event_id` and `visible_at` are the id and the
stamp of its log entry. -/
structure IntegrationEvent where
  eventType : String
  eventVersion : ℕ
  eventTimestamp : ℕ
  aggregateType : String
  aggregateId : ℕ
  aggregateExternalId : String
  warehouseId : ℕ
  sourceTxnId : String
  payload : String
  deriving DecidableEq, Repr

/-- The outbox, with what else its transactions do.  An emit whose idempotency key is
taken inserts nothing. -/
abbrev Outbox (Effect : Type*) := CommitLog IntegrationEvent Effect

/-- A stored event. -/
abbrev EventRow := Entry IntegrationEvent

/-- One statement of a transaction, its commit or its rollback, or time passing. -/
abbrev OutboxStep (Effect : Type*) := LogStep IntegrationEvent Effect

/-- `INTERVAL '2 seconds'`, in microseconds. -/
def visibleAtBuffer : ℕ := 2000000

/-- `visible_at IS NOT NULL AND visible_at <= NOW() - INTERVAL '2 seconds'`. -/
def pastBuffer (now : ℕ) (event : EventRow) : Bool := Tail.past visibleAtBuffer now event

/-- The `limit` of a page. -/
structure PageLimit where
  value : ℕ
  pos : 1 ≤ value
  le : value ≤ 2000
  deriving DecidableEq, Repr

/-- `MAX(event_id)` of the events that pass a test, and 0 without any. -/
def maxEventId {Effect : Type*} (test : EventRow → Bool) (outbox : Outbox Effect) : ℕ :=
  ((outbox.entries.filter test).map Entry.id).foldl max 0

theorem foldl_max_lt {ids : List ℕ} {first bound : ℕ} :
    ids.foldl max first < bound ↔ first < bound ∧ ∀ id ∈ ids, id < bound := by
  induction ids generalizing first with
  | nil => simp
  | cons id rest ih =>
      rw [List.foldl_cons, ih, max_lt_iff, List.forall_mem_cons, and_assoc]

theorem maxEventId_lt {Effect : Type*} {test : EventRow → Bool} {outbox : Outbox Effect}
    {bound : ℕ} :
    maxEventId test outbox < bound ↔
      0 < bound ∧ ∀ event ∈ outbox.entries, test event → event.id < bound := by
  rw [maxEventId, foldl_max_lt]
  refine and_congr_right fun _ => ⟨fun hall event hevent htest => ?_, ?_⟩
  · exact hall event.id (List.mem_map_of_mem (List.mem_filter.mpr ⟨hevent, htest⟩))
  · intro hall id hid
    obtain ⟨event, hevent, rfl⟩ := List.mem_map.mp hid
    obtain ⟨hmem, htest⟩ := List.mem_filter.mp hevent
    exact hall event hmem htest

end SentryWms.Events
