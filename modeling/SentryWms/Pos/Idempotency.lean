import SentryWms.Pos.RefundLedger
import SentryWms.Relational.Sentinel

/-!
# Checkouts under one idempotency key

A checkout looks its key up, checks its lines, and claims the key by inserting its order
under it; the stock it moves and the response it caches commit with the order.  Of any
number of checkouts that race under one key at most one books an order, and a checkout
that reaches the key later is answered from that order.
-/

namespace SentryWms.Pos

open Relational SalesOrders

/-! ## The order under a key -/

/-- The body hash and the cached response of the order under a key. -/
def storedUnder (db : Db) (idempotencyKey : String) : Option (Option String × Option PosResponse) :=
  (db.salesOrders.rows.find? fun order => order.idempotencyKey = some idempotencyKey).map
    fun order => (order.idempotencyBodyHash, order.cachedResponseBody)

variable {db' : Db} {ctx : RequestContext} {response : PosResponse}

theorem createRma_rows {now : ℕ} {db : Db} {originalSoId : ℕ} {lines : List ReturnLine}
    {created : CreatedReturn}
    (hok : createRma now db originalSoId lines = .ok (db', created)) :
    ∃ order, db'.salesOrders.rows = db.salesOrders.rows ++ [order] ∧
      order.idempotencyKey = none := by
  simp only [createRma, insertReturn, bind_eq_ok, require_eq_ok, orThrow_eq_ok,
    pure_eq_ok, Prod.mk.injEq] at hok
  obtain ⟨original, -, soNumber, -, opened, ⟨-, -, rfl⟩, -, -, rfl, -⟩ := hok
  have hlines := run_unchanged Db.salesOrders
    (fun state numbered => (rfl : (insertReturnLine db.salesOrders.nextKey state
      numbered).salesOrders = state.salesOrders))
  rw [hlines]
  exact ⟨_, rfl, rfl⟩

theorem openExchangeReturn_rows {parentSoId : Option ℕ} {body : CheckoutBody} {db : Db}
    (hok : openExchangeReturn ctx parentSoId body db = .ok db') :
    ∃ later, db'.salesOrders.rows = db.salesOrders.rows ++ later ∧
      ∀ order ∈ later, order.idempotencyKey = none := by
  unfold openExchangeReturn at hok
  split at hok
  · simp only [pure_eq_ok] at hok
    exact ⟨[], by rw [hok, List.append_nil], by simp⟩
  · split at hok
    · simp only [bind_eq_ok, pure_eq_ok] at hok
      obtain ⟨lines, -, ⟨created, receipt⟩, hcreated, rfl⟩ := hok
      obtain ⟨order, hrows, hkey⟩ := createRma_rows hcreated
      exact ⟨[order], hrows, by simpa using hkey⟩
    · simp only [pure_eq_ok] at hok
      exact ⟨[], by rw [hok, List.append_nil], by simp⟩

/-- Caching the response of an order that was just added. -/
theorem storedUnder_cacheResponse {db : Db} {order : SalesOrder}
    {later : List SalesOrder} {key hash : String}
    (hrows : db'.salesOrders.rows = db.salesOrders.rows ++ order :: later)
    (hsoId : order.soId = db.salesOrders.nextKey)
    (hkey : order.idempotencyKey = some key)
    (hhash : order.idempotencyBodyHash = some hash)
    (hlater : ∀ row ∈ later, row.idempotencyKey = none)
    (hfree : storedUnder db key = none) (idempotencyKey : String) :
    storedUnder (cacheResponse db.salesOrders.nextKey response db') idempotencyKey =
      if idempotencyKey = key then some (some hash, some response)
      else storedUnder db idempotencyKey := by
  have hold : db.salesOrders.rows.map (fun row =>
      if decide (row.soId = db.salesOrders.nextKey) then
        { row with cachedResponseBody := some response }
      else row) = db.salesOrders.rows := by
    calc
      _ = db.salesOrders.rows.map id := by
        apply List.map_congr_left
        intro row hrow
        have hbelow := db.salesOrders.keys_lt row hrow
        rw [if_neg (by simpa using hbelow.ne)]
        rfl
      _ = db.salesOrders.rows := List.map_id _
  have hnone : (later.map fun row =>
      if decide (row.soId = db.salesOrders.nextKey) then
        { row with cachedResponseBody := some response }
      else row).find? (fun row => row.idempotencyKey = some idempotencyKey) = none := by
    rw [List.find?_eq_none]
    intro row hrow
    obtain ⟨stored, hstored, rfl⟩ := List.mem_map.mp hrow
    have hkey := hlater stored hstored
    split <;> simp [hkey]
  change Option.map _ (List.find? _ (List.map _ db'.salesOrders.rows)) = _
  rw [hrows, List.map_append, hold, List.find?_append, List.map_cons, List.find?_cons,
    hnone, Option.map_or]
  change (storedUnder db idempotencyKey).or _ = _
  by_cases hsame : idempotencyKey = key
  · rw [hsame, hfree, Option.none_or, if_pos rfl]
    simp [hsoId, hkey, hhash]
  · have hother : key ≠ idempotencyKey := fun heq => hsame heq.symm
    rw [if_neg hsame]
    simp [hsoId, hkey, hother]

theorem storedUnder_completeCheckout {body : CheckoutBody} {plan : CheckoutPlan}
    {db : Db} (hfree : storedUnder db body.idempotencyKey = none)
    (hok : completeCheckout ctx body plan db = .ok (db', response))
    (idempotencyKey : String) :
    storedUnder db' idempotencyKey =
      if idempotencyKey = body.idempotencyKey then some (some body.bodyHash, some response)
      else storedUnder db idempotencyKey := by
  simp only [completeCheckout, insertPosOrder, bind_eq_ok, require_eq_ok, pure_eq_ok,
    Prod.mk.injEq] at hok
  obtain ⟨opened, ⟨-, -, rfl⟩, applied, happlied, returned, hreturned, rfl, rfl⟩ := hok
  obtain ⟨later, hrows, hlater⟩ := openExchangeReturn_rows hreturned
  rw [(applyLines_rung happlied).salesOrders] at hrows
  have hrows' : returned.salesOrders.rows = db.salesOrders.rows ++
      { checkoutOrder ctx body plan.soNumber plan.warehouseId plan.parentSoId with
        soId := db.salesOrders.nextKey } :: later := by
    rw [hrows]
    exact List.append_assoc _ [_] later
  exact storedUnder_cacheResponse hrows' rfl rfl rfl hlater hfree idempotencyKey

/-! ## The protocol -/

structure CheckoutRequest where
  ctx : RequestContext
  body : CheckoutBody

/-- How checkouts use the orders table: the order under the key is the sentinel, and its
body hash tells a retry from another request. -/
def checkoutProtocol (backorderWarehouseCode : String) :
    Sentinel.Protocol Db CheckoutRequest CheckoutPlan String
      (Option String × Option PosResponse) PosResponse ServiceError where
  key := fun request => request.body.idempotencyKey
  lookup := storedUnder
  accepts := fun request stored => stored.1 = some request.body.bodyHash
  answer := fun stored => stored.2
  record := fun request response => (some request.body.bodyHash, some response)
  busy := fun _ => lockContention
  prepare := fun request db => prepareCheckout request.ctx backorderWarehouseCode db request.body
  complete := fun request plan db => completeCheckout request.ctx request.body plan db
  lookup_complete := fun hfree hok => storedUnder_completeCheckout hfree hok

/-- A run of checkouts that race. -/
abbrev Tills := Sentinel.Service Db CheckoutPlan String PosResponse ServiceError

def serveTills (backorderWarehouseCode : String) (requests : ℕ → CheckoutRequest) :
    Tills → Sentinel.Step → Tills :=
  Sentinel.serve (checkoutProtocol backorderWarehouseCode) requests

theorem lookedUp_stored {backorderWarehouseCode : String} {request : CheckoutRequest}
    {db : Db} {bodyHash : String}
    (hstored : storedUnder db request.body.idempotencyKey = some (some bodyHash, some response)) :
    Sentinel.lookedUp (checkoutProtocol backorderWarehouseCode) request db =
      some (if request.body.bodyHash = bodyHash then .replayed response
        else .conflict) := by
  change (storedUnder db request.body.idempotencyKey).bind _ = _
  rw [hstored, Option.bind_some, Sentinel.recollect]
  by_cases hsame : request.body.bodyHash = bodyHash
  · simp [checkoutProtocol, hsame]
  · have hother : bodyHash ≠ request.body.bodyHash := fun heq => hsame heq.symm
    simp [checkoutProtocol, hsame, hother]

/-- Of the checkouts that race under one key at most one books its order, as it would
alone.  Once that order is stored, a checkout that has not ended is answered from it, and
refused when its body differs; one that had looked the key up before may fail its own
checks or time out instead. -/
theorem checkouts_bookOnce {backorderWarehouseCode idempotencyKey : String}
    {requests : ℕ → CheckoutRequest} {db : Db} {earlier later : List Sentinel.Step}
    {between final : Tills}
    (hkey : ∀ ticket, (requests ticket).body.idempotencyKey = idempotencyKey)
    (hbetween : run (serveTills backorderWarehouseCode requests)
      (Sentinel.opened db) earlier = between)
    (hfinal : run (serveTills backorderWarehouseCode requests) between later = final) :
    ((final.world = db ∧ ∀ ticket response, (ticket, .completed response) ∉ final.replies) ∨
      ∃ first response,
        newCheckout (requests first).ctx backorderWarehouseCode db (requests first).body =
          .ok (final.world, response) ∧
        (first, .completed response) ∈ final.replies ∧
        ∀ ticket other, (ticket, .completed other) ∈ final.replies → ticket = first) ∧
      (∀ first response, (first, .completed response) ∈ between.replies →
        storedUnder between.world idempotencyKey =
          some (some (requests first).body.bodyHash, some response)) ∧
      ∀ bodyHash response, storedUnder between.world idempotencyKey =
          some (some bodyHash, some response) →
        ∀ ticket reply, between.stage ticket ≠ .closed → (ticket, reply) ∈ final.replies →
          reply = (if (requests ticket).body.bodyHash = bodyHash then .replayed response
            else .conflict) ∨
          (between.stage ticket ≠ .waiting ∧ ∃ refusal, reply = .failed refusal) := by
  have hsound : Sentinel.Sound (checkoutProtocol backorderWarehouseCode) requests db
      between := by
    rw [← hbetween]
    exact Sentinel.sound_run db earlier
  refine ⟨?_, ?_, ?_⟩
  · have hrun : run (serveTills backorderWarehouseCode requests)
        (Sentinel.opened db) (earlier ++ later) = final := by
      rw [run_append, hbetween, hfinal]
    rw [← hrun]
    apply (Sentinel.booked_once (fun left right => (hkey left).trans (hkey right).symm) db
      (earlier ++ later)).imp_right
    rintro ⟨first, ⟨plan, response, hprepare, hcomplete, hreply⟩, honce⟩
    refine ⟨first, response, ?_, hreply, honce⟩
    rw [newCheckout]
    exact bind_eq_ok.mpr ⟨plan, hprepare, hcomplete⟩
  · intro first response hreply
    rw [← hkey first]
    exact hsound.completed_lookup hreply
  · intro bodyHash response hstored ticket reply hopen hreply
    rw [← hkey ticket] at hstored
    have htold := hsound.told (lookedUp_stored hstored) hopen later
    rw [← hfinal] at hreply
    apply (htold.reply reply hreply).imp_right
    rintro ⟨hstarted, hfailed⟩
    exact ⟨hstarted, hfailed⟩

/-! ## Two tills -/

namespace SmallShop

/-- The same sale again, from a till of another warehouse and with another body. -/
def requests : ℕ → CheckoutRequest
  | 0 => { ctx := till 1, body := body }
  | 1 => { ctx := { till 2 with warehouseIds := [2] }, body := body }
  | 2 => { ctx := till 3, body := body }
  | _ => { ctx := till 4, body := { body with bodyHash := "b2" } }

/-- The first till books while the second and the third have looked the key up. -/
def race : List Sentinel.Step :=
  [.probe 0, .probe 1, .probe 2, .prepare 0, .prepare 2, .claim 0, .claim 2, .complete 0]

/-- The others come back. -/
def late : List Sentinel.Step := [.prepare 1, .claim 2, .probe 3]

def raced : Tills := run (serveTills "" requests) (Sentinel.opened db) race

def settled : Tills := run (serveTills "" requests) raced late

end SmallShop

theorem checkouts_bookOnce_raced :
    (0, .completed (.checkout "POS-1")) ∈ SmallShop.settled.replies ∧
      (∀ ticket other, (ticket, .completed other) ∈ SmallShop.settled.replies → ticket = 0) ∧
      (2, .replayed (.checkout "POS-1")) ∈ SmallShop.settled.replies ∧
      (3, .conflict) ∈ SmallShop.settled.replies := by
  have hkey : ∀ ticket, (SmallShop.requests ticket).body.idempotencyKey =
      SmallShop.body.idempotencyKey := by
    intro ticket
    rcases ticket with _ | _ | _ | _ <;> rfl
  have hfirst : (0, .completed (.checkout "POS-1")) ∈ SmallShop.settled.replies := by
    decide
  have honce := @checkouts_bookOnce "" SmallShop.body.idempotencyKey SmallShop.requests
    SmallShop.db SmallShop.race SmallShop.late SmallShop.raced SmallShop.settled hkey rfl rfl
  refine ⟨hfirst, ?_, by decide, by decide⟩
  rcases honce.1 with ⟨-, hnone⟩ | ⟨first, response, -, -, hsame⟩
  · exact absurd hfirst (hnone 0 _)
  · intro ticket other hreply
    rw [hsame ticket other hreply, ← hsame 0 _ hfirst]

/-- The second till sends the stored body after the commit and is still refused: its
token may not sell from the warehouse, and it had looked the key up before. -/
theorem lateCheckout_refused :
    storedUnder SmallShop.raced.world SmallShop.body.idempotencyKey =
        some (some "a1", some (.checkout "POS-1")) ∧
      SmallShop.raced.stage 1 ≠ .closed ∧
      (SmallShop.requests 1).body.bodyHash = "a1" ∧
      (1, .failed (.posError "warehouse_not_in_scope"
        "token cannot fulfill from this warehouse" 403)) ∈ SmallShop.settled.replies := by
  refine ⟨by decide, by decide, rfl, by decide⟩

end SentryWms.Pos
