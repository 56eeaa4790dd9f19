import SentryWms.Fulfillment.Shipping
import SentryWms.Relational.Sentinel

/-!
# The dock's ship and void requests

A dock ships an order, or voids its ship, under an idempotency key of its token.  A
stored answer is given again to a request with the endpoint and the body hash of the one
that produced it.  The order number of the path is stored beside them and is not
compared, so one order's answer stands for another's exactly when a lookup finds the key
stored for another order with the same endpoint and body.
-/

namespace SentryWms.Fulfillment

open Relational

/-! ## Requests -/

structure Dimensions where
  l : ℚ
  w : ℚ
  h : ℚ
  deriving DecidableEq, Repr

/-- `ShipBody` without its key; a decimal stands as the text it is dumped to. -/
structure ShipBody where
  tracking : String
  carrier : String
  shipMethod : Option String
  operatorUsername : String
  shippingCost : Option String
  weight : Option ℚ
  dims : Option Dimensions
  manualLink : Bool
  deriving DecidableEq, Repr

/-- `VoidShipBody` without its key. -/
structure VoidShipBody where
  reason : String
  operatorUsername : String
  deriving DecidableEq, Repr

inductive DockdBody
  | ship (body : ShipBody)
  | void (body : VoidShipBody)
  deriving DecidableEq, Repr

namespace DockdBody

def endpoint : DockdBody → String
  | .ship _ => "ship"
  | .void _ => "void-ship"

def operatorUsername : DockdBody → String
  | .ship body => body.operatorUsername
  | .void body => body.operatorUsername

end DockdBody

/-- A request past its path and body checks; the scope of its token is in the
context. -/
structure DockdRequest where
  ctx : RequestContext
  tokenId : ℕ
  soNumber : String
  idempotencyKey : String
  body : DockdBody

inductive DockdResponse
  | shipped (tracking : String) (shippedAt fulfillmentId : ℕ)
  | voided (status : SalesOrderStatus) (voidedAt : ℕ)
  deriving DecidableEq, Repr

/-- An error answer, or an exception the route does not catch. -/
inductive DockdRefusal
  | refused (errorKind message : String) (statusCode : ℕ)
  | raised (error : ServiceError)
  deriving DecidableEq, Repr

/-! ## The store -/

variable {Digest : Type}

/-- A row of `dockd_idempotency`; it commits with its response. -/
structure DockdIdempotency (Digest : Type) where
  tokenId : ℕ
  idempotencyKey : String
  endpoint : String
  soNumber : String
  requestBodySha256 : Digest
  responseBody : DockdResponse
  deriving DecidableEq, Repr

structure DockdStore (Digest : Type) where
  db : Db
  usernames : List String
  dockdIdempotency : List (DockdIdempotency Digest)

/-- `SELECT ... WHERE token_id = :token_id AND idempotency_key = :key`. -/
def cached? (store : DockdStore Digest) (key : ℕ × String) : Option (DockdIdempotency Digest) :=
  store.dockdIdempotency.find? fun row => row.tokenId = key.1 ∧ row.idempotencyKey = key.2

/-! ## Shipping and voiding -/

def notFound : DockdRefusal := .refused "not_found" "order not found" 404

/-- The order of the path, in the scope of the token. -/
def scopedOrder? (db : Db) (request : DockdRequest) : Option SalesOrder :=
  db.salesOrders.rows.find? fun order =>
    order.soNumber = request.soNumber ∧ order.warehouseId ∈ request.ctx.warehouseIds

/-- A line picked short of its order is answered with a 400. -/
def shipError : ServiceError → DockdRefusal
  | .valueError message => .refused "line_under_picked" message 400
  | error => .raised error

def allowedStatuses (db : Db) : List SalesOrderStatus :=
  if requirePacking db then [.soPacked] else [.soPicked, .soPacked]

/-- Steps 2 to 4 of `ship_order`. -/
def shipOrder (request : DockdRequest) (body : ShipBody) (db : Db) :
    Except DockdRefusal (Db × DockdResponse) := do
  let order ← orThrow (scopedOrder? db request) notFound
  require (order.status ≠ .soShipped)
    (.refused "already_shipped" "order has already been shipped" 409)
  require (order.status ∈ allowedStatuses db)
    (.refused "not_in_shippable_status" "order is not in a shippable status" 410)
  let shipped ← (recordShip request.ctx db order
    { trackingNumber := some body.tracking
      carrier := some body.carrier
      shipMethod := body.shipMethod
      preShipStatus := some order.status
      shippedAt := request.ctx.now }).mapError shipError
  pure (shipped, .shipped body.tracking request.ctx.now db.itemFulfillments.nextKey)

/-- The same steps of `void_ship`. -/
def voidOrder (request : DockdRequest) (db : Db) :
    Except DockdRefusal (Db × DockdResponse) := do
  let order ← orThrow (scopedOrder? db request) notFound
  require (order.status = .soShipped)
    (.refused "not_shipped" "order is not in SHIPPED status; cannot void" 409)
  require (latestShipped? db order.soId).isSome
    (.refused "not_shipped" "no SHIPPED fulfillment found for this order" 409)
  let (voided, status) ← (voidShip request.ctx db order.soId).mapError .raised
  pure (voided, .voided status request.ctx.now)

def dispatch (request : DockdRequest) (db : Db) : Except DockdRefusal (Db × DockdResponse) :=
  match request.body with
  | .ship body => shipOrder request body db
  | .void _ => voidOrder request db

/-- `idempotency_lock_timeout`. -/
def lockTimeout (request : DockdRequest) : DockdRefusal :=
  .refused "idempotency_lock_timeout"
    (match request.body with
    | .ship _ => "concurrent ship in flight; retry with the same key"
    | .void _ => "concurrent void in flight; retry with the same key") 503

/-! ## The protocol -/

variable [DecidableEq Digest] (sha256 : DockdBody → Digest)

/-- The row a request leaves behind. -/
def recordOf (request : DockdRequest) (response : DockdResponse) :
    DockdIdempotency Digest where
  tokenId := request.tokenId
  idempotencyKey := request.idempotencyKey
  endpoint := request.body.endpoint
  soNumber := request.soNumber
  requestBodySha256 := sha256 request.body
  responseBody := response

/-- What a stored row is compared with. -/
def accepts (request : DockdRequest) (row : DockdIdempotency Digest) : Bool :=
  row.endpoint = request.body.endpoint ∧ row.requestBodySha256 = sha256 request.body

/-- The operator is resolved before the sentinel is inserted; the ship or the void and
the sentinel with its response commit together. -/
def dockdProtocol : Sentinel.Protocol (DockdStore Digest) DockdRequest Unit (ℕ × String)
    (DockdIdempotency Digest) DockdResponse DockdRefusal where
  key := fun request => (request.tokenId, request.idempotencyKey)
  lookup := cached?
  accepts := accepts sha256
  answer := fun row => some row.responseBody
  record := recordOf sha256
  busy := lockTimeout
  prepare := fun request store =>
    require (request.body.operatorUsername ∈ store.usernames)
      (.refused "unknown_operator" "operator_username does not resolve to a Sentry users row" 422)
  complete := fun request _ store => do
    let (db, response) ← dispatch request store.db
    pure ({ store with
        db := db
        dockdIdempotency := store.dockdIdempotency ++ [recordOf sha256 request response] },
      response)
  lookup_complete := by
    intro request plan store next response hfree hok other
    simp only [bind_eq_ok, pure_eq_ok, Prod.mk.injEq] at hok
    obtain ⟨⟨db, answer⟩, -, rfl, rfl⟩ := hok
    change (store.dockdIdempotency ++ [_]).find? _ = _
    rw [List.find?_append]
    change (cached? store other).or _ = _
    by_cases hother : other = (request.tokenId, request.idempotencyKey)
    · subst hother
      rw [hfree, Option.none_or, if_pos rfl]
      simp [recordOf]
    · have hmiss : ¬ (request.tokenId = other.1 ∧ request.idempotencyKey = other.2) :=
        fun hboth => hother (Prod.ext hboth.1.symm hboth.2.symm)
      have hlast : List.find? (fun row : DockdIdempotency Digest =>
          decide (row.tokenId = other.1 ∧ row.idempotencyKey = other.2))
          [recordOf sha256 request answer] = none := by
        rw [List.find?_singleton, if_neg]
        rw [decide_eq_true_eq]
        exact hmiss
      rw [if_neg hother]
      exact (congrArg (Option.or (cached? store other)) hlast).trans Option.or_none

/-- The docks and their requests in hand. -/
abbrev Docks (Digest : Type) :=
  Sentinel.Service (DockdStore Digest) Unit (ℕ × String) DockdResponse DockdRefusal

variable (requests : ℕ → DockdRequest)

def serveDocks : Docks Digest → Sentinel.Step → Docks Digest :=
  Sentinel.serve (dockdProtocol sha256) requests

/-- Nothing has been sent, and no key is stored. -/
def openedDocks (db : Db) (usernames : List String) : Docks Digest :=
  Sentinel.opened { db := db, usernames := usernames, dockdIdempotency := [] }

/-! ## Binding -/

def SameKey (left right : DockdRequest) : Prop :=
  left.tokenId = right.tokenId ∧ left.idempotencyKey = right.idempotencyKey

instance (left right : DockdRequest) : Decidable (SameKey left right) :=
  inferInstanceAs (Decidable (_ ∧ _))

/-- The same token, key, endpoint, order number and body. -/
def SameRequest (left right : DockdRequest) : Prop :=
  SameKey left right ∧ left.body.endpoint = right.body.endpoint ∧
    left.soNumber = right.soNumber ∧ left.body = right.body

instance (left right : DockdRequest) : Decidable (SameRequest left right) :=
  inferInstanceAs (Decidable (_ ∧ _ ∧ _ ∧ _))

/-- What a run owes: an answer is given again only to the request that produced it; once
a key is stored, another request under it is refused with a conflict, or fails on its own
when it had looked the key up before; a stored row is that of a completed request; and a
key is held only by a request that is still open. -/
structure BindsWhole (db : Db) (usernames : List String) (steps : List Sentinel.Step) :
    Prop where
  replays : ∀ ticket response,
    (ticket, .replayed response) ∈
        (run (serveDocks sha256 requests) (openedDocks db usernames) steps).replies →
      ∃ producer, (producer, .completed response) ∈
          (run (serveDocks sha256 requests) (openedDocks db usernames) steps).replies ∧
        SameRequest (requests ticket) (requests producer)
  refuses : ∀ earlier later, steps = earlier ++ later →
    ∀ producer response ticket reply,
      (producer, .completed response) ∈
          (run (serveDocks sha256 requests) (openedDocks db usernames) earlier).replies →
        SameKey (requests ticket) (requests producer) →
        (run (serveDocks sha256 requests) (openedDocks db usernames) earlier).stage
          ticket ≠ .closed →
        (ticket, reply) ∈
          (run (serveDocks sha256 requests) (openedDocks db usernames) steps).replies →
        reply = (if SameRequest (requests ticket) (requests producer) then
            .replayed response else .conflict) ∨
          ((run (serveDocks sha256 requests) (openedDocks db usernames) earlier).stage
            ticket ≠ .waiting ∧ ∃ refusal, reply = .failed refusal)
  stored : ∀ key row,
    cached? (run (serveDocks sha256 requests) (openedDocks db usernames) steps).world
        key = some row →
      ∃ producer response, (producer, .completed response) ∈
          (run (serveDocks sha256 requests) (openedDocks db usernames) steps).replies ∧
        row = recordOf sha256 (requests producer) response
  held : ∀ key ticket,
    (run (serveDocks sha256 requests) (openedDocks db usernames) steps).holder key = some ticket →
      (run (serveDocks sha256 requests) (openedDocks db usernames) steps).stage ticket = .holding ()

/-- A lookup that finds the key stored with its own endpoint and body hash finds its own
order. -/
def FindsOwnOrder (state : Docks Digest) (step : Sentinel.Step) : Prop :=
  ∀ ticket, Sentinel.looksUp (dockdProtocol sha256) requests state step = some ticket →
    ∀ row, cached? state.world
        ((requests ticket).tokenId, (requests ticket).idempotencyKey) = some row →
      accepts sha256 (requests ticket) row → row.soNumber = (requests ticket).soNumber

instance (state : Docks Digest) (step : Sentinel.Step) :
    Decidable (FindsOwnOrder sha256 requests state step) :=
  decidable_of_iff
    ((Sentinel.looksUp (dockdProtocol sha256) requests state step).all fun ticket =>
      (cached? state.world
        ((requests ticket).tokenId, (requests ticket).idempotencyKey)).all fun row =>
          accepts sha256 (requests ticket) row → row.soNumber = (requests ticket).soNumber)
    (by simp [FindsOwnOrder, Option.all_eq_true, or_iff_not_imp_left])

variable {sha256 requests}

variable {left right : DockdRequest} {response : DockdResponse} {step : Sentinel.Step}
  {ticket : ℕ} {steps : List Sentinel.Step}

theorem accepts_recordOf :
    accepts sha256 left (recordOf sha256 right response) = true ↔
      right.body.endpoint = left.body.endpoint ∧ sha256 right.body = sha256 left.body :=
  decide_eq_true_iff

theorem sameRequest_iff (hsha256 : Function.Injective sha256)
    (hkey : SameKey left right) :
    SameRequest left right ↔
      accepts sha256 left (recordOf sha256 right response) = true ∧
        right.soNumber = left.soNumber := by
  rw [accepts_recordOf]
  constructor
  · rintro ⟨-, hendpoint, hsoNumber, hbody⟩
    exact ⟨⟨hendpoint.symm, by rw [hbody]⟩, hsoNumber.symm⟩
  · rintro ⟨⟨hendpoint, hdigest⟩, hsoNumber⟩
    exact ⟨hkey, hendpoint.symm, hsoNumber.symm, (hsha256 hdigest).symm⟩

/-- The reply to a request under a key that is stored. -/
theorem lookedUp_cached {request producer : DockdRequest} {store : DockdStore Digest}
    (hkey : SameKey request producer)
    (hcached : cached? store (producer.tokenId, producer.idempotencyKey) =
      some (recordOf sha256 producer response)) :
    Sentinel.lookedUp (dockdProtocol sha256) request store =
      some (if accepts sha256 request (recordOf sha256 producer response) then
        .replayed response else .conflict) := by
  change (cached? store (request.tokenId, request.idempotencyKey)).bind _ = _
  rw [hkey.1, hkey.2, hcached, Option.bind_some, Sentinel.recollect]
  by_cases haccepts : accepts sha256 request (recordOf sha256 producer response)
  · rw [if_pos haccepts]
    exact if_pos haccepts
  · rw [if_neg haccepts]
    exact if_neg haccepts

section Runs

variable {db : Db} {usernames : List String} {state : Docks Digest}

/-- The soundness of a run from an empty store. -/
abbrev SoundDocks (sha256 : DockdBody → Digest) (requests : ℕ → DockdRequest) (db : Db)
    (usernames : List String) (state : Docks Digest) : Prop :=
  Sentinel.Sound (dockdProtocol sha256) requests
    { db := db, usernames := usernames, dockdIdempotency := [] } state

theorem soundDocks_run (db : Db) (usernames : List String) (steps : List Sentinel.Step) :
    SoundDocks sha256 requests db usernames
      (run (serveDocks sha256 requests) (openedDocks db usernames) steps) :=
  Sentinel.sound_run _ steps

/-- A stored row is that of the request that completed under its key. -/
theorem cached?_produced (hsound : SoundDocks sha256 requests db usernames state)
    {key : ℕ × String} {row : DockdIdempotency Digest}
    (hcached : cached? state.world key = some row) :
    ∃ producer response, (producer, .completed response) ∈ state.replies ∧
      ((requests producer).tokenId, (requests producer).idempotencyKey) = key ∧
      row = recordOf sha256 (requests producer) response := by
  rcases hsound.stored key row hcached with hinitial | ⟨producer, response, hreply, hkey, hrow⟩
  · cases hinitial
  · exact ⟨producer, response, hreply, hkey, hrow.symm⟩

/-- Every replay so far went to the request that produced its answer. -/
def ReplaysBind (requests : ℕ → DockdRequest) (state : Docks Digest) : Prop :=
  ∀ ticket response, (ticket, .replayed response) ∈ state.replies →
    ∃ producer, (producer, .completed response) ∈ state.replies ∧
      SameRequest (requests ticket) (requests producer)

theorem ReplaysBind.serve (hsha256 : Function.Injective sha256) (hbind : ReplaysBind requests state)
    (hsound : SoundDocks sha256 requests db usernames state)
    (hown : FindsOwnOrder sha256 requests state step) :
    ReplaysBind requests (serveDocks sha256 requests state step) := by
  have hserved := Sentinel.served_serve (dockdProtocol sha256) requests state step
  intro ticket response hreply
  rcases hserved.replayed hreply with hold | ⟨hlooks, hlookup⟩
  · obtain ⟨producer, hproducer, hsame⟩ := hbind ticket response hold
    exact ⟨producer, hserved.mem_replies hproducer, hsame⟩
  · obtain ⟨row, hrow, hrecall⟩ := Option.bind_eq_some_iff.mp hlookup
    obtain ⟨producer, answer, hproducer, hkey, rfl⟩ := cached?_produced hsound hrow
    have hsameKey : SameKey (requests ticket) (requests producer) :=
      ⟨(Prod.mk.inj hkey).1.symm, (Prod.mk.inj hkey).2.symm⟩
    unfold Sentinel.recollect at hrecall
    split at hrecall
    · rename_i haccepts
      obtain ⟨given, hgiven, ⟨⟩⟩ := Option.map_eq_some_iff.mp hrecall
      cases hgiven
      refine ⟨producer, hserved.mem_replies hproducer, ?_⟩
      rw [sameRequest_iff hsha256 hsameKey]
      exact ⟨haccepts, hown ticket hlooks _ hrow haccepts⟩
    · cases hrecall

/-- One request has completed under a key. -/
theorem SoundDocks.producer_unique
    (hsound : SoundDocks sha256 requests db usernames state) {left right : ℕ}
    {leftResponse rightResponse : DockdResponse}
    (hleft : (left, .completed leftResponse) ∈ state.replies)
    (hright : (right, .completed rightResponse) ∈ state.replies)
    (hleftKey : SameKey (requests ticket) (requests left))
    (hrightKey : SameKey (requests ticket) (requests right)) : left = right := by
  apply hsound.once left right leftResponse rightResponse hleft hright
  exact Prod.ext (hleftKey.1.symm.trans hrightKey.1) (hleftKey.2.symm.trans hrightKey.2)

/-- A lookup that finds another order's row is answered with that order's response. -/
theorem findsOwnOrder_of_bind (hsound : SoundDocks sha256 requests db usernames state)
    (hbind : ReplaysBind requests (serveDocks sha256 requests state step)) :
    FindsOwnOrder sha256 requests state step := by
  intro ticket hlooks row hrow haccepts
  have hsound' : SoundDocks sha256 requests db usernames
      (serveDocks sha256 requests state step) := hsound.serve step
  obtain ⟨producer, response, hproducer, hkey, rfl⟩ := cached?_produced hsound hrow
  have hsameKey : SameKey (requests ticket) (requests producer) :=
    ⟨(Prod.mk.inj hkey).1.symm, (Prod.mk.inj hkey).2.symm⟩
  have hlookup : Sentinel.lookedUp (dockdProtocol sha256) (requests ticket) state.world =
      some (.replayed response) := by
    rw [lookedUp_cached hsameKey (hsound.completed_lookup hproducer), if_pos haccepts]
  obtain ⟨other, hother, hsame⟩ := hbind ticket response
    (Sentinel.answered_of_looksUp hlooks hlookup)
  have hproducer' := (Sentinel.served_serve (dockdProtocol sha256) requests state
    step).mem_replies hproducer
  have honce := SoundDocks.producer_unique hsound' hother hproducer' hsame.1 hsameKey
  rw [honce] at hsame
  exact hsame.2.2.1.symm

/-- Replays that bind at the end of a run have bound all along. -/
theorem ReplaysBind.before (hsound : SoundDocks sha256 requests db usernames state)
    (hbind : ReplaysBind requests (run (serveDocks sha256 requests) state steps)) :
    ReplaysBind requests state := by
  have hfinal : SoundDocks sha256 requests db usernames
      (run (serveDocks sha256 requests) state steps) := hsound.run steps
  intro ticket response hreply
  obtain ⟨producer, hproducer, hsame⟩ :=
    hbind ticket response (Sentinel.mem_replies_run hreply steps)
  have hhonest := hsound.honest ticket _ hreply
  obtain ⟨row, hrow, hrecall⟩ := Option.bind_eq_some_iff.mp hhonest
  obtain ⟨first, answer, hfirst, hkey, rfl⟩ := cached?_produced hsound hrow
  have hsameKey : SameKey (requests ticket) (requests first) :=
    ⟨(Prod.mk.inj hkey).1.symm, (Prod.mk.inj hkey).2.symm⟩
  have honce := SoundDocks.producer_unique hfinal
    (Sentinel.mem_replies_run hfirst steps) hproducer hsameKey hsame.1
  subst honce
  refine ⟨first, ?_, hsame⟩
  -- The record of the request that completed holds its own answer.
  unfold Sentinel.recollect at hrecall
  split at hrecall
  · obtain ⟨given, hgiven, ⟨⟩⟩ := Option.map_eq_some_iff.mp hrecall
    cases hgiven
    exact hfirst
  · cases hrecall

theorem along_of_bind (hsound : SoundDocks sha256 requests db usernames state)
    (hbind : ReplaysBind requests (run (serveDocks sha256 requests) state steps)) :
    Along (serveDocks sha256 requests) (FindsOwnOrder sha256 requests) state steps := by
  induction steps generalizing state with
  | nil => trivial
  | cons step rest ih =>
      have hnext : SoundDocks sha256 requests db usernames
          (serveDocks sha256 requests state step) := hsound.serve step
      have hbindNext : ReplaysBind requests (serveDocks sha256 requests state step) :=
        ReplaysBind.before hnext hbind
      exact ⟨findsOwnOrder_of_bind hsound hbindNext, ih hnext hbind⟩

/-- After the commit a request is answered from the stored row, or had looked the key up
before and fails on its own. -/
theorem refused_of_bind (hsha256 : Function.Injective sha256)
    (hsound : SoundDocks sha256 requests db usernames state)
    {later : List Sentinel.Step} {producer : ℕ}
    {reply : Sentinel.Reply DockdResponse DockdRefusal}
    (hbind : ReplaysBind requests (run (serveDocks sha256 requests) state later))
    (hproducer : (producer, .completed response) ∈ state.replies)
    (hkey : SameKey (requests ticket) (requests producer))
    (hopen : state.stage ticket ≠ .closed)
    (hreply : (ticket, reply) ∈ (run (serveDocks sha256 requests) state later).replies) :
    reply = (if SameRequest (requests ticket) (requests producer) then
        .replayed response else .conflict) ∨
      (state.stage ticket ≠ .waiting ∧ ∃ refusal, reply = .failed refusal) := by
  have hfinal : SoundDocks sha256 requests db usernames
      (run (serveDocks sha256 requests) state later) := hsound.run later
  have htold := hsound.told (lookedUp_cached hkey (hsound.completed_lookup hproducer)) hopen later
  rcases htold.reply reply hreply with hrecalled | ⟨hstarted, hfailed⟩
  · left
    by_cases haccepts : accepts sha256 (requests ticket)
        (recordOf sha256 (requests producer) response)
    · rw [if_pos haccepts] at hrecalled
      rw [hrecalled] at hreply
      obtain ⟨other, hother, hsame⟩ := hbind ticket response hreply
      have honce := SoundDocks.producer_unique hfinal hother
        (Sentinel.mem_replies_run hproducer later) hsame.1 hkey
      rw [hrecalled, if_pos (honce ▸ hsame)]
    · have hdiffers : ¬ SameRequest (requests ticket) (requests producer) := by
        rw [sameRequest_iff hsha256 hkey]
        exact fun hboth => haccepts hboth.1
      rw [hrecalled, if_neg haccepts, if_neg hdiffers]
  · exact Or.inr ⟨hstarted, hfailed⟩

/-- A run binds its replays to the whole request exactly when no lookup of the run finds
the key stored for another order with the endpoint and the body of the request. -/
theorem dockd_bindsWhole_iff (hsha256 : Function.Injective sha256) (db : Db)
    (usernames : List String) (steps : List Sentinel.Step) :
    BindsWhole sha256 requests db usernames steps ↔
      Along (serveDocks sha256 requests) (FindsOwnOrder sha256 requests)
        (openedDocks db usernames) steps := by
  have hopened : SoundDocks sha256 requests db usernames (openedDocks db usernames) :=
    Sentinel.sound_opened _
  constructor
  · intro hbinds
    exact along_of_bind hopened hbinds.replays
  · intro halong
    have hsound : SoundDocks sha256 requests db usernames
        (run (serveDocks sha256 requests) (openedDocks db usernames) steps) :=
      soundDocks_run db usernames steps
    have hreplays := run_invariant
      (fun state step (hinv : SoundDocks sha256 requests db usernames state ∧
          ReplaysBind requests state) hown =>
        ⟨hinv.1.serve step, hinv.2.serve hsha256 hinv.1 hown⟩)
      ⟨hopened, by simp [ReplaysBind, openedDocks, Sentinel.opened]⟩ halong
    refine ⟨hreplays.2, ?_, ?_, ?_⟩
    · intro earlier later hsplit producer response ticket reply hproducer hkey hopen hreply
      rw [hsplit, run_append] at hreply
      have hbind := hreplays.2
      rw [hsplit, run_append] at hbind
      exact refused_of_bind hsha256 (soundDocks_run db usernames earlier) hbind hproducer
        hkey hopen hreply
    · intro key row hrow
      obtain ⟨producer, response, hreply, -, heq⟩ := cached?_produced hsound hrow
      exact ⟨producer, response, hreply, heq⟩
    · intro key ticket hholder
      exact (hsound.held key ticket hholder).2.elim fun _ hstage => hstage

end Runs

/-! ## A small dock -/

namespace SmallDock

def packed (soNumber : String) (soId : ℕ) : SalesOrder where
  soId := soId
  soNumber := soNumber
  status := .soPacked
  warehouseId := 1
  createdAt := 0

def packedLine (soId soLineId : ℕ) : SalesOrderLine where
  soLineId := soLineId
  soId := soId
  itemId := 1
  quantityOrdered := 1
  quantityAllocated := 1
  quantityPicked := 1
  quantityPacked := 1
  lineNumber := 1
  status := .ofOrder .soPacked

/-- Two packed orders of one unit each. -/
def db : Db :=
  { Db.empty with
    salesOrders := (Table.empty.insert (packed "SO-1")).insert (packed "SO-2")
    salesOrderLines := (Table.empty.insert (packedLine 1)).insert (packedLine 2) }

def label : DockdBody :=
  .ship
    { tracking := "1Z1"
      carrier := "UPS"
      shipMethod := none
      operatorUsername := "pat"
      shippingCost := none
      weight := none
      dims := none
      manualLink := false }

def dock (now : ℕ) : RequestContext where
  username := "pat"
  isAdmin := false
  hasSoFullEdit := false
  warehouseIds := [1]
  now := now
  sourceTxnId := 1

def requestOf (now : ℕ) (soNumber : String) (body : DockdBody) : DockdRequest where
  ctx := dock now
  tokenId := 1
  soNumber := soNumber
  idempotencyKey := "1d0c47aa-52f1-4a3e-9c55-0b8e6f1a7d20"
  body := body

/-- The first order is shipped, the request comes again, and its key is reused for a
void. -/
def retries : ℕ → DockdRequest
  | 0 => requestOf 1 "SO-1" label
  | 1 => requestOf 2 "SO-1" label
  | _ => requestOf 3 "SO-1" (.void { reason := "wrong box", operatorUsername := "pat" })

/-- The label of the first order sent for the second. -/
def mixedUp : ℕ → DockdRequest
  | 0 => requestOf 1 "SO-1" label
  | _ => requestOf 2 "SO-2" label

def shipThen (later : List Sentinel.Step) : List Sentinel.Step :=
  [.probe 0, .prepare 0, .claim 0, .complete 0] ++ later

def final (requests : ℕ → DockdRequest) (later : List Sentinel.Step) : Docks DockdBody :=
  run (serveDocks id requests) (openedDocks db ["pat"]) (shipThen later)

end SmallDock

theorem dockd_bindsWhole_iff_retried :
    (1, .replayed (.shipped "1Z1" 1 1)) ∈
        (SmallDock.final SmallDock.retries [.probe 1, .probe 2]).replies ∧
      BindsWhole id SmallDock.retries SmallDock.db ["pat"]
        (SmallDock.shipThen [.probe 1, .probe 2]) := by
  refine ⟨by decide, ?_⟩
  exact (dockd_bindsWhole_iff Function.injective_id _ _ _).mpr (by decide)

/-- The second order is answered with the ship of the first, and is not shipped. -/
theorem dockd_replays_otherOrder :
    (1, .replayed (.shipped "1Z1" 1 1)) ∈ (SmallDock.final SmallDock.mixedUp [.probe 1]).replies ∧
      (SmallDock.mixedUp 0).soNumber = "SO-1" ∧ (SmallDock.mixedUp 1).soNumber = "SO-2" ∧
      ((SmallDock.final SmallDock.mixedUp [.probe 1]).world.db.salesOrders.find? 2).map
        SalesOrder.status = some .soPacked ∧
      ¬ BindsWhole id SmallDock.mixedUp SmallDock.db ["pat"]
        (SmallDock.shipThen [.probe 1]) := by
  have hreplayed : (1, .replayed (.shipped "1Z1" 1 1)) ∈
      (SmallDock.final SmallDock.mixedUp [.probe 1]).replies := by decide
  refine ⟨hreplayed, rfl, rfl, by decide, ?_⟩
  intro hbinds
  obtain ⟨producer, hproducer, hsame⟩ := hbinds.replays 1 _ hreplayed
  have hreplies : (SmallDock.final SmallDock.mixedUp [.probe 1]).replies =
      [(0, .completed (.shipped "1Z1" 1 1)), (1, .replayed (.shipped "1Z1" 1 1))] := by
    decide
  change (producer, _) ∈ (SmallDock.final SmallDock.mixedUp [.probe 1]).replies at hproducer
  rw [hreplies] at hproducer
  simp only [List.mem_cons, List.not_mem_nil, Prod.mk.injEq, or_false, reduceCtorEq,
    and_false, and_true] at hproducer
  subst hproducer
  exact absurd hsame (by decide)

end SentryWms.Fulfillment
