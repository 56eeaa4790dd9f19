import SentryWms.Webhooks.Ledger

/-!
# Attempts over whole runs

In every run of the dispatcher the rows of a subscription are those of a queue whose
head is retried, whatever crashes, reapers and admins do in between.
-/

namespace SentryWms.Webhooks

open Relational SentryWms.Events

variable {Effect : Type*}

/-! ## One step -/

section Step

variable {state : Dispatcher Effect} {subscriptionId : String} {lane : Retry.Lane} {start : ℕ}

/-- Every step of the dispatcher is steps of the queue, and only a fresh selection moves
what it has reached. -/
theorem Tracks.serve (htracks : Tracks subscriptionId state lane)
    (hvalid : Retry.Valid start maxAttempts lane) (hheld : Held state)
    (step : DispatchStep Effect) :
    ∃ after, Retry.Steps maxAttempts lane after ∧
      Tracks subscriptionId (serveDispatch state step) after ∧
      (after.reach = lane.reach ∨ ∃ now subscription filter event,
        step = .claim subscriptionId now ∧ state.workers subscriptionId = none ∧
          Selects subscriptionId now state subscription filter event ∧
          ∃ head, after.current = some head ∧ head.item = event.id) := by
  have hstay : ∀ cycle ∈ state.workers subscriptionId,
      ∃ held ∈ state.workers subscriptionId, held.deliveryId = cycle.deliveryId ∧
        held.eventId = cycle.eventId ∧ held.attemptNumber = cycle.attemptNumber :=
    fun cycle hcycle => ⟨cycle, hcycle, rfl, rfl, rfl⟩
  cases step with
  | outbox step =>
      refine ⟨lane, .refl, htracks.congr rfl rfl hstay fun event hevent => ?_, Or.inl rfl⟩
      exact (CommitLog.follows_serve state.outbox step).mem_entries hevent
  | claim other now =>
      rcases serve_claim state other now with hsame | ⟨hidle, hclaimed⟩
      · rw [hsame]
        exact ⟨lane, .refl, htracks, Or.inl rfl⟩
      · by_cases hother : other = subscriptionId
        · subst hother
          obtain ⟨after, hsteps, hafter, -, hreach⟩ := htracks.claimed hvalid hclaimed
          refine ⟨after, hsteps, hafter, hreach.imp_right ?_⟩
          rintro ⟨subscription, filter, event, hselects, hevent⟩
          exact ⟨now, subscription, filter, event, rfl, hidle, hselects, hevent⟩
        · exact ⟨lane, .refl, htracks.claimed_other hother hclaimed, Or.inl rfl⟩
  | sign other now generation =>
      rcases serve_sign state other now generation with
        hsame | ⟨cycle, hcycle, -, hsigned⟩
      · rw [hsame]
        exact ⟨lane, .refl, htracks, Or.inl rfl⟩
      · refine ⟨lane, .refl, ?_, Or.inl rfl⟩
        by_cases hother : other = subscriptionId
        · subst hother
          exact htracks.signed (hheld other cycle hcycle).1 hcycle hsigned
        · exact htracks.signed_other hheld hother hcycle hsigned
  | send other now elapsedMs jitter result =>
      rcases serve_send state other now elapsedMs jitter result with
        hsame | ⟨cycle, hcycle, -, hfinished⟩
      · rw [hsame]
        exact ⟨lane, .refl, htracks, Or.inl rfl⟩
      · by_cases hother : other = subscriptionId
        · subst hother
          obtain ⟨after, hsteps, hafter, hreach, -⟩ :=
            htracks.finished hvalid (hheld other cycle hcycle).1 hcycle hfinished
          exact ⟨after, hsteps, hafter, Or.inl hreach⟩
        · exact ⟨lane, .refl, htracks.finished_other hheld hother hcycle hfinished, Or.inl rfl⟩
  | abandon other =>
      refine ⟨lane, .refl, htracks.drop ?_ rfl rfl rfl, Or.inl rfl⟩
      exact fun held hmem => (mem_setWorker_none hmem).2
  | restart now =>
      obtain ⟨after, hsteps, hafter, -, hreach⟩ := htracks.boot hvalid now
      exact ⟨after, hsteps, hafter, Or.inl hreach⟩
  | reclaim now olderThan =>
      obtain ⟨after, hsteps, hafter, -, hreach⟩ := htracks.reclaimed hvalid now olderThan
      exact ⟨after, hsteps, hafter, Or.inl hreach⟩
  | configure other filter status pauseReason pendingCeiling dlqCeiling =>
      exact ⟨lane, .refl, htracks.congr rfl
        (cursorOf_update_same (fun _ => rfl) fun _ => rfl) hstay fun _ hevent => hevent,
        Or.inl rfl⟩

end Step

/-! ## Runs -/

/-- No deliveries yet, and no worker in a cycle. -/
structure Undelivered (state : Dispatcher Effect) : Prop where
  deliveries : state.deliveries.rows = []
  workers : ∀ subscriptionId, state.workers subscriptionId = none

section Run

variable {initial state : Dispatcher Effect} {subscriptionId : String} {start : ℕ}

/-- The dispatcher follows a queue that began at the starting cursor. -/
def Follows (subscriptionId : String) (start : ℕ) (state : Dispatcher Effect) : Prop :=
  Held state ∧ ∃ lane, Retry.Valid start maxAttempts lane ∧ Tracks subscriptionId state lane

theorem Undelivered.held (hopening : Undelivered initial) : Held initial := by
  intro other cycle hcycle
  rw [hopening.workers] at hcycle
  cases hcycle

theorem Undelivered.tracks (hopening : Undelivered initial)
    (hstart : cursorOf subscriptionId initial.subscriptions = some start) :
    Tracks subscriptionId initial (Retry.idle start) := by
  constructor
  · rw [attempts, deliveriesOf, Table.select, hopening.deliveries]
    rfl
  · exact hstart
  · intro cycle hcycle
    rw [hopening.workers] at hcycle
    cases hcycle
  · exact fun head hhead => absurd hhead (Option.not_mem_none _)

theorem Undelivered.follows (hopening : Undelivered initial)
    (hstart : cursorOf subscriptionId initial.subscriptions = some start) :
    Follows subscriptionId start initial :=
  ⟨hopening.held, Retry.idle start, Retry.valid_idle start maxAttempts, hopening.tracks hstart⟩

theorem Follows.serve (hfollows : Follows subscriptionId start state) (step : DispatchStep Effect) :
    Follows subscriptionId start (serveDispatch state step) := by
  obtain ⟨hheld, lane, hvalid, htracks⟩ := hfollows
  obtain ⟨after, hsteps, hafter, -⟩ := htracks.serve hvalid hheld step
  exact ⟨hheld.serve step, after, hvalid.steps (Nat.zero_lt_succ 7) hsteps, hafter⟩

theorem Follows.run (hfollows : Follows subscriptionId start state)
    (steps : List (DispatchStep Effect)) :
    Follows subscriptionId start (run serveDispatch state steps) :=
  run_invariant (fun _ step hstep (_ : True) => hstep.serve step) hfollows
    (along_forall (fun _ _ => trivial) _ _)

/-- The stored cursor never moves back. -/
theorem Follows.cursor_mono (hfollows : Follows subscriptionId start state)
    (steps : List (DispatchStep Effect)) {before after : ℕ}
    (hbefore : cursorOf subscriptionId state.subscriptions = some before)
    (hafter : cursorOf subscriptionId (Relational.run serveDispatch state
      steps).subscriptions = some after) : before ≤ after := by
  induction steps generalizing state before with
  | nil =>
      rw [Relational.run, List.foldl_nil, hbefore] at hafter
      exact (Option.some.inj hafter).le
  | cons step rest ih =>
      obtain ⟨hheld, lane, hvalid, htracks⟩ := hfollows
      obtain ⟨next, hsteps, hnext, -⟩ := htracks.serve hvalid hheld step
      have hrest := ih (Follows.serve ⟨hheld, lane, hvalid, htracks⟩ step) hnext.cursor hafter
      have hfirst := hvalid.cursor_mono (Nat.zero_lt_succ 7) hsteps
      have hcursor : before = lane.cursor := Option.some.inj (hbefore.symm.trans htracks.cursor)
      rw [hcursor]
      exact hfirst.trans hrest

end Run

/-! ## The rows -/

/-- The delivery is decided. -/
def settled (row : WebhookDelivery) : Bool := row.status = .succeeded ∨ row.status = .dlq

/-- The rows of an event: its attempts from 1 to at most 8, all but the last failed. -/
structure AttemptLedger (rows : List WebhookDelivery) : Prop where
  bounded : rows.length ≤ maxAttempts
  numbered : rows.map WebhookDelivery.attemptNumber = List.range' 1 rows.length
  failed : ∀ row ∈ rows.dropLast, row.status = .failed

def rowsOf (subscriptionId : String) (eventId : ℕ) (deliveries : Deliveries) :
    List WebhookDelivery :=
  (deliveriesOf subscriptionId deliveries).filter fun row => row.eventId = eventId

/-- The greatest event with a settled row, or the start. -/
def greatestSettled (start : ℕ) (rows : List WebhookDelivery) : ℕ :=
  ((rows.filter settled).map WebhookDelivery.eventId).foldl max start

theorem settled_eq (row : WebhookDelivery) : settled row = (attempt row).status.isSettled := by
  cases hstatus : row.status <;>
    simp [settled, attempt, hstatus, DeliveryStatus.toRetry, Retry.Status.isSettled]

section Rows

variable {state : Dispatcher Effect} {subscriptionId : String} {lane : Retry.Lane} {start : ℕ}

/-- The rows of an event are its attempts in the queue. -/
theorem Tracks.rowsOf (htracks : Tracks subscriptionId state lane) (eventId : ℕ) :
    (rowsOf subscriptionId eventId state.deliveries).map attempt = lane.of eventId := by
  rw [Retry.Lane.of, ← htracks.rows, attempts, List.filter_map]
  rfl

/-- A settled event has a settled row. -/
theorem Tracks.settled_row (htracks : Tracks subscriptionId state lane) {eventId : ℕ}
    (hsettled : lane.Settled eventId) :
    ∃ row ∈ Webhooks.rowsOf subscriptionId eventId state.deliveries, settled row := by
  obtain ⟨last, hlast, hitem, hstatus⟩ := hsettled
  have hmem : last ∈ lane.of eventId := List.mem_filter.mpr ⟨hlast, decide_eq_true hitem⟩
  rw [← htracks.rowsOf eventId] at hmem
  obtain ⟨row, hrow, rfl⟩ := List.mem_map.mp hmem
  refine ⟨row, hrow, ?_⟩
  rw [settled_eq]
  exact hstatus

theorem Tracks.ledger (htracks : Tracks subscriptionId state lane)
    (hvalid : Retry.Valid start maxAttempts lane) (eventId : ℕ) :
    AttemptLedger (Webhooks.rowsOf subscriptionId eventId state.deliveries) := by
  obtain ⟨hlength, hnumbers, hfailed, -⟩ := hvalid.chain eventId
  rw [← htracks.rowsOf eventId] at hlength hnumbers hfailed
  rw [List.length_map] at hlength hnumbers
  constructor
  · exact hlength
  · rw [← hnumbers, List.map_map]
    rfl
  · intro row hrow
    have hmem : attempt row ∈ ((Webhooks.rowsOf subscriptionId eventId
        state.deliveries).map attempt).dropLast := by
      rw [← List.map_dropLast]
      exact List.mem_map_of_mem hrow
    have hstatus : row.status.toRetry = .failed := hfailed _ hmem
    cases hrow : row.status <;> simp_all [DeliveryStatus.toRetry]

theorem Tracks.single (htracks : Tracks subscriptionId state lane)
    (hvalid : Retry.Valid start maxAttempts lane) :
    (deliveriesOf subscriptionId state.deliveries).countP nonTerminal ≤ 1 := by
  have hcount : (deliveriesOf subscriptionId state.deliveries).countP nonTerminal =
      lane.rows.countP fun row => row.status.isOpen := by
    rw [← htracks.rows, attempts, List.countP_map]
    apply List.countP_congr
    intro row _
    rw [nonTerminal_iff]
    rfl
  have hclosed : lane.closed.countP (fun row => row.status.isOpen) = 0 := by
    rw [List.countP_eq_zero]
    intro row hrow hopen
    rw [hvalid.closed row hrow] at hopen
    cases hopen
  rw [hcount, Retry.Lane.rows, List.countP_append, hclosed, Nat.zero_add]
  exact List.countP_le_length.trans Option.length_toList_le

theorem Tracks.greatest (htracks : Tracks subscriptionId state lane)
    (hvalid : Retry.Valid start maxAttempts lane) :
    lane.cursor =
      greatestSettled start (deliveriesOf subscriptionId state.deliveries) := by
  rw [hvalid.cursor, Retry.lastSettled, ← htracks.rows, attempts, List.filter_map,
    List.map_map, greatestSettled]
  have htest : ((fun row : Retry.Attempt => row.status.isSettled) ∘ attempt) = settled := by
    funext row
    exact (settled_eq row).symm
  rw [htest]
  rfl

end Rows

/-- In every run from an empty ledger a subscription has at most one open row, every
event has attempts from 1 to at most 8 of which all but the last have failed, and the
cursor never moves back and is the greatest settled event. -/
theorem deliveries_attempted {initial final : Dispatcher Effect}
    {steps : List (DispatchStep Effect)} {subscriptionId : String} {start : ℕ}
    (hopening : Undelivered initial)
    (hstart : cursorOf subscriptionId initial.subscriptions = some start)
    (hfinal : run serveDispatch initial steps = final) :
    (deliveriesOf subscriptionId final.deliveries).countP nonTerminal ≤ 1 ∧
      (∀ eventId, AttemptLedger (rowsOf subscriptionId eventId final.deliveries)) ∧
      cursorOf subscriptionId final.subscriptions =
        some (greatestSettled start (deliveriesOf subscriptionId final.deliveries)) ∧
      ∀ front back, steps = front ++ back → ∃ earlier later,
        cursorOf subscriptionId (run serveDispatch initial front).subscriptions = some earlier ∧
        cursorOf subscriptionId final.subscriptions = some later ∧ earlier ≤ later := by
  have hfollows := (hopening.follows hstart).run steps
  rw [hfinal] at hfollows
  obtain ⟨hheld, lane, hvalid, htracks⟩ := hfollows
  refine ⟨htracks.single hvalid, htracks.ledger hvalid, ?_, ?_⟩
  · rw [htracks.cursor, htracks.greatest hvalid]
  · intro front back hsplit
    have hfront := (hopening.follows hstart).run front
    have hback : run serveDispatch (run serveDispatch initial front) back = final := by
      rw [← run_append, ← hsplit, hfinal]
    obtain ⟨frontLane, -, hfrontTracks⟩ := hfront.2
    refine ⟨_, _, hfrontTracks.cursor, htracks.cursor, ?_⟩
    apply hfront.cursor_mono back hfrontTracks.cursor
    rw [hback]
    exact htracks.cursor

/-! ## A small stream -/

namespace SmallStream

def event : Events.IntegrationEvent where
  eventType := "ship.confirmed"
  eventVersion := 1
  eventTimestamp := 0
  aggregateType := "sales_order"
  aggregateId := 1
  aggregateExternalId := "so-1"
  warehouseId := 1
  sourceTxnId := "t-1"
  payload := ""

def erp : WebhookSubscription where
  subscriptionId := "erp"
  subscriptionFilter := some {}
  lastDeliveredEventId := 0
  status := .active
  pauseReason := none
  pendingCeiling := 100
  dlqCeiling := 10

def opening : Dispatcher Unit where
  outbox := CommitLog.empty
  subscriptions := [erp]
  deliveries := Table.empty
  workers := fun _ => none

def steady : Jitter := ⟨1, 1, Nat.one_pos, by decide, by decide⟩

/-- A transaction that emits the event under the id and commits. -/
def emit (id : ℕ) : List (DispatchStep Unit) :=
  [.outbox (.draw id event), .outbox (.stamp id), .outbox (.commit id), .outbox (.tick 3000000)]

/-- One cycle with its reply. -/
def cycle (now : ℕ) (statusCode : ℕ) : List (DispatchStep Unit) :=
  [.claim "erp" now, .sign "erp" now (some 1),
    .send "erp" now 20 steady (.response (some statusCode) none none)]

/-- A server error, a crash in the next cycle, a boot and a delivery. -/
def recovered : List (DispatchStep Unit) :=
  emit 1 ++ cycle 3000000 503 ++
    [.claim "erp" 9000000, .abandon "erp", .restart 9000000] ++ cycle 9000000 200

def after (steps : List (DispatchStep Unit)) : Dispatcher Unit := run serveDispatch opening steps

end SmallStream

theorem deliveries_attempted_recovered :
    AttemptLedger (rowsOf "erp" 1 (SmallStream.after SmallStream.recovered).deliveries) ∧
      (rowsOf "erp" 1 (SmallStream.after SmallStream.recovered).deliveries).map
        WebhookDelivery.status = [.failed, .succeeded] ∧
      cursorOf "erp" (SmallStream.after SmallStream.recovered).subscriptions = some 1 := by
  have hledger := @deliveries_attempted Unit SmallStream.opening
    (SmallStream.after SmallStream.recovered) SmallStream.recovered "erp" 0
    ⟨rfl, fun _ => rfl⟩ rfl rfl
  exact ⟨hledger.2.1 1, by decide, by decide⟩

end SentryWms.Webhooks
