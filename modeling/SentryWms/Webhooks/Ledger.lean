import SentryWms.Webhooks.Dispatch
import SentryWms.Relational.Retry

/-!
# The ledger of delivery attempts

The rows of a subscription are a queue whose head is retried: the open row, if any, is
the newest, and the worker holds no other.  Every commit of a cycle, every crash and
both reapers are steps at the head, so attempts are numbered from 1 to at most 8, all
but the last of an event have failed, and the cursor is the greatest settled event.
-/

namespace SentryWms.Webhooks

open Relational SentryWms.Events

/-! ## Rows as attempts -/

def DeliveryStatus.toRetry : DeliveryStatus → Retry.Status
  | .pending => .pending
  | .inFlight => .inFlight
  | .succeeded => .succeeded
  | .failed => .failed
  | .dlq => .buried

def attempt (row : WebhookDelivery) : Retry.Attempt :=
  ⟨row.deliveryId, row.eventId, row.attemptNumber, row.status.toRetry⟩

/-- The attempts of a subscription, oldest first. -/
def attempts (subscriptionId : String) (deliveries : Deliveries) : List Retry.Attempt :=
  (deliveriesOf subscriptionId deliveries).map attempt

def cursorOf (subscriptionId : String) (subscriptions : List WebhookSubscription) : Option ℕ :=
  (findSubscription? subscriptions subscriptionId).map WebhookSubscription.lastDeliveredEventId

theorem nonTerminal_iff (row : WebhookDelivery) :
    nonTerminal row = (attempt row).status.isOpen := by
  cases hstatus : row.status <;>
    simp [nonTerminal, attempt, hstatus, DeliveryStatus.toRetry, Retry.Status.isOpen]

variable {row : WebhookDelivery} {after : Deliveries} {test : WebhookDelivery → Bool}
  {set : WebhookDelivery → WebhookDelivery} {key elapsedMs : ℕ}
  {subscription : WebhookSubscription} {cycle : Cycle} {generation : Option ℕ}
  {jitter : Jitter} {result : SendResult}

section Rows

variable {subscriptionId : String} {deliveries : Deliveries}

theorem mem_deliveriesOf :
    row ∈ deliveriesOf subscriptionId deliveries ↔
      row ∈ deliveries.rows ∧ row.subscriptionId = subscriptionId := by
  rw [deliveriesOf, Table.select, List.mem_filter, decide_eq_true_eq]

theorem deliveriesOf_insert (make : ℕ → WebhookDelivery)
    (hkey : ∀ value, (make value).deliveryId = value) :
    deliveriesOf subscriptionId (deliveries.insert make hkey) =
      deliveriesOf subscriptionId deliveries ++
        if (make deliveries.nextKey).subscriptionId = subscriptionId then
          [make deliveries.nextKey] else [] := by
  rw [deliveriesOf, Table.select, Table.insert, List.filter_append, List.filter_singleton]
  by_cases hsame : (make deliveries.nextKey).subscriptionId = subscriptionId <;>
    simp [hsame, deliveriesOf, Table.select]

/-- The rows after an update. -/
def Rewritten (test : WebhookDelivery → Bool) (set : WebhookDelivery → WebhookDelivery)
    (before after : Deliveries) : Prop :=
  after.rows = before.rows.map fun row => if test row then set row else row

theorem deliveriesOf_rewritten (hrows : Rewritten test set deliveries after)
    (hset : ∀ row, (set row).subscriptionId = row.subscriptionId) :
    deliveriesOf subscriptionId after =
      (deliveriesOf subscriptionId deliveries).map fun row =>
        if test row then set row else row := by
  rw [deliveriesOf, Table.select, hrows, List.filter_map, deliveriesOf, Table.select]
  congr 2
  funext row
  change decide ((if test row then set row else row).subscriptionId = _) = _
  by_cases htest : test row <;> simp [htest, hset]

/-- A rewrite that shows in no attempt of the subscription. -/
theorem attempts_of_same (hrows : Rewritten test set deliveries after)
    (hset : ∀ row, (set row).subscriptionId = row.subscriptionId)
    (hsame : ∀ row ∈ deliveriesOf subscriptionId deliveries, test row →
      attempt (set row) = attempt row) :
    attempts subscriptionId after = attempts subscriptionId deliveries := by
  rw [attempts, deliveriesOf_rewritten hrows hset, List.map_map]
  apply List.map_congr_left
  intro row hrow
  change attempt (if test row then set row else row) = _
  by_cases htest : test row
  · rw [if_pos htest, hsame row hrow htest]
  · rw [if_neg htest]

/-- The row with a key is rewritten. -/
abbrev RewrittenKey (key : ℕ) (set : WebhookDelivery → WebhookDelivery)
    (before after : Deliveries) : Prop :=
  Rewritten (fun row => row.deliveryId = key) set before after

theorem rewritten_updateKey (set : WebhookDelivery → WebhookDelivery)
    (hkey : ∀ row, (set row).deliveryId = row.deliveryId) :
    RewrittenKey key set deliveries (deliveries.updateKey key set hkey) :=
  rfl

/-- A rewrite of one row is a rewrite of its attempt. -/
theorem attempts_rewrittenKey (hrows : RewrittenKey key set deliveries after)
    (hset : ∀ row, (set row).subscriptionId = row.subscriptionId)
    {status : Retry.Status}
    (hstatus : ∀ row, attempt (set row) = { attempt row with status := status }) :
    attempts subscriptionId after =
      (attempts subscriptionId deliveries).map fun other =>
        if other.key = key then { other with status := status } else other := by
  rw [attempts, deliveriesOf_rewritten hrows hset, attempts, List.map_map, List.map_map]
  apply List.map_congr_left
  intro row _
  change attempt (if decide (row.deliveryId = key) then set row else row) =
    if row.deliveryId = key then { attempt row with status := status } else attempt row
  by_cases hrow : row.deliveryId = key
  · rw [decide_eq_true hrow, if_pos rfl, if_pos hrow, hstatus]
  · rw [decide_eq_false hrow, if_neg Bool.false_ne_true, if_neg hrow]

/-- A row of another subscription does not show. -/
theorem attempts_of_other (hrow : row ∈ deliveries.rows)
    (hother : row.subscriptionId ≠ subscriptionId) (hkey : row.deliveryId = key)
    (hrows : RewrittenKey key set deliveries after)
    (hset : ∀ row, (set row).subscriptionId = row.subscriptionId) :
    attempts subscriptionId after = attempts subscriptionId deliveries := by
  apply attempts_of_same hrows hset
  intro stored hstored htest
  obtain ⟨hmem, hsubscription⟩ := mem_deliveriesOf.mp hstored
  have hsame : stored = row :=
    List.inj_on_of_nodup_map deliveries.keys_nodup hmem hrow
      ((of_decide_eq_true htest).trans hkey.symm)
  rw [hsame] at hsubscription
  exact absurd hsubscription hother

theorem attempts_keys_nodup :
    ((attempts subscriptionId deliveries).map Retry.Attempt.key).Nodup := by
  rw [attempts, List.map_map]
  exact List.Nodup.sublist (List.filter_sublist.map _) deliveries.keys_nodup

end Rows

section Subscriptions

variable {subscriptionId other : String} {subscriptions : List WebhookSubscription}

theorem findSubscription?_update {set : WebhookSubscription → WebhookSubscription}
    (hset : ∀ row, (set row).subscriptionId = row.subscriptionId) :
    findSubscription? (updateSubscription other set subscriptions) subscriptionId =
      (findSubscription? subscriptions subscriptionId).map fun row =>
        if row.subscriptionId = other then set row else row := by
  rw [findSubscription?, updateSubscription, List.find?_map, findSubscription?]
  have htest : ((fun row : WebhookSubscription =>
      decide (row.subscriptionId = subscriptionId)) ∘ fun row =>
        if row.subscriptionId = other then set row else row) =
      fun row => decide (row.subscriptionId = subscriptionId) := by
    funext row
    change decide ((if row.subscriptionId = other then set row else row).subscriptionId
      = _) = _
    by_cases hrow : row.subscriptionId = other <;> simp [hrow, hset]
  rw [htest]

theorem cursorOf_update {set : WebhookSubscription → WebhookSubscription}
    (hset : ∀ row, (set row).subscriptionId = row.subscriptionId) :
    cursorOf subscriptionId (updateSubscription other set subscriptions) =
      (findSubscription? subscriptions subscriptionId).map fun row =>
        (if row.subscriptionId = other then set row else row).lastDeliveredEventId := by
  rw [cursorOf, findSubscription?_update hset, Option.map_map]
  rfl

/-- A change of other columns. -/
theorem cursorOf_update_same {set : WebhookSubscription → WebhookSubscription}
    (hset : ∀ row, (set row).subscriptionId = row.subscriptionId)
    (hsame : ∀ row, (set row).lastDeliveredEventId = row.lastDeliveredEventId) :
    cursorOf subscriptionId (updateSubscription other set subscriptions) =
      cursorOf subscriptionId subscriptions := by
  rw [cursorOf_update hset, cursorOf]
  congr 1
  funext row
  by_cases hrow : row.subscriptionId = other <;> simp [hrow, hsame]

theorem findSubscription?_id
    (hfind : findSubscription? subscriptions subscriptionId = some subscription) :
    subscription.subscriptionId = subscriptionId := by
  rw [findSubscription?] at hfind
  simpa using List.find?_some hfind

theorem cursorOf_update_other {set : WebhookSubscription → WebhookSubscription}
    (hset : ∀ row, (set row).subscriptionId = row.subscriptionId)
    (hother : other ≠ subscriptionId) :
    cursorOf subscriptionId (updateSubscription other set subscriptions) =
      cursorOf subscriptionId subscriptions := by
  rw [cursorOf_update hset, cursorOf]
  cases hfind : findSubscription? subscriptions subscriptionId with
  | none => rfl
  | some row =>
      have hne : ¬ row.subscriptionId = other := fun heq =>
        hother (heq.symm.trans (findSubscription?_id hfind))
      rw [Option.map_some, Option.map_some, if_neg hne]

theorem pause_id (reason : String) (row : WebhookSubscription) :
    (pause reason row).subscriptionId = row.subscriptionId := by
  unfold pause
  split <;> rfl

theorem cursorOf_pause (reason : String) :
    cursorOf subscriptionId (updateSubscription other (pause reason) subscriptions) =
      cursorOf subscriptionId subscriptions := by
  apply cursorOf_update_same (pause_id reason)
  intro row
  unfold pause
  split <;> rfl

theorem cursorOf_autoPause (subscription : WebhookSubscription) (afterDlq : Bool)
    (deliveries : Deliveries) :
    cursorOf subscriptionId (maybeAutoPause subscription afterDlq deliveries subscriptions) =
      cursorOf subscriptionId subscriptions := by
  unfold maybeAutoPause
  dsimp only
  split <;> split
  · rfl
  · exact cursorOf_pause _
  · rfl
  · exact cursorOf_pause _

theorem advanceCursor_id (eventId : ℕ) (row : WebhookSubscription) :
    (advanceCursor eventId row).subscriptionId = row.subscriptionId := by
  unfold advanceCursor
  split <;> rfl

theorem cursorOf_advance {cursor eventId : ℕ}
    (hcursor : cursorOf subscriptionId subscriptions = some cursor)
    (hahead : cursor < eventId) :
    cursorOf subscriptionId
      (updateSubscription subscriptionId (advanceCursor eventId) subscriptions) =
      some eventId := by
  rw [cursorOf_update (advanceCursor_id eventId)]
  rw [cursorOf] at hcursor
  obtain ⟨row, hfind, hrow⟩ := Option.map_eq_some_iff.mp hcursor
  rw [hfind, Option.map_some, if_pos (findSubscription?_id hfind), advanceCursor, hrow,
    if_pos hahead]

end Subscriptions

/-! ## Workers and their rows -/

variable {Effect : Type*}

/-- Every worker is at a row of its own subscription. -/
def Held (state : Dispatcher Effect) : Prop :=
  ∀ subscriptionId, ∀ cycle ∈ state.workers subscriptionId,
    cycle.subscription.subscriptionId = subscriptionId ∧
      ∃ row ∈ state.deliveries.rows,
        row.deliveryId = cycle.deliveryId ∧ row.subscriptionId = subscriptionId

/-- The rows before are there after, for the same subscriptions. -/
def Keeps (before after : List WebhookDelivery) : Prop :=
  ∀ row ∈ before, ∃ kept ∈ after,
    kept.deliveryId = row.deliveryId ∧ kept.subscriptionId = row.subscriptionId

theorem Keeps.refl (rows : List WebhookDelivery) : Keeps rows rows :=
  fun row hrow => ⟨row, hrow, rfl, rfl⟩

theorem Keeps.trans {first second third : List WebhookDelivery}
    (hfirst : Keeps first second) (hsecond : Keeps second third) : Keeps first third := by
  intro row hrow
  obtain ⟨kept, hkept, hid, hsubscription⟩ := hfirst row hrow
  obtain ⟨last, hlast, hlastId, hlastSubscription⟩ := hsecond kept hkept
  exact ⟨last, hlast, hlastId.trans hid, hlastSubscription.trans hsubscription⟩

theorem keeps_update {rows : List WebhookDelivery}
    (hset : ∀ row, (set row).deliveryId = row.deliveryId ∧
      (set row).subscriptionId = row.subscriptionId) :
    Keeps rows (rows.map fun row => if test row then set row else row) := by
  intro row hrow
  refine ⟨_, List.mem_map_of_mem hrow, ?_⟩
  by_cases htest : test row
  · rw [if_pos htest]
    exact hset row
  · rw [if_neg htest]
    exact ⟨rfl, rfl⟩

theorem keeps_append (rows added : List WebhookDelivery) : Keeps rows (rows ++ added) :=
  fun row hrow => ⟨row, List.mem_append_left _ hrow, rfl, rfl⟩

/-- One worker is set, to nothing or to a row of its subscription. -/
theorem Held.setWorker {state next : Dispatcher Effect} (hheld : Held state)
    (hkeeps : Keeps state.deliveries.rows next.deliveries.rows)
    {subscriptionId : String} {cycle : Option Cycle}
    (hworkers : next.workers = Function.update state.workers subscriptionId cycle)
    (hcycle : ∀ held ∈ cycle, held.subscription.subscriptionId = subscriptionId ∧
      ∃ row ∈ next.deliveries.rows,
        row.deliveryId = held.deliveryId ∧ row.subscriptionId = subscriptionId) :
    Held next := by
  intro other held hother
  rw [hworkers] at hother
  by_cases hsame : other = subscriptionId
  · subst hsame
    rw [Function.update_self] at hother
    exact hcycle held hother
  · rw [Function.update_of_ne hsame] at hother
    obtain ⟨hid, row, hrow, hkey, hsubscription⟩ := hheld other held hother
    obtain ⟨kept, hkept, hkeptId, hkeptSubscription⟩ := hkeeps row hrow
    exact ⟨hid, kept, hkept, hkeptId.trans hkey, hkeptSubscription.trans hsubscription⟩

/-! ## What a transaction can do -/

/-- An active subscription without an open row selects a fresh event. -/
structure Selects (subscriptionId : String) (now : ℕ) (state : Dispatcher Effect)
    (subscription : WebhookSubscription) (filter : SubscriptionFilter)
    (event : EventRow) : Prop where
  stored : findSubscription? state.subscriptions subscriptionId = some subscription
  active : subscription.status = .active
  terminal : hasNonTerminalDelivery subscriptionId state.deliveries = false
  parsed : subscription.subscriptionFilter = some filter
  fresh : freshEvent filter now subscription.lastDeliveredEventId state.outbox = some event

/-- The outcomes of the first transaction of a cycle. -/
inductive Claimed (subscriptionId : String) (now : ℕ) (state : Dispatcher Effect) :
    Dispatcher Effect → Prop
  | idle : Claimed subscriptionId now state state
  | malformed : Claimed subscriptionId now state
      { state with
        subscriptions := updateSubscription subscriptionId (pause "malformed_filter")
          state.subscriptions }
  | pending (subscription : WebhookSubscription) (row : WebhookDelivery)
      (hfind : findSubscription? state.subscriptions subscriptionId = some subscription)
      (hrow : row ∈ deliveriesOf subscriptionId state.deliveries)
      (hpending : row.status = .pending) :
      Claimed subscriptionId now state (flipInFlight subscription now row state)
  | fresh (subscription : WebhookSubscription) (filter : SubscriptionFilter)
      (event : EventRow)
      (hselects : Selects subscriptionId now state subscription filter event) :
      Claimed subscriptionId now state
        (flipInFlight subscription now
          (pendingDelivery subscriptionId event.id 1 now state.deliveries.nextKey)
          { state with
            deliveries := state.deliveries.insert
              (pendingDelivery subscriptionId event.id 1 now) fun value => Eq.refl value })

theorem selectNextPending_mem {subscriptionId : String} {now : ℕ} {deliveries : Deliveries}
    (hselect : selectNextPending subscriptionId now deliveries = some row) :
    row ∈ deliveriesOf subscriptionId deliveries ∧ row.status = .pending := by
  have hsorted := List.mem_of_mem_head? (Option.mem_def.mpr hselect)
  obtain ⟨hrow, hstatus⟩ := List.mem_filter.mp ((List.perm_insertionSort _ _).mem_iff.mp hsorted)
  exact ⟨hrow, (of_decide_eq_true hstatus).1⟩

theorem claimed_claim (subscriptionId : String) (now : ℕ) (state : Dispatcher Effect) :
    Claimed subscriptionId now state (claim subscriptionId now state) := by
  unfold claim
  cases hfind : findSubscription? state.subscriptions subscriptionId with
  | none => exact .idle
  | some subscription =>
      by_cases hactive : subscription.status ≠ .active
      · simp only [if_pos hactive]
        exact .idle
      · simp only [if_neg hactive]
        cases hpending : selectNextPending subscriptionId now state.deliveries with
        | some row =>
            obtain ⟨hrow, hstatus⟩ := selectNextPending_mem hpending
            exact .pending subscription row hfind hrow hstatus
        | none =>
            cases hterminal : hasNonTerminalDelivery subscriptionId state.deliveries with
            | true => exact .idle
            | false =>
                cases hfilter : subscription.subscriptionFilter with
                | none => exact .malformed
                | some filter =>
                    dsimp only
                    cases hevent : freshEvent filter now
                        subscription.lastDeliveredEventId state.outbox with
                    | none => exact .idle
                    | some event =>
                        exact .fresh subscription filter event
                          ⟨hfind, not_not.mp hactive, hterminal, hfilter, hevent⟩

/-- The outcomes of the second transaction of a cycle. -/
inductive Signed (cycle : Cycle) (now : ℕ) (generation : Option ℕ)
    (state : Dispatcher Effect) : Dispatcher Effect → Prop
  | raised (hraised : generation = none) : Signed cycle now generation state
      (setWorker cycle.subscription.subscriptionId none state)
  | signed (stamped : ℕ) : Signed cycle now generation state
      (setWorker cycle.subscription.subscriptionId (some { cycle with signed := true })
        { state with
          deliveries := state.deliveries.updateKey cycle.deliveryId
            (signedRow stamped) (signedRow_key stamped) })
  | missing (hmissing : ∀ event ∈ state.outbox.entries, event.id ≠ cycle.eventId) :
      Signed cycle now generation state
        (setWorker cycle.subscription.subscriptionId none
          { state with
            deliveries := state.deliveries.updateKey cycle.deliveryId
              (missingRow now) (missingRow_key now) })

theorem signed_sign (cycle : Cycle) (now : ℕ) (generation : Option ℕ) (state : Dispatcher Effect) :
    Signed cycle now generation state (sign cycle now generation state) := by
  unfold sign
  by_cases hfound : (state.outbox.entries.any fun event => event.id = cycle.eventId)
  · rw [if_pos hfound]
    cases generation with
    | none => exact .raised rfl
    | some stamped => exact .signed stamped
  · rw [if_neg hfound]
    apply Signed.missing
    intro event hevent hid
    exact hfound (List.any_eq_true.mpr ⟨event, hevent, decide_eq_true hid⟩)

/-- The outcomes of the last transaction of a cycle. -/
inductive Finished (cycle : Cycle) (now elapsedMs : ℕ) (jitter : Jitter)
    (result : SendResult) (state : Dispatcher Effect) : Dispatcher Effect → Prop
  | dropped (hdropped : result = .violation ∨ (cycle.attemptNumber < maxAttempts ∧
        retryDelay (cycle.attemptNumber + 1) jitter = none)) :
      Finished cycle now elapsedMs jitter result state
        (setWorker cycle.subscription.subscriptionId none state)
  | succeeded (httpStatus : Option ℕ) : Finished cycle now elapsedMs jitter result state
      (markSucceeded cycle now elapsedMs httpStatus state)
  | dlq (httpStatus : Option ℕ) (failure : String × Option String) :
      Finished cycle now elapsedMs jitter result state
        (markDlq cycle now elapsedMs httpStatus failure state)
  | failed (httpStatus : Option ℕ) (failure : String × Option String) (delay : ℕ)
      (hnumber : cycle.attemptNumber < maxAttempts) :
      Finished cycle now elapsedMs jitter result state
        (markFailed cycle now elapsedMs delay httpStatus failure state)

theorem finished_conclude (cycle : Cycle) (now elapsedMs : ℕ) (jitter : Jitter)
    (result : SendResult) (state : Dispatcher Effect) (httpStatus : Option ℕ)
    (errorKind errorDetail : Option String) :
    Finished cycle now elapsedMs jitter result state
      (finish.conclude cycle now elapsedMs jitter state httpStatus errorKind
        errorDetail) := by
  unfold finish.conclude
  by_cases hsuccess : is2xx httpStatus
  · rw [if_pos hsuccess]
    exact .succeeded httpStatus
  · rw [if_neg hsuccess]
    dsimp only
    by_cases hterminal : isPermanentFailure
        (classifyFailure httpStatus errorKind errorDetail).1 httpStatus ∨
        isTerminalAttempt cycle.attemptNumber
    · rw [if_pos hterminal]
      exact .dlq httpStatus _
    · rw [if_neg hterminal]
      have hnumber : cycle.attemptNumber < maxAttempts := by
        simpa [isTerminalAttempt] using (not_or.mp hterminal).2
      cases hdelay : retryDelay (cycle.attemptNumber + 1) jitter with
      | none => exact .dropped (Or.inr ⟨hnumber, hdelay⟩)
      | some delay => exact .failed httpStatus _ delay hnumber

theorem finished_finish (cycle : Cycle) (now elapsedMs : ℕ) (jitter : Jitter)
    (result : SendResult) (state : Dispatcher Effect) :
    Finished cycle now elapsedMs jitter result state
      (finish cycle now elapsedMs jitter result state) := by
  cases result with
  | violation => exact .dropped (Or.inl rfl)
  | raised | response => exact finished_conclude ..

theorem freshEvent_mem {filter : SubscriptionFilter} {now cursor : ℕ}
    {outbox : Outbox Effect} {event : EventRow}
    (hevent : freshEvent filter now cursor outbox = some event) :
    event ∈ outbox.entries ∧ matchesFilter filter event.payload ∧ cursor < event.id := by
  have hread := Tail.mem_readPage (List.mem_of_mem_head? (Option.mem_def.mpr hevent))
  obtain ⟨hentry, -, hmatches⟩ := Tail.mem_visible.mp hread.1
  exact ⟨hentry, hmatches, hread.2⟩

/-! ## Every worker keeps to its subscription -/

section Step

variable {state next : Dispatcher Effect} {subscriptionId : String} {now : ℕ}

theorem Held.flip (hheld : Held state) (hrow : row ∈ state.deliveries.rows)
    (hsubscription : row.subscriptionId = subscription.subscriptionId) :
    Held (flipInFlight subscription now row state) := by
  have hkeeps : Keeps state.deliveries.rows
      (flipInFlight subscription now row state).deliveries.rows :=
    keeps_update fun _ => ⟨rfl, rfl⟩
  apply hheld.setWorker hkeeps rfl
  intro held hmem
  cases hmem
  obtain ⟨kept, hkept, hid, hkeptSubscription⟩ := hkeeps row hrow
  exact ⟨rfl, kept, hkept, hid, hkeptSubscription.trans hsubscription⟩

theorem Held.claimed (hheld : Held state)
    (hclaimed : Claimed subscriptionId now state next) : Held next := by
  cases hclaimed with
  | idle | malformed => exact hheld
  | pending subscription row hfind hrow hpending =>
      obtain ⟨hmem, hsubscription⟩ := mem_deliveriesOf.mp hrow
      exact hheld.flip hmem (hsubscription.trans (findSubscription?_id hfind).symm)
  | fresh subscription filter event hselects =>
      have hinserted : Held { state with
          deliveries := state.deliveries.insert
            (pendingDelivery subscriptionId event.id 1 now) fun _ => rfl } := by
        intro other cycle hcycle
        obtain ⟨hid, row, hrow, hkey, hsubscription⟩ := hheld other cycle hcycle
        exact ⟨hid, row, List.mem_append_left _ hrow, hkey, hsubscription⟩
      apply hinserted.flip
      · exact List.mem_append_right _ List.mem_cons_self
      · exact (findSubscription?_id hselects.stored).symm

/-- A worker that lets go of its row. -/
theorem Held.drop (hheld : Held state)
    (hkeeps : Keeps state.deliveries.rows next.deliveries.rows)
    (hworkers : next.workers = Function.update state.workers subscriptionId none) :
    Held next :=
  hheld.setWorker hkeeps hworkers fun _ hmem => absurd hmem (Option.not_mem_none _)

theorem Held.signed (hheld : Held state) (hcycle : state.workers subscriptionId = some cycle)
    (hsigned : Signed cycle now generation state next) : Held next := by
  obtain ⟨hid, row, hrow, hkey, hsubscription⟩ := hheld subscriptionId cycle hcycle
  cases hsigned with
  | raised hraised => exact hheld.drop (Keeps.refl _) rfl
  | signed stamped =>
      have hkeeps : Keeps state.deliveries.rows (state.deliveries.updateKey
          cycle.deliveryId (signedRow stamped) fun _ => rfl).rows :=
        keeps_update fun _ => ⟨rfl, rfl⟩
      apply hheld.setWorker hkeeps rfl
      intro held hmem
      cases hmem
      obtain ⟨kept, hkept, hkeptId, hkeptSubscription⟩ := hkeeps row hrow
      exact ⟨rfl, kept, hkept, hkeptId.trans hkey,
        (hkeptSubscription.trans hsubscription).trans hid.symm⟩
  | missing hmissing => exact hheld.drop (keeps_update fun _ => ⟨rfl, rfl⟩) rfl

theorem Held.finished (hheld : Held state)
    (hfinished : Finished cycle now elapsedMs jitter result state next) : Held next := by
  cases hfinished with
  | dropped hdropped => exact hheld.drop (Keeps.refl _) rfl
  | succeeded | dlq =>
      exact hheld.drop (keeps_update fun _ => ⟨rfl, rfl⟩) rfl
  | failed httpStatus failure delay hnumber =>
      have hfirst : Keeps state.deliveries.rows (state.deliveries.updateKey
          cycle.deliveryId (failedRow .failed now elapsedMs httpStatus failure)
            fun _ => rfl).rows :=
        keeps_update fun _ => ⟨rfl, rfl⟩
      exact hheld.drop (hfirst.trans (keeps_append _ _)) rfl

/-- A claim does nothing while the worker is in a cycle. -/
theorem serve_claim (state : Dispatcher Effect) (subscriptionId : String) (now : ℕ) :
    serveDispatch state (.claim subscriptionId now) = state ∨
      (state.workers subscriptionId = none ∧ Claimed subscriptionId now state
        (serveDispatch state (.claim subscriptionId now))) := by
  rw [serveDispatch]
  split
  next hidle => exact Or.inr ⟨hidle, claimed_claim _ _ _⟩
  next => exact Or.inl rfl

theorem serve_sign (state : Dispatcher Effect) (subscriptionId : String) (now : ℕ)
    (generation : Option ℕ) :
    serveDispatch state (.sign subscriptionId now generation) = state ∨
      ∃ cycle, state.workers subscriptionId = some cycle ∧ cycle.signed = false ∧
        Signed cycle now generation state
          (serveDispatch state (.sign subscriptionId now generation)) := by
  rw [serveDispatch]
  split
  next cycle hcycle =>
    split
    next => exact Or.inl rfl
    next hsigned =>
      exact Or.inr ⟨cycle, hcycle, Bool.eq_false_of_not_eq_true hsigned, signed_sign ..⟩
  next => exact Or.inl rfl

theorem serve_send (state : Dispatcher Effect) (subscriptionId : String)
    (now elapsedMs : ℕ) (jitter : Jitter) (result : SendResult) :
    serveDispatch state (.send subscriptionId now elapsedMs jitter result) = state ∨
      ∃ cycle, state.workers subscriptionId = some cycle ∧ cycle.signed ∧
        Finished cycle now elapsedMs jitter result state
          (serveDispatch state (.send subscriptionId now elapsedMs jitter result)) := by
  rw [serveDispatch]
  split
  next cycle hcycle =>
    split
    next hsigned => exact Or.inr ⟨cycle, hcycle, hsigned, finished_finish ..⟩
    next => exact Or.inl rfl
  next => exact Or.inl rfl

theorem Held.serve (hheld : Held state) (step : DispatchStep Effect) :
    Held (serveDispatch state step) := by
  cases step with
  | outbox step => exact hheld
  | claim sid now =>
      rcases serve_claim state sid now with hsame | ⟨-, hclaimed⟩
      · rw [hsame]
        exact hheld
      · exact hheld.claimed hclaimed
  | sign sid now generation =>
      rcases serve_sign state sid now generation with
        hsame | ⟨cycle, hcycle, -, hsigned⟩
      · rw [hsame]
        exact hheld
      · exact hheld.signed hcycle hsigned
  | send sid now elapsedMs jitter result =>
      rcases serve_send state sid now elapsedMs jitter result with
        hsame | ⟨cycle, hcycle, -, hfinished⟩
      · rw [hsame]
        exact hheld
      · exact hheld.finished hfinished
  | abandon sid => exact hheld.drop (Keeps.refl _) rfl
  | restart now => exact fun other cycle hcycle => absurd hcycle (Option.not_mem_none _)
  | reclaim now olderThan =>
      have hkeeps : Keeps state.deliveries.rows
          (reclaimStaleInFlight now olderThan state.deliveries).rows :=
        keeps_update fun _ => ⟨rfl, rfl⟩
      intro other cycle hcycle
      obtain ⟨hid, row, hrow, hkey, hsubscription⟩ := hheld other cycle hcycle
      obtain ⟨kept, hkept, hkeptId, hkeptSubscription⟩ := hkeeps row hrow
      exact ⟨hid, kept, hkept, hkeptId.trans hkey, hkeptSubscription.trans hsubscription⟩
  | configure sid filter status pauseReason pendingCeiling dlqCeiling => exact hheld

end Step

/-! ## The queue of a subscription -/

/-- The rows, the cursor and the worker of a subscription are those of the queue, and
the event at the head is in the outbox. -/
structure Tracks (subscriptionId : String) (state : Dispatcher Effect)
    (lane : Retry.Lane) : Prop where
  rows : attempts subscriptionId state.deliveries = lane.rows
  cursor : cursorOf subscriptionId state.subscriptions = some lane.cursor
  holds : ∀ cycle ∈ state.workers subscriptionId, ∃ status, lane.current =
    some ⟨cycle.deliveryId, cycle.eventId, cycle.attemptNumber, status⟩
  event : ∀ head ∈ lane.current, ∃ event ∈ state.outbox.entries, event.id = head.item

section Tracking

variable {state next : Dispatcher Effect} {subscriptionId other : String} {now : ℕ}
  {lane : Retry.Lane} {start : ℕ}

theorem Tracks.keys_nodup (htracks : Tracks subscriptionId state lane) :
    (lane.rows.map Retry.Attempt.key).Nodup :=
  htracks.rows ▸ attempts_keys_nodup

/-- What does not touch the subscription. -/
theorem Tracks.congr (htracks : Tracks subscriptionId state lane)
    (hrows : attempts subscriptionId next.deliveries = attempts subscriptionId state.deliveries)
    (hcursor : cursorOf subscriptionId next.subscriptions =
      cursorOf subscriptionId state.subscriptions)
    (hworkers : ∀ cycle ∈ next.workers subscriptionId,
      ∃ held ∈ state.workers subscriptionId, held.deliveryId = cycle.deliveryId ∧
        held.eventId = cycle.eventId ∧ held.attemptNumber = cycle.attemptNumber)
    (houtbox : ∀ event ∈ state.outbox.entries, event ∈ next.outbox.entries) :
    Tracks subscriptionId next lane := by
  constructor
  · exact hrows.trans htracks.rows
  · exact hcursor.trans htracks.cursor
  · intro cycle hcycle
    obtain ⟨held, hheld, hkey, hitem, hnumber⟩ := hworkers cycle hcycle
    rw [← hkey, ← hitem, ← hnumber]
    exact htracks.holds held hheld
  · intro head hhead
    obtain ⟨event, hevent, hid⟩ := htracks.event head hhead
    exact ⟨event, houtbox event hevent, hid⟩

/-- Rewriting the row of the head rewrites the head. -/
theorem Tracks.attempts_head (htracks : Tracks subscriptionId state lane)
    {head : Retry.Attempt} (hhead : lane.current = some head)
    (hrows : RewrittenKey head.key set state.deliveries after)
    (hset : ∀ row, (set row).subscriptionId = row.subscriptionId)
    {status : Retry.Status}
    (hstatus : ∀ row, attempt (set row) = { attempt row with status := status }) :
    attempts subscriptionId after = lane.closed ++ [{ head with status := status }] := by
  rw [attempts_rewrittenKey hrows hset hstatus, htracks.rows]
  exact Retry.map_current htracks.keys_nodup hhead fun row => { row with status := status }

theorem Tracks.flip (htracks : Tracks subscriptionId state lane)
    (hid : subscription.subscriptionId = subscriptionId)
    (hhead : lane.current = some (attempt row)) :
    Tracks subscriptionId (flipInFlight subscription now row state)
      { lane with current := some { attempt row with status := .inFlight } } := by
  constructor
  · exact htracks.attempts_head hhead
      (rewritten_updateKey (claimedRow now) fun _ => rfl)
      (fun _ => rfl) fun _ => rfl
  · exact htracks.cursor
  · intro cycle hcycle
    change cycle ∈ Function.update state.workers subscription.subscriptionId _ _ at hcycle
    rw [hid, Function.update_self] at hcycle
    cases hcycle
    exact ⟨.inFlight, rfl⟩
  · intro head hmem
    cases hmem
    exact htracks.event (attempt row) hhead

/-- A subscription that selects a fresh event has nothing at the head. -/
theorem Tracks.idle_of_selects (htracks : Tracks subscriptionId state lane)
    (hvalid : Retry.Valid start maxAttempts lane) {filter : SubscriptionFilter}
    {event : EventRow}
    (hselects : Selects subscriptionId now state subscription filter event) :
    lane.current = none ∧ subscription.lastDeliveredEventId = lane.cursor := by
  constructor
  · by_contra hbusy
    obtain ⟨head, hhead⟩ := Option.ne_none_iff_exists'.mp hbusy
    have hmem : head ∈ attempts subscriptionId state.deliveries := by
      rw [htracks.rows]
      exact List.mem_append_right _ (Option.mem_toList.mpr hhead)
    obtain ⟨row, hrow, rfl⟩ := List.mem_map.mp hmem
    have hopen := hvalid.current (attempt row) hhead
    have hterminal := hselects.terminal
    rw [← nonTerminal_iff] at hopen
    rw [hasNonTerminalDelivery, List.any_eq_false] at hterminal
    exact hterminal row hrow hopen
  · have hstored := htracks.cursor
    rw [cursorOf, hselects.stored] at hstored
    exact Option.some.inj hstored

/-- The claim of a pending row or of a fresh event is a step at the head. -/
theorem Tracks.claimed (htracks : Tracks subscriptionId state lane)
    (hvalid : Retry.Valid start maxAttempts lane)
    (hclaimed : Claimed subscriptionId now state next) :
    ∃ after, Retry.Steps maxAttempts lane after ∧ Tracks subscriptionId next after ∧
      after.closed = lane.closed ∧ (after.reach = lane.reach ∨
        ∃ subscription filter event,
          Selects subscriptionId now state subscription filter event ∧
            ∃ head, after.current = some head ∧ head.item = event.id) := by
  cases hclaimed with
  | idle => exact ⟨lane, .refl, htracks, rfl, Or.inl rfl⟩
  | malformed =>
      refine ⟨lane, .refl, htracks.congr rfl (cursorOf_pause _) ?_ ?_, rfl, Or.inl rfl⟩
      · exact fun cycle hcycle => ⟨cycle, hcycle, rfl, rfl, rfl⟩
      · exact fun _ hevent => hevent
  | pending subscription row hfind hrow hpending =>
      have hmem : attempt row ∈ lane.rows := htracks.rows ▸ List.mem_map_of_mem hrow
      have hopen : (attempt row).status.isOpen := by
        simp [attempt, hpending, DeliveryStatus.toRetry, Retry.Status.isOpen]
      have hhead := hvalid.current_of_open hmem hopen
      refine ⟨_, .single (.mark _ .inFlight hhead rfl),
        htracks.flip (findSubscription?_id hfind) hhead, rfl, Or.inl ?_⟩
      rw [Retry.Lane.reach, Retry.Lane.reach, hhead]
      rfl
  | fresh subscription filter event hselects =>
      obtain ⟨hidle, hcursor⟩ := htracks.idle_of_selects hvalid hselects
      obtain ⟨hentry, -, hafter⟩ := freshEvent_mem hselects.fresh
      have hnew : Tracks subscriptionId
          { state with
            deliveries := state.deliveries.insert (pendingDelivery subscriptionId event.id 1 now) }
          { lane with
            current := some ⟨state.deliveries.nextKey, event.id, 1, .pending⟩ } := by
        constructor
        · rw [attempts, deliveriesOf_insert, List.map_append]
          change attempts subscriptionId state.deliveries ++ _ = _
          rw [htracks.rows, Retry.Lane.rows, hidle, Option.toList_none, List.append_nil]
          simp [pendingDelivery, attempt, DeliveryStatus.toRetry, Retry.Lane.rows]
        · exact htracks.cursor
        · intro cycle hcycle
          obtain ⟨status, hbusy⟩ := htracks.holds cycle hcycle
          rw [hidle] at hbusy
          cases hbusy
        · intro head hhead
          cases hhead
          exact ⟨event, hentry, rfl⟩
      exact ⟨_, .tail (.single (.take _ _ hidle (hcursor ▸ hafter)))
        (.mark _ .inFlight rfl rfl), hnew.flip (findSubscription?_id hselects.stored) rfl,
        rfl, Or.inr ⟨subscription, filter, event, hselects, _, rfl, rfl⟩⟩

/-- A worker that lets go leaves the rows to the queue. -/
theorem Tracks.drop (htracks : Tracks subscriptionId state lane)
    (hother : ∀ cycle ∈ next.workers subscriptionId, cycle ∈ state.workers subscriptionId)
    (hdeliveries : next.deliveries = state.deliveries)
    (hsubscriptions : next.subscriptions = state.subscriptions)
    (houtbox : next.outbox = state.outbox) : Tracks subscriptionId next lane := by
  apply htracks.congr
  · rw [hdeliveries]
  · rw [hsubscriptions]
  · exact fun cycle hcycle => ⟨cycle, hother cycle hcycle, rfl, rfl, rfl⟩
  · rw [houtbox]
    exact fun _ hevent => hevent

theorem mem_setWorker_none
    (hcycle : cycle ∈ Function.update state.workers other none subscriptionId) :
    subscriptionId ≠ other ∧ cycle ∈ state.workers subscriptionId := by
  by_cases hsame : subscriptionId = other
  · rw [hsame, Function.update_self] at hcycle
    cases hcycle
  · rw [Function.update_of_ne hsame] at hcycle
    exact ⟨hsame, hcycle⟩

/-- The event of a held row is in the outbox, so signing leaves the queue as it is. -/
theorem Tracks.signed (htracks : Tracks subscriptionId state lane)
    (hid : cycle.subscription.subscriptionId = subscriptionId)
    (hcycle : state.workers subscriptionId = some cycle)
    (hsigned : Signed cycle now generation state next) : Tracks subscriptionId next lane := by
  cases hsigned with
  | raised hraised =>
      apply htracks.drop
      · exact fun held hheld => (mem_setWorker_none hheld).2
      all_goals rfl
  | signed stamped =>
      apply htracks.congr
      · exact attempts_of_same rfl (fun _ => rfl) fun _ _ _ => rfl
      · rfl
      · intro held hheld
        change held ∈ Function.update state.workers cycle.subscription.subscriptionId _ _ at hheld
        rw [hid, Function.update_self] at hheld
        cases hheld
        exact ⟨cycle, hcycle, rfl, rfl, rfl⟩
      · exact fun _ hevent => hevent
  | missing hmissing =>
      obtain ⟨status, hhead⟩ := htracks.holds cycle hcycle
      obtain ⟨event, hevent, hitem⟩ := htracks.event _ hhead
      exact absurd hitem (hmissing event hevent)

/-- The end of a cycle settles the head, retries it or leaves it. -/
theorem Tracks.finished (htracks : Tracks subscriptionId state lane)
    (hvalid : Retry.Valid start maxAttempts lane)
    (hid : cycle.subscription.subscriptionId = subscriptionId)
    (hcycle : state.workers subscriptionId = some cycle)
    (hfinished : Finished cycle now elapsedMs jitter result state next) :
    ∃ after, Retry.Steps maxAttempts lane after ∧ Tracks subscriptionId next after ∧
      after.reach = lane.reach ∧
      (after.closed = lane.closed ∧ result = .violation ∨ ∃ last,
        after.closed = lane.closed ++ [last] ∧ last.item = cycle.eventId) := by
  subst hid
  obtain ⟨status, hhead⟩ := htracks.holds cycle hcycle
  have hahead := hvalid.ahead _ hhead
  have hreach : lane.reach = cycle.eventId := by
    rw [Retry.Lane.reach, hhead]
    rfl
  have hidle : ∀ held, held ∉ Function.update state.workers
      cycle.subscription.subscriptionId none cycle.subscription.subscriptionId :=
    fun held hheld => (mem_setWorker_none hheld).1 rfl
  cases hfinished with
  | dropped hdropped =>
      have hkept : Tracks cycle.subscription.subscriptionId
          (setWorker cycle.subscription.subscriptionId none state) lane :=
        htracks.drop (fun held hheld => absurd hheld (hidle held)) rfl rfl rfl
      refine ⟨lane, .refl, hkept, rfl, Or.inl ⟨rfl, ?_⟩⟩
      rcases hdropped with hviolation | ⟨hnumber, hdelay⟩
      · exact hviolation
      · exact absurd hdelay (retryDelay_ne_none (hvalid.number_pos hhead) hnumber)
  | succeeded httpStatus =>
      refine ⟨_, .single (.settle _ .succeeded hhead rfl), ⟨?_, ?_, ?_, ?_⟩,
        hreach.symm, Or.inr ⟨_, rfl, rfl⟩⟩
      · rw [Retry.Lane.rows, Option.toList_none, List.append_nil]
        exact htracks.attempts_head hhead
          (rewritten_updateKey (succeededRow now elapsedMs httpStatus) fun _ => rfl)
          (fun _ => rfl) fun _ => rfl
      · exact cursorOf_advance htracks.cursor hahead
      · exact fun held hheld => absurd hheld (hidle held)
      · exact fun head hmem => absurd hmem (Option.not_mem_none _)
  | dlq httpStatus failure =>
      refine ⟨_, .single (.settle _ .buried hhead rfl), ⟨?_, ?_, ?_, ?_⟩,
        hreach.symm, Or.inr ⟨_, rfl, rfl⟩⟩
      · rw [Retry.Lane.rows, Option.toList_none, List.append_nil]
        exact htracks.attempts_head hhead
          (rewritten_updateKey (failedRow .dlq now elapsedMs httpStatus failure) fun _ => rfl)
          (fun _ => rfl) fun _ => rfl
      · rw [markDlq_subscriptions, cursorOf_autoPause]
        exact cursorOf_advance htracks.cursor hahead
      · exact fun held hheld => absurd hheld (hidle held)
      · exact fun head hmem => absurd hmem (Option.not_mem_none _)
  | failed httpStatus failure delay hnumber =>
      refine ⟨_, .single (.retry _ state.deliveries.nextKey hhead hnumber),
        ⟨?_, ?_, ?_, ?_⟩, hreach.symm, Or.inr ⟨_, rfl, rfl⟩⟩
      · rw [markFailed_deliveries, attempts, deliveriesOf_insert, List.map_append]
        have hfailed : attempts cycle.subscription.subscriptionId
            (state.deliveries.updateKey cycle.deliveryId
              (failedRow .failed now elapsedMs httpStatus failure) fun _ => rfl) =
            lane.closed ++ [⟨cycle.deliveryId, cycle.eventId, cycle.attemptNumber,
              .failed⟩] := by
          exact htracks.attempts_head hhead
              (rewritten_updateKey (failedRow .failed now elapsedMs httpStatus failure)
                fun _ => rfl)
              (fun _ => rfl) fun _ => rfl
        rw [attempts] at hfailed
        rw [hfailed]
        simp [pendingDelivery, attempt, DeliveryStatus.toRetry, Retry.Lane.rows,
          Table.updateKey, Table.update]
      · rw [markFailed_subscriptions, cursorOf_autoPause]
        exact htracks.cursor
      · exact fun held hheld => absurd hheld (hidle held)
      · intro head hmem
        cases hmem
        exact htracks.event ⟨_, _, _, status⟩ hhead

/-- Rows that are in flight go back to pending: the head, if any. -/
theorem Tracks.released (htracks : Tracks subscriptionId state lane)
    (hvalid : Retry.Valid start maxAttempts lane)
    (htest : ∀ row, test row → row.status = .inFlight)
    (hrewritten : Rewritten test (release now) state.deliveries next.deliveries)
    (hsubscriptions : next.subscriptions = state.subscriptions)
    (hworkers : ∀ cycle ∈ next.workers subscriptionId,
      cycle ∈ state.workers subscriptionId) (houtbox : next.outbox = state.outbox) :
    ∃ after, Retry.Steps maxAttempts lane after ∧ Tracks subscriptionId next after ∧
      after.closed = lane.closed ∧ after.reach = lane.reach := by
  by_cases hreleased : ∃ row ∈ deliveriesOf subscriptionId state.deliveries, test row
  · obtain ⟨row, hrow, hpasses⟩ := hreleased
    have hmem : attempt row ∈ lane.rows := htracks.rows ▸ List.mem_map_of_mem hrow
    have hopen : (attempt row).status.isOpen := by
      simp [attempt, htest row hpasses, DeliveryStatus.toRetry, Retry.Status.isOpen]
    have hhead := hvalid.current_of_open hmem hopen
    have hreach : lane.reach = (attempt row).item := by
      rw [Retry.Lane.reach, hhead]
      rfl
    refine ⟨_, .single (.mark _ .pending hhead rfl), ⟨?_, ?_, ?_, ?_⟩, rfl, hreach.symm⟩
    · have honly : attempts subscriptionId next.deliveries =
          attempts subscriptionId (state.deliveries.updateKey row.deliveryId
            (release now) fun _ => rfl) := by
        rw [attempts, attempts, deliveriesOf_rewritten hrewritten fun _ => rfl,
          deliveriesOf_rewritten
            (rewritten_updateKey (release now) fun _ => rfl) fun _ => rfl]
        congr 1
        apply List.map_congr_left
        intro other hother
        have hsame : test other = decide (other.deliveryId = row.deliveryId) := by
          rw [Bool.eq_iff_iff, decide_eq_true_eq]
          constructor
          · intro hotherPasses
            have hotherMem : attempt other ∈ lane.rows := htracks.rows ▸ List.mem_map_of_mem hother
            have hotherOpen : (attempt other).status.isOpen := by
              simp [attempt, htest other hotherPasses, DeliveryStatus.toRetry, Retry.Status.isOpen]
            have hotherHead := hvalid.current_of_open hotherMem hotherOpen
            rw [hhead] at hotherHead
            exact (congrArg Retry.Attempt.key (Option.some.inj hotherHead)).symm
          · intro hkey
            rw [List.inj_on_of_nodup_map state.deliveries.keys_nodup
              (mem_deliveriesOf.mp hother).1 (mem_deliveriesOf.mp hrow).1 hkey]
            exact hpasses
        rw [hsame]
      rw [honly]
      exact htracks.attempts_head hhead
          (rewritten_updateKey (release now) fun _ => rfl)
          (fun _ => rfl) fun _ => rfl
    · rw [hsubscriptions]
      exact htracks.cursor
    · intro cycle hcycle
      obtain ⟨status, hbusy⟩ := htracks.holds cycle (hworkers cycle hcycle)
      rw [hhead] at hbusy
      have hsame := Option.some.inj hbusy
      exact ⟨.pending, by rw [hsame]⟩
    · intro head hmem
      cases hmem
      rw [houtbox]
      exact htracks.event (attempt row) hhead
  · refine ⟨lane, .refl, htracks.congr ?_ ?_ ?_ ?_, rfl, rfl⟩
    · apply attempts_of_same hrewritten fun _ => rfl
      exact fun row hrow hpasses => absurd ⟨row, hrow, hpasses⟩ hreleased
    · rw [hsubscriptions]
    · exact fun cycle hcycle => ⟨cycle, hworkers cycle hcycle, rfl, rfl, rfl⟩
    · rw [houtbox]
      exact fun _ hevent => hevent

theorem Tracks.boot (htracks : Tracks subscriptionId state lane)
    (hvalid : Retry.Valid start maxAttempts lane) (now : ℕ) :
    ∃ after, Retry.Steps maxAttempts lane after ∧
      Tracks subscriptionId (serveDispatch state (.restart now)) after ∧
      after.closed = lane.closed ∧ after.reach = lane.reach := by
  refine htracks.released hvalid (fun _ hrow => of_decide_eq_true hrow) rfl rfl ?_ rfl
  exact fun held hmem => absurd hmem (Option.not_mem_none _)

theorem Tracks.reclaimed (htracks : Tracks subscriptionId state lane)
    (hvalid : Retry.Valid start maxAttempts lane) (now olderThan : ℕ) :
    ∃ after, Retry.Steps maxAttempts lane after ∧
      Tracks subscriptionId (serveDispatch state (.reclaim now olderThan)) after ∧
      after.closed = lane.closed ∧ after.reach = lane.reach :=
  htracks.released hvalid (fun _ hrow => (of_decide_eq_true hrow).1) rfl rfl
    (fun _ hcycle => hcycle) rfl

/-! ## Steps of other subscriptions -/

/-- A rewrite of a row of another subscription, with its worker. -/
theorem Tracks.elsewhere (htracks : Tracks subscriptionId state lane)
    (hother : other ≠ subscriptionId) {cycle : Option Cycle}
    (hworkers : next.workers = Function.update state.workers other cycle)
    (hrows : attempts subscriptionId next.deliveries = attempts subscriptionId state.deliveries)
    (hcursor : cursorOf subscriptionId next.subscriptions =
      cursorOf subscriptionId state.subscriptions)
    (houtbox : next.outbox = state.outbox) : Tracks subscriptionId next lane := by
  apply htracks.congr hrows hcursor
  · intro held hheld
    rw [hworkers, Function.update_of_ne (Ne.symm hother)] at hheld
    exact ⟨held, hheld, rfl, rfl, rfl⟩
  · rw [houtbox]
    exact fun _ hevent => hevent

theorem Tracks.claimed_other (htracks : Tracks subscriptionId state lane)
    (hother : other ≠ subscriptionId) (hclaimed : Claimed other now state next) :
    Tracks subscriptionId next lane := by
  cases hclaimed with
  | idle => exact htracks
  | malformed =>
      exact htracks.congr rfl (cursorOf_pause _)
        (fun cycle hcycle => ⟨cycle, hcycle, rfl, rfl, rfl⟩) fun _ hevent => hevent
  | pending subscription row hfind hrow hpending =>
      obtain ⟨hmem, hsubscription⟩ := mem_deliveriesOf.mp hrow
      have hid := findSubscription?_id hfind
      refine htracks.elsewhere (hid.symm ▸ hother) rfl ?_ rfl rfl
      exact attempts_of_other hmem (hsubscription ▸ hother) rfl
        (rewritten_updateKey (claimedRow now) fun _ => rfl) fun _ => rfl
  | fresh subscription filter event hselects =>
      have hid := findSubscription?_id hselects.stored
      refine htracks.elsewhere (hid.symm ▸ hother) rfl ?_ rfl rfl
      have hnew : pendingDelivery other event.id 1 now state.deliveries.nextKey ∈
          (state.deliveries.insert (pendingDelivery other event.id 1 now)).rows :=
        List.mem_append_right _ List.mem_cons_self
      calc attempts subscriptionId ((state.deliveries.insert
              (pendingDelivery other event.id 1 now)).updateKey state.deliveries.nextKey
              (claimedRow now))
          = attempts subscriptionId (state.deliveries.insert
              (pendingDelivery other event.id 1 now)) := by
            exact attempts_of_other hnew hother rfl
              (rewritten_updateKey (claimedRow now) fun _ => rfl) fun _ => rfl
        _ = attempts subscriptionId state.deliveries := by
            have hsubscription : ¬ (pendingDelivery other event.id 1 now
                state.deliveries.nextKey).subscriptionId = subscriptionId := hother
            rw [attempts, deliveriesOf_insert, if_neg hsubscription, List.append_nil, attempts]

theorem Tracks.signed_other (htracks : Tracks subscriptionId state lane)
    (hheld : Held state) (hother : other ≠ subscriptionId)
    (hcycle : state.workers other = some cycle)
    (hsigned : Signed cycle now generation state next) :
    Tracks subscriptionId next lane := by
  obtain ⟨hid, row, hrow, hkey, hsubscription⟩ := hheld other cycle hcycle
  have hneRow : row.subscriptionId ≠ subscriptionId := hsubscription ▸ hother
  have hneCycle : cycle.subscription.subscriptionId ≠ subscriptionId := hid ▸ hother
  cases hsigned with
  | raised hraised => exact htracks.elsewhere hneCycle rfl rfl rfl rfl
  | signed stamped =>
      refine htracks.elsewhere hneCycle rfl ?_ rfl rfl
      exact attempts_of_other hrow hneRow hkey
        (rewritten_updateKey (signedRow stamped) fun _ => rfl) fun _ => rfl
  | missing hmissing =>
      refine htracks.elsewhere hneCycle rfl ?_ rfl rfl
      exact attempts_of_other hrow hneRow hkey
        (rewritten_updateKey (missingRow now) fun _ => rfl) fun _ => rfl

theorem Tracks.finished_other (htracks : Tracks subscriptionId state lane)
    (hheld : Held state) (hother : other ≠ subscriptionId)
    (hcycle : state.workers other = some cycle)
    (hfinished : Finished cycle now elapsedMs jitter result state next) :
    Tracks subscriptionId next lane := by
  obtain ⟨hid, row, hrow, hkey, hsubscription⟩ := hheld other cycle hcycle
  have hneRow : row.subscriptionId ≠ subscriptionId := hsubscription ▸ hother
  have hneCycle : cycle.subscription.subscriptionId ≠ subscriptionId := hid ▸ hother
  cases hfinished with
  | dropped hdropped => exact htracks.elsewhere hneCycle rfl rfl rfl rfl
  | succeeded httpStatus =>
      refine htracks.elsewhere hneCycle rfl ?_ ?_ rfl
      · exact attempts_of_other hrow hneRow hkey (rewritten_updateKey
          (succeededRow now elapsedMs httpStatus) fun _ => rfl) fun _ => rfl
      · exact cursorOf_update_other (advanceCursor_id _) hneCycle
  | dlq httpStatus failure =>
      refine htracks.elsewhere hneCycle rfl ?_ ?_ rfl
      · exact attempts_of_other hrow hneRow hkey (rewritten_updateKey
          (failedRow .dlq now elapsedMs httpStatus failure) fun _ => rfl) fun _ => rfl
      · rw [markDlq_subscriptions, cursorOf_autoPause]
        exact cursorOf_update_other (advanceCursor_id _) hneCycle
  | failed httpStatus failure delay hnumber =>
      refine htracks.elsewhere hneCycle rfl ?_ ?_ rfl
      · have hsubscription : ∀ key, ¬ (pendingDelivery
            cycle.subscription.subscriptionId cycle.eventId (cycle.attemptNumber + 1)
            (now + delay * second) key).subscriptionId = subscriptionId :=
          fun _ => hneCycle
        rw [markFailed_deliveries, attempts, deliveriesOf_insert,
          if_neg (hsubscription _), List.append_nil, ← attempts]
        exact attempts_of_other hrow hneRow hkey (rewritten_updateKey
          (failedRow .failed now elapsedMs httpStatus failure) fun _ => rfl) fun _ => rfl
      · rw [markFailed_subscriptions, cursorOf_autoPause]

end Tracking

end SentryWms.Webhooks
