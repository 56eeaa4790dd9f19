import SentryWms.Webhooks.Attempts

/-!
# The stream of a subscription

The events a worker takes up are those of a reader of the outbox with pages of one.  The
stream loses no event as long as no fresh selection passes over a matching event that is
still hidden: an event of a transaction that commits later than the buffer after an
event with a greater id.
-/

namespace SentryWms.Webhooks

open Relational SentryWms.Events

variable {Effect : Type*}

/-- The next event of an active subscription is beyond a hidden one. -/
def PassesHidden (filter : SubscriptionFilter) (survives : ℕ → Prop) (now : ℕ)
    (outbox : Outbox Effect) : Option WebhookSubscription → Prop
  | none => False
  | some subscription => subscription.status = .active ∧
      Tail.Overtakes (matchesFilter filter) visibleAtBuffer survives now
        subscription.lastDeliveredEventId 1 outbox

instance (filter : SubscriptionFilter) (survives : ℕ → Prop) [DecidablePred survives]
    (now : ℕ) (outbox : Outbox Effect) (subscription : Option WebhookSubscription) :
    Decidable (PassesHidden filter survives now outbox subscription) := by
  cases subscription <;> unfold PassesHidden <;> infer_instance

/-- The claim selects a fresh event beyond a hidden one. -/
def Skips (subscriptionId : String) (filter : SubscriptionFilter) (survives : ℕ → Prop)
    (state : Dispatcher Effect) : DispatchStep Effect → Prop
  | .claim other now => other = subscriptionId ∧ state.workers subscriptionId = none ∧
      hasNonTerminalDelivery subscriptionId state.deliveries = false ∧
      PassesHidden filter survives now state.outbox
        (findSubscription? state.subscriptions subscriptionId)
  | _ => False

instance (subscriptionId : String) (filter : SubscriptionFilter) (survives : ℕ → Prop)
    [DecidablePred survives] (state : Dispatcher Effect) (step : DispatchStep Effect) :
    Decidable (Skips subscriptionId filter survives state step) := by
  cases_type DispatchStep <;> unfold Skips <;> infer_instance

/-- An admin gives the subscription another filter. -/
def Refilters (subscriptionId : String) (filter : SubscriptionFilter) :
    DispatchStep Effect → Prop
  | .configure other stored _ _ _ _ => other = subscriptionId ∧ stored ≠ some filter
  | _ => False

instance (subscriptionId : String) (filter : SubscriptionFilter)
    (step : DispatchStep Effect) : Decidable (Refilters subscriptionId filter step) := by
  cases_type DispatchStep <;> unfold Refilters <;> infer_instance

/-- The event is committed in the state. -/
def CommittedIn (state : Dispatcher Effect) (eventId : ℕ) : Prop :=
  eventId ∈ state.outbox.entries.map Entry.id

instance (state : Dispatcher Effect) : DecidablePred (CommittedIn state) := fun eventId =>
  inferInstanceAs (Decidable (eventId ∈ state.outbox.entries.map Entry.id))

def filterOf (subscriptionId : String) (subscriptions : List WebhookSubscription) :
    Option (Option SubscriptionFilter) :=
  (findSubscription? subscriptions subscriptionId).map WebhookSubscription.subscriptionFilter

/-- The events at or before the head are those of a reader that has missed none. -/
structure Streams (subscriptionId : String) (filter : SubscriptionFilter) (start : ℕ)
    (survives : ℕ → Prop) (state : Dispatcher Effect) (lane : Retry.Lane)
    (reader : Tail.Reader Events.IntegrationEvent) : Prop where
  filtered : filterOf subscriptionId state.subscriptions = some (some filter)
  valid : Retry.Valid start maxAttempts lane
  tracks : Tracks subscriptionId state lane
  cursor : reader.cursor = lane.reach
  taken : ∀ event ∈ reader.returned, event.id ∈ lane.rows.map Retry.Attempt.item
  ordered : Tail.Ordered (matchesFilter filter) start ⟨state.outbox, reader⟩
  complete : Tail.Complete (matchesFilter filter) start survives ⟨state.outbox, reader⟩

section Filter

variable {subscriptionId other : String} {subscriptions : List WebhookSubscription}

theorem filterOf_update_same {set : WebhookSubscription → WebhookSubscription}
    (hset : ∀ row, (set row).subscriptionId = row.subscriptionId)
    (hsame : ∀ row, (set row).subscriptionFilter = row.subscriptionFilter) :
    filterOf subscriptionId (updateSubscription other set subscriptions) =
      filterOf subscriptionId subscriptions := by
  rw [filterOf, findSubscription?_update hset, Option.map_map, filterOf]
  congr 1
  funext row
  change (if row.subscriptionId = other then set row else row).subscriptionFilter = _
  by_cases hrow : row.subscriptionId = other <;> simp [hrow, hsame]

theorem filterOf_pause (reason : String) :
    filterOf subscriptionId (updateSubscription other (pause reason) subscriptions) =
      filterOf subscriptionId subscriptions := by
  apply filterOf_update_same (pause_id reason)
  intro row
  unfold pause
  split <;> rfl

theorem filterOf_autoPause (subscription : WebhookSubscription) (afterDlq : Bool)
    (deliveries : Deliveries) :
    filterOf subscriptionId (maybeAutoPause subscription afterDlq deliveries subscriptions) =
      filterOf subscriptionId subscriptions := by
  unfold maybeAutoPause
  dsimp only
  split <;> split
  · rfl
  · exact filterOf_pause _
  · rfl
  · exact filterOf_pause _

theorem filterOf_advance (eventId : ℕ) :
    filterOf subscriptionId (updateSubscription other (advanceCursor eventId) subscriptions) =
      filterOf subscriptionId subscriptions := by
  apply filterOf_update_same (advanceCursor_id eventId)
  intro row
  unfold advanceCursor
  split <;> rfl

end Filter

section Step

variable {state : Dispatcher Effect} {subscriptionId : String}
  {filter : SubscriptionFilter} {start : ℕ} {survives : ℕ → Prop} {lane : Retry.Lane}
  {reader : Tail.Reader Events.IntegrationEvent}

/-- Only an admin changes the filter. -/
theorem filterOf_serve (hfiltered : filterOf subscriptionId state.subscriptions =
      some (some filter)) {step : DispatchStep Effect}
    (hkept : ¬ Refilters subscriptionId filter step) :
    filterOf subscriptionId (serveDispatch state step).subscriptions =
      some (some filter) := by
  cases step with
  | outbox | abandon | restart | reclaim => exact hfiltered
  | claim other now =>
      rcases serve_claim state other now with hsame | ⟨-, hclaimed⟩
      · rw [hsame]
        exact hfiltered
      · generalize serveDispatch state (.claim other now) = next at hclaimed
        cases hclaimed with
        | idle => exact hfiltered
        | malformed => exact (filterOf_pause _).trans hfiltered
        | pending | fresh => exact hfiltered
  | sign other now generation =>
      rcases serve_sign state other now generation with hsame | ⟨cycle, -, -, hsigned⟩
      · rw [hsame]
        exact hfiltered
      · generalize serveDispatch state (.sign other now generation) = next at hsigned
        cases hsigned with
        | raised | signed | missing => exact hfiltered
  | send other now elapsedMs jitter result =>
      rcases serve_send state other now elapsedMs jitter result with
        hsame | ⟨cycle, -, -, hfinished⟩
      · rw [hsame]
        exact hfiltered
      · generalize serveDispatch state (.send other now elapsedMs jitter result) = next
          at hfinished
        cases hfinished with
        | dropped hdropped => exact hfiltered
        | succeeded httpStatus => exact (filterOf_advance _).trans hfiltered
        | dlq httpStatus failure =>
            rw [markDlq_subscriptions, filterOf_autoPause, filterOf_advance]
            exact hfiltered
        | failed httpStatus failure delay hnumber =>
            rw [markFailed_subscriptions, filterOf_autoPause]
            exact hfiltered
  | configure other stored status pauseReason pendingCeiling dlqCeiling =>
      have hset : ∀ row, (configure stored status pauseReason pendingCeiling dlqCeiling
          row).subscriptionId = row.subscriptionId := fun _ => rfl
      rw [serveDispatch, filterOf, findSubscription?_update hset]
      obtain ⟨row, hfind, hrow⟩ := Option.map_eq_some_iff.mp hfiltered
      rw [hfind, Option.map_some, Option.map_some]
      by_cases hother : row.subscriptionId = other
      · have hsame : stored = some filter := by
          by_contra hne
          exact hkept ⟨hother.symm.trans (findSubscription?_id hfind), hne⟩
        rw [if_pos hother, configure, hsame]
      · rw [if_neg hother, hrow]

theorem outbox_serve (state : Dispatcher Effect) (step : DispatchStep Effect) :
    (∃ statement, step = .outbox statement) ∨
      (serveDispatch state step).outbox = state.outbox := by
  cases step with
  | outbox statement => exact Or.inl ⟨statement, rfl⟩
  | claim other now =>
      right
      rcases serve_claim state other now with hsame | ⟨-, hclaimed⟩
      · rw [hsame]
      · generalize serveDispatch state (.claim other now) = next at hclaimed
        cases hclaimed <;> rfl
  | sign other now generation =>
      right
      rcases serve_sign state other now generation with hsame | ⟨cycle, -, -, hsigned⟩
      · rw [hsame]
      · generalize serveDispatch state (.sign other now generation) = next at hsigned
        cases hsigned <;> rfl
  | send other now elapsedMs jitter result =>
      right
      rcases serve_send state other now elapsedMs jitter result with
        hsame | ⟨cycle, -, -, hfinished⟩
      · rw [hsame]
      · generalize serveDispatch state (.send other now elapsedMs jitter result) = next
          at hfinished
        cases hfinished <;> rfl
  | abandon | restart | reclaim | configure => exact Or.inr rfl

/-- A page of one is the fresh event. -/
theorem readPage_of_fresh {now cursor : ℕ} {outbox : Outbox Effect} {event : EventRow}
    (hfresh : freshEvent filter now cursor outbox = some event) :
    Tail.readPage (matchesFilter filter) visibleAtBuffer now cursor 1 outbox = [event] := by
  have hlength : (Tail.readPage (matchesFilter filter) visibleAtBuffer now cursor 1
      outbox).length ≤ 1 := Keyset.page_length_le _ _ _
  rw [freshEvent] at hfresh
  cases hpage : Tail.readPage (matchesFilter filter) visibleAtBuffer now cursor 1 outbox with
  | nil =>
      rw [hpage] at hfresh
      cases hfresh
  | cons first rest =>
      rw [hpage] at hfresh hlength
      rw [List.head?_cons] at hfresh
      rw [Option.some.inj hfresh, List.eq_nil_of_length_eq_zero (Nat.le_zero.mp
        (Nat.le_of_succ_le_succ hlength))]

theorem reach_of_current {lane : Retry.Lane} {head : Retry.Attempt}
    (hcurrent : lane.current = some head) : lane.reach = head.item := by
  rw [Retry.Lane.reach, hcurrent]
  rfl

/-- A fresh selection reads the next page. -/
theorem Streams.select (hstreams : Streams subscriptionId filter start survives state lane
      reader) {now : ℕ} {next : Dispatcher Effect} {after : Retry.Lane}
    {subscription : WebhookSubscription} {stored : SubscriptionFilter} {event : EventRow}
    (hselects : Selects subscriptionId now state subscription stored event)
    (hfree : ¬ Tail.Overtakes (matchesFilter filter) visibleAtBuffer survives now
      subscription.lastDeliveredEventId 1 state.outbox)
    (hfiltered : filterOf subscriptionId next.subscriptions = some (some filter))
    (hsteps : Retry.Steps maxAttempts lane after)
    (htracks : Tracks subscriptionId next after) {head : Retry.Attempt}
    (hcurrent : after.current = some head) (hitem : head.item = event.id)
    (houtbox : next.outbox = state.outbox) :
    Streams subscriptionId filter start survives next after
      (Tail.serve (matchesFilter filter) visibleAtBuffer ⟨state.outbox, reader⟩
        (.read now 1)).reader := by
  obtain ⟨hidle, hcursor⟩ := hstreams.tracks.idle_of_selects hstreams.valid hselects
  have hstored : stored = filter := by
    have hboth := hstreams.filtered
    rw [filterOf, hselects.stored, Option.map_some, hselects.parsed] at hboth
    exact Option.some.inj (Option.some.inj hboth)
  subst hstored
  have hreader : reader.cursor = subscription.lastDeliveredEventId := by
    rw [hstreams.cursor, hcursor, Retry.Lane.reach, hidle]
    rfl
  have hpage := readPage_of_fresh hselects.fresh
  rw [← hreader] at hfree hpage
  constructor
  · exact hfiltered
  · exact hstreams.valid.steps (Nat.zero_lt_succ 7) hsteps
  · exact htracks
  · change Tail.cursorAfter _ _ now reader.cursor 1 state.outbox = after.reach
    rw [Tail.cursorAfter, hpage, reach_of_current hcurrent, hitem]
    rfl
  · intro taken htaken
    change taken ∈ reader.returned ++ Tail.readPage _ _ now reader.cursor 1 state.outbox at htaken
    rw [hpage] at htaken
    rcases List.mem_append.mp htaken with hold | hnew
    · exact Retry.items_subset hsteps (hstreams.taken taken hold)
    · rw [List.mem_singleton.mp hnew, ← hitem]
      exact List.mem_map_of_mem (List.mem_append_right _ (Option.mem_toList.mpr hcurrent))
  · rw [houtbox]
    exact hstreams.ordered.serve (.read now 1)
  · rw [houtbox]
    exact hstreams.complete.read hfree

/-- Any other step leaves the reader where it is. -/
theorem Streams.stay (hstreams : Streams subscriptionId filter start survives state lane
      reader) {step : DispatchStep Effect} {after : Retry.Lane}
    (hfiltered : filterOf subscriptionId (serveDispatch state step).subscriptions =
      some (some filter))
    (hsteps : Retry.Steps maxAttempts lane after)
    (htracks : Tracks subscriptionId (serveDispatch state step) after)
    (hreach : after.reach = lane.reach) :
    Streams subscriptionId filter start survives (serveDispatch state step) after
      reader := by
  have hlog : Tail.Ordered (matchesFilter filter) start
        ⟨(serveDispatch state step).outbox, reader⟩ ∧
      Tail.Complete (matchesFilter filter) start survives
        ⟨(serveDispatch state step).outbox, reader⟩ := by
    rcases outbox_serve state step with ⟨statement, rfl⟩ | hsame
    · have hordered := @Tail.Ordered.serve _ _ _ visibleAtBuffer _ _ hstreams.ordered
        (.log statement)
      exact ⟨hordered, hstreams.complete.follows hstreams.ordered.drawn
        (CommitLog.follows_serve state.outbox statement) rfl⟩
    · rw [hsame]
      exact ⟨hstreams.ordered, hstreams.complete⟩
  constructor
  · exact hfiltered
  · exact hstreams.valid.steps (Nat.zero_lt_succ 7) hsteps
  · exact htracks
  · rw [hreach]
    exact hstreams.cursor
  · intro event hevent
    exact Retry.items_subset hsteps (hstreams.taken event hevent)
  · exact hlog.1
  · exact hlog.2

theorem Streams.serve (hstreams : Streams subscriptionId filter start survives state lane
      reader) (hheld : Held state) {step : DispatchStep Effect}
    (hfree : ¬ Skips subscriptionId filter survives state step)
    (hkept : ¬ Refilters subscriptionId filter step) :
    ∃ after next, Streams subscriptionId filter start survives (serveDispatch state step)
      after next := by
  have hfiltered := filterOf_serve hstreams.filtered hkept
  obtain ⟨after, hsteps, htracks, hreach⟩ := hstreams.tracks.serve hstreams.valid hheld step
  rcases hreach with hsame | ⟨now, subscription, stored, event, rfl, hidle, hselects,
    head, hcurrent, hitem⟩
  · exact ⟨after, reader, hstreams.stay hfiltered hsteps htracks hsame⟩
  · have houtbox : (serveDispatch state (.claim subscriptionId now)).outbox =
        state.outbox := by
      rcases outbox_serve state (.claim subscriptionId now) with ⟨statement, hclaim⟩ | hsame
      · cases hclaim
      · exact hsame
    have hpage : ¬ Tail.Overtakes (matchesFilter filter) visibleAtBuffer survives now
        subscription.lastDeliveredEventId 1 state.outbox := by
      intro hovertakes
      apply hfree
      refine ⟨rfl, hidle, hselects.terminal, ?_⟩
      rw [hselects.stored]
      exact ⟨hselects.active, hovertakes⟩
    exact ⟨after, _, hstreams.select hselects hpage hfiltered hsteps htracks hcurrent hitem houtbox⟩

theorem Streams.opening (hopening : Undelivered state)
    (hstart : cursorOf subscriptionId state.subscriptions = some start)
    (hfiltered : filterOf subscriptionId state.subscriptions = some (some filter)) :
    Streams subscriptionId filter start survives state (Retry.idle start) ⟨start, []⟩ :=
  ⟨hfiltered, Retry.valid_idle start maxAttempts, hopening.tracks hstart, rfl,
    fun _ hevent => absurd hevent List.not_mem_nil, Tail.ordered_opened start state.outbox,
    Tail.complete_opened start state.outbox⟩

end Step

/-! ## Whole runs -/

theorem follows_dispatch (state : Dispatcher Effect) (steps : List (DispatchStep Effect)) :
    CommitLog.Follows state.outbox (run serveDispatch state steps).outbox := by
  induction steps generalizing state with
  | nil => exact CommitLog.Follows.refl state.outbox
  | cons step rest ih =>
      refine CommitLog.Follows.trans ?_ (ih (serveDispatch state step))
      rcases outbox_serve state step with ⟨statement, rfl⟩ | hsame
      · exact CommitLog.follows_serve state.outbox statement
      · rw [hsame]
        exact CommitLog.Follows.refl state.outbox

/-- What the worker has passed and is committed in the end has a settled row. -/
theorem Streams.settles {state final : Dispatcher Effect} {subscriptionId : String}
    {filter : SubscriptionFilter} {start : ℕ} {lane : Retry.Lane}
    {reader : Tail.Reader Events.IntegrationEvent}
    (hstreams : Streams subscriptionId filter start (CommittedIn final) state lane reader)
    (hfollows : CommitLog.Follows state.outbox final.outbox) {event : EventRow}
    (hevent : event ∈ final.outbox.entries)
    (hmatches : matchesFilter filter event.payload) (hstart : start < event.id)
    (hpassed : event.id ≤ lane.cursor) :
    ∃ row ∈ rowsOf subscriptionId event.id state.deliveries, settled row := by
  have hreach : lane.cursor ≤ lane.reach := by
    cases hcurrent : lane.current with
    | none => rw [Retry.Lane.reach, hcurrent]; rfl
    | some head =>
        rw [reach_of_current hcurrent]
        exact (hstreams.valid.ahead head hcurrent).le
  have hbelow : event.id ≤ reader.cursor := hstreams.cursor.symm ▸ hpassed.trans hreach
  have hknown : ∃ known ∈ state.outbox.all, known.id = event.id ∧
      known.payload = event.payload := by
    rcases hfollows.origin (CommitLog.mem_all.mpr (Or.inr hevent)) with
      hold | ⟨old, hold, hid, hpayload⟩ | hnew
    · exact ⟨event, CommitLog.mem_all.mpr (Or.inr hold), rfl, rfl⟩
    · exact ⟨old, CommitLog.mem_all.mpr (Or.inl hold), hid, hpayload⟩
    · have hdrawn : reader.cursor = start ∨ reader.cursor < state.outbox.nextId :=
        hstreams.ordered.drawn
      rcases hdrawn with hcursor | hcursor <;> omega
  obtain ⟨known, hknown, hid, hpayload⟩ := hknown
  have hread := hstreams.complete known hknown (hpayload ▸ hmatches) (hid ▸ hstart)
    (hid ▸ hbelow) (hid ▸ List.mem_map_of_mem hevent)
  obtain ⟨taken, htaken, htakenId⟩ := List.mem_map.mp hread
  obtain ⟨row, hrow, hitem⟩ := List.mem_map.mp (hstreams.taken taken htaken)
  have hrowItem : row.item = event.id := hitem.trans (htakenId.trans hid)
  have hsettled := hstreams.valid.settled hrow fun head hcurrent heq => by
    have hahead := hstreams.valid.ahead head hcurrent
    omega
  rw [hrowItem] at hsettled
  exact hstreams.tracks.settled_row hsettled

/-- In a run in which the filter stays and no fresh selection goes beyond a hidden
matching event that is committed in the end, every matching event that is committed in
the end has a settled delivery in every state whose cursor has passed it. -/
theorem stream_settles {initial final : Dispatcher Effect}
    {steps : List (DispatchStep Effect)} {subscriptionId : String} {start : ℕ}
    {filter : SubscriptionFilter} (hopening : Undelivered initial)
    (hstart : cursorOf subscriptionId initial.subscriptions = some start)
    (hfiltered : filterOf subscriptionId initial.subscriptions = some (some filter))
    (hfinal : run serveDispatch initial steps = final)
    (hfree : Along serveDispatch (fun state step =>
      ¬ Skips subscriptionId filter (CommittedIn final) state step ∧
        ¬ Refilters subscriptionId filter step) initial steps) :
    ∀ front back, steps = front ++ back → ∀ cursor,
      cursorOf subscriptionId (run serveDispatch initial front).subscriptions = some cursor →
      ∀ event ∈ final.outbox.entries, matchesFilter filter event.payload →
        start < event.id → event.id ≤ cursor →
          ∃ row ∈ rowsOf subscriptionId event.id
            (run serveDispatch initial front).deliveries, settled row := by
  intro front back hsplit cursor hcursor event hevent hmatches hafter hpassed
  let inv : Dispatcher Effect → Prop := fun state => Held state ∧ ∃ lane reader,
    Streams subscriptionId filter start (CommittedIn final) state lane reader
  have hstep : ∀ state step, inv state →
      ¬ Skips subscriptionId filter (CommittedIn final) state step ∧
        ¬ Refilters subscriptionId filter step → inv (serveDispatch state step) := by
    rintro state step ⟨hheld, lane, reader, hstreams⟩ ⟨hskips, hkept⟩
    exact ⟨hheld.serve step, hstreams.serve hheld hskips hkept⟩
  rw [hsplit] at hfree hfinal
  have hinv : inv (run serveDispatch initial front) :=
    run_invariant hstep ⟨hopening.held, _, _, Streams.opening hopening hstart hfiltered⟩
      (along_append.mp hfree).1
  obtain ⟨-, lane, reader, hstreams⟩ := hinv
  have hfollows : CommitLog.Follows (run serveDispatch initial front).outbox
      final.outbox := by
    rw [← hfinal, run_append]
    exact follows_dispatch _ back
  have hlane : cursor = lane.cursor := Option.some.inj (hcursor.symm.trans hstreams.tracks.cursor)
  exact hstreams.settles hfollows hevent hmatches hafter (hlane ▸ hpassed)

namespace SmallStream

/-- The first event commits three seconds after the second, which is delivered by
then. -/
def lateCommit : List (DispatchStep Unit) :=
  [.outbox (.draw 1 event), .outbox (.draw 2 event), .outbox (.stamp 2),
    .outbox (.commit 2), .outbox (.tick 3000000)] ++ cycle 3000000 200 ++
  [.outbox (.stamp 1), .outbox (.commit 1), .outbox (.tick 3000000)] ++ cycle 6000000 200

end SmallStream

theorem stream_settles_recovered :
    ∃ row ∈ rowsOf "erp" 1 (SmallStream.after SmallStream.recovered).deliveries,
      settled row := by
  have hsettles := @stream_settles Unit SmallStream.opening
    (SmallStream.after SmallStream.recovered) SmallStream.recovered "erp" 0 {}
    ⟨rfl, fun _ => rfl⟩ rfl rfl rfl (by decide) SmallStream.recovered []
    (List.append_nil _).symm 1 (by decide)
  exact hsettles ⟨1, 1, SmallStream.event, some 0⟩ (by decide) (by decide) (by decide)
    (by decide)

/-- The cursor has passed the late event, which has no delivery. -/
theorem stream_loses_lateCommit :
    (SmallStream.after SmallStream.lateCommit).outbox.entries.map Entry.id = [2, 1] ∧
      cursorOf "erp" (SmallStream.after SmallStream.lateCommit).subscriptions = some 2 ∧
      matchesFilter {} SmallStream.event ∧
      rowsOf "erp" 1 (SmallStream.after SmallStream.lateCommit).deliveries = [] ∧
      (rowsOf "erp" 2 (SmallStream.after SmallStream.lateCommit).deliveries).map
        WebhookDelivery.status = [.succeeded] := by
  decide

end SentryWms.Webhooks
