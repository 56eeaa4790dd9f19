import SentryWms.Events.Polling

/-!
# Consumers of the outbox

A client that follows the returned cursor, and a consumer group that is polled and
acknowledged, while transactions write to the outbox.  The client gets every event in
its scope once and in order, and the stored cursor of the group passes no event the
group has not got, as long as no page ends beyond a hidden event and the group
acknowledges cursors it was given.
-/

namespace SentryWms.Events

open Relational

/-- Who polls: the token, the filter it sends and its group. -/
structure Consumer where
  token : WmsToken
  types : List String
  warehouseId : Option ℕ
  consumerGroupId : String
  deriving DecidableEq, Repr

/-- The outbox and the groups, the client with what it has got, and what the group has
got: its events and the cursors they came with. -/
structure Consuming (Effect : Type*) where
  outbox : Outbox Effect
  groups : List ConsumerGroup
  client : Tail.Reader IntegrationEvent
  received : List EventRow
  cursors : List ℕ

inductive ConsumerStep (Effect : Type*)
  | outbox (step : OutboxStep Effect)
  | follow (now : ℕ) (limit : PageLimit)
  | pollGroup (now : ℕ) (limit : PageLimit)
  | ack (cursor : ℕ)
  deriving DecidableEq, Repr

variable {Effect : Type*} (consumer : Consumer)

/-- The next poll of the client. -/
def clientQuery (cursor : ℕ) (limit : PageLimit) : PollQuery where
  after := some cursor
  consumerGroup := none
  types := consumer.types
  warehouseId := consumer.warehouseId
  limit := limit
  exclusive := Or.inr rfl

/-- A poll of the group. -/
def groupQuery (limit : PageLimit) : PollQuery where
  after := none
  consumerGroup := some consumer.consumerGroupId
  types := consumer.types
  warehouseId := consumer.warehouseId
  limit := limit
  exclusive := Or.inl rfl

def serveConsumer (state : Consuming Effect) : ConsumerStep Effect → Consuming Effect
  | .outbox step => { state with outbox := state.outbox.serve step }
  | .follow now limit =>
      match pollEvents consumer.token now state.groups state.outbox
          (clientQuery consumer state.client.cursor limit) with
      | .ok response =>
          { state with
            client :=
              { cursor := response.nextCursor
                returned := state.client.returned ++ response.events } }
      | .error _ => state
  | .pollGroup now limit =>
      match pollEvents consumer.token now state.groups state.outbox
          (groupQuery consumer limit) with
      | .ok response =>
          { state with
            received := state.received ++ response.events
            cursors := response.nextCursor :: state.cursors }
      | .error _ => state
  | .ack cursor =>
      match ackCursor consumer.token state.groups state.outbox
          ⟨consumer.consumerGroupId, cursor⟩ with
      | .ok groups => { state with groups := groups }
      | .error _ => state

/-- The events a client is to get. -/
def clientScope : IntegrationEvent → Bool :=
  inScope consumer.token consumer.warehouseId consumer.types (.lists [] [])

/-- The events the group is to get. -/
def groupScope (subscription : Subscription) : IntegrationEvent → Bool :=
  inScope consumer.token consumer.warehouseId consumer.types subscription

/-- The stored cursor and the filter of the group. -/
def storedGroup (groups : List ConsumerGroup) : Option (ℕ × Subscription) :=
  (findGroup? groups consumer.consumerGroupId).map fun group =>
    (group.lastCursor, group.subscription)

/-- The step reads a page that ends beyond a hidden event in scope that is committed
in the end, or acknowledges a cursor the group was not given. -/
def Skips (survives : ℕ → Prop) (state : Consuming Effect) :
    ConsumerStep Effect → Prop
  | .outbox _ => False
  | .follow now limit =>
      Tail.Overtakes (clientScope consumer) visibleAtBuffer survives now
        state.client.cursor limit.value state.outbox
  | .pollGroup now limit =>
      match storedGroup consumer state.groups with
      | some (lastCursor, subscription) =>
          Tail.Overtakes (groupScope consumer subscription) visibleAtBuffer survives now
            lastCursor limit.value state.outbox
      | none => False
  | .ack cursor =>
      match storedGroup consumer state.groups with
      | some (lastCursor, _) => lastCursor < cursor ∧ cursor ∉ state.cursors
      | none => False

instance (survives : ℕ → Prop) [DecidablePred survives] (state : Consuming Effect)
    (step : ConsumerStep Effect) : Decidable (Skips consumer survives state step) := by
  cases step with
  | outbox step => exact inferInstanceAs (Decidable False)
  | follow now limit =>
      unfold Skips
      infer_instance
  | pollGroup now limit =>
      unfold Skips
      cases storedGroup consumer state.groups with
      | none => exact inferInstanceAs (Decidable False)
      | some stored =>
          exact inferInstanceAs (Decidable (Tail.Overtakes _ _ survives _ _ _ _))
  | ack cursor =>
      unfold Skips
      cases storedGroup consumer state.groups with
      | none => exact inferInstanceAs (Decidable False)
      | some stored => exact inferInstanceAs (Decidable (_ ∧ _))

variable {consumer}

/-! ## What polls and acknowledgements do -/

theorem pollEvents_ok {token : WmsToken} {now : ℕ} {groups : List ConsumerGroup}
    {outbox : Outbox Effect} {query : PollQuery} {response : PollResponse}
    (hok : pollEvents token now groups outbox query = .ok response) :
    ∃ after subscription, pollStart groups query = .ok (after, subscription) ∧
      response.events = Tail.readPage
        (inScope token query.warehouseId query.types subscription) visibleAtBuffer now
        after query.limit.value outbox ∧
      response.nextCursor = Tail.cursorAfter
        (inScope token query.warehouseId query.types subscription) visibleAtBuffer now
        after query.limit.value outbox := by
  simp only [pollEvents, bind_eq_ok, require_eq_ok, pure_eq_ok] at hok
  obtain ⟨-, -, -, -, ⟨after, subscription⟩, hstart, rfl⟩ := hok
  exact ⟨after, subscription, hstart, rfl, rfl⟩

variable (consumer) in
/-- A client's poll is refused, or reads its next page. -/
theorem serve_follow (state : Consuming Effect) (now : ℕ) (limit : PageLimit) :
    serveConsumer consumer state (.follow now limit) = state ∨
      serveConsumer consumer state (.follow now limit) =
        { state with
          client := (Tail.serve (clientScope consumer) visibleAtBuffer
            ⟨state.outbox, state.client⟩ (.read now limit.value)).reader } := by
  rw [serveConsumer]
  cases hpoll : pollEvents consumer.token now state.groups state.outbox
      (clientQuery consumer state.client.cursor limit) with
  | error refusal => exact Or.inl rfl
  | ok response =>
      right
      obtain ⟨after, subscription, hstart, hevents, hcursor⟩ := pollEvents_ok hpoll
      simp only [pollStart, clientQuery, Option.getD_some, pure_eq_ok, Prod.mk.injEq] at hstart
      obtain ⟨rfl, rfl⟩ := hstart
      simp only [hevents, hcursor]
      rfl

variable (consumer) in
/-- A poll of the group is refused, or reads a page from its stored cursor. -/
theorem serve_pollGroup (state : Consuming Effect) (now : ℕ) (limit : PageLimit) :
    serveConsumer consumer state (.pollGroup now limit) = state ∨
      ∃ lastCursor subscription,
        storedGroup consumer state.groups = some (lastCursor, subscription) ∧
        serveConsumer consumer state (.pollGroup now limit) =
          { state with
            received := state.received ++
              Tail.readPage (groupScope consumer subscription) visibleAtBuffer now
                lastCursor limit.value state.outbox
            cursors := Tail.cursorAfter (groupScope consumer subscription)
              visibleAtBuffer now lastCursor limit.value state.outbox ::
                state.cursors } := by
  rw [serveConsumer]
  cases hpoll : pollEvents consumer.token now state.groups state.outbox
      (groupQuery consumer limit) with
  | error refusal => exact Or.inl rfl
  | ok response =>
      right
      obtain ⟨after, subscription, hstart, hevents, hcursor⟩ := pollEvents_ok hpoll
      simp only [pollStart, groupQuery, bind_eq_ok, orThrow_eq_ok, require_eq_ok,
        pure_eq_ok, Prod.mk.injEq] at hstart
      obtain ⟨group, hgroup, -, -, rfl, rfl⟩ := hstart
      refine ⟨group.lastCursor, group.subscription, ?_, ?_⟩
      · rw [storedGroup, hgroup]
        rfl
      · simp only [hevents, hcursor]
        rfl

variable (consumer) in
/-- An acknowledgement is refused, or moves the stored cursor forward. -/
theorem serve_ack (state : Consuming Effect) (cursor : ℕ) :
    serveConsumer consumer state (.ack cursor) = state ∨
      ∃ groups, serveConsumer consumer state (.ack cursor) =
          { state with groups := groups } ∧
        storedGroup consumer groups =
          (storedGroup consumer state.groups).map fun (lastCursor, subscription) =>
            (max lastCursor cursor, subscription) := by
  rw [serveConsumer]
  cases hack : ackCursor consumer.token state.groups state.outbox
      ⟨consumer.consumerGroupId, cursor⟩ with
  | error refusal => exact Or.inl rfl
  | ok groups =>
      right
      refine ⟨groups, rfl, ?_⟩
      simp only [ackCursor, bind_eq_ok, orThrow_eq_ok, require_eq_ok, pure_eq_ok] at hack
      obtain ⟨group, -, -, -, -, -, -, -, rfl⟩ := hack
      have hkeep : ∀ stored : ConsumerGroup,
          (if stored.consumerGroupId = consumer.consumerGroupId then advance cursor stored
            else stored).consumerGroupId = stored.consumerGroupId := by
        intro stored
        unfold advance
        split_ifs <;> rfl
      simp only [storedGroup, findGroup?, List.find?_map, Function.comp_def, hkeep, Option.map_map]
      cases hfound : state.groups.find? fun stored =>
          decide (stored.consumerGroupId = consumer.consumerGroupId) with
      | none => rfl
      | some stored =>
          have hid : stored.consumerGroupId = consumer.consumerGroupId := by
            simpa using List.find?_some hfound
          simp only [Option.map_some, hid, if_true, advance]
          by_cases hle : stored.lastCursor ≤ cursor
          · simp [hle]
          · simp [hle, max_eq_left (le_of_not_ge hle)]

/-! ## What runs keep -/

/-- The client with its outbox. -/
def Consuming.tailed (state : Consuming Effect) : Tail.Tailed IntegrationEvent Effect :=
  ⟨state.outbox, state.client⟩

/-- What the group has got, as a reader at one of its cursors. -/
def Consuming.groupAt (state : Consuming Effect) (cursor : ℕ) :
    Tail.Tailed IntegrationEvent Effect :=
  ⟨state.outbox, ⟨cursor, state.received⟩⟩

variable (consumer) in
/-- The stored cursor and the cursors the group was given pass no surviving event it
has not got. -/
structure GroupRead (start : ℕ) (subscription : Subscription) (survives : ℕ → Prop)
    (state : Consuming Effect) : Prop where
  stored : ∃ lastCursor,
    storedGroup consumer state.groups = some (lastCursor, subscription) ∧
      lastCursor ∈ start :: state.cursors
  drawn : ∀ cursor ∈ start :: state.cursors, cursor = start ∨ cursor < state.outbox.nextId
  complete : ∀ cursor ∈ start :: state.cursors,
    Tail.Complete (groupScope consumer subscription) start survives (state.groupAt cursor)
  committed : ∀ event ∈ state.received, event ∈ state.outbox.entries

variable {start : ℕ} {subscription : Subscription} {survives : ℕ → Prop} {state : Consuming Effect}

theorem GroupRead.outbox (hgroup : GroupRead consumer start subscription survives state)
    (step : OutboxStep Effect) :
    GroupRead consumer start subscription survives
      (serveConsumer consumer state (.outbox step)) := by
  have hfollows := CommitLog.follows_serve state.outbox step
  refine ⟨hgroup.stored, fun cursor hcursor => ?_, fun cursor hcursor => ?_, ?_⟩
  · exact (hgroup.drawn cursor hcursor).imp_right fun hlt => lt_of_lt_of_le hlt hfollows.nextId
  · exact (hgroup.complete cursor hcursor).follows (hgroup.drawn cursor hcursor)
      hfollows rfl
  · exact fun event hevent => hfollows.mem_entries (hgroup.committed event hevent)

/-- A page read from the stored cursor adds its cursor. -/
theorem GroupRead.read {lastCursor now limit : ℕ}
    (hgroup : GroupRead consumer start subscription survives state)
    (hlast : lastCursor ∈ start :: state.cursors)
    (hfree : ¬ Tail.Overtakes (groupScope consumer subscription) visibleAtBuffer
      survives now lastCursor limit state.outbox) :
    GroupRead consumer start subscription survives
      { state with
        received := state.received ++
          Tail.readPage (groupScope consumer subscription) visibleAtBuffer now lastCursor
            limit state.outbox
        cursors := Tail.cursorAfter (groupScope consumer subscription) visibleAtBuffer
          now lastCursor limit state.outbox :: state.cursors } := by
  have hread := (hgroup.complete lastCursor hlast).read hfree
  refine ⟨?_, fun cursor hcursor => ?_, fun cursor hcursor => ?_, ?_⟩
  · obtain ⟨stored, hstored, hmem⟩ := hgroup.stored
    refine ⟨stored, hstored, ?_⟩
    rcases List.mem_cons.mp hmem with rfl | hold
    · exact List.mem_cons_self
    · exact List.mem_cons_of_mem _ (List.mem_cons_of_mem _ hold)
  · rcases List.mem_cons.mp hcursor with rfl | hrest
    · exact Or.inl rfl
    · rcases List.mem_cons.mp hrest with rfl | hold
      · exact Tail.drawn_cursorAfter (hgroup.drawn lastCursor hlast)
      · exact hgroup.drawn cursor (List.mem_cons_of_mem _ hold)
  · have hmono : ∀ old ∈ start :: state.cursors, Tail.Complete
        (groupScope consumer subscription) start survives
        ⟨state.outbox, ⟨old, state.received ++ Tail.readPage
          (groupScope consumer subscription) visibleAtBuffer now lastCursor limit
          state.outbox⟩⟩ := fun old hold =>
      (hgroup.complete old hold).mono rfl (List.subset_append_left _ _)
    rcases List.mem_cons.mp hcursor with rfl | hrest
    · exact hmono _ List.mem_cons_self
    · rcases List.mem_cons.mp hrest with rfl | hold
      · exact hread
      · exact hmono cursor (List.mem_cons_of_mem _ hold)
  · intro event hevent
    rcases List.mem_append.mp hevent with hold | hnew
    · exact hgroup.committed event hold
    · exact (Tail.mem_visible.mp (Tail.mem_readPage hnew).1).1

theorem GroupRead.ack {cursor : ℕ} (hgroup : GroupRead consumer start subscription survives state)
    (hgiven : ¬ Skips consumer survives state (.ack cursor)) :
    GroupRead consumer start subscription survives
      (serveConsumer consumer state (.ack cursor)) := by
  rcases serve_ack consumer state cursor with hsame | ⟨groups, hserved, hmoved⟩
  · rw [hsame]
    exact hgroup
  · rw [hserved]
    obtain ⟨lastCursor, hstored, hlast⟩ := hgroup.stored
    refine ⟨⟨max lastCursor cursor, ?_, ?_⟩, hgroup.drawn, hgroup.complete, hgroup.committed⟩
    · rw [hmoved, hstored]
      rfl
    · rcases Nat.lt_or_ge lastCursor cursor with hahead | hbehind
      · rw [max_eq_right hahead.le]
        by_contra hunknown
        simp only [Skips, hstored] at hgiven
        exact hgiven ⟨hahead, fun hmem => hunknown (List.mem_cons_of_mem _ hmem)⟩
      · rw [max_eq_left hbehind]
        exact hlast

variable (consumer) in
/-- Client and group together. -/
structure Reading (clientStart start : ℕ) (subscription : Subscription)
    (survives : ℕ → Prop) (state : Consuming Effect) : Prop where
  ordered : Tail.Ordered (clientScope consumer) clientStart state.tailed
  complete : Tail.Complete (clientScope consumer) clientStart survives state.tailed
  group : GroupRead consumer start subscription survives state

theorem Reading.serve {clientStart : ℕ}
    (hreading : Reading consumer clientStart start subscription survives state)
    {step : ConsumerStep Effect} (hfree : ¬ Skips consumer survives state step) :
    Reading consumer clientStart start subscription survives
      (serveConsumer consumer state step) := by
  cases step with
  | outbox step =>
      have hordered : Tail.Ordered (clientScope consumer) clientStart
          (Tail.serve (clientScope consumer) visibleAtBuffer state.tailed (.log step)) :=
        hreading.ordered.serve (.log step)
      exact ⟨hordered, hreading.complete.follows hreading.ordered.drawn
        (CommitLog.follows_serve state.outbox step) rfl, hreading.group.outbox step⟩
  | follow now limit =>
      rcases serve_follow consumer state now limit with hsame | hserved
      · rw [hsame]
        exact hreading
      · rw [hserved]
        exact ⟨hreading.ordered.serve (.read now limit.value),
          hreading.complete.read hfree, hreading.group.stored, hreading.group.drawn,
          hreading.group.complete, hreading.group.committed⟩
  | pollGroup now limit =>
      rcases serve_pollGroup consumer state now limit with
        hsame | ⟨lastCursor, filter, hstored, hserved⟩
      · rw [hsame]
        exact hreading
      · obtain ⟨known, hknown, hlast⟩ := hreading.group.stored
        rw [hknown] at hstored
        obtain ⟨rfl, rfl⟩ := Prod.mk.inj (Option.some.inj hstored)
        simp only [Skips, hknown] at hfree
        rw [hserved]
        exact ⟨hreading.ordered, hreading.complete, hreading.group.read hlast hfree⟩
  | ack cursor =>
      have hgroup := hreading.group.ack hfree
      rcases serve_ack consumer state cursor with
        hsame | ⟨groups, hserved, -⟩
      · rw [hsame]
        exact hreading
      · rw [hserved] at hgroup ⊢
        exact ⟨hreading.ordered, hreading.complete, hgroup⟩

/-! ## Exactly once -/

variable (consumer) in
/-- A consumer that has got nothing yet. -/
structure Fresh (start : ℕ) (subscription : Subscription) (state : Consuming Effect) :
    Prop where
  client : state.client.returned = []
  received : state.received = []
  cursors : state.cursors = []
  stored : storedGroup consumer state.groups = some (start, subscription)

theorem Fresh.reading {start : ℕ} {subscription : Subscription}
    {state : Consuming Effect} (hfresh : Fresh consumer start subscription state)
    (survives : ℕ → Prop) :
    Reading consumer state.client.cursor start subscription survives state := by
  have htailed : state.tailed = Tail.opened state.client.cursor state.outbox := by
    rw [Consuming.tailed, Tail.opened, ← hfresh.client]
  refine ⟨?_, ?_, ⟨start, hfresh.stored, List.mem_cons_self⟩, ?_, ?_, ?_⟩
  · rw [htailed]
    exact Tail.ordered_opened _ _
  · rw [htailed]
    exact Tail.complete_opened _ _
  · rw [hfresh.cursors]
    intro cursor hcursor
    exact Or.inl (List.mem_singleton.mp hcursor)
  · rw [hfresh.cursors]
    intro cursor hcursor
    rw [List.mem_singleton.mp hcursor, Consuming.groupAt, hfresh.received]
    exact Tail.complete_opened _ _
  · rw [hfresh.received]
    exact fun event hevent => absurd hevent List.not_mem_nil

/-- In a run without skips the client has got every committed event in its scope up to
its cursor, once and in order; after a page that is not full it has got all that are
visible; and the group has got every event its stored cursor has passed. -/
theorem consumers_exactlyOnce {state final : Consuming Effect}
    {steps : List (ConsumerStep Effect)} {start : ℕ} {subscription : Subscription}
    (hfresh : Fresh consumer start subscription state)
    (hfinal : run (serveConsumer consumer) state steps = final)
    (hfree : Along (serveConsumer consumer)
      (fun current step => ¬ Skips consumer (Tail.Survives final.tailed) current step)
      state steps) :
    (final.client.returned.Pairwise fun left right => left.id < right.id) ∧
      (∀ event ∈ final.client.returned, event ∈ final.outbox.entries ∧
        clientScope consumer event.payload ∧ state.client.cursor < event.id) ∧
      (∀ event ∈ final.outbox.entries, clientScope consumer event.payload →
        state.client.cursor < event.id → event.id ≤ final.client.cursor →
          event ∈ final.client.returned) ∧
      (∀ now limit, (Tail.readPage (clientScope consumer) visibleAtBuffer now
          final.client.cursor limit final.outbox).length < limit →
        ∀ event ∈ Tail.visible (clientScope consumer) visibleAtBuffer now final.outbox,
          state.client.cursor < event.id →
            event ∈ final.client.returned ++ Tail.readPage (clientScope consumer)
              visibleAtBuffer now final.client.cursor limit final.outbox) ∧
      ∃ lastCursor, storedGroup consumer final.groups = some (lastCursor, subscription) ∧
        ∀ event ∈ final.outbox.entries, groupScope consumer subscription event.payload →
          start < event.id → event.id ≤ lastCursor → event ∈ final.received := by
  have hreading : Reading consumer state.client.cursor start subscription
      (Tail.Survives final.tailed) (run (serveConsumer consumer) state steps) :=
    run_invariant (fun _ _ hstep hstepFree => hstep.serve hstepFree) (hfresh.reading _) hfree
  rw [hfinal] at hreading
  have hseen : ∀ event ∈ final.outbox.entries, event ∈ final.outbox.all :=
    fun event hevent => CommitLog.mem_all.mpr (Or.inr hevent)
  have hclient : ∀ event ∈ final.outbox.entries, clientScope consumer event.payload →
      state.client.cursor < event.id → event.id ≤ final.client.cursor →
        event ∈ final.client.returned := by
    intro event hevent hscope hstart hle
    obtain ⟨got, hgot, hid⟩ := List.mem_map.mp (hreading.complete event
      (hseen event hevent) hscope hstart hle (List.mem_map_of_mem hevent))
    have hsame := CommitLog.eq_of_id (hseen got (hreading.ordered.committed got hgot))
      (hseen event hevent) hid
    exact hsame ▸ hgot
  refine ⟨hreading.ordered.sorted, fun event hevent => ?_, hclient,
    fun now limit hshort => ?_, ?_⟩
  · have hwithin := hreading.ordered.within event hevent
    exact ⟨hreading.ordered.committed event hevent, hwithin.1, hwithin.2.1⟩
  · exact @Tail.caughtUp_of_short _ _ _ _ _ final.tailed _ _ hclient hshort
  · obtain ⟨lastCursor, hstored, hgiven⟩ := hreading.group.stored
    refine ⟨lastCursor, hstored, fun event hevent hscope hstart hle => ?_⟩
    obtain ⟨got, hgot, hid⟩ := List.mem_map.mp (hreading.group.complete lastCursor hgiven
      event (hseen event hevent) hscope hstart hle (List.mem_map_of_mem hevent))
    have hsame := CommitLog.eq_of_id (hseen got (hreading.group.committed got hgot))
      (hseen event hevent) hid
    exact hsame ▸ hgot

/-! ## A small feed -/

namespace SmallFeed

def event (warehouseId : ℕ) : IntegrationEvent where
  eventType := "inventory.adjusted"
  eventVersion := 1
  eventTimestamp := 0
  aggregateType := "inventory_adjustment"
  aggregateId := warehouseId
  aggregateExternalId := "a-1"
  warehouseId := warehouseId
  sourceTxnId := "t-1"
  payload := ""

def erp : Consumer where
  token :=
    { warehouseIds := [1]
      eventTypes := ["inventory.adjusted"]
      connectorId := some "erp" }
  types := []
  warehouseId := none
  consumerGroupId := "erp-main"

def opening : Consuming Unit where
  outbox := CommitLog.empty
  groups := [⟨"erp-main", "erp", 0, .lists [] []⟩]
  client := ⟨0, []⟩
  received := []
  cursors := []

def page : PageLimit := ⟨500, by decide, by decide⟩

/-- Two transactions that commit in the order of their events, a poll of each kind
when both are past the buffer, and an acknowledgement. -/
def inOrder : List (ConsumerStep Unit) :=
  [.outbox (.draw 1 (event 1)), .outbox (.stamp 1), .outbox (.commit 1),
    .outbox (.draw 2 (event 1)), .outbox (.stamp 2), .outbox (.commit 2),
    .outbox (.tick 3000000), .follow 3000000 page, .pollGroup 3000000 page, .ack 2]

/-- The first event commits three seconds after the second. -/
def lateCommit : List (ConsumerStep Unit) :=
  [.outbox (.draw 1 (event 1)), .outbox (.draw 2 (event 1)), .outbox (.stamp 2),
    .outbox (.commit 2), .outbox (.tick 3000000), .follow 3000000 page,
    .outbox (.stamp 1), .outbox (.commit 1), .outbox (.tick 3000000),
    .follow 6000000 page]

/-- The group acknowledges an event it has not polled. -/
def blindAck : List (ConsumerStep Unit) :=
  [.outbox (.draw 1 (event 1)), .outbox (.stamp 1), .outbox (.commit 1), .ack 1]

def after (steps : List (ConsumerStep Unit)) : Consuming Unit :=
  run (serveConsumer erp) opening steps

end SmallFeed

theorem consumers_exactlyOnce_inOrder :
    (∀ event ∈ (SmallFeed.after SmallFeed.inOrder).outbox.entries,
      clientScope SmallFeed.erp event.payload → 0 < event.id →
        event.id ≤ (SmallFeed.after SmallFeed.inOrder).client.cursor →
          event ∈ (SmallFeed.after SmallFeed.inOrder).client.returned) ∧
      (SmallFeed.after SmallFeed.inOrder).client.cursor = 2 := by
  have hread := @consumers_exactlyOnce Unit SmallFeed.erp SmallFeed.opening
    (SmallFeed.after SmallFeed.inOrder) SmallFeed.inOrder 0 (.lists [] [])
    ⟨rfl, rfl, rfl, rfl⟩ rfl (by decide)
  exact ⟨hread.2.2.1, by decide⟩

/-- The client's cursor passes the late event, which no later poll returns; and a group
moves its cursor past an event that was never polled. -/
theorem consumers_skip :
    (SmallFeed.after SmallFeed.lateCommit).client.returned.map Entry.id = [2] ∧
      (SmallFeed.after SmallFeed.lateCommit).client.cursor = 2 ∧
      (SmallFeed.after SmallFeed.lateCommit).outbox.entries.map Entry.id = [2, 1] ∧
      clientScope SmallFeed.erp (SmallFeed.event 1) ∧
      (SmallFeed.after SmallFeed.blindAck).received = [] ∧
      (SmallFeed.after SmallFeed.blindAck).outbox.entries.map Entry.id = [1] ∧
      storedGroup SmallFeed.erp (SmallFeed.after SmallFeed.blindAck).groups =
        some (1, .lists [] []) := by
  decide

end SentryWms.Events
