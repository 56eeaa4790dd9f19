import SentryWms.Webhooks.Attempts

/-!
# The head of the line

The attempt number grows only where a cycle writes the result of its send.  As long as
no cycle of an event ends before that, the rows of the event are flipped in flight at
most 8 times and the event is settled after the last.  A cycle that ends before it, when
signing raises for one, leaves the row to a reaper and to a further flip of the same
attempt.
-/

namespace SentryWms.Webhooks

open Relational SentryWms.Events

variable {Effect : Type*}

/-- The worker of the subscription is in a cycle of the event that passes a test. -/
def inCycle (subscriptionId : String) (eventId : ℕ) (test : Cycle → Bool)
    (state : Dispatcher Effect) : Bool :=
  (state.workers subscriptionId).any fun cycle => cycle.eventId = eventId ∧ test cycle

/-- The worker of the subscription is in a cycle of the event. -/
abbrev atEvent (subscriptionId : String) (eventId : ℕ) (state : Dispatcher Effect) : Bool :=
  inCycle subscriptionId eventId (fun _ => true) state

/-- The step flips a row of the event to `in_flight`. -/
def Flips (subscriptionId : String) (eventId : ℕ) (state : Dispatcher Effect) :
    DispatchStep Effect → Prop
  | .claim other now => other = subscriptionId ∧ state.workers subscriptionId = none ∧
      atEvent subscriptionId eventId (serveDispatch state (.claim other now))
  | _ => False

instance (subscriptionId : String) (eventId : ℕ) (state : Dispatcher Effect)
    (step : DispatchStep Effect) : Decidable (Flips subscriptionId eventId state step) := by
  cases step <;> unfold Flips <;> infer_instance

/-- The step ends a cycle of the event before its result is written: signing raises, the
client raises a violation, the worker is gone, or the dispatcher is booted. -/
def Abandons (subscriptionId : String) (eventId : ℕ) (state : Dispatcher Effect) :
    DispatchStep Effect → Prop
  | .sign other _ none => other = subscriptionId ∧
      inCycle subscriptionId eventId (fun cycle => !cycle.signed) state
  | .send other _ _ _ .violation => other = subscriptionId ∧
      inCycle subscriptionId eventId Cycle.signed state
  | .abandon other => other = subscriptionId ∧ atEvent subscriptionId eventId state
  | .restart _ => atEvent subscriptionId eventId state
  | _ => False

/-- The decided rows of the event, and the row in the worker's hands. -/
def flipped (subscriptionId : String) (eventId : ℕ) (state : Dispatcher Effect) : ℕ :=
  (rowsOf subscriptionId eventId state.deliveries).countP (fun row => !nonTerminal row) +
    if atEvent subscriptionId eventId state then 1 else 0

section Count

variable {state next : Dispatcher Effect} {subscriptionId other : String} {eventId : ℕ}
  {lane after : Retry.Lane} {start now : ℕ}

theorem Tracks.decided (htracks : Tracks subscriptionId state lane)
    (hvalid : Retry.Valid start maxAttempts lane) (eventId : ℕ) :
    (Webhooks.rowsOf subscriptionId eventId state.deliveries).countP
        (fun row => !nonTerminal row) =
      (lane.closed.filter fun row => row.item = eventId).length := by
  have hcount : (Webhooks.rowsOf subscriptionId eventId state.deliveries).countP
      (fun row => !nonTerminal row) =
      (lane.of eventId).countP fun row => !row.status.isOpen := by
    rw [← htracks.rowsOf eventId, List.countP_map]
    apply List.countP_congr
    intro row _
    rw [nonTerminal_iff]
    rfl
  have hclosed : (lane.closed.filter fun row => row.item = eventId).countP
      (fun row => !row.status.isOpen) =
      (lane.closed.filter fun row => row.item = eventId).length := by
    rw [List.countP_eq_length]
    intro row hrow
    rw [hvalid.closed row (List.mem_filter.mp hrow).1]
    rfl
  have hhead : (lane.current.toList.filter fun row => row.item = eventId).countP
      (fun row => !row.status.isOpen) = 0 := by
    rw [List.countP_eq_zero]
    intro row hrow hdecided
    rw [hvalid.current row (Option.mem_toList.mp (List.mem_filter.mp hrow).1)] at hdecided
    cases hdecided
  rw [hcount, Retry.Lane.of, Retry.Lane.rows, List.filter_append, List.countP_append,
    hclosed, hhead, Nat.add_zero]

theorem Tracks.flipped (htracks : Tracks subscriptionId state lane)
    (hvalid : Retry.Valid start maxAttempts lane) (eventId : ℕ) :
    flipped subscriptionId eventId state =
      (lane.closed.filter fun row => row.item = eventId).length +
        if atEvent subscriptionId eventId state then 1 else 0 := by
  rw [Webhooks.flipped, htracks.decided hvalid]

theorem atEvent_of_idle (hidle : state.workers subscriptionId = none) :
    atEvent subscriptionId eventId state = false := by
  rw [atEvent, inCycle, hidle]
  rfl

theorem atEvent_of_cycle {cycle : Cycle} (hcycle : state.workers subscriptionId = some cycle) :
    atEvent subscriptionId eventId state = decide (cycle.eventId = eventId) := by
  rw [atEvent, inCycle, hcycle, Option.any_some]
  simp

theorem atEvent_congr
    (hworkers : next.workers subscriptionId = state.workers subscriptionId) :
    atEvent subscriptionId eventId next = atEvent subscriptionId eventId state := by
  unfold atEvent inCycle
  rw [hworkers]

/-- Steps of another subscription leave the worker alone. -/
theorem workers_other (hheld : Held state) (hother : other ≠ subscriptionId)
    {step : DispatchStep Effect}
    (hstep : (∃ now, step = .claim other now) ∨
      (∃ now generation, step = .sign other now generation) ∨
      (∃ now elapsedMs jitter result, step = .send other now elapsedMs jitter result) ∨
      step = .abandon other) :
    (serveDispatch state step).workers subscriptionId = state.workers subscriptionId := by
  have hset : ∀ sid cycle, sid = other →
      Function.update state.workers sid cycle subscriptionId =
        state.workers subscriptionId := by
    intro sid cycle hsid
    exact Function.update_of_ne (fun heq => hother (hsid.symm.trans heq.symm)) _ _
  rcases hstep with ⟨now, rfl⟩ | ⟨now, generation, rfl⟩ |
    ⟨now, elapsedMs, jitter, result, rfl⟩ | rfl
  · rcases serve_claim state other now with hsame | ⟨-, hclaimed⟩
    · rw [hsame]
    · generalize serveDispatch state (.claim other now) = next at hclaimed
      cases hclaimed with
      | idle | malformed => rfl
      | pending subscription row hfind hrow hpending =>
          exact hset _ _ (findSubscription?_id hfind)
      | fresh subscription filter event hselects =>
          exact hset _ _ (findSubscription?_id hselects.stored)
  · rcases serve_sign state other now generation with hsame | ⟨cycle, hcycle, -, hsigned⟩
    · rw [hsame]
    · have hid := (hheld other cycle hcycle).1
      generalize serveDispatch state (.sign other now generation) = next at hsigned
      cases hsigned with
      | raised | signed | missing => exact hset _ _ hid
  · rcases serve_send state other now elapsedMs jitter result with
      hsame | ⟨cycle, hcycle, -, hfinished⟩
    · rw [hsame]
    · have hid := (hheld other cycle hcycle).1
      generalize serveDispatch state (.send other now elapsedMs jitter result) = next
        at hfinished
      cases hfinished with
      | dropped | succeeded | dlq | failed => exact hset _ _ hid
  · exact hset _ _ rfl

theorem Flips.own {step : DispatchStep Effect} (hflips : Flips subscriptionId eventId state step) :
    ∃ now, step = .claim subscriptionId now := by
  cases step with
  | claim other now => exact ⟨now, by rw [hflips.1]⟩
  | _ => exact absurd hflips not_false

/-- What is counted grows by the flips of the event. -/
theorem flipped_claim (htracks : Tracks subscriptionId state lane)
    (hvalid : Retry.Valid start maxAttempts lane)
    (hidle : state.workers subscriptionId = none)
    (hclaimed : Claimed subscriptionId now state
      (serveDispatch state (.claim subscriptionId now))) :
    flipped subscriptionId eventId (serveDispatch state (.claim subscriptionId now)) =
      flipped subscriptionId eventId state +
        if Flips subscriptionId eventId state (.claim subscriptionId now) then 1
        else 0 := by
  obtain ⟨after, hsteps, hafter, hclosed, -⟩ := htracks.claimed hvalid hclaimed
  rw [htracks.flipped hvalid, hafter.flipped (hvalid.steps (Nat.zero_lt_succ 7) hsteps),
    hclosed, atEvent_of_idle hidle, if_neg Bool.false_ne_true, Nat.add_zero]
  simp [Flips, hidle]

theorem flipped_sign {generation : Option ℕ} {cycle : Cycle}
    (htracks : Tracks subscriptionId state lane)
    (hvalid : Retry.Valid start maxAttempts lane)
    (hid : cycle.subscription.subscriptionId = subscriptionId)
    (hcycle : state.workers subscriptionId = some cycle) (hunsigned : cycle.signed = false)
    (hsigned : Signed cycle now generation state next)
    (hkept : ¬ Abandons subscriptionId eventId state (.sign subscriptionId now generation)) :
    flipped subscriptionId eventId next = flipped subscriptionId eventId state := by
  have hafter := htracks.signed hid hcycle hsigned
  rw [htracks.flipped hvalid, hafter.flipped hvalid]
  congr 2
  cases hsigned with
  | raised hraised =>
      subst hraised
      have hother : ¬ cycle.eventId = eventId := by
        intro heq
        apply hkept
        simp [Abandons, inCycle, hcycle, hunsigned, heq]
      rw [atEvent_of_cycle hcycle, decide_eq_false hother]
      rw [atEvent_of_idle (hid ▸ Function.update_self ..)]
  | signed stamped =>
      have hnext : (setWorker cycle.subscription.subscriptionId
          (some { cycle with signed := true })
          { state with
            deliveries := state.deliveries.updateKey cycle.deliveryId
              (signedRow stamped) fun _ => rfl }).workers subscriptionId =
          some { cycle with signed := true } := hid ▸ Function.update_self ..
      rw [atEvent_of_cycle hcycle, atEvent_of_cycle hnext]
  | missing hmissing =>
      obtain ⟨status, hhead⟩ := htracks.holds cycle hcycle
      obtain ⟨event, hevent, hitem⟩ := htracks.event _ hhead
      exact absurd hitem (hmissing event hevent)

/-- The result of a cycle decides its row. -/
theorem flipped_send {elapsedMs : ℕ} {jitter : Jitter} {result : SendResult}
    {cycle : Cycle} (htracks : Tracks subscriptionId state lane)
    (hvalid : Retry.Valid start maxAttempts lane)
    (hid : cycle.subscription.subscriptionId = subscriptionId)
    (hcycle : state.workers subscriptionId = some cycle) (hready : cycle.signed)
    (hfinished : Finished cycle now elapsedMs jitter result state next)
    (hkept : ¬ Abandons subscriptionId eventId state
      (.send subscriptionId now elapsedMs jitter result)) :
    flipped subscriptionId eventId next = flipped subscriptionId eventId state := by
  obtain ⟨after, hsteps, hafter, -, hclosed⟩ := htracks.finished hvalid hid hcycle hfinished
  have hdone : next.workers subscriptionId = none := by
    subst hid
    cases hfinished with
    | dropped | succeeded | dlq | failed => exact Function.update_self ..
  rw [htracks.flipped hvalid, hafter.flipped (hvalid.steps (Nat.zero_lt_succ 7) hsteps),
    atEvent_of_idle hdone, atEvent_of_cycle hcycle]
  rcases hclosed with ⟨hsame, rfl⟩ | ⟨last, hlast, hitem⟩
  · have hother : ¬ cycle.eventId = eventId := by
      intro heq
      apply hkept
      simp [Abandons, inCycle, hcycle, hready, heq]
    rw [hsame, decide_eq_false hother]
  · rw [hlast, List.filter_append, List.length_append, List.filter_singleton, hitem]
    by_cases heq : cycle.eventId = eventId <;> simp [heq]

/-- A step of another subscription counts nothing. -/
theorem flipped_other (hheld : Held state) (htracks : Tracks subscriptionId state lane)
    (hvalid : Retry.Valid start maxAttempts lane) {step : DispatchStep Effect}
    (hafter : Tracks subscriptionId (serveDispatch state step) lane)
    (hother : other ≠ subscriptionId)
    (hstep : (∃ now, step = .claim other now) ∨
      (∃ now generation, step = .sign other now generation) ∨
      (∃ now elapsedMs jitter result, step = .send other now elapsedMs jitter result) ∨
      step = .abandon other) :
    flipped subscriptionId eventId (serveDispatch state step) =
      flipped subscriptionId eventId state +
        if Flips subscriptionId eventId state step then 1 else 0 := by
  have hflips : ¬ Flips subscriptionId eventId state step := by
    intro hflips
    obtain ⟨now, hown⟩ := hflips.own
    rw [hown] at hstep
    rcases hstep with ⟨_, hclaim⟩ | ⟨_, _, hsign⟩ | ⟨_, _, _, _, hsend⟩ | habandon
    · exact hother (DispatchStep.claim.inj hclaim).1.symm
    · cases hsign
    · cases hsend
    · cases habandon
  rw [if_neg hflips, htracks.flipped hvalid, hafter.flipped hvalid,
    atEvent_congr (workers_other hheld hother hstep)]
  rfl

/-- A step that keeps every cycle of the event counts its flips. -/
theorem flipped_serve (hfollows : Follows subscriptionId start state)
    {step : DispatchStep Effect} (hkept : ¬ Abandons subscriptionId eventId state step) :
    flipped subscriptionId eventId (serveDispatch state step) =
      flipped subscriptionId eventId state +
        if Flips subscriptionId eventId state step then 1 else 0 := by
  obtain ⟨hheld, lane, hvalid, htracks⟩ := hfollows
  have hsame : serveDispatch state step = state → ¬ Flips subscriptionId eventId state step →
      flipped subscriptionId eventId (serveDispatch state step) =
        flipped subscriptionId eventId state +
          if Flips subscriptionId eventId state step then 1 else 0 := by
    intro hstate hflips
    rw [if_neg hflips, hstate]
    rfl
  cases step with
  | outbox | configure => rfl
  | claim other now =>
      by_cases hother : other = subscriptionId
      · subst hother
        rcases serve_claim state other now with hstate | ⟨hidle, hclaimed⟩
        · cases hworker : state.workers other with
          | none =>
              apply hsame hstate
              rintro ⟨-, -, hflipped⟩
              rw [hstate, atEvent_of_idle hworker] at hflipped
              cases hflipped
          | some cycle =>
              apply hsame hstate
              rintro ⟨-, hidle, -⟩
              rw [hworker] at hidle
              cases hidle
        · exact flipped_claim htracks hvalid hidle hclaimed
      · have hafter : Tracks subscriptionId (serveDispatch state (.claim other now))
            lane := by
          rcases serve_claim state other now with hstate | ⟨-, hclaimed⟩
          · rw [hstate]
            exact htracks
          · exact htracks.claimed_other hother hclaimed
        exact flipped_other hheld htracks hvalid hafter hother (Or.inl ⟨now, rfl⟩)
  | sign other now generation =>
      rcases serve_sign state other now generation with
        hstate | ⟨cycle, hcycle, hunsigned, hsigned⟩
      · exact hsame hstate not_false
      · by_cases hother : other = subscriptionId
        · subst hother
          exact flipped_sign htracks hvalid (hheld other cycle hcycle).1 hcycle hunsigned
            hsigned hkept
        · exact flipped_other hheld htracks hvalid
            (htracks.signed_other hheld hother hcycle hsigned) hother
            (Or.inr (Or.inl ⟨now, generation, rfl⟩))
  | send other now elapsedMs jitter result =>
      rcases serve_send state other now elapsedMs jitter result with
        hstate | ⟨cycle, hcycle, hready, hfinished⟩
      · exact hsame hstate not_false
      · by_cases hother : other = subscriptionId
        · subst hother
          exact flipped_send htracks hvalid (hheld other cycle hcycle).1 hcycle hready
            hfinished hkept
        · exact flipped_other hheld htracks hvalid
            (htracks.finished_other hheld hother hcycle hfinished) hother
            (Or.inr (Or.inr (Or.inl ⟨now, elapsedMs, jitter, result, rfl⟩)))
  | abandon other =>
      have hafter : Tracks subscriptionId (serveDispatch state (.abandon other)) lane := by
        refine htracks.drop ?_ rfl rfl rfl
        exact fun held hmem => (mem_setWorker_none hmem).2
      by_cases hother : other = subscriptionId
      · subst hother
        have haway : atEvent other eventId state = false :=
          Bool.eq_false_of_not_eq_true fun hat => hkept ⟨rfl, hat⟩
        have hidle : (serveDispatch state (.abandon other)).workers other = none :=
          Function.update_self ..
        rw [htracks.flipped hvalid, hafter.flipped hvalid, atEvent_of_idle hidle, haway]
        rfl
      · exact flipped_other hheld htracks hvalid hafter hother
          (Or.inr (Or.inr (Or.inr rfl)))
  | restart now =>
      obtain ⟨after, hsteps, hafter, hclosed, -⟩ := htracks.boot hvalid now
      have haway : atEvent subscriptionId eventId state = false :=
        Bool.eq_false_of_not_eq_true hkept
      have hidle : (serveDispatch state (.restart now)).workers subscriptionId = none := rfl
      rw [htracks.flipped hvalid, hafter.flipped (hvalid.steps (Nat.zero_lt_succ 7) hsteps),
        hclosed, atEvent_of_idle hidle, haway]
      rfl
  | reclaim now olderThan =>
      obtain ⟨after, hsteps, hafter, hclosed, -⟩ := htracks.reclaimed hvalid now olderThan
      rw [htracks.flipped hvalid, hafter.flipped (hvalid.steps (Nat.zero_lt_succ 7) hsteps),
        hclosed]
      rfl

end Count

/-! ## At most 8 flips -/

theorem Undelivered.flipped {initial : Dispatcher Effect} (hopening : Undelivered initial)
    (subscriptionId : String) (eventId : ℕ) :
    flipped subscriptionId eventId initial = 0 := by
  have hrows : rowsOf subscriptionId eventId initial.deliveries = [] := by
    rw [rowsOf, deliveriesOf, Table.select, hopening.deliveries]
    rfl
  rw [Webhooks.flipped, hrows, atEvent_of_idle (hopening.workers subscriptionId)]
  rfl

/-- The counted rows of an event are within the limit, and all 8 of a finished one are
used up only if it is settled. -/
theorem Tracks.flipped_le {state : Dispatcher Effect} {subscriptionId : String}
    {lane : Retry.Lane} {start : ℕ} (htracks : Tracks subscriptionId state lane)
    (hvalid : Retry.Valid start maxAttempts lane) (eventId : ℕ) :
    Webhooks.flipped subscriptionId eventId state ≤ maxAttempts ∧
      (Webhooks.flipped subscriptionId eventId state = maxAttempts →
        atEvent subscriptionId eventId state = false →
          ∃ row ∈ Webhooks.rowsOf subscriptionId eventId state.deliveries,
            settled row) := by
  have hlength := (hvalid.chain eventId).1
  rw [htracks.flipped hvalid]
  by_cases hhead : ∃ head ∈ lane.current, head.item = eventId
  · obtain ⟨head, hcurrent, hitem⟩ := hhead
    rw [Retry.of_current hcurrent, if_pos hitem, List.length_append,
      List.length_singleton] at hlength
    refine ⟨?_, fun hfull haway => ?_⟩
    · split <;> omega
    · rw [haway, if_neg Bool.false_ne_true] at hfull
      omega
  · have haway : atEvent subscriptionId eventId state = false := by
      cases hworker : state.workers subscriptionId with
      | none => exact atEvent_of_idle hworker
      | some cycle =>
          obtain ⟨status, hcurrent⟩ := htracks.holds cycle hworker
          rw [atEvent_of_cycle hworker]
          exact decide_eq_false fun hitem => hhead ⟨_, hcurrent, hitem⟩
    have hof : lane.of eventId = lane.closed.filter fun row => row.item = eventId := by
      cases hcurrent : lane.current with
      | none => exact Retry.of_idle hcurrent eventId
      | some head =>
          have hother : ¬ head.item = eventId := fun hitem => hhead ⟨head, hcurrent, hitem⟩
          rw [Retry.of_current hcurrent, if_neg hother, List.append_nil]
    rw [hof] at hlength
    rw [haway, if_neg Bool.false_ne_true, Nat.add_zero]
    refine ⟨hlength, fun hfull _ => ?_⟩
    have hne : lane.of eventId ≠ [] := by
      rw [hof]
      intro hnil
      rw [hnil] at hfull
      cases hfull
    obtain ⟨row, hrow⟩ := List.exists_mem_of_ne_nil _ hne
    obtain ⟨hmem, hitem⟩ := List.mem_filter.mp hrow
    have hrowItem : row.item = eventId := of_decide_eq_true hitem
    have hsettled := hvalid.settled hmem fun head hcurrent heq =>
      hhead ⟨head, hcurrent, heq.trans hrowItem⟩
    rw [hrowItem] at hsettled
    exact htracks.settled_row hsettled

/-- In a run that ends no cycle of an event before its result is written, the rows of the
event are flipped in flight at most 8 times, and after the last the event is settled. -/
theorem flips_bounded {initial final : Dispatcher Effect}
    {steps : List (DispatchStep Effect)} {subscriptionId : String} {start eventId : ℕ}
    (hopening : Undelivered initial)
    (hstart : cursorOf subscriptionId initial.subscriptions = some start)
    (hfinal : run serveDispatch initial steps = final)
    (hkept : Along serveDispatch
      (fun state step => ¬ Abandons subscriptionId eventId state step) initial steps) :
    tally serveDispatch (Flips subscriptionId eventId) initial steps ≤ maxAttempts ∧
      (tally serveDispatch (Flips subscriptionId eventId) initial steps = maxAttempts →
        atEvent subscriptionId eventId final = false →
          ∃ row ∈ rowsOf subscriptionId eventId final.deliveries, settled row) := by
  have hcount := tally_eq (flipped subscriptionId eventId)
    (fun state step hfollows hkeeps => ⟨Follows.serve hfollows step, flipped_serve hfollows hkeeps⟩)
    (hopening.follows hstart) hkept
  rw [hfinal, hopening.flipped, Nat.zero_add] at hcount
  have hfollows := (hopening.follows hstart).run steps
  rw [hfinal] at hfollows
  obtain ⟨hheld, lane, hvalid, htracks⟩ := hfollows
  rw [← hcount]
  exact htracks.flipped_le hvalid eventId

namespace SmallStream

/-- A cycle in which signing raises, and the reaper after it. -/
def unsignable (now : ℕ) : List (DispatchStep Unit) :=
  [.claim "erp" now, .sign "erp" now none, .reclaim (now + 31 * second) 30]

def poisoned : List (DispatchStep Unit) :=
  emit 1 ++ (List.range 9).flatMap fun turn => unsignable ((turn + 3) * 31 * second)

end SmallStream

theorem flips_bounded_recovered :
    tally serveDispatch (Flips "erp" 1) SmallStream.opening
        (SmallStream.emit 1 ++ SmallStream.cycle 3000000 503 ++
          SmallStream.cycle 9000000 200) ≤ maxAttempts ∧
      (rowsOf "erp" 1 (SmallStream.after (SmallStream.emit 1 ++
        SmallStream.cycle 3000000 503 ++ SmallStream.cycle 9000000 200)).deliveries).map
        WebhookDelivery.status = [.failed, .succeeded] := by
  have hbounded := @flips_bounded Unit SmallStream.opening
    (SmallStream.after (SmallStream.emit 1 ++ SmallStream.cycle 3000000 503 ++
      SmallStream.cycle 9000000 200))
    (SmallStream.emit 1 ++ SmallStream.cycle 3000000 503 ++ SmallStream.cycle 9000000 200)
    "erp" 0 1 ⟨rfl, fun _ => rfl⟩ rfl rfl (by
      simp [SmallStream.emit, SmallStream.cycle, Along, Abandons])
  exact ⟨hbounded.1, by decide⟩

/-- Signing raises nine times: the ninth flip is of the first attempt. -/
theorem flips_unbounded_poisoned :
    tally serveDispatch (Flips "erp" 1) SmallStream.opening SmallStream.poisoned = 9 ∧
      ((rowsOf "erp" 1 (SmallStream.after SmallStream.poisoned).deliveries).map fun row =>
        (row.attemptNumber, row.status)) = [(1, .pending)] ∧
      atEvent "erp" 1 (SmallStream.after SmallStream.poisoned) = false := by
  decide

end SentryWms.Webhooks
