import SentryWms.Webhooks.Attempts
import SentryWms.Webhooks.HttpClient

/-!
# The client's verdict and the stored outcome

The HTTP client classifies a response and keeps its status code; the dispatcher looks at
the status code first.  The two agree on every response but one kind: a 2xx reply that
advertises more than the client is willing to read.
-/

namespace SentryWms.Webhooks

open Relational

/-! ## The two verdicts -/

/-- The delivery has succeeded and the cursor has reached its event. -/
def Delivered {Effect : Type*} (subscriptionId : String) (cycle : Cycle)
    (row : WebhookDelivery) (after : Dispatcher Effect) : Prop :=
  row.status = .succeeded ∧
    ∃ cursor, cursorOf subscriptionId after.subscriptions = some cursor ∧ cycle.eventId ≤ cursor

/-- The row of the cycle says of a response what the client said of it. -/
def VerdictStored {Effect : Type*} (subscriptionId : String) (cycle : Cycle)
    (after : Dispatcher Effect) : SendResult → Prop
  | .response statusCode errorKind _ =>
      ∃ row, after.deliveries.find? cycle.deliveryId = some row ∧
        (Delivered subscriptionId cycle row after ↔ is2xx statusCode = true ∧ errorKind = none) ∧
        ∀ kind, errorKind = some kind →
          (row.status = .failed ∨ row.status = .dlq) ∧ row.errorKind = some kind
  | .raised .. | .violation => False

/-- A 2xx reply, in time and past the guard, that advertises more than 64 KiB. -/
def OversizedSuccess {Url : Type} (urls : UrlReading Url) (allowInternal : Bool)
    (exchange : Exchange) (url : Url) : Prop :=
  exchange.late = false ∧
    (∃ addrs, assertUrlSafe urls allowInternal exchange.guardLookup url = .ok addrs) ∧
    ∃ statusCode advertised,
      (sessionPost urls exchange url).2 = .ok (statusCode, advertised) ∧
        (200 ≤ statusCode ∧ statusCode < 300) ∧ maxResponseBodyBytes < advertised

/-! ## What the client returns -/

section Client

variable {Url : Type} (urls : UrlReading Url) (allowInternal : Bool) (exchange : Exchange)
  (url : Url)

/-- A response of the client: without an error kind it is a 2xx one, and a 2xx one has an
error kind exactly when it is too large. -/
def ClientVerdict (oversized : Prop) (result : SendResult) : Prop :=
  ∃ statusCode errorKind errorDetail, result = .response statusCode errorKind errorDetail ∧
    (errorKind = none → is2xx statusCode = true) ∧
    ((is2xx statusCode = true ∧ errorKind ≠ none) ↔ oversized)

theorem clientVerdict_failed {oversized : Prop} (hnot : ¬ oversized) (errorKind : String) :
    ClientVerdict oversized (failed none errorKind) :=
  ⟨none, some errorKind, some (shortMessage errorKind), rfl, nofun,
    by simp [is2xx, hnot]⟩

theorem clientVerdict_response (statusCode advertised : ℕ) :
    ClientVerdict ((200 ≤ statusCode ∧ statusCode < 300) ∧
      maxResponseBodyBytes < advertised) (classifyResponse statusCode advertised) := by
  rw [classifyResponse]
  by_cases hlarge : maxResponseBodyBytes < advertised
  · rw [if_pos hlarge]
    exact ⟨some statusCode, some _, some _, rfl, nofun, by simp [is2xx, hlarge]⟩
  · rw [if_neg hlarge]
    by_cases hsuccess : 200 ≤ statusCode ∧ statusCode < 300
    · rw [if_pos hsuccess]
      refine ⟨some statusCode, none, none, rfl, fun _ => ?_, by simp [hlarge]⟩
      simpa [is2xx] using hsuccess
    · rw [if_neg hsuccess]
      refine ⟨some statusCode, some _, some _, rfl, nofun, ?_⟩
      simp [is2xx, hsuccess]

/-- What a request with its signed body comes to. -/
theorem send_verdict (body : List UInt8) :
    ClientVerdict (OversizedSuccess urls allowInternal exchange url)
      (send urls allowInternal body body exchange url).2 := by
  rw [send, if_neg (not_not_intro rfl)]
  dsimp only
  by_cases hlate : exchange.late = true
  · rw [if_pos hlate]
    apply clientVerdict_failed
    rintro ⟨hintime, -, -⟩
    rw [hlate] at hintime
    cases hintime
  · rw [if_neg hlate, doRequest]
    have hintime : exchange.late = false := by simpa using hlate
    cases hguard : assertUrlSafe urls allowInternal exchange.guardLookup url with
    | error refusal =>
        have hnot : ¬ OversizedSuccess urls allowInternal exchange url := by
          rintro ⟨-, ⟨addrs, hsafe⟩, -⟩
          rw [hguard] at hsafe
          cases hsafe
        cases refusal <;> exact clientVerdict_failed hnot _
    | ok addrs =>
        dsimp only
        cases hposted : (sessionPost urls exchange url).2 with
        | error error =>
            apply clientVerdict_failed
            rintro ⟨-, -, statusCode, advertised, hreply, -⟩
            rw [hposted] at hreply
            cases hreply
        | ok reply =>
            obtain ⟨statusCode, advertised⟩ := reply
            obtain ⟨code, kind, detail, hresult, hkind, hlarge⟩ :=
              clientVerdict_response statusCode advertised
            refine ⟨code, kind, detail, hresult, hkind, hlarge.trans ?_⟩
            simp [OversizedSuccess, hintime, hguard, hposted]

end Client

/-! ## What the dispatcher stores -/

section Stored

variable {Effect : Type*} {state : Dispatcher Effect} {subscriptionId : String}
  {cycle : Cycle} {lane : Retry.Lane} {start : ℕ}

/-- The row a worker is at. -/
theorem Tracks.stored (htracks : Tracks subscriptionId state lane)
    (hcycle : state.workers subscriptionId = some cycle) :
    ∃ row, state.deliveries.find? cycle.deliveryId = some row := by
  obtain ⟨status, hhead⟩ := htracks.holds cycle hcycle
  have hmem : (⟨cycle.deliveryId, cycle.eventId, cycle.attemptNumber, status⟩ :
      Retry.Attempt) ∈ attempts subscriptionId state.deliveries := by
    rw [htracks.rows, Retry.Lane.rows, hhead]
    exact List.mem_append_right _ List.mem_cons_self
  obtain ⟨row, hrow, hattempt⟩ := List.mem_map.mp hmem
  have hkey : row.deliveryId = cycle.deliveryId := congrArg Retry.Attempt.key hattempt
  exact ⟨row, Table.find?_eq_some_iff.mpr ⟨(List.mem_filter.mp hrow).1, hkey⟩⟩

/-- Rewriting the row of a cycle. -/
theorem find?_rewritten {row : WebhookDelivery}
    (hrow : state.deliveries.find? cycle.deliveryId = some row)
    (set : WebhookDelivery → WebhookDelivery)
    (hset : ∀ row, (set row).deliveryId = row.deliveryId) :
    (state.deliveries.updateKey cycle.deliveryId set hset).find? cycle.deliveryId =
      some (set row) := by
  rw [Table.find?_updateKey, if_pos rfl, hrow, Option.map_some]

/-- The last transaction of a cycle stores the client's verdict, unless a 2xx status came
with an error kind. -/
theorem finish_verdict (hvalid : Retry.Valid start maxAttempts lane)
    (htracks : Tracks subscriptionId state lane)
    (hid : cycle.subscription.subscriptionId = subscriptionId)
    (hcycle : state.workers subscriptionId = some cycle) (now elapsedMs : ℕ)
    (jitter : Jitter) {statusCode : Option ℕ} {errorKind : Option String}
    (errorDetail : Option String) (hkind : errorKind = none → is2xx statusCode = true) :
    VerdictStored subscriptionId cycle
        (finish cycle now elapsedMs jitter (.response statusCode errorKind errorDetail) state)
        (.response statusCode errorKind errorDetail) ↔
      ¬ (is2xx statusCode = true ∧ errorKind ≠ none) := by
  obtain ⟨row, hrow⟩ := htracks.stored hcycle
  obtain ⟨status, hhead⟩ := htracks.holds cycle hcycle
  have hahead := hvalid.ahead _ hhead
  change VerdictStored subscriptionId cycle (finish.conclude cycle now elapsedMs jitter state
    statusCode errorKind errorDetail) _ ↔ _
  unfold finish.conclude
  by_cases hsuccess : is2xx statusCode = true
  · rw [if_pos hsuccess]
    have hfound : (markSucceeded cycle now elapsedMs statusCode state).deliveries.find?
        cycle.deliveryId = some (succeededRow now elapsedMs statusCode row) :=
      find?_rewritten hrow (succeededRow now elapsedMs statusCode) fun _ => rfl
    have hdelivered : Delivered subscriptionId cycle (succeededRow now elapsedMs statusCode row)
        (markSucceeded cycle now elapsedMs statusCode state) := by
      refine ⟨rfl, cycle.eventId, ?_, le_rfl⟩
      rw [markSucceeded, hid]
      exact cursorOf_advance htracks.cursor hahead
    constructor
    · rintro ⟨stored, hstored, hagree, -⟩ ⟨-, herror⟩
      rw [hfound] at hstored
      cases hstored
      exact herror (hagree.mp hdelivered).2
    · intro hnot
      have hclean : errorKind = none := by
        by_contra herror
        exact hnot ⟨hsuccess, herror⟩
      refine ⟨_, hfound, ⟨fun _ => ⟨hsuccess, hclean⟩, fun _ => hdelivered⟩, ?_⟩
      rw [hclean]
      exact nofun
  · rw [if_neg hsuccess]
    have hsome : ∃ kind, errorKind = some kind := by
      cases errorKind with
      | none => exact absurd (hkind rfl) hsuccess
      | some kind => exact ⟨kind, rfl⟩
    obtain ⟨kind, rfl⟩ := hsome
    have hnot : ¬ (is2xx statusCode = true ∧ some kind ≠ none) := fun h => hsuccess h.1
    -- a failed row is not a delivered one, and carries the kind it was given
    have hverdict : ∀ after : Dispatcher Effect, ∀ failure status,
        failure.1 = kind → (status = .failed ∨ status = .dlq) →
        after.deliveries.find? cycle.deliveryId =
          some (failedRow status now elapsedMs statusCode failure row) →
        VerdictStored subscriptionId cycle after
          (.response statusCode (some kind) errorDetail) := by
      intro after failure status hfailure hstatus hfound
      refine ⟨_, hfound, ⟨?_, ?_⟩, ?_⟩
      · rintro ⟨hsucceeded, -⟩
        have hboth : status = .succeeded := hsucceeded
        rcases hstatus with rfl | rfl <;> cases hboth
      · exact fun h => absurd h.1 hsuccess
      · intro other hother
        cases hother
        exact ⟨hstatus, congrArg some hfailure⟩
    apply iff_of_true ?_ hnot
    dsimp only
    split
    · exact hverdict _ (kind, errorDetail) .dlq rfl (Or.inr rfl) (find?_rewritten hrow
        (failedRow .dlq now elapsedMs statusCode (kind, errorDetail)) fun _ => rfl)
    · rename_i hretry
      have hnumber : cycle.attemptNumber < maxAttempts := by
        simpa [isTerminalAttempt] using (not_or.mp hretry).2
      cases hdelay : retryDelay (cycle.attemptNumber + 1) jitter with
      | none => exact absurd hdelay (retryDelay_ne_none (hvalid.number_pos hhead) hnumber)
      | some delay =>
          apply hverdict _ (kind, errorDetail) .failed rfl (Or.inl rfl)
          have hne : cycle.deliveryId ≠ state.deliveries.nextKey := by
            intro hsame
            rw [hsame, Table.find?_nextKey] at hrow
            cases hrow
          dsimp only
          rw [markFailed_deliveries, Table.find?_insert]
          refine (if_neg hne).trans ?_
          exact find?_rewritten hrow
            (failedRow .failed now elapsedMs statusCode (kind, errorDetail)) fun _ => rfl

end Stored

/-! ## Every response, in every run -/

/-- Whatever the dispatcher has been through, a cycle stores what the client said of the
response if and only if it is not a 2xx one the client found too large. -/
theorem verdict_stored_iff {Effect : Type*} {Url : Type} {initial state : Dispatcher Effect}
    {steps : List (DispatchStep Effect)} {subscriptionId : String} {start : ℕ}
    {cycle : Cycle} (hopening : Undelivered initial)
    (hstart : cursorOf subscriptionId initial.subscriptions = some start)
    (hstate : run serveDispatch initial steps = state)
    (hcycle : state.workers subscriptionId = some cycle) (hsigned : cycle.signed = true)
    (urls : UrlReading Url) (allowInternal : Bool) (body : List UInt8)
    (exchange : Exchange) (url : Url) (now elapsedMs : ℕ) (jitter : Jitter) :
    let result := (send urls allowInternal body body exchange url).2
    VerdictStored subscriptionId cycle
        (serveDispatch state (.send subscriptionId now elapsedMs jitter result)) result ↔
      ¬ OversizedSuccess urls allowInternal exchange url := by
  intro result
  obtain ⟨hheld, lane, hvalid, htracks⟩ := (hopening.follows hstart).run steps
  rw [hstate] at hheld htracks
  obtain ⟨statusCode, errorKind, errorDetail, hresult, hkind, hoversized⟩ :=
    send_verdict urls allowInternal exchange url body
  have hserve : serveDispatch state (.send subscriptionId now elapsedMs jitter result) =
      finish cycle now elapsedMs jitter result state := by
    simp only [serveDispatch, hcycle, if_pos hsigned]
  have hreply : result = .response statusCode errorKind errorDetail := hresult
  rw [hserve, hreply, ← not_congr hoversized]
  exact finish_verdict hvalid htracks (hheld subscriptionId cycle hcycle).1 hcycle now
    elapsedMs jitter errorDetail hkind

/-! ## A reply that is too large -/

namespace SmallStream

/-- The first event is claimed and its request signed. -/
def signed : Dispatcher Unit :=
  after (emit 1 ++ [.claim "erp" 3000000, .sign "erp" 3000000 (some 1)])

def signedCycle : Cycle := ⟨1, 1, 1, erp, true⟩

/-- A consumer that replies 200 and advertises so many bytes. -/
def replying (advertised : ℕ) : Exchange where
  guardLookup := fun _ => .found [publicAddress]
  libraryLookup := fun _ => .found [publicAddress]
  pooled := true
  accepts := fun _ => true
  outcome := .ok (200, advertised)
  late := false

end SmallStream

theorem verdict_stored_iff_small :
    let result := (send byHost false [] [] (SmallStream.replying 2) "hook.example").2
    VerdictStored "erp" SmallStream.signedCycle
        (serveDispatch SmallStream.signed
          (.send "erp" 3000000 20 SmallStream.steady result)) result ↔
      ¬ OversizedSuccess byHost false (SmallStream.replying 2) "hook.example" :=
  @verdict_stored_iff Unit String _ _ _ _ 0 _ ⟨rfl, fun _ => rfl⟩ rfl rfl rfl rfl
    byHost false [] (SmallStream.replying 2) "hook.example" 3000000 20 SmallStream.steady

/-- The client calls a 200 with 70000 bytes a server error; the dispatcher has delivered
it. -/
theorem oversized_delivered :
    let result := (send byHost false [] [] (SmallStream.replying 70000) "hook.example").2
    result = .response (some 200) (some "5xx") (some (shortMessage "5xx")) ∧
      ¬ VerdictStored "erp" SmallStream.signedCycle
        (serveDispatch SmallStream.signed
          (.send "erp" 3000000 20 SmallStream.steady result)) result := by
  have hresult : (send byHost false [] [] (SmallStream.replying 70000) "hook.example").2 =
      .response (some 200) (some "5xx") (some (shortMessage "5xx")) := by
    decide
  intro result
  have hreply : result = .response (some 200) (some "5xx") (some (shortMessage "5xx")) := hresult
  refine ⟨hreply, ?_⟩
  rw [hreply]
  rintro ⟨row, hrow, -, hkind⟩
  have hstatus : (((serveDispatch SmallStream.signed (.send "erp" 3000000 20
      SmallStream.steady (.response (some 200) (some "5xx")
        (some (shortMessage "5xx"))))).deliveries.find? 1).map
          WebhookDelivery.status) = some .succeeded := by
    decide
  have hfound := congrArg (Option.map WebhookDelivery.status) hrow
  rw [Option.map_some] at hfound
  have hsucceeded : row.status = .succeeded := Option.some.inj (hfound.symm.trans hstatus)
  rcases (hkind "5xx" rfl).1 with hfailed | hdlq
  · rw [hsucceeded] at hfailed
    cases hfailed
  · rw [hsucceeded] at hdlq
    cases hdlq

end SentryWms.Webhooks
