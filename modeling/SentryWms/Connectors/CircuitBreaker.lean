import Mathlib.Algebra.Order.Ring.Rat
import Mathlib.Data.List.DropRight
import SentryWms.Connectors.UrlGuard

/-!
# What the circuit breaker counts

A connector makes one call after another.  Each call is let through or refused by the
breaker, and makes up to three attempts; an attempt raises an error or is answered with a
status.  The breaker of a connector is determined by the attempts made so far, as long as no
call has used its last attempt up with an error.
-/

namespace SentryWms.Connectors

open Network Relational

/-! ## Attempts -/

/-- An attempt: its place in the call, the status of the answer unless an error was raised,
and the clock after it. -/
structure Attempt where
  attempt : ℕ
  status : Option ℕ
  now : ℚ
  deriving DecidableEq, Repr

namespace Attempt

/-- The attempt is answered with 429 or 503, and is not the last of its call. -/
def retried (made : Attempt) : Bool :=
  made.status.any (· ∈ [429, 503]) && decide (made.attempt + 1 < maxRetriesPerCall)

/-- The attempt ends its call with an answer below 500. -/
def closes (made : Attempt) : Bool := !made.retried && made.status.any (· < 500)

/-- The attempt raised an error, or ends its call with an answer of 500 or above. -/
def fails (made : Attempt) : Bool := !made.retried && made.status.all (500 ≤ ·)

/-- The last attempt of a call raised an error. -/
def usesUp (made : Attempt) : Bool :=
  decide (made.attempt + 1 = maxRetriesPerCall) && made.status.isNone

/-- Another attempt follows, if there is one left. -/
def goesOn (made : Attempt) : Bool :=
  made.status.isNone || made.retried

end Attempt

/-- What the body of the loop does to the breaker. -/
def CircuitBreaker.afterAttempt (breaker : CircuitBreaker) (made : Attempt) : CircuitBreaker :=
  match made.status with
  | none => breaker.recordFailure made.now
  | some status =>
      if status ∈ [429, 503] ∧ made.attempt + 1 < maxRetriesPerCall then breaker
      else if status < 500 then breaker.recordSuccess
      else breaker.recordFailure made.now

variable {Url : Type} (hosts : HostReading Url)

section Loop

variable (pins : Pins) (world : World Url) (allowRedirects : Bool) (url : Url)

/-- An attempt of the loop. -/
def attemptAt (attempt : ℕ) : Attempt where
  attempt := attempt
  status := (request hosts pins (world.network attempt) allowRedirects
    (world.scripts attempt).status 0 url (world.scripts attempt).redirects).2
  now := world.clock (attempt + 1)

/-- The attempts that the loop makes. -/
def attemptsFrom : (left attempt : ℕ) → List Attempt
  | 0, _ => []
  | left + 1, attempt =>
      attemptAt hosts pins world allowRedirects url attempt ::
        if (attemptAt hosts pins world allowRedirects url attempt).goesOn then
          attemptsFrom left (attempt + 1)
        else []

variable {hosts pins world allowRedirects url}

/-- The loop records each attempt, and a failure more if the last of them raised an error. -/
theorem retryLoop_breaker {left attempt : ℕ} (hleft : attempt + left = maxRetriesPerCall)
    (breaker : CircuitBreaker) :
    (retryLoop hosts pins world allowRedirects url left attempt breaker).breaker =
      let made := attemptsFrom hosts pins world allowRedirects url left attempt
      let recorded := run CircuitBreaker.afterAttempt breaker made
      if left = 0 ∨ made.any (·.usesUp) then
        recorded.recordFailure (world.clock (maxRetriesPerCall + 1))
      else recorded := by
  induction left generalizing attempt breaker with
  | zero =>
      rw [← hleft]
      rfl
  | succ left ih =>
      have hlast : attempt + 1 < maxRetriesPerCall ↔ left ≠ 0 := by omega
      have hnext := fun breaker => @ih (attempt + 1) (by omega) breaker
      have hstatus : (request hosts pins (world.network attempt) allowRedirects
          (world.scripts attempt).status 0 url (world.scripts attempt).redirects).2 =
          (attemptAt hosts pins world allowRedirects url attempt).status := rfl
      have hat : (attemptAt hosts pins world allowRedirects url attempt).attempt = attempt := rfl
      have hnow : (attemptAt hosts pins world allowRedirects url attempt).now =
          world.clock (attempt + 1) := rfl
      rw [retryLoop, attemptsFrom]
      simp only [hstatus]
      generalize attemptAt hosts pins world allowRedirects url attempt = made at *
      cases hmade : made.status with
      | none =>
          have hgoes : made.goesOn = true := by simp [Attempt.goesOn, hmade]
          have hused : made.usesUp = true ↔ left = 0 := by
            simp only [Attempt.usesUp, hmade, hat, Option.isNone_none, Bool.and_true,
              decide_eq_true_eq]
            omega
          have hafter : breaker.afterAttempt made =
              breaker.recordFailure (world.clock (attempt + 1)) := by
            rw [CircuitBreaker.afterAttempt, hmade, hnow]
          rw [if_pos hgoes]
          simp only [hnext, List.any_cons, Bool.or_eq_true, hused, Nat.add_one_ne_zero,
            false_or, run, List.foldl_cons, hafter]
      | some status =>
          by_cases hretried : status ∈ [429, 503] ∧ attempt + 1 < maxRetriesPerCall
          · have hgoes : made.goesOn = true := by
              simpa [Attempt.goesOn, Attempt.retried, hmade, hat] using hretried
            have hused : made.usesUp = false := by simp [Attempt.usesUp, hmade]
            have hafter : breaker.afterAttempt made = breaker := by
              rw [CircuitBreaker.afterAttempt, hmade, hat]
              exact if_pos hretried
            have hleftover : left ≠ 0 := hlast.mp hretried.2
            have hloop : status ∈ [429, 503] ∧ left ≠ 0 := ⟨hretried.1, hleftover⟩
            rw [if_pos hgoes]
            simp only [if_pos hloop, hnext]
            simp only [List.any_cons, hused, Bool.false_or, hleftover,
              Nat.add_one_ne_zero, false_or, run, List.foldl_cons, hafter]
          · have hgoes : made.goesOn = false := by
              simpa [Attempt.goesOn, Attempt.retried, hmade, hat] using hretried
            have hused : made.usesUp = false := by simp [Attempt.usesUp, hmade]
            have hloop : ¬ (status ∈ [429, 503] ∧ left ≠ 0) :=
              fun hagain => hretried ⟨hagain.1, hlast.mpr hagain.2⟩
            have hafter : breaker.afterAttempt made =
                if status < 500 then breaker.recordSuccess
                else breaker.recordFailure (world.clock (attempt + 1)) := by
              rw [CircuitBreaker.afterAttempt, hmade, hat, hnow]
              exact if_neg hretried
            have hnone : ¬ (left + 1 = 0 ∨ ([made].any fun made => made.usesUp) = true) := by
              simp [hused]
            simp only [if_neg hloop, hgoes, Bool.false_eq_true, if_false, if_neg hnone]
            exact hafter.symm

/-- An answer that closes the breaker ends its call, none of whose attempts is used up. -/
theorem attemptsFrom_closes {left attempt : ℕ} (hleft : attempt + left = maxRetriesPerCall)
    {last : Attempt} (hmem : last ∈ attemptsFrom hosts pins world allowRedirects url left attempt)
    (hcloses : last.closes = true) :
    (∃ made, attemptsFrom hosts pins world allowRedirects url left attempt = made ++ [last]) ∧
      ∀ made ∈ attemptsFrom hosts pins world allowRedirects url left attempt,
        made.usesUp = false := by
  induction left generalizing attempt with
  | zero => cases hmem
  | succ left ih =>
      have hat : (attemptAt hosts pins world allowRedirects url attempt).attempt = attempt := rfl
      rw [attemptsFrom] at hmem ⊢
      generalize attemptAt hosts pins world allowRedirects url attempt = first at *
      by_cases hgoes : first.goesOn = true
      · rw [if_pos hgoes] at hmem ⊢
        have hlater : last ∈ attemptsFrom hosts pins world allowRedirects url left
            (attempt + 1) := by
          cases List.mem_cons.mp hmem with
          | inl hfirst =>
              subst hfirst
              simp [Attempt.closes, Attempt.goesOn] at hcloses hgoes
              cases hstatus : last.status <;> simp_all
          | inr hrest => exact hrest
        obtain ⟨⟨made, hmade⟩, hnone⟩ := ih (by omega) hlater
        have hmore : left ≠ 0 := by
          rintro rfl
          cases hlater
        have hfirst : first.usesUp = false := by
          have hnot : ¬ first.attempt + 1 = maxRetriesPerCall := by omega
          simp [Attempt.usesUp, hnot]
        refine ⟨⟨first :: made, by rw [hmade, List.cons_append]⟩, fun made hmade => ?_⟩
        cases List.mem_cons.mp hmade with
        | inl hhead => rw [hhead, hfirst]
        | inr hrest => exact hnone made hrest
      · rw [if_neg hgoes] at hmem ⊢
        obtain rfl := List.mem_singleton.mp hmem
        refine ⟨⟨[], rfl⟩, fun made hmade => ?_⟩
        obtain rfl := List.mem_singleton.mp hmade
        have hanswered : made.status.isNone = false := by
          simp only [Attempt.goesOn, Bool.or_eq_true, not_or, Bool.not_eq_true] at hgoes
          exact hgoes.1
        simp [Attempt.usesUp, hanswered]

end Loop

section Settings

/-- Recording changes no setting. -/
theorem afterAttempt_settings (breaker : CircuitBreaker) (made : Attempt) :
    (breaker.afterAttempt made).threshold = breaker.threshold ∧
      (breaker.afterAttempt made).cooldownSeconds = breaker.cooldownSeconds := by
  unfold CircuitBreaker.afterAttempt
  split
  · exact ⟨rfl, rfl⟩
  · split
    · exact ⟨rfl, rfl⟩
    · split <;> exact ⟨rfl, rfl⟩

theorem run_settings (breaker : CircuitBreaker) (made : List Attempt) :
    (run CircuitBreaker.afterAttempt breaker made).threshold = breaker.threshold ∧
      (run CircuitBreaker.afterAttempt breaker made).cooldownSeconds =
        breaker.cooldownSeconds := by
  induction made generalizing breaker with
  | nil => exact ⟨rfl, rfl⟩
  | cons first rest ih =>
      obtain ⟨hthreshold, hcooldown⟩ := afterAttempt_settings breaker first
      exact ⟨(ih _).1.trans hthreshold, (ih _).2.trans hcooldown⟩

theorem afterAttempt_closes {breaker : CircuitBreaker} {made : Attempt}
    (hcloses : made.closes = true) : breaker.afterAttempt made = breaker.recordSuccess := by
  cases hstatus : made.status with
  | none => simp [Attempt.closes, hstatus] at hcloses
  | some status =>
      obtain ⟨hended, hbelow⟩ : ¬ (status ∈ [429, 503] ∧ made.attempt + 1 < maxRetriesPerCall) ∧
          status < 500 := by
        simp only [Attempt.closes, Attempt.retried, hstatus, Option.any_some, Bool.and_eq_true,
          Bool.not_eq_true', Bool.and_eq_false_iff, decide_eq_true_eq, decide_eq_false_iff_not]
          at hcloses
        exact ⟨fun hagain => hcloses.1.elim (· hagain.1) (· hagain.2), hcloses.2⟩
      simp only [CircuitBreaker.afterAttempt, hstatus, if_neg hended, if_pos hbelow]

end Settings

/-! ## Calls -/

/-- A call of `make_request`, with what it meets. -/
structure Call (Url : Type) where
  pins : Pins
  getaddrinfo : String → Answer
  world : World Url
  allowRedirects : Bool
  url : Url

namespace Call

variable (call : Call Url) (breaker : CircuitBreaker)

/-- `make_request`. -/
def make : Pins × Outcome Url :=
  makeRequest hosts call.pins call.getaddrinfo call.world call.allowRedirects breaker call.url

/-- `assert_url_allowed`, for the URL of the call. -/
def guard : Except GuardError Address :=
  assertUrlAllowed hosts (pinnedGetaddrinfo hosts call.pins call.getaddrinfo) call.url

/-- The attempts of a call. -/
def attempts : List Attempt :=
  match call.guard hosts with
  | .error _ => []
  | .ok ip =>
      if !breaker.check (call.world.clock 0) then []
      else attemptsFrom hosts (pinHost hosts call.pins (hostnameOf hosts call.url) ip)
        call.world call.allowRedirects call.url maxRetriesPerCall 0

/-- The breaker that a call leaves. -/
def serve : CircuitBreaker := (call.make hosts breaker).2.breaker

variable {hosts call breaker}

/-- A call that does not use its last attempt up leaves what its attempts recorded. -/
theorem serve_eq (hleft : ∀ made ∈ call.attempts hosts breaker, made.usesUp = false) :
    call.serve hosts breaker =
      run CircuitBreaker.afterAttempt breaker (call.attempts hosts breaker) := by
  unfold attempts at hleft ⊢
  unfold serve make makeRequest
  unfold guard at hleft ⊢
  cases hguard : assertUrlAllowed hosts (pinnedGetaddrinfo hosts call.pins call.getaddrinfo)
      call.url with
  | error error => rfl
  | ok ip =>
      simp only [hguard] at hleft ⊢
      by_cases hcheck : breaker.check (call.world.clock 0) = true
      · simp only [hcheck, Bool.not_true, Bool.false_eq_true, if_false] at hleft ⊢
        rw [retryLoop_breaker (Nat.zero_add _)]
        have hany : ¬ (maxRetriesPerCall = 0 ∨ ((attemptsFrom hosts
            (pinHost hosts call.pins (hostnameOf hosts call.url) ip) call.world
            call.allowRedirects call.url maxRetriesPerCall 0).any (·.usesUp)) = true) := by
          rintro (hzero | hused)
          · cases hzero
          · obtain ⟨made, hmem, hmade⟩ := List.any_eq_true.mp hused
            rw [hleft made hmem] at hmade
            cases hmade
        exact if_neg hany
      · simp only [hcheck, Bool.not_false, if_true]
        rfl

theorem attempts_closes {last : Attempt} (hmem : last ∈ call.attempts hosts breaker)
    (hcloses : last.closes = true) :
    (∃ made, call.attempts hosts breaker = made ++ [last]) ∧
      ∀ made ∈ call.attempts hosts breaker, made.usesUp = false := by
  unfold attempts at hmem ⊢
  cases hguard : call.guard hosts with
  | error error =>
      rw [hguard] at hmem
      cases hmem
  | ok ip =>
      simp only [hguard] at hmem ⊢
      by_cases hcheck : breaker.check (call.world.clock 0) = true
      · simp only [hcheck, Bool.not_true, Bool.false_eq_true, if_false] at hmem ⊢
        exact attemptsFrom_closes (Nat.zero_add _) hmem hcloses
      · simp only [hcheck, Bool.not_false, if_true] at hmem
        cases hmem

theorem serve_settings : (call.serve hosts breaker).threshold = breaker.threshold ∧
    (call.serve hosts breaker).cooldownSeconds = breaker.cooldownSeconds := by
  unfold serve make makeRequest
  cases hguard : assertUrlAllowed hosts (pinnedGetaddrinfo hosts call.pins call.getaddrinfo)
      call.url with
  | error error => simp
  | ok ip =>
      by_cases hcheck : breaker.check (call.world.clock 0) = true
      · simp only [hcheck, Bool.not_true, Bool.false_eq_true, if_false]
        rw [retryLoop_breaker (Nat.zero_add _)]
        have hsettings := run_settings breaker (attemptsFrom hosts
          (pinHost hosts call.pins (hostnameOf hosts call.url) ip) call.world
          call.allowRedirects call.url maxRetriesPerCall 0)
        simp only
        split <;> exact hsettings
      · simp [hcheck]

end Call

/-- The attempts of a run of calls. -/
def journal (breaker : CircuitBreaker) : List (Call Url) → List Attempt
  | [] => []
  | call :: rest => call.attempts hosts breaker ++ journal (call.serve hosts breaker) rest

/-! ## The breaker of a history -/

/-- The failed attempts since the last answer that closes the breaker. -/
def failedSince (closes fails : Attempt → Bool) (past : List Attempt) : List Attempt :=
  (past.rtakeWhile fun made => !closes made).filter fails

/-- What the breaker counts: errors, and answers of 500 or above that end their calls. -/
def countedFailures (past : List Attempt) : List Attempt :=
  failedSince Attempt.closes Attempt.fails past

/-- A breaker after these attempts: it has counted the failed ones since it was last closed,
and is open since the last of them if they reach the threshold. -/
def CircuitBreaker.after (threshold cooldown : ℕ) (past : List Attempt) : CircuitBreaker :=
  let failed := countedFailures past
  { threshold := threshold
    cooldownSeconds := cooldown
    failures := failed.length
    openedAt :=
      if max 1 threshold ≤ failed.length then failed.getLast?.map (·.now) else none }

/-- What an attempt adds to the failed ones. -/
theorem countedFailures_concat (past : List Attempt) (made : Attempt) :
    countedFailures (past ++ [made]) =
      if made.closes then []
      else if made.fails then countedFailures past ++ [made]
      else countedFailures past := by
  unfold countedFailures failedSince
  rw [List.rtakeWhile_concat]
  by_cases hcloses : made.closes = true
  · simp [hcloses]
  · by_cases hfails : made.fails = true <;> simp [hcloses, hfails]

theorem rtakeWhile_append_of_all {past made : List Attempt} {test : Attempt → Bool}
    (htest : ∀ attempt ∈ made, test attempt = true) :
    (past ++ made).rtakeWhile test = past.rtakeWhile test ++ made := by
  induction made using List.reverseRecOn with
  | nil => simp
  | append_singleton made last ih =>
      have hlast : test last = true := htest last (by simp)
      have hrest := ih fun attempt hattempt => htest attempt (by simp [hattempt])
      rw [← List.append_assoc, List.rtakeWhile_concat, if_pos hlast, hrest, List.append_assoc]

variable {threshold cooldown : ℕ} {past : List Attempt}

/-- The breaker is open exactly if the failed attempts reach the threshold. -/
theorem after_openedAt_eq_none :
    (CircuitBreaker.after threshold cooldown past).openedAt = none ↔
      (countedFailures past).length < max 1 threshold := by
  unfold CircuitBreaker.after
  generalize countedFailures past = failed
  by_cases hreached : max 1 threshold ≤ failed.length
  · have hne : failed ≠ [] := by
      rintro rfl
      have hone := (le_max_left 1 threshold).trans hreached
      exact absurd hone (by decide)
    simp only [if_pos hreached, Option.map_eq_none_iff, List.getLast?_eq_none_iff]
    exact iff_of_false hne (not_lt.mpr hreached)
  · simp only [if_neg hreached, true_iff]
    exact not_le.mp hreached

/-- A failure is recorded as one attempt more. -/
theorem recordFailure_after {made : Attempt}
    (hfailed : countedFailures (past ++ [made]) = countedFailures past ++ [made]) :
    (CircuitBreaker.after threshold cooldown past).recordFailure made.now =
      .after threshold cooldown (past ++ [made]) := by
  have hnone := @after_openedAt_eq_none threshold cooldown past
  have hopened : (if threshold ≤ (countedFailures past).length + 1 ∧
      (CircuitBreaker.after threshold cooldown past).openedAt = none then some made.now
      else if (CircuitBreaker.after threshold cooldown past).openedAt ≠ none then some made.now
      else none) =
      if max 1 threshold ≤ (countedFailures past).length + 1 then some made.now else none := by
    by_cases hclosed : (CircuitBreaker.after threshold cooldown past).openedAt = none
    · have hone : max 1 threshold ≤ (countedFailures past).length + 1 ↔
          threshold ≤ (countedFailures past).length + 1 := by
        rw [max_le_iff]
        omega
      simp only [hclosed, and_true, ne_eq, not_true_eq_false, if_false, hone]
    · have hreached := not_lt.mp (hnone.not.mp hclosed)
      simp only [hclosed, and_false, if_false, ne_eq, not_false_eq_true, if_true]
      exact (if_pos (hreached.trans (Nat.le_succ _))).symm
  have hafter : CircuitBreaker.after threshold cooldown (past ++ [made]) =
      { threshold := threshold
        cooldownSeconds := cooldown
        failures := (countedFailures past).length + 1
        openedAt :=
          if max 1 threshold ≤ (countedFailures past).length + 1 then
            some made.now else none } := by
    rw [CircuitBreaker.after, hfailed, List.length_append, List.getLast?_concat]
    rfl
  rw [hafter, ← hopened]
  rfl

/-- Each attempt moves the breaker to that of the longer history. -/
theorem afterAttempt_after (past : List Attempt) (made : Attempt) :
    (CircuitBreaker.after threshold cooldown past).afterAttempt made =
      .after threshold cooldown (past ++ [made]) := by
  have hcount := countedFailures_concat past made
  unfold CircuitBreaker.afterAttempt
  cases hstatus : made.status with
  | none =>
      have hcloses : made.closes = false := by simp [Attempt.closes, hstatus]
      have hfails : made.fails = true := by simp [Attempt.fails, Attempt.retried, hstatus]
      rw [hcloses, hfails] at hcount
      exact recordFailure_after hcount
  | some status =>
      by_cases hretried : status ∈ [429, 503] ∧ made.attempt + 1 < maxRetriesPerCall
      · have hagain : made.retried = true := by
          simpa [Attempt.retried, hstatus] using hretried
        rw [Attempt.closes, Attempt.fails, hagain] at hcount
        simp only [if_pos hretried]
        rw [CircuitBreaker.after, CircuitBreaker.after, hcount]
        rfl
      · have hagain : made.retried = false := by
          simpa [Attempt.retried, hstatus] using hretried
        rw [Attempt.closes, Attempt.fails, hagain, hstatus] at hcount
        simp only [if_neg hretried]
        by_cases hbelow : status < 500
        · simp only [if_pos hbelow]
          have hempty : countedFailures (past ++ [made]) = [] := by
            rw [hcount]
            simp [hbelow]
          rw [CircuitBreaker.after, CircuitBreaker.after, hempty]
          simp [CircuitBreaker.recordSuccess]
        · simp only [if_neg hbelow]
          apply recordFailure_after
          rw [hcount]
          simp [hbelow, not_lt.mp hbelow]

/-! ## Runs of calls -/

/-- What holds of a call after the attempts of the past: whatever part of its attempts is
made, the breaker has counted the failed ones; it opens at the attempt that brings them to
the threshold; and the call is refused before the cooldown after the last of them is over. -/
structure CountsFailures (threshold cooldown : ℕ) (past : List Attempt)
    (breaker : CircuitBreaker) (call : Call Url) : Prop where
  counts : ∀ made, made <+: call.attempts hosts breaker →
    (run CircuitBreaker.afterAttempt breaker made).failures =
      (countedFailures (past ++ made)).length
  opens : ∀ made attempt, made ++ [attempt] <+: call.attempts hosts breaker →
    ((run CircuitBreaker.afterAttempt breaker made).openedAt = none ∧
        (run CircuitBreaker.afterAttempt breaker (made ++ [attempt])).openedAt ≠ none ↔
      (countedFailures (past ++ made)).length < max 1 threshold ∧
        (countedFailures (past ++ made ++ [attempt])).length = max 1 threshold)
  refuses : ∀ ip, call.guard hosts = .ok ip → max 1 threshold ≤ (countedFailures past).length →
    ∀ last ∈ (countedFailures past).getLast?, call.world.clock 0 - last.now < cooldown →
      call.make hosts breaker = (call.pins, ⟨[], breaker, .circuitOpen⟩) ∧
        call.attempts hosts breaker = []
  serves : (∀ made ∈ call.attempts hosts breaker, made.usesUp = false) →
    call.serve hosts breaker = run CircuitBreaker.afterAttempt breaker (call.attempts hosts breaker)

variable {hosts}

/-- The breaker of a connector with these settings is that of the attempts made, as long as
no call has used its last attempt up since an answer last closed it. -/
structure Tracks (threshold cooldown : ℕ) (past : List Attempt) (breaker : CircuitBreaker) :
    Prop where
  threshold_eq : breaker.threshold = threshold
  cooldown_eq : breaker.cooldownSeconds = cooldown
  counted : (∀ made ∈ past.rtakeWhile fun made => !made.closes, made.usesUp = false) →
    breaker = .after threshold cooldown past

/-- An answer that closes a call closes the breaker, whatever was counted before. -/
theorem Tracks.closed {breaker : CircuitBreaker} (htracks : Tracks threshold cooldown past breaker)
    {made : List Attempt} {last : Attempt} (hcloses : last.closes = true) :
    run CircuitBreaker.afterAttempt breaker (made ++ [last]) =
      .after threshold cooldown (past ++ (made ++ [last])) := by
  have hsettings := run_settings breaker made
  have hempty : countedFailures (past ++ (made ++ [last])) = [] := by
    rw [← List.append_assoc, countedFailures_concat, if_pos hcloses]
  rw [run, List.foldl_append, List.foldl_cons, List.foldl_nil, ← run, afterAttempt_closes hcloses,
    CircuitBreaker.recordSuccess, CircuitBreaker.after, hempty, hsettings.1, hsettings.2,
    htracks.threshold_eq, htracks.cooldown_eq]
  simp

theorem Tracks.serve {breaker : CircuitBreaker} (htracks : Tracks threshold cooldown past breaker)
    (call : Call Url) :
    Tracks threshold cooldown (past ++ call.attempts hosts breaker)
      (call.serve hosts breaker) where
  threshold_eq := Call.serve_settings.1.trans htracks.threshold_eq
  cooldown_eq := Call.serve_settings.2.trans htracks.cooldown_eq
  counted := by
    intro hunused
    by_cases hclosed : ∃ made ∈ call.attempts hosts breaker, made.closes = true
    · obtain ⟨last, hmem, hcloses⟩ := hclosed
      obtain ⟨⟨made, hmade⟩, hnone⟩ := Call.attempts_closes hmem hcloses
      rw [Call.serve_eq hnone, hmade]
      exact htracks.closed hcloses
    · have hopen : ∀ made ∈ call.attempts hosts breaker, (!made.closes) = true := by
        intro made hmem
        rw [Bool.not_eq_true']
        exact Bool.eq_false_iff.mpr fun hcloses => hclosed ⟨made, hmem, hcloses⟩
      rw [rtakeWhile_append_of_all hopen] at hunused
      rw [Call.serve_eq fun made hmem => hunused made (List.mem_append_right _ hmem),
        htracks.counted fun made hmem => hunused made (List.mem_append_left _ hmem)]
      exact run_view afterAttempt_after past _

/-- The breaker after a run of calls. -/
theorem Tracks.run {breaker : CircuitBreaker} (htracks : Tracks threshold cooldown past breaker)
    (calls : List (Call Url)) :
    Tracks threshold cooldown (past ++ journal hosts breaker calls)
      (Relational.run (fun breaker call => Call.serve hosts call breaker) breaker calls) := by
  induction calls generalizing past breaker with
  | nil =>
      rw [journal, List.append_nil]
      exact htracks
  | cons call rest ih =>
      rw [journal, ← List.append_assoc]
      exact ih (htracks.serve call)

/-- The failures of a longer history are at most one more. -/
theorem countedFailures_concat_le (past : List Attempt) (made : Attempt) :
    (countedFailures (past ++ [made])).length ≤ (countedFailures past).length + 1 := by
  rw [countedFailures_concat]
  split
  · exact Nat.zero_le _
  · split
    · exact List.length_append.le
    · exact Nat.le_succ _

/-- After the attempts of the past, a call is counted and refused as it should. -/
theorem countsFailures_after (threshold cooldown : ℕ) (past : List Attempt) (call : Call Url) :
    CountsFailures hosts threshold cooldown past (.after threshold cooldown past) call where
  counts made _ := by
    rw [run_view afterAttempt_after past made]
    rfl
  opens made attempt _ := by
    have hmore := countedFailures_concat_le (past ++ made) attempt
    rw [run_view afterAttempt_after past made,
      run_view afterAttempt_after past (made ++ [attempt]), Ne, after_openedAt_eq_none,
      after_openedAt_eq_none, ← List.append_assoc]
    omega
  refuses ip hguard hreached last hlast hearly := by
    have hopened : (CircuitBreaker.after threshold cooldown past).openedAt = some last.now := by
      rw [CircuitBreaker.after]
      simp only [if_pos hreached, Option.mem_def.mp hlast, Option.map_some]
    have hcheck : (CircuitBreaker.after threshold cooldown past).check (call.world.clock 0) =
        false := by
      rw [CircuitBreaker.check, hopened]
      simpa [CircuitBreaker.after] using hearly
    constructor
    · unfold Call.guard at hguard
      unfold Call.make makeRequest
      simp only [hguard, hcheck, Bool.not_false, if_true]
    · unfold Call.attempts
      simp only [hguard, hcheck, Bool.not_false, if_true]
  serves := Call.serve_eq

/-- The breaker of a new connector. -/
theorem new_eq_after (threshold cooldown : ℕ) :
    ({ threshold := threshold, cooldownSeconds := cooldown } : CircuitBreaker) =
      .after threshold cooldown [] := by
  rw [CircuitBreaker.after]
  simp [countedFailures, failedSince]

/-- Every call of a run on a new connector is counted and refused as it should, where no call
since the last answer that closed the breaker has used its last attempt up with an error. -/
theorem circuitBreaker_run (threshold cooldown : ℕ) (calls : List (Call Url)) (call : Call Url)
    (hleft : ∀ made ∈ (journal hosts ⟨threshold, cooldown, 0, none⟩ calls).rtakeWhile
      fun made => !made.closes, made.usesUp = false) :
    CountsFailures hosts threshold cooldown (journal hosts ⟨threshold, cooldown, 0, none⟩ calls)
      (run (fun breaker call => Call.serve hosts call breaker)
        ⟨threshold, cooldown, 0, none⟩ calls) call := by
  have hnew : Tracks threshold cooldown [] ⟨threshold, cooldown, 0, none⟩ :=
    ⟨rfl, rfl, fun _ => new_eq_after threshold cooldown⟩
  rw [(hnew.run calls).counted hleft]
  exact countsFailures_after threshold cooldown _ call

/-- Calls over plain HTTP whose attempts are answered with these statuses. -/
def answeredWith (statuses : List ℕ) : Call String where
  pins := fun _ => none
  getaddrinfo := twoPublicNames
  world := { answering [] with scripts := fun attempt => ⟨[], statuses.getD attempt 200⟩ }
  allowRedirects := true
  url := "api.example"

/-- A call that nobody takes. -/
def unreached : Call String :=
  { answeredWith [] with
    world := { answering [] with
      network := fun _ _ => ⟨twoPublicNames, false, fun _ => false, false⟩ } }

/-- A call that errors throughout, one that is answered, and two failed ones, the second
after an answer of 503 that is tried again. -/
def fourCalls : List (Call String) :=
  [unreached, answeredWith [200], answeredWith [500], answeredWith [503, 500]]

theorem circuitBreaker_run_fourCalls :
    ((journal plainHosts ⟨5, 300, 0, none⟩ fourCalls).map Attempt.status =
      [none, none, none, some 200, some 500, some 503, some 500]) ∧
    CountsFailures plainHosts 5 300 (journal plainHosts ⟨5, 300, 0, none⟩ fourCalls)
      (run (fun breaker call => Call.serve plainHosts call breaker)
        ⟨5, 300, 0, none⟩ fourCalls) (answeredWith [500]) :=
  ⟨by decide, circuitBreaker_run 5 300 _ _ (by decide)⟩

/-- An answer of 500 or above, or an error. -/
def Attempt.erred (made : Attempt) : Bool := made.status.all (500 ≤ ·)

/-- An answer below 500 that is not 429. -/
def Attempt.answered (made : Attempt) : Bool :=
  made.status.any fun status => decide (status < 500 ∧ status ≠ 429)

/-- A 503 that is tried again is not counted. -/
theorem retried_uncounted :
    (run (fun breaker call => Call.serve plainHosts call breaker) {}
        [answeredWith [503, 503, 500]]).failures = 1 ∧
      (failedSince Attempt.answered Attempt.erred
        (journal plainHosts {} [answeredWith [503, 503, 500]])).length = 3 ∧
      ¬ ∀ calls : List (Call String),
        (run (fun breaker call => Call.serve plainHosts call breaker) {} calls).failures =
          (failedSince Attempt.answered Attempt.erred
            (journal plainHosts {} calls)).length := by
  have hcounted : (run (fun breaker call => Call.serve plainHosts call breaker) {}
      [answeredWith [503, 503, 500]]).failures = 1 := by
    decide
  have herred : (failedSince Attempt.answered Attempt.erred
      (journal plainHosts {} [answeredWith [503, 503, 500]])).length = 3 := by
    decide
  refine ⟨hcounted, herred, fun hcounts => ?_⟩
  have hsame := hcounts [answeredWith [503, 503, 500]]
  rw [hcounted, herred] at hsame
  exact absurd hsame (by decide)

end SentryWms.Connectors
