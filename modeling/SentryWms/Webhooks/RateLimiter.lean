import Mathlib.Algebra.Order.Floor.Defs
import Mathlib.Data.Rat.Floor
import Mathlib.Tactic.Linarith
import Mathlib.Tactic.Ring
import SentryWms.Relational.Amortized

/-!
# The rate limiter

A bucket of tokens for each subscription worker.  Tokens come in at the rate of the
subscription, when somebody looks, up to one second's worth; each delivery takes one.
Whatever the callers and the changes of rate, the deliveries of a window are no more than
the tokens at its start and those the rate brings in it.
-/

namespace SentryWms.Webhooks

open Relational

/-! ## The bucket -/

structure TokenBucket where
  rate : ℚ
  capacity : ℚ
  tokens : ℚ
  lastRefill : ℚ
  deriving DecidableEq

namespace TokenBucket

/-- `TokenBucket(rate_per_second)`, at a reading of the clock. -/
def create (ratePerSecond : ℤ) (now : ℚ) : Except String TokenBucket :=
  if ratePerSecond ≤ 0 then .error "rate_per_second must be a positive integer"
  else
    .ok
      { rate := ratePerSecond
        capacity := ratePerSecond
        tokens := ratePerSecond
        lastRefill := now }

/-- `_refill_locked`. -/
def refill (now : ℚ) (bucket : TokenBucket) : TokenBucket :=
  let elapsed := now - bucket.lastRefill
  if 0 < elapsed then
    { bucket with
      tokens := min bucket.capacity (bucket.tokens + elapsed * bucket.rate)
      lastRefill := now }
  else bucket

/-- `set_rate`. -/
def setRate (ratePerSecond : ℤ) (now : ℚ) (bucket : TokenBucket) : Except String TokenBucket :=
  if ratePerSecond ≤ 0 then .error "rate_per_second must be a positive integer"
  else if ⌊bucket.rate⌋ = ratePerSecond then .ok bucket
  else
    .ok
      { rate := ratePerSecond
        capacity := ratePerSecond
        tokens := if (ratePerSecond : ℚ) < bucket.tokens then ratePerSecond else bucket.tokens
        lastRefill := now }

/-- `self._tokens -= 1.0`. -/
def spend (bucket : TokenBucket) : TokenBucket :=
  { bucket with tokens := bucket.tokens - 1 }

/-- An attempt of the loop of `acquire`: whether the shutdown is set, the readings of the
refill and of the deadline check, and whether the shutdown ends the wait. -/
structure Attempt where
  shutdown : Bool
  now : ℚ
  checkedAt : ℚ
  woken : Bool

/-- One attempt of `acquire`: what it returns, unless it goes on. -/
def attempt (deadline : ℚ) (attempt : Attempt) (bucket : TokenBucket) : TokenBucket × Option Bool :=
  if attempt.shutdown then (bucket, some false)
  else
    let refilled := bucket.refill attempt.now
    if 1 ≤ refilled.tokens then (refilled.spend, some true)
    else if deadline - attempt.checkedAt ≤ 0 then (refilled, some false)
    else if attempt.woken then (refilled, some false)
    else (refilled, none)

end TokenBucket

/-! ## Callers -/

/-- A bucket and the callers inside `acquire`, each with its deadline. -/
structure Limiter where
  bucket : TokenBucket
  deadlines : ℕ → Option ℚ

/-- What happens to a limiter, at a reading of the clock. -/
inductive LimiterEvent
  | acquire (caller : ℕ) (timeout now : ℚ)
  | attempt (caller : ℕ) (made : TokenBucket.Attempt)
  | setRate (ratePerSecond : ℤ) (now : ℚ)

def LimiterEvent.now : LimiterEvent → ℚ
  | .acquire _ _ now => now
  | .attempt _ made => made.now
  | .setRate _ now => now

namespace Limiter

/-- What the caller's `acquire` returns at an event. -/
def returns (limiter : Limiter) : LimiterEvent → Option Bool
  | .attempt caller made =>
      (limiter.deadlines caller).bind fun deadline => (limiter.bucket.attempt deadline made).2
  | .acquire .. | .setRate .. => none

def serve (limiter : Limiter) : LimiterEvent → Limiter
  | .acquire caller timeout now =>
      { limiter with
        deadlines := Function.update limiter.deadlines caller (some (now + timeout)) }
  | .attempt caller made =>
      match limiter.deadlines caller with
      | none => limiter
      | some deadline =>
          { bucket := (limiter.bucket.attempt deadline made).1
            deadlines :=
              if (limiter.bucket.attempt deadline made).2.isSome then
                Function.update limiter.deadlines caller none
              else limiter.deadlines }
  | .setRate ratePerSecond now =>
      match limiter.bucket.setRate ratePerSecond now with
      | .ok bucket => { limiter with bucket := bucket }
      | .error _ => limiter

/-- The calls of `acquire` that take a token in the course of some events. -/
def acquired : Limiter → List LimiterEvent → ℕ
  | _, [] => 0
  | limiter, event :: rest =>
      (if limiter.returns event = some true then 1 else 0) + acquired (limiter.serve event) rest

end Limiter

variable {ratePerSecond : ℤ} {event : LimiterEvent} {events : List LimiterEvent}
  {stop : ℚ} {limiter : Limiter}

/-! ## What a bucket holds -/

namespace TokenBucket

/-- The bucket is within its bounds. -/
structure Sound (bucket : TokenBucket) : Prop where
  rate_pos : 0 < bucket.rate
  capacity_eq : bucket.capacity = bucket.rate
  tokens_nonneg : 0 ≤ bucket.tokens
  tokens_le : bucket.tokens ≤ bucket.capacity

/-- What the bucket holds at a time, with the refill it is due. -/
def level (bucket : TokenBucket) (time : ℚ) : ℚ :=
  min bucket.capacity (bucket.tokens + (time - bucket.lastRefill) * bucket.rate)

theorem create_sound {now : ℚ} {bucket : TokenBucket}
    (hcreated : create ratePerSecond now = .ok bucket) :
    bucket.Sound ∧ bucket.lastRefill = now ∧ bucket.rate = ratePerSecond := by
  unfold create at hcreated
  by_cases hpos : ratePerSecond ≤ 0
  · rw [if_pos hpos] at hcreated
    cases hcreated
  · rw [if_neg hpos] at hcreated
    cases hcreated
    have hrate : (0 : ℚ) < ratePerSecond := by exact_mod_cast not_le.mp hpos
    exact ⟨⟨hrate, rfl, hrate.le, le_refl _⟩, rfl, rfl⟩

variable {bucket : TokenBucket} {now : ℚ}

/-- At its refill a bucket holds its tokens. -/
theorem level_lastRefill (hsound : bucket.Sound) (hnow : bucket.lastRefill = now) :
    bucket.level now = bucket.tokens := by
  rw [level, hnow, sub_self, zero_mul, add_zero, min_eq_right hsound.tokens_le]

/-- A refill brings the tokens to the level. -/
theorem refill_spec (hsound : bucket.Sound) (hnow : bucket.lastRefill ≤ now) :
    (bucket.refill now).Sound ∧ (bucket.refill now).tokens = bucket.level now ∧
      (bucket.refill now).lastRefill = now ∧ (bucket.refill now).rate = bucket.rate := by
  unfold refill
  dsimp only
  by_cases helapsed : 0 < now - bucket.lastRefill
  · rw [if_pos helapsed]
    have hgrowth : 0 ≤ (now - bucket.lastRefill) * bucket.rate :=
      mul_nonneg helapsed.le hsound.rate_pos.le
    have hcapacity : 0 ≤ bucket.capacity := hsound.tokens_nonneg.trans hsound.tokens_le
    refine ⟨⟨hsound.rate_pos, hsound.capacity_eq, ?_, min_le_left _ _⟩, rfl, rfl, rfl⟩
    exact le_min hcapacity (add_nonneg hsound.tokens_nonneg hgrowth)
  · have hsame : bucket.lastRefill = now := by linarith
    rw [if_neg helapsed]
    exact ⟨hsound, (level_lastRefill hsound hsame).symm, hsame, rfl⟩

/-- As time goes the level rises no faster than the rate. -/
theorem level_le (hsound : bucket.Sound) {earlier : ℚ} (hlater : earlier ≤ now) :
    bucket.level now ≤ bucket.level earlier + bucket.rate * (now - earlier) := by
  have hgrowth : 0 ≤ bucket.rate * (now - earlier) :=
    mul_nonneg hsound.rate_pos.le (sub_nonneg.mpr hlater)
  unfold level
  rcases min_cases bucket.capacity
      (bucket.tokens + (earlier - bucket.lastRefill) * bucket.rate) with ⟨hmin, -⟩ | ⟨hmin, -⟩
  · rw [hmin]
    exact (min_le_left _ _).trans (le_add_of_nonneg_right hgrowth)
  · rw [hmin]
    refine (min_le_right _ _).trans (le_of_eq ?_)
    ring

theorem tokens_le_level (hsound : bucket.Sound) (hnow : bucket.lastRefill ≤ now) :
    bucket.tokens ≤ bucket.level now := by
  have hgrowth : 0 ≤ (now - bucket.lastRefill) * bucket.rate :=
    mul_nonneg (sub_nonneg.mpr hnow) hsound.rate_pos.le
  exact le_min hsound.tokens_le (le_add_of_nonneg_right hgrowth)

theorem level_nonneg (hsound : bucket.Sound) (hnow : bucket.lastRefill ≤ now) :
    0 ≤ bucket.level now :=
  hsound.tokens_nonneg.trans (tokens_le_level hsound hnow)

/-- A token taken is one the bucket held. -/
theorem attempt_spec (hsound : bucket.Sound) (deadline : ℚ) (made : Attempt)
    (hnow : bucket.lastRefill ≤ made.now) :
    (bucket.attempt deadline made).1.Sound ∧
      (bucket.attempt deadline made).1.lastRefill ≤ made.now ∧
      (bucket.attempt deadline made).1.rate = bucket.rate ∧
      (if (bucket.attempt deadline made).2 = some true then 1 else 0) +
        (bucket.attempt deadline made).1.level made.now ≤ bucket.level made.now := by
  obtain ⟨hrefilled, htokens, hlast, hrate⟩ := refill_spec hsound hnow
  unfold attempt
  by_cases hshutdown : made.shutdown = true
  · rw [if_pos hshutdown]
    simp [hsound, hnow]
  · rw [if_neg hshutdown]
    dsimp only
    have hlevel : (bucket.refill made.now).level made.now = bucket.level made.now := by
      rw [← htokens, level_lastRefill hrefilled hlast]
    by_cases htoken : 1 ≤ (bucket.refill made.now).tokens
    · rw [if_pos htoken]
      have hspent : (bucket.refill made.now).spend.Sound :=
        ⟨hrefilled.rate_pos, hrefilled.capacity_eq, sub_nonneg.mpr htoken,
          (sub_le_self _ zero_le_one).trans hrefilled.tokens_le⟩
      have hspentLevel : (bucket.refill made.now).spend.level made.now =
          (bucket.refill made.now).tokens - 1 := level_lastRefill hspent hlast
      refine ⟨hspent, hlast.le, hrate, ?_⟩
      rw [if_pos rfl, hspentLevel, htokens]
      linarith
    · rw [if_neg htoken]
      by_cases hlate : deadline - made.checkedAt ≤ 0
      · rw [if_pos hlate]
        simp [hrefilled, hlast, hrate, hlevel]
      · rw [if_neg hlate]
        by_cases hwoken : made.woken = true
        · rw [if_pos hwoken]
          simp [hrefilled, hlast, hrate, hlevel]
        · rw [if_neg hwoken]
          simp [hrefilled, hlast, hrate, hlevel]

theorem setRate_spec (hsound : bucket.Sound) (hnow : bucket.lastRefill ≤ now)
    {changed : TokenBucket}
    (hchanged : bucket.setRate ratePerSecond now = .ok changed) :
    changed.Sound ∧ changed.lastRefill ≤ now ∧ changed.level now ≤ bucket.level now := by
  unfold setRate at hchanged
  by_cases hpos : ratePerSecond ≤ 0
  · rw [if_pos hpos] at hchanged
    cases hchanged
  · rw [if_neg hpos] at hchanged
    by_cases hsame : ⌊bucket.rate⌋ = ratePerSecond
    · rw [if_pos hsame] at hchanged
      cases hchanged
      exact ⟨hsound, hnow, le_refl _⟩
    · rw [if_neg hsame] at hchanged
      have hrate : (0 : ℚ) < ratePerSecond := by exact_mod_cast not_le.mp hpos
      have hheld := tokens_le_level hsound hnow
      cases hchanged
      by_cases hclamped : (ratePerSecond : ℚ) < bucket.tokens
      · rw [if_pos hclamped]
        refine ⟨⟨hrate, rfl, hrate.le, le_refl _⟩, le_refl _, ?_⟩
        exact (min_le_left _ _).trans (hclamped.le.trans hheld)
      · rw [if_neg hclamped]
        refine ⟨⟨hrate, rfl, hsound.tokens_nonneg, not_lt.mp hclamped⟩, le_refl _, ?_⟩
        refine (min_le_right _ _).trans ?_
        rw [sub_self, zero_mul, add_zero]
        exact hheld

end TokenBucket

/-! ## Windows -/

/-- The events come at non-decreasing readings from one time to another. -/
def InOrder : ℚ → List LimiterEvent → ℚ → Prop
  | start, [], stop => start ≤ stop
  | start, event :: rest, stop => start ≤ event.now ∧ InOrder event.now rest stop

/-- A limiter at a time. -/
structure Clocked where
  limiter : Limiter
  clock : ℚ

def Clocked.serve (clocked : Clocked) (event : LimiterEvent) : Clocked where
  limiter := clocked.limiter.serve event
  clock := event.now

/-- What the rate brings between the last event and this one. -/
def Clocked.brought (clocked : Clocked) (event : LimiterEvent) : ℚ :=
  clocked.limiter.bucket.rate * (event.now - clocked.clock)

/-- The rate changes at events only: its integral over a window that closes at a time. -/
def rateIntegral (clocked : Clocked) (window : List LimiterEvent) (closes : ℚ) : ℚ :=
  let last := run Clocked.serve clocked window
  totalAlong Clocked.serve Clocked.brought clocked window +
    last.limiter.bucket.rate * (closes - last.clock)

/-- The bucket is sound and has looked at the clock before. -/
def Clocked.Ready (clocked : Clocked) : Prop :=
  clocked.limiter.bucket.Sound ∧ clocked.limiter.bucket.lastRefill ≤ clocked.clock

def Clocked.level (clocked : Clocked) : ℚ := clocked.limiter.bucket.level clocked.clock

/-- The token an event takes. -/
def Clocked.taken (clocked : Clocked) (event : LimiterEvent) : ℚ :=
  if clocked.limiter.returns event = some true then 1 else 0

variable {clocked : Clocked} {window : List LimiterEvent}

/-- What one event takes is what the level loses, but for what the rate brings. -/
theorem Clocked.serve_spec (hready : clocked.Ready) (horder : clocked.clock ≤ event.now) :
    (clocked.serve event).Ready ∧
      clocked.taken event + (clocked.serve event).level ≤
        clocked.level + clocked.brought event := by
  obtain ⟨hsound, hlast⟩ := hready
  have hlater := hlast.trans horder
  have hrise : clocked.limiter.bucket.level event.now ≤ clocked.level + clocked.brought event :=
    TokenBucket.level_le hsound horder
  cases event with
  | acquire caller timeout now =>
      have hnothing : clocked.taken (.acquire caller timeout now) = 0 := if_neg nofun
      rw [hnothing, zero_add]
      exact ⟨⟨hsound, hlater⟩, hrise⟩
  | attempt caller made =>
      cases hwaiting : clocked.limiter.deadlines caller with
      | none =>
          have hreturns : clocked.limiter.returns (.attempt caller made) = none := by
            rw [Limiter.returns, hwaiting, Option.bind_none]
          have hserved : clocked.limiter.serve (.attempt caller made) = clocked.limiter := by
            rw [Limiter.serve, hwaiting]
          rw [taken, hreturns, if_neg nofun, zero_add, Ready, level, serve, hserved]
          exact ⟨⟨hsound, hlater⟩, hrise⟩
      | some deadline =>
          have hreturns : clocked.limiter.returns (.attempt caller made) =
              (clocked.limiter.bucket.attempt deadline made).2 := by
            rw [Limiter.returns, hwaiting, Option.bind_some]
          have hserved : (clocked.limiter.serve (.attempt caller made)).bucket =
              (clocked.limiter.bucket.attempt deadline made).1 := by
            rw [Limiter.serve, hwaiting]
          obtain ⟨hkept, hrefilled, -, hspent⟩ :=
            TokenBucket.attempt_spec hsound deadline made hlater
          rw [taken, hreturns, Ready, level, serve, hserved]
          exact ⟨⟨hkept, hrefilled⟩, hspent.trans hrise⟩
  | setRate ratePerSecond now =>
      have hnothing : clocked.taken (.setRate ratePerSecond now) = 0 := if_neg nofun
      rw [hnothing, zero_add]
      cases hchanged : clocked.limiter.bucket.setRate ratePerSecond now with
      | error message =>
          have hserved : clocked.limiter.serve (.setRate ratePerSecond now) =
              clocked.limiter := by
            rw [Limiter.serve, hchanged]
          rw [Ready, level, serve, hserved]
          exact ⟨⟨hsound, hlater⟩, hrise⟩
      | ok changed =>
          have hserved : (clocked.limiter.serve (.setRate ratePerSecond now)).bucket =
              changed := by
            rw [Limiter.serve, hchanged]
          obtain ⟨hkept, hreset, hfall⟩ := TokenBucket.setRate_spec hsound hlater hchanged
          rw [Ready, level, serve, hserved]
          exact ⟨⟨hkept, hreset⟩, hfall.trans hrise⟩

/-- Events in order are served at non-decreasing times. -/
theorem InOrder.along (horder : InOrder clocked.clock events stop) :
    Along Clocked.serve (fun clocked event => clocked.clock ≤ event.now) clocked events ∧
      (run Clocked.serve clocked events).clock ≤ stop := by
  induction events generalizing clocked with
  | nil => exact ⟨trivial, horder⟩
  | cons event rest ih =>
      obtain ⟨halong, hlast⟩ := @ih (clocked.serve event) horder.2
      exact ⟨⟨horder.1, halong⟩, hlast⟩

theorem Clocked.Ready.run (hready : clocked.Ready) (horder : InOrder clocked.clock events stop) :
    (Relational.run Clocked.serve clocked events).Ready := by
  have hstep : ∀ (clocked : Clocked) (event : LimiterEvent), clocked.Ready →
      clocked.clock ≤ event.now → (clocked.serve event).Ready :=
    fun _ _ hready hnow => (Clocked.serve_spec hready hnow).1
  exact run_invariant hstep hready horder.along.1

theorem run_limiter (clocked : Clocked) (events : List LimiterEvent) :
    (run Clocked.serve clocked events).limiter = run Limiter.serve clocked.limiter events := by
  induction events generalizing clocked with
  | nil => rfl
  | cons event rest ih => exact ih (clocked.serve event)

theorem acquired_eq (clocked : Clocked) (events : List LimiterEvent) :
    (clocked.limiter.acquired events : ℚ) =
      totalAlong Clocked.serve Clocked.taken clocked events := by
  induction events generalizing clocked with
  | nil => exact Nat.cast_zero
  | cons event rest ih =>
      have hrest := ih (clocked.serve event)
      rw [Limiter.acquired, totalAlong, Nat.cast_add, ← hrest, Clocked.taken]
      congr 1
      by_cases htaken : clocked.limiter.returns event = some true
      · rw [if_pos htaken, if_pos htaken, Nat.cast_one]
      · rw [if_neg htaken, if_neg htaken, Nat.cast_zero]

/-- The tokens taken in a window are no more than those held at its start and those the
rate brings in it. -/
theorem acquired_le_integral (hready : clocked.Ready) {closes : ℚ}
    (horder : InOrder clocked.clock window closes) :
    (clocked.limiter.acquired window : ℚ) ≤
      clocked.level + rateIntegral clocked window closes := by
  have hlast := hready.run horder
  have hheld : 0 ≤ (run Clocked.serve clocked window).level :=
    TokenBucket.level_nonneg hlast.1 hlast.2
  have htail : 0 ≤ (run Clocked.serve clocked window).limiter.bucket.rate *
      (closes - (run Clocked.serve clocked window).clock) :=
    mul_nonneg hlast.1.rate_pos.le (sub_nonneg.mpr horder.along.2)
  have hinv : ∀ (clocked : Clocked) (event : LimiterEvent), clocked.Ready →
      clocked.clock ≤ event.now → (clocked.serve event).Ready :=
    fun _ _ hready hnow => (Clocked.serve_spec hready hnow).1
  have hstep : ∀ (clocked : Clocked) (event : LimiterEvent), clocked.Ready →
      clocked.clock ≤ event.now →
      clocked.taken event + (clocked.serve event).level ≤
        clocked.level + clocked.brought event :=
    fun _ _ hready hnow => (Clocked.serve_spec hready hnow).2
  have hpotential := totalAlong_le hinv hstep hready horder.along.1
  rw [acquired_eq, rateIntegral]
  linarith

/-! ### Steady windows -/

/-- The rate is `rate` at every moment of the window. -/
def Steady (rate : ℚ) (limiter : Limiter) (window : List LimiterEvent) : Prop :=
  ∀ front, front <+: window → (run Limiter.serve limiter front).bucket.rate = rate

theorem Steady.tail {rate : ℚ} {rest : List LimiterEvent}
    (hsteady : Steady rate limiter (event :: rest)) :
    Steady rate (limiter.serve event) rest := by
  intro front hfront
  exact hsteady (event :: front) (List.cons_prefix_cons.mpr ⟨rfl, hfront⟩)

theorem Steady.here {rate : ℚ} (hsteady : Steady rate limiter window) :
    limiter.bucket.rate = rate :=
  hsteady [] (List.nil_prefix)

/-- At a steady rate the integral is the rate times the length of the window. -/
theorem Steady.integral {rate : ℚ} (hsteady : Steady rate clocked.limiter window) (closes : ℚ) :
    rateIntegral clocked window closes = rate * (closes - clocked.clock) := by
  induction window generalizing clocked with
  | nil =>
      have hrate : clocked.limiter.bucket.rate = rate := hsteady.here
      change 0 + clocked.limiter.bucket.rate * (closes - clocked.clock) = _
      rw [zero_add, hrate]
  | cons event rest ih =>
      have hrest : rateIntegral (clocked.serve event) rest closes =
          rate * (closes - event.now) := ih hsteady.tail
      have hsplit : rateIntegral clocked (event :: rest) closes =
          clocked.brought event + rateIntegral (clocked.serve event) rest closes := by
        simp only [rateIntegral, totalAlong]
        rw [add_assoc]
        rfl
      rw [hsplit, hrest, Clocked.brought, hsteady.here]
      ring

/-! ## Every run -/

/-- A new bucket that nobody waits for. -/
def Limiter.start (bucket : TokenBucket) : Limiter where
  bucket := bucket
  deadlines := fun _ => none

/-- The bound on a window: the tokens are within the capacity, and the deliveries within
what is there and what comes in. -/
structure WindowBound (limiter : Limiter) (window : List LimiterEvent) (opens closes : ℚ) :
    Prop where
  tokens_nonneg : 0 ≤ limiter.bucket.tokens
  tokens_le : limiter.bucket.tokens ≤ limiter.bucket.capacity
  integral : (limiter.acquired window : ℚ) ≤
    limiter.bucket.level opens + rateIntegral ⟨limiter, opens⟩ window closes
  steady : ∀ rate : ℚ, Steady rate limiter window →
    (limiter.acquired window : ℚ) ≤ rate + rate * (closes - opens)

/-- Every window of every run of a bucket is within the bound. -/
theorem windowBound_run {ratePerSecond : ℤ} {created : ℚ} {bucket : TokenBucket}
    (hcreated : TokenBucket.create ratePerSecond created = .ok bucket)
    {before window : List LimiterEvent} {opens closes : ℚ}
    (hbefore : InOrder created before opens) (hwindow : InOrder opens window closes) :
    WindowBound (run Limiter.serve (.start bucket) before) window opens closes := by
  obtain ⟨hsound, hlast, -⟩ := TokenBucket.create_sound hcreated
  have hready : Clocked.Ready ⟨.start bucket, created⟩ := ⟨hsound, hlast.le⟩
  obtain ⟨hlater, hrefilled⟩ := hready.run hbefore
  rw [run_limiter] at hlater hrefilled
  have hopened : Clocked.Ready ⟨run Limiter.serve (.start bucket) before, opens⟩ :=
    ⟨hlater, hrefilled.trans hbefore.along.2⟩
  have hintegral := acquired_le_integral hopened hwindow
  refine ⟨hlater.tokens_nonneg, hlater.tokens_le, hintegral, fun rate hsteady => ?_⟩
  have hlevel : Clocked.level ⟨run Limiter.serve (.start bucket) before, opens⟩ ≤ rate := by
    rw [← hsteady.here, ← hlater.capacity_eq]
    exact min_le_left _ _
  rw [hsteady.integral] at hintegral
  exact hintegral.trans (add_le_add_left hlevel _)

/-- Two deliveries a second: in its first second a bucket grants at most four. -/
theorem windowBound_run_twoPerSecond :
    WindowBound (run Limiter.serve (.start ⟨2, 2, 2, 0⟩) [])
      [.acquire 1 60 0, .attempt 1 ⟨false, 0, 0, false⟩, .setRate 3 (1 / 2)] 0 1 := by
  have hcreated : TokenBucket.create 2 0 = .ok ⟨2, 2, 2, 0⟩ := by
    simp [TokenBucket.create]
  exact windowBound_run hcreated (le_refl _)
    ⟨le_refl _, le_refl _, by norm_num [LimiterEvent.now],
      by norm_num [InOrder, LimiterEvent.now]⟩

end SentryWms.Webhooks
