import SentryWms.Auth.AdminUsers
import SentryWms.Relational.Census
import SentryWms.Relational.Grouping

/-!
# Login attempts

A login asks whether its IP and username are locked, compares the password, and counts a
failure after that, in a statement of its own.  Requests that overlap pass the check
together, so more of them fail than the lock allows.  Where a request passes the check
only while the counted failures and the requests under way leave room for one more, no
more than the maximum fail before the counter starts again.
-/

namespace SentryWms.Auth

open Relational

/-! ## Keys -/

/-- The environment of the service; `sha256` gives the hex digest. -/
structure LoginConfig where
  maxLoginAttempts : ℕ
  /-- `LOCKOUT_MINUTES`, in microseconds. -/
  lockout : ℕ
  sha256 : String → String
  chars : CharClasses

/-- `LOGIN_ATTEMPT_KEY_MAX_LEN`. -/
def loginAttemptKeyMaxLen : ℕ := 64

def normalizeRateLimitKey (config : LoginConfig) (key : String) : String :=
  if key.length ≤ loginAttemptKeyMaxLen then key else config.sha256 key

/-- The address of a client has no bar in it. -/
structure LoginRequest where
  clientIp : String
  username : String
  clientIp_bar : '|' ∉ clientIp.toList

/-- `validated.username.lower().strip()`. -/
def LoginRequest.account (config : LoginConfig) (request : LoginRequest) : String :=
  String.ofList (config.chars.strip (request.username.toList.flatMap config.chars.lower))

def LoginRequest.userKey (config : LoginConfig) (request : LoginRequest) : String :=
  "user:" ++ request.account config

def LoginRequest.lockKey (config : LoginConfig) (request : LoginRequest) : String :=
  "ip:" ++ request.clientIp ++ "|user:" ++ request.account config

/-- The requests are of one IP and one username. -/
def SamePair (config : LoginConfig) (request other : LoginRequest) : Prop :=
  request.clientIp = other.clientIp ∧ request.account config = other.account config

instance (config : LoginConfig) (request other : LoginRequest) :
    Decidable (SamePair config request other) :=
  inferInstanceAs (Decidable (_ ∧ _))

/-! ## The table -/

/-- A row of `login_attempts`; times are in microseconds. -/
structure AttemptRow where
  attempts : ℕ
  lockedUntil : Option ℕ
  lastAttempt : ℕ
  deriving DecidableEq, Repr

/-- A lock of the row is in force. -/
def inForce (row : Option AttemptRow) (now : ℕ) : Bool :=
  row.any fun row => row.lockedUntil.any fun lockedUntil => now < lockedUntil

/-- `row.attempts if row else 0`. -/
def attemptsOf (row : Option AttemptRow) : ℕ := (row.map AttemptRow.attempts).getD 0

/-- The row after the upsert of a failure. -/
def countFailure (startedAt : ℕ) : Option AttemptRow → AttemptRow
  | none => ⟨1, none, startedAt⟩
  | some row => { row with attempts := row.attempts + 1, lastAttempt := startedAt }

/-- The first value `_record_failure` returns. -/
def lockedOut (config : LoginConfig) (allowLockout : Bool) (row : Option AttemptRow) : Bool :=
  allowLockout && config.maxLoginAttempts ≤ attemptsOf row + 1

/-- The row after `_record_failure`, which began at a time. -/
def recordFailure (config : LoginConfig) (allowLockout : Bool) (startedAt : ℕ)
    (row : Option AttemptRow) : AttemptRow :=
  if lockedOut config allowLockout row then
    { countFailure startedAt row with
      lockedUntil := some (startedAt + config.lockout)
      attempts := 0 }
  else
    countFailure startedAt row

/-- `LOGIN_ATTEMPTS_RETENTION`. -/
def loginAttemptsRetention : ℕ := 3600 * 1000000

/-- The row is one that `_cleanup_login_attempts_impl` deletes. -/
def AttemptRow.stale (cutoff : ℕ) (row : AttemptRow) : Bool :=
  row.lastAttempt < cutoff && row.lockedUntil.all fun lockedUntil => lockedUntil < cutoff

/-! ## Logins -/

/-- Before which statement a login is, and when its transaction began. -/
inductive LoginCall
  | waiting
  | refused
  | checked (beganAt : ℕ)
  | failed (beganAt : ℕ)
  | counting
  | recording (startedAt : ℕ)
  | rejected (lockedOut : Bool)
  | succeeded
  | cleared
  | loggedIn
  | lost
  deriving DecidableEq, Repr

/-- The request has passed the check, and may yet fail or have its failure counted. -/
def LoginCall.underWay : LoginCall → Bool
  | .checked _ | .failed _ | .counting | .recording _ => true
  | _ => false

/-- Its comparison has failed and is not counted yet. -/
def LoginCall.uncounted : LoginCall → Bool
  | .failed _ | .counting | .recording _ => true
  | _ => false

/-- The clock, the table, where each request is, and whose password was compared.  Beside
them, how many comparisons of the watched pair have failed since its last lock ran out,
or its counter was deleted by a login or by the cleanup. -/
structure LoginState (Ticket : Type*) where
  now : ℕ
  rows : String → Option AttemptRow
  calls : Ticket → LoginCall
  compared : List (Ticket × Bool)
  failures : ℕ

inductive LoginEvent (Ticket : Type*)
  | elapse (duration : ℕ)
  | check (ticket : Ticket)
  | compare (ticket : Ticket) (matched : Bool)
  | advance (ticket : Ticket)
  | cleanup (cutoff : ℕ)
  | abandon (ticket : Ticket)
  deriving DecidableEq, Repr

/-- The request an event is a statement of. -/
def LoginEvent.ticket {Ticket : Type*} : LoginEvent Ticket → Option Ticket
  | .check ticket | .compare ticket _ | .advance ticket | .abandon ticket => some ticket
  | .elapse _ | .cleanup _ => none

section Serving

variable {Ticket : Type*} [DecidableEq Ticket]

def openLogins (rows : String → Option AttemptRow) (now : ℕ) : LoginState Ticket where
  now := now
  rows := rows
  calls := fun _ => .waiting
  compared := []
  failures := 0

variable (config : LoginConfig) (requests : Ticket → LoginRequest) (watched : LoginRequest)

namespace LoginState

def setCall (state : LoginState Ticket) (ticket : Ticket) (call : LoginCall) : LoginState Ticket :=
  { state with calls := Function.update state.calls ticket call }

/-- A statement on the row of a key is committed. -/
def setRow (state : LoginState Ticket) (key : String) (row : Option AttemptRow) :
    LoginState Ticket :=
  { state with
    rows := Function.update state.rows (normalizeRateLimitKey config key) row }

def row (state : LoginState Ticket) (key : String) : Option AttemptRow :=
  state.rows (normalizeRateLimitKey config key)

/-- The row of the watched pair. -/
def watchedRow (state : LoginState Ticket) : Option AttemptRow :=
  state.row config (watched.lockKey config)

/-- The failures are counted from here on, where one of the delimiters has been passed. -/
def restart (state : LoginState Ticket) (passed : Bool) : LoginState Ticket :=
  if passed then { state with failures := 0 } else state

/-- `_check_rate_limit`. -/
def check (state : LoginState Ticket) (ticket : Ticket) : LoginState Ticket :=
  match state.calls ticket with
  | .waiting =>
      if inForce (state.row config ((requests ticket).lockKey config)) state.now then
        state.setCall ticket .refused
      else state.setCall ticket (.checked state.now)
  | _ => state

/-- `authenticate_user`. -/
def compare (state : LoginState Ticket) (ticket : Ticket) (matched : Bool) : LoginState Ticket :=
  match state.calls ticket with
  | .checked beganAt =>
      { state.setCall ticket (if matched then .succeeded else .failed beganAt) with
        compared := state.compared ++ [(ticket, matched)]
        failures :=
          if !matched && SamePair config (requests ticket) watched then state.failures + 1
          else state.failures }
  | _ => state

/-- The statements after the comparison. -/
def advance (state : LoginState Ticket) (ticket : Ticket) : LoginState Ticket :=
  let userKey := (requests ticket).userKey config
  let lockKey := (requests ticket).lockKey config
  match state.calls ticket with
  | .failed beganAt =>
      (state.setRow config userKey
        (some (recordFailure config false beganAt (state.row config userKey)))).setCall
          ticket .counting
  -- The second `_record_failure` takes its time when it begins.
  | .counting => state.setCall ticket (.recording state.now)
  | .recording startedAt =>
      let before := state.row config lockKey
      -- A lock may have run out by the time it is committed.
      ((state.setRow config lockKey
        (some (recordFailure config true startedAt before))).setCall ticket
          (.rejected (lockedOut config true before))).restart
        (SamePair config (requests ticket) watched && lockedOut config true before &&
          startedAt + config.lockout ≤ state.now)
  | .succeeded => (state.setRow config userKey none).setCall ticket .cleared
  | .cleared =>
      ((state.setRow config lockKey none).setCall ticket .loggedIn).restart
        (SamePair config (requests ticket) watched)
  | _ => state

/-- Time passes, and a lock may run out. -/
def elapse (state : LoginState Ticket) (duration : ℕ) : LoginState Ticket :=
  { state with now := state.now + duration }.restart
    (inForce (state.watchedRow config watched) state.now &&
      !inForce (state.watchedRow config watched) (state.now + duration))

/-- `_cleanup_login_attempts_impl`, with a cutoff an hour ago or more. -/
def cleanup (state : LoginState Ticket) (cutoff : ℕ) : LoginState Ticket :=
  if cutoff + loginAttemptsRetention ≤ state.now then
    { state with
      rows := fun key => (state.rows key).filter fun row => !row.stale cutoff }.restart
      ((state.watchedRow config watched).any (AttemptRow.stale cutoff))
  else state

@[simp]
theorem setCall_now (state : LoginState Ticket) (ticket : Ticket) (call : LoginCall) :
    (state.setCall ticket call).now = state.now :=
  rfl

@[simp]
theorem setCall_rows (state : LoginState Ticket) (ticket : Ticket) (call : LoginCall) :
    (state.setCall ticket call).rows = state.rows :=
  rfl

@[simp]
theorem setCall_failures (state : LoginState Ticket) (ticket : Ticket) (call : LoginCall) :
    (state.setCall ticket call).failures = state.failures :=
  rfl

@[simp]
theorem setCall_calls (state : LoginState Ticket) (ticket : Ticket) (call : LoginCall) :
    (state.setCall ticket call).calls = Function.update state.calls ticket call :=
  rfl

@[simp]
theorem setCall_compared (state : LoginState Ticket) (ticket : Ticket) (call : LoginCall) :
    (state.setCall ticket call).compared = state.compared :=
  rfl

omit [DecidableEq Ticket] in
@[simp]
theorem setRow_compared (state : LoginState Ticket) (key : String) (row : Option AttemptRow) :
    (state.setRow config key row).compared = state.compared :=
  rfl

omit [DecidableEq Ticket] in
@[simp]
theorem setRow_now (state : LoginState Ticket) (key : String) (row : Option AttemptRow) :
    (state.setRow config key row).now = state.now :=
  rfl

omit [DecidableEq Ticket] in
@[simp]
theorem setRow_failures (state : LoginState Ticket) (key : String) (row : Option AttemptRow) :
    (state.setRow config key row).failures = state.failures :=
  rfl

omit [DecidableEq Ticket] in
@[simp]
theorem setRow_calls (state : LoginState Ticket) (key : String) (row : Option AttemptRow) :
    (state.setRow config key row).calls = state.calls :=
  rfl

omit [DecidableEq Ticket] in
@[simp]
theorem restart_now (state : LoginState Ticket) (passed : Bool) :
    (state.restart passed).now = state.now := by
  cases passed <;> rfl

omit [DecidableEq Ticket] in
@[simp]
theorem restart_rows (state : LoginState Ticket) (passed : Bool) :
    (state.restart passed).rows = state.rows := by
  cases passed <;> rfl

omit [DecidableEq Ticket] in
@[simp]
theorem restart_calls (state : LoginState Ticket) (passed : Bool) :
    (state.restart passed).calls = state.calls := by
  cases passed <;> rfl

omit [DecidableEq Ticket] in
@[simp]
theorem restart_compared (state : LoginState Ticket) (passed : Bool) :
    (state.restart passed).compared = state.compared := by
  cases passed <;> rfl

omit [DecidableEq Ticket] in
theorem restart_failures (state : LoginState Ticket) (passed : Bool) :
    (state.restart passed).failures = if passed then 0 else state.failures := by
  cases passed <;> rfl

def serve (state : LoginState Ticket) : LoginEvent Ticket → LoginState Ticket
  | .elapse duration => state.elapse config watched duration
  | .check ticket => state.check config requests ticket
  | .compare ticket matched => state.compare config requests watched ticket matched
  | .advance ticket => state.advance config requests watched ticket
  | .cleanup cutoff => state.cleanup config watched cutoff
  | .abandon ticket => state.setCall ticket .lost

end LoginState

end Serving

/-! ## Keys of different pairs -/

section Keys

variable {config : LoginConfig} {request other : LoginRequest} {key key' : String}

theorem colon_mem_userKey : ':' ∈ (request.userKey config).toList := by
  rw [LoginRequest.userKey, String.toList_append]
  exact List.mem_append_left _ (by decide)

theorem colon_mem_lockKey : ':' ∈ (request.lockKey config).toList := by
  rw [LoginRequest.lockKey, String.toList_append, String.toList_append, String.toList_append]
  exact List.mem_append_left _ (List.mem_append_left _ (List.mem_append_left _ (by decide)))

theorem lockKey_toList (config : LoginConfig) (request : LoginRequest) :
    (request.lockKey config).toList =
      "ip:".toList ++ (request.clientIp.toList ++
        '|' :: ("user:".toList ++ (request.account config).toList)) := by
  simp [LoginRequest.lockKey, String.toList_append]

/-- A lock key tells the pair. -/
theorem lockKey_inj (hsame : request.lockKey config = other.lockKey config) :
    SamePair config request other := by
  have hlist := congrArg String.toList hsame
  rw [lockKey_toList, lockKey_toList, List.append_right_inj] at hlist
  obtain ⟨hip, hname⟩ := split_at_separator request.clientIp_bar other.clientIp_bar hlist
  rw [List.append_right_inj] at hname
  exact ⟨String.toList_inj.mp hip, String.toList_inj.mp hname⟩

theorem SamePair.lockKey_eq (hpair : SamePair config request other) :
    request.lockKey config = other.lockKey config := by
  rw [LoginRequest.lockKey, LoginRequest.lockKey, hpair.1, hpair.2]

theorem userKey_ne_lockKey : request.userKey config ≠ other.lockKey config := by
  intro hsame
  have hlist := congrArg String.toList hsame
  rw [lockKey_toList, LoginRequest.userKey, String.toList_append] at hlist
  have hhead : 'u' = 'i' := (List.cons.inj hlist).1
  exact absurd hhead (by decide)

/-- A hex digest has no colon, and no other key of the requests has the digest of the
watched one. -/
structure HashApart {Ticket : Type*} (config : LoginConfig)
    (requests : Ticket → LoginRequest) (watched : LoginRequest) : Prop where
  digest : ∀ text, ':' ∉ (config.sha256 text).toList
  apart : ∀ ticket, ∀ key ∈ [(requests ticket).userKey config,
    (requests ticket).lockKey config],
      config.sha256 key = config.sha256 (watched.lockKey config) → key = watched.lockKey config

theorem normalizeRateLimitKey_inj (hdigest : ∀ text, ':' ∉ (config.sha256 text).toList)
    (hkey : ':' ∈ key.toList) (hkey' : ':' ∈ key'.toList)
    (hhash : config.sha256 key = config.sha256 key' → key = key')
    (hsame : normalizeRateLimitKey config key = normalizeRateLimitKey config key') :
    key = key' := by
  unfold normalizeRateLimitKey at hsame
  split at hsame
  · split at hsame
    · exact hsame
    · rw [hsame] at hkey
      exact absurd hkey (hdigest key')
  · split at hsame
    · rw [← hsame] at hkey'
      exact absurd hkey' (hdigest key)
    · exact hhash hsame

variable {Ticket : Type*} {requests : Ticket → LoginRequest} {watched : LoginRequest}

theorem HashApart.userKey_ne (hapart : HashApart config requests watched) (ticket : Ticket) :
    normalizeRateLimitKey config (watched.lockKey config) ≠
      normalizeRateLimitKey config ((requests ticket).userKey config) := by
  intro hsame
  have hkeys := normalizeRateLimitKey_inj hapart.digest colon_mem_userKey colon_mem_lockKey
    (hapart.apart ticket _ List.mem_cons_self) hsame.symm
  exact userKey_ne_lockKey hkeys

theorem HashApart.lockKey_ne (hapart : HashApart config requests watched) {ticket : Ticket}
    (hother : ¬ SamePair config (requests ticket) watched) :
    normalizeRateLimitKey config (watched.lockKey config) ≠
      normalizeRateLimitKey config ((requests ticket).lockKey config) := by
  intro hsame
  have hkeys := normalizeRateLimitKey_inj hapart.digest colon_mem_lockKey colon_mem_lockKey
    (hapart.apart ticket _ (List.mem_cons_of_mem _ List.mem_cons_self)) hsame.symm
  exact hother (lockKey_inj hkeys)

end Keys

variable {call : LoginCall} {startedAt : ℕ}

/-! ## What is kept -/

section Steps

variable {Ticket : Type*} [DecidableEq Ticket] [Fintype Ticket]

section Counts

variable (config : LoginConfig) (requests : Ticket → LoginRequest) (watched : LoginRequest)

/-- One for a request of the watched pair that is where the test says. -/
def pairWeight (test : LoginCall → Bool) (ticket : Ticket) (call : LoginCall) : ℕ :=
  if SamePair config (requests ticket) watched then (test call).toNat else 0

/-- The requests of the watched pair that are where the test says. -/
def countCalls (test : LoginCall → Bool) (state : LoginState Ticket) : ℕ :=
  census (pairWeight config requests watched test) state.calls

/-- A request of the pair passes the check only while the counted failures and those
under way leave room for it, and none is lost between its failure and the count. -/
def LeavesRoom (state : LoginState Ticket) : LoginEvent Ticket → Prop
  | .check ticket =>
      state.calls ticket = .waiting → SamePair config (requests ticket) watched →
        inForce (state.watchedRow config watched) state.now = false →
          attemptsOf (state.watchedRow config watched) +
            countCalls config requests watched LoginCall.underWay state < config.maxLoginAttempts
  | .abandon ticket =>
      SamePair config (requests ticket) watched → (state.calls ticket).uncounted = false
  | _ => True

instance (state : LoginState Ticket) (event : LoginEvent Ticket) :
    Decidable (LeavesRoom config requests watched state event) := by
  unfold LeavesRoom
  split <;> infer_instance

/-- The counter and the requests under way stay within the maximum, and so do the
failures, which are all counted or about to be. -/
structure Bounded (state : LoginState Ticket) : Prop where
  room : attemptsOf (state.watchedRow config watched) +
    countCalls config requests watched LoginCall.underWay state ≤ config.maxLoginAttempts
  failures : state.failures ≤ config.maxLoginAttempts
  locked : inForce (state.watchedRow config watched) state.now = true →
    attemptsOf (state.watchedRow config watched) = 0 ∧
      countCalls config requests watched LoginCall.underWay state = 0
  counted : inForce (state.watchedRow config watched) state.now = false →
    state.failures ≤ attemptsOf (state.watchedRow config watched) +
      countCalls config requests watched LoginCall.uncounted state

end Counts

variable {config : LoginConfig} {requests : Ticket → LoginRequest} {watched : LoginRequest}
  {state after : LoginState Ticket} {ticket : Ticket}

omit [DecidableEq Ticket] [Fintype Ticket] in
theorem pairWeight_of_pair (hpair : SamePair config (requests ticket) watched)
    (test : LoginCall → Bool) (call : LoginCall) :
    pairWeight config requests watched test ticket call = (test call).toNat :=
  if_pos hpair

omit [DecidableEq Ticket] [Fintype Ticket] in
theorem pairWeight_of_other (hother : ¬ SamePair config (requests ticket) watched)
    (test : LoginCall → Bool) (call : LoginCall) :
    pairWeight config requests watched test ticket call = 0 :=
  if_neg hother

omit [DecidableEq Ticket] in
theorem uncounted_le_underWay (state : LoginState Ticket) :
    countCalls config requests watched LoginCall.uncounted state ≤
      countCalls config requests watched LoginCall.underWay state := by
  apply census_mono
  intro other call
  unfold pairWeight
  split
  · cases call <;> simp [LoginCall.uncounted, LoginCall.underWay]
  · exact le_refl _

/-- The count after one request has moved. -/
theorem countCalls_move (test : LoginCall → Bool)
    (hcalls : after.calls = Function.update state.calls ticket call) :
    countCalls config requests watched test after +
        pairWeight config requests watched test ticket (state.calls ticket) =
      countCalls config requests watched test state +
        pairWeight config requests watched test ticket call := by
  rw [countCalls, hcalls]
  exact census_update _ _ _ _

/-- A request of another pair, or one whose places count the same, leaves the count. -/
theorem countCalls_eq (test : LoginCall → Bool)
    (hcalls : after.calls = Function.update state.calls ticket call)
    (hsame : SamePair config (requests ticket) watched → test call = test (state.calls ticket)) :
    countCalls config requests watched test after =
      countCalls config requests watched test state := by
  have hmove : countCalls config requests watched test after + _ = _ := countCalls_move test hcalls
  by_cases hpair : SamePair config (requests ticket) watched
  · rw [pairWeight_of_pair hpair, pairWeight_of_pair hpair, hsame hpair] at hmove
    omega
  · rw [pairWeight_of_other hpair, pairWeight_of_other hpair] at hmove
    omega

omit [DecidableEq Ticket] in
/-- Nothing of the pair's has changed, except that less of it may be under way. -/
theorem Bounded.of_same (hbounded : Bounded config requests watched state)
    (hrow : after.watchedRow config watched = state.watchedRow config watched)
    (hnow : after.now = state.now) (hfailures : after.failures = state.failures)
    (hunderWay : countCalls config requests watched LoginCall.underWay after ≤
      countCalls config requests watched LoginCall.underWay state)
    (huncounted : countCalls config requests watched LoginCall.uncounted after =
      countCalls config requests watched LoginCall.uncounted state) :
    Bounded config requests watched after where
  room := by
    rw [hrow]
    exact (Nat.add_le_add_left hunderWay _).trans hbounded.room
  failures := by
    rw [hfailures]
    exact hbounded.failures
  locked := by
    intro hlocked
    rw [hrow, hnow] at hlocked
    obtain ⟨hattempts, hnone⟩ := hbounded.locked hlocked
    rw [hrow]
    exact ⟨hattempts, by omega⟩
  counted := by
    intro hfree
    rw [hrow, hnow] at hfree
    rw [hrow, hfailures, huncounted]
    exact hbounded.counted hfree

/-- A request moves on, and nothing else of the pair's changes. -/
theorem Bounded.move (hbounded : Bounded config requests watched state)
    (hcalls : after.calls = Function.update state.calls ticket call)
    (hrow : after.watchedRow config watched = state.watchedRow config watched)
    (hnow : after.now = state.now) (hfailures : after.failures = state.failures)
    (hcall : SamePair config (requests ticket) watched →
      call.underWay ≤ (state.calls ticket).underWay ∧
        call.uncounted = (state.calls ticket).uncounted) :
    Bounded config requests watched after := by
  refine hbounded.of_same hrow hnow hfailures ?_
    (countCalls_eq LoginCall.uncounted hcalls fun hpair => (hcall hpair).2)
  have hmove : countCalls config requests watched LoginCall.underWay after + _ = _ :=
    countCalls_move LoginCall.underWay hcalls
  by_cases hpair : SamePair config (requests ticket) watched
  · rw [pairWeight_of_pair hpair, pairWeight_of_pair hpair] at hmove
    have hle := Bool.toNat_le_toNat (hcall hpair).1
    omega
  · rw [pairWeight_of_other hpair, pairWeight_of_other hpair] at hmove
    omega

omit [DecidableEq Ticket] in
/-- The failures start again from zero, and the pair is not locked. -/
theorem Bounded.of_restart
    (hroom : attemptsOf (after.watchedRow config watched) +
      countCalls config requests watched LoginCall.underWay after ≤ config.maxLoginAttempts)
    (hfailures : after.failures = 0)
    (hfree : inForce (after.watchedRow config watched) after.now = false) :
    Bounded config requests watched after where
  room := hroom
  failures := by
    rw [hfailures]
    exact Nat.zero_le _
  locked := by
    intro hlocked
    rw [hfree] at hlocked
    cases hlocked
  counted := by
    intro _
    rw [hfailures]
    exact Nat.zero_le _

omit [DecidableEq Ticket] in
/-- A request of the pair that is under way finds no lock in force. -/
theorem Bounded.free_of_underWay (hbounded : Bounded config requests watched state)
    (hpair : SamePair config (requests ticket) watched)
    (hunderWay : (state.calls ticket).underWay = true) :
    inForce (state.watchedRow config watched) state.now = false ∧
      1 ≤ countCalls config requests watched LoginCall.underWay state := by
  have hone : 1 ≤ countCalls config requests watched LoginCall.underWay state := by
    have hle := le_census (pairWeight config requests watched LoginCall.underWay) state.calls ticket
    rw [pairWeight_of_pair hpair, hunderWay] at hle
    exact hle
  refine ⟨?_, hone⟩
  by_contra hlocked
  have hnone := (hbounded.locked (by simpa using hlocked)).2
  omega

omit [DecidableEq Ticket] [Fintype Ticket] in
theorem watchedRow_setRow_of_ne {key : String} (row : Option AttemptRow)
    (hne : normalizeRateLimitKey config (watched.lockKey config) ≠
      normalizeRateLimitKey config key) :
    (state.setRow config key row).watchedRow config watched =
      state.watchedRow config watched := by
  simp only [LoginState.watchedRow, LoginState.row, LoginState.setRow]
  rw [Function.update_of_ne hne]

omit [DecidableEq Ticket] [Fintype Ticket] in
theorem watchedRow_setRow_of_pair (hpair : SamePair config (requests ticket) watched)
    (row : Option AttemptRow) :
    (state.setRow config ((requests ticket).lockKey config) row).watchedRow config watched =
      row := by
  simp only [hpair.lockKey_eq, LoginState.watchedRow, LoginState.row, LoginState.setRow]
  rw [Function.update_self]

omit [Fintype Ticket] in
theorem watchedRow_setCall (call : LoginCall) :
    (state.setCall ticket call).watchedRow config watched =
      state.watchedRow config watched :=
  rfl

omit [DecidableEq Ticket] [Fintype Ticket] in
theorem watchedRow_restart (passed : Bool) :
    (state.restart passed).watchedRow config watched = state.watchedRow config watched := by
  cases passed <;> rfl

omit [DecidableEq Ticket] [Fintype Ticket] in
theorem inForce_mono {row : Option AttemptRow} {now later : ℕ} (hle : now ≤ later)
    (hlater : inForce row later = true) : inForce row now = true := by
  unfold inForce at hlater ⊢
  obtain ⟨row, hrow, hlock⟩ := (Option.any_eq_true _ _).mp hlater
  obtain ⟨lockedUntil, huntil, hlt⟩ := (Option.any_eq_true _ _).mp hlock
  rw [hrow, Option.any_some, huntil, Option.any_some]
  exact decide_eq_true (hle.trans_lt (of_decide_eq_true hlt))

omit [DecidableEq Ticket] in
theorem Bounded.elapse (hbounded : Bounded config requests watched state) (duration : ℕ) :
    Bounded config requests watched (state.elapse config watched duration) := by
  unfold LoginState.elapse
  cases hbefore : inForce (state.watchedRow config watched) state.now with
  | true =>
      cases hlater : inForce (state.watchedRow config watched) (state.now + duration) with
      | true =>
          exact
            { room := hbounded.room
              failures := hbounded.failures
              locked := fun _ => hbounded.locked hbefore
              counted := by
                intro hfree
                cases hlater.symm.trans hfree }
      | false =>
          apply Bounded.of_restart _ rfl hlater
          exact hbounded.room
  | false =>
      have hlater : inForce (state.watchedRow config watched) (state.now + duration) =
          false := by
        by_contra hlocked
        have hearlier := inForce_mono (Nat.le_add_right state.now duration)
          (by simpa using hlocked)
        rw [hbefore] at hearlier
        cases hearlier
      exact
        { room := hbounded.room
          failures := hbounded.failures
          locked := by
            intro hlocked
            cases hlater.symm.trans hlocked
          counted := fun _ => hbounded.counted hbefore }

theorem Bounded.check (hbounded : Bounded config requests watched state)
    (hroom : LeavesRoom config requests watched state (.check ticket)) :
    Bounded config requests watched (state.check config requests ticket) := by
  unfold LoginState.check
  split
  · rename_i hwaiting
    split
    · refine hbounded.move rfl rfl rfl rfl fun _ => ?_
      rw [hwaiting]
      exact ⟨le_refl _, rfl⟩
    · rename_i hfree
      have huncounted : countCalls config requests watched LoginCall.uncounted
          (state.setCall ticket (.checked state.now)) =
            countCalls config requests watched LoginCall.uncounted state :=
        countCalls_eq LoginCall.uncounted rfl fun _ => by rw [hwaiting]; rfl
      by_cases hpair : SamePair config (requests ticket) watched
      · have hopen : inForce (state.watchedRow config watched) state.now = false := by
          rw [LoginState.watchedRow, ← hpair.lockKey_eq]
          simpa using hfree
        have hless := hroom hwaiting hpair hopen
        have hmove : countCalls config requests watched LoginCall.underWay
            (state.setCall ticket (.checked state.now)) + _ = _ :=
          countCalls_move LoginCall.underWay rfl
        rw [pairWeight_of_pair hpair, pairWeight_of_pair hpair, hwaiting] at hmove
        simp only [LoginCall.underWay, Bool.toNat_false, Bool.toNat_true] at hmove
        exact
          { room := by
              change attemptsOf (state.watchedRow config watched) + _ ≤ _
              omega
            failures := hbounded.failures
            locked := by
              intro hlocked
              cases hopen.symm.trans hlocked
            counted := by
              intro _
              rw [huncounted]
              exact hbounded.counted hopen }
      · exact hbounded.move rfl rfl rfl rfl fun hsame => absurd hsame hpair
  · exact hbounded

theorem Bounded.compare (hbounded : Bounded config requests watched state) (matched : Bool) :
    Bounded config requests watched
      (state.compare config requests watched ticket matched) := by
  unfold LoginState.compare
  split
  · rename_i beganAt hchecked
    cases matched with
    | true =>
        refine hbounded.move rfl rfl rfl rfl fun _ => ?_
        rw [hchecked]
        exact ⟨Bool.false_le _, rfl⟩
    | false =>
        by_cases hpair : SamePair config (requests ticket) watched
        · obtain ⟨hfree, _⟩ := hbounded.free_of_underWay hpair (by rw [hchecked]; rfl)
          have hcounted := hbounded.counted hfree
          have hroom := hbounded.room
          have hunderWay : countCalls config requests watched LoginCall.underWay
              (state.setCall ticket (.failed beganAt)) =
                countCalls config requests watched LoginCall.underWay state :=
            countCalls_eq LoginCall.underWay rfl fun _ => by rw [hchecked]; rfl
          have huncounted : countCalls config requests watched LoginCall.uncounted
              (state.setCall ticket (.failed beganAt)) + _ = _ :=
            countCalls_move LoginCall.uncounted rfl
          rw [pairWeight_of_pair hpair, pairWeight_of_pair hpair, hchecked] at huncounted
          simp only [LoginCall.uncounted, Bool.toNat_true, Bool.toNat_false] at huncounted
          have hle : countCalls config requests watched LoginCall.uncounted
              (state.setCall ticket (.failed beganAt)) ≤ _ :=
            uncounted_le_underWay _
          have hfailures : (if !false && SamePair config (requests ticket) watched then
              state.failures + 1 else state.failures) = state.failures + 1 := by
            simp [hpair]
          exact
            { room := hunderWay ▸ hroom
              failures := by
                change (if _ then _ else _) ≤ _
                rw [hfailures]
                omega
              locked := by
                intro hlocked
                cases hfree.symm.trans hlocked
              counted := by
                intro _
                change (if _ then _ else _) ≤ attemptsOf (state.watchedRow config watched) +
                  countCalls config requests watched LoginCall.uncounted
                    (state.setCall ticket (.failed beganAt))
                rw [hfailures]
                omega }
        · refine hbounded.move rfl rfl ?_ ?_ fun hsame => absurd hsame hpair
          · rfl
          · simp [hpair]
  · exact hbounded

omit [DecidableEq Ticket] [Fintype Ticket] in
theorem attemptsOf_countFailure (startedAt : ℕ) (row : Option AttemptRow) :
    attemptsOf (some (countFailure startedAt row)) = attemptsOf row + 1 := by
  cases row <;> rfl

omit [DecidableEq Ticket] [Fintype Ticket] in
theorem inForce_countFailure (startedAt now : ℕ) (row : Option AttemptRow) :
    inForce (some (countFailure startedAt row)) now = inForce row now := by
  cases row <;> rfl

/-- The count of the pair's failure, which may lock it. -/
theorem Bounded.record (hbounded : Bounded config requests watched state)
    (hpair : SamePair config (requests ticket) watched)
    (hrecording : state.calls ticket = .recording startedAt)
    (hcalls : after.calls = Function.update state.calls ticket
      (.rejected (lockedOut config true (state.watchedRow config watched))))
    (hrow : after.watchedRow config watched =
      some (recordFailure config true startedAt (state.watchedRow config watched)))
    (hnow : after.now = state.now) (hfailures : after.failures =
      if lockedOut config true (state.watchedRow config watched) = true ∧
        startedAt + config.lockout ≤ state.now then 0 else state.failures) :
    Bounded config requests watched after := by
  obtain ⟨hfree, hone⟩ := hbounded.free_of_underWay hpair (by rw [hrecording]; rfl)
  have hroom := hbounded.room
  have hcounted := hbounded.counted hfree
  have hbefore := hbounded.failures
  have hunderWay : countCalls config requests watched LoginCall.underWay after + _ = _ :=
    countCalls_move LoginCall.underWay hcalls
  have huncounted : countCalls config requests watched LoginCall.uncounted after + _ = _ :=
    countCalls_move LoginCall.uncounted hcalls
  rw [pairWeight_of_pair hpair, pairWeight_of_pair hpair, hrecording] at hunderWay huncounted
  simp only [LoginCall.underWay, LoginCall.uncounted, Bool.toNat_true, Bool.toNat_false]
    at hunderWay huncounted
  cases hlocked : lockedOut config true (state.watchedRow config watched) with
  | true =>
      have hfull : config.maxLoginAttempts ≤
          attemptsOf (state.watchedRow config watched) + 1 := by
        simpa [lockedOut] using hlocked
      have hattempts : attemptsOf (after.watchedRow config watched) = 0 := by
        rw [hrow, recordFailure, if_pos hlocked]
        rfl
      have hforce : inForce (after.watchedRow config watched) after.now =
          decide (state.now < startedAt + config.lockout) := by
        rw [hrow, recordFailure, if_pos hlocked, hnow]
        rfl
      by_cases hexpired : startedAt + config.lockout ≤ state.now
      · rw [if_pos ⟨hlocked, hexpired⟩] at hfailures
        apply Bounded.of_restart _ hfailures
        · rw [hforce]
          exact decide_eq_false (not_lt.mpr hexpired)
        · omega
      · rw [if_neg fun hboth => hexpired hboth.2] at hfailures
        exact
          { room := by omega
            failures := hfailures ▸ hbefore
            locked := fun _ => ⟨hattempts, by omega⟩
            counted := by
              intro hopen
              rw [hforce] at hopen
              exact absurd (not_le.mp hexpired) (of_decide_eq_false hopen) }
  | false =>
      have hattempts : attemptsOf (after.watchedRow config watched) =
          attemptsOf (state.watchedRow config watched) + 1 := by
        rw [hrow, recordFailure, if_neg (by rw [hlocked]; exact Bool.false_ne_true),
          attemptsOf_countFailure]
      have hforce : inForce (after.watchedRow config watched) after.now = false := by
        rw [hrow, recordFailure, if_neg (by rw [hlocked]; exact Bool.false_ne_true),
          inForce_countFailure, hnow, hfree]
      rw [if_neg fun hboth => by rw [hlocked] at hboth; cases hboth.1] at hfailures
      exact
        { room := by omega
          failures := hfailures ▸ hbefore
          locked := by
            intro hforced
            cases hforce.symm.trans hforced
          counted := by
            intro _
            omega }

/-- A statement on the row of a username alone. -/
theorem Bounded.stepUserKey (hbounded : Bounded config requests watched state)
    (hapart : HashApart config requests watched) {row : Option AttemptRow}
    (hcall : call.underWay ≤ (state.calls ticket).underWay ∧
      call.uncounted = (state.calls ticket).uncounted) :
    Bounded config requests watched
      ((state.setRow config ((requests ticket).userKey config) row).setCall ticket call) := by
  apply hbounded.move
  · rw [LoginState.setCall_calls, LoginState.setRow_calls]
  · rw [watchedRow_setCall]
    exact watchedRow_setRow_of_ne _ (hapart.userKey_ne ticket)
  · rw [LoginState.setCall_now, LoginState.setRow_now]
  · rw [LoginState.setCall_failures, LoginState.setRow_failures]
  · exact fun _ => hcall

/-- A statement of a login of another pair. -/
theorem Bounded.stepOther (hbounded : Bounded config requests watched state)
    (hapart : HashApart config requests watched)
    (hpair : ¬ SamePair config (requests ticket) watched) {row : Option AttemptRow}
    {restarts : Bool} (hgoes : restarts = false) :
    Bounded config requests watched
      (((state.setRow config ((requests ticket).lockKey config) row).setCall ticket call).restart
        restarts) := by
  apply hbounded.move
  · rw [LoginState.restart_calls, LoginState.setCall_calls, LoginState.setRow_calls]
  · rw [watchedRow_restart, watchedRow_setCall]
    exact watchedRow_setRow_of_ne _ (hapart.lockKey_ne hpair)
  · rw [LoginState.restart_now, LoginState.setCall_now, LoginState.setRow_now]
  · simp only [hgoes, LoginState.restart_failures, Bool.false_eq_true, if_false,
      LoginState.setCall_failures, LoginState.setRow_failures]
  · exact fun hsame => absurd hsame hpair

theorem Bounded.recordLock (hbounded : Bounded config requests watched state)
    (hapart : HashApart config requests watched)
    (hrecording : state.calls ticket = .recording startedAt) :
    Bounded config requests watched
      (((state.setRow config ((requests ticket).lockKey config)
        (some (recordFailure config true startedAt
          (state.row config ((requests ticket).lockKey config))))).setCall ticket
            (.rejected (lockedOut config true
              (state.row config ((requests ticket).lockKey config))))).restart
        (SamePair config (requests ticket) watched &&
          lockedOut config true (state.row config ((requests ticket).lockKey config)) &&
            startedAt + config.lockout ≤ state.now)) := by
  by_cases hpair : SamePair config (requests ticket) watched
  · have hsame : state.row config ((requests ticket).lockKey config) =
        state.watchedRow config watched := by
      rw [LoginState.watchedRow, hpair.lockKey_eq]
    rw [hsame]
    apply hbounded.record hpair hrecording
    · rw [LoginState.restart_calls, LoginState.setCall_calls, LoginState.setRow_calls]
    · rw [watchedRow_restart, watchedRow_setCall]
      exact watchedRow_setRow_of_pair hpair _
    · rw [LoginState.restart_now, LoginState.setCall_now, LoginState.setRow_now]
    · rw [LoginState.restart_failures]
      simp only [hpair, decide_true, Bool.true_and, Bool.and_eq_true, decide_eq_true_eq,
        LoginState.setCall_failures, LoginState.setRow_failures]
  · exact hbounded.stepOther hapart hpair (by simp [hpair])

/-- The reset of a login, where the failures of its pair start again. -/
theorem Bounded.resetLock (hbounded : Bounded config requests watched state)
    (hapart : HashApart config requests watched) (hcleared : state.calls ticket = .cleared) :
    Bounded config requests watched
      (((state.setRow config ((requests ticket).lockKey config) none).setCall ticket
        .loggedIn).restart (SamePair config (requests ticket) watched)) := by
  by_cases hpair : SamePair config (requests ticket) watched
  · have hrow : LoginState.watchedRow config watched
        (((state.setRow config ((requests ticket).lockKey config) none).setCall ticket
          .loggedIn).restart (SamePair config (requests ticket) watched)) = none := by
      rw [watchedRow_restart, watchedRow_setCall]
      exact watchedRow_setRow_of_pair hpair none
    apply Bounded.of_restart
    · have hcalls : (((state.setRow config ((requests ticket).lockKey config) none).setCall
          ticket .loggedIn).restart (SamePair config (requests ticket) watched)).calls =
            Function.update state.calls ticket .loggedIn := by
        rw [LoginState.restart_calls, LoginState.setCall_calls, LoginState.setRow_calls]
      have hroom := hbounded.room
      rw [hrow, countCalls_eq LoginCall.underWay hcalls fun _ => by rw [hcleared]; rfl]
      change 0 + _ ≤ _
      omega
    · rw [LoginState.restart_failures]
      simp only [hpair, decide_true, if_true]
    · rw [hrow]
      rfl
  · exact hbounded.stepOther hapart hpair (by simp [hpair])

theorem Bounded.advance (hbounded : Bounded config requests watched state)
    (hapart : HashApart config requests watched) :
    Bounded config requests watched (state.advance config requests watched ticket) := by
  unfold LoginState.advance
  split
  · rename_i beganAt hfailed
    apply hbounded.stepUserKey hapart
    rw [hfailed]
    exact ⟨le_refl _, rfl⟩
  · rename_i hcounting
    refine hbounded.move rfl rfl rfl rfl fun _ => ?_
    rw [hcounting]
    exact ⟨le_refl _, rfl⟩
  · rename_i startedAt hrecording
    exact hbounded.recordLock hapart hrecording
  · rename_i hsucceeded
    apply hbounded.stepUserKey hapart
    rw [hsucceeded]
    exact ⟨le_refl _, rfl⟩
  · rename_i hcleared
    exact hbounded.resetLock hapart hcleared
  · exact hbounded

omit [DecidableEq Ticket] in
theorem Bounded.cleanup (hbounded : Bounded config requests watched state) (cutoff : ℕ) :
    Bounded config requests watched (state.cleanup config watched cutoff) := by
  unfold LoginState.cleanup
  split
  · cases hstale : (state.watchedRow config watched).any (AttemptRow.stale cutoff) with
    | true =>
        obtain ⟨row, hrow, hold⟩ := (Option.any_eq_true _ _).mp hstale
        have hnone : LoginState.watchedRow config watched
            ({ state with
              rows := fun key => (state.rows key).filter fun row => !row.stale cutoff }.restart
                true) = none := by
          change (state.watchedRow config watched).filter _ = none
          rw [hrow, Option.filter_some, hold]
          rfl
        have hroom := hbounded.room
        apply Bounded.of_restart
        · rw [hnone]
          change 0 + countCalls config requests watched LoginCall.underWay state ≤ _
          omega
        · rfl
        · rw [hnone]
          rfl
    | false =>
        apply hbounded.of_same
        · change (state.watchedRow config watched).filter _ = _
          cases hrow : state.watchedRow config watched with
          | none => rfl
          | some row =>
              rw [hrow, Option.any_some] at hstale
              rw [Option.filter_some, hstale]
              rfl
        · rfl
        · rfl
        · exact le_refl _
        · rfl
  · exact hbounded

theorem Bounded.abandon (hbounded : Bounded config requests watched state)
    (hcounted : LeavesRoom config requests watched state (.abandon ticket)) :
    Bounded config requests watched (state.setCall ticket .lost) := by
  refine hbounded.move rfl rfl rfl rfl fun hpair => ?_
  exact ⟨Bool.false_le _, (hcounted hpair).symm⟩

/-- What an event keeps, where it leaves room. -/
theorem Bounded.serve (hbounded : Bounded config requests watched state)
    (hapart : HashApart config requests watched) (event : LoginEvent Ticket)
    (hroom : LeavesRoom config requests watched state event) :
    Bounded config requests watched (state.serve config requests watched event) := by
  cases event with
  | elapse duration => exact hbounded.elapse duration
  | check ticket => exact hbounded.check hroom
  | compare ticket matched => exact hbounded.compare matched
  | advance ticket => exact hbounded.advance hapart
  | cleanup cutoff => exact hbounded.cleanup cutoff
  | abandon ticket => exact hbounded.abandon hroom

/-! ## Other pairs -/

omit [Fintype Ticket] in
/-- A statement of another pair's request leaves the row of the pair. -/
theorem watchedRow_serve_of_other (hapart : HashApart config requests watched)
    {event : LoginEvent Ticket} (hticket : event.ticket = some ticket)
    (hother : ¬ SamePair config (requests ticket) watched) :
    (state.serve config requests watched event).watchedRow config watched =
      state.watchedRow config watched := by
  cases event with
  | elapse | cleanup => cases hticket
  | abandon other => rfl
  | check other =>
      change (state.check config requests other).watchedRow config watched = _
      unfold LoginState.check
      split
      · split <;> rfl
      · rfl
  | compare other matched =>
      change (state.compare config requests watched other matched).watchedRow config watched = _
      unfold LoginState.compare
      split <;> rfl
  | advance other =>
      cases hticket
      change (state.advance config requests watched ticket).watchedRow config watched = _
      unfold LoginState.advance
      split
      · rw [watchedRow_setCall]
        exact watchedRow_setRow_of_ne _ (hapart.userKey_ne ticket)
      · exact watchedRow_setCall _
      · rw [watchedRow_restart, watchedRow_setCall]
        exact watchedRow_setRow_of_ne _ (hapart.lockKey_ne hother)
      · rw [watchedRow_setCall]
        exact watchedRow_setRow_of_ne _ (hapart.userKey_ne ticket)
      · rw [watchedRow_restart, watchedRow_setCall]
        exact watchedRow_setRow_of_ne _ (hapart.lockKey_ne hother)
      · rfl

/-! ## Requests that were refused -/

/-- The request has ended without a comparison. -/
def LoginCall.turnedAway : LoginCall → Bool
  | .refused | .lost => true
  | _ => false

/-- No password of the request has been compared. -/
def NeverCompared (state : LoginState Ticket) (ticket : Ticket) : Prop :=
  ∀ matched, (ticket, matched) ∉ state.compared

/-- Where an event can leave a request: where it was, lost, or past the wait. -/
def Follows (before after : LoginCall) : Prop :=
  after = before ∨ after = .lost ∨ (before.turnedAway = false ∧ after ≠ .waiting)

omit [Fintype Ticket] in
theorem follows_update {calls : Ticket → LoginCall}
    (hcall : Follows (calls ticket) call) (other : Ticket) :
    Follows (calls other) (Function.update calls ticket call other) := by
  by_cases hother : other = ticket
  · rw [hother, Function.update_self]
    exact hcall
  · rw [Function.update_of_ne hother]
    exact Or.inl rfl

omit [Fintype Ticket] in
theorem follows_serve (event : LoginEvent Ticket) (other : Ticket) :
    Follows (state.calls other)
      ((state.serve config requests watched event).calls other) := by
  cases event with
  | elapse duration =>
      rw [LoginState.serve, LoginState.elapse, LoginState.restart_calls]
      exact Or.inl rfl
  | cleanup cutoff =>
      rw [LoginState.serve, LoginState.cleanup]
      split
      · rw [LoginState.restart_calls]
        exact Or.inl rfl
      · exact Or.inl rfl
  | abandon ticket => exact follows_update (Or.inr (Or.inl rfl)) other
  | check ticket =>
      rw [LoginState.serve, LoginState.check]
      split
      · rename_i hwaiting
        split
        · apply follows_update
          rw [hwaiting]
          exact Or.inr (Or.inr ⟨rfl, by simp⟩)
        · apply follows_update
          rw [hwaiting]
          exact Or.inr (Or.inr ⟨rfl, by simp⟩)
      · exact Or.inl rfl
  | compare ticket matched =>
      rw [LoginState.serve, LoginState.compare]
      split
      · rename_i beganAt hchecked
        apply follows_update
        rw [hchecked]
        exact Or.inr (Or.inr ⟨rfl, by split <;> simp⟩)
      · exact Or.inl rfl
  | advance ticket =>
      rw [LoginState.serve, LoginState.advance]
      split
      · rename_i beganAt hfailed
        rw [LoginState.setCall_calls, LoginState.setRow_calls]
        apply follows_update
        rw [hfailed]
        exact Or.inr (Or.inr ⟨rfl, by simp⟩)
      · rename_i hcounting
        apply follows_update
        rw [hcounting]
        exact Or.inr (Or.inr ⟨rfl, by simp⟩)
      · rename_i startedAt hrecording
        rw [LoginState.restart_calls, LoginState.setCall_calls, LoginState.setRow_calls]
        apply follows_update
        rw [hrecording]
        exact Or.inr (Or.inr ⟨rfl, by simp⟩)
      · rename_i hsucceeded
        rw [LoginState.setCall_calls, LoginState.setRow_calls]
        apply follows_update
        rw [hsucceeded]
        exact Or.inr (Or.inr ⟨rfl, by simp⟩)
      · rename_i hcleared
        rw [LoginState.restart_calls, LoginState.setCall_calls, LoginState.setRow_calls]
        apply follows_update
        rw [hcleared]
        exact Or.inr (Or.inr ⟨rfl, by simp⟩)
      · exact Or.inl rfl

omit [Fintype Ticket] in
/-- A password is compared only for a request that has passed the check. -/
theorem compared_serve {event : LoginEvent Ticket} {matched : Bool}
    (hcompared : (ticket, matched) ∈ (state.serve config requests watched event).compared) :
    (ticket, matched) ∈ state.compared ∨
      ∃ beganAt, state.calls ticket = .checked beganAt := by
  cases event with
  | elapse duration =>
      rw [LoginState.serve, LoginState.elapse, LoginState.restart_compared] at hcompared
      exact Or.inl hcompared
  | cleanup cutoff =>
      rw [LoginState.serve, LoginState.cleanup] at hcompared
      split at hcompared
      · rw [LoginState.restart_compared] at hcompared
        exact Or.inl hcompared
      · exact Or.inl hcompared
  | abandon other => exact Or.inl hcompared
  | check other =>
      rw [LoginState.serve, LoginState.check] at hcompared
      split at hcompared
      · split at hcompared <;> exact Or.inl hcompared
      · exact Or.inl hcompared
  | compare other result =>
      rw [LoginState.serve, LoginState.compare] at hcompared
      split at hcompared
      · rename_i beganAt hchecked
        cases List.mem_append.mp hcompared with
        | inl hold => exact Or.inl hold
        | inr hnew =>
            cases List.mem_singleton.mp hnew
            exact Or.inr ⟨beganAt, hchecked⟩
      · exact Or.inl hcompared
  | advance other =>
      rw [LoginState.serve, LoginState.advance] at hcompared
      split at hcompared
      · rw [LoginState.setCall_compared, LoginState.setRow_compared] at hcompared
        exact Or.inl hcompared
      · rw [LoginState.setCall_compared] at hcompared
        exact Or.inl hcompared
      · rw [LoginState.restart_compared, LoginState.setCall_compared,
          LoginState.setRow_compared] at hcompared
        exact Or.inl hcompared
      · rw [LoginState.setCall_compared, LoginState.setRow_compared] at hcompared
        exact Or.inl hcompared
      · rw [LoginState.restart_compared, LoginState.setCall_compared,
          LoginState.setRow_compared] at hcompared
        exact Or.inl hcompared
      · exact Or.inl hcompared

omit [Fintype Ticket] in
/-- Before the check no password of a request is compared. -/
theorem neverCompared_run (events : List (LoginEvent Ticket))
    (rows : String → Option AttemptRow) (now : ℕ) (ticket : Ticket)
    (hwaiting : (run (LoginState.serve config requests watched) (openLogins rows now)
      events).calls ticket = .waiting) :
    NeverCompared (run (LoginState.serve config requests watched) (openLogins rows now)
      events) ticket := by
  have hstep : ∀ (state : LoginState Ticket) event,
      (state.calls ticket = .waiting → NeverCompared state ticket) → True →
        (state.serve config requests watched event).calls ticket = .waiting →
          NeverCompared (state.serve config requests watched event) ticket := by
    intro state event hbefore _ hafter matched hcompared
    have hstill : state.calls ticket = .waiting := by
      have hfollows : Follows (state.calls ticket)
          ((state.serve config requests watched event).calls ticket) :=
        follows_serve event ticket
      cases hfollows with
      | inl hsame => rw [← hsame, hafter]
      | inr hmoved =>
          cases hmoved with
          | inl hlost =>
              rw [hafter] at hlost
              cases hlost
          | inr hpast => exact absurd hafter hpast.2
    cases compared_serve hcompared with
    | inl hold => exact hbefore hstill matched hold
    | inr hchecked =>
        obtain ⟨beganAt, hchecked⟩ := hchecked
        rw [hstill] at hchecked
        cases hchecked
  have hopen : (openLogins rows now : LoginState Ticket).calls ticket = .waiting →
      NeverCompared (openLogins rows now) ticket := by
    intro _ matched hcompared
    cases hcompared
  exact run_invariant hstep hopen (along_forall (fun _ _ => trivial) _ events) hwaiting

omit [Fintype Ticket] in
/-- A request that was turned away never has its password compared. -/
theorem turnedAway_run (events : List (LoginEvent Ticket))
    (haway : (state.calls ticket).turnedAway = true) (hnever : NeverCompared state ticket) :
    NeverCompared (run (LoginState.serve config requests watched) state events) ticket := by
  have hstep : ∀ (state : LoginState Ticket) event,
      (state.calls ticket).turnedAway = true ∧ NeverCompared state ticket → True →
        ((state.serve config requests watched event).calls ticket).turnedAway = true ∧
          NeverCompared (state.serve config requests watched event) ticket := by
    rintro state event ⟨haway, hnever⟩ _
    constructor
    · have hfollows : Follows (state.calls ticket)
          ((state.serve config requests watched event).calls ticket) :=
        follows_serve event ticket
      cases hfollows with
      | inl hsame => rw [hsame, haway]
      | inr hmoved =>
          cases hmoved with
          | inl hlost =>
              rw [hlost]
              rfl
          | inr hpast =>
              rw [haway] at hpast
              cases hpast.1
    · intro matched hcompared
      cases compared_serve hcompared with
      | inl hold => exact hnever matched hold
      | inr hchecked =>
          obtain ⟨beganAt, hchecked⟩ := hchecked
          rw [hchecked] at haway
          cases haway
  have hboth := run_invariant hstep (And.intro haway hnever)
    (along_forall (fun _ _ => trivial) _ events)
  exact hboth.2

end Steps

/-! ## Every run -/

section Runs

variable {Ticket : Type*} [DecidableEq Ticket] [Fintype Ticket]

omit [DecidableEq Ticket] in
theorem countCalls_open (config : LoginConfig) (requests : Ticket → LoginRequest)
    (watched : LoginRequest) {test : LoginCall → Bool} (htest : test .waiting = false)
    (rows : String → Option AttemptRow) (now : ℕ) :
    countCalls config requests watched test (openLogins rows now) = 0 := by
  apply Finset.sum_eq_zero
  intro ticket _
  change pairWeight config requests watched test ticket .waiting = 0
  rw [pairWeight, htest]
  split <;> rfl

omit [DecidableEq Ticket] in
theorem bounded_open {config : LoginConfig} {requests : Ticket → LoginRequest}
    {watched : LoginRequest} {rows : String → Option AttemptRow} {now : ℕ}
    (hcounter : attemptsOf
      ((openLogins rows now : LoginState Ticket).watchedRow config watched) = 0) :
    Bounded config requests watched (openLogins rows now) where
  room := by
    rw [hcounter, countCalls_open config requests watched rfl]
    exact Nat.zero_le _
  failures := Nat.zero_le _
  locked := fun _ => ⟨hcounter, countCalls_open config requests watched rfl rows now⟩
  counted := fun _ => Nat.zero_le _

/-- In every run no password is compared of a request that finds a lock in force, and no
statement of another pair touches the counter or the lock.  Where every request that
passes the check leaves room, no more than the maximum fail between two of the events
that start the counter again. -/
theorem login_attempts_bounded (config : LoginConfig) (requests : Ticket → LoginRequest)
    (watched : LoginRequest) (rows : String → Option AttemptRow) (now : ℕ)
    (events : List (LoginEvent Ticket)) (hapart : HashApart config requests watched)
    (hcounter : attemptsOf
      ((openLogins rows now : LoginState Ticket).watchedRow config watched) = 0) :
    let serve := LoginState.serve config requests watched
    let opening : LoginState Ticket := openLogins rows now
    (∀ before later ticket, events = before ++ .check ticket :: later →
      (run serve opening before).calls ticket = .waiting →
        inForce ((run serve opening before).row config
          ((requests ticket).lockKey config)) (run serve opening before).now = true →
            NeverCompared (run serve opening events) ticket) ∧
    (∀ (state : LoginState Ticket) event ticket, event.ticket = some ticket →
      ¬ SamePair config (requests ticket) watched →
        (serve state event).watchedRow config watched = state.watchedRow config watched) ∧
    (Along serve (LeavesRoom config requests watched) opening events →
      (run serve opening events).failures ≤ config.maxLoginAttempts) := by
  intro serve opening
  refine ⟨?_, ?_, ?_⟩
  · intro before later ticket hevents hwaiting hlocked
    rw [hevents, run_append, run, List.foldl_cons, ← run]
    have hnever := neverCompared_run before rows now ticket hwaiting
    have hrefused : serve (run serve opening before) (.check ticket) =
        (run serve opening before).setCall ticket .refused := by
      change LoginState.check config requests (run serve opening before) ticket = _
      rw [LoginState.check, hwaiting]
      exact if_pos hlocked
    rw [hrefused]
    apply turnedAway_run
    · rw [LoginState.setCall_calls, Function.update_self]
      rfl
    · exact hnever
  · intro state event ticket hticket hother
    exact watchedRow_serve_of_other hapart hticket hother
  · intro hroom
    have hopen : Bounded config requests watched opening := bounded_open hcounter
    have hstep : ∀ state event, Bounded config requests watched state →
        LeavesRoom config requests watched state event →
          Bounded config requests watched (serve state event) :=
      fun state event hbounded hleaves => hbounded.serve hapart event hleaves
    exact (run_invariant hstep hopen hroom).failures

end Runs

namespace SixLogins

def config : LoginConfig where
  maxLoginAttempts := 5
  lockout := 15 * 60 * 1000000
  sha256 := fun key => String.ofList (key.toList.filter fun char => char ≠ ':')
  chars := CharClasses.ascii

def request : LoginRequest where
  clientIp := "10.0.0.1"
  username := "bo"
  clientIp_bar := by decide

/-- Six logins with the wrong password. -/
def requests : Fin 6 → LoginRequest := fun _ => request

/-- A login on its own. -/
def login (ticket : Fin 6) : List (LoginEvent (Fin 6)) :=
  [.check ticket, .compare ticket false, .advance ticket, .advance ticket, .advance ticket]

def opening : LoginState (Fin 6) := openLogins (fun _ => none) 1000000

/-- One after the other. -/
def inTurn : List (LoginEvent (Fin 6)) :=
  login 0 ++ login 1 ++ login 2 ++ login 3 ++ login 4 ++ login 5

/-- All six pass the check before any of them is compared. -/
def together : List (LoginEvent (Fin 6)) :=
  (List.finRange 6).map LoginEvent.check ++ (List.finRange 6).map (LoginEvent.compare · false)

theorem hashApart : HashApart config requests request where
  digest := by
    intro text hcolon
    rw [config, String.toList_ofList] at hcolon
    exact absurd (List.of_mem_filter hcolon) (by decide)
  apart := by
    intro ticket
    change ∀ key ∈ [request.userKey config, request.lockKey config],
      config.sha256 key = config.sha256 (request.lockKey config) → key = request.lockKey config
    decide +kernel

end SixLogins

theorem login_attempts_bounded_in_turn :
    let final := run (LoginState.serve SixLogins.config SixLogins.requests SixLogins.request)
      SixLogins.opening SixLogins.inTurn
    final.compared = [(0, false), (1, false), (2, false), (3, false), (4, false)] ∧
      NeverCompared final 5 ∧ final.failures ≤ 5 := by
  have hroom : Along (LoginState.serve SixLogins.config SixLogins.requests SixLogins.request)
      (LeavesRoom SixLogins.config SixLogins.requests SixLogins.request)
      SixLogins.opening SixLogins.inTurn := by
    decide +kernel
  have hbounded := login_attempts_bounded SixLogins.config SixLogins.requests
    SixLogins.request (fun _ => none) 1000000 SixLogins.inTurn SixLogins.hashApart rfl
  have hrefused := hbounded.1 (SixLogins.login 0 ++ SixLogins.login 1 ++ SixLogins.login 2 ++
    SixLogins.login 3 ++ SixLogins.login 4)
    [.compare 5 false, .advance 5, .advance 5, .advance 5] 5 rfl
    (by decide +kernel) (by decide +kernel)
  exact ⟨by decide +kernel, hrefused, hbounded.2.2 hroom⟩

/-- All six requests are checked before the first failure is counted, and all six are
compared and fail. -/
theorem sixth_login_compared :
    let final := run (LoginState.serve SixLogins.config SixLogins.requests SixLogins.request)
      SixLogins.opening SixLogins.together
    final.failures = 6 ∧ SixLogins.config.maxLoginAttempts = 5 := by
  decide +kernel

end SentryWms.Auth
