import SentryWms.Auth.AdminUsers

/-!
# What a password change ends

A token carries the second it was issued in, and a request is refused where that second
is before the one of the last password change.  The change is dated when its transaction
begins, and a login or a refresh is authorised some time before its token is issued.
Where no token is issued on an older authorisation, and none that is still valid was
issued in the second of the change or later, no session outlives a change.
-/

namespace SentryWms.Auth

open Relational

/-! ## Tokens -/

/-- Times are in microseconds, those in a token in seconds. -/
def second : ℕ := 1000000

/-- `TOKEN_EXPIRY_HOURS`, in seconds. -/
def tokenExpiry : ℕ := 8 * 3600

/-- The times of a token. -/
structure SessionPayload where
  iat : ℕ
  exp : ℕ
  deriving DecidableEq, Repr

def generateToken (now : ℕ) : SessionPayload where
  iat := now / second
  exp := now / second + tokenExpiry

/-- The token is not expired, nor from the future. -/
def decodeToken (now : ℕ) (payload : SessionPayload) : Bool :=
  now < payload.exp * second && payload.iat * second ≤ now

/-- The columns of the user that a session depends on. -/
structure SessionUser where
  passwordHash : String
  isActive : Bool
  passwordChangedAt : Option ℕ
  mustChangePassword : Bool
  deriving DecidableEq, Repr

/-- `FORCED_CHANGE_ALLOWED_ENDPOINTS`. -/
def forcedChangeAllowedEndpoints : List String := ["auth.change_password", "auth.logout", "auth.me"]

inductive AuthError
  | tokenExpired
  | unauthorized
  | invalidatedByPasswordChange
  | passwordChangeRequired
  deriving DecidableEq, Repr

/-- `payload["iat"] < changed_ts`. -/
def SessionUser.changedSince (user : SessionUser) (payload : SessionPayload) : Bool :=
  user.passwordChangedAt.any fun changedAt => payload.iat ≠ 0 && payload.iat < changedAt / second

/-- `require_auth`, with a token of this user; `none` where the request is admitted. -/
def requireAuth (user : SessionUser) (now : ℕ) (endpoint : String)
    (payload : SessionPayload) : Option AuthError :=
  if !decodeToken now payload then
    some .tokenExpired
  else if !user.isActive then
    some .unauthorized
  else if user.changedSince payload then
    some .invalidatedByPasswordChange
  else if user.mustChangePassword && endpoint ∉ forcedChangeAllowedEndpoints then
    some .passwordChangeRequired
  else
    none

/-! ## Calls -/

/-- A token that has been issued, and how many password changes had been committed when
the login its refreshes go back to was authorised. -/
structure SessionToken where
  payload : SessionPayload
  since : ℕ
  deriving DecidableEq, Repr

/-- Where a request of the user, or a reset of its password, is; `authorisedAt` is how
many password changes had been committed when the login or the refresh was authorised. -/
inductive AuthCall
  | idle
  /-- `authenticate_user` has read the user and compared the password. -/
  | authenticated (authorisedAt : ℕ)
  /-- It has committed `last_login`. -/
  | loggedIn (authorisedAt : ℕ)
  /-- `require_auth` has admitted a refresh. -/
  | refreshing (since authorisedAt : ℕ)
  | revalidated (since authorisedAt : ℕ)
  /-- `require_auth` has admitted a change, and its new password is valid. -/
  | changing (currentPassword newHash : String)
  /-- The transaction of a change is open since `startedAt`. -/
  | writing (startedAt : ℕ) (newHash : String) (byUser : Bool)
  | written (startedAt : ℕ) (newHash : String) (byUser : Bool)
  deriving DecidableEq, Repr

variable {Ticket : Type*}

/-- The clock, the row of the user, who has it locked, how many changes have been
committed, and the tokens issued so far. -/
structure AuthState (Ticket : Type*) where
  now : ℕ
  user : SessionUser
  rowLock : Option Ticket
  changes : ℕ
  tokens : List SessionToken
  calls : Ticket → AuthCall

inductive AuthEvent (Ticket : Type*)
  | elapse (duration : ℕ)
  | login (ticket : Ticket) (password : String)
  | refresh (ticket : Ticket) (token : ℕ)
  | changePassword (ticket : Ticket) (token : ℕ)
      (currentPassword newPassword newHash : String)
  | resetPassword (ticket : Ticket) (newPassword newHash : String)
  | advance (ticket : Ticket)
  | abandon (ticket : Ticket)
  deriving DecidableEq, Repr

def openAuth (user : SessionUser) (now : ℕ) : AuthState Ticket where
  now := now
  user := user
  rowLock := none
  changes := 0
  tokens := []
  calls := fun _ => .idle

variable [DecidableEq Ticket]

namespace AuthState

def setCall (state : AuthState Ticket) (ticket : Ticket) (call : AuthCall) : AuthState Ticket :=
  { state with calls := Function.update state.calls ticket call }

/-- `generate_token`. -/
def mint (state : AuthState Ticket) (ticket : Ticket) (since : ℕ) : AuthState Ticket :=
  { state.setCall ticket .idle with
    tokens := state.tokens ++ [⟨generateToken state.now, since⟩] }

/-- A change is committed; the user's own also clears the flag. -/
def commitChange (state : AuthState Ticket) (ticket : Ticket) (startedAt : ℕ)
    (newHash : String) (byUser : Bool) : AuthState Ticket :=
  { state.setCall ticket .idle with
    user :=
      { state.user with
        passwordHash := newHash
        passwordChangedAt := some startedAt
        mustChangePassword := !byUser && state.user.mustChangePassword }
    rowLock := none
    changes := state.changes + 1 }

/-- The next statement of a request. -/
def advance (checkpw : String → String → Bool) (state : AuthState Ticket)
    (ticket : Ticket) : AuthState Ticket :=
  match state.calls ticket with
  | .idle => state
  | .authenticated authorisedAt =>
      if state.rowLock.isSome then state else state.setCall ticket (.loggedIn authorisedAt)
  | .loggedIn authorisedAt => state.mint ticket authorisedAt
  | .refreshing since authorisedAt =>
      if state.user.isActive then state.setCall ticket (.revalidated since authorisedAt)
      else state.setCall ticket .idle
  | .revalidated since _ => state.mint ticket since
  | .changing currentPassword newHash =>
      if checkpw currentPassword state.user.passwordHash then
        state.setCall ticket (.writing state.now newHash true)
      else state.setCall ticket .idle
  | .writing startedAt newHash byUser =>
      if state.rowLock.isSome then state
      else
        { state.setCall ticket (.written startedAt newHash byUser) with
          rowLock := some ticket }
  | .written startedAt newHash byUser => state.commitChange ticket startedAt newHash byUser

/-- A request that begins; one at a time for each ticket. -/
def begin (state : AuthState Ticket) (ticket : Ticket) (call : AuthCall) : AuthState Ticket :=
  if state.calls ticket = .idle then state.setCall ticket call else state

/-- The connection of a request is lost, and its transaction with it. -/
def abandon (state : AuthState Ticket) (ticket : Ticket) : AuthState Ticket :=
  { state.setCall ticket .idle with
    rowLock := state.rowLock.filter fun holder => holder ≠ ticket }

/-- The token is one that has been issued, and `require_auth` admits it. -/
def presented (state : AuthState Ticket) (endpoint : String) (token : ℕ) : Option SessionToken :=
  state.tokens[token]?.filter fun issued =>
    requireAuth state.user state.now endpoint issued.payload = none

variable (chars : CharClasses) (checkpw : String → String → Bool)

def serve (state : AuthState Ticket) : AuthEvent Ticket → AuthState Ticket
  | .elapse duration => { state with now := state.now + duration }
  | .login ticket password =>
      if state.user.isActive && checkpw password state.user.passwordHash then
        state.begin ticket (.authenticated state.changes)
      else state
  | .refresh ticket token =>
      match state.presented "auth.refresh" token with
      | some issued => state.begin ticket (.refreshing issued.since state.changes)
      | none => state
  | .changePassword ticket token currentPassword newPassword newHash =>
      match state.presented "auth.change_password" token with
      | some _ =>
          if (validatePassword chars newPassword).isNone then
            state.begin ticket (.changing currentPassword newHash)
          else state
      | none => state
  | .resetPassword ticket newPassword newHash =>
      if (validatePassword chars newPassword).isNone then
        state.begin ticket (.writing state.now newHash false)
      else state
  | .advance ticket => state.advance checkpw ticket
  | .abandon ticket => state.abandon ticket

end AuthState

/-! ## What is known of a state -/

/-- What a request holds on to, as of a state. -/
def AuthCall.Fits (state : AuthState Ticket) : AuthCall → Prop
  | .idle | .changing _ _ => True
  | .authenticated authorisedAt | .loggedIn authorisedAt => authorisedAt ≤ state.changes
  | .refreshing since authorisedAt | .revalidated since authorisedAt =>
      since ≤ authorisedAt ∧ authorisedAt ≤ state.changes
  | .writing startedAt _ _ | .written startedAt _ _ => startedAt ≤ state.now

/-- Times are in the past, and a token issued since the last change is not older. -/
structure AuthSound (state : AuthState Ticket) : Prop where
  clock : second ≤ state.now
  changed : ∀ changedAt, state.user.passwordChangedAt = some changedAt → changedAt ≤ state.now
  calls : ∀ ticket, (state.calls ticket).Fits state
  issued : ∀ issued ∈ state.tokens, issued.since ≤ state.changes
  dated : ∀ issued ∈ state.tokens, 0 < issued.payload.iat
  past : ∀ issued ∈ state.tokens, issued.payload.iat * second ≤ state.now
  current : ∀ issued ∈ state.tokens, issued.since = state.changes →
    state.user.changedSince issued.payload = false

/-- No token is issued on an authorisation from before a change, and a change is dated
after the second of every token that is still valid when it is committed. -/
def InOrder (state : AuthState Ticket) : AuthEvent Ticket → Prop
  | .advance ticket =>
      match state.calls ticket with
      | .loggedIn authorisedAt => authorisedAt = state.changes
      | .revalidated _ authorisedAt => authorisedAt = state.changes
      | .written startedAt _ _ =>
          ∀ issued ∈ state.tokens, decodeToken state.now issued.payload = true →
            issued.payload.iat < startedAt / second
      | _ => True
  | _ => True

instance (state : AuthState Ticket) (event : AuthEvent Ticket) :
    Decidable (InOrder state event) := by
  unfold InOrder
  split
  · split <;> infer_instance
  · infer_instance

variable {call : AuthCall} {endpoint : String} {issued : SessionToken}

section Steps

variable {chars : CharClasses} {checkpw : String → String → Bool} {state after : AuthState Ticket}

/-- The root of the refreshes a request belongs to, and when it was authorised. -/
def AuthCall.refreshOf : AuthCall → Option (ℕ × ℕ)
  | .refreshing since authorisedAt | .revalidated since authorisedAt =>
      some (since, authorisedAt)
  | _ => none

/-- What an event does: time passes, a request gets on, a token is issued, or a change is
committed. -/
inductive AuthMove (state : AuthState Ticket) (ordered : Prop) : AuthState Ticket → Prop
  | stay : AuthMove state ordered state
  | elapse (duration : ℕ) : AuthMove state ordered { state with now := state.now + duration }
  | call (ticket : Ticket) (call : AuthCall) (rowLock : Option Ticket)
      (hfits : (state.calls ticket).Fits state → call.Fits state)
      (hrefresh : call.refreshOf = (state.calls ticket).refreshOf ∨ call.refreshOf = none) :
      AuthMove state ordered { state.setCall ticket call with rowLock := rowLock }
  | refresh (ticket : Ticket) (endpoint : String) (issued : SessionToken)
      (hissued : issued ∈ state.tokens)
      (hadmitted : requireAuth state.user state.now endpoint issued.payload = none) :
      AuthMove state ordered (state.setCall ticket (.refreshing issued.since state.changes))
  | login (ticket : Ticket) (authorisedAt : ℕ)
      (hcall : state.calls ticket = .loggedIn authorisedAt)
      (hordered : ordered → authorisedAt = state.changes) :
      AuthMove state ordered (state.mint ticket authorisedAt)
  | renew (ticket : Ticket) (since authorisedAt : ℕ)
      (hcall : state.calls ticket = .revalidated since authorisedAt)
      (hordered : ordered → authorisedAt = state.changes) :
      AuthMove state ordered (state.mint ticket since)
  | commit (ticket : Ticket) (startedAt : ℕ) (newHash : String) (byUser : Bool)
      (hcall : state.calls ticket = .written startedAt newHash byUser)
      (hordered : ordered → ∀ issued ∈ state.tokens,
        decodeToken state.now issued.payload = true → issued.payload.iat < startedAt / second) :
      AuthMove state ordered (state.commitChange ticket startedAt newHash byUser)

theorem advance_move (state : AuthState Ticket) (ticket : Ticket) :
    AuthMove state (InOrder state (.advance ticket)) (state.advance checkpw ticket) := by
  unfold AuthState.advance
  split
  · exact .stay
  · rename_i authorisedAt hcall
    split
    · exact .stay
    · apply AuthMove.call ticket _ state.rowLock
      · rw [hcall]
        exact id
      · exact Or.inr rfl
  · rename_i authorisedAt hcall
    apply AuthMove.login ticket authorisedAt hcall
    intro hordered
    simpa only [InOrder, hcall] using hordered
  · rename_i since authorisedAt hcall
    split
    · apply AuthMove.call ticket _ state.rowLock
      · rw [hcall]
        exact id
      · rw [hcall]
        exact Or.inl rfl
    · exact .call ticket .idle state.rowLock (fun _ => trivial) (Or.inr rfl)
  · rename_i since authorisedAt hcall
    apply AuthMove.renew ticket since authorisedAt hcall
    intro hordered
    simpa only [InOrder, hcall] using hordered
  · split
    · exact .call ticket _ state.rowLock (fun _ => le_refl _) (Or.inr rfl)
    · exact .call ticket .idle state.rowLock (fun _ => trivial) (Or.inr rfl)
  · rename_i startedAt newHash byUser hcall
    split
    · exact .stay
    · apply AuthMove.call ticket _ (some ticket)
      · rw [hcall]
        exact id
      · exact Or.inr rfl
  · rename_i startedAt newHash byUser hcall
    apply AuthMove.commit ticket startedAt newHash byUser hcall
    intro hordered
    simpa only [InOrder, hcall] using hordered

theorem begin_move {ordered : Prop} {ticket : Ticket} (hfits : call.Fits state)
    (hrefresh : call.refreshOf = none) :
    AuthMove state ordered (state.begin ticket call) := by
  unfold AuthState.begin
  split
  · exact .call ticket call state.rowLock (fun _ => hfits) (Or.inr hrefresh)
  · exact .stay

omit [DecidableEq Ticket] in
theorem presented_spec {token : ℕ} (hpresented : state.presented endpoint token = some issued) :
    issued ∈ state.tokens ∧
      requireAuth state.user state.now endpoint issued.payload = none := by
  obtain ⟨hissued, hadmitted⟩ := Option.filter_eq_some_iff.mp hpresented
  exact ⟨List.mem_of_getElem? hissued, of_decide_eq_true hadmitted⟩

theorem serve_move (state : AuthState Ticket) (event : AuthEvent Ticket) :
    AuthMove state (InOrder state event) (state.serve chars checkpw event) := by
  cases event with
  | elapse duration => exact .elapse duration
  | login | resetPassword =>
      rw [AuthState.serve]
      split
      · exact begin_move (le_refl _) rfl
      · exact .stay
  | refresh ticket token =>
      rw [AuthState.serve]
      split
      · rename_i issued hpresented
        obtain ⟨hissued, hadmitted⟩ := presented_spec hpresented
        unfold AuthState.begin
        split
        · exact .refresh ticket _ issued hissued hadmitted
        · exact .stay
      · exact .stay
  | changePassword ticket token currentPassword newPassword newHash =>
      rw [AuthState.serve]
      split
      · split
        · exact begin_move trivial rfl
        · exact .stay
      · exact .stay
  | advance ticket => exact advance_move state ticket
  | abandon ticket =>
      exact .call ticket .idle _ (fun _ => trivial) (Or.inr rfl)

theorem AuthMove.isActive {ordered : Prop} (hmove : AuthMove state ordered after) :
    after.user.isActive = state.user.isActive := by
  cases hmove <;> rfl

/-! ## In every run -/

omit [DecidableEq Ticket] in
theorem AuthCall.Fits.mono (hfits : call.Fits state)
    (hchanges : state.changes ≤ after.changes) (hnow : state.now ≤ after.now) :
    call.Fits after := by
  cases call with
  | idle | changing => trivial
  | authenticated | loggedIn | writing | written => exact le_trans hfits ‹_›
  | refreshing | revalidated => exact ⟨hfits.1, hfits.2.trans hchanges⟩

/-- What a token issued now is dated is not before a change in the past. -/
theorem changedSince_generateToken {user : SessionUser} {now : ℕ}
    (hchanged : ∀ changedAt, user.passwordChangedAt = some changedAt → changedAt ≤ now) :
    user.changedSince (generateToken now) = false := by
  unfold SessionUser.changedSince
  cases hat : user.passwordChangedAt with
  | none => rfl
  | some changedAt =>
      have hle : changedAt / second ≤ now / second := Nat.div_le_div_right (hchanged changedAt hat)
      have hnot : ¬ (generateToken now).iat < changedAt / second := not_lt.mpr hle
      simp [hnot]

theorem fits_setCall (hcalls : ∀ ticket, (state.calls ticket).Fits state) (call : AuthCall)
    (hfits : call.Fits state) (ticket other : Ticket) :
    ((state.setCall ticket call).calls other).Fits state := by
  change (Function.update state.calls ticket call other).Fits state
  by_cases hother : other = ticket
  · rw [hother, Function.update_self]
    exact hfits
  · rw [Function.update_of_ne hother]
    exact hcalls other

/-- What is issued joins the tokens as one of the present. -/
theorem AuthSound.mint (hsound : AuthSound state) (ticket : Ticket) {since : ℕ}
    (hsince : since ≤ state.changes) : AuthSound (state.mint ticket since) := by
  have hmem : ∀ issued, issued ∈ (state.mint ticket since).tokens →
      issued ∈ state.tokens ∨ issued = ⟨generateToken state.now, since⟩ := by
    intro issued hissued
    exact (List.mem_append.mp hissued).imp_right List.mem_singleton.mp
  refine
    { clock := hsound.clock
      changed := hsound.changed
      calls := fun other => (fits_setCall hsound.calls .idle trivial ticket
        other).mono (le_refl _) (le_refl _)
      issued := ?_
      dated := ?_
      past := ?_
      current := ?_ }
  · intro issued hissued
    cases hmem issued hissued with
    | inl hold => exact hsound.issued issued hold
    | inr hnew =>
        rw [hnew]
        exact hsince
  · intro issued hissued
    cases hmem issued hissued with
    | inl hold => exact hsound.dated issued hold
    | inr hnew =>
        rw [hnew]
        exact Nat.div_pos hsound.clock (by decide)
  · intro issued hissued
    cases hmem issued hissued with
    | inl hold => exact hsound.past issued hold
    | inr hnew =>
        rw [hnew]
        exact Nat.div_mul_le_self _ _
  · intro issued hissued hcurrent
    cases hmem issued hissued with
    | inl hold => exact hsound.current issued hold hcurrent
    | inr hnew =>
        rw [hnew]
        exact changedSince_generateToken hsound.changed

theorem AuthSound.next {ordered : Prop} (hsound : AuthSound state)
    (hmove : AuthMove state ordered after) :
    AuthSound after := by
  cases hmove with
  | stay => exact hsound
  | elapse duration =>
      have hnow : state.now ≤ state.now + duration := Nat.le_add_right _ _
      exact
        { clock := hsound.clock.trans hnow
          changed := fun changedAt hat => (hsound.changed changedAt hat).trans hnow
          calls := fun ticket => (hsound.calls ticket).mono (le_refl _) hnow
          issued := hsound.issued
          dated := hsound.dated
          past := fun issued hissued => (hsound.past issued hissued).trans hnow
          current := hsound.current }
  | call ticket call rowLock hfits hrefresh =>
      exact
        { hsound with
          calls := fun other => (fits_setCall hsound.calls call (hfits (hsound.calls ticket))
            ticket other).mono (le_refl _) (le_refl _) }
  | refresh ticket endpoint issued hissued hadmitted =>
      exact
        { hsound with
          calls := fun other => (fits_setCall hsound.calls (.refreshing issued.since state.changes)
            ⟨hsound.issued issued hissued, le_refl _⟩ ticket other).mono (le_refl _) (le_refl _) }
  | login ticket authorisedAt hcall hordered =>
      apply hsound.mint
      have hfits := hsound.calls ticket
      rw [hcall] at hfits
      exact hfits
  | renew ticket since authorisedAt hcall hordered =>
      apply hsound.mint
      have hfits := hsound.calls ticket
      rw [hcall] at hfits
      exact hfits.1.trans hfits.2
  | commit ticket startedAt newHash byUser hcall hordered =>
      have hstarted : startedAt ≤ state.now := by
        have hfits := hsound.calls ticket
        rw [hcall] at hfits
        exact hfits
      exact
        { clock := hsound.clock
          changed := by
            intro changedAt hat
            cases hat
            exact hstarted
          calls := fun other => (fits_setCall hsound.calls .idle trivial ticket
            other).mono (Nat.le_succ _) (le_refl _)
          issued := fun issued hissued => (hsound.issued issued hissued).trans (Nat.le_succ _)
          dated := hsound.dated
          past := hsound.past
          current := by
            intro issued hissued hcurrent
            have hle := hsound.issued issued hissued
            change issued.since = state.changes + 1 at hcurrent
            omega }

/-! ## In an orderly run -/

/-- The tokens that go back to before a change are not admitted, and a refresh that is
under way was authorised as long after its login as the changes tell. -/
structure Ended (state : AuthState Ticket) : Prop where
  refreshes : ∀ ticket since authorisedAt,
    (state.calls ticket).refreshOf = some (since, authorisedAt) → since = authorisedAt
  tokens : ∀ issued ∈ state.tokens, issued.since < state.changes →
    decodeToken state.now issued.payload = true → state.user.changedSince issued.payload = true

omit [DecidableEq Ticket] in
/-- An admitted token goes back to after the last change. -/
theorem Ended.since_eq (hended : Ended state) (hsound : AuthSound state)
    (hissued : issued ∈ state.tokens)
    (hadmitted : requireAuth state.user state.now endpoint issued.payload = none) :
    issued.since = state.changes := by
  by_contra hne
  have hlt : issued.since < state.changes := lt_of_le_of_ne (hsound.issued issued hissued) hne
  unfold requireAuth at hadmitted
  split at hadmitted
  · cases hadmitted
  · rename_i hdecoded
    have hchanged := hended.tokens issued hissued hlt (by simpa using hdecoded)
    rw [hchanged, if_pos rfl] at hadmitted
    split at hadmitted <;> cases hadmitted

theorem refreshes_setCall (hended : Ended state) {ticket : Ticket}
    (hcall : ∀ since authorisedAt, call.refreshOf = some (since, authorisedAt) →
      since = authorisedAt) (other : Ticket) (since authorisedAt : ℕ)
    (hother : ((state.setCall ticket call).calls other).refreshOf =
      some (since, authorisedAt)) : since = authorisedAt := by
  change (Function.update state.calls ticket call other).refreshOf = _ at hother
  by_cases hsame : other = ticket
  · rw [hsame, Function.update_self] at hother
    exact hcall since authorisedAt hother
  · rw [Function.update_of_ne hsame] at hother
    exact hended.refreshes other since authorisedAt hother

omit [DecidableEq Ticket] in
/-- A token that is valid later is valid now, if it is not from the future. -/
theorem decodeToken_earlier {payload : SessionPayload} {now later : ℕ}
    (hpast : payload.iat * second ≤ now) (hlater : now ≤ later)
    (hdecoded : decodeToken later payload = true) : decodeToken now payload = true := by
  simp only [decodeToken, Bool.and_eq_true, decide_eq_true_eq] at hdecoded ⊢
  exact ⟨hlater.trans_lt hdecoded.1, hpast⟩

theorem Ended.mint (hended : Ended state) (ticket : Ticket) :
    Ended (state.mint ticket state.changes) where
  refreshes := by
    apply refreshes_setCall hended
    intro since authorisedAt hnone
    cases hnone
  tokens := by
    intro issued hissued hlt
    cases List.mem_append.mp hissued with
    | inl hold => exact hended.tokens issued hold hlt
    | inr hnew =>
        rw [List.mem_singleton.mp hnew] at hlt
        exact absurd hlt (lt_irrefl _)

theorem Ended.next {ordered : Prop} (hended : Ended state) (hsound : AuthSound state)
    (hordered : ordered) (hmove : AuthMove state ordered after) : Ended after := by
  cases hmove with
  | stay => exact hended
  | elapse duration =>
      refine ⟨hended.refreshes, ?_⟩
      intro issued hissued hlt hdecoded
      apply hended.tokens issued hissued hlt
      exact decodeToken_earlier (hsound.past issued hissued) (Nat.le_add_right _ _) hdecoded
  | call ticket call rowLock hfits hrefresh =>
      refine ⟨?_, hended.tokens⟩
      apply refreshes_setCall hended
      intro since authorisedAt hcall
      cases hrefresh with
      | inl hsame => exact hended.refreshes ticket since authorisedAt (hsame ▸ hcall)
      | inr hnone =>
          rw [hnone] at hcall
          cases hcall
  | refresh ticket endpoint issued hissued hadmitted =>
      refine ⟨?_, hended.tokens⟩
      apply refreshes_setCall hended
      intro since authorisedAt hcall
      cases hcall
      exact hended.since_eq hsound hissued hadmitted
  | login ticket authorisedAt hcall hfresh =>
      rw [hfresh hordered]
      exact hended.mint ticket
  | renew ticket since authorisedAt hcall hfresh =>
      have hsince : since = authorisedAt := by
        apply hended.refreshes ticket
        rw [hcall]
        rfl
      rw [hsince, hfresh hordered]
      exact hended.mint ticket
  | commit ticket startedAt newHash byUser hcall hdated =>
      refine ⟨?_, ?_⟩
      · apply refreshes_setCall hended
        intro since authorisedAt hnone
        cases hnone
      · intro issued hissued _ hdecoded
        have hbefore := hdated hordered issued hissued hdecoded
        have hpos := hsound.dated issued hissued
        change (some startedAt).any _ = true
        simp only [Option.any_some, Bool.and_eq_true, decide_eq_true_eq]
        exact ⟨hpos.ne', hbefore⟩

end Steps

/-! ## Every run -/

section Runs

variable {chars : CharClasses} {checkpw : String → String → Bool} {user : SessionUser} {now : ℕ}

omit [DecidableEq Ticket] in
theorem authSound_open (hclock : second ≤ now)
    (hchanged : ∀ changedAt, user.passwordChangedAt = some changedAt → changedAt ≤ now) :
    AuthSound (openAuth user now : AuthState Ticket) where
  clock := hclock
  changed := hchanged
  calls := fun _ => trivial
  issued := by
    intro issued hissued
    cases hissued
  dated := by
    intro issued hissued
    cases hissued
  past := by
    intro issued hissued
    cases hissued
  current := by
    intro issued hissued
    cases hissued

omit [DecidableEq Ticket] in
theorem ended_open : Ended (openAuth user now : AuthState Ticket) where
  refreshes := by
    intro ticket since authorisedAt hcall
    cases hcall
  tokens := by
    intro issued hissued
    cases hissued

theorem authSound_run (events : List (AuthEvent Ticket)) (hclock : second ≤ now)
    (hchanged : ∀ changedAt, user.passwordChangedAt = some changedAt → changedAt ≤ now) :
    AuthSound (run (AuthState.serve chars checkpw) (openAuth user now) events) := by
  have hstep : ∀ (state : AuthState Ticket) event, AuthSound state → True →
      AuthSound (state.serve chars checkpw event) :=
    fun state event hsound _ => hsound.next (serve_move state event)
  exact run_invariant hstep (authSound_open hclock hchanged)
    (along_forall (fun _ _ => trivial) _ events)

/-- In order, the sessions from before a change have ended. -/
theorem ended_run {events : List (AuthEvent Ticket)} (hclock : second ≤ now)
    (hchanged : ∀ changedAt, user.passwordChangedAt = some changedAt → changedAt ≤ now)
    (hordered : Along (AuthState.serve chars checkpw) InOrder (openAuth user now) events) :
    AuthSound (run (AuthState.serve chars checkpw) (openAuth user now) events) ∧
      Ended (run (AuthState.serve chars checkpw) (openAuth user now) events) := by
  have hstep : ∀ (state : AuthState Ticket) event, AuthSound state ∧ Ended state →
      InOrder state event → AuthSound (state.serve chars checkpw event) ∧
        Ended (state.serve chars checkpw event) := by
    rintro state event ⟨hsound, hended⟩ hinOrder
    exact ⟨hsound.next (serve_move state event),
      hended.next hsound hinOrder (serve_move state event)⟩
  exact run_invariant hstep ⟨authSound_open hclock hchanged, ended_open⟩ hordered

theorem isActive_run (events : List (AuthEvent Ticket)) :
    (run (AuthState.serve chars checkpw) (openAuth user now) events).user.isActive =
      user.isActive := by
  apply run_unchanged fun state : AuthState Ticket => state.user.isActive
  intro state event
  exact (serve_move state event).isActive

/-- In every run a token that goes back to a login since the last change is admitted until
it expires; and where every event is in order, one that goes back to a login before the
last change is admitted nowhere. -/
theorem password_change_ends_sessions (chars : CharClasses)
    (checkpw : String → String → Bool) (user : SessionUser) (now : ℕ)
    (events : List (AuthEvent Ticket)) (hactive : user.isActive = true)
    (hclock : second ≤ now)
    (hchanged : ∀ changedAt, user.passwordChangedAt = some changedAt → changedAt ≤ now) :
    let final := run (AuthState.serve chars checkpw) (openAuth user now) events
    (∀ issued ∈ final.tokens, issued.since = final.changes →
      final.now < issued.payload.exp * second → ∀ endpoint,
        (final.user.mustChangePassword = true → endpoint ∈ forcedChangeAllowedEndpoints) →
          requireAuth final.user final.now endpoint issued.payload = none) ∧
    (Along (AuthState.serve chars checkpw) InOrder (openAuth user now) events →
      ∀ issued ∈ final.tokens, issued.since < final.changes → ∀ endpoint,
        requireAuth final.user final.now endpoint issued.payload ≠ none) := by
  intro final
  constructor
  · intro issued hissued hcurrent hvalid endpoint hendpoint
    have hsound : AuthSound final := authSound_run events hclock hchanged
    have hdecoded : decodeToken final.now issued.payload = true := by
      simp only [decodeToken, Bool.and_eq_true, decide_eq_true_eq]
      exact ⟨hvalid, hsound.past issued hissued⟩
    have hstays : final.user.isActive = true := (isActive_run events).trans hactive
    have hfresh := hsound.current issued hissued hcurrent
    simpa [requireAuth, hdecoded, hstays, hfresh] using hendpoint
  · intro hordered issued hissued hold endpoint hadmitted
    obtain ⟨hsound, hended⟩ := ended_run hclock hchanged hordered
    exact absurd (hended.since_eq hsound hissued hadmitted) hold.ne

end Runs

namespace OneUser

/-- A user with the password "old". -/
def user : SessionUser where
  passwordHash := "old"
  isActive := true
  passwordChangedAt := none
  mustChangePassword := false

/-- Every password is its own hash. -/
def checkpw (password passwordHash : String) : Bool := password = passwordHash

/-- The first ticket logs in at a time. -/
def login (password : String) : List (AuthEvent ℕ) := [.login 0 password, .advance 0, .advance 0]

/-- The second begins to change the password with the first token, and commits after so
many microseconds. -/
def change (duration : ℕ) : List (AuthEvent ℕ) :=
  [.changePassword 1 0 "old" "newpass12" "newpass12", .advance 1, .elapse duration,
    .advance 1, .advance 1]

/-- A login at 10.2 seconds. -/
def opening : AuthState ℕ := openAuth user 10200000

end OneUser

theorem password_change_ends_sessions_next_second :
    let events := OneUser.login "old" ++ [.elapse 1000000] ++ OneUser.change 300000 ++
      OneUser.login "newpass12"
    let final := run (AuthState.serve CharClasses.ascii OneUser.checkpw) OneUser.opening events
    final.tokens = [⟨⟨10, 28810⟩, 0⟩, ⟨⟨11, 28811⟩, 1⟩] ∧
      requireAuth final.user final.now "auth.me" ⟨10, 28810⟩ ≠ none ∧
        requireAuth final.user final.now "auth.me" ⟨11, 28811⟩ = none := by
  intro events final
  have htokens : final.tokens = [⟨⟨10, 28810⟩, 0⟩, ⟨⟨11, 28811⟩, 1⟩] := by
    decide +kernel
  have hordered : Along (AuthState.serve CharClasses.ascii OneUser.checkpw) InOrder
      OneUser.opening events := by
    decide +kernel
  obtain ⟨hcurrent, hended⟩ := password_change_ends_sessions CharClasses.ascii
    OneUser.checkpw OneUser.user 10200000 events rfl (by decide)
    (fun changedAt hat => by cases hat)
  refine ⟨htokens, ?_, ?_⟩
  · exact hended hordered ⟨⟨10, 28810⟩, 0⟩ (by decide +kernel) (by decide +kernel)
      "auth.me"
  · exact hcurrent ⟨⟨11, 28811⟩, 1⟩ (by decide +kernel) (by decide +kernel)
      (by decide +kernel) "auth.me" (fun hflag => absurd hflag (by decide +kernel))

/-- The change begins and is committed in the second the token was issued in, and the
token is admitted afterwards. -/
theorem session_outlives_change :
    let final := run (AuthState.serve CharClasses.ascii OneUser.checkpw) OneUser.opening
      (OneUser.login "old" ++ [.elapse 300000] ++ OneUser.change 300000 ++ [.elapse 5000000])
    final.changes = 1 ∧ final.tokens = [⟨⟨10, 28810⟩, 0⟩] ∧
      requireAuth final.user final.now "auth.refresh" ⟨10, 28810⟩ = none := by
  decide +kernel

end SentryWms.Auth
