import Mathlib.Data.Fintype.Basic
import SentryWms.Relational.Sessions

/-!
# The token cache of a worker

A lookup answers from the cache while its entry is young, and otherwise reads the row
without the lock and stores it under the lock.  An invalidation evicts what the cache
holds of a token at that moment.  Each read carries the number of changes that had been
committed when it was made, so it is told whether a row is older than a revocation.
-/

namespace SentryWms.Auth

open Relational Sessions

/-! ## Tokens and the cache -/

inductive TokenStatus
  | active
  | revoked
  deriving DecidableEq, Repr

/-- A row of `wms_tokens`; the scope columns pass through as they are. -/
structure TokenRow (Scope : Type*) where
  tokenId : ℕ
  tokenHash : String
  status : TokenStatus
  revokedAt : Option ℕ
  scope : Scope
  deriving DecidableEq, Repr

/-- `TTL_SECONDS`; times are in microseconds. -/
def ttl : ℕ := 60 * 1000000

/-- What `_fetch_by_hash` has read, after so many committed changes. -/
structure Reading (Scope : Type*) where
  row : Option (TokenRow Scope)
  readAt : ℕ

structure CacheEntry (Scope : Type*) where
  reading : Reading Scope
  fetchedAt : ℕ

/-- The table, the worker's monotonic clock and its cache.  Beside them, how many changes
have been committed, which one was the last of each token, and which one was the last of
each token when its eviction last ran. -/
structure CacheWorld (Scope : Type*) where
  clock : ℕ
  tokens : List (TokenRow Scope)
  cache : String → Option (CacheEntry Scope)
  commits : ℕ
  changedAt : ℕ → ℕ
  invalidated : ℕ → ℕ

/-- The row is one of the token. -/
def Reading.isOf {Scope : Type*} (tokenId : ℕ) (reading : Reading Scope) : Bool :=
  reading.row.any fun row => row.tokenId = tokenId

namespace CacheWorld

variable {Scope : Type*}

/-- A worker that has just started. -/
def start (clock : ℕ) (tokens : List (TokenRow Scope)) : CacheWorld Scope where
  clock := clock
  tokens := tokens
  cache := fun _ => none
  commits := 0
  changedAt := fun _ => 0
  invalidated := fun _ => 0

/-- `_fetch_by_hash`. -/
def fetchByHash (world : CacheWorld Scope) (tokenHash : String) : Reading Scope where
  row := world.tokens.find? fun row => row.tokenHash = tokenHash
  readAt := world.commits

/-- The entry of a hash, if it is younger than the TTL. -/
def cached (world : CacheWorld Scope) (now : ℕ) (tokenHash : String) : Option (CacheEntry Scope) :=
  (world.cache tokenHash).filter fun entry => now < entry.fetchedAt + ttl

/-- `_cache[token_hash] = (row, time.monotonic())`. -/
def store (world : CacheWorld Scope) (tokenHash : String) (reading : Reading Scope) :
    CacheWorld Scope :=
  { world with cache := Function.update world.cache tokenHash (some ⟨reading, world.clock⟩) }

/-- `_invalidate_token_id_local`. -/
def evict (world : CacheWorld Scope) (tokenId : ℕ) : CacheWorld Scope :=
  { world with
    cache := fun tokenHash =>
      (world.cache tokenHash).filter fun entry => !entry.reading.isOf tokenId
    invalidated := Function.update world.invalidated tokenId (world.changedAt tokenId) }

/-- A committed change of one token. -/
def change (world : CacheWorld Scope) (tokenId : ℕ) (tokens : List (TokenRow Scope)) :
    CacheWorld Scope :=
  { world with
    tokens := tokens
    commits := world.commits + 1
    changedAt := Function.update world.changedAt tokenId (world.commits + 1) }

def find (world : CacheWorld Scope) (tokenId : ℕ) : Option (TokenRow Scope) :=
  world.tokens.find? fun row => row.tokenId = tokenId

/-- An `UPDATE` of the row of a token. -/
def setToken (world : CacheWorld Scope) (tokenId : ℕ)
    (set : TokenRow Scope → TokenRow Scope) : CacheWorld Scope :=
  world.change tokenId
    (world.tokens.map fun row => if row.tokenId = tokenId then set row else row)

end CacheWorld

/-! ## The calls -/

/-- Lookups of the worker's threads, the changes an admin commits, the eviction of a token
on this worker, and time. -/
inductive CacheRequest
  | getByHash (tokenHash : String)
  | revokeToken (tokenId now : ℕ)
  | rotateToken (tokenId : ℕ) (newHash : String)
  | deleteToken (tokenId : ℕ)
  | invalidate (tokenId : ℕ)
  | elapse (duration : ℕ)

variable {Scope : Type*}

/-- The next statement of a call.  A lookup also keeps what had been invalidated when it
began. -/
inductive CacheMemory (Scope : Type*)
  | start
  | called (begun : ℕ → ℕ) (now : ℕ)
  | missed (begun : ℕ → ℕ)
  | fetched (begun : ℕ → ℕ) (reading : Reading Scope)

inductive CacheAnswer (Scope : Type*)
  | returned (begun : ℕ → ℕ) (reading : Reading Scope)
  | changed
  | refused
  | evicted
  | elapsed

abbrev CacheOutcome (Scope : Type*) :=
  Outcome (CacheWorld Scope) (CacheMemory Scope) (CacheAnswer Scope)

/-- `get_by_hash`: the clock, the lookup under the lock, the read without it, and the
store under the lock. -/
def getByHashStatement (tokenHash : String) :
    CacheMemory Scope → CacheWorld Scope → CacheOutcome Scope
  | .start, world => .proceed (.called world.invalidated world.clock)
  | .called begun now, world =>
      match world.cached now tokenHash with
      | some entry => .rollback (.returned begun entry.reading)
      | none => .proceed (.missed begun)
  | .missed begun, world => .proceed (.fetched begun (world.fetchByHash tokenHash))
  | .fetched begun reading, world =>
      .commit (world.store tokenHash reading) (.returned begun reading)

/-- `revoke_token`, up to its commit. -/
def revokeStatement (tokenId now : ℕ) (world : CacheWorld Scope) : CacheOutcome Scope :=
  match world.find tokenId with
  | none => .rollback .refused
  | some _ =>
      .commit (world.setToken tokenId fun row =>
        { row with status := .revoked, revokedAt := some now }) .changed

/-- `rotate_token`, up to its commit. -/
def rotateStatement (tokenId : ℕ) (newHash : String) (world : CacheWorld Scope) :
    CacheOutcome Scope :=
  match world.find tokenId with
  | none => .rollback .refused
  | some existing =>
      if existing.status = .revoked then .rollback .refused
      else
        .commit (world.setToken tokenId fun row =>
          { row with tokenHash := newHash, status := .active }) .changed

/-- `delete_token`, up to its commit. -/
def deleteStatement (tokenId : ℕ) (world : CacheWorld Scope) : CacheOutcome Scope :=
  match world.find tokenId with
  | none => .rollback .refused
  | some _ =>
      .commit (world.change tokenId
        (world.tokens.filter fun row => row.tokenId ≠ tokenId)) .changed

def cacheStatement :
    CacheRequest → CacheMemory Scope → CacheWorld Scope → CacheOutcome Scope
  | .getByHash tokenHash => getByHashStatement tokenHash
  | .revokeToken tokenId now => fun _ => revokeStatement tokenId now
  | .rotateToken tokenId newHash => fun _ => rotateStatement tokenId newHash
  | .deleteToken tokenId => fun _ => deleteStatement tokenId
  | .invalidate tokenId => fun _ world => .commit (world.evict tokenId) .evicted
  | .elapse duration => fun _ world =>
      .commit { world with clock := world.clock + duration } .elapsed

variable (Scope) in
/-- The lock of the cache is held within one statement only. -/
def cacheProgram :
    Program (CacheWorld Scope) CacheRequest (CacheMemory Scope) Empty (CacheAnswer Scope) where
  start := fun _ => .start
  holds := fun _ _ _ => false
  statement := fun request memory _ world => cacheStatement request memory world
  start_holds := fun _ _ => rfl

/-! ## What the steps keep -/

/-- No entry is older than the last change of its token that has been invalidated. -/
structure NoneStale (world : CacheWorld Scope) : Prop where
  invalidated_le : ∀ tokenId, world.invalidated tokenId ≤ world.changedAt tokenId
  changedAt_le : ∀ tokenId, world.changedAt tokenId ≤ world.commits
  cached : ∀ tokenHash entry row, world.cache tokenHash = some entry →
    entry.reading.row = some row → world.invalidated row.tokenId ≤ entry.reading.readAt

/-- What a lookup holds of a token is not older than that change either. -/
def CacheMemory.Knows (world : CacheWorld Scope) : CacheMemory Scope → Prop
  | .start => True
  | .called begun _ => ∀ tokenId, begun tokenId ≤ world.invalidated tokenId
  | .missed begun => ∀ tokenId, begun tokenId ≤ world.invalidated tokenId
  | .fetched begun reading =>
      (∀ tokenId, begun tokenId ≤ world.invalidated tokenId) ∧
        ∀ row, reading.row = some row → world.invalidated row.tokenId ≤ reading.readAt

/-- The thread holds a row of the token, read before the token's last change. -/
def holdsStale (world : CacheWorld Scope) (tokenId : ℕ) : CacheMemory Scope → Bool
  | .fetched _ reading => reading.isOf tokenId && reading.readAt < world.changedAt tokenId
  | _ => false

/-- An eviction runs while no thread stands between the read and the store of a row that
is older than the token's last change. -/
def evictsAll (world : CacheWorld Scope) (request : CacheRequest) (_ : CacheMemory Scope)
    (_ : CacheRequest) (memory' : CacheMemory Scope) : Prop :=
  match request with
  | .invalidate tokenId => holdsStale world tokenId memory' = false
  | _ => True

instance (world : CacheWorld Scope) (request : CacheRequest) (memory : CacheMemory Scope)
    (other : CacheRequest) (memory' : CacheMemory Scope) :
    Decidable (evictsAll world request memory other memory') :=
  match request with
  | .invalidate tokenId => inferInstanceAs (Decidable (holdsStale world tokenId memory' = false))
  | .getByHash _ => .isTrue trivial
  | .revokeToken _ _ => .isTrue trivial
  | .rotateToken _ _ => .isTrue trivial
  | .deleteToken _ => .isTrue trivial
  | .elapse _ => .isTrue trivial

variable {tokenId : ℕ} {request : CacheRequest}

theorem Reading.isOf_eq_true {reading : Reading Scope} {row : TokenRow Scope}
    (hrow : reading.row = some row) :
    reading.isOf tokenId = true ↔ row.tokenId = tokenId := by
  rw [isOf, hrow, Option.any_some, decide_eq_true_eq]

theorem noneStale_start (clock : ℕ) (tokens : List (TokenRow Scope)) :
    NoneStale (CacheWorld.start clock tokens) where
  invalidated_le := fun _ => le_rfl
  changedAt_le := fun _ => le_rfl
  cached := by
    intro tokenHash entry row hentry
    cases hentry

/-- A read now is not older than any change. -/
theorem NoneStale.fetch {world : CacheWorld Scope} (hnone : NoneStale world)
    (tokenHash : String) (tokenId : ℕ) :
    world.invalidated tokenId ≤ (world.fetchByHash tokenHash).readAt :=
  (hnone.invalidated_le tokenId).trans (hnone.changedAt_le tokenId)

theorem NoneStale.store {world : CacheWorld Scope} (hnone : NoneStale world)
    (tokenHash : String) {reading : Reading Scope}
    (hreading : ∀ row, reading.row = some row → world.invalidated row.tokenId ≤ reading.readAt) :
    NoneStale (world.store tokenHash reading) where
  invalidated_le := hnone.invalidated_le
  changedAt_le := hnone.changedAt_le
  cached := by
    intro hash entry row hentry hrow
    change Function.update world.cache tokenHash _ hash = some entry at hentry
    by_cases hhash : hash = tokenHash
    · subst hhash
      rw [Function.update_self] at hentry
      cases hentry
      exact hreading row hrow
    · rw [Function.update_of_ne hhash] at hentry
      exact hnone.cached hash entry row hentry hrow

theorem NoneStale.evict {world : CacheWorld Scope} (hnone : NoneStale world)
    (tokenId : ℕ) : NoneStale (world.evict tokenId) where
  invalidated_le := by
    intro other
    change Function.update world.invalidated tokenId _ other ≤ world.changedAt other
    by_cases hother : other = tokenId
    · subst hother
      rw [Function.update_self]
    · rw [Function.update_of_ne hother]
      exact hnone.invalidated_le other
  changedAt_le := hnone.changedAt_le
  cached := by
    intro hash entry row hentry hrow
    obtain ⟨hold, hkept⟩ := Option.filter_eq_some_iff.mp hentry
    change Function.update world.invalidated tokenId _ row.tokenId ≤ _
    have hother : row.tokenId ≠ tokenId := by
      intro hsame
      rw [(Reading.isOf_eq_true hrow).mpr hsame] at hkept
      cases hkept
    rw [Function.update_of_ne hother]
    exact hnone.cached hash entry row hold hrow

theorem NoneStale.change {world : CacheWorld Scope} (hnone : NoneStale world)
    (tokenId : ℕ) (tokens : List (TokenRow Scope)) :
    NoneStale (world.change tokenId tokens) where
  invalidated_le := by
    intro other
    change world.invalidated other ≤ Function.update world.changedAt tokenId _ other
    by_cases hother : other = tokenId
    · subst hother
      rw [Function.update_self]
      have hbefore := (hnone.invalidated_le other).trans (hnone.changedAt_le other)
      exact hbefore.trans (Nat.le_succ _)
    · rw [Function.update_of_ne hother]
      exact hnone.invalidated_le other
  changedAt_le := by
    intro other
    change Function.update world.changedAt tokenId _ other ≤ world.commits + 1
    by_cases hother : other = tokenId
    · subst hother
      rw [Function.update_self]
    · rw [Function.update_of_ne hother]
      exact (hnone.changedAt_le other).trans (Nat.le_succ _)
  cached := hnone.cached

/-- What a lookup knows, it knows as long as nothing is invalidated. -/
theorem CacheMemory.Knows.congr {memory : CacheMemory Scope} {world next : CacheWorld Scope}
    (hknows : memory.Knows world) (hsame : next.invalidated = world.invalidated) :
    memory.Knows next := by
  cases memory with
  | start => trivial
  | called | missed | fetched =>
      rw [Knows, hsame]
      exact hknows

/-- An eviction leaves what the other lookups know, if none of them holds a stale row. -/
theorem CacheMemory.Knows.evict {memory : CacheMemory Scope} {world : CacheWorld Scope}
    (hnone : NoneStale world) (hknows : memory.Knows world)
    (hclear : holdsStale world tokenId memory = false) :
    memory.Knows (world.evict tokenId) := by
  have hgrows : ∀ other, world.invalidated other ≤ (world.evict tokenId).invalidated other := by
    intro other
    change _ ≤ Function.update world.invalidated tokenId _ other
    by_cases hother : other = tokenId
    · subst hother
      rw [Function.update_self]
      exact hnone.invalidated_le other
    · rw [Function.update_of_ne hother]
  cases memory with
  | start => trivial
  | called | missed =>
      intro other
      exact (hknows other).trans (hgrows other)
  | fetched begun reading =>
      constructor
      · intro other
        exact (hknows.1 other).trans (hgrows other)
      · intro row hrow
        change Function.update world.invalidated tokenId _ row.tokenId ≤ _
        by_cases hsame : row.tokenId = tokenId
        · have hof : reading.isOf tokenId = true := (Reading.isOf_eq_true hrow).mpr hsame
          rw [holdsStale, hof, Bool.true_and] at hclear
          have hread : ¬ reading.readAt < world.changedAt tokenId := of_decide_eq_false hclear
          rw [hsame, Function.update_self]
          exact Nat.le_of_not_lt hread
        · rw [Function.update_of_ne hsame]
          exact hknows.2 row hrow

/-- What each call commits: a store of its reading, an eviction, a change of one token,
or time. -/
theorem cache_commit {memory : CacheMemory Scope} {world next : CacheWorld Scope}
    {answer : CacheAnswer Scope}
    (hcommit : cacheStatement request memory world = .commit next answer) :
    (∃ tokenHash begun reading, request = .getByHash tokenHash ∧
      memory = .fetched begun reading ∧ next = world.store tokenHash reading ∧
        answer = .returned begun reading) ∨
    (∃ tokenId, request = .invalidate tokenId ∧ next = world.evict tokenId ∧ answer = .evicted) ∨
    ((∀ tokenId, request ≠ .invalidate tokenId) ∧ answer = .changed ∧
      ∃ tokenId tokens, next = world.change tokenId tokens) ∨
    ((∀ tokenId, request ≠ .invalidate tokenId) ∧ answer = .elapsed ∧
      ∃ clock, next = { world with clock := clock }) := by
  cases request with
  | getByHash tokenHash =>
      left
      cases memory with
      | start | missed => cases hcommit
      | called begun now =>
          simp only [cacheStatement, getByHashStatement] at hcommit
          split at hcommit
          · cases hcommit
          · cases hcommit
      | fetched begun reading =>
          cases hcommit
          exact ⟨tokenHash, begun, reading, rfl, rfl, rfl, rfl⟩
  | invalidate tokenId =>
      right; left
      cases hcommit
      exact ⟨tokenId, rfl, rfl, rfl⟩
  | revokeToken tokenId now =>
      right; right; left
      simp only [cacheStatement, revokeStatement] at hcommit
      split at hcommit
      · cases hcommit
      · cases hcommit
        exact ⟨nofun, rfl, tokenId, _, rfl⟩
  | rotateToken tokenId newHash =>
      right; right; left
      simp only [cacheStatement, rotateStatement] at hcommit
      split at hcommit
      · cases hcommit
      · split at hcommit
        · cases hcommit
        · cases hcommit
          exact ⟨nofun, rfl, tokenId, _, rfl⟩
  | deleteToken tokenId =>
      right; right; left
      simp only [cacheStatement, deleteStatement] at hcommit
      split at hcommit
      · cases hcommit
      · cases hcommit
        exact ⟨nofun, rfl, tokenId, _, rfl⟩
  | elapse duration =>
      right; right; right
      cases hcommit
      exact ⟨nofun, rfl, _, rfl⟩

/-- A statement that leaves a lookup open leads from what it knows to what it knows. -/
theorem knows_proceed {memory next : CacheMemory Scope} {world : CacheWorld Scope}
    (hnone : NoneStale world) (hknows : memory.Knows world)
    (hproceed : cacheStatement request memory world = .proceed next) :
    next.Knows world := by
  cases request with
  | getByHash tokenHash =>
      cases memory with
      | start =>
          cases hproceed
          exact fun _ => le_rfl
      | called begun now =>
          simp only [cacheStatement, getByHashStatement] at hproceed
          split at hproceed
          · cases hproceed
          · cases hproceed
            exact hknows
      | missed begun =>
          cases hproceed
          exact ⟨hknows, fun row _ => hnone.fetch tokenHash row.tokenId⟩
      | fetched begun reading => cases hproceed
  | revokeToken tokenId now =>
      simp only [cacheStatement, revokeStatement] at hproceed
      split at hproceed <;> cases hproceed
  | rotateToken tokenId newHash =>
      simp only [cacheStatement, rotateStatement] at hproceed
      split at hproceed
      · cases hproceed
      · split at hproceed <;> cases hproceed
  | deleteToken tokenId =>
      simp only [cacheStatement, deleteStatement] at hproceed
      split at hproceed <;> cases hproceed
  | invalidate | elapse => cases hproceed

theorem cache_outline :
    Outline (cacheProgram Scope) NoneStale (fun _ memory world => memory.Knows world)
      (fun _ _ _ => True) evictsAll where
  start := fun _ _ _ => trivial
  acquires := by
    intro request memory isLocked world next hproceed lock
    cases lock
  proceeds := fun request memory isLocked world next hnone hknows hproceed =>
    knows_proceed hnone hknows hproceed
  commits := by
    intro request memory isLocked world next answer hnone hknows _ hcommit
    rcases cache_commit hcommit with
      ⟨tokenHash, begun, reading, -, rfl, rfl, -⟩ | ⟨tokenId, -, rfl, -⟩ |
        ⟨-, -, tokenId, tokens, rfl⟩ | ⟨-, -, clock, rfl⟩
    · exact hnone.store tokenHash hknows.2
    · exact hnone.evict tokenId
    · exact hnone.change tokenId tokens
    · exact ⟨hnone.invalidated_le, hnone.changedAt_le, hnone.cached⟩
  stable := by
    intro request memory isLocked world next answer other memory' hnone _ hother _ _ hclear hcommit
    rcases cache_commit hcommit with
      ⟨tokenHash, begun, reading, -, -, rfl, -⟩ | ⟨tokenId, rfl, rfl, -⟩ |
        ⟨-, -, tokenId, tokens, rfl⟩ | ⟨-, -, clock, rfl⟩
    · exact hother.congr rfl
    · exact hother.evict hnone hclear
    · exact hother.congr rfl
    · exact hother.congr rfl

/-! ## What a lookup returns -/

/-- A lookup returns no row that is older than a change of its token whose eviction had
run when the lookup began. -/
def CacheAnswer.Fresh : CacheAnswer Scope → Prop
  | .returned begun reading =>
      ∀ row, reading.row = some row → begun row.tokenId ≤ reading.readAt
  | _ => True

theorem fresh_commit {memory : CacheMemory Scope} {world next : CacheWorld Scope}
    {answer : CacheAnswer Scope} (hknows : memory.Knows world)
    (hcommit : cacheStatement request memory world = .commit next answer) :
    answer.Fresh := by
  rcases cache_commit hcommit with
    ⟨tokenHash, begun, reading, -, rfl, -, rfl⟩ | ⟨tokenId, -, -, rfl⟩ |
      ⟨-, rfl, -⟩ | ⟨-, rfl, -⟩
  · intro row hrow
    exact (hknows.1 row.tokenId).trans (hknows.2 row hrow)
  all_goals trivial

theorem fresh_rollback {memory : CacheMemory Scope} {world : CacheWorld Scope}
    {answer : CacheAnswer Scope} (hnone : NoneStale world) (hknows : memory.Knows world)
    (hrollback : cacheStatement request memory world = .rollback answer) :
    answer.Fresh := by
  cases request with
  | getByHash tokenHash =>
      cases memory with
      | called begun now =>
          simp only [cacheStatement, getByHashStatement] at hrollback
          split at hrollback
          · rename_i entry hentry
            cases hrollback
            obtain ⟨hcached, -⟩ := Option.filter_eq_some_iff.mp hentry
            intro row hrow
            exact (hknows row.tokenId).trans (hnone.cached tokenHash entry row hcached hrow)
          · cases hrollback
      | start | missed | fetched => cases hrollback
  | revokeToken tokenId now =>
      simp only [cacheStatement, revokeStatement] at hrollback
      split at hrollback
      · cases hrollback
        trivial
      · cases hrollback
  | rotateToken tokenId newHash =>
      simp only [cacheStatement, rotateStatement] at hrollback
      split at hrollback
      · cases hrollback
        trivial
      · split at hrollback
        · cases hrollback
          trivial
        · cases hrollback
  | deleteToken tokenId =>
      simp only [cacheStatement, deleteStatement] at hrollback
      split at hrollback
      · cases hrollback
        trivial
      · cases hrollback
  | invalidate | elapse => cases hrollback

variable {Ticket : Type*} [Fintype Ticket] [DecidableEq Ticket]

/-- The calls on a worker that has just started, after these statements. -/
def cacheRun (requests : Ticket → CacheRequest) (clock : ℕ)
    (tokens : List (TokenRow Scope)) (steps : List (Step Ticket)) :
    Service (CacheWorld Scope) Ticket (CacheMemory Scope) (CacheAnswer Scope) :=
  run (Sessions.serve (cacheProgram Scope) requests)
    (opened (cacheProgram Scope) requests (CacheWorld.start clock tokens)) steps

/-- Every eviction of the run meets its condition. -/
def EvictsAll (requests : Ticket → CacheRequest) (clock : ℕ)
    (tokens : List (TokenRow Scope)) (steps : List (Step Ticket)) : Prop :=
  Along (Sessions.serve (cacheProgram Scope) requests)
    (Clear (cacheProgram Scope) requests (fun _ _ _ => True) evictsAll)
    (opened (cacheProgram Scope) requests (CacheWorld.start clock tokens)) steps

instance (requests : Ticket → CacheRequest) (clock : ℕ) (tokens : List (TokenRow Scope))
    (steps : List (Step Ticket)) : Decidable (EvictsAll requests clock tokens steps) :=
  inferInstanceAs (Decidable (Along _ _ _ _))

/-- Once an eviction has run beside no thread that holds a stale row of its token, no
later lookup returns a row read before the change. -/
theorem revoked_token_stays_out (requests : Ticket → CacheRequest) (clock : ℕ)
    (tokens : List (TokenRow Scope)) (steps : List (Step Ticket))
    (hevicts : EvictsAll requests clock tokens steps) :
    Answered requests (fun _ answer => answer.Fresh)
      (cacheRun requests clock tokens steps) := by
  refine answered_run ?_ ?_ cache_outline (noneStale_start clock tokens) hevicts
  · intro request memory isLocked world next answer _ hknows hcommit
    exact fresh_commit hknows hcommit
  · intro request memory isLocked world answer hnone hknows hrollback
    exact fresh_rollback hnone hknows hrollback

/-- A lookup, the revocation of its token, the eviction, and a later lookup. -/
def revokedCalls : Fin 4 → CacheRequest
  | 0 => .getByHash "c0ffee"
  | 1 => .revokeToken 7 100
  | 2 => .invalidate 7
  | 3 => .getByHash "c0ffee"

def activeToken : TokenRow Unit := ⟨7, "c0ffee", .active, none, ()⟩

/-- The first lookup has stored its row before the eviction. -/
theorem revoked_token_stays_out_in_turn :
    Answered revokedCalls (fun _ answer => answer.Fresh)
      (cacheRun revokedCalls 0 [activeToken]
        [.advance 0, .advance 0, .advance 0, .advance 0, .advance 1, .advance 2, .advance 3,
          .advance 3, .advance 3, .advance 3]) :=
  revoked_token_stays_out revokedCalls 0 [activeToken] _ (by decide)

/-- The first lookup stores its row after the eviction, and the later one returns it. -/
theorem revoked_token_returned :
    ¬ Answered revokedCalls (fun _ answer => answer.Fresh)
      (cacheRun revokedCalls 0 [activeToken]
        [.advance 0, .advance 0, .advance 0, .advance 1, .advance 2, .advance 0, .advance 3,
          .advance 3]) := by
  intro hanswered
  have hfresh : CacheAnswer.Fresh (.returned _ ⟨some activeToken, 0⟩) :=
    hanswered 3 (.returned _ ⟨some activeToken, 0⟩) rfl
  have hread := hfresh activeToken rfl
  revert hread
  decide

end SentryWms.Auth
