import Mathlib.Data.Fintype.Basic
import SentryWms.Relational.Sessions
import SentryWms.Relational.Table

/-!
# The last active admin

An update or a delete of a user reads its target first, and counts the active admins
under `FOR UPDATE` only where it has read an active admin it is about to remove.  A
target that is promoted after that read is removed without the count.  Where no such
removal is committed, an active admin always remains.
-/

namespace SentryWms.Auth

open Relational Sessions

/-! ## Users -/

/-- `VALID_ROLES`. -/
inductive Role
  | admin
  | user
  deriving DecidableEq, Repr

structure UserRow where
  userId : ℕ
  fullName : String
  role : Role
  warehouseId : Option ℤ
  warehouseIds : Option (List ℤ)
  allowedFunctions : Option (List String)
  isActive : Option Bool
  passwordHash : String
  passwordChangedAt : Option ℤ
  deriving DecidableEq, Repr

abbrev UserTable := Table UserRow UserRow.userId

/-- `role = 'ADMIN' AND is_active = TRUE`. -/
def UserRow.activeAdmin (row : UserRow) : Bool := row.role = .admin && row.isActive = some true

/-- The user with this id is an active admin. -/
def IsAdmin (users : UserTable) (userId : ℕ) : Prop :=
  (users.find? userId).any UserRow.activeAdmin = true

instance (users : UserTable) (userId : ℕ) : Decidable (IsAdmin users userId) :=
  inferInstanceAs (Decidable (_ = true))

def AdminRemains (users : UserTable) : Prop := ∃ row ∈ users.rows, row.activeAdmin = true

instance (users : UserTable) : Decidable (AdminRemains users) :=
  inferInstanceAs (Decidable (∃ _ ∈ _, _))

theorem adminRemains_iff {users : UserTable} :
    AdminRemains users ↔ ∃ userId, IsAdmin users userId := by
  constructor
  · rintro ⟨row, hrow, hactive⟩
    refine ⟨row.userId, ?_⟩
    rw [IsAdmin, Table.find?_eq_some_iff.mpr ⟨hrow, rfl⟩]
    exact hactive
  · rintro ⟨userId, hadmin⟩
    obtain ⟨row, hrow, hactive⟩ := (Option.any_eq_true _ _).mp hadmin
    exact ⟨row, Table.find?_mem hrow, hactive⟩

/-! ## Passwords -/

/-- What the language says of characters. -/
structure CharClasses where
  isSpace : Char → Bool
  isAlpha : Char → Bool
  isDigit : Char → Bool
  lower : Char → List Char

/-- The classes of the ASCII characters. -/
def CharClasses.ascii : CharClasses where
  isSpace := Char.isWhitespace
  isAlpha := Char.isAlpha
  isDigit := Char.isDigit
  lower := fun char => [char.toLower]

/-- `password.strip()`. -/
def CharClasses.strip (chars : CharClasses) (text : List Char) : List Char :=
  ((text.dropWhile chars.isSpace).reverse.dropWhile chars.isSpace).reverse

def validatePassword (chars : CharClasses) (password : String) : Option String :=
  if (chars.strip password.toList).flatMap chars.lower = "admin".toList then
    some "Password cannot be 'admin'"
  else if password.length < 8 then
    some "Password must be at least 8 characters"
  else if !password.toList.any chars.isAlpha then
    some "Password must contain at least one letter"
  else if !password.toList.any chars.isDigit then
    some "Password must contain at least one digit"
  else
    none

/-! ## Requests -/

/-- The body of an update: `none` for a field that is not sent, `some none` for a null. -/
structure UpdateUserRequest where
  fullName : Option (Option String)
  role : Option (Option Role)
  warehouseId : Option (Option ℤ)
  warehouseIds : Option (Option (List ℤ))
  allowedFunctions : Option (Option (List String))
  isActive : Option (Option Bool)
  password : Option (Option String)
  deriving DecidableEq, Repr

namespace UpdateUserRequest

/-- `"role" in data and data["role"] != "ADMIN"`. -/
def demoting (data : UpdateUserRequest) : Bool :=
  data.role.any fun role => role ≠ some .admin

/-- `"is_active" in data and not data["is_active"]`. -/
def deactivating (data : UpdateUserRequest) : Bool :=
  data.isActive.any fun active => active ≠ some true

/-- `"password" in data and data["password"]`. -/
def newPassword (data : UpdateUserRequest) : Option String :=
  data.password.join.filter fun password => password ≠ ""

/-- `not fields`. -/
def isEmpty (data : UpdateUserRequest) : Bool :=
  data.fullName.isNone && data.role.isNone && data.warehouseId.isNone &&
    data.warehouseIds.isNone && data.allowedFunctions.isNone && data.isActive.isNone &&
    data.newPassword.isNone

/-- `wid_sync`. -/
def widSync (data : UpdateUserRequest) : Option ℤ := data.warehouseIds.join.bind List.head?

/-- The statement assigns `warehouse_id` twice, or puts a null where none may be. -/
def malformed (data : UpdateUserRequest) : Bool :=
  (data.warehouseId.isSome && data.widSync.isSome) || data.role = some none ||
    data.fullName = some none

/-- What the `UPDATE` makes of a row. -/
def set (data : UpdateUserRequest) (passwordHash : String) (now : ℤ) (row : UserRow) : UserRow :=
  { row with
    fullName := (data.fullName.getD (some row.fullName)).getD row.fullName
    role := (data.role.getD (some row.role)).getD row.role
    warehouseId :=
      match data.widSync with
      | some first => some first
      | none => data.warehouseId.getD row.warehouseId
    warehouseIds := data.warehouseIds.getD row.warehouseIds
    allowedFunctions := data.allowedFunctions.getD row.allowedFunctions
    isActive := data.isActive.getD row.isActive
    passwordHash := if data.newPassword.isSome then passwordHash else row.passwordHash
    passwordChangedAt :=
      if data.newPassword.isSome then some now else row.passwordChangedAt }

end UpdateUserRequest

inductive UserAction
  | updateUser (data : UpdateUserRequest)
  | deleteUser
  deriving DecidableEq, Repr

structure UserRequest where
  callerId : ℕ
  userId : ℕ
  action : UserAction
  now : ℤ
  /-- `bcrypt.hashpw` of the new password. -/
  passwordHash : String
  /-- A foreign key refuses what is written. -/
  refused : Bool
  /-- The order in which a scan comes to the rows. -/
  visit : List ℕ → List ℕ
  visit_perm : ∀ userIds, (visit userIds).Perm userIds

namespace UserRequest

/-- `is_self`. -/
def isSelf (request : UserRequest) : Bool := request.callerId = request.userId

/-- The target is not an active admin afterwards. -/
def removing (request : UserRequest) : Bool :=
  match request.action with
  | .updateUser data => data.demoting || data.deactivating
  | .deleteUser => true

def write (request : UserRequest) (users : UserTable) : UserTable :=
  match request.action with
  | .updateUser data =>
      users.updateKey request.userId (data.set request.passwordHash request.now)
  | .deleteUser => users.delete fun row => row.userId = request.userId

end UserRequest

inductive UserAnswer
  | error (message : String) (status : ℕ)
  | failed
  | done
  deriving DecidableEq, Repr

/-! ## Statements -/

/-- Before which statement a request is. -/
inductive UserPoint
  | find
  | read
  | scan
  | lock (pending : List ℕ)
  | write
  | commit
  deriving DecidableEq, Repr

structure UserMemory where
  point : UserPoint
  /-- `admins`. -/
  admins : List ℕ
  locked : List ℕ
  deriving DecidableEq, Repr

def UserMemory.pending (memory : UserMemory) : List ℕ :=
  match memory.point with
  | .lock pending => pending
  | _ => []

abbrev UserOutcome := Outcome UserTable UserMemory UserAnswer

/-- `SELECT user_id FROM users WHERE user_id = :uid`, of a delete. -/
def findTarget (request : UserRequest) (memory : UserMemory) (users : UserTable) : UserOutcome :=
  match users.find? request.userId with
  | none => .rollback (.error "User not found" 404)
  | some _ =>
      if request.isSelf then .rollback (.error "Cannot delete yourself" 400)
      else .proceed { memory with point := .read }

/-- The read of the target's role and activity, and what is decided on it. -/
def readTarget (request : UserRequest) (memory : UserMemory) (users : UserTable) : UserOutcome :=
  match request.action, users.find? request.userId with
  | .updateUser _, none => .rollback (.error "User not found" 404)
  | .updateUser data, some existing =>
      if request.isSelf && data.deactivating then
        .rollback (.error "Cannot deactivate your own account" 400)
      else if request.isSelf && data.demoting then
        .rollback (.error "Cannot downgrade your own role" 400)
      else if existing.activeAdmin && (data.demoting || data.deactivating) then
        .proceed { memory with point := .scan }
      else
        .proceed { memory with point := .write }
  | .deleteUser, none => .proceed { memory with point := .write }
  | .deleteUser, some target =>
      if target.activeAdmin then .proceed { memory with point := .scan }
      else .proceed { memory with point := .write }

/-- The rows of the scan that match when the statement begins. -/
def scanAdmins (request : UserRequest) (memory : UserMemory) (users : UserTable) : UserOutcome :=
  .proceed { memory with
    point := .lock (request.visit ((users.select UserRow.activeAdmin).map UserRow.userId)) }

/-- `FOR UPDATE`: each row is locked in turn, and counts if it still matches. -/
def lockAdmins (request : UserRequest) (memory : UserMemory) (isLocked : ℕ → Bool)
    (users : UserTable) : List ℕ → UserOutcome
  | [] =>
      if memory.admins.length ≤ 1 then
        match request.action with
        | .updateUser _ => .rollback (.error "Cannot remove the last active admin" 400)
        | .deleteUser => .rollback (.error "Cannot delete the last active admin" 400)
      else
        .proceed { memory with point := .write }
  | userId :: pending =>
      match users.find? userId with
      | none => .proceed { memory with point := .lock pending }
      | some row =>
          if isLocked userId then .wait
          else
            .proceed
              { point := .lock pending
                admins :=
                  if row.activeAdmin then memory.admins ++ [userId] else memory.admins
                locked := userId :: memory.locked }

/-- What an update is refused for before its `UPDATE` is sent. -/
def invalidUpdate (chars : CharClasses) (request : UserRequest) : Option UserAnswer :=
  match request.action with
  | .deleteUser => none
  | .updateUser data =>
      match data.newPassword.bind (validatePassword chars) with
      | some message => some (.error message 400)
      | none => if data.isEmpty then some (.error "No fields to update" 400) else none

/-- A constraint fails for what the statement writes. -/
def UserRequest.breaks (request : UserRequest) : Bool :=
  match request.action with
  | .updateUser data => data.malformed || request.refused
  | .deleteUser => request.refused

/-- The `UPDATE` or the `DELETE` takes its row. -/
def writeTarget (chars : CharClasses) (request : UserRequest) (memory : UserMemory)
    (isLocked : ℕ → Bool) (users : UserTable) : UserOutcome :=
  match invalidUpdate chars request, users.find? request.userId with
  | some answer, _ => .rollback answer
  | none, none => .proceed { memory with point := .commit }
  | none, some _ =>
      if isLocked request.userId then .wait
      else if request.breaks then .rollback .failed
      else
        .proceed
          { memory with point := .commit, locked := request.userId :: memory.locked }

/-- The answer to what has been committed; an update reads its row back for it. -/
def UserRequest.reply (request : UserRequest) (users : UserTable) : UserAnswer :=
  match request.action, users.find? request.userId with
  | .updateUser _, none => .failed
  | _, _ => .done

def userStatement (chars : CharClasses) (request : UserRequest) (memory : UserMemory)
    (isLocked : ℕ → Bool) (users : UserTable) : UserOutcome :=
  match memory.point with
  | .find => findTarget request memory users
  | .read => readTarget request memory users
  | .scan => scanAdmins request memory users
  | .lock pending => lockAdmins request memory isLocked users pending
  | .write => writeTarget chars request memory isLocked users
  | .commit => .commit (request.write users) (request.reply users)

def userStart (request : UserRequest) : UserMemory where
  point :=
    match request.action with
    | .updateUser _ => .read
    | .deleteUser => .find
  admins := []
  locked := []

def usersProgram (chars : CharClasses) :
    Program UserTable UserRequest UserMemory ℕ UserAnswer where
  start := userStart
  holds := fun _ memory userId => decide (userId ∈ memory.locked)
  statement := userStatement chars
  start_holds := fun _ _ => rfl

/-! ## What a statement can do -/

/-- The statements that leave a request open. -/
inductive UserStep (request : UserRequest) (memory : UserMemory) (isLocked : ℕ → Bool)
    (users : UserTable) : UserMemory → Prop
  | found (hpoint : memory.point = .find) :
      UserStep request memory isLocked users { memory with point := .read }
  | guarded (hpoint : memory.point = .read) :
      UserStep request memory isLocked users { memory with point := .scan }
  | unguarded (hpoint : memory.point = .read) :
      UserStep request memory isLocked users { memory with point := .write }
  | scanned (hpoint : memory.point = .scan) :
      UserStep request memory isLocked users
        { memory with
          point := .lock (request.visit ((users.select UserRow.activeAdmin).map UserRow.userId)) }
  | counted (hpoint : memory.point = .lock []) (hmany : 2 ≤ memory.admins.length) :
      UserStep request memory isLocked users { memory with point := .write }
  | gone (userId : ℕ) (pending : List ℕ) (hpoint : memory.point = .lock (userId :: pending)) :
      UserStep request memory isLocked users { memory with point := .lock pending }
  | dropped (userId : ℕ) (pending : List ℕ)
      (hpoint : memory.point = .lock (userId :: pending)) (hfree : isLocked userId = false) :
      UserStep request memory isLocked users
        { memory with point := .lock pending, locked := userId :: memory.locked }
  | kept (userId : ℕ) (pending : List ℕ)
      (hpoint : memory.point = .lock (userId :: pending)) (hfree : isLocked userId = false)
      (hadmin : IsAdmin users userId) :
      UserStep request memory isLocked users
        { point := .lock pending
          admins := memory.admins ++ [userId]
          locked := userId :: memory.locked }
  | absent (hpoint : memory.point = .write) (hnone : users.find? request.userId = none) :
      UserStep request memory isLocked users { memory with point := .commit }
  | taken (hpoint : memory.point = .write) (hfree : isLocked request.userId = false) :
      UserStep request memory isLocked users
        { memory with point := .commit, locked := request.userId :: memory.locked }

variable {after : UserTable} {answer : UserAnswer}

section Steps

variable {chars : CharClasses} {request other : UserRequest}
  {memory memory' next : UserMemory} {isLocked : ℕ → Bool} {users : UserTable}

theorem findTarget_step (hpoint : memory.point = .find)
    (hproceed : findTarget request memory users = .proceed next) :
    UserStep request memory isLocked users next := by
  unfold findTarget at hproceed
  split at hproceed
  · cases hproceed
  · split at hproceed
    · cases hproceed
    · cases hproceed
      exact .found hpoint

theorem readTarget_step (hpoint : memory.point = .read)
    (hproceed : readTarget request memory users = .proceed next) :
    UserStep request memory isLocked users next := by
  have hnext : next = { memory with point := .scan } ∨
      next = { memory with point := .write } := by
    unfold readTarget at hproceed
    split at hproceed
    · cases hproceed
    · split at hproceed
      · cases hproceed
      · split at hproceed
        · cases hproceed
        · split at hproceed
          · cases hproceed
            exact Or.inl rfl
          · cases hproceed
            exact Or.inr rfl
    · cases hproceed
      exact Or.inr rfl
    · split at hproceed
      · cases hproceed
        exact Or.inl rfl
      · cases hproceed
        exact Or.inr rfl
  cases hnext with
  | inl hscan =>
      rw [hscan]
      exact .guarded hpoint
  | inr hwrite =>
      rw [hwrite]
      exact .unguarded hpoint

theorem lockAdmins_step {pending : List ℕ} (hpoint : memory.point = .lock pending)
    (hproceed : lockAdmins request memory isLocked users pending = .proceed next) :
    UserStep request memory isLocked users next := by
  cases pending with
  | nil =>
      rw [lockAdmins] at hproceed
      split at hproceed
      · split at hproceed <;> cases hproceed
      · cases hproceed
        exact .counted hpoint (by omega)
  | cons userId pending =>
      rw [lockAdmins] at hproceed
      split at hproceed
      · cases hproceed
        exact .gone userId pending hpoint
      · rename_i row hrow
        split at hproceed
        · cases hproceed
        · rename_i hlocked
          have hfree : isLocked userId = false := by simpa using hlocked
          cases hproceed
          split
          · rename_i hactive
            have hadmin : IsAdmin users userId := by
              rw [IsAdmin, hrow]
              exact hactive
            exact .kept userId pending hpoint hfree hadmin
          · exact .dropped userId pending hpoint hfree

theorem writeTarget_step (hpoint : memory.point = .write)
    (hproceed : writeTarget chars request memory isLocked users = .proceed next) :
    UserStep request memory isLocked users next := by
  unfold writeTarget at hproceed
  split at hproceed
  · cases hproceed
  · rename_i hnone
    cases hproceed
    exact .absent hpoint hnone
  · split at hproceed
    · cases hproceed
    · rename_i hlocked
      split at hproceed
      · cases hproceed
      · cases hproceed
        exact .taken hpoint (by simpa using hlocked)

theorem userStatement_step
    (hproceed : userStatement chars request memory isLocked users = .proceed next) :
    UserStep request memory isLocked users next := by
  unfold userStatement at hproceed
  split at hproceed
  · exact findTarget_step ‹_› hproceed
  · exact readTarget_step ‹_› hproceed
  · cases hproceed
    exact .scanned ‹_›
  · exact lockAdmins_step ‹_› hproceed
  · exact writeTarget_step ‹_› hproceed
  · cases hproceed

theorem findTarget_not_commit : findTarget request memory users ≠ .commit after answer := by
  unfold findTarget
  split
  · simp
  · split <;> simp

theorem readTarget_not_commit : readTarget request memory users ≠ .commit after answer := by
  unfold readTarget
  repeat' split
  all_goals simp

theorem lockAdmins_not_commit {pending : List ℕ} :
    lockAdmins request memory isLocked users pending ≠ .commit after answer := by
  unfold lockAdmins
  repeat' split
  all_goals simp

theorem writeTarget_not_commit :
    writeTarget chars request memory isLocked users ≠ .commit after answer := by
  unfold writeTarget
  repeat' split
  all_goals simp

theorem userStatement_commit
    (hcommit : userStatement chars request memory isLocked users = .commit after answer) :
    memory.point = .commit ∧ after = request.write users := by
  unfold userStatement at hcommit
  split at hcommit
  · exact absurd hcommit findTarget_not_commit
  · exact absurd hcommit readTarget_not_commit
  · cases hcommit
  · exact absurd hcommit lockAdmins_not_commit
  · exact absurd hcommit writeTarget_not_commit
  · rename_i hpoint
    cases hcommit
    exact ⟨hpoint, rfl⟩

/-! ## What a request knows -/

/-- What the place of a request adds. -/
def AtPoint (request : UserRequest) (memory : UserMemory) (users : UserTable) :
    UserPoint → Prop
  | .find | .read | .scan => memory.admins = []
  | .lock _ => True
  | .write => memory.admins = [] ∨ 2 ≤ memory.admins.length
  | .commit =>
      (memory.admins = [] ∨ 2 ≤ memory.admins.length) ∧
        (request.userId ∈ memory.locked ∨ users.find? request.userId = none)

/-- The admins a request has counted are different, locked and active. -/
structure Counted (request : UserRequest) (memory : UserMemory) (users : UserTable) :
    Prop where
  admin : ∀ userId ∈ memory.admins, IsAdmin users userId
  held : ∀ userId ∈ memory.admins, userId ∈ memory.locked
  nodup : (memory.admins ++ memory.pending).Nodup
  point : AtPoint request memory users memory.point

theorem Counted.admins_nodup (hcounted : Counted request memory users) : memory.admins.Nodup :=
  hcounted.nodup.of_append_left

theorem counted_start (request : UserRequest) (users : UserTable) :
    Counted request (userStart request) users := by
  refine ⟨?_, ?_, ?_, ?_⟩
  · intro userId hadmin
    cases hadmin
  · intro userId hadmin
    cases hadmin
  · unfold userStart UserMemory.pending
    cases request.action <;> exact List.nodup_nil
  · unfold userStart
    cases request.action <;> rfl

/-- A step keeps what is known, and locks nothing that another holds. -/
theorem UserStep.acquires (hstep : UserStep request memory isLocked users next)
    {userId : ℕ} (hlocked : userId ∈ next.locked) :
    userId ∈ memory.locked ∨ isLocked userId = false := by
  cases hstep with
  | found | guarded | unguarded | scanned | counted | gone | absent => exact Or.inl hlocked
  | dropped _ _ _ hfree | kept _ _ _ hfree | taken _ hfree =>
      cases List.mem_cons.mp hlocked with
      | inl hsame => exact Or.inr (hsame ▸ hfree)
      | inr hold => exact Or.inl hold

theorem UserStep.counted_next (hstep : UserStep request memory isLocked users next)
    (hcounted : Counted request memory users) : Counted request next users := by
  have hknown := hcounted.point
  have hnodup := hcounted.admins_nodup
  cases hstep with
  | found hpoint | guarded hpoint =>
      rw [hpoint] at hknown
      exact ⟨hcounted.admin, hcounted.held, by simpa [UserMemory.pending] using hnodup, hknown⟩
  | unguarded hpoint =>
      rw [hpoint] at hknown
      exact ⟨hcounted.admin, hcounted.held, by simpa [UserMemory.pending] using hnodup,
        Or.inl hknown⟩
  | scanned hpoint =>
      rw [hpoint] at hknown
      refine ⟨hcounted.admin, hcounted.held, ?_, trivial⟩
      have hsublist := (List.filter_sublist (p := UserRow.activeAdmin)
        (l := users.rows)).map UserRow.userId
      have hscan := hsublist.nodup users.keys_nodup
      have hnone : memory.admins = [] := hknown
      rw [hnone]
      exact (request.visit_perm _).nodup_iff.mpr hscan
  | counted hpoint hmany =>
      exact ⟨hcounted.admin, hcounted.held, by simpa [UserMemory.pending] using hnodup,
        Or.inr hmany⟩
  | gone userId pending hpoint =>
      have hall := hcounted.nodup
      simp only [UserMemory.pending, hpoint] at hall
      have hsublist := (List.sublist_cons_self userId pending).append_left memory.admins
      exact ⟨hcounted.admin, hcounted.held, hsublist.nodup hall, trivial⟩
  | dropped userId pending hpoint hfree =>
      have hall := hcounted.nodup
      simp only [UserMemory.pending, hpoint] at hall
      have hsublist := (List.sublist_cons_self userId pending).append_left memory.admins
      exact ⟨hcounted.admin, fun admin hadmin => List.mem_cons_of_mem _
        (hcounted.held admin hadmin), hsublist.nodup hall, trivial⟩
  | kept userId pending hpoint hfree hactive =>
      have hall := hcounted.nodup
      simp only [UserMemory.pending, hpoint] at hall
      refine ⟨?_, ?_, ?_, trivial⟩
      · intro admin hadmin
        cases List.mem_append.mp hadmin with
        | inl hold => exact hcounted.admin admin hold
        | inr hnew =>
            rw [List.mem_singleton.mp hnew]
            exact hactive
      · intro admin hadmin
        cases List.mem_append.mp hadmin with
        | inl hold => exact List.mem_cons_of_mem _ (hcounted.held admin hold)
        | inr hnew =>
            rw [List.mem_singleton.mp hnew]
            exact List.mem_cons_self
      · simpa only [UserMemory.pending, List.append_assoc, List.singleton_append] using hall
  | absent hpoint hnone =>
      rw [hpoint] at hknown
      exact ⟨hcounted.admin, hcounted.held, by simpa [UserMemory.pending] using hnodup,
        hknown, Or.inr hnone⟩
  | taken hpoint hfree =>
      rw [hpoint] at hknown
      exact ⟨hcounted.admin, fun admin hadmin => List.mem_cons_of_mem _
        (hcounted.held admin hadmin), by simpa [UserMemory.pending] using hnodup,
        hknown, Or.inl List.mem_cons_self⟩

end Steps

/-! ## What a commit changes -/

section Commits

variable {request other : UserRequest} {memory memory' : UserMemory} {users : UserTable}

theorem set_userId (data : UpdateUserRequest) (passwordHash : String) (now : ℤ)
    (row : UserRow) : (data.set passwordHash now row).userId = row.userId :=
  rfl

/-- A write concerns its target only. -/
theorem find?_write_of_ne {userId : ℕ} (hne : userId ≠ request.userId) :
    (request.write users).find? userId = users.find? userId := by
  unfold UserRequest.write
  split
  · rename_i data _
    rw [Table.find?_updateKey users _ (set_userId data request.passwordHash request.now),
      if_neg hne]
  · rw [Table.find?_delete]
    cases hrow : users.find? userId with
    | none => rfl
    | some row =>
        have hkey := Table.find?_key hrow
        simp [hkey, hne]

theorem isAdmin_write_of_ne {userId : ℕ} (hne : userId ≠ request.userId) :
    IsAdmin (request.write users) userId ↔ IsAdmin users userId := by
  rw [IsAdmin, IsAdmin, find?_write_of_ne hne]

/-- An update that does not remove leaves an active admin one. -/
theorem activeAdmin_set {data : UpdateUserRequest} {row : UserRow} (passwordHash : String)
    (now : ℤ) (hdemoting : data.demoting = false) (hdeactivating : data.deactivating = false)
    (hactive : row.activeAdmin = true) :
    (data.set passwordHash now row).activeAdmin = true := by
  simp only [UserRow.activeAdmin, Bool.and_eq_true, decide_eq_true_eq] at hactive ⊢
  constructor
  · cases hrole : data.role with
    | none => simpa [UpdateUserRequest.set, hrole] using hactive.1
    | some role =>
        have hadmin : role = some .admin := by
          simpa [UpdateUserRequest.demoting, hrole] using hdemoting
        simp [UpdateUserRequest.set, hrole, hadmin]
  · cases hisActive : data.isActive with
    | none => simpa [UpdateUserRequest.set, hisActive] using hactive.2
    | some active =>
        have htrue : active = some true := by
          simpa [UpdateUserRequest.deactivating, hisActive] using hdeactivating
        simp [UpdateUserRequest.set, hisActive, htrue]

theorem isAdmin_write_of_keeping (hkeeps : request.removing = false) {userId : ℕ}
    (hadmin : IsAdmin users userId) : IsAdmin (request.write users) userId := by
  by_cases hsame : userId = request.userId
  · unfold UserRequest.removing at hkeeps
    split at hkeeps
    · rename_i data haction
      rw [Bool.or_eq_false_iff] at hkeeps
      rw [IsAdmin, UserRequest.write, haction]
      change ((users.updateKey request.userId
        (data.set request.passwordHash request.now)).find? userId).any _ = true
      rw [Table.find?_updateKey users _ (set_userId data request.passwordHash request.now),
        if_pos hsame]
      unfold IsAdmin at hadmin
      cases hrow : users.find? userId with
      | none =>
          rw [hrow] at hadmin
          cases hadmin
      | some row =>
          rw [hrow] at hadmin
          exact activeAdmin_set _ _ hkeeps.1 hkeeps.2 hadmin
    · cases hkeeps
  · exact (isAdmin_write_of_ne hsame).mpr hadmin

/-- A removal that has not counted the admins removes none. -/
def RemovesNoAdmin (request : UserRequest) (memory : UserMemory) (users : UserTable) : Prop :=
  request.removing = true → memory.admins = [] → ¬ IsAdmin users request.userId

instance (request : UserRequest) (memory : UserMemory) (users : UserTable) :
    Decidable (RemovesNoAdmin request memory users) :=
  inferInstanceAs (Decidable (_ → _ → _))

/-- Of two admins that were counted, one is not the target. -/
theorem Counted.another (hcounted : Counted request memory users)
    (hmany : 2 ≤ memory.admins.length) :
    ∃ userId, userId ≠ request.userId ∧ IsAdmin users userId := by
  have hlength := List.length_erase_add_one (l := memory.admins) (a := request.userId)
  have hleft : 0 < (memory.admins.erase request.userId).length := by
    by_cases htarget : request.userId ∈ memory.admins
    · have := hlength htarget
      omega
    · rw [List.erase_of_not_mem htarget]
      omega
  obtain ⟨userId, hleftover⟩ := List.exists_mem_of_length_pos hleft
  have hboth := (hcounted.admins_nodup.mem_erase_iff).mp hleftover
  exact ⟨userId, hboth.1, hcounted.admin userId hboth.2⟩

/-- A commit that meets the condition leaves an active admin. -/
theorem Counted.remains (hcounted : Counted request memory users)
    (hpoint : memory.point = .commit) (hremains : AdminRemains users)
    (hsafe : RemovesNoAdmin request memory users) :
    AdminRemains (request.write users) := by
  have hknown := hcounted.point
  rw [hpoint] at hknown
  rw [adminRemains_iff] at hremains ⊢
  cases hremoving : request.removing with
  | false =>
      obtain ⟨userId, hadmin⟩ := hremains
      exact ⟨userId, isAdmin_write_of_keeping hremoving hadmin⟩
  | true =>
      cases hknown.1 with
      | inl hnone =>
          obtain ⟨userId, hadmin⟩ := hremains
          have hne : userId ≠ request.userId := by
            intro hsame
            apply hsafe hremoving hnone
            rw [← hsame]
            exact hadmin
          exact ⟨userId, (isAdmin_write_of_ne hne).mpr hadmin⟩
      | inr hmany =>
          obtain ⟨userId, hne, hadmin⟩ := hcounted.another hmany
          exact ⟨userId, (isAdmin_write_of_ne hne).mpr hadmin⟩

theorem find?_write_eq_none {userId : ℕ} (hnone : users.find? userId = none) :
    (request.write users).find? userId = none := by
  unfold UserRequest.write
  split
  · rename_i data _
    rw [Table.find?_updateKey users _ (set_userId data request.passwordHash request.now), hnone]
    split <;> rfl
  · rw [Table.find?_delete, hnone]
    rfl

/-- What another request knows survives a commit whose row it has not locked. -/
theorem Counted.stable (hcounted : Counted request memory users)
    (hpoint : memory.point = .commit) (hother : Counted other memory' users)
    (hapart : ∀ userId ∈ memory.locked, userId ∉ memory'.locked) :
    Counted other memory' (request.write users) where
  admin := by
    intro userId hadmin
    have hknown := hcounted.point
    rw [hpoint] at hknown
    have hactive := hother.admin userId hadmin
    have hne : userId ≠ request.userId := by
      intro hsame
      cases hknown.2 with
      | inl hlocked =>
          apply hapart request.userId hlocked
          rw [← hsame]
          exact hother.held userId hadmin
      | inr hnone =>
          rw [IsAdmin, hsame, hnone] at hactive
          cases hactive
    exact (isAdmin_write_of_ne hne).mpr hactive
  held := hother.held
  nodup := hother.nodup
  point := by
    have hplace := hother.point
    cases hat : memory'.point with
    | find | read | scan | lock | write =>
        rw [hat] at hplace
        exact hplace
    | commit =>
        rw [hat] at hplace
        exact ⟨hplace.1, hplace.2.imp_right find?_write_eq_none⟩

end Commits

theorem users_outline (chars : CharClasses) :
    Outline (usersProgram chars) AdminRemains Counted RemovesNoAdmin
      fun _ _ _ _ _ => True where
  start := fun request users _ => counted_start request users
  acquires := by
    intro request memory isLocked users next hproceed userId hheld
    have hlocked : userId ∈ next.locked := of_decide_eq_true hheld
    exact ((userStatement_step hproceed).acquires hlocked).imp_left decide_eq_true
  proceeds := by
    intro request memory isLocked users next _ hcounted hproceed
    exact (userStatement_step hproceed).counted_next hcounted
  commits := by
    intro request memory isLocked users next answer hremains hcounted hsafe hcommit
    obtain ⟨hpoint, rfl⟩ := userStatement_commit hcommit
    exact hcounted.remains hpoint hremains hsafe
  stable := by
    intro request memory isLocked users next answer other memory' _ hcounted hother _ hapart _
      hcommit
    obtain ⟨hpoint, rfl⟩ := userStatement_commit hcommit
    apply hcounted.stable hpoint hother
    intro userId hlocked
    exact of_decide_eq_false (hapart userId (decide_eq_true hlocked))

/-! ## Every run -/

section Runs

variable {Ticket : Type*} [Fintype Ticket] [DecidableEq Ticket]

/-- Where no removal that has found its target not to be an active admin takes one away,
an active admin remains in every committed state. -/
theorem admin_remains (chars : CharClasses) (requests : Ticket → UserRequest)
    (users : UserTable) (steps : List (Step Ticket)) (hremains : AdminRemains users)
    (hclear : Along (Sessions.serve (usersProgram chars) requests)
      (Clear (usersProgram chars) requests RemovesNoAdmin fun _ _ _ _ _ => True)
      (opened (usersProgram chars) requests users) steps) :
    AdminRemains (run (Sessions.serve (usersProgram chars) requests)
      (opened (usersProgram chars) requests users) steps).world :=
  (sound_run (users_outline chars) hremains hclear).inv

end Runs

namespace ThreeUsers

def row (userId : ℕ) (role : Role) : UserRow where
  userId := userId
  fullName := "Bo"
  role := role
  warehouseId := none
  warehouseIds := some []
  allowedFunctions := some []
  isActive := some true
  passwordHash := ""
  passwordChangedAt := none

/-- One admin and two users. -/
def users : UserTable where
  rows := [row 1 .admin, row 2 .user, row 3 .user]
  nextKey := 4
  keys_nodup := by decide
  keys_lt := by decide

def nothing : UpdateUserRequest where
  fullName := none
  role := none
  warehouseId := none
  warehouseIds := none
  allowedFunctions := none
  isActive := none
  password := none

def request (callerId userId : ℕ) (action : UserAction) : UserRequest where
  callerId := callerId
  userId := userId
  action := action
  now := 0
  passwordHash := ""
  refused := false
  visit := id
  visit_perm := fun _ => List.Perm.refl _

/-- User 3 deactivates user 2; the admin makes user 2 an admin, who makes the other a
user. -/
def requests : Fin 3 → UserRequest
  | 0 => request 3 2 (.updateUser { nothing with isActive := some (some false) })
  | 1 => request 1 2 (.updateUser { nothing with role := some (some .admin) })
  | 2 => request 2 1 (.updateUser { nothing with role := some (some .user) })

def statements (ticket : Fin 3) (count : ℕ) : List (Step (Fin 3)) :=
  List.replicate count (.advance ticket)

end ThreeUsers

theorem admin_remains_in_turn :
    let steps := ThreeUsers.statements 1 3 ++ ThreeUsers.statements 2 7
    let final := (run (Sessions.serve (usersProgram CharClasses.ascii) ThreeUsers.requests)
      (opened (usersProgram CharClasses.ascii) ThreeUsers.requests ThreeUsers.users)
      steps).world
    final.rows.map UserRow.activeAdmin = [false, true, false] ∧ AdminRemains final := by
  have hclear : Along (Sessions.serve (usersProgram CharClasses.ascii) ThreeUsers.requests)
      (Clear (usersProgram CharClasses.ascii) ThreeUsers.requests RemovesNoAdmin
        fun _ _ _ _ _ => True)
      (opened (usersProgram CharClasses.ascii) ThreeUsers.requests ThreeUsers.users)
      (ThreeUsers.statements 1 3 ++ ThreeUsers.statements 2 7) := by
    decide +kernel
  exact ⟨by decide +kernel, admin_remains CharClasses.ascii ThreeUsers.requests
    ThreeUsers.users _ (by decide) hclear⟩

/-- The deactivation has read its target as a user, so it does not count the admins; by
the time it writes, its target is the last of them. -/
theorem last_admin_deactivated :
    let steps := ThreeUsers.statements 0 1 ++ ThreeUsers.statements 1 3 ++
      ThreeUsers.statements 2 7 ++ ThreeUsers.statements 0 2
    let final := (run (Sessions.serve (usersProgram CharClasses.ascii) ThreeUsers.requests)
      (opened (usersProgram CharClasses.ascii) ThreeUsers.requests ThreeUsers.users)
      steps).world
    AdminRemains ThreeUsers.users ∧ ¬ AdminRemains final := by
  decide +kernel

end SentryWms.Auth
