import Mathlib.Data.List.Sort
import SentryWms.Relational.HashChain
import SentryWms.Relational.Run

/-!
# The hash chain of the audit log

Every insert runs a trigger that locks the head of the chain to the end of its
transaction, draws the log id under the lock, and hashes the row onto the head.  Any
number of transactions insert, commit and roll back in any order.  Beside each committed
row the world keeps the text that the trigger has hashed.
-/

namespace SentryWms.Audit

open Relational

/-! ## Rows and their text -/

abbrev Bytes := List UInt8

/-- The columns that a writer of `audit_log` sets, after the defaults; `details` is the
text of the JSON. -/
structure AuditEntry where
  actionType : String
  entityType : String
  entityId : ℤ
  userId : String
  warehouseId : Option ℤ
  details : Option String
  createdAt : Option ℤ
  deriving DecidableEq, Repr

structure AuditRow where
  logId : ℕ
  entry : AuditEntry
  prevHash : Option Bytes
  rowHash : Option Bytes
  deriving DecidableEq, Repr

/-- `convert_to(payload, 'UTF8')`. -/
def utf8 (text : String) : Bytes := text.toUTF8.data.toList

theorem utf8_injective : Function.Injective utf8 := by
  intro left right heq
  have hdata : left.toUTF8.data = right.toUTF8.data := Array.toList_inj.mp heq
  exact String.toByteArray_inj.mp (ByteArray.ext hdata)

/-- The text that is hashed, with the last field as given. -/
def payloadWith (createdText : String) (entry : AuditEntry) : String :=
  entry.actionType ++ "|" ++ entry.entityType ++ "|" ++ toString entry.entityId ++ "|" ++
    entry.userId ++ "|" ++ (entry.warehouseId.elim "" toString) ++ "|" ++
    (entry.details.elim "" id) ++ "|" ++ createdText

variable {entry : AuditEntry} {head : Bytes} {sequence : ℕ}

theorem payloadWith_inj {left right : String}
    (hsame : payloadWith left entry = payloadWith right entry) : left = right :=
  String.append_right_inj _ |>.mp hsame

/-- The settings of a database session that its timestamps are written under, and its
`NOW()`. -/
structure Session (Zone : Type*) where
  zone : Zone
  now : ℤ

variable {Zone : Type*} (text : Zone → ℤ → String)

/-- The payload of `audit_log_chain_hash`. -/
def writtenPayload (session : Session Zone) (entry : AuditEntry) : String :=
  payloadWith (entry.createdAt.elim (text session.zone session.now) (text session.zone)) entry

/-- The payload of `verify_audit_log_chain`. -/
def verifiedPayload (zone : Zone) (entry : AuditEntry) : String :=
  payloadWith (entry.createdAt.elim "" (text zone)) entry

variable (digest : Bytes → Bytes)

/-- `'\x00'::bytea`. -/
def genesis : Bytes := [0]

/-- The hash that `verify_audit_log_chain` computes. -/
def computedHash (zone : Zone) (row : AuditRow) : Option Bytes :=
  row.prevHash.map fun prev => digest (prev ++ utf8 (verifiedPayload text zone row.entry))

def auditChain (zone : Zone) : HashChain AuditRow (Option Bytes) where
  prev := AuditRow.prevHash
  hash := AuditRow.rowHash
  recompute := computedHash text digest zone

/-- `ORDER BY log_id ASC`. -/
def byLogId (rows : List AuditRow) : List AuditRow :=
  rows.mergeSort fun row other => row.logId ≤ other.logId

/-- `verify_audit_log_chain`. -/
def verifyAuditLogChain (zone : Zone) (rows : List AuditRow) : Option ℕ :=
  ((auditChain text digest zone).firstBreak (some genesis) (byLogId rows)).map AuditRow.logId

/-! ## The transactions -/

/-- A row, and the text that the trigger has hashed for it. -/
structure SealedRow where
  row : AuditRow
  payload : String
  deriving DecidableEq, Repr

/-- The transaction that holds the lock on the chain head: what it has inserted, and the
head it sees. -/
structure Writer (Ticket : Type*) where
  ticket : Ticket
  rows : List SealedRow
  head : Bytes

/-- The committed log and head, the sequence of the log ids, and the holder of the lock. -/
structure AuditDb (Ticket : Type*) where
  log : List SealedRow
  head : Bytes
  sequence : ℕ
  writer : Option (Writer Ticket)

/-- The steps of the transactions; a rollback also stands for a lost connection. -/
inductive AuditStep (Zone Ticket : Type*)
  | insert (ticket : Ticket) (session : Session Zone) (entry : AuditEntry)
  | commit (ticket : Ticket)
  | rollback (ticket : Ticket)

/-- `audit_log_chain_hash`, on the head and the sequence value it has read. -/
def sealRow (session : Session Zone) (logId : ℕ) (head : Bytes) (entry : AuditEntry) :
    SealedRow where
  row :=
    { logId := logId
      entry := entry
      prevHash := some head
      rowHash := some (digest (head ++ utf8 (writtenPayload text session entry))) }
  payload := writtenPayload text session entry

theorem sealRow_rowHash (session : Session Zone) (logId : ℕ) (head : Bytes) (entry : AuditEntry) :
    (sealRow text digest session logId head entry).row.rowHash =
      some (digest (head ++ utf8 (sealRow text digest session logId head entry).payload)) :=
  rfl

/-- The head after the trigger has run. -/
def nextHead (session : Session Zone) (head : Bytes) (entry : AuditEntry) : Bytes :=
  digest (head ++ utf8 (writtenPayload text session entry))

variable {Ticket : Type*}

/-- A database without audit rows. -/
def emptyAudit : AuditDb Ticket where
  log := []
  head := genesis
  sequence := 0
  writer := none

/-- An insert of the transaction that holds the lock. -/
def insertAs (db : AuditDb Ticket) (writer : Writer Ticket) (session : Session Zone)
    (entry : AuditEntry) : AuditDb Ticket :=
  { db with
    sequence := db.sequence + 1
    writer := some
      { writer with
        rows := writer.rows ++ [sealRow text digest session (db.sequence + 1) writer.head entry]
        head := nextHead text digest session writer.head entry } }

variable [DecidableEq Ticket]

/-- One step; an insert waits while another transaction holds the lock. -/
def auditStep (db : AuditDb Ticket) : AuditStep Zone Ticket → AuditDb Ticket
  | .insert ticket session entry =>
      match db.writer with
      | none => insertAs text digest db ⟨ticket, [], db.head⟩ session entry
      | some writer =>
          if writer.ticket = ticket then insertAs text digest db writer session entry else db
  | .commit ticket =>
      match db.writer with
      | none => db
      | some writer =>
          if writer.ticket = ticket then
            { db with log := db.log ++ writer.rows, head := writer.head, writer := none }
          else db
  | .rollback ticket =>
      match db.writer with
      | none => db
      | some writer => if writer.ticket = ticket then { db with writer := none } else db

/-- The database after these steps. -/
def auditRun (steps : List (AuditStep Zone Ticket)) : AuditDb Ticket :=
  run (auditStep text digest) emptyAudit steps

/-- The committed rows of `audit_log`. -/
def AuditDb.rows (db : AuditDb Ticket) : List AuditRow := db.log.map SealedRow.row

/-! ## The chain over any run -/

/-- Rows that were sealed one after the other, from the genesis to the head. -/
structure Forged (rows : List SealedRow) (head : Bytes) (sequence : ℕ) : Prop where
  ordered : (rows.map fun sealedRow => sealedRow.row.logId).Pairwise (· < ·)
  drawn : ∀ sealedRow ∈ rows, sealedRow.row.logId ≤ sequence
  links : ∀ zone, (auditChain text digest zone).Links (some genesis) (rows.map SealedRow.row)
  tip : ∀ zone, (auditChain text digest zone).tip (some genesis)
    (rows.map SealedRow.row) = some head
  hashed : ∀ sealedRow ∈ rows, ∃ prev, sealedRow.row.prevHash = some prev ∧
    sealedRow.row.rowHash = some (digest (prev ++ utf8 sealedRow.payload))

omit [DecidableEq Ticket] in
theorem forged_nil (sequence : ℕ) : Forged text digest ([] : List SealedRow) genesis sequence where
  ordered := List.Pairwise.nil
  drawn := by simp
  links := fun _ => trivial
  tip := fun _ => rfl
  hashed := by simp

variable {text digest}

/-- The trigger seals one more row. -/
theorem Forged.insert {rows : List SealedRow}
    (hforged : Forged text digest rows head sequence) (session : Session Zone)
    (entry : AuditEntry) :
    Forged text digest (rows ++ [sealRow text digest session (sequence + 1) head entry])
      (nextHead text digest session head entry) (sequence + 1) where
  ordered := by
    rw [List.map_append, List.pairwise_append]
    refine ⟨hforged.ordered, List.pairwise_singleton _ _, ?_⟩
    intro logId hlogId other hother
    obtain ⟨sealedRow, hsealed, rfl⟩ := List.mem_map.mp hlogId
    rw [List.map_singleton, List.mem_singleton] at hother
    rw [hother]
    exact Nat.lt_succ_of_le (hforged.drawn sealedRow hsealed)
  drawn := by
    intro sealedRow hsealed
    cases List.mem_append.mp hsealed with
    | inl hold => exact (hforged.drawn sealedRow hold).trans (Nat.le_succ _)
    | inr hnew =>
        rw [List.mem_singleton.mp hnew]
        exact le_rfl
  links := by
    intro zone
    rw [List.map_append, HashChain.links_append, hforged.tip zone]
    exact ⟨hforged.links zone, rfl, trivial⟩
  tip := by
    intro zone
    rw [List.map_append, HashChain.tip_append, hforged.tip zone]
    rfl
  hashed := by
    intro sealedRow hsealed
    cases List.mem_append.mp hsealed with
    | inl hold => exact hforged.hashed sealedRow hold
    | inr hnew =>
        rw [List.mem_singleton.mp hnew]
        exact ⟨head, rfl, rfl⟩

theorem Forged.later {rows : List SealedRow} {later : ℕ}
    (hforged : Forged text digest rows head sequence) (hlater : sequence ≤ later) :
    Forged text digest rows head later :=
  { hforged with drawn := fun sealedRow hsealed => (hforged.drawn sealedRow hsealed).trans hlater }

/-- The committed log is forged, and so is what the holder of the lock is about to make
of it. -/
structure Chained (text : Zone → ℤ → String) (digest : Bytes → Bytes)
    (db : AuditDb Ticket) : Prop where
  log : Forged text digest db.log db.head db.sequence
  writer : ∀ writer, db.writer = some writer →
    Forged text digest (db.log ++ writer.rows) writer.head db.sequence

omit [DecidableEq Ticket] in
theorem Chained.insertAs {db : AuditDb Ticket} (hchained : Chained text digest db)
    {writer : Writer Ticket}
    (hwriter : Forged text digest (db.log ++ writer.rows) writer.head db.sequence)
    (session : Session Zone) (entry : AuditEntry) :
    Chained text digest (insertAs text digest db writer session entry) where
  log := hchained.log.later (Nat.le_succ _)
  writer := by
    intro holder hholder
    cases hholder
    have hinsert := hwriter.insert session entry
    rw [List.append_assoc] at hinsert
    exact hinsert

/-- One step of any transaction keeps the chain. -/
theorem chained_step (db : AuditDb Ticket) (step : AuditStep Zone Ticket)
    (hchained : Chained text digest db) :
    Chained text digest (auditStep text digest db step) := by
  cases hholder : db.writer with
  | none =>
      cases step with
      | insert ticket session entry =>
          simp only [auditStep, hholder]
          apply hchained.insertAs
          rw [List.append_nil]
          exact hchained.log
      | commit | rollback =>
          simp only [auditStep, hholder]
          exact hchained
  | some writer =>
      have hwriter := hchained.writer writer hholder
      cases step with
      | insert ticket session entry =>
          simp only [auditStep, hholder]
          split
          · exact hchained.insertAs hwriter session entry
          · exact hchained
      | commit ticket =>
          simp only [auditStep, hholder]
          split
          · exact ⟨hwriter, nofun⟩
          · exact hchained
      | rollback ticket =>
          simp only [auditStep, hholder]
          split
          · exact ⟨hchained.log, nofun⟩
          · exact hchained

theorem chained_run (steps : List (AuditStep Zone Ticket)) :
    Chained text digest (auditRun text digest steps) := by
  apply run_invariant (fun db step hchained _ => chained_step db step hchained) _
    (along_forall (fun _ _ => trivial) _ steps)
  exact ⟨forged_nil text digest 0, nofun⟩

/-- The committed rows stand in the order of their log ids. -/
theorem byLogId_rows {rows : List SealedRow} (hforged : Forged text digest rows head sequence) :
    byLogId (rows.map SealedRow.row) = rows.map SealedRow.row := by
  apply List.mergeSort_of_pairwise
  have hordered := hforged.ordered
  rw [List.pairwise_map] at hordered ⊢
  apply hordered.imp
  intro row other hlt
  exact decide_eq_true hlt.le

/-! ## Which logs verify -/

/-- A row whose text the verifier renders as the trigger did. -/
def SameText (text : Zone → ℤ → String) (zone : Zone) (sealedRow : SealedRow) : Prop :=
  verifiedPayload text zone sealedRow.row.entry = sealedRow.payload

/-- Every inserted row carries its time, and writer and verifier render it alike. -/
def Stamped (text : Zone → ℤ → String) (zone : Zone) : AuditStep Zone Ticket → Prop
  | .insert _ session entry =>
      ∃ at', entry.createdAt = some at' ∧ text session.zone at' = text zone at'
  | _ => True

theorem verify_eq_none_iff {zone : Zone} {rows : List AuditRow} :
    verifyAuditLogChain text digest zone rows = none ↔
      (auditChain text digest zone).Links (some genesis) (byLogId rows) ∧
        ∀ row ∈ rows, (auditChain text digest zone).Sealed row := by
  rw [verifyAuditLogChain, Option.map_eq_none_iff, HashChain.firstBreak_eq_none_iff]
  simp only [byLogId, List.mem_mergeSort]

/-- A row that carries the hashes of a sealed one verifies if its text is the one that was
hashed. -/
theorem sealed_of_payload {zone : Zone} {row : AuditRow} {prev : Bytes} {payload : String}
    (hprev : row.prevHash = some prev)
    (hhash : row.rowHash = some (digest (prev ++ utf8 payload)))
    (hpayload : verifiedPayload text zone row.entry = payload) :
    (auditChain text digest zone).Sealed row := by
  change computedHash text digest zone row = row.rowHash
  rw [computedHash, hprev, hhash, hpayload, Option.map_some]

/-- Under an injective digest, it verifies only then. -/
theorem payload_of_sealed (hinjective : Function.Injective digest) {zone : Zone}
    {row : AuditRow} {prev : Bytes} {payload : String} (hprev : row.prevHash = some prev)
    (hhash : row.rowHash = some (digest (prev ++ utf8 payload)))
    (hsealed : (auditChain text digest zone).Sealed row) :
    verifiedPayload text zone row.entry = payload := by
  have hsame : computedHash text digest zone row = row.rowHash := hsealed
  rw [computedHash, hprev, hhash, Option.map_some] at hsame
  have hbytes : prev ++ utf8 (verifiedPayload text zone row.entry) = prev ++ utf8 payload :=
    hinjective (Option.some.inj hsame)
  exact utf8_injective (List.append_cancel_left hbytes)

/-- Writer and verifier render every row alike, committed or not. -/
def SameTexts (text : Zone → ℤ → String) (zone : Zone) (db : AuditDb Ticket) : Prop :=
  (∀ sealedRow ∈ db.log, SameText text zone sealedRow) ∧
    ∀ writer, db.writer = some writer → ∀ sealedRow ∈ writer.rows, SameText text zone sealedRow

theorem sameText_sealRow {zone : Zone} {session : Session Zone} {logId : ℕ}
    (hstamped : ∃ at', entry.createdAt = some at' ∧ text session.zone at' = text zone at') :
    SameText text zone (sealRow text digest session logId head entry) := by
  obtain ⟨at', hat, hrender⟩ := hstamped
  change payloadWith (entry.createdAt.elim "" (text zone)) entry =
    payloadWith (entry.createdAt.elim (text session.zone session.now) (text session.zone)) entry
  rw [hat, Option.elim_some, Option.elim_some, hrender]

omit [DecidableEq Ticket] in
theorem SameTexts.insertAs {zone : Zone} {db : AuditDb Ticket}
    (hsame : SameTexts text zone db) {writer : Writer Ticket}
    (hwriter : ∀ sealedRow ∈ writer.rows, SameText text zone sealedRow)
    {session : Session Zone}
    (hstamped : ∃ at', entry.createdAt = some at' ∧ text session.zone at' = text zone at') :
    SameTexts text zone (Audit.insertAs text digest db writer session entry) := by
  refine ⟨hsame.1, ?_⟩
  intro holder hholder sealedRow hsealed
  cases hholder
  cases List.mem_append.mp hsealed with
  | inl hold => exact hwriter sealedRow hold
  | inr hnew =>
      rw [List.mem_singleton.mp hnew]
      exact sameText_sealRow hstamped

theorem sameTexts_step {zone : Zone} (db : AuditDb Ticket) (step : AuditStep Zone Ticket)
    (hsame : SameTexts text zone db) (hstamped : Stamped text zone step) :
    SameTexts text zone (auditStep text digest db step) := by
  cases hholder : db.writer with
  | none =>
      cases step with
      | insert ticket session entry =>
          simp only [auditStep, hholder]
          exact hsame.insertAs (fun _ hsealed => by cases hsealed) hstamped
      | commit | rollback =>
          simp only [auditStep, hholder]
          exact hsame
  | some writer =>
      have hwriter := hsame.2 writer hholder
      cases step with
      | insert ticket session entry =>
          simp only [auditStep, hholder]
          split
          · exact hsame.insertAs hwriter hstamped
          · exact hsame
      | commit ticket =>
          simp only [auditStep, hholder]
          split
          · refine ⟨?_, nofun⟩
            intro sealedRow hsealed
            cases List.mem_append.mp hsealed with
            | inl hold => exact hsame.1 sealedRow hold
            | inr hnew => exact hwriter sealedRow hnew
          · exact hsame
      | rollback ticket =>
          simp only [auditStep, hholder]
          split
          · exact ⟨hsame.1, nofun⟩
          · exact hsame

/-- The committed rows are linked, whatever was inserted. -/
theorem links_run (zone : Zone) (steps : List (AuditStep Zone Ticket)) :
    (auditChain text digest zone).Links (some genesis)
      (byLogId (auditRun text digest steps).rows) := by
  have hchained : Chained text digest (auditRun text digest steps) := chained_run steps
  rw [AuditDb.rows, byLogId_rows hchained.log]
  exact hchained.log.links zone

/-- The committed log verifies after any order of the transactions whose rows carry
their time and are rendered as the verifier does. -/
theorem audit_chain_verifies (text : Zone → ℤ → String) (digest : Bytes → Bytes)
    (zone : Zone) (steps : List (AuditStep Zone Ticket))
    (hstamped : ∀ step ∈ steps, Stamped text zone step) :
    verifyAuditLogChain text digest zone (auditRun text digest steps).rows = none ∧
      (auditChain text digest zone).Links (some genesis)
        (byLogId (auditRun text digest steps).rows) := by
  have hlinks : (auditChain text digest zone).Links (some genesis)
      (byLogId (auditRun text digest steps).rows) := links_run zone steps
  refine ⟨verify_eq_none_iff.mpr ⟨hlinks, ?_⟩, hlinks⟩
  have hsame : SameTexts text zone (auditRun text digest steps) := by
    apply run_invariant sameTexts_step _ (along_of_mem hstamped _)
    constructor
    · intro sealedRow hsealed
      cases hsealed
    · intro writer hwriter
      cases hwriter
  intro row hrow
  obtain ⟨sealedRow, hsealed, rfl⟩ := List.mem_map.mp hrow
  obtain ⟨prev, hprev, hhash⟩ := (chained_run steps).log.hashed sealedRow hsealed
  exact sealed_of_payload hprev hhash (hsame.1 sealedRow hsealed)

/-- The instant of the rows below, as a session in UTC renders it. -/
def utcText (_ : Unit) (_ : ℤ) : String := "2026-01-01 00:00:00+00"

def pickEntry : AuditEntry where
  actionType := "PICK"
  entityType := "SO"
  entityId := 7
  userId := "ada"
  warehouseId := some 1
  details := none
  createdAt := some 1767225600000000

def utcSession : Session Unit := ⟨(), 1767225600000000⟩

/-- Two rows are committed, one before and one after a row that is rolled back. -/
def gapSteps : List (AuditStep Unit (Fin 3)) :=
  [.insert 0 utcSession pickEntry, .commit 0, .insert 1 utcSession pickEntry, .rollback 1,
    .insert 2 utcSession pickEntry, .commit 2]

theorem gapSteps_stamped : ∀ step ∈ gapSteps, Stamped utcText () step := by
  intro step hstep
  simp only [gapSteps, List.mem_cons, List.not_mem_nil, or_false] at hstep
  rcases hstep with rfl | rfl | rfl | rfl | rfl | rfl
  · exact ⟨1767225600000000, rfl, rfl⟩
  · trivial
  · exact ⟨1767225600000000, rfl, rfl⟩
  · trivial
  · exact ⟨1767225600000000, rfl, rfl⟩
  · trivial

/-- The rows on both sides of the gap are linked, and the log verifies. -/
theorem audit_chain_verifies_across_gap :
    (auditRun utcText id gapSteps).rows.map AuditRow.logId = [1, 3] ∧
      verifyAuditLogChain utcText id () (auditRun utcText id gapSteps).rows = none ∧
      (auditChain utcText id ()).Links (some genesis)
        (byLogId (auditRun utcText id gapSteps).rows) :=
  ⟨rfl, audit_chain_verifies utcText id () gapSteps gapSteps_stamped⟩

def untimedEntry : AuditEntry := { pickEntry with createdAt := none }

def untimedRow : SealedRow := sealRow utcText id ⟨(), 1767225600000000⟩ 1 genesis untimedEntry

/-- A row inserted with a NULL `created_at` does not verify. -/
theorem null_created_at_breaks :
    verifyAuditLogChain utcText id () (auditRun utcText id
      [.insert () ⟨(), 1767225600000000⟩ untimedEntry, .commit ()]).rows ≠ none := by
  intro hnone
  obtain ⟨-, hsealed⟩ := verify_eq_none_iff.mp hnone
  have hrow : (auditChain utcText id ()).Sealed untimedRow.row :=
    hsealed untimedRow.row List.mem_cons_self
  have hpayload : verifiedPayload utcText () untimedRow.row.entry = untimedRow.payload :=
    payload_of_sealed Function.injective_id rfl (sealRow_rowHash ..) hrow
  have hsame : payloadWith "" untimedEntry =
      payloadWith "2026-01-01 00:00:00+00" untimedEntry := hpayload
  exact absurd (payloadWith_inj hsame) (by decide)

end SentryWms.Audit
