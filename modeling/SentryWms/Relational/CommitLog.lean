import SentryWms.Relational.Run
import Mathlib.Data.List.Nodup
import Mathlib.Data.List.Perm.Subperm
import Mathlib.Order.Nat

/-!
# Logs written by concurrent transactions

A transaction draws the id of an entry from a sequence when it writes the entry, and
others see the entry when the transaction commits.  Transactions stay open for any
time and commit in any order, so entries are not seen in the order of their ids.  Just
before the commit every entry is stamped with the time.
-/

namespace Relational

structure Entry (Payload : Type*) where
  id : ℕ
  txnId : ℕ
  payload : Payload
  stamp : Option ℕ
  deriving DecidableEq, Repr

/-- A committed transaction: its entries, and what else it did. -/
structure Transaction (Payload Effect : Type*) where
  txnId : ℕ
  entries : List (Entry Payload)
  effects : List Effect
  deriving DecidableEq, Repr

/-- Entries and effects of open transactions, and the committed transactions in the
order of their commits.  Ids are positive, unique and below the sequence value. -/
structure CommitLog (Payload Effect : Type*) where
  clock : ℕ
  nextId : ℕ
  written : List (Entry Payload)
  pending : List (ℕ × Effect)
  committed : List (Transaction Payload Effect)
  nextId_pos : 0 < nextId
  ids_nodup : ((written ++ committed.flatMap Transaction.entries).map Entry.id).Nodup
  ids_lt : ∀ entry ∈ written ++ committed.flatMap Transaction.entries,
    0 < entry.id ∧ entry.id < nextId

inductive LogStep (Payload Effect : Type*)
  | tick (elapsed : ℕ)
  | draw (txnId : ℕ) (payload : Payload)
  | affect (txnId : ℕ) (effect : Effect)
  | stamp (id : ℕ)
  | commit (txnId : ℕ)
  | abort (txnId : ℕ)
  deriving DecidableEq, Repr

namespace CommitLog

variable {Payload Effect : Type*}

def empty : CommitLog Payload Effect where
  clock := 0
  nextId := 1
  written := []
  pending := []
  committed := []
  nextId_pos := Nat.one_pos
  ids_nodup := List.nodup_nil
  ids_lt := by simp

/-- The entries others see. -/
def entries (log : CommitLog Payload Effect) : List (Entry Payload) :=
  log.committed.flatMap Transaction.entries

/-- All entries, seen or not. -/
def all (log : CommitLog Payload Effect) : List (Entry Payload) := log.written ++ log.entries

theorem mem_all {log : CommitLog Payload Effect} {entry : Entry Payload} :
    entry ∈ log.all ↔ entry ∈ log.written ∨ entry ∈ log.entries :=
  List.mem_append

/-- An entry is told by its id. -/
theorem eq_of_id {log : CommitLog Payload Effect} {left right : Entry Payload}
    (hleft : left ∈ log.all) (hright : right ∈ log.all) (hid : left.id = right.id) :
    left = right :=
  List.inj_on_of_nodup_map log.ids_nodup hleft hright hid

theorem id_lt {log : CommitLog Payload Effect} {entry : Entry Payload}
    (hentry : entry ∈ log.all) : entry.id < log.nextId :=
  (log.ids_lt entry hentry).2

theorem id_pos {log : CommitLog Payload Effect} {entry : Entry Payload}
    (hentry : entry ∈ log.all) : 0 < entry.id :=
  (log.ids_lt entry hentry).1

def tick (elapsed : ℕ) (log : CommitLog Payload Effect) : CommitLog Payload Effect :=
  { log with clock := log.clock + elapsed }

/-- An open transaction writes an entry, under the next id. -/
def draw (txnId : ℕ) (payload : Payload) (log : CommitLog Payload Effect) :
    CommitLog Payload Effect where
  clock := log.clock
  nextId := log.nextId + 1
  written := ⟨log.nextId, txnId, payload, none⟩ :: log.written
  pending := log.pending
  committed := log.committed
  nextId_pos := Nat.succ_pos _
  ids_nodup := by
    rw [List.cons_append, List.map_cons, List.nodup_cons]
    refine ⟨fun hmem => ?_, log.ids_nodup⟩
    obtain ⟨entry, hentry, hid⟩ := List.mem_map.mp hmem
    exact (Nat.ne_of_lt (log.ids_lt entry hentry).2) hid
  ids_lt := by
    intro entry hentry
    rcases List.mem_cons.mp hentry with rfl | hold
    · exact ⟨log.nextId_pos, Nat.lt_succ_self _⟩
    · exact ⟨(log.ids_lt entry hold).1, Nat.lt_succ_of_lt (log.ids_lt entry hold).2⟩

/-- An open transaction does something else. -/
def affect (txnId : ℕ) (effect : Effect) (log : CommitLog Payload Effect) :
    CommitLog Payload Effect :=
  { log with pending := log.pending ++ [(txnId, effect)] }

/-- The entry of an open transaction is stamped. -/
def stampEntry (clock id : ℕ) (entry : Entry Payload) : Entry Payload :=
  if entry.id = id then { entry with stamp := some clock } else entry

theorem stampEntry_id (clock id : ℕ) (entry : Entry Payload) :
    (stampEntry clock id entry).id = entry.id := by
  unfold stampEntry
  split <;> rfl

theorem stampEntry_payload (clock id : ℕ) (entry : Entry Payload) :
    (stampEntry clock id entry).payload = entry.payload := by
  unfold stampEntry
  split <;> rfl

theorem map_stampEntry (clock id : ℕ) (entries : List (Entry Payload)) :
    (entries.map (stampEntry clock id)).map Entry.id = entries.map Entry.id := by
  rw [List.map_map]
  apply List.map_congr_left
  intro entry _
  exact stampEntry_id clock id entry

def stamp (id : ℕ) (log : CommitLog Payload Effect) : CommitLog Payload Effect where
  clock := log.clock
  nextId := log.nextId
  written := log.written.map (stampEntry log.clock id)
  pending := log.pending
  committed := log.committed
  nextId_pos := log.nextId_pos
  ids_nodup := by
    rw [List.map_append, map_stampEntry, ← List.map_append]
    exact log.ids_nodup
  ids_lt := by
    intro entry hentry
    rcases List.mem_append.mp hentry with hwritten | hcommitted
    · obtain ⟨old, hold, rfl⟩ := List.mem_map.mp hwritten
      rw [stampEntry_id]
      exact log.ids_lt old (List.mem_append_left _ hold)
    · exact log.ids_lt entry (List.mem_append_right _ hcommitted)

/-- The entries of a transaction are all stamped. -/
def stamped (txnId : ℕ) (log : CommitLog Payload Effect) : Bool :=
  log.written.all fun entry => entry.txnId ≠ txnId ∨ entry.stamp.isSome

/-- What an open transaction commits. -/
def ready (txnId : ℕ) (log : CommitLog Payload Effect) :
    Transaction Payload Effect where
  txnId := txnId
  entries := log.written.filter fun entry => entry.txnId = txnId
  effects := (log.pending.filter fun pending => pending.1 = txnId).map Prod.snd

/-- The log without the open transaction, with others as committed. -/
def settle (txnId : ℕ) (committed : List (Transaction Payload Effect))
    (log : CommitLog Payload Effect)
    (hids : ((log.written.filter fun entry => entry.txnId ≠ txnId) ++
      committed.flatMap Transaction.entries).Subperm log.all) :
    CommitLog Payload Effect where
  clock := log.clock
  nextId := log.nextId
  written := log.written.filter fun entry => entry.txnId ≠ txnId
  pending := log.pending.filter fun pending => pending.1 ≠ txnId
  committed := committed
  nextId_pos := log.nextId_pos
  ids_nodup := by
    obtain ⟨sub, hperm, hsub⟩ := hids
    exact ((hperm.map Entry.id).nodup_iff).mp (log.ids_nodup.sublist (hsub.map Entry.id))
  ids_lt := fun entry hentry => log.ids_lt entry (hids.subset hentry)

/-- Entries and effects of the transaction become visible together. -/
def commit (txnId : ℕ) (log : CommitLog Payload Effect) : CommitLog Payload Effect :=
  if log.stamped txnId then
    log.settle txnId (log.committed ++ [log.ready txnId]) (by
      rw [List.flatMap_append, List.flatMap_singleton, all]
      apply List.Perm.subperm
      calc
        ((log.written.filter fun entry => entry.txnId ≠ txnId) ++
            (log.committed.flatMap Transaction.entries ++ (log.ready txnId).entries)).Perm
            (((log.written.filter fun entry => entry.txnId ≠ txnId) ++
              (log.ready txnId).entries) ++ log.entries) := by
          rw [List.append_assoc]
          exact List.perm_append_comm.append_left _
        List.Perm _ (log.written ++ log.entries) := by
          apply List.Perm.append_right
          refine List.perm_append_comm.trans ?_
          have hsplit := List.filter_append_perm
            (fun entry : Entry Payload => decide (entry.txnId = txnId)) log.written
          simp only [← decide_not] at hsplit
          exact hsplit)
  else log

/-- The entries of the transaction are gone; their ids are not drawn again. -/
def abort (txnId : ℕ) (log : CommitLog Payload Effect) : CommitLog Payload Effect :=
  log.settle txnId log.committed ((List.filter_sublist.append_right _).subperm)

def serve (log : CommitLog Payload Effect) :
    LogStep Payload Effect → CommitLog Payload Effect
  | .tick elapsed => log.tick elapsed
  | .draw txnId payload => log.draw txnId payload
  | .affect txnId effect => log.affect txnId effect
  | .stamp id => log.stamp id
  | .commit txnId => log.commit txnId
  | .abort txnId => log.abort txnId

/-! ## What a log becomes -/

/-- The entry was written before by a transaction then open, or its id is drawn
since. -/
def Unseen (log : CommitLog Payload Effect) (entry : Entry Payload) : Prop :=
  (∃ old ∈ log.written, old.id = entry.id ∧ old.payload = entry.payload) ∨ log.nextId ≤ entry.id

/-- The second log follows the first: more is committed, of entries unseen before. -/
structure Follows (before after : CommitLog Payload Effect) : Prop where
  nextId : before.nextId ≤ after.nextId
  committed : ∃ tail, after.committed = before.committed ++ tail ∧
    ∀ transaction ∈ tail, ∀ entry ∈ transaction.entries, Unseen before entry
  written : ∀ entry ∈ after.written, Unseen before entry

theorem unseen_of_written {log : CommitLog Payload Effect} {entry : Entry Payload}
    (hentry : entry ∈ log.written) : Unseen log entry :=
  Or.inl ⟨entry, hentry, rfl, rfl⟩

theorem Follows.refl (log : CommitLog Payload Effect) : Follows log log :=
  ⟨le_refl _, ⟨[], (List.append_nil _).symm, by simp⟩, fun _ => unseen_of_written⟩

theorem Follows.unseen {before after : CommitLog Payload Effect}
    (hfollows : Follows before after) {entry : Entry Payload}
    (hunseen : Unseen after entry) : Unseen before entry := by
  rcases hunseen with ⟨old, hold, hid, hpayload⟩ | hdrawn
  · rw [Unseen, ← hid, ← hpayload]
    exact hfollows.written old hold
  · exact Or.inr (hfollows.nextId.trans hdrawn)

theorem Follows.trans {before middle after : CommitLog Payload Effect}
    (hfirst : Follows before middle) (hsecond : Follows middle after) :
    Follows before after := by
  obtain ⟨front, hfront, hfrontUnseen⟩ := hfirst.committed
  obtain ⟨back, hback, hbackUnseen⟩ := hsecond.committed
  refine ⟨hfirst.nextId.trans hsecond.nextId, ⟨front ++ back, ?_, ?_⟩, ?_⟩
  · rw [hback, hfront, List.append_assoc]
  · intro transaction htransaction entry hentry
    rcases List.mem_append.mp htransaction with hmem | hmem
    · exact hfrontUnseen transaction hmem entry hentry
    · exact hfirst.unseen (hbackUnseen transaction hmem entry hentry)
  · intro entry hentry
    exact hfirst.unseen (hsecond.written entry hentry)

/-- What one step of a transaction does to the log. -/
theorem follows_serve (log : CommitLog Payload Effect) (step : LogStep Payload Effect) :
    Follows log (log.serve step) := by
  have hsame : ∃ tail, log.committed = log.committed ++ tail ∧
      ∀ transaction ∈ tail, ∀ entry ∈ transaction.entries, Unseen log entry :=
    ⟨[], (List.append_nil _).symm, by simp⟩
  cases step with
  | tick elapsed => exact ⟨le_refl _, hsame, fun _ => unseen_of_written⟩
  | draw txnId payload =>
      refine ⟨Nat.le_succ _, hsame, fun entry hentry => ?_⟩
      rcases List.mem_cons.mp hentry with rfl | hold
      · exact Or.inr (le_refl _)
      · exact unseen_of_written hold
  | affect txnId effect => exact ⟨le_refl _, hsame, fun _ => unseen_of_written⟩
  | stamp id =>
      refine ⟨le_refl _, hsame, fun entry hentry => ?_⟩
      obtain ⟨old, hold, rfl⟩ := List.mem_map.mp hentry
      exact Or.inl ⟨old, hold, (stampEntry_id log.clock id old).symm,
        (stampEntry_payload log.clock id old).symm⟩
  | commit txnId =>
      rw [serve, commit]
      by_cases hstamped : log.stamped txnId
      · rw [if_pos hstamped]
        refine ⟨le_refl _, ⟨[log.ready txnId], rfl, ?_⟩, fun entry hentry =>
          unseen_of_written (List.mem_of_mem_filter hentry)⟩
        intro transaction htransaction entry hentry
        rw [List.mem_singleton.mp htransaction] at hentry
        exact unseen_of_written (List.mem_of_mem_filter hentry)
      · rw [if_neg hstamped]
        exact Follows.refl log
  | abort txnId =>
      exact ⟨le_refl _, hsame, fun entry hentry =>
        unseen_of_written (List.mem_of_mem_filter hentry)⟩

theorem follows_run (log : CommitLog Payload Effect)
    (steps : List (LogStep Payload Effect)) : Follows log (run serve log steps) := by
  induction steps generalizing log with
  | nil => exact Follows.refl log
  | cons step rest ih => exact (follows_serve log step).trans (ih _)

/-- What is committed stays committed. -/
theorem Follows.mem_entries {before after : CommitLog Payload Effect}
    (hfollows : Follows before after) {entry : Entry Payload}
    (hentry : entry ∈ before.entries) : entry ∈ after.entries := by
  obtain ⟨tail, htail, -⟩ := hfollows.committed
  rw [entries, htail, List.flatMap_append]
  exact List.mem_append_left _ hentry

/-- An entry of a later log was there before, or it was unseen. -/
theorem Follows.origin {before after : CommitLog Payload Effect}
    (hfollows : Follows before after) {entry : Entry Payload}
    (hentry : entry ∈ after.all) : entry ∈ before.entries ∨ Unseen before entry := by
  obtain ⟨tail, htail, hunseen⟩ := hfollows.committed
  rcases mem_all.mp hentry with hwritten | hcommitted
  · exact Or.inr (hfollows.written entry hwritten)
  · rw [entries, htail, List.flatMap_append] at hcommitted
    rcases List.mem_append.mp hcommitted with hold | hnew
    · exact Or.inl hold
    · obtain ⟨transaction, htransaction, hmem⟩ := List.mem_flatMap.mp hnew
      exact Or.inr (hunseen transaction htransaction entry hmem)

end CommitLog

end Relational
