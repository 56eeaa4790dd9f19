import SentryWms.Stock.WriterOutline

/-!
# One row for each item, bin and lot

The constraint of the table tells rows without a lot apart, so `add_inventory` takes an
advisory lock before it looks for a row.  The credit of a transfer order, the approval of
an adjustment and the import of an item insert without it.  Where such an insert finds no
row of its key when it is committed, nor another transaction that is about to add one,
there is one row for each item, bin and lot.
-/

namespace SentryWms.Stock

open Relational Sessions

/-! ## The condition -/

/-- What the transaction has written, and what it is about to write. -/
def StockMemory.pending (memory : StockMemory) : List StockWrite :=
  memory.own.writes ++
    match memory.phase with
    | .ready write => [write]
    | _ => []

/-- No row has the key of an insert that was not advised. -/
def twinFree (request : MovementRequest) (memory : StockMemory) (db : StockDb) : Prop :=
  Chain (fun write rows => write.effect.unadvised = true → NoTwin write rows) request.now
    memory.own.writes db.inventory

/-- No insert of the one transaction, unadvised, has the key of an advised insert of the
other. -/
def KeysApart (_ : StockDb) (_ : MovementRequest) (memory : StockMemory) (_ : MovementRequest)
    (other : StockMemory) : Prop :=
  ∀ write ∈ memory.own.writes, write.effect.unadvised = true →
    ∀ row ∈ write.effect.inserted, ∀ write' ∈ other.pending,
      write'.effect.unadvised = false → ∀ row' ∈ write'.effect.inserted,
        cellOf row = cellOf row' → row.lotNumber ≠ row'.lotNumber

instance (request : MovementRequest) (memory : StockMemory) (db : StockDb) :
    Decidable (twinFree request memory db) :=
  inferInstanceAs (Decidable (Chain _ _ _ _))

instance (db : StockDb) (request : MovementRequest) (memory : StockMemory)
    (request' : MovementRequest) (other : StockMemory) :
    Decidable (KeysApart db request memory request' other) :=
  inferInstanceAs (Decidable (∀ _ ∈ _, _ → ∀ _ ∈ _, ∀ _ ∈ _, _ → ∀ _ ∈ _, _ → _))

/-! ## Advised inserts -/

/-- What is known, and every advised insert of the transaction finds no twin. -/
structure KnownAlone (request : MovementRequest) (memory : StockMemory) (db : StockDb) :
    Prop where
  known : Known request memory db
  written : Chain (fun write rows => write.effect.unadvised = false → NoTwin write rows)
    request.now memory.own.writes db.inventory
  ready : ∀ write, memory.phase = .ready write → TwinFree request memory db write

variable {write : StockWrite} {row : InventoryRow}

section Steps

variable {request other : MovementRequest} {memory memory' next : StockMemory}
  {isLocked : StockLock → Bool} {db : StockDb}

theorem StockStep.knownAlone (hstep : StockStep request memory isLocked db next)
    (halone : KnownAlone request memory db) : KnownAlone request next db := by
  have hknown := hstep.known halone.known
  cases hstep with
  | advance wanted phase report hfree hphase htwin hreport hpromised =>
      exact ⟨hknown, halone.written, htwin⟩
  | skip | reject =>
      refine ⟨hknown, halone.written, ?_⟩
      intro write hready
      cases hready
  | replace wanted hfree hnext task task' rest htodo hreports =>
      exact ⟨hknown, halone.written, halone.ready⟩
  | write write hfree hfits htwin hkey hpromised =>
      have halone' : TwinFree request memory db write := htwin.elim (halone.ready write) id
      refine ⟨hknown, chain_concat.mpr ⟨halone.written, halone'⟩, ?_⟩
      intro written hready
      cases hready

theorem mem_pending_own (hwrite : write ∈ memory.own.writes) : write ∈ memory.pending :=
  List.mem_append_left _ hwrite

theorem mem_pending_ready (hready : memory.phase = .ready write) : write ∈ memory.pending := by
  rw [StockMemory.pending, hready]
  exact List.mem_append_right _ List.mem_cons_self

theorem insert_of_advised {effect : StockEffect} (hrow : row ∈ effect.inserted)
    (hadvised : effect.unadvised = false) : effect = .insert row true := by
  cases effect with
  | insert inserted advised =>
      cases hrow
      cases advised with
      | true => rfl
      | false => cases hadvised
  | set | add | take | nothing => cases hrow

/-- An advised insert has its advisory lock. -/
theorem Known.advised_locked (hknown : Known request memory db)
    (hwrite : write ∈ memory.pending) (hrow : row ∈ write.effect.inserted)
    (hadvised : write.effect.unadvised = false) :
    .advisory (cellOf row) ∈ memory.locks := by
  have heffect := insert_of_advised hrow hadvised
  cases List.mem_append.mp hwrite with
  | inl hown => exact (hknown.held.backed write hown).advised row heffect
  | inr hready =>
      have hphase := hknown.phase
      cases hat : memory.phase with
      | ready pending =>
          rw [hat] at hready hphase
          rw [List.mem_singleton.mp hready] at heffect
          exact hphase.backed.advised row heffect
      | next | advised | approving =>
          rw [hat] at hready
          cases hready

/-- The keys a commit brings are not those of another's advised inserts. -/
theorem keys_apart (hknown : Known request memory db) (hother : Known other memory' db)
    (hapart : ∀ lock ∈ memory.locks, lock ∉ memory'.locks)
    (hkeys : KeysApart db request memory other memory') {write' : StockWrite}
    (hwrite' : write' ∈ memory'.pending) (hadvised : write'.effect.unadvised = false) :
    ∀ row' ∈ write'.effect.inserted, ∀ identity, memory.own.inserts identity →
      identity.cell = cellOf row' → identity.lotNumber ≠ row'.lotNumber := by
  intro row' hrow' identity hidentity hcell
  obtain ⟨write, hwrite, row, hrow, rfl⟩ := hidentity
  cases hunadvised : write.effect.unadvised with
  | true =>
      exact hkeys write hwrite hunadvised row hrow write' hwrite' hadvised row' hrow' hcell
  | false =>
      have hlocked := hknown.advised_locked (mem_pending_own hwrite) hrow hunadvised
      have hcell' : cellOf row = cellOf row' := hcell
      rw [hcell'] at hlocked
      exact absurd (hother.advised_locked hwrite' hrow' hadvised) (hapart _ hlocked)

theorem KnownAlone.stable (halone : KnownAlone request memory db)
    (hother : KnownAlone other memory' db)
    (hapart : ∀ lock ∈ memory.locks, lock ∉ memory'.locks)
    (hkeys : KeysApart db request memory other memory') :
    KnownAlone other memory' (memory.own.commit request.now db) where
  known := halone.known.stable hapart hother.known
  written := by
    apply Chain.grows _ (halone.known.held.apart hapart hother.known.held)
      halone.known.held.grows hother.known.held.placed hother.written
    intro write hwrite rows rows' hgrows htwin hadvised
    exact NoTwin.grows hgrows
      (keys_apart halone.known hother.known hapart hkeys (mem_pending_own hwrite) hadvised)
      (htwin hadvised)
  ready := by
    intro write hready hadvised
    exact NoTwin.grows (halone.known.held.view_grows hapart hother.known.held)
      (keys_apart halone.known hother.known hapart hkeys (mem_pending_ready hready) hadvised)
      (hother.ready write hready hadvised)

end Steps

theorem row_outline :
    Outline stockProgram (fun db => OneRowEach db.inventory) KnownAlone twinFree
      KeysApart where
  start := by
    intro request db _
    refine ⟨known_start request db, trivial, ?_⟩
    intro write hready
    cases hready
  acquires := fun _ _ _ _ _ hproceed => stock_acquires hproceed
  proceeds := by
    intro request memory isLocked db next _ halone hproceed
    exact (stockStatement_proceed hproceed).knownAlone halone
  commits := by
    intro request memory isLocked db next answer hone halone htwins hcommit
    obtain ⟨_, rfl, _⟩ := stockStatement_commit hcommit
    apply oneRowEach_applyAll halone.known.held.placed _ hone
    apply Chain.imp _ (halone.written.and htwins)
    intro write _ rows hboth
    cases hunadvised : write.effect.unadvised with
    | false => exact hboth.1 hunadvised
    | true => exact hboth.2 hunadvised
  stable := by
    intro request memory isLocked db next answer other memory' _ halone hother _ hapart hkeys
      hcommit
    obtain ⟨_, rfl, _⟩ := stockStatement_commit hcommit
    exact halone.stable hother (apart_of_holds hapart) hkeys

/-! ## Every run -/

section Runs

variable {Ticket : Type*} [Fintype Ticket] [DecidableEq Ticket]

/-- Where every insert that is not advised meets no row of its key, and no advised insert
of another transaction, there is one row for each item, bin and lot. -/
theorem one_row_each (requests : Ticket → MovementRequest) (opening : StockDb)
    (steps : List (Step Ticket)) (hone : OneRowEach opening.inventory)
    (hclear : Along (Sessions.serve stockProgram requests)
      (Clear stockProgram requests twinFree KeysApart)
      (opened stockProgram requests opening) steps) :
    OneRowEach (run (Sessions.serve stockProgram requests)
      (opened stockProgram requests opening) steps).world.inventory :=
  (sound_run row_outline hone hclear).inv

end Runs

namespace EmptyBin

/-- No stock. -/
def opening : StockDb where
  inventory :=
    { rows := []
      nextKey := 1
      keys_nodup := List.nodup_nil
      keys_lt := by decide }
  adjustments :=
    { rows := []
      nextKey := 1
      keys_nodup := List.nodup_nil
      keys_lt := by decide }
  countLines := []
  requireCountApprovalSeparation := none
  events := []
  moves := []

def request (action : StockAction) (newId : ℕ) : MovementRequest where
  username := "bo"
  now := 1
  tasks := [⟨action, 0, newId⟩]

/-- A receipt of an item into a staging bin, and the credit of a transfer there. -/
def arrivals : Fin 2 → MovementRequest
  | 0 => request (.addInventory ⟨1, 1⟩ 1 5 none) 1
  | 1 => request (.creditDestination ⟨1, 1⟩ 1 3) 2

def statements (ticket : Fin 2) (count : ℕ) : List (Step (Fin 2)) :=
  List.replicate count (.advance ticket)

end EmptyBin

theorem one_row_each_in_turn :
    let final := (run (Sessions.serve stockProgram EmptyBin.arrivals)
      (opened stockProgram EmptyBin.arrivals EmptyBin.opening)
      (EmptyBin.statements 1 3 ++ EmptyBin.statements 0 4)).world
    final.inventory.rows = [newRow 1 2 ⟨1, 1⟩ 1 8 none] ∧ OneRowEach final.inventory := by
  have hclear : Along (Sessions.serve stockProgram EmptyBin.arrivals)
      (Clear stockProgram EmptyBin.arrivals twinFree KeysApart)
      (opened stockProgram EmptyBin.arrivals EmptyBin.opening)
      (EmptyBin.statements 1 3 ++ EmptyBin.statements 0 4) := by
    decide +kernel
  exact ⟨by decide +kernel,
    one_row_each EmptyBin.arrivals EmptyBin.opening _ (by decide) hclear⟩

/-- The receipt has taken the advisory lock and found no row; the credit, which takes no
such lock, finds none either; and both insert one. -/
theorem second_row_credited :
    let final := (run (Sessions.serve stockProgram EmptyBin.arrivals)
      (opened stockProgram EmptyBin.arrivals EmptyBin.opening)
      (EmptyBin.statements 0 2 ++ EmptyBin.statements 1 3 ++ EmptyBin.statements 0 2)).world
    final.inventory.rows = [newRow 1 2 ⟨1, 1⟩ 1 3 none, newRow 1 1 ⟨1, 1⟩ 1 5 none] ∧
      ¬ OneRowEach final.inventory := by
  decide +kernel

end SentryWms.Stock
