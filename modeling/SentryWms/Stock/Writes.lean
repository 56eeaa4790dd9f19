import SentryWms.Inventory

/-!
# Inventory writes of one transaction

What a transaction writes to the inventory, row by row: the rows it has found by their
ids, the rows it inserts, and the change each write reports.  The lemmas say what such
a list of writes does to the units of a set of cells, and what survives of it when
others have committed rows of their own meanwhile.
-/

namespace SentryWms.Stock

open Relational

abbrev StockRows := Table InventoryRow InventoryRow.inventoryId

/-- An item in a bin. -/
structure Cell where
  itemId : ℕ
  binId : ℕ
  deriving DecidableEq, Repr

def cellOf (row : InventoryRow) : Cell := ⟨row.itemId, row.binId⟩

/-! ## Writes -/

inductive StockEffect
  /-- `SET quantity_on_hand = :quantity`, computed from what was read. -/
  | set (inventoryId : ℕ) (read quantity : ℤ)
  /-- `SET quantity_on_hand = quantity_on_hand + :quantity`. -/
  | add (inventoryId : ℕ) (quantity : ℕ)
  /-- `SET quantity_on_hand = GREATEST(0, quantity_on_hand - :picked)`, and so the
  reservation, on every row found. -/
  | take (inventoryIds : List ℕ) (picked allocated : ℕ)
  /-- `INSERT`, by `add_inventory` under its advisory lock or without one. -/
  | insert (row : InventoryRow) (advised : Bool)
  | nothing
  deriving DecidableEq, Repr

/-- A write with the change it reports, and the adjustment it approves. -/
structure StockWrite where
  cell : Cell
  change : ℤ
  review : Option InventoryAdjustment
  effect : StockEffect
  deriving DecidableEq, Repr

def setOnHand (now : ℕ) (quantity : ℤ) (row : InventoryRow) : InventoryRow :=
  { row with
    quantityOnHand := quantity
    updatedAt := now }

def takeOnHand (now picked allocated : ℕ) (row : InventoryRow) : InventoryRow :=
  { row with
    quantityOnHand := max 0 (row.quantityOnHand - picked)
    quantityAllocated := max 0 (row.quantityAllocated - allocated)
    updatedAt := now }

def StockEffect.apply (now : ℕ) : StockEffect → StockRows → StockRows
  | .set inventoryId _ quantity, rows =>
      rows.updateKey inventoryId (setOnHand now quantity)
  | .add inventoryId quantity, rows =>
      rows.updateKey inventoryId fun row => setOnHand now (row.quantityOnHand + quantity) row
  | .take inventoryIds picked allocated, rows =>
      rows.update (fun row => row.inventoryId ∈ inventoryIds) (takeOnHand now picked allocated)
  | .insert row _, rows =>
      if hfree : rows.find? row.inventoryId = none then rows.insertAs row hfree else rows
  | .nothing, rows => rows

/-- The writes of a transaction, in their order. -/
def applyAll (now : ℕ) (writes : List StockWrite) (rows : StockRows) : StockRows :=
  run (fun rows write => write.effect.apply now rows) rows writes

/-- The rows a write updates. -/
def StockEffect.touched : StockEffect → List ℕ
  | .set inventoryId _ _ | .add inventoryId _ => [inventoryId]
  | .take inventoryIds _ _ => inventoryIds
  | .insert _ _ | .nothing => []

def StockEffect.inserted : StockEffect → Option InventoryRow
  | .insert row _ => some row
  | _ => none

/-- Units that arrive, by a difference or with a row of their own. -/
def StockEffect.receives : StockEffect → Bool
  | .add _ _ | .insert _ _ => true
  | _ => false

/-- An insert that holds no advisory lock. -/
def StockEffect.unadvised : StockEffect → Bool
  | .insert _ advised => !advised
  | _ => false

/-- The rows a write has locked once it is done. -/
def StockEffect.rowIds (effect : StockEffect) : List ℕ :=
  effect.touched ++ effect.inserted.toList.map InventoryRow.inventoryId

/-- The units a pick finds, up to what it takes of each row. -/
def pickedFrom (inventoryIds : List ℕ) (picked : ℕ) (rows : StockRows) : ℤ :=
  rows.sum fun row =>
    if row.inventoryId ∈ inventoryIds then min row.quantityOnHand picked else 0

/-- What a write adds to the units of its cell. -/
def StockEffect.moved (rows : StockRows) : StockEffect → ℤ
  | .set inventoryId _ quantity =>
      quantity - (rows.find? inventoryId).elim 0 InventoryRow.quantityOnHand
  | .add _ quantity => quantity
  | .take inventoryIds picked _ =>
      -pickedFrom inventoryIds picked rows
  | .insert row _ => row.quantityOnHand
  | .nothing => 0

/-- The writes with the units each of them has moved. -/
def ledger (now : ℕ) : List StockWrite → StockRows → List (StockWrite × ℤ)
  | [], _ => []
  | write :: rest, rows =>
      (write, write.effect.moved rows) :: ledger now rest (write.effect.apply now rows)

/-! ## Conditions on a list of writes -/

/-- Every write finds the rows as it needs them, the earlier ones applied. -/
def Chain (good : StockWrite → StockRows → Prop) (now : ℕ) :
    List StockWrite → StockRows → Prop
  | [], _ => True
  | write :: rest, rows =>
      good write rows ∧ Chain good now rest (write.effect.apply now rows)

instance (good : StockWrite → StockRows → Prop)
    [∀ write rows, Decidable (good write rows)] (now : ℕ) :
    ∀ writes rows, Decidable (Chain good now writes rows)
  | [], _ => .isTrue trivial
  | _ :: rest, _ =>
      have := instDecidableChain good now rest
      inferInstanceAs (Decidable (_ ∧ Chain good now rest _))

/-- The rows written are in the cell, and the ids of new ones free. -/
structure Placed (write : StockWrite) (rows : StockRows) : Prop where
  touched : ∀ inventoryId ∈ write.effect.touched,
    ∃ row ∈ rows.rows, row.inventoryId = inventoryId ∧ cellOf row = write.cell
  inserted : ∀ row ∈ write.effect.inserted,
    rows.find? row.inventoryId = none ∧ cellOf row = write.cell

/-- The rows are as the write needs them: where a quantity is set, the row's units and the
change come to what was read and the change, floored at zero; a pick finds as many units
as it takes; and a write that does nothing reports nothing. -/
def Exact (write : StockWrite) (rows : StockRows) : Prop :=
  match write.effect with
  | .set inventoryId read _ =>
      ∀ row ∈ rows.rows, row.inventoryId = inventoryId →
        row.quantityOnHand + write.change = max 0 (read + write.change)
  | .take inventoryIds picked _ => pickedFrom inventoryIds picked rows = picked
  | .nothing => write.change = 0
  | .add _ _ | .insert _ _ => True

/-- The quantities of a write: none below zero, and the change it reports. -/
def StockWrite.Sane (write : StockWrite) : Prop :=
  match write.effect with
  | .set _ read quantity => quantity = max 0 (read + write.change)
  | .add _ quantity => write.change = quantity
  | .take _ picked _ => write.change = -(picked : ℤ)
  | .insert row _ => 0 ≤ row.quantityOnHand ∧ row.quantityOnHand = write.change
  | .nothing => True

instance (write : StockWrite) (rows : StockRows) : Decidable (Exact write rows) := by
  unfold Exact
  split <;> infer_instance

variable {good' : StockWrite → StockRows → Prop} {inventoryId : ℕ} {row : InventoryRow}

section Lists

variable {good : StockWrite → StockRows → Prop} {now : ℕ} {write : StockWrite}
  {writes : List StockWrite} {rows : StockRows}

theorem applyAll_cons (write : StockWrite) (writes : List StockWrite) (rows : StockRows) :
    applyAll now (write :: writes) rows =
      applyAll now writes (write.effect.apply now rows) := rfl

theorem chain_concat :
    Chain good now (writes ++ [write]) rows ↔
      Chain good now writes rows ∧ good write (applyAll now writes rows) := by
  induction writes generalizing rows with
  | nil => exact and_comm
  | cons first rest ih =>
      change good first rows ∧ Chain good now (rest ++ [write]) _ ↔ _
      rw [ih, applyAll_cons, ← and_assoc]
      rfl

theorem Chain.imp (himp : ∀ write ∈ writes, ∀ rows, good write rows → good' write rows)
    (hchain : Chain good now writes rows) : Chain good' now writes rows := by
  induction writes generalizing rows with
  | nil => trivial
  | cons first rest ih =>
      exact ⟨himp first List.mem_cons_self rows hchain.1,
        ih (fun write hmem => himp write (List.mem_cons_of_mem _ hmem)) hchain.2⟩

theorem Chain.of_forall (hall : ∀ write rows, good write rows) : Chain good now writes rows := by
  induction writes generalizing rows with
  | nil => trivial
  | cons first rest ih => exact ⟨hall first rows, ih⟩

theorem Chain.and (hfirst : Chain good now writes rows) (hsecond : Chain good' now writes rows) :
    Chain (fun write rows => good write rows ∧ good' write rows) now writes rows := by
  induction writes generalizing rows with
  | nil => trivial
  | cons first rest ih =>
      exact ⟨⟨hfirst.1, hsecond.1⟩, ih hfirst.2 hsecond.2⟩

end Lists

/-! ## Units -/

/-- Units on hand in the cells. -/
def unitsIn (cells : Cell → Bool) (rows : StockRows) : ℤ :=
  rows.sum fun row => if cells (cellOf row) then row.quantityOnHand else 0

section Units

variable {cells : Cell → Bool} {now : ℕ} {write : StockWrite} {writes : List StockWrite}
  {rows : StockRows}

/-- Rewriting one row moves the units of its cell. -/
theorem unitsIn_updateKey {set : InventoryRow → InventoryRow}
    {hset : ∀ row, (set row).inventoryId = row.inventoryId}
    (hcell : ∀ row, cellOf (set row) = cellOf row)
    (hfind : rows.find? inventoryId = some row) :
    unitsIn cells (rows.updateKey inventoryId set hset) =
      unitsIn cells rows +
        if cells (cellOf row) then (set row).quantityOnHand - row.quantityOnHand else 0 := by
  rw [unitsIn, Table.sum_updateKey, hfind, Option.elim_some, hcell, unitsIn]
  by_cases hin : cells (cellOf row) = true
  · rw [if_pos hin, if_pos hin, if_pos hin]
  · rw [if_neg hin, if_neg hin, if_neg hin, sub_zero]

/-- A pick takes what it finds, up to its quantity of each row. -/
theorem unitsIn_take {inventoryIds : List ℕ} {picked allocated : ℕ} {cell : Cell}
    (hcell : ∀ row ∈ rows.rows, row.inventoryId ∈ inventoryIds → cellOf row = cell) :
    unitsIn cells (rows.update (fun row => row.inventoryId ∈ inventoryIds)
        (takeOnHand now picked allocated)) =
      unitsIn cells rows -
        if cells cell then pickedFrom inventoryIds picked rows else 0 := by
  have htaken : (rows.sum fun row =>
      if row.inventoryId ∈ inventoryIds then
        (if cells (cellOf row) then max 0 (row.quantityOnHand - picked) else 0) -
          (if cells (cellOf row) then row.quantityOnHand else 0)
      else 0) = 0 - if cells cell then pickedFrom inventoryIds picked rows else 0 := by
    by_cases hin : cells cell = true
    · have hlowered : 0 - pickedFrom inventoryIds picked rows = rows.sum fun row =>
          0 - if row.inventoryId ∈ inventoryIds then min row.quantityOnHand picked else 0 := by
        rw [Table.sum_sub, Table.sum_zero, pickedFrom]
      rw [if_pos hin, hlowered]
      apply Table.sum_congr
      intro row hrow
      by_cases htouched : row.inventoryId ∈ inventoryIds
      · rw [if_pos htouched, if_pos htouched, hcell row hrow htouched, if_pos hin, if_pos hin]
        omega
      · rw [if_neg htouched, if_neg htouched, sub_zero]
    · rw [if_neg hin, sub_zero]
      apply Table.sum_eq_zero
      intro row hrow
      by_cases htouched : row.inventoryId ∈ inventoryIds
      · rw [if_pos htouched, hcell row hrow htouched, if_neg hin, if_neg hin, sub_zero]
      · rw [if_neg htouched]
  calc
    unitsIn cells (rows.update (fun row => row.inventoryId ∈ inventoryIds)
        (takeOnHand now picked allocated)) =
        unitsIn cells rows + rows.sum fun row =>
          if row.inventoryId ∈ inventoryIds then
            (if cells (cellOf row) then max 0 (row.quantityOnHand - picked) else 0) -
              (if cells (cellOf row) then row.quantityOnHand else 0)
          else 0 := by
      rw [unitsIn, Table.sum_update, unitsIn]
      simp only [decide_eq_true_eq]
      rfl
    _ = unitsIn cells rows -
        if cells cell then pickedFrom inventoryIds picked rows else 0 := by
      rw [htaken, zero_sub, ← sub_eq_add_neg]

theorem apply_insert {advised : Bool} (hfree : rows.find? row.inventoryId = none) :
    ((StockEffect.insert row advised).apply now rows).rows = rows.rows ++ [row] := by
  rw [StockEffect.apply, dif_pos hfree]
  rfl

/-- The row a write finds by its id. -/
theorem Placed.find (hplaced : Placed write rows) (htouched : inventoryId ∈ write.effect.touched) :
    ∃ row, rows.find? inventoryId = some row ∧ cellOf row = write.cell := by
  obtain ⟨row, hrow, hid, hcell⟩ := hplaced.touched inventoryId htouched
  exact ⟨row, Table.find?_eq_some_iff.mpr ⟨hrow, hid⟩, hcell⟩

theorem Placed.cell_of_touched (hplaced : Placed write rows) (hrow : row ∈ rows.rows)
    (htouched : row.inventoryId ∈ write.effect.touched) : cellOf row = write.cell := by
  obtain ⟨found, hfound, hcell⟩ := hplaced.find htouched
  rw [Table.find?_eq_some_iff.mpr ⟨hrow, rfl⟩] at hfound
  cases hfound
  exact hcell

/-- A write moves the units of its own cell. -/
theorem unitsIn_apply (hplaced : Placed write rows) :
    unitsIn cells (write.effect.apply now rows) =
      unitsIn cells rows + if cells write.cell then write.effect.moved rows else 0 := by
  obtain ⟨cell, delta, review, effect⟩ := write
  cases effect with
  | set inventoryId read quantity =>
      obtain ⟨row, hfind, rfl⟩ := hplaced.find List.mem_cons_self
      have hset : ∀ row, cellOf (setOnHand now quantity row) = cellOf row := fun _ => rfl
      rw [StockEffect.apply, unitsIn_updateKey hset hfind, StockEffect.moved, hfind]
      rfl
  | add inventoryId quantity =>
      obtain ⟨row, hfind, rfl⟩ := hplaced.find List.mem_cons_self
      have hset : ∀ row, cellOf (setOnHand now (row.quantityOnHand + quantity) row) =
          cellOf row := fun _ => rfl
      rw [StockEffect.apply, unitsIn_updateKey hset hfind, StockEffect.moved, setOnHand,
        add_sub_cancel_left]
  | take inventoryIds picked allocated =>
      have hcell : ∀ row ∈ rows.rows, row.inventoryId ∈ inventoryIds → cellOf row = cell :=
        fun row => hplaced.cell_of_touched
      rw [StockEffect.apply, unitsIn_take hcell, StockEffect.moved]
      by_cases hin : cells cell = true
      · rw [if_pos hin, if_pos hin, sub_eq_add_neg]
      · rw [if_neg hin, if_neg hin, sub_zero, add_zero]
  | insert row advised =>
      obtain ⟨hfree, rfl⟩ := hplaced.inserted row rfl
      rw [unitsIn, Table.sum, apply_insert hfree, List.map_append, List.sum_append]
      simp only [List.map_cons, List.map_nil, List.sum_cons, List.sum_nil, add_zero]
      rfl
  | nothing =>
      rw [StockEffect.apply, StockEffect.moved, ite_self, add_zero]

/-- The units a list of writes moves are those of its ledger. -/
theorem unitsIn_applyAll (hplaced : Chain Placed now writes rows) :
    unitsIn cells (applyAll now writes rows) =
      unitsIn cells rows +
        ((ledger now writes rows).map fun entry =>
          if cells entry.1.cell then entry.2 else 0).sum := by
  induction writes generalizing rows with
  | nil => exact (add_zero _).symm
  | cons write rest ih =>
      rw [applyAll_cons, ih hplaced.2, unitsIn_apply hplaced.1, ledger, List.map_cons,
        List.sum_cons, add_assoc]

/-- A write moves the units it reports exactly where the rows are as it needs them. -/
theorem moved_eq_change_iff (hsane : write.Sane) (hplaced : Placed write rows) :
    write.effect.moved rows = write.change ↔ Exact write rows := by
  obtain ⟨cell, delta, review, effect⟩ := write
  cases effect with
  | set inventoryId read quantity =>
      obtain ⟨row, hfind, -⟩ := hplaced.find List.mem_cons_self
      have hquantity : quantity = max 0 (read + delta) := hsane
      have hmoved : (StockEffect.set inventoryId read quantity).moved rows =
          quantity - row.quantityOnHand := by
        rw [StockEffect.moved, hfind]
        rfl
      rw [hmoved, hquantity]
      constructor
      · intro hchange found hfound hid
        rw [Table.find?_eq_some_iff.mpr ⟨hfound, hid⟩] at hfind
        cases hfind
        change max 0 (read + delta) - row.quantityOnHand = delta at hchange
        change row.quantityOnHand + delta = max 0 (read + delta)
        omega
      · intro hexact
        have hrow := hexact row (Table.find?_mem hfind) (Table.find?_key hfind)
        change row.quantityOnHand + delta = max 0 (read + delta) at hrow
        change _ = delta
        omega
  | add inventoryId quantity =>
      have hchange : delta = quantity := hsane
      exact ⟨fun _ => trivial, fun _ => hchange.symm⟩
  | take inventoryIds picked allocated =>
      have hchange : delta = -(picked : ℤ) := hsane
      change -pickedFrom inventoryIds picked rows = delta ↔
        pickedFrom inventoryIds picked rows = picked
      rw [hchange, neg_inj]
  | insert row advised =>
      have hrow : 0 ≤ row.quantityOnHand ∧ row.quantityOnHand = delta := hsane
      exact ⟨fun _ => trivial, fun _ => hrow.2⟩
  | nothing => exact eq_comm

theorem exact_of_receives (hreceives : write.effect.receives = true) : Exact write rows := by
  obtain ⟨cell, delta, review, effect⟩ := write
  cases effect with
  | add | insert => trivial
  | set | take | nothing => cases hreceives

/-- Where the rows are as every write needs them, the ledger moves what is reported. -/
theorem ledger_exact {covered : StockWrite → Prop}
    (hsane : ∀ write ∈ writes, write.Sane) (hplaced : Chain Placed now writes rows)
    (hexact : Chain (fun write rows => covered write → Exact write rows) now writes rows) :
    ∀ entry ∈ ledger now writes rows, covered entry.1 → entry.2 = entry.1.change := by
  induction writes generalizing rows with
  | nil =>
      intro entry hentry
      cases hentry
  | cons write rest ih =>
      intro entry hentry hcovered
      rw [ledger, List.mem_cons] at hentry
      cases hentry with
      | inl hfirst =>
          subst hfirst
          exact (moved_eq_change_iff (hsane write List.mem_cons_self) hplaced.1).mpr
            (hexact.1 hcovered)
      | inr hrest =>
          exact ih (fun write hmem => hsane write (List.mem_cons_of_mem _ hmem)) hplaced.2
            hexact.2 entry hrest hcovered

/-- No row is below zero. -/
def NonNegative (rows : StockRows) : Prop := ∀ row ∈ rows.rows, 0 ≤ row.quantityOnHand

instance (rows : StockRows) : Decidable (NonNegative rows) :=
  inferInstanceAs (Decidable (∀ _ ∈ _, _))

theorem nonNegative_apply (hsane : write.Sane) (hrows : NonNegative rows) :
    NonNegative (write.effect.apply now rows) := by
  have hupdate : ∀ (test : InventoryRow → Bool) (set : InventoryRow → InventoryRow)
      (hset : ∀ row, (set row).inventoryId = row.inventoryId),
      (∀ row, 0 ≤ row.quantityOnHand → 0 ≤ (set row).quantityOnHand) →
        NonNegative (rows.update test set hset) := by
    intro test set hset hkeeps row hrow
    obtain ⟨old, hold, rfl⟩ := List.mem_map.mp hrow
    split
    · exact hkeeps old (hrows old hold)
    · exact hrows old hold
  obtain ⟨cell, delta, review, effect⟩ := write
  cases effect with
  | set inventoryId read quantity =>
      have hquantity : quantity = max 0 (read + delta) := hsane
      refine hupdate _ (setOnHand now quantity) (fun _ => rfl) ?_
      intro row _
      change 0 ≤ quantity
      omega
  | add inventoryId quantity =>
      refine hupdate _ (fun row => setOnHand now (row.quantityOnHand + quantity) row)
        (fun _ => rfl) ?_
      intro row hrow
      change 0 ≤ row.quantityOnHand + quantity
      omega
  | take inventoryIds picked allocated =>
      refine hupdate _ (takeOnHand now picked allocated) (fun _ => rfl) ?_
      intro row _
      exact le_max_left _ _
  | insert row advised =>
      rw [StockEffect.apply]
      split
      · intro found hfound
        cases List.mem_append.mp hfound with
        | inl hstored => exact hrows found hstored
        | inr hnew =>
            rw [List.mem_singleton.mp hnew]
            exact hsane.1
      · exact hrows
  | nothing => exact hrows

theorem nonNegative_applyAll (hsane : ∀ write ∈ writes, write.Sane)
    (hrows : NonNegative rows) : NonNegative (applyAll now writes rows) := by
  induction writes generalizing rows with
  | nil => exact hrows
  | cons write rest ih =>
      exact ih (fun write hmem => hsane write (List.mem_cons_of_mem _ hmem))
        (nonNegative_apply (hsane write List.mem_cons_self) hrows)

end Units

/-! ## Beside the writes of others -/

/-- What no update of a row changes. -/
structure Identity where
  inventoryId : ℕ
  cell : Cell
  lotNumber : Option String
  deriving DecidableEq, Repr

def identityOf (row : InventoryRow) : Identity := ⟨row.inventoryId, cellOf row, row.lotNumber⟩

def identities (rows : StockRows) : List Identity := rows.rows.map identityOf

/-- No row has gone, and those that have come are `fresh`. -/
structure Grows (fresh : Identity → Prop) (rows rows' : StockRows) : Prop where
  kept : ∀ identity ∈ identities rows, identity ∈ identities rows'
  new : ∀ identity ∈ identities rows', identity ∈ identities rows ∨ fresh identity

/-- An insert finds no row of its item, bin and lot. -/
def NoTwin (write : StockWrite) (rows : StockRows) : Prop :=
  ∀ row ∈ write.effect.inserted, ∀ stored ∈ rows.rows,
    cellOf stored = cellOf row → stored.lotNumber ≠ row.lotNumber

instance (write : StockWrite) (rows : StockRows) : Decidable (NoTwin write rows) :=
  inferInstanceAs (Decidable (∀ _ ∈ _, ∀ _ ∈ _, _ → _))

/-- One row for each item, bin and lot, rows without a lot counting as of one. -/
def OneRowEach (rows : StockRows) : Prop :=
  ∀ row ∈ rows.rows, ∀ other ∈ rows.rows, cellOf row = cellOf other →
    row.lotNumber = other.lotNumber → row = other

instance (rows : StockRows) : Decidable (OneRowEach rows) :=
  inferInstanceAs (Decidable (∀ _ ∈ _, ∀ _ ∈ _, _ → _ → _))

section Growth

variable {fresh : Identity → Prop} {now : ℕ} {write : StockWrite} {writes : List StockWrite}
  {rows rows' : StockRows}

theorem identities_update {test : InventoryRow → Bool} (set : InventoryRow → InventoryRow)
    (hset : ∀ row, (set row).inventoryId = row.inventoryId)
    (hidentity : ∀ row, identityOf (set row) = identityOf row) :
    identities (rows.update test set hset) = identities rows := by
  rw [identities, identities, Table.update, List.map_map]
  apply List.map_congr_left
  intro row _
  rw [Function.comp_apply]
  split
  · exact hidentity row
  · rfl

theorem identities_apply (hplaced : Placed write rows) :
    identities (write.effect.apply now rows) =
      identities rows ++ write.effect.inserted.toList.map identityOf := by
  obtain ⟨cell, delta, review, effect⟩ := write
  cases effect with
  | set inventoryId read quantity =>
      exact (identities_update (setOnHand now quantity)
        (fun _ => rfl) fun _ => rfl).trans (List.append_nil _).symm
  | add inventoryId quantity =>
      exact (identities_update (fun row => setOnHand now (row.quantityOnHand + quantity) row)
        (fun _ => rfl) fun _ => rfl).trans (List.append_nil _).symm
  | take inventoryIds picked allocated =>
      exact (identities_update (takeOnHand now picked allocated)
        (fun _ => rfl) fun _ => rfl).trans (List.append_nil _).symm
  | insert row advised =>
      rw [identities, apply_insert (hplaced.inserted row rfl).1, List.map_append]
      rfl
  | nothing => exact (List.append_nil _).symm

theorem mem_identities_applyAll (hplaced : Chain Placed now writes rows) {identity : Identity} :
    identity ∈ identities (applyAll now writes rows) ↔ identity ∈ identities rows ∨
      ∃ write ∈ writes, ∃ row ∈ write.effect.inserted, identity = identityOf row := by
  induction writes generalizing rows with
  | nil => simp [applyAll, run]
  | cons write rest ih =>
      rw [applyAll_cons, ih hplaced.2, identities_apply hplaced.1]
      simp only [List.mem_append, List.mem_map, Option.mem_toList, List.mem_cons,
        exists_eq_or_imp, or_assoc, eq_comm (a := identity), Option.mem_def]

/-- The writes of one transaction as the others see them. -/
theorem grows_applyAll (hplaced : Chain Placed now writes rows) :
    Grows (fun identity => ∃ write ∈ writes, ∃ row ∈ write.effect.inserted,
      identity = identityOf row) rows (applyAll now writes rows) where
  kept := fun _ hidentity => (mem_identities_applyAll hplaced).mpr (Or.inl hidentity)
  new := fun _ hidentity => (mem_identities_applyAll hplaced).mp hidentity

theorem Placed.grows (hgrows : Grows fresh rows rows')
    (hfree : ∀ row ∈ write.effect.inserted, ∀ identity, fresh identity →
      identity.inventoryId ≠ row.inventoryId)
    (hplaced : Placed write rows) : Placed write rows' where
  touched := by
    intro inventoryId htouched
    obtain ⟨row, hrow, hid, hcell⟩ := hplaced.touched inventoryId htouched
    obtain ⟨row', hrow', hsame⟩ := List.mem_map.mp (hgrows.kept _ (List.mem_map_of_mem hrow))
    exact ⟨row', hrow', (congrArg Identity.inventoryId hsame).trans hid,
      (congrArg Identity.cell hsame).trans hcell⟩
  inserted := by
    intro row hrow
    obtain ⟨hnone, hcell⟩ := hplaced.inserted row hrow
    refine ⟨Table.find?_eq_none_iff.mpr ?_, hcell⟩
    intro stored hstored hid
    cases hgrows.new _ (List.mem_map_of_mem hstored) with
    | inl hold =>
        obtain ⟨old, hmem, hsame⟩ := List.mem_map.mp hold
        exact Table.find?_eq_none_iff.mp hnone old hmem
          ((congrArg Identity.inventoryId hsame).trans hid)
    | inr hfresh => exact hfree row hrow _ hfresh hid

theorem Grows.apply (hgrows : Grows fresh rows rows') (hplaced : Placed write rows)
    (hplaced' : Placed write rows') :
    Grows fresh (write.effect.apply now rows) (write.effect.apply now rows') where
  kept := by
    intro identity hidentity
    rw [identities_apply hplaced, List.mem_append] at hidentity
    rw [identities_apply hplaced', List.mem_append]
    exact hidentity.imp_left (hgrows.kept identity)
  new := by
    intro identity hidentity
    rw [identities_apply hplaced', List.mem_append] at hidentity
    rw [identities_apply hplaced, List.mem_append]
    cases hidentity with
    | inl hstored => exact (hgrows.new identity hstored).imp_left Or.inl
    | inr hinserted => exact Or.inl (Or.inr hinserted)

/-- What the writes find beside the commits of others, they find after them. -/
theorem Chain.grows {good : StockWrite → StockRows → Prop}
    (hgood : ∀ write ∈ writes, ∀ rows rows', Grows fresh rows rows' → good write rows →
      good write rows')
    (hfree : ∀ write ∈ writes, ∀ row ∈ write.effect.inserted, ∀ identity, fresh identity →
      identity.inventoryId ≠ row.inventoryId)
    (hgrows : Grows fresh rows rows') (hplaced : Chain Placed now writes rows)
    (hchain : Chain good now writes rows) : Chain good now writes rows' := by
  induction writes generalizing rows rows' with
  | nil => trivial
  | cons write rest ih =>
      have hfirst := hplaced.1.grows hgrows (hfree write List.mem_cons_self)
      exact ⟨hgood write List.mem_cons_self rows rows' hgrows hchain.1,
        ih (fun write hmem => hgood write (List.mem_cons_of_mem _ hmem))
          (fun write hmem => hfree write (List.mem_cons_of_mem _ hmem))
          (hgrows.apply hplaced.1 hfirst) hplaced.2 hchain.2⟩

theorem chain_placed_grows
    (hfree : ∀ write ∈ writes, ∀ row ∈ write.effect.inserted, ∀ identity, fresh identity →
      identity.inventoryId ≠ row.inventoryId)
    (hgrows : Grows fresh rows rows') (hplaced : Chain Placed now writes rows) :
    Chain Placed now writes rows' :=
  hplaced.grows (fun write hmem _ _ hgrows => Placed.grows hgrows (hfree write hmem)) hfree
    hgrows hplaced

/-- The view of a transaction grows as what is committed does. -/
theorem grows_applyAll_both
    (hfree : ∀ write ∈ writes, ∀ row ∈ write.effect.inserted, ∀ identity, fresh identity →
      identity.inventoryId ≠ row.inventoryId)
    (hgrows : Grows fresh rows rows') (hplaced : Chain Placed now writes rows) :
    Grows fresh (applyAll now writes rows) (applyAll now writes rows') := by
  have hplaced' := chain_placed_grows hfree hgrows hplaced
  constructor
  · intro identity hidentity
    rw [mem_identities_applyAll hplaced] at hidentity
    rw [mem_identities_applyAll hplaced']
    exact hidentity.imp_left (hgrows.kept identity)
  · intro identity hidentity
    rw [mem_identities_applyAll hplaced'] at hidentity
    rw [mem_identities_applyAll hplaced]
    cases hidentity with
    | inl hstored => exact (hgrows.new identity hstored).imp_left Or.inl
    | inr hinserted => exact Or.inl (Or.inr hinserted)

theorem noTwin_iff (hinserted : write.effect.inserted = some row) :
    NoTwin write rows ↔ ∀ identity ∈ identities rows, identity.cell = cellOf row →
      identity.lotNumber ≠ row.lotNumber := by
  rw [NoTwin, hinserted, identities, List.forall_mem_map]
  exact ⟨fun htwin => htwin row rfl, fun htwin found hfound => by cases hfound; exact htwin⟩

/-- No twin comes with rows of other keys. -/
theorem NoTwin.grows (hgrows : Grows fresh rows rows')
    (hapart : ∀ row ∈ write.effect.inserted, ∀ identity, fresh identity →
      identity.cell = cellOf row → identity.lotNumber ≠ row.lotNumber)
    (htwin : NoTwin write rows) : NoTwin write rows' := by
  intro row hrow stored hstored
  cases hgrows.new _ (List.mem_map_of_mem hstored) with
  | inl hold => exact (noTwin_iff hrow).mp htwin _ hold
  | inr hfresh => exact hapart row hrow _ hfresh

/-- Two rows with one identity are one row. -/
theorem oneRowEach_iff : OneRowEach rows ↔
    ∀ identity ∈ identities rows, ∀ other ∈ identities rows,
      identity.cell = other.cell → identity.lotNumber = other.lotNumber →
        identity.inventoryId = other.inventoryId := by
  rw [identities, List.forall_mem_map]
  simp only [List.forall_mem_map]
  constructor
  · intro hone row hrow other hother hcell hlot
    exact congrArg InventoryRow.inventoryId (hone row hrow other hother hcell hlot)
  · intro hone row hrow other hother hcell hlot
    have hid : row.inventoryId = other.inventoryId := hone row hrow other hother hcell hlot
    have hfirst := Table.find?_eq_some_iff.mpr ⟨hrow, rfl⟩
    have hsecond := Table.find?_eq_some_iff.mpr ⟨hother, rfl⟩
    rw [hid] at hfirst
    exact Option.some_inj.mp (hfirst.symm.trans hsecond)

theorem oneRowEach_apply (hplaced : Placed write rows) (htwin : NoTwin write rows)
    (hone : OneRowEach rows) : OneRowEach (write.effect.apply now rows) := by
  rw [oneRowEach_iff] at hone ⊢
  rw [identities_apply hplaced]
  cases hinserted : write.effect.inserted with
  | none => simpa using hone
  | some row =>
      rw [noTwin_iff hinserted] at htwin
      intro identity hidentity other hother hcell hlot
      simp only [Option.toList_some, List.map_cons, List.map_nil, List.mem_append,
        List.mem_singleton] at hidentity hother
      cases hidentity with
      | inl hstored =>
          cases hother with
          | inl hstored' => exact hone identity hstored other hstored' hcell hlot
          | inr hnew =>
              subst hnew
              exact absurd hlot (htwin identity hstored hcell)
      | inr hnew =>
          subst hnew
          cases hother with
          | inl hstored => exact absurd hlot.symm (htwin other hstored hcell.symm)
          | inr hsame =>
              subst hsame
              rfl

theorem oneRowEach_applyAll (hplaced : Chain Placed now writes rows)
    (htwin : Chain NoTwin now writes rows) (hone : OneRowEach rows) :
    OneRowEach (applyAll now writes rows) := by
  induction writes generalizing rows with
  | nil => exact hone
  | cons write rest ih =>
      exact ih hplaced.2 htwin.2 (oneRowEach_apply hplaced.1 htwin.1 hone)

end Growth

end SentryWms.Stock
