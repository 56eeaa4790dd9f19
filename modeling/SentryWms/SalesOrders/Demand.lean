import Mathlib.Data.List.Induction
import SentryWms.System

/-!
# What partial fulfilment does to the demand

Every entry is checked against the lines as they were before any of them is applied, and each
one overwrites the quantity of its line; a line that is shrunk keeps its reservation.  Here
the quantities of the parent and of its backorder are compared with those before, for every
list of entries that is accepted.
-/

namespace SentryWms.SalesOrders

open Relational Inventory

/-! ## The property -/

/-- What the line asks for; nothing, if there is no line. -/
def remainingOrdered (db : Db) (soLineId : ℕ) : ℤ :=
  ((db.salesOrderLines.find? soLineId).map SalesOrderLine.quantityOrdered).getD 0

/-- The entry that a line of the backorder was written for, by its number. -/
def entryOf (request : PartialFulfillRequest) (line : SalesOrderLine) : Option ShortEntry :=
  request.lines[line.lineNumber.toNat - 1]?

/-- What the lines of the backorder that were written for the line ask for. -/
def backordered (request : PartialFulfillRequest) (boSoId soLineId : ℕ) (db : Db) : ℤ :=
  ((linesOf db boSoId).map fun line =>
    if (entryOf request line).any (·.soLineId = soLineId) then line.quantityOrdered else 0).sum

/-- No quantity of the line is negative. -/
structure NonNegLine (line : SalesOrderLine) : Prop where
  ordered : 0 ≤ line.quantityOrdered
  allocated : 0 ≤ line.quantityAllocated
  picked : 0 ≤ line.quantityPicked
  packed : 0 ≤ line.quantityPacked
  shipped : 0 ≤ line.quantityShipped
  received : 0 ≤ line.quantityReceived

/-- The line reserves and has picked no more than it asks for. -/
structure CoveredLine (line : SalesOrderLine) : Prop where
  allocated : line.quantityAllocated ≤ line.quantityOrdered
  picked : line.quantityPicked ≤ line.quantityOrdered

/-- The demand of every line is split between parent and backorder, and the lines left are
sound. -/
structure DemandKept (request : PartialFulfillRequest) (boSoId : ℕ) (before after : Db) :
    Prop where
  demand : ∀ line ∈ linesOf before request.soId,
    remainingOrdered after line.soLineId + backordered request boSoId line.soLineId after =
      line.quantityOrdered
  nonneg : ∀ line ∈ linesOf after request.soId ++ linesOf after boSoId, NonNegLine line
  covered : ∀ line ∈ linesOf after request.soId, CoveredLine line

/-! ## The condition -/

/-- What the first entry for the line takes off it. -/
def shortOf? (request : PartialFulfillRequest) (soLineId : ℕ) : Option ℤ :=
  (request.lines.find? fun entry => entry.soLineId = soLineId).map ShortEntry.shortQty

/-- The line less what is taken off it, unless nothing is left. -/
def lessShort (line : SalesOrderLine) : Option ℤ → Option SalesOrderLine
  | none => some line
  | some shortQty =>
      if line.quantityOrdered - shortQty = 0 then none
      else some { line with quantityOrdered := line.quantityOrdered - shortQty }

/-- The entries name different lines, and no line is left with less than it reserves. -/
structure SplitsApart (request : PartialFulfillRequest) (db : Db) : Prop where
  distinct : (request.lines.map ShortEntry.soLineId).Nodup
  left : ∀ line ∈ linesOf db request.soId,
    ∀ kept ∈ lessShort line (shortOf? request line.soLineId), NonNegLine kept ∧ CoveredLine kept

variable {db db' : Db} {inputs : List (ShortEntry × SalesOrderLine)}

/-! ## Shrinking -/

section Shrinking

variable {ctx : RequestContext} {warehouseId : ℕ} {reasonDetail boSoNumber : String}

/-- What one input does to the row of a line. -/
def shrinkRow (soLineId : ℕ) (row? : Option SalesOrderLine)
    (input : ShortEntry × SalesOrderLine) : Option SalesOrderLine :=
  if soLineId = input.2.soLineId then
    if input.2.quantityOrdered - input.1.shortQty = 0 then none
    else row?.map fun row =>
      { row with quantityOrdered := input.2.quantityOrdered - input.1.shortQty }
  else row?

theorem writeShortAdjustment_lines (itemId : ℕ) (shortQty : ℤ) (db : Db) :
    (writeShortAdjustment ctx itemId warehouseId shortQty reasonDetail boSoNumber
      db).salesOrderLines = db.salesOrderLines ∧
    (writeShortAdjustment ctx itemId warehouseId shortQty reasonDetail boSoNumber
      db).salesOrders = db.salesOrders := by
  unfold writeShortAdjustment
  split <;> exact ⟨rfl, rfl⟩

theorem shrinkLine_spec {input : ShortEntry × SalesOrderLine}
    (hok : shrinkLine ctx warehouseId reasonDetail boSoNumber db input = .ok db') :
    (∀ soLineId, db'.salesOrderLines.find? soLineId =
      shrinkRow soLineId (db.salesOrderLines.find? soLineId) input) ∧
    db'.salesOrderLines.nextKey = db.salesOrderLines.nextKey ∧
      db'.salesOrders = db.salesOrders := by
  unfold shrinkLine at hok
  dsimp only at hok
  split at hok
  · rename_i hzero
    obtain ⟨deleted, hdeleted, hfinal⟩ := bind_eq_ok.mp hok
    rw [pure_eq_ok] at hfinal
    subst hfinal
    simp only [deleteLine, bind_eq_ok, require_eq_ok, pure_eq_ok] at hdeleted
    obtain ⟨-, -, -, -, rfl⟩ := hdeleted
    obtain ⟨hlines, horders⟩ := @writeShortAdjustment_lines ctx warehouseId reasonDetail
      boSoNumber input.2.itemId input.1.shortQty _
    rw [hlines, horders]
    refine ⟨?_, rfl, rfl⟩
    intro soLineId
    rw [Table.find?_deleteKey, shrinkRow, if_pos hzero]
  · rename_i hleft
    obtain ⟨resized, hresized, hfinal⟩ := bind_eq_ok.mp hok
    rw [pure_eq_ok] at hresized hfinal
    subst hresized hfinal
    obtain ⟨hlines, horders⟩ := @writeShortAdjustment_lines ctx warehouseId reasonDetail
      boSoNumber input.2.itemId input.1.shortQty _
    rw [hlines, horders]
    refine ⟨?_, rfl, rfl⟩
    intro soLineId
    rw [shrinkRow, if_neg hleft]
    exact Table.find?_updateKey db.salesOrderLines (fun row =>
      { row with quantityOrdered := input.2.quantityOrdered - input.1.shortQty })
      (fun _ => rfl) _ _

theorem shrinkLines_spec
    (hok : shrinkLines ctx warehouseId reasonDetail boSoNumber inputs db = .ok db') :
    (∀ soLineId, db'.salesOrderLines.find? soLineId =
      inputs.foldl (shrinkRow soLineId) (db.salesOrderLines.find? soLineId)) ∧
    db'.salesOrderLines.nextKey = db.salesOrderLines.nextKey ∧
      db'.salesOrders = db.salesOrders := by
  induction inputs generalizing db with
  | nil =>
      obtain rfl : db = db' := by simpa [shrinkLines] using hok
      exact ⟨fun _ => rfl, rfl, rfl⟩
  | cons input rest ih =>
      obtain ⟨shrunk, hline, hrest⟩ := bind_eq_ok.mp hok
      obtain ⟨hrows, hkey, horders⟩ := shrinkLine_spec hline
      obtain ⟨hrows', hkey', horders'⟩ := ih hrest
      refine ⟨?_, hkey'.trans hkey, horders'.trans horders⟩
      intro soLineId
      rw [hrows', hrows]
      rfl

end Shrinking

/-! ### The rows after the shrinking -/

/-- What is taken off the line, entry by entry. -/
def shortsOf (soLineId : ℕ) (entries : List ShortEntry) : List ℤ :=
  (entries.filter fun entry => entry.soLineId = soLineId).map ShortEntry.shortQty

/-- The inputs are the entries with the lines that they name. -/
structure InputsOf (db : Db) (soId : ℕ) (entries : List ShortEntry)
    (inputs : List (ShortEntry × SalesOrderLine)) : Prop where
  entries : inputs.map Prod.fst = entries
  lines : ∀ input ∈ inputs, input.2 ∈ linesOf db soId ∧
    input.2.soLineId = input.1.soLineId ∧
      input.1.shortQty ≤ input.2.quantityOrdered - input.2.quantityPicked

theorem inputsOf_checkShortEntries {order : SalesOrder} {entries : List ShortEntry}
    (hok : checkShortEntries db order entries = .ok inputs) :
    InputsOf db order.soId entries inputs := by
  induction entries generalizing inputs with
  | nil =>
      cases hok
      exact ⟨rfl, fun _ hmem => (List.not_mem_nil hmem).elim⟩
  | cons entry rest ih =>
      simp only [checkShortEntries, bind_eq_ok, orThrow_eq_ok, require_eq_ok, pure_eq_ok] at hok
      obtain ⟨line, hline, -, hshort, others, hothers, rfl⟩ := hok
      have hrest := ih hothers
      refine ⟨congrArg (entry :: ·) hrest.entries, ?_⟩
      rintro input (_ | ⟨_, hmem⟩)
      · obtain ⟨hfind, hsoId⟩ := Option.filter_eq_some_iff.mp hline
        exact ⟨mem_linesOf.mpr ⟨Table.find?_mem hfind, by simpa using hsoId⟩,
          Table.find?_key hfind, hshort⟩
      · exact hrest.lines input hmem

section Rows

variable {db : Db} {soId : ℕ} {entries : List ShortEntry}
  {inputs : List (ShortEntry × SalesOrderLine)} {line : SalesOrderLine}

theorem InputsOf.eq_line (hinputs : InputsOf db soId entries inputs)
    (hline : line ∈ linesOf db soId) {input : ShortEntry × SalesOrderLine}
    (hinput : input ∈ inputs) (hkey : line.soLineId = input.2.soLineId) : input.2 = line := by
  obtain ⟨hmem, -, -⟩ := hinputs.lines input hinput
  exact List.inj_on_of_nodup_map db.salesOrderLines.keys_nodup (mem_linesOf.mp hmem).1
    (mem_linesOf.mp hline).1 hkey.symm

/-- One entry for the line, as it stood before all entries. -/
def applyShort (line : SalesOrderLine) (row? : Option SalesOrderLine) (shortQty : ℤ) :
    Option SalesOrderLine :=
  if line.quantityOrdered - shortQty = 0 then none
  else row?.map fun row => { row with quantityOrdered := line.quantityOrdered - shortQty }

theorem foldl_shrinkRow (hinputs : InputsOf db soId entries inputs)
    (hline : line ∈ linesOf db soId) (row? : Option SalesOrderLine) :
    inputs.foldl (shrinkRow line.soLineId) row? =
      (shortsOf line.soLineId entries).foldl (applyShort line) row? := by
  obtain ⟨rfl, hlines⟩ := hinputs
  induction inputs generalizing row? with
  | nil => rfl
  | cons input rest ih =>
      have hrest : ∀ other ∈ rest, other.2 ∈ linesOf db soId ∧
          other.2.soLineId = other.1.soLineId ∧
            other.1.shortQty ≤ other.2.quantityOrdered - other.2.quantityPicked :=
        fun other hother => hlines other (List.mem_cons_of_mem input hother)
      obtain ⟨hstored, hkey, -⟩ := hlines input List.mem_cons_self
      rw [List.foldl_cons, ih _ hrest]
      by_cases hnamed : input.1.soLineId = line.soLineId
      · have hsame : input.2 = line :=
          InputsOf.eq_line ⟨rfl, hlines⟩ hline List.mem_cons_self (hnamed.symm.trans hkey.symm)
        have hshorts : shortsOf line.soLineId ((input :: rest).map Prod.fst) =
            input.1.shortQty :: shortsOf line.soLineId (rest.map Prod.fst) := by
          simp [shortsOf, hnamed]
        rw [hshorts, List.foldl_cons, shrinkRow, if_pos (by rw [hsame]), hsame]
        rfl
      · have hshorts : shortsOf line.soLineId ((input :: rest).map Prod.fst) =
            shortsOf line.soLineId (rest.map Prod.fst) := by
          simp [shortsOf, hnamed]
        have hother : ¬ line.soLineId = input.2.soLineId := by
          rw [hkey]
          exact fun heq => hnamed heq.symm
        rw [hshorts, shrinkRow, if_neg hother]

/-- A line is gone only if an entry took all of it. -/
theorem exists_of_applied_none {shorts : List ℤ}
    (hnone : shorts.foldl (applyShort line) (some line) = none) :
    ∃ shortQty ∈ shorts, line.quantityOrdered - shortQty = 0 := by
  induction shorts using List.reverseRecOn with
  | nil => cases hnone
  | append_singleton init last ih =>
      rw [List.foldl_append, List.foldl_cons, List.foldl_nil, applyShort] at hnone
      by_cases hzero : line.quantityOrdered - last = 0
      · exact ⟨last, by simp, hzero⟩
      · rw [if_neg hzero, Option.map_eq_none_iff] at hnone
        obtain ⟨shortQty, hmem, hgone⟩ := ih hnone
        exact ⟨shortQty, List.mem_append_left _ hmem, hgone⟩

/-- However many entries name the line, what it asks for is what one of them left. -/
theorem exists_of_applied {shorts : List ℤ} (hne : shorts ≠ []) :
    ∃ shortQty ∈ shorts,
      ((shorts.foldl (applyShort line) (some line)).map
        SalesOrderLine.quantityOrdered).getD 0 = line.quantityOrdered - shortQty := by
  obtain ⟨init, last, rfl⟩ := (List.eq_nil_or_concat' shorts).resolve_left hne
  rw [List.foldl_append, List.foldl_cons, List.foldl_nil, applyShort]
  by_cases hzero : line.quantityOrdered - last = 0
  · exact ⟨last, by simp, by simp [hzero]⟩
  · rw [if_neg hzero]
    cases hinit : init.foldl (applyShort line) (some line) with
    | none =>
        obtain ⟨shortQty, hmem, hgone⟩ := exists_of_applied_none hinit
        exact ⟨shortQty, List.mem_append_left _ hmem, by simp [hgone]⟩
    | some row => exact ⟨last, by simp, rfl⟩

end Rows

/-! ## The backorder -/

/-- The lines written for the backorder. -/
structure WrittenFor (boSoId : ℕ) (numbered : List ((ShortEntry × SalesOrderLine) × ℕ))
    (written : List SalesOrderLine) : Prop where
  asked : written.map (fun line => (line.quantityOrdered, line.lineNumber)) =
    numbered.map fun input => (input.1.1.shortQty, (input.2 : ℤ))
  fresh : ∀ line ∈ written, line.soId = boSoId ∧ line.quantityAllocated = 0 ∧
    line.quantityPicked = 0 ∧ line.quantityPacked = 0 ∧ line.quantityShipped = 0 ∧
      line.quantityReceived = 0

/-- The row that an input adds to the backorder. -/
def backorderLine (boSoId : ℕ) (input : (ShortEntry × SalesOrderLine) × ℕ) (soLineId : ℕ) :
    SalesOrderLine where
  soLineId := soLineId
  soId := boSoId
  itemId := input.1.2.itemId
  quantityOrdered := input.1.1.shortQty
  lineNumber := input.2

theorem insertBackorderLines_spec (boSoId : ℕ)
    (numbered : List ((ShortEntry × SalesOrderLine) × ℕ)) (db : Db) :
    ∃ written, WrittenFor boSoId numbered written ∧
      (run (insertBackorderLine boSoId) db numbered).salesOrderLines.rows =
        db.salesOrderLines.rows ++ written ∧
      ∀ soLineId < db.salesOrderLines.nextKey,
        (run (insertBackorderLine boSoId) db numbered).salesOrderLines.find? soLineId =
          db.salesOrderLines.find? soLineId := by
  induction numbered generalizing db with
  | nil =>
      have hnone : WrittenFor boSoId [] [] := ⟨rfl, fun _ hmem => (List.not_mem_nil hmem).elim⟩
      exact ⟨[], hnone, (List.append_nil _).symm, fun _ _ => rfl⟩
  | cons input rest ih =>
      obtain ⟨written, hwritten, hrows, hfind⟩ := ih (insertBackorderLine boSoId db input)
      refine ⟨backorderLine boSoId input db.salesOrderLines.nextKey :: written,
        ⟨congrArg (_ :: ·) hwritten.asked, ?_⟩, hrows.trans (List.append_assoc _ _ _), ?_⟩
      · rintro line (_ | ⟨_, hmem⟩)
        · exact ⟨rfl, rfl, rfl, rfl, rfl, rfl⟩
        · exact hwritten.fresh line hmem
      · intro soLineId hlt
        have hnext : soLineId <
            (insertBackorderLine boSoId db input).salesOrderLines.nextKey :=
          Nat.lt_succ_of_lt hlt
        have hold : (insertBackorderLine boSoId db input).salesOrderLines.find? soLineId =
            db.salesOrderLines.find? soLineId := by
          have hinsert := Table.find?_insert db.salesOrderLines
            (backorderLine boSoId input) (fun _ => rfl) soLineId
          rw [if_neg (Nat.ne_of_lt hlt)] at hinsert
          exact hinsert
        exact (hfind soLineId hnext).trans hold

/-- The units of the backorder for a line are what the entries take off it. -/
theorem sum_written {request : PartialFulfillRequest} {boSoId soId soLineId : ℕ}
    {written : List SalesOrderLine} (hinputs : InputsOf db soId request.lines inputs)
    (hwritten : WrittenFor boSoId (inputs.zipIdx 1) written) :
    (written.map fun line =>
      if (entryOf request line).any (·.soLineId = soLineId) then line.quantityOrdered
      else 0).sum = (shortsOf soLineId request.lines).sum := by
  have hread : ∀ input ∈ inputs.zipIdx 1, request.lines[input.2 - 1]? = some input.1.1 := by
    intro input hmem
    obtain ⟨-, hget⟩ := List.mem_zipIdx_iff_le_and_getElem?_sub.mp hmem
    rw [← hinputs.entries, List.getElem?_map, hget]
    rfl
  have hpairs : ∀ pairs : List (ℤ × ℤ), written.map (fun line =>
      (line.quantityOrdered, line.lineNumber)) = pairs →
      (written.map fun line => if (entryOf request line).any (·.soLineId = soLineId) then
        line.quantityOrdered else 0) =
      pairs.map fun pair => if (request.lines[pair.2.toNat - 1]?).any
        (·.soLineId = soLineId) then pair.1 else 0 := by
    rintro _ rfl
    rw [List.map_map]
    rfl
  calc
    _ = ((inputs.zipIdx 1).map fun input =>
          if input.1.1.soLineId = soLineId then input.1.1.shortQty else 0).sum := by
      rw [hpairs _ hwritten.asked, List.map_map]
      refine congrArg List.sum (List.map_congr_left ?_)
      intro input hmem
      simp [hread input hmem]
    _ = (request.lines.map fun entry =>
          if entry.soLineId = soLineId then entry.shortQty else 0).sum := by
      rw [← hinputs.entries, List.map_map]
      conv_rhs => rw [← List.zipIdx_map_fst 1 inputs, List.map_map]
      rfl
    _ = (shortsOf soLineId request.lines).sum := by
      generalize request.lines = entries
      induction entries with
      | nil => rfl
      | cons entry rest ih =>
          by_cases hnamed : entry.soLineId = soLineId
          · simpa [shortsOf, hnamed] using ih
          · simpa [shortsOf, hnamed] using ih

/-! ## Every accepted split -/

/-- What an accepted split leaves of the parent's lines, and what it writes for the child. -/
structure SplitDone (request : PartialFulfillRequest) (boSoId : ℕ) (before after : Db) :
    Prop where
  named : ∀ entry ∈ request.lines, ∃ line ∈ linesOf before request.soId,
    line.soLineId = entry.soLineId ∧ entry.shortQty ≤ line.quantityOrdered - line.quantityPicked
  row : ∀ line ∈ linesOf before request.soId, after.salesOrderLines.find? line.soLineId =
    (shortsOf line.soLineId request.lines).foldl (applyShort line) (some line)
  parent : ∀ row ∈ linesOf after request.soId, ∃ line ∈ linesOf before request.soId,
    row.soLineId = line.soLineId
  child : ∀ soLineId, backordered request boSoId soLineId after =
    (shortsOf soLineId request.lines).sum
  written : ∀ row ∈ linesOf after boSoId, NonNegLine row

theorem soId_of_foldl_shrinkRow {soLineId : ℕ} {row? : Option SalesOrderLine}
    {after : SalesOrderLine}
    (hafter : inputs.foldl (shrinkRow soLineId) row? = some after) :
    ∃ row, row? = some row ∧ row.soId = after.soId ∧ row.soLineId = after.soLineId := by
  induction inputs generalizing row? with
  | nil => exact ⟨after, hafter, rfl, rfl⟩
  | cons input rest ih =>
      obtain ⟨middle, hmiddle, hsoId, hkey⟩ := ih hafter
      unfold shrinkRow at hmiddle
      split at hmiddle
      · split at hmiddle
        · cases hmiddle
        · obtain ⟨row, hrow, rfl⟩ := Option.map_eq_some_iff.mp hmiddle
          exact ⟨row, hrow, hsoId, hkey⟩
      · exact ⟨middle, hmiddle, hsoId, hkey⟩

theorem splitDone_partialFulfill {ctx : RequestContext}
    {request : PartialFulfillRequest} {boSoId : ℕ}
    (horders : ∀ line ∈ db.salesOrderLines.rows, (db.salesOrders.find? line.soId).isSome)
    (hok : partialFulfillSalesOrder ctx db request = .ok (db', boSoId)) :
    SplitDone request boSoId db db' := by
  simp only [partialFulfillSalesOrder, bind_eq_ok, orThrow_eq_ok, require_eq_ok,
    pure_eq_ok, Prod.mk.injEq] at hok
  obtain ⟨order, horder, -, -, -, -, -, -, -, -, inputs, hchecked, shrunk, hshrunk, -, -,
    rfl, rfl⟩ := hok
  have hinputs := inputsOf_checkShortEntries hchecked
  rw [Table.find?_key horder] at hinputs
  obtain ⟨hrows, hkey, hsame⟩ := shrinkLines_spec hshrunk
  have hbackorder := insertBackorderLines_spec shrunk.salesOrders.nextKey (inputs.zipIdx 1)
    (insertBackorder ctx.now order shrunk)
  generalize hfilled : run (insertBackorderLine shrunk.salesOrders.nextKey)
    (insertBackorder ctx.now order shrunk) (inputs.zipIdx 1) = filled at hbackorder
  obtain ⟨written, hwritten, happended, hfind⟩ := hbackorder
  have hemitted : (emitEvent ctx .backorderOpened shrunk.salesOrders.nextKey
      order.warehouseId filled).salesOrderLines = filled.salesOrderLines := by
    unfold emitEvent
    split <;> rfl
  have hall : (emitEvent ctx .backorderOpened shrunk.salesOrders.nextKey
      order.warehouseId filled).salesOrderLines.rows =
        shrunk.salesOrderLines.rows ++ written := by
    rw [hemitted]
    exact happended
  have hbase : ∀ row ∈ shrunk.salesOrderLines.rows, ∃ line ∈ linesOf db row.soId,
      row.soLineId = line.soLineId := by
    intro row hrow
    have hfound := hrows row.soLineId
    rw [Table.find?_eq_some_iff.mpr ⟨hrow, rfl⟩] at hfound
    obtain ⟨line, hline, hsoId, hsoLineId⟩ := soId_of_foldl_shrinkRow hfound.symm
    exact ⟨line, mem_linesOf.mpr ⟨Table.find?_mem hline, hsoId⟩, hsoLineId.symm⟩
  have hnew : ∀ row ∈ shrunk.salesOrderLines.rows,
      row.soId ≠ shrunk.salesOrders.nextKey := by
    intro row hrow hsoId
    obtain ⟨line, hline, -⟩ := hbase row hrow
    obtain ⟨hstored, hof⟩ := mem_linesOf.mp hline
    obtain ⟨parent, hparent⟩ := Option.isSome_iff_exists.mp (horders line hstored)
    have hlt := db.salesOrders.keys_lt parent (Table.find?_mem hparent)
    rw [Table.find?_key hparent, hof, hsoId, hsame] at hlt
    exact absurd hlt (lt_irrefl _)
  have hchild : linesOf (emitEvent ctx .backorderOpened shrunk.salesOrders.nextKey
      order.warehouseId filled) shrunk.salesOrders.nextKey = written := by
    rw [linesOf, Table.select, hall, List.filter_append, List.filter_eq_nil_iff.mpr,
      List.filter_eq_self.mpr, List.nil_append]
    · intro row hrow
      simpa using (hwritten.fresh row hrow).1
    · intro row hrow
      simpa using hnew row hrow
  constructor
  · intro entry hentry
    rw [← hinputs.entries] at hentry
    obtain ⟨input, hinput, rfl⟩ := List.mem_map.mp hentry
    obtain ⟨hline, hsoLineId, hshort⟩ := hinputs.lines input hinput
    exact ⟨input.2, hline, hsoLineId, hshort⟩
  · intro line hline
    have hstored := (mem_linesOf.mp hline).1
    have hlt := db.salesOrderLines.keys_lt line hstored
    rw [← hkey] at hlt
    rw [hemitted, hfind line.soLineId hlt]
    change shrunk.salesOrderLines.find? line.soLineId = _
    rw [hrows, Table.find?_eq_some_iff.mpr ⟨hstored, rfl⟩, foldl_shrinkRow hinputs hline]
  · intro row hrow
    obtain ⟨hmem, hsoId⟩ := mem_linesOf.mp hrow
    rw [hall] at hmem
    obtain hmem | hmem := List.mem_append.mp hmem
    · rw [← hsoId]
      exact hbase row hmem
    · have hlt := db.salesOrders.keys_lt order (Table.find?_mem horder)
      rw [Table.find?_key horder, ← hsoId, (hwritten.fresh row hmem).1, hsame] at hlt
      exact absurd hlt (lt_irrefl _)
  · intro soLineId
    rw [backordered, hchild]
    exact sum_written hinputs hwritten
  · intro row hrow
    rw [hchild] at hrow
    obtain ⟨-, hallocated, hpicked, hpacked, hshipped, hreceived⟩ := hwritten.fresh row hrow
    have hpair := List.mem_map_of_mem hrow
      (f := fun line : SalesOrderLine => (line.quantityOrdered, line.lineNumber))
    rw [hwritten.asked] at hpair
    obtain ⟨input, -, hinput⟩ := List.mem_map.mp hpair
    have hasked : row.quantityOrdered = input.1.1.shortQty := (Prod.mk.inj hinput).1.symm
    exact ⟨hasked ▸ input.1.1.shortQty_pos.le, hallocated.ge, hpicked.ge, hpacked.ge,
      hshipped.ge, hreceived.ge⟩

/-! ## The condition is exact -/

section Exact

variable {request : PartialFulfillRequest} {soLineId : ℕ} {line : SalesOrderLine}

theorem pos_of_mem_shortsOf {entries : List ShortEntry} {shortQty : ℤ}
    (hmem : shortQty ∈ shortsOf soLineId entries) : 0 < shortQty := by
  obtain ⟨entry, -, rfl⟩ := List.mem_map.mp hmem
  exact entry.shortQty_pos

/-- Different names leave each line one entry at most. -/
theorem shortsOf_eq (hdistinct : (request.lines.map ShortEntry.soLineId).Nodup) :
    shortsOf soLineId request.lines = (shortOf? request soLineId).toList := by
  unfold shortsOf shortOf?
  generalize request.lines = entries at hdistinct
  induction entries with
  | nil => rfl
  | cons entry rest ih =>
      obtain ⟨hfresh, hrest⟩ := List.nodup_cons.mp hdistinct
      by_cases hnamed : entry.soLineId = soLineId
      · have hnone : rest.filter (fun entry => entry.soLineId = soLineId) = [] := by
          rw [List.filter_eq_nil_iff]
          intro other hother heq
          refine hfresh ?_
          rw [hnamed, ← of_decide_eq_true heq]
          exact List.mem_map_of_mem hother
        simp [hnamed, hnone]
      · simpa [hnamed] using ih hrest

theorem foldl_applyShort (short? : Option ℤ) :
    short?.toList.foldl (applyShort line) (some line) = lessShort line short? := by
  cases short? <;> rfl

theorem soId_of_lessShort {short? : Option ℤ} {kept : SalesOrderLine}
    (hkept : lessShort line short? = some kept) : kept.soId = line.soId := by
  cases short? with
  | none =>
      cases hkept
      rfl
  | some shortQty =>
      unfold lessShort at hkept
      dsimp only at hkept
      split at hkept
      · cases hkept
      · cases hkept
        rfl

theorem ordered_lessShort (line : SalesOrderLine) (short? : Option ℤ) :
    ((lessShort line short?).map SalesOrderLine.quantityOrdered).getD 0 + short?.toList.sum =
      line.quantityOrdered := by
  cases short? with
  | none => simp [lessShort]
  | some shortQty =>
      by_cases hzero : line.quantityOrdered - shortQty = 0
      · simp only [lessShort, hzero, if_true, Option.map_none, Option.getD_none,
          Option.toList_some, List.sum_singleton]
        omega
      · simp [lessShort, hzero]

/-- Two entries for one line add up to more than either of them. -/
theorem length_le_one_of_sum {shorts : List ℤ} (hpos : ∀ shortQty ∈ shorts, 0 < shortQty)
    {shortQty : ℤ} (hmem : shortQty ∈ shorts) (hsum : shorts.sum = shortQty) :
    shorts.length ≤ 1 := by
  obtain ⟨front, back, rfl⟩ := List.append_of_mem hmem
  have hrest : (front ++ back).sum = 0 := by
    simp only [List.sum_append, List.sum_cons] at hsum ⊢
    omega
  have hnone : front ++ back = [] := by
    by_contra hne
    have hlt : 0 < (front ++ back).sum := by
      refine List.sum_pos _ ?_ hne
      intro other hother
      exact hpos other (by
        rw [List.mem_append] at hother ⊢
        exact hother.imp_right (List.mem_cons_of_mem shortQty))
    omega
  obtain ⟨rfl, rfl⟩ := List.append_eq_nil_iff.mp hnone
  simp

end Exact

/-- Partial fulfilment keeps the demand of every line and leaves sound lines exactly if the
entries name different lines and no line is left with less than it reserves. -/
theorem demandKept_iff {ctx : RequestContext} {db db' : Db}
    {request : PartialFulfillRequest} {boSoId : ℕ}
    (horders : ∀ line ∈ db.salesOrderLines.rows, (db.salesOrders.find? line.soId).isSome)
    (hok : partialFulfillSalesOrder ctx db request = .ok (db', boSoId)) :
    DemandKept request boSoId db db' ↔ SplitsApart request db := by
  have hdone := splitDone_partialFulfill horders hok
  constructor
  · intro hkept
    have hdistinct : (request.lines.map ShortEntry.soLineId).Nodup := by
      rw [List.nodup_iff_count_le_one]
      intro soLineId
      by_cases hnamed : soLineId ∈ request.lines.map ShortEntry.soLineId
      · obtain ⟨entry, hentry, rfl⟩ := List.mem_map.mp hnamed
        obtain ⟨line, hline, hkey, -⟩ := hdone.named entry hentry
        have hne : shortsOf line.soLineId request.lines ≠ [] := by
          refine List.ne_nil_of_mem (List.mem_map_of_mem ?_) (a := entry.shortQty)
          exact List.mem_filter.mpr ⟨hentry, by simp [hkey]⟩
        obtain ⟨shortQty, hmem, hleft⟩ := @exists_of_applied line _ hne
        have hdemand := hkept.demand line hline
        rw [remainingOrdered, hdone.row line hline, hleft, hdone.child] at hdemand
        have hlength := length_le_one_of_sum (fun _ => pos_of_mem_shortsOf) hmem (by omega)
        rw [hkey, shortsOf, List.length_map] at hlength
        rw [List.count_eq_countP, List.countP_map, List.countP_eq_length_filter]
        refine le_trans (le_of_eq (congrArg List.length (List.filter_congr ?_))) hlength
        intro other _
        exact beq_eq_decide _ _
      · exact (List.count_eq_zero.mpr hnamed).le.trans (by decide)
    refine ⟨hdistinct, ?_⟩
    intro line hline kept hleft
    have hrow := hdone.row line hline
    rw [shortsOf_eq hdistinct, foldl_applyShort, hleft] at hrow
    have hkeptLine : kept ∈ linesOf db' request.soId :=
      mem_linesOf.mpr ⟨Table.find?_mem hrow, (soId_of_lessShort hleft).trans
        (mem_linesOf.mp hline).2⟩
    exact ⟨hkept.nonneg kept (List.mem_append_left _ hkeptLine), hkept.covered kept hkeptLine⟩
  · rintro ⟨hdistinct, hleft⟩
    have hrow : ∀ line ∈ linesOf db request.soId, db'.salesOrderLines.find? line.soLineId =
        lessShort line (shortOf? request line.soLineId) := by
      intro line hline
      rw [hdone.row line hline, shortsOf_eq hdistinct, foldl_applyShort]
    have hparent : ∀ row ∈ linesOf db' request.soId, NonNegLine row ∧ CoveredLine row := by
      intro row hmem
      obtain ⟨line, hline, hkey⟩ := hdone.parent row hmem
      have hfound := hrow line hline
      rw [← hkey, Table.find?_eq_some_iff.mpr ⟨(mem_linesOf.mp hmem).1, rfl⟩, hkey] at hfound
      exact hleft line hline row hfound.symm
    constructor
    · intro line hline
      rw [remainingOrdered, hrow line hline, hdone.child, shortsOf_eq hdistinct]
      exact ordered_lessShort line _
    · intro row hmem
      obtain hmem | hmem := List.mem_append.mp hmem
      · exact (hparent row hmem).1
      · exact hdone.written row hmem
    · exact fun row hmem => (hparent row hmem).2

/-! ### One order for five units -/

/-- An order for five units that nothing is reserved for. -/
def fiveOrdered : Db := SmallWarehouse.after [SmallWarehouse.order "S1" [SmallWarehouse.line 5]]

/-- The same order with its units reserved. -/
def fiveReserved : Db :=
  SmallWarehouse.after
    [SmallWarehouse.receive 1 5 none, SmallWarehouse.order "S1" [SmallWarehouse.line 5]]

def shortTwo : ShortEntry := ⟨1, 2, SmallWarehouse.two_pos, SmallWarehouse.two_inOrder⟩

def shorting (lines : List ShortEntry) (hne : lines ≠ []) : PartialFulfillRequest :=
  ⟨1, lines, none, hne⟩

theorem demandKept_fiveOrdered :
    ∃ db' boSoId, partialFulfillSalesOrder (SmallWarehouse.pat 9) fiveOrdered
        (shorting [shortTwo] (by decide)) = .ok (db', boSoId) ∧
      DemandKept (shorting [shortTwo] (by decide)) boSoId fiveOrdered db' := by
  obtain ⟨⟨db', boSoId⟩, hok⟩ := exists_eq_ok (partialFulfillSalesOrder
    (SmallWarehouse.pat 9) fiveOrdered (shorting [shortTwo] (by decide))) (by decide +kernel)
  refine ⟨db', boSoId, hok, (demandKept_iff (by decide +kernel) hok).mpr ⟨by decide, ?_⟩⟩
  have hleft : ∀ line ∈ linesOf fiveOrdered 1,
      ∀ kept ∈ lessShort line (shortOf? (shorting [shortTwo] (by decide)) line.soLineId),
        (0 ≤ kept.quantityOrdered ∧ 0 ≤ kept.quantityAllocated ∧ 0 ≤ kept.quantityPicked ∧
          0 ≤ kept.quantityPacked ∧ 0 ≤ kept.quantityShipped ∧ 0 ≤ kept.quantityReceived) ∧
        kept.quantityAllocated ≤ kept.quantityOrdered ∧
          kept.quantityPicked ≤ kept.quantityOrdered := by decide +kernel
  intro line hline kept hkept
  obtain ⟨⟨hasked, hreserved, htaken, hpacked, hshipped, hreceived⟩, hallocated, hpicked⟩ :=
    hleft line hline kept hkept
  exact ⟨⟨hasked, hreserved, htaken, hpacked, hshipped, hreceived⟩, ⟨hallocated, hpicked⟩⟩

/-- A reserved line is left with more reserved than it asks for, and a line named twice is
backordered for both entries but shrunk for one. -/
theorem demandLost :
    (∃ db' boSoId, partialFulfillSalesOrder (SmallWarehouse.pat 9) fiveReserved
        (shorting [shortTwo] (by decide)) = .ok (db', boSoId) ∧
      ¬ DemandKept (shorting [shortTwo] (by decide)) boSoId fiveReserved db') ∧
    ∃ db' boSoId, partialFulfillSalesOrder (SmallWarehouse.pat 9) fiveOrdered
        (shorting [shortTwo, shortTwo] (by decide)) = .ok (db', boSoId) ∧
      ¬ DemandKept (shorting [shortTwo, shortTwo] (by decide)) boSoId fiveOrdered db' := by
  constructor
  · have hlines : (partialFulfillSalesOrder (SmallWarehouse.pat 9) fiveReserved
        (shorting [shortTwo] (by decide))).toOption.map (fun result =>
          (linesOf result.1 1).map fun line => (line.quantityAllocated, line.quantityOrdered)) =
        some [(5, 3)] := by decide +kernel
    obtain ⟨⟨db', boSoId⟩, hok⟩ := exists_eq_ok (partialFulfillSalesOrder
      (SmallWarehouse.pat 9) fiveReserved (shorting [shortTwo] (by decide))) (by decide +kernel)
    refine ⟨db', boSoId, hok, ?_⟩
    intro hkept
    rw [hok] at hlines
    have hrows : (linesOf db' 1).map (fun line =>
        (line.quantityAllocated, line.quantityOrdered)) = [(5, 3)] := Option.some.inj hlines
    obtain ⟨line, hline, heq⟩ := List.mem_map.mp (hrows ▸ List.mem_singleton_self (5, 3))
    obtain ⟨hallocated, hordered⟩ := Prod.mk.inj heq
    have hcovered := (hkept.covered line hline).allocated
    omega
  · have hsplit : (partialFulfillSalesOrder (SmallWarehouse.pat 9) fiveOrdered
        (shorting [shortTwo, shortTwo] (by decide))).toOption.map (fun result =>
          (remainingOrdered result.1 1,
            backordered (shorting [shortTwo, shortTwo] (by decide)) result.2 1 result.1)) =
        some (3, 4) := by decide +kernel
    obtain ⟨⟨db', boSoId⟩, hok⟩ := exists_eq_ok (partialFulfillSalesOrder
      (SmallWarehouse.pat 9) fiveOrdered (shorting [shortTwo, shortTwo] (by decide)))
      (by decide +kernel)
    refine ⟨db', boSoId, hok, ?_⟩
    intro hkept
    rw [hok] at hsplit
    obtain ⟨hleft, hchild⟩ := Prod.mk.inj (Option.some.inj hsplit)
    have hordered : ∃ line ∈ linesOf fiveOrdered 1, line.soLineId = 1 ∧
        line.quantityOrdered = 5 := by decide +kernel
    obtain ⟨line, hline, hkey, hfive⟩ := hordered
    have hdemand := hkept.demand line hline
    rw [hkey, hleft, hchild, hfive] at hdemand
    revert hdemand
    decide

end SentryWms.SalesOrders
