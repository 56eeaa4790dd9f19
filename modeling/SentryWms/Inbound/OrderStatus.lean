import SentryWms.Inbound.Exclusive
import SentryWms.Inbound.Lines
import SentryWms.SalesOrders.CancelRelease

/-!
# The status of an order the source updates

The header update of a sales order writes every column the mapping declares, `status`
among them: the mapping document says which texts a source may send.  Only `CANCELLED` is
handled apart, through the cancellation service, before the header is written.
-/

namespace SentryWms.Inbound

open Relational SalesOrders

variable {Source : Type}

/-! ## Columns of a sales order -/

/-- The text of a value in a `VARCHAR` column; `NULL` has none. -/
def Value.castText (numberText : ℚ → String) : Value → Option String
  | .null => none
  | .boolean true => some "true"
  | .boolean false => some "false"
  | .number value => some (numberText value)
  | .text value => some value
  | .several => none

/-- The number of a value in an `INT` column of identifiers. -/
def Value.castId : Value → Option ℕ
  | .number value => if value.den = 1 ∧ 0 ≤ value then some value.num.toNat else none
  | _ => none

/-- `VARCHAR(limit)`. -/
def asVarchar (numberText : ℚ → String) (limit : ℕ) (value : Value) :
    Except ServiceError (Option String) := do
  let text? := value.castText numberText
  require (∀ text ∈ text?, text.length ≤ limit)
    (.runtimeError s!"value too long for type character varying({limit})")
  pure text?

/-- `NOT NULL`. -/
def notNull {Stored : Type} (column : String) (value? : Option Stored) :
    Except ServiceError Stored :=
  orThrow value? (.integrityError column)

def statusOfText (text : String) : SalesOrderStatus :=
  if text = "OPEN" then .soOpen
  else if text = "PICKED" then .soPicked
  else if text = "PACKED" then .soPacked
  else if text = "SHIPPED" then .soShipped
  else if text = "CANCELLED" then .soCancelled
  else if text = "FRAUD_REVIEW" then .soFraudReview
  else if text = "REFUNDED" then .soRefunded
  else if text = "WAITING_STOCK" then .soWaitingStock
  else .other text

/-- `SET column = :column` on a sales order. -/
def setColumn (numberText : ℚ → String) (order : SalesOrder) (entry : String × Value) :
    Except ServiceError SalesOrder :=
  if entry.1 = "status" then do
    let text ← notNull "status" (← asVarchar numberText 20 entry.2)
    pure { order with status := statusOfText text }
  else if entry.1 = "so_number" then do
    let text ← notNull "so_number" (← asVarchar numberText 128 entry.2)
    pure { order with soNumber := text }
  else if entry.1 = "warehouse_id" then do
    let warehouseId ← notNull "warehouse_id" entry.2.castId
    pure { order with warehouseId := warehouseId }
  else if entry.1 = "so_barcode" then do
    let text? ← asVarchar numberText 100 entry.2
    pure { order with soBarcode := text? }
  else if entry.1 = "ship_method" then do
    let text? ← asVarchar numberText 50 entry.2
    pure { order with shipMethod := text? }
  else if entry.1 = "carrier" then do
    let text? ← asVarchar numberText 100 entry.2
    pure { order with carrier := text? }
  else if entry.1 = "tracking_number" then do
    let text? ← asVarchar numberText 255 entry.2
    pure { order with trackingNumber := text? }
  else pure order

def setColumns (numberText : ℚ → String) :
    List (String × Value) → SalesOrder → Except ServiceError SalesOrder
  | [], order => pure order
  | entry :: rest, order => do
      let changed ← setColumn numberText order entry
      setColumns numberText rest changed

/-! ## The canonical tables of the floor -/

/-- The order with the `external_id`. -/
def FloorTables.orderOf (tables : FloorTables) (canonicalId : ℕ) : Option SalesOrder :=
  (tables.rowIdOf .salesOrders canonicalId).bind tables.db.salesOrders.find?

/-- Step 5: an order that is not cancelled yet is, by the shared service. -/
def cancelExistingOrder (ctx : RequestContext) (canonicalId : ℕ) (tables : FloorTables) :
    Except ServiceError FloorTables :=
  match tables.orderOf canonicalId with
  | none => .ok tables
  | some order =>
      if order.status = .soCancelled then .ok tables
      else do
        let (cancelled, _) ← cancelSalesOrder ctx tables.db order.soId
        pure { tables with db := cancelled }

/-- `UPDATE sales_orders SET ... WHERE external_id = :cid`. -/
def updateSalesOrder (numberText : ℚ → String) (canonicalId : ℕ)
    (written : List (String × Value)) (tables : FloorTables) :
    Except ServiceError FloorTables :=
  match tables.orderOf canonicalId with
  | none => .ok tables
  | some order => do
      let updated ← setColumns numberText written order
      require (∀ other ∈ tables.db.salesOrders.rows, other.soId ≠ order.soId →
          other.soNumber ≠ updated.soNumber)
        (.integrityError "sales_orders_so_number_key")
      require (updated.warehouseId = order.warehouseId ∨
          (tables.db.warehouses.find? updated.warehouseId).isSome)
        (.integrityError "sales_orders_warehouse_id_fkey")
      pure
        { tables with
          db :=
            { tables.db with
              salesOrders := tables.db.salesOrders.updateKey order.soId fun row =>
                { updated with soId := row.soId } } }

/-- The floor's tables, with first receipts and the headers of other resources as given. -/
def floorStore (numberText : ℚ → String) (others : CanonicalStore FloorTables) :
    CanonicalStore FloorTables where
  cancelExisting := cancelExistingOrder
  fraudReview := others.fraudReview
  insert := others.insert
  update := fun resource canonicalId written tables =>
    if resource = .salesOrders then
      updateSalesOrder numberText canonicalId written tables
    else others.update resource canonicalId written tables
  writeLines := writeInboundLines

def floorApp (registry : String → Option (MappingDocument Source))
    (parsers : VersionParsers) (numberText : ℚ → String)
    (others : CanonicalStore FloorTables) : InboundApp Source FloorTables where
  registry := registry
  parsers := parsers
  store := floorStore numberText others

variable {value : Value} {written : List (String × Value)}

/-! ## What the columns do to the status -/

section Columns

variable {numberText : ℚ → String} {order updated : SalesOrder}

theorem asVarchar_ok {limit : ℕ} {text? : Option String}
    (htext : asVarchar numberText limit value = .ok text?) :
    value.castText numberText = text? := by
  simp only [asVarchar, bind_eq_ok, pure_eq_ok] at htext
  obtain ⟨-, -, htext⟩ := htext
  exact htext

theorem setColumn_status (hset : setColumn numberText order ("status", value) = .ok updated) :
    ∃ text, value.castText numberText = some text ∧
      updated.status = statusOfText text := by
  simp only [setColumn, if_true, bind_eq_ok, pure_eq_ok, notNull, orThrow_eq_ok] at hset
  obtain ⟨text?, htext, text, hsome, rfl⟩ := hset
  exact ⟨text, (asVarchar_ok htext).trans hsome, rfl⟩

/-- Only the column `status` is the status. -/
theorem setColumn_other {entry : String × Value} (hcolumn : entry.1 ≠ "status")
    (hset : setColumn numberText order entry = .ok updated) :
    updated.status = order.status := by
  rw [setColumn, if_neg hcolumn] at hset
  split at hset
  · simp only [bind_eq_ok, pure_eq_ok] at hset
    obtain ⟨-, -, -, -, rfl⟩ := hset
    rfl
  split at hset
  · simp only [bind_eq_ok, pure_eq_ok] at hset
    obtain ⟨-, -, rfl⟩ := hset
    rfl
  iterate 4
    split at hset
    · simp only [bind_eq_ok, pure_eq_ok] at hset
      obtain ⟨-, -, rfl⟩ := hset
      rfl
  cases hset
  rfl

/-- The value the payload writes to `status`, if it writes one. -/
def sentStatus (written : List (String × Value)) : Option Value :=
  (written.find? fun entry => entry.1 = "status").map Prod.snd

theorem sentStatus_cons (entry : String × Value) (rest : List (String × Value)) :
    sentStatus (entry :: rest) =
      if entry.1 = "status" then some entry.2 else sentStatus rest := by
  by_cases hcolumn : entry.1 = "status" <;> simp [sentStatus, hcolumn]

theorem sentStatus_of_notMem (hcolumn : "status" ∉ written.map Prod.fst) :
    sentStatus written = none := by
  rw [sentStatus, Option.map_eq_none_iff, List.find?_eq_none]
  intro entry hentry hstatus
  exact hcolumn (of_decide_eq_true hstatus ▸ List.mem_map_of_mem hentry)

/-- After the header update the status is the one sent, or the one before. -/
theorem setColumns_status (hnodup : (written.map Prod.fst).Nodup)
    (hset : setColumns numberText written order = .ok updated) :
    match sentStatus written with
    | none => updated.status = order.status
    | some value => ∃ text, value.castText numberText = some text ∧
        updated.status = statusOfText text := by
  induction written generalizing order with
  | nil =>
      cases hset
      rfl
  | cons entry rest ih =>
      simp only [setColumns, bind_eq_ok] at hset
      obtain ⟨changed, hchanged, hrest⟩ := hset
      rw [List.map_cons, List.nodup_cons] at hnodup
      have hlater := ih hnodup.2 hrest
      rw [sentStatus_cons]
      by_cases hcolumn : entry.1 = "status"
      · obtain ⟨column, value⟩ := entry
        obtain rfl : column = "status" := hcolumn
        obtain ⟨text, htext, hstatus⟩ := setColumn_status hchanged
        rw [sentStatus_of_notMem hnodup.1] at hlater
        rw [if_pos rfl]
        exact ⟨text, htext, hlater.trans hstatus⟩
      · have hkept := setColumn_other hcolumn hchanged
        rw [if_neg hcolumn]
        rw [hkept] at hlater
        exact hlater

end Columns

/-! ## What the cancellation does to the status -/

section Cancelling

variable {ctx : RequestContext} {db db' : Db} {soId : ℕ}

/-- The cascade leaves the orders it does not cancel as they are. -/
theorem cancelBackorders_other {children : List SalesOrder}
    (hother : ∀ child ∈ children, child.soId ≠ soId)
    (hcascade : cancelBackorders ctx children db = .ok db') :
    (db'.salesOrders.find? soId).map SalesOrder.status =
      (db.salesOrders.find? soId).map SalesOrder.status := by
  induction children generalizing db with
  | nil =>
      cases hcascade
      rfl
  | cons child rest ih =>
      simp only [cancelBackorders, bind_eq_ok] at hcascade
      obtain ⟨⟨cancelled, order⟩, hone, hrest⟩ := hcascade
      obtain ⟨hkey, hcancelled⟩ := cancelOne_ok hone
      have hthis : soId ≠ order.soId := hkey ▸ (hother child List.mem_cons_self).symm
      rw [ih (fun other hmem => hother other (List.mem_cons_of_mem _ hmem)) hrest,
        hcancelled.find?_status hthis, find?_stampReason]

/-- An order that `cancel_sales_order` accepts is cancelled after it. -/
theorem cancelSalesOrder_status {result : CancelledOrder}
    (hcancel : cancelSalesOrder ctx db soId = .ok (db', result)) :
    (db'.salesOrders.find? soId).map SalesOrder.status = some .soCancelled := by
  obtain ⟨order, middle, rfl, hone, hcascade⟩ := cancelSalesOrder_ok hcancel
  rw [cancelBackorders_other (fun child => cascadeOf_distinct) hcascade, hone.orders]
  split
  · rename_i hstatus
    rw [hone.stored, Option.map_some, hstatus]
  · rw [Table.find?_updateKey, if_pos rfl, hone.stored]
    rfl

end Cancelling

/-! ## The status after an accepted update -/

/-- What an accepted update may do to the status of its order. -/
structure StatusFollowsSource (numberText : ℚ → String) (request : InboundRequest Source)
    (mapped : MappedPayload) (db : Db) (before after : SalesOrder) : Prop where
  /-- The source sends no status. -/
  kept : sentStatus mapped.written = none → mapped.cancels request = false →
    after.status = before.status
  /-- The source cancels the order. -/
  cancelled : mapped.cancels request = true → before.status ≠ .soCancelled →
    (∃ cancelled result, cancelSalesOrder request.ctx db before.soId = .ok (cancelled, result)) ∧
    after.status = .soCancelled
  /-- The source sends the status of an order that is neither held for review nor
  cancelled. -/
  sent : ∀ value, sentStatus mapped.written = some value →
    before.status ≠ .soFraudReview → before.status ≠ .soCancelled →
      ∃ text, value.castText numberText = some text ∧ after.status = statusOfText text
  /-- The status is never another one. -/
  other : after.status = before.status ∨
    (mapped.cancels request = true ∧ after.status = .soCancelled) ∨
    ∃ value text, sentStatus mapped.written = some value ∧
      value.castText numberText = some text ∧ after.status = statusOfText text

section Updating

variable {numberText : ℚ → String} {request : InboundRequest Source}
  {mapped : MappedPayload} {tables tables' : FloorTables} {canonicalId : ℕ}
  {before : SalesOrder}

theorem orderOf_soId (hbefore : tables.orderOf canonicalId = some before) :
    tables.rowIdOf .salesOrders canonicalId = some before.soId ∧
      tables.db.salesOrders.find? before.soId = some before := by
  obtain ⟨soId, hrow, hfound⟩ := Option.bind_eq_some_iff.mp hbefore
  obtain rfl := Table.find?_key hfound
  exact ⟨hrow, hfound⟩

/-- The cancellation step: the order is cancelled after it. -/
theorem cancelExistingOrder_ok {ctx : RequestContext}
    (hbefore : tables.orderOf canonicalId = some before)
    (hcancel : cancelExistingOrder ctx canonicalId tables = .ok tables') :
    tables'.externalIds = tables.externalIds ∧
    (tables'.db.salesOrders.find? before.soId).map SalesOrder.status = some .soCancelled ∧
    (before.status ≠ .soCancelled →
      ∃ result, cancelSalesOrder ctx tables.db before.soId = .ok (tables'.db, result)) := by
  simp only [cancelExistingOrder, hbefore] at hcancel
  split at hcancel
  · rename_i hstatus
    cases hcancel
    refine ⟨rfl, ?_, fun hopen => (hopen hstatus).elim⟩
    rw [(orderOf_soId hbefore).2, Option.map_some, hstatus]
  · simp only [bind_eq_ok, pure_eq_ok] at hcancel
    obtain ⟨⟨cancelled, result⟩, hresult, rfl⟩ := hcancel
    exact ⟨rfl, cancelSalesOrder_status hresult, fun _ => ⟨result, hresult⟩⟩

/-- The header update: the order has the columns it was sent. -/
theorem updateSalesOrder_ok (hbefore : tables.orderOf canonicalId = some before)
    (hupdate : updateSalesOrder numberText canonicalId written tables = .ok tables') :
    ∃ updated after, setColumns numberText written before = .ok updated ∧
      tables'.db.salesOrders.find? before.soId = some after ∧
        after.status = updated.status := by
  simp only [updateSalesOrder, hbefore, bind_eq_ok, pure_eq_ok] at hupdate
  obtain ⟨updated, hupdated, -, -, -, -, rfl⟩ := hupdate
  refine ⟨updated, { updated with soId := before.soId }, hupdated, ?_, rfl⟩
  rw [Table.find?_updateKey, if_pos rfl, (orderOf_soId hbefore).2]
  rfl

/-- After the header `UPDATE`, if there is one. -/
theorem headerWritten {others : CanonicalStore FloorTables}
    (hbefore : tables.orderOf canonicalId = some before)
    (hupdate : (if mapped.written = [] then .ok tables
      else (floorStore numberText others).update .salesOrders canonicalId mapped.written
        tables) = .ok tables') :
    ∃ after, tables'.db.salesOrders.find? before.soId = some after ∧
      match sentStatus mapped.written with
      | none => after.status = before.status
      | some value => ∃ text, value.castText numberText = some text ∧
          after.status = statusOfText text := by
  split at hupdate
  · rename_i hnothing
    cases hupdate
    rw [hnothing]
    exact ⟨before, (orderOf_soId hbefore).2, rfl⟩
  · obtain ⟨updated, after, hset, hafter, hsame⟩ := updateSalesOrder_ok hbefore hupdate
    refine ⟨after, hafter, ?_⟩
    rw [hsame]
    exact setColumns_status (written_keys_nodup mapped) hset

/-- The status that is written is the one in the payload. -/
theorem get_of_sentStatus (hsent : sentStatus mapped.written = some value) :
    mapped.payload.columns.get "status" = value := by
  obtain ⟨entry, hfound, rfl⟩ := Option.map_eq_some_iff.mp hsent
  have hcolumn : entry.1 = "status" := by simpa using List.find?_some hfound
  have hmem := (List.mem_filter.mp (List.mem_of_find?_eq_some hfound)).1
  rw [Columns.get, Keyed.lookup_eq_some_iff.mpr ⟨hmem, hcolumn⟩]
  rfl

/-- The three writes, on an order in any status. -/
theorem writeCanonical_status {registry : String → Option (MappingDocument Source)}
    {parsers : VersionParsers} {others : CanonicalStore FloorTables}
    {mapping : CrossSystemMapping} (hresource : request.resource = .salesOrders)
    (hbefore : tables.orderOf mapping.canonicalId = some before)
    (hwrite : writeCanonical (floorApp registry parsers numberText others) request mapped
      (some mapping) tables = .ok tables') :
    ∃ after, tables'.db.salesOrders.find? before.soId = some after ∧
      StatusFollowsSource numberText request mapped tables.db before after := by
  obtain ⟨cancelled, updated, hcancelled, hupdated, hlines⟩ := writeCanonical_some_iff.mp hwrite
  rw [hresource] at hupdated
  have horders := writeInboundLines_salesOrders hlines
  rw [horders]
  by_cases hcancels : mapped.cancels request = true
  · rw [if_pos hcancels] at hcancelled
    obtain ⟨hids, hstatus, hservice⟩ := cancelExistingOrder_ok hbefore hcancelled
    obtain ⟨order, horder, hthis⟩ := Option.map_eq_some_iff.mp hstatus
    have hkey := Table.find?_key horder
    have hfound : cancelled.orderOf mapping.canonicalId = some order := by
      rw [FloorTables.orderOf, FloorTables.rowIdOf, hids]
      exact Option.bind_eq_some_iff.mpr ⟨before.soId, (orderOf_soId hbefore).1, horder⟩
    obtain ⟨after, hafter, hsent⟩ := headerWritten hfound hupdated
    rw [hkey] at hafter
    have hends : after.status = .soCancelled := by
      cases hvalue : sentStatus mapped.written with
      | none =>
          rw [hvalue] at hsent
          exact hsent.trans hthis
      | some value =>
          rw [hvalue] at hsent
          obtain ⟨text, htext, hstatus⟩ := hsent
          simp only [MappedPayload.cancels, decide_eq_true_eq] at hcancels
          have hpayload := (get_of_sentStatus hvalue).symm.trans hcancels.2
          rw [hpayload] at htext
          cases htext
          exact hstatus
    refine ⟨after, hafter, ⟨?_, ?_, ?_, Or.inr (Or.inl ⟨hcancels, hends⟩)⟩⟩
    · intro _ hnot
      rw [hcancels] at hnot
      cases hnot
    · intro _ hopen
      obtain ⟨result, hresult⟩ := hservice hopen
      exact ⟨⟨cancelled.db, result, hresult⟩, hends⟩
    · intro value hvalue _ _
      rw [hvalue] at hsent
      exact hsent
  · rw [if_neg hcancels] at hcancelled
    cases hcancelled
    obtain ⟨after, hafter, hsent⟩ := headerWritten hbefore hupdated
    refine ⟨after, hafter, ⟨?_, ?_, ?_, ?_⟩⟩
    · intro hnone _
      rw [hnone] at hsent
      exact hsent
    · intro hcancel _
      exact (hcancels hcancel).elim
    · intro value hvalue _ _
      rw [hvalue] at hsent
      exact hsent
    · cases hvalue : sentStatus mapped.written with
      | none =>
          rw [hvalue] at hsent
          exact Or.inl hsent
      | some value =>
          rw [hvalue] at hsent
          obtain ⟨text, htext, hstatus⟩ := hsent
          exact Or.inr (Or.inr ⟨value, text, rfl, htext, hstatus⟩)

end Updating

/-- After an accepted update the status is as it was where the source sends none, is
`CANCELLED` by the cancellation service where the source cancels, and otherwise is the
text the mapping let through. -/
theorem inbound_status (registry : String → Option (MappingDocument Source))
    (parsers : VersionParsers) (numberText : ℚ → String)
    (others : CanonicalStore FloorTables) (request : InboundRequest Source)
    (db next : InboundDb FloorTables) (mapping : CrossSystemMapping) (before : SalesOrder)
    (canonicalId : ℕ) (hresource : request.resource = .salesOrders)
    (hmapping : db.mappings.lookup request.recordKey = some mapping)
    (hbefore : db.canon.orderOf mapping.canonicalId = some before)
    (haccepted : handleInbound (floorApp registry parsers numberText others) request db =
      .ok (next, .accepted canonicalId)) :
    ∃ document mapped after,
      documentFor (floorApp registry parsers numberText others) request = .ok document ∧
      mapPayload request db document = .ok mapped ∧
      next.canon.db.salesOrders.find? before.soId = some after ∧
      StatusFollowsSource numberText request mapped db.canon.db before after := by
  simp only [handleInbound, bind_eq_ok] at haccepted
  obtain ⟨document, hdocument, haccepted⟩ := haccepted
  cases hstored : storedVersion? request db with
  | some stored =>
      simp only [hstored, pure_eq_ok] at haccepted
      cases haccepted
  | none =>
      simp only [hstored, bind_eq_ok, pure_eq_ok] at haccepted
      obtain ⟨-, -, mapped, hmapped, accepted, haccept, hanswer⟩ := haccepted
      cases hanswer
      have hwrites := acceptVersion_ok haccept
      rw [hmapping] at hwrites
      obtain ⟨after, hafter, hfollows⟩ := writeCanonical_status hresource hbefore hwrites.canon
      exact ⟨document, mapped, after, hdocument, hmapped, hafter, hfollows⟩

/-! ## A picked order, updated -/

namespace Shop

/-- The source sends a status, and nothing else. -/
def document : MappingDocument String where
  versionCompare := .lexicographic
  fieldSet := fun _ => ["status"]
  applyMapping := fun _ status _ => .ok ⟨⟨[("status", .text status)], List.nodup_singleton _⟩, []⟩

/-- First receipts are not looked at. -/
def others : CanonicalStore FloorTables where
  cancelExisting := fun _ _ tables => .ok tables
  fraudReview := fun _ _ => false
  insert := fun _ _ _ tables => .ok tables
  update := fun _ _ _ tables => .ok tables
  writeLines := fun _ _ _ tables => .ok tables

def app : InboundApp String FloorTables :=
  floorApp (fun _ => some document) ⟨fun _ => none, fun _ => none⟩ (fun _ => "0") others

/-- The order of the shop has been picked. -/
def picked : InboundDb FloorTables where
  staged := Keyed.empty
  mappings := ⟨[⟨(.salesOrders, "shop", "A-1"), 7⟩], List.nodup_singleton _⟩
  canon :=
    { db := SmallWarehouse.after
        [SmallWarehouse.receive 1 5 none, SmallWarehouse.order "S1" [SmallWarehouse.line 3],
          .createBatch (SmallWarehouse.batch ["S1"] []),
          .confirmPick (SmallWarehouse.confirm 1 3),
          .completeBatch 1]
      externalIds := ⟨[⟨.salesOrders, 7, 1⟩], List.nodup_singleton _⟩ }

def request (status : String) : InboundRequest String where
  ctx := SmallWarehouse.pat 6
  resource := .salesOrders
  token := ⟨"shop", false, [], []⟩
  externalId := "A-1"
  externalVersion := "1"
  sourcePayload := status
  bodyOverrides := false
  canonicalId := 8
  receivedAt := 6

end Shop

/-- The source cancels the picked order. -/
theorem inbound_status_picked_order :
    ∃ next canonicalId before document mapped after,
      handleInbound Shop.app (Shop.request "CANCELLED") Shop.picked =
        .ok (next, .accepted canonicalId) ∧
      documentFor Shop.app (Shop.request "CANCELLED") = .ok document ∧
      mapPayload (Shop.request "CANCELLED") Shop.picked document = .ok mapped ∧
      next.canon.db.salesOrders.find? before.soId = some after ∧
      StatusFollowsSource (fun _ => "0") (Shop.request "CANCELLED") mapped
        Shop.picked.canon.db before after := by
  have hfollows := inbound_status (fun _ => some Shop.document)
    ⟨fun _ => none, fun _ => none⟩ (fun _ => "0") Shop.others (Shop.request "CANCELLED")
    Shop.picked _ ⟨(.salesOrders, "shop", "A-1"), 7⟩ _ _ rfl rfl rfl rfl
  obtain ⟨document, mapped, after, hdocument, hmapped, hafter, hstatus⟩ := hfollows
  exact ⟨_, _, _, document, mapped, after, rfl, hdocument, hmapped, hafter, hstatus⟩

/-- The source says `OPEN`, and the picked order is open. -/
theorem picked_order_reopened :
    ∃ next canonicalId,
      handleInbound Shop.app (Shop.request "OPEN") Shop.picked = .ok (next, .accepted canonicalId) ∧
      (Shop.picked.canon.db.salesOrders.find? 1).map SalesOrder.status = some .soPicked ∧
      (next.canon.db.salesOrders.find? 1).map SalesOrder.status = some .soOpen := by
  refine ⟨_, _, rfl, ?_, ?_⟩
  · decide
  · decide

end SentryWms.Inbound
