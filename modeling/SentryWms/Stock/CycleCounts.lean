import SentryWms.Receiving.Receipts
import SentryWms.Relational.Answers

/-!
# Cycle-count submissions

A submission goes through its entries one by one.  An entry overwrites the count of the line
it names and adds a pending adjustment of its variance; an unexpected item gets a line of its
own, once.  Nothing keeps a line from being counted again by a later entry, and then the
adjustments of both counts stand.
-/

namespace SentryWms.Stock

open Relational Sessions

/-! ## Tables -/

inductive CountStatus
  | countPending
  | countInProgress
  | countCompleted
  | countVariance
  deriving DecidableEq, Repr

def CountStatus.text : CountStatus → String
  | .countPending => "PENDING"
  | .countInProgress => "IN_PROGRESS"
  | .countCompleted => "COMPLETED"
  | .countVariance => "VARIANCE"

structure CycleCount where
  countId : ℕ
  binId : ℕ
  warehouseId : ℕ
  status : CountStatus
  deriving DecidableEq, Repr

def CycleCount.isOpen (header : CycleCount) : Bool :=
  header.status = .countPending ∨ header.status = .countInProgress

structure CycleCountLine where
  countLineId : ℕ
  countId : ℕ
  itemId : ℕ
  expectedQuantity : ℤ
  countedQuantity : Option ℤ
  unexpected : Bool
  deriving DecidableEq, Repr

abbrev CountLines := Table CycleCountLine CycleCountLine.countLineId

structure CountDb where
  counts : Table CycleCount CycleCount.countId
  lines : CountLines
  adjustments : Table InventoryAdjustment InventoryAdjustment.adjustmentId

/-- `uq_cycle_count_lines_count_item`. -/
def UniqueLines (lines : CountLines) : Prop :=
  ∀ line ∈ lines.rows, ∀ other ∈ lines.rows, line.countId = other.countId →
    line.itemId = other.itemId → line.countLineId = other.countLineId

/-! ## The service -/

structure CountEntry where
  countLineId : Option ℕ
  countedQuantity : ℤ
  unexpected : Bool
  itemId : Option ℕ
  deriving DecidableEq, Repr

structure SubmitCycleCountRequest where
  ctx : RequestContext
  countId : ℕ
  lines : List CountEntry
  deriving DecidableEq, Repr

/-- The tables and the two counters of the loop. -/
structure Submission where
  db : CountDb
  linesWithVariance : ℕ
  linesMatched : ℕ

def onCount (lines : CountLines) (countId itemId : ℕ) : Bool :=
  lines.rows.any fun line => line.countId = countId ∧ line.itemId = itemId

def lineOfCount (lines : CountLines) (countId : ℕ) (countLineId : Option ℕ) :
    Option CycleCountLine :=
  (countLineId.bind lines.find?).filter fun line => line.countId = countId

def shownLine (countLineId : Option ℕ) : String := countLineId.elim "None" toString

def addAdjustment (ctx : RequestContext) (header : CycleCount) (itemId : ℕ) (change : ℤ)
    (detail : String) (db : CountDb) : CountDb :=
  { db with
    adjustments := db.adjustments.insert (fun adjustmentId =>
      { adjustmentId := adjustmentId
        itemId := itemId
        binId := header.binId
        warehouseId := header.warehouseId
        quantityChange := change
        reasonDetail := detail
        status := .adjPending
        adjustedBy := ctx.username
        cycleCountId := some header.countId }) fun _ => rfl }

def addLine (countId itemId : ℕ) (counted : Option ℤ) (lines : CountLines) : CountLines :=
  lines.insert (fun countLineId => ⟨countLineId, countId, itemId, 0, counted, true⟩)
    fun _ => rfl

def storeCount (countLineId : ℕ) (counted : ℤ) (lines : CountLines) : CountLines :=
  lines.updateKey countLineId (fun line => { line with countedQuantity := some counted })
    fun _ => rfl

/-- One round of the loop. -/
def submitEntry (ctx : RequestContext) (header : CycleCount) (state : Submission)
    (entry : CountEntry) : Except ServiceError Submission :=
  if entry.unexpected then do
    let itemId ← orThrow entry.itemId (.httpError 400 "item_id required for unexpected lines")
    if onCount state.db.lines header.countId itemId then pure state
    else
      pure
        { state with
          db := addAdjustment ctx header itemId entry.countedQuantity
            s!"Cycle count unexpected item: counted {entry.countedQuantity} (not in snapshot)"
            { state.db with
              lines := addLine header.countId itemId (some entry.countedQuantity) state.db.lines }
          linesWithVariance := state.linesWithVariance + 1 }
  else do
    let line ← orThrow (lineOfCount state.db.lines header.countId entry.countLineId)
      (.httpError 400 s!"Count line {shownLine entry.countLineId} not found on this cycle count")
    let counted := { state.db with
      lines := storeCount line.countLineId entry.countedQuantity state.db.lines }
    let variance := entry.countedQuantity - line.expectedQuantity
    if variance = 0 then
      pure { state with db := counted, linesMatched := state.linesMatched + 1 }
    else
      pure
        { state with
          db := addAdjustment ctx header line.itemId variance
            (s!"Cycle count variance: expected {line.expectedQuantity}, " ++
              s!"counted {entry.countedQuantity}")
            counted
          linesWithVariance := state.linesWithVariance + 1 }

def submitEntries (ctx : RequestContext) (header : CycleCount) (db : CountDb)
    (entries : List CountEntry) : Except ServiceError Submission :=
  entries.foldlM (submitEntry ctx header) ⟨db, 0, 0⟩

def finalStatus (done : Submission) : CountStatus :=
  if 0 < done.linesWithVariance then .countVariance else .countCompleted

def closeCount (countId : ℕ) (done : Submission) : CountDb :=
  { done.db with
    counts := done.db.counts.updateKey countId
      (fun header => { header with status := finalStatus done }) fun _ => rfl }

/-- The checks behind the lock on the count. -/
def checkCount (request : SubmitCycleCountRequest) (header : CycleCount) :
    Except ServiceError Unit := do
  require (Receiving.inScope request.ctx header.warehouseId)
    (.httpError 403 "Access denied for this warehouse")
  require header.isOpen
    (.httpError 400 s!"Cycle count status is {header.status.text}, cannot submit")

/-! ## Statements -/

inductive SubmitMemory
  | start
  | holding (header : CycleCount)
  deriving DecidableEq, Repr

structure SubmitReply where
  countId : ℕ
  status : CountStatus
  linesWithVariance : ℕ
  linesMatched : ℕ
  deriving DecidableEq, Repr

inductive SubmitAnswer
  | submitted (reply : SubmitReply)
  | refused (error : ServiceError)
  deriving DecidableEq, Repr

def submitHolds (request : SubmitCycleCountRequest) : SubmitMemory → ℕ → Bool
  | .start, _ => false
  | .holding _, lock => lock = request.countId

/-- Behind the lock the loop touches only rows of its count, and is one statement here. -/
def submitStatement (request : SubmitCycleCountRequest) :
    SubmitMemory → (ℕ → Bool) → CountDb → Outcome CountDb SubmitMemory SubmitAnswer
  | .start, isLocked, db =>
      match db.counts.find? request.countId with
      | none => .rollback (.refused (.httpError 404 "Cycle count not found"))
      | some header =>
          if isLocked request.countId then .wait
          else
            match checkCount request header with
            | .error error => .rollback (.refused error)
            | .ok _ => .proceed (.holding header)
  | .holding header, _, db =>
      match submitEntries request.ctx header db request.lines with
      | .error error => .rollback (.refused error)
      | .ok done =>
          .commit (closeCount request.countId done)
            (.submitted ⟨request.countId, finalStatus done, done.linesWithVariance,
              done.linesMatched⟩)

def submitProgram :
    Program CountDb SubmitCycleCountRequest SubmitMemory ℕ SubmitAnswer where
  start := fun _ => .start
  holds := submitHolds
  statement := submitStatement
  start_holds := fun _ _ => rfl

/-! ## What the entries count -/

/-- The lines of the count with those of the unexpected items, as they are before any entry
counts them, and the counts that the entries store, each beside its line. -/
structure Readings where
  lines : CountLines
  reads : List (CycleCountLine × ℤ)

def Readings.read (seen : Readings) (countLineId : Option ℕ) (counted : ℤ) : Readings :=
  match countLineId.bind seen.lines.find? with
  | none => seen
  | some line => { seen with reads := seen.reads ++ [(line, counted)] }

def Readings.next (countId : ℕ) (seen : Readings) (entry : CountEntry) : Readings :=
  if entry.unexpected then
    match entry.itemId with
    | none => seen
    | some itemId =>
        if onCount seen.lines countId itemId then seen
        else
          Readings.read { seen with lines := addLine countId itemId none seen.lines }
            (some seen.lines.nextKey) entry.countedQuantity
  else seen.read entry.countLineId entry.countedQuantity

def readings (db : CountDb) (countId : ℕ) (entries : List CountEntry) : Readings :=
  entries.foldl (Readings.next countId) ⟨db.lines, []⟩

/-- The counts the entries store on a line, in order. -/
def Readings.countsOf (seen : Readings) (countLineId : ℕ) : List ℤ :=
  (seen.reads.filter fun read => read.1.countLineId = countLineId).map Prod.snd

/-- The counts that a later entry overwrites have variances that cancel, and a line without
an entry has none. -/
def Settles (expected : ℤ) (stored : Option ℤ) (counts : List ℤ) : Prop :=
  if counts = [] then ∀ counted ∈ stored, counted = expected
  else (counts.dropLast.map fun counted => counted - expected).sum = 0

def EntriesSettle (db : CountDb) (countId : ℕ) (entries : List CountEntry) : Prop :=
  ∀ line ∈ (readings db countId entries).lines.rows, line.countId = countId →
    Settles line.expectedQuantity line.countedQuantity
      ((readings db countId entries).countsOf line.countLineId)

/-- The pending adjustments a submission has added for an item. -/
def createdFor (before after : CountDb) (countId itemId : ℕ) : ℤ :=
  ((Table.appended before.adjustments after.adjustments).map fun adjustment =>
    if adjustment.itemId = itemId ∧ adjustment.cycleCountId = some countId ∧
      adjustment.status = .adjPending then adjustment.quantityChange else 0).sum

/-- The adjustments of every counted item say what was counted. -/
def AdjustmentsSayCounted (before after : CountDb) (countId : ℕ) : Prop :=
  ∀ line ∈ after.lines.rows, line.countId = countId → ∀ counted ∈ line.countedQuantity,
    createdFor before after countId line.itemId = counted - line.expectedQuantity

variable {itemId : ℕ} {ctx : RequestContext} {header : CycleCount} {done : Submission}
  {entries : List CountEntry} {request : SubmitCycleCountRequest}
  {memory : SubmitMemory} {isLocked : ℕ → Bool} {next : CountDb} {answer : SubmitAnswer}

/-! ## What one entry does -/

section Entries

variable {db state : CountDb} {countId : ℕ} {seen : Readings} {line : CycleCountLine}

theorem onCount_iff {lines : CountLines} :
    onCount lines countId itemId = true ↔
      ∃ line ∈ lines.rows, line.countId = countId ∧ line.itemId = itemId := by
  simp [onCount]

/-- The lines are those of the readings, each with its last count, and the adjustments are
the variances of the readings. -/
structure Tallied (db : CountDb) (countId : ℕ) (seen : Readings) (state : CountDb) : Prop where
  counts : state.counts = db.counts
  nextKey : state.lines.nextKey = seen.lines.nextKey
  found : ∀ countLineId, state.lines.find? countLineId =
    (seen.lines.find? countLineId).map fun line =>
      { line with
        countedQuantity := (seen.countsOf countLineId).getLast?.or line.countedQuantity }
  reads : ∀ read ∈ seen.reads, read.1 ∈ seen.lines.rows ∧ read.1.countId = countId
  unique : UniqueLines seen.lines
  grown : db.adjustments.rows <+: state.adjustments.rows
  created : ∀ itemId, createdFor db state countId itemId =
    (seen.reads.map fun read =>
      if read.1.itemId = itemId then read.2 - read.1.expectedQuantity else 0).sum

theorem tallied_refl (hunique : UniqueLines db.lines) :
    Tallied db countId ⟨db.lines, []⟩ db where
  counts := rfl
  nextKey := rfl
  found := by
    intro countLineId
    cases db.lines.find? countLineId <;> rfl
  reads := by
    intro read hread
    cases hread
  unique := hunique
  grown := List.prefix_refl _
  created := by
    intro itemId
    rw [createdFor, Table.appended, List.drop_length]
    rfl

theorem Tallied.exists_row (htallied : Tallied db countId seen state)
    (hline : line ∈ seen.lines.rows) :
    ∃ row ∈ state.lines.rows, row.countId = line.countId ∧ row.itemId = line.itemId := by
  have hfound := htallied.found line.countLineId
  rw [Table.find?_eq_some_iff.mpr ⟨hline, rfl⟩] at hfound
  exact ⟨_, Table.find?_mem hfound, rfl, rfl⟩

theorem Tallied.exists_line (htallied : Tallied db countId seen state) {row : CycleCountLine}
    (hrow : row ∈ state.lines.rows) :
    ∃ line ∈ seen.lines.rows, row = { line with
      countedQuantity := (seen.countsOf line.countLineId).getLast?.or line.countedQuantity } := by
  have hfound := htallied.found row.countLineId
  rw [Table.find?_eq_some_iff.mpr ⟨hrow, rfl⟩] at hfound
  obtain ⟨line, hline, hsame⟩ := Option.map_eq_some_iff.mp hfound.symm
  rw [← Table.find?_key hline] at hsame
  exact ⟨line, Table.find?_mem hline, hsame.symm⟩

theorem Tallied.uniqueLines (htallied : Tallied db countId seen state) :
    UniqueLines state.lines := by
  intro row hrow other hother hcount hitem
  obtain ⟨line, hline, rfl⟩ := htallied.exists_line hrow
  obtain ⟨line', hline', rfl⟩ := htallied.exists_line hother
  exact htallied.unique line hline line' hline' hcount hitem

theorem Tallied.onCount_eq (htallied : Tallied db countId seen state) (itemId : ℕ) :
    onCount state.lines countId itemId = onCount seen.lines countId itemId := by
  rw [Bool.eq_iff_iff, onCount_iff, onCount_iff]
  constructor
  · rintro ⟨row, hrow, hcount, hitem⟩
    obtain ⟨line, hline, rfl⟩ := htallied.exists_line hrow
    exact ⟨line, hline, hcount, hitem⟩
  · rintro ⟨line, hline, rfl, rfl⟩
    exact htallied.exists_row hline

theorem createdFor_addAdjustment (hgrown : db.adjustments.rows <+: state.adjustments.rows)
    (ctx : RequestContext) (header : CycleCount) (itemId other : ℕ) (change : ℤ)
    (detail : String) :
    createdFor db (addAdjustment ctx header itemId change detail state) header.countId other =
      createdFor db state header.countId other + if itemId = other then change else 0 := by
  obtain ⟨created, hcreated⟩ := hgrown
  have hafter : ∃ adjustment : InventoryAdjustment,
      (addAdjustment ctx header itemId change detail state).adjustments.rows =
        db.adjustments.rows ++ (created ++ [adjustment]) ∧ adjustment.itemId = itemId ∧
      adjustment.cycleCountId = some header.countId ∧ adjustment.status = .adjPending ∧
      adjustment.quantityChange = change := by
    refine ⟨⟨state.adjustments.nextKey, itemId, header.binId, header.warehouseId, change, detail,
      .adjPending, ctx.username, some header.countId⟩, ?_, rfl, rfl, rfl, rfl⟩
    rw [← List.append_assoc, hcreated]
    rfl
  obtain ⟨adjustment, hafter, hitem, hcount, hstatus, hchange⟩ := hafter
  rw [createdFor, createdFor, Table.appended_eq hafter, Table.appended_eq hcreated.symm,
    List.map_append, List.sum_append, List.map_singleton, List.sum_singleton, hitem, hcount,
    hstatus, hchange]
  simp

theorem find?_addLine (countId itemId : ℕ) (counted : Option ℤ) (lines : CountLines)
    (countLineId : ℕ) :
    (addLine countId itemId counted lines).find? countLineId =
      if countLineId = lines.nextKey then some ⟨countLineId, countId, itemId, 0, counted, true⟩
      else lines.find? countLineId :=
  Table.find?_insert lines
    (fun countLineId : ℕ => CycleCountLine.mk countLineId countId itemId 0 counted true)
    (fun _ => rfl) countLineId

/-- A counted line is an uncounted one that has been counted. -/
theorem addLine_some (countId itemId : ℕ) (counted : ℤ) (lines : CountLines) :
    addLine countId itemId (some counted) lines =
      storeCount lines.nextKey counted (addLine countId itemId none lines) := by
  apply Table.ext
  · change lines.rows ++ [_] = (lines.rows ++ [_]).map _
    rw [List.map_append, List.map_singleton, if_pos (decide_eq_true rfl)]
    congr 1
    symm
    apply (List.map_congr_left _).trans (List.map_id lines.rows)
    intro line hline
    exact if_neg (by simpa using (lines.keys_lt line hline).ne)
  · rfl

theorem Readings.countsOf_concat (counted : ℤ) (countLineId : ℕ) :
    (Readings.mk seen.lines (seen.reads ++ [(line, counted)])).countsOf countLineId =
      if line.countLineId = countLineId then seen.countsOf countLineId ++ [counted]
      else seen.countsOf countLineId := by
  rw [Readings.countsOf, Readings.countsOf, List.filter_append, List.map_append]
  split
  · rename_i hsame
    simp [hsame]
  · rename_i hother
    simp [hother]

/-- A line is counted, and its variance booked. -/
theorem Tallied.read (htallied : Tallied db countId seen state) {after : CountDb} {counted : ℤ}
    {countLineId : ℕ} (hline : seen.lines.find? countLineId = some line)
    (hcount : line.countId = countId) (hcounts : after.counts = state.counts)
    (hgrown : db.adjustments.rows <+: after.adjustments.rows)
    (hlines : after.lines = storeCount countLineId counted state.lines)
    (hcreated : ∀ itemId, createdFor db after countId itemId =
      createdFor db state countId itemId +
        if line.itemId = itemId then counted - line.expectedQuantity else 0) :
    Tallied db countId (seen.read (some countLineId) counted) after := by
  rw [Readings.read, Option.bind_some, hline]
  have hkey := Table.find?_key hline
  refine ⟨hcounts.trans htallied.counts, ?_, ?_, ?_, htallied.unique, hgrown, ?_⟩
  · rw [hlines]
    exact htallied.nextKey
  · intro other
    rw [hlines, storeCount, Table.find?_updateKey _
      (fun line : CycleCountLine => { line with countedQuantity := some counted }),
      htallied.found, Readings.countsOf_concat, hkey]
    by_cases hsame : other = countLineId
    · rw [if_pos hsame, if_pos hsame.symm, List.getLast?_concat, Option.map_map]
      rfl
    · rw [if_neg hsame, if_neg (Ne.symm hsame)]
  · intro read hread
    rcases List.mem_append.mp hread with hold | hnew
    · exact htallied.reads read hold
    · rw [List.mem_singleton.mp hnew]
      exact ⟨Table.find?_mem hline, hcount⟩
  · intro itemId
    rw [hcreated, htallied.created, List.map_append, List.sum_append, List.map_singleton,
      List.sum_singleton]

/-- An item that is not on the count is added to it. -/
theorem Tallied.add (htallied : Tallied db countId seen state)
    (hnew : onCount seen.lines countId itemId = false) :
    Tallied db countId { seen with lines := addLine countId itemId none seen.lines }
      { state with lines := addLine countId itemId none state.lines } := by
  refine ⟨htallied.counts, ?_, ?_, ?_, ?_, htallied.grown, htallied.created⟩
  · exact congrArg (· + 1) htallied.nextKey
  · intro countLineId
    rw [find?_addLine, find?_addLine, htallied.nextKey, htallied.found]
    by_cases hsame : countLineId = seen.lines.nextKey
    · have hnone : seen.countsOf countLineId = [] := by
        rw [Readings.countsOf, List.map_eq_nil_iff, List.filter_eq_nil_iff]
        intro read hread hkey
        have hlt := seen.lines.keys_lt read.1 (htallied.reads read hread).1
        have hkey' := of_decide_eq_true hkey
        omega
      rw [if_pos hsame, if_pos hsame]
      change _ = some { (_ : CycleCountLine) with
        countedQuantity := (seen.countsOf countLineId).getLast?.or none }
      rw [hnone]
      rfl
    · rw [if_neg hsame, if_neg hsame]
      rfl
  · intro read hread
    obtain ⟨hline, hcount⟩ := htallied.reads read hread
    exact ⟨List.mem_append_left _ hline, hcount⟩
  · have hfresh : ∀ row ∈ seen.lines.rows, row.countId = countId → row.itemId ≠ itemId := by
      intro row hrow hsame hitem
      rw [onCount_iff.mpr ⟨row, hrow, hsame, hitem⟩] at hnew
      cases hnew
    intro row hrow other hother hsame hitem
    rcases List.mem_append.mp hrow with hold | hadded
    · rcases List.mem_append.mp hother with hold' | hadded'
      · exact htallied.unique row hold other hold' hsame hitem
      · rw [List.mem_singleton.mp hadded'] at hsame hitem
        exact absurd hitem (hfresh row hold hsame)
    · rcases List.mem_append.mp hother with hold' | hadded'
      · rw [List.mem_singleton.mp hadded] at hsame hitem
        exact absurd hitem.symm (hfresh other hold' hsame.symm)
      · rw [List.mem_singleton.mp hadded, List.mem_singleton.mp hadded']

theorem Tallied.entry {submission after : Submission} {entry : CountEntry}
    (htallied : Tallied db header.countId seen submission.db)
    (hentry : submitEntry ctx header submission entry = .ok after) :
    Tallied db header.countId (seen.next header.countId entry) after.db := by
  rw [submitEntry] at hentry
  rw [Readings.next]
  split at hentry
  · rename_i hunexpected
    rw [if_pos hunexpected]
    obtain ⟨itemId, hitem, hentry⟩ := bind_eq_ok.mp hentry
    rw [orThrow_eq_ok.mp hitem]
    rw [htallied.onCount_eq] at hentry
    split at hentry
    · rename_i halready
      cases hentry
      simp only [if_pos halready]
      exact htallied
    · rename_i hnew
      cases hentry
      simp only [if_neg hnew]
      have hadded := htallied.add (Bool.eq_false_of_not_eq_true hnew)
      have hline : (addLine header.countId itemId none seen.lines).find? seen.lines.nextKey =
          some ⟨seen.lines.nextKey, header.countId, itemId, 0, none, true⟩ :=
        (find?_addLine _ _ _ _ _).trans (if_pos rfl)
      refine hadded.read hline rfl ?_ ?_ ?_ ?_
      · rfl
      · exact htallied.grown.trans (List.prefix_append _ _)
      · rw [← htallied.nextKey]
        exact addLine_some _ _ _ _
      · intro other
        rw [sub_zero]
        exact createdFor_addAdjustment htallied.grown _ _ _ _ _ _
  · rename_i hsnapshot
    rw [if_neg hsnapshot]
    obtain ⟨stored, hstored, hentry⟩ := bind_eq_ok.mp hentry
    obtain ⟨hfind, hcount⟩ := Option.filter_eq_some_iff.mp (orThrow_eq_ok.mp hstored)
    obtain ⟨named, hnamed, hfind⟩ := Option.bind_eq_some_iff.mp hfind
    rw [htallied.found] at hfind
    obtain ⟨line, hline, rfl⟩ := Option.map_eq_some_iff.mp hfind
    rw [hnamed]
    rw [Table.find?_key hline] at hentry
    dsimp only at hentry
    split at hentry
    · rename_i hzero
      cases hentry
      refine htallied.read hline (of_decide_eq_true hcount) rfl htallied.grown rfl ?_
      intro itemId
      rw [hzero, ite_self, add_zero]
      rfl
    · cases hentry
      exact htallied.read hline (of_decide_eq_true hcount) rfl
        (htallied.grown.trans (List.prefix_append _ _)) rfl
        fun itemId => createdFor_addAdjustment htallied.grown _ _ _ _ _ _

theorem tallied_submitEntries (hunique : UniqueLines db.lines)
    (hdone : submitEntries ctx header db entries = .ok done) :
    Tallied db header.countId (readings db header.countId entries) done.db := by
  have hwalk : ∀ (entries : List CountEntry) (seen : Readings) (submission : Submission),
      Tallied db header.countId seen submission.db →
        entries.foldlM (submitEntry ctx header) submission = .ok done →
          Tallied db header.countId (entries.foldl (Readings.next header.countId) seen)
            done.db := by
    intro entries
    induction entries with
    | nil =>
        intro seen submission htallied hdone
        cases hdone
        exact htallied
    | cons entry entries ih =>
        intro seen submission htallied hdone
        rw [List.foldlM_cons] at hdone
        obtain ⟨after, hafter, hdone⟩ := bind_eq_ok.mp hdone
        exact ih _ after (htallied.entry hafter) hdone
  exact hwalk entries ⟨db.lines, []⟩ ⟨db, 0, 0⟩ (tallied_refl hunique) hdone

end Entries

/-! ## What was counted -/

theorem settles_iff (expected : ℤ) (stored : Option ℤ) (counts : List ℤ) :
    Settles expected stored counts ↔ ∀ counted ∈ counts.getLast?.or stored,
      (counts.map fun counted => counted - expected).sum = counted - expected := by
  rw [Settles]
  cases counts using List.reverseRecOn with
  | nil =>
      rw [if_pos rfl]
      refine forall₂_congr fun counted _ => ?_
      rw [List.map_nil, List.sum_nil]
      omega
  | append_singleton counts last =>
      rw [if_neg (List.concat_ne_nil last counts), List.dropLast_concat, List.getLast?_concat,
        Option.some_or, List.map_append, List.sum_append, List.map_singleton,
        List.sum_singleton]
      simp

section Counted

variable {db after : CountDb} {countId : ℕ} {seen : Readings} {line : CycleCountLine}

/-- The adjustments of an item are those of the readings of its line. -/
theorem Tallied.created_eq (htallied : Tallied db countId seen after)
    (hline : line ∈ seen.lines.rows) (hcount : line.countId = countId) :
    createdFor db after countId line.itemId =
      ((seen.countsOf line.countLineId).map fun counted =>
        counted - line.expectedQuantity).sum := by
  have hread : ∀ read ∈ seen.reads, read.1.itemId = line.itemId ∨
      read.1.countLineId = line.countLineId → read.1 = line := by
    intro read hmem hsame
    obtain ⟨hown, hown'⟩ := htallied.reads read hmem
    apply List.inj_on_of_nodup_map seen.lines.keys_nodup hown hline
    rcases hsame with hitem | hkey
    · exact htallied.unique _ hown _ hline (hown'.trans hcount.symm) hitem
    · exact hkey
  rw [htallied.created, Readings.countsOf, List.map_map]
  generalize seen.reads = reads at hread
  induction reads with
  | nil => rfl
  | cons read reads ih =>
      rw [List.map_cons, List.sum_cons,
        ih fun other hother => hread other (List.mem_cons_of_mem _ hother)]
      have hown := hread read List.mem_cons_self
      by_cases hkey : read.1.countLineId = line.countLineId
      · rw [hown (Or.inr hkey), if_pos rfl, List.filter_cons, if_pos (by simpa using hkey),
          List.map_cons, List.sum_cons]
        rfl
      · rw [if_neg fun hitem => hkey (congrArg _ (hown (Or.inl hitem))), zero_add,
          List.filter_cons, if_neg (by simpa using hkey)]

theorem Tallied.say_iff (htallied : Tallied db countId seen after) :
    AdjustmentsSayCounted db after countId ↔
      ∀ line ∈ seen.lines.rows, line.countId = countId →
        Settles line.expectedQuantity line.countedQuantity
          (seen.countsOf line.countLineId) := by
  constructor
  · intro hsay line hline hcount
    have hfound := htallied.found line.countLineId
    rw [Table.find?_eq_some_iff.mpr ⟨hline, rfl⟩] at hfound
    have hrow := hsay _ (Table.find?_mem hfound) hcount
    rw [settles_iff, ← htallied.created_eq hline hcount]
    exact hrow
  · intro hsettles row hrow hcount
    obtain ⟨line, hline, rfl⟩ := htallied.exists_line hrow
    have hsettle := (settles_iff _ _ _).mp (hsettles line hline hcount)
    rw [← htallied.created_eq hline hcount] at hsettle
    exact hsettle

end Counted

/-! ## Submissions beside each other -/

section Runs

theorem submit_acquires {next : SubmitMemory} {db : CountDb}
    (hproceed : submitStatement request memory isLocked db = .proceed next) :
    ∃ header, next = .holding header ∧ isLocked request.countId = false ∧
      db.counts.find? request.countId = some header ∧ header.isOpen = true := by
  cases memory with
  | holding header =>
      simp only [submitStatement] at hproceed
      split at hproceed <;> cases hproceed
  | start =>
      simp only [submitStatement] at hproceed
      split at hproceed
      · cases hproceed
      · rename_i header hfind
        split at hproceed
        · cases hproceed
        · rename_i hfree
          split at hproceed
          · cases hproceed
          · rename_i hcheck
            cases hproceed
            obtain ⟨-, -, hopen⟩ := bind_eq_ok.mp hcheck
            exact ⟨header, rfl, by simpa using hfree, hfind, require_eq_ok.mp hopen⟩

theorem submit_commits {db : CountDb}
    (hcommit : submitStatement request memory isLocked db = .commit next answer) :
    ∃ header done, memory = .holding header ∧
      submitEntries request.ctx header db request.lines = .ok done ∧
      next = closeCount request.countId done ∧
      answer = .submitted ⟨request.countId, finalStatus done, done.linesWithVariance,
        done.linesMatched⟩ := by
  cases memory with
  | holding header =>
      simp only [submitStatement] at hcommit
      split at hcommit
      · cases hcommit
      · rename_i done hdone
        cases hcommit
        exact ⟨header, done, rfl, hdone, rfl, rfl⟩
  | start =>
      simp only [submitStatement] at hcommit
      split at hcommit
      · cases hcommit
      · split at hcommit
        · cases hcommit
        · split at hcommit <;> cases hcommit

theorem submit_refuses {db : CountDb}
    (hrollback : submitStatement request memory isLocked db = .rollback answer) :
    ∃ error, answer = .refused error := by
  cases memory with
  | holding header =>
      simp only [submitStatement] at hrollback
      split at hrollback <;> cases hrollback
      exact ⟨_, rfl⟩
  | start =>
      simp only [submitStatement] at hrollback
      split at hrollback
      · cases hrollback
        exact ⟨_, rfl⟩
      · split at hrollback
        · cases hrollback
        · split at hrollback <;> cases hrollback
          exact ⟨_, rfl⟩

/-- A submission closes its count and no other. -/
theorem find?_closeCount {db : CountDb} (hunique : UniqueLines db.lines)
    (hdone : submitEntries ctx header db entries = .ok done) (countId other : ℕ) :
    (closeCount countId done).counts.find? other =
      if other = countId then
        (db.counts.find? other).map fun header => { header with status := finalStatus done }
      else db.counts.find? other := by
  rw [closeCount, Table.find?_updateKey _
    (fun header : CycleCount => { header with status := finalStatus done }),
    (tallied_submitEntries hunique hdone).counts]

/-- The count is open, as the submission that holds it has read it. -/
def SubmitMemory.Knows (request : SubmitCycleCountRequest) :
    SubmitMemory → CountDb → Prop
  | .start, _ => True
  | .holding header, db =>
      db.counts.find? request.countId = some header ∧ header.isOpen = true

theorem submit_outline :
    Outline submitProgram (fun db => UniqueLines db.lines) SubmitMemory.Knows (fun _ _ _ => True)
      fun _ _ _ _ _ => True where
  start := fun _ _ _ => trivial
  acquires := by
    intro request memory isLocked db next hproceed lock hlock
    obtain ⟨header, rfl, hfree, -, -⟩ := submit_acquires hproceed
    rw [of_decide_eq_true hlock]
    exact Or.inr hfree
  proceeds := by
    intro request memory isLocked db next _ _ hproceed
    obtain ⟨header, rfl, -, hfind, hopen⟩ := submit_acquires hproceed
    exact ⟨hfind, hopen⟩
  commits := by
    intro request memory isLocked db next answer hunique _ _ hcommit
    obtain ⟨header, done, rfl, hdone, rfl, -⟩ := submit_commits hcommit
    exact (tallied_submitEntries hunique hdone).uniqueLines
  stable := by
    intro request memory isLocked db next answer other memory' hunique _ hother _ hapart _ hcommit
    obtain ⟨header, done, rfl, hdone, rfl, -⟩ := submit_commits hcommit
    cases memory' with
    | start => trivial
    | holding header' =>
        have hne : other.countId ≠ request.countId := by
          intro hsame
          have hheld := hapart request.countId (decide_eq_true rfl)
          rw [← hsame] at hheld
          exact absurd (of_decide_eq_false hheld) (not_not_intro rfl)
        refine ⟨?_, hother.2⟩
        rw [find?_closeCount hunique hdone, if_neg hne]
        exact hother.1

/-- One for a count that is closed. -/
def closedCount (countId : ℕ) (db : CountDb) : ℤ :=
  if (db.counts.find? countId).any fun header => !header.isOpen then 1 else 0

/-- One for an accepted submission of the count. -/
def SubmitAnswer.accepts (countId : ℕ) : SubmitAnswer → ℤ
  | .submitted reply => if reply.countId = countId then 1 else 0
  | .refused _ => 0

theorem closedCount_commit {db : CountDb} (hunique : UniqueLines db.lines)
    (hknows : memory.Knows request db)
    (hcommit : submitStatement request memory isLocked db = .commit next answer)
    (countId : ℕ) :
    closedCount countId next = closedCount countId db + answer.accepts countId := by
  obtain ⟨header, done, rfl, hdone, rfl, rfl⟩ := submit_commits hcommit
  rw [closedCount, closedCount, find?_closeCount hunique hdone, SubmitAnswer.accepts]
  by_cases hsame : countId = request.countId
  · rw [hsame, if_pos rfl, hknows.1, if_pos rfl, Option.map_some, Option.any_some,
      Option.any_some, hknows.2, finalStatus]
    split <;> rfl
  · rw [if_neg hsame, if_neg (Ne.symm hsame), add_zero]

variable {Ticket : Type} [Fintype Ticket] [DecidableEq Ticket]

/-- The submissions after these steps. -/
def submitRun (requests : Ticket → SubmitCycleCountRequest) (db : CountDb)
    (steps : List (Step Ticket)) : Service CountDb Ticket SubmitMemory SubmitAnswer :=
  run (Sessions.serve submitProgram requests) (opened submitProgram requests db) steps

/-- The next statement of the submission commits these tables. -/
def Submits (requests : Ticket → SubmitCycleCountRequest)
    (service : Service CountDb Ticket SubmitMemory SubmitAnswer) (ticket : Ticket)
    (next : CountDb) : Prop :=
  ∃ memory answer, service.stage ticket = .running memory ∧
    submitStatement (requests ticket) memory (locked submitProgram requests service ticket)
      service.world = .commit next answer

/-- The submission was accepted. -/
def Accepted (service : Service CountDb Ticket SubmitMemory SubmitAnswer) (ticket : Ticket)
    (countId : ℕ) : Prop :=
  ∃ reply, service.stage ticket = .ended (some (.submitted reply)) ∧ reply.countId = countId

/-- Each acceptance moves the count from open to closed, so there is one at most. -/
theorem accepted_unique (requests : Ticket → SubmitCycleCountRequest) {db : CountDb}
    (hunique : UniqueLines db.lines) (steps : List (Step Ticket)) {countId : ℕ}
    {ticket other : Ticket} (haccepted : Accepted (submitRun requests db steps) ticket countId)
    (haccepted' : Accepted (submitRun requests db steps) other countId) : ticket = other := by
  have hbalance : closedCount countId (submitRun requests db steps).world =
      closedCount countId db +
        answeredWorth requests (fun _ => SubmitAnswer.accepts countId)
          (submitRun requests db steps) := by
    apply balance_run_steady submit_outline.moded _ _ hunique steps
    · intro request memory isLocked world next answer hunique hknows hcommit
      exact closedCount_commit hunique hknows hcommit countId
    · intro request memory isLocked world answer hrollback
      obtain ⟨error, rfl⟩ := submit_refuses hrollback
      rfl
  have hbounds : ∀ db : CountDb, 0 ≤ closedCount countId db ∧ closedCount countId db ≤ 1 := by
    intro db
    rw [closedCount]
    split <;> decide
  have hnonneg : ∀ request answer, 0 ≤ (fun _ : SubmitCycleCountRequest =>
      SubmitAnswer.accepts countId) request answer := by
    intro request answer
    cases answer with
    | refused error => exact le_refl 0
    | submitted reply =>
        change 0 ≤ if reply.countId = countId then (1 : ℤ) else 0
        split <;> decide
  obtain ⟨reply, hstage, rfl⟩ := haccepted
  obtain ⟨reply', hstage', hsame⟩ := haccepted'
  have hfinal := (hbounds (submitRun requests db steps).world).2
  have hfirst := (hbounds db).1
  have hone : answeredWorth requests (fun _ => SubmitAnswer.accepts reply.countId)
      (submitRun requests db steps) ≤ 1 := by omega
  exact eq_of_answeredWorth_le_one hnonneg hone hstage hstage' (if_pos rfl).ge (if_pos hsame).ge

/-- Of the submissions of a count at most one is accepted, and its adjustments say what was
counted exactly when the counts that its entries overwrite have variances that cancel. -/
theorem adjustments_say_counted_iff (requests : Ticket → SubmitCycleCountRequest)
    (db : CountDb) (hunique : UniqueLines db.lines) (steps : List (Step Ticket)) :
    (∀ countId ticket other, Accepted (submitRun requests db steps) ticket countId →
      Accepted (submitRun requests db steps) other countId → ticket = other) ∧
    ∀ ticket next, Submits requests (submitRun requests db steps) ticket next →
      (AdjustmentsSayCounted (submitRun requests db steps).world next
          (requests ticket).countId ↔
        EntriesSettle (submitRun requests db steps).world (requests ticket).countId
          (requests ticket).lines) := by
  refine ⟨fun countId ticket other => accepted_unique requests hunique steps, ?_⟩
  rintro ticket next ⟨memory, answer, hstage, hcommit⟩
  have hsound : Sound submitProgram requests (fun db => UniqueLines db.lines) SubmitMemory.Knows
      (submitRun requests db steps) := sound_run_always submit_outline hunique steps
  have hknows := hsound.known ticket memory hstage
  obtain ⟨header, done, rfl, hdone, rfl, -⟩ := submit_commits hcommit
  have hheader : header.countId = (requests ticket).countId := Table.find?_key hknows.1
  have hsay := (tallied_submitEntries hsound.inv hdone).say_iff
  rw [hheader] at hsay
  exact hsay

end Runs

namespace SmallCount

def db : CountDb where
  counts := Table.empty.insert (fun countId => ⟨countId, 1, 1, .countPending⟩) fun _ => rfl
  lines := Table.empty.insert (fun countLineId => ⟨countLineId, 1, 3, 5, none, false⟩)
    fun _ => rfl
  adjustments := Table.empty

def submit (counted : List ℤ) : SubmitCycleCountRequest where
  ctx := ⟨"ana", true, false, [1], 100, 1⟩
  countId := 1
  lines := counted.map fun quantity => ⟨some 1, quantity, false, none⟩

end SmallCount

/-- The line is counted once. -/
theorem adjustments_say_counted_once :
    EntriesSettle SmallCount.db 1 (SmallCount.submit [7]).lines ∧
      ∃ next, Submits (fun _ : Unit => SmallCount.submit [7])
        (submitRun (fun _ : Unit => SmallCount.submit [7]) SmallCount.db [.advance ()]) () next ∧
        AdjustmentsSayCounted SmallCount.db next 1 := by
  have hsettle : EntriesSettle SmallCount.db 1 (SmallCount.submit [7]).lines := by
    intro line hline _
    rw [List.mem_singleton.mp hline]
    exact (if_neg (List.cons_ne_nil 7 [])).mpr rfl
  have hsay := (adjustments_say_counted_iff (fun _ : Unit => SmallCount.submit [7])
    SmallCount.db (by unfold UniqueLines; decide) [.advance ()]).2 ()
  have hsubmits : Submits (fun _ : Unit => SmallCount.submit [7])
      (submitRun (fun _ : Unit => SmallCount.submit [7]) SmallCount.db [.advance ()]) () _ :=
    ⟨.holding ⟨1, 1, 1, .countPending⟩, _, rfl, rfl⟩
  exact ⟨hsettle, _, hsubmits, (hsay _ hsubmits).mpr hsettle⟩

/-- Five are expected, seven are counted, then eight: adjustments of two and of three. -/
theorem adjustments_of_both_counts :
    ∃ next, Submits (fun _ : Unit => SmallCount.submit [7, 8])
        (submitRun (fun _ : Unit => SmallCount.submit [7, 8]) SmallCount.db [.advance ()]) ()
          next ∧
      ¬ AdjustmentsSayCounted SmallCount.db next 1 := by
  refine ⟨_, ⟨.holding ⟨1, 1, 1, .countPending⟩, _, rfl, rfl⟩, ?_⟩
  intro hsay
  have hline := hsay ⟨1, 1, 3, 5, some 8, false⟩ (by decide) rfl 8 rfl
  exact absurd hline (by decide)

end SentryWms.Stock
