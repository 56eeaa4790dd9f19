import SentryWms.Audit.Chain

/-!
# What the chain notices

An altered table keeps hashes that the trigger has computed: nobody computes new ones.
The verifier notices the change unless the rows, in the order of their log ids, are still
linked from the genesis, and every row's text is the one that was hashed with its hashes.
Shifting text over a separator and dropping the newest rows pass that test.
-/

namespace SentryWms.Audit

open Relational

variable {Zone Ticket : Type*} [DecidableEq Ticket]
variable {text : Zone → ℤ → String} {digest : Bytes → Bytes}

/-- The row carries the two hashes of the log's row. -/
def Carries (row : AuditRow) (source : SealedRow) : Prop :=
  source.row.prevHash = row.prevHash ∧ source.row.rowHash = row.rowHash

/-- No hash is computed for an altered table: its rows carry the hashes of rows of the
log, or none of their own content. -/
def CopiesHashes (text : Zone → ℤ → String) (digest : Bytes → Bytes) (zone : Zone)
    (log : List SealedRow) (altered : List AuditRow) : Prop :=
  ∀ row ∈ altered, row.prevHash = none ∨ computedHash text digest zone row ≠ row.rowHash ∨
    ∃ source ∈ log, Carries row source

/-- Every row has the text that was hashed with its hashes. -/
def KeepsTexts (text : Zone → ℤ → String) (zone : Zone) (log : List SealedRow)
    (altered : List AuditRow) : Prop :=
  ∀ row ∈ altered, ∃ source ∈ log, Carries row source ∧
    verifiedPayload text zone row.entry = source.payload

/-- The rows are linked from the genesis, in the order of their log ids. -/
def Linked (rows : List AuditRow) : Prop :=
  (HashChain.mk AuditRow.prevHash AuditRow.rowHash AuditRow.rowHash).Links (some genesis)
    (byLogId rows)

variable {rows : List AuditRow} {log : List SealedRow} {head : Bytes} {sequence : ℕ}

theorem links_iff_linked {zone : Zone} :
    (auditChain text digest zone).Links (some genesis) (byLogId rows) ↔ Linked rows := by
  have hany : ∀ (start : Option Bytes) (listed : List AuditRow),
      (auditChain text digest zone).Links start listed ↔
        (HashChain.mk AuditRow.prevHash AuditRow.rowHash AuditRow.rowHash).Links start
          listed := by
    intro start listed
    induction listed generalizing start with
    | nil => exact Iff.rfl
    | cons row rest ih =>
        rw [HashChain.Links, HashChain.Links, ih]
        exact Iff.rfl
  exact hany _ _

/-- The rows of a table that verifies know the row before them. -/
theorem prevHash_of_verified {zone : Zone}
    (hverified : verifyAuditLogChain text digest zone rows = none) :
    ∀ row ∈ rows, row.prevHash ≠ none := by
  obtain ⟨hlinks, hsealed⟩ := verify_eq_none_iff.mp hverified
  have hhash : ∀ row ∈ rows, row.prevHash ≠ none → row.rowHash ≠ none := by
    intro row hrow hprev
    have hsame : computedHash text digest zone row = row.rowHash := hsealed row hrow
    obtain ⟨prev, hprev⟩ := Option.ne_none_iff_exists'.mp hprev
    rw [← hsame, computedHash, hprev]
    exact Option.some_ne_none _
  have hprevs : ∀ row ∈ byLogId rows, row.prevHash ≠ none := by
    apply @HashChain.Links.prev_of _ _ _ _ _ (fun hash => hash ≠ none) hlinks
      (Option.some_ne_none _)
    intro row hrow hprev
    exact hhash row (List.mem_mergeSort.mp hrow) hprev
  intro row hrow
  exact hprevs row (List.mem_mergeSort.mpr hrow)

/-- A row with the hashes of a row of the log verifies if it has its text. -/
theorem sealed_of_carries {zone : Zone} (hforged : Forged text digest log head sequence)
    {row : AuditRow} {source : SealedRow} (hsource : source ∈ log)
    (hcarries : Carries row source)
    (hpayload : verifiedPayload text zone row.entry = source.payload) :
    (auditChain text digest zone).Sealed row := by
  obtain ⟨prev, hprev, hhash⟩ := hforged.hashed source hsource
  exact sealed_of_payload (hcarries.1 ▸ hprev) (hcarries.2 ▸ hhash) hpayload

/-- Under an injective digest, a table that carries hashes of the log goes unnoticed
exactly if it is linked and keeps the texts. -/
theorem verified_iff (hinjective : Function.Injective digest) {zone : Zone}
    (hforged : Forged text digest log head sequence) {altered : List AuditRow}
    (hcopies : CopiesHashes text digest zone log altered) :
    verifyAuditLogChain text digest zone altered = none ↔
      Linked altered ∧ KeepsTexts text zone log altered := by
  constructor
  · intro hverified
    obtain ⟨hlinks, hsealed⟩ := verify_eq_none_iff.mp hverified
    refine ⟨links_iff_linked.mp hlinks, ?_⟩
    intro row hrow
    rcases hcopies row hrow with hnone | hother | ⟨source, hsource, hcarries⟩
    · exact absurd hnone (prevHash_of_verified hverified row hrow)
    · exact absurd (hsealed row hrow) hother
    · refine ⟨source, hsource, hcarries, ?_⟩
      obtain ⟨prev, hprev, hhash⟩ := hforged.hashed source hsource
      exact payload_of_sealed hinjective (hcarries.1 ▸ hprev) (hcarries.2 ▸ hhash)
        (hsealed row hrow)
  · rintro ⟨hlinked, hkeeps⟩
    refine verify_eq_none_iff.mpr ⟨links_iff_linked.mpr hlinked, ?_⟩
    intro row hrow
    obtain ⟨source, hsource, hcarries, hpayload⟩ := hkeeps row hrow
    exact sealed_of_carries hforged hsource hcarries hpayload

/-- The verifier notices an altered table exactly if some link is broken or some text is
not the one that was hashed. -/
theorem tampering_detected_iff (text : Zone → ℤ → String) (digest : Bytes → Bytes)
    (hinjective : Function.Injective digest) (zone : Zone)
    (steps : List (AuditStep Zone Ticket)) (altered : List AuditRow)
    (hcopies : CopiesHashes text digest zone (auditRun text digest steps).log altered) :
    verifyAuditLogChain text digest zone altered ≠ none ↔
      ¬ (Linked altered ∧ KeepsTexts text zone (auditRun text digest steps).log altered) :=
  not_congr (verified_iff hinjective (chained_run steps).log hcopies)

theorem byLogId_of_ordered
    (hordered : rows.Pairwise fun row other => row.logId ≤ other.logId) :
    byLogId rows = rows :=
  List.mergeSort_of_pairwise (hordered.imp fun hle => decide_eq_true hle)

/-- A pick whose action text reaches over the separator. -/
def shiftedEntry : AuditEntry :=
  { pickEntry with actionType := "PICK|SO", entityType := "LINE" }

def pickSteps : List (AuditStep Unit Unit) :=
  [.insert () ⟨(), 1767225600000000⟩ shiftedEntry, .commit ()]

def shiftedRow : SealedRow := sealRow utcText id ⟨(), 1767225600000000⟩ 1 genesis shiftedEntry

/-- The same hashes, with the separator at another place. -/
def alteredRow : AuditRow :=
  { shiftedRow.row with
    entry := { pickEntry with actionType := "PICK", entityType := "SO|LINE" } }

theorem alteredRow_carries : Carries alteredRow shiftedRow := ⟨rfl, rfl⟩

theorem copiesHashes_altered :
    CopiesHashes utcText id () (auditRun utcText id pickSteps).log [alteredRow] := by
  intro row hrow
  rw [List.mem_singleton.mp hrow]
  exact Or.inr (Or.inr ⟨shiftedRow, List.mem_cons_self, alteredRow_carries⟩)

/-- The second of two rows, when the first is deleted. -/
def beheaded : List AuditRow := (auditRun utcText id gapSteps).rows.drop 1

theorem copiesHashes_beheaded :
    CopiesHashes utcText id () (auditRun utcText id gapSteps).log beheaded := by
  intro row hrow
  obtain ⟨sealedRow, hsealed, rfl⟩ := List.mem_map.mp (List.mem_of_mem_drop hrow)
  exact Or.inr (Or.inr ⟨sealedRow, hsealed, rfl, rfl⟩)

/-- The deletion is detected: the row that is left is not linked to the start. -/
theorem tampering_detected_iff_beheaded :
    beheaded.map AuditRow.logId = [3] ∧ verifyAuditLogChain utcText id () beheaded ≠ none := by
  refine ⟨rfl, (tampering_detected_iff utcText id Function.injective_id () gapSteps beheaded
    copiesHashes_beheaded).mpr ?_⟩
  rintro ⟨hlinked, -⟩
  obtain ⟨row, hrow⟩ : ∃ row, beheaded = [row] := ⟨_, rfl⟩
  rw [Linked, hrow, byLogId_of_ordered (List.pairwise_singleton _ _)] at hlinked
  obtain ⟨hfirst, -⟩ := hlinked
  have hprev : row.prevHash =
      some (genesis ++ utf8 (writtenPayload utcText utcSession pickEntry)) := by
    cases hrow
    rfl
  have hempty : utf8 (writtenPayload utcText utcSession pickEntry) = utf8 "" :=
    List.append_right_eq_self.mp (Option.some.inj (hprev.symm.trans hfirst))
  exact absurd (utf8_injective hempty) (by decide)

/-- Text moved over a separator goes unnoticed, and so does the loss of every row. -/
theorem tampering_unnoticed :
    (auditRun utcText id pickSteps).rows = [shiftedRow.row] ∧
      alteredRow.entry.actionType ≠ shiftedRow.row.entry.actionType ∧
      alteredRow.entry.entityType ≠ shiftedRow.row.entry.entityType ∧
      verifyAuditLogChain utcText id () [alteredRow] = none ∧
      verifyAuditLogChain utcText id () [] = none := by
  have hempty : verifyAuditLogChain utcText id () [] = none :=
    verify_eq_none_iff.mpr ⟨by rw [byLogId_of_ordered List.Pairwise.nil]; trivial, by simp⟩
  refine ⟨rfl, by decide, by decide, ?_, hempty⟩
  have hforged : Forged utcText id (auditRun utcText id pickSteps).log _ _ :=
    (chained_run pickSteps).log
  refine (verified_iff Function.injective_id hforged copiesHashes_altered).mpr ⟨?_, ?_⟩
  · rw [Linked, byLogId_of_ordered (List.pairwise_singleton _ _)]
    exact ⟨rfl, trivial⟩
  · intro row hrow
    rw [List.mem_singleton.mp hrow]
    exact ⟨shiftedRow, List.mem_cons_self, alteredRow_carries, by decide⟩

end SentryWms.Audit
