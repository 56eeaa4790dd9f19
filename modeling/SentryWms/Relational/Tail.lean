import SentryWms.Relational.CommitLog
import SentryWms.Relational.Keyset

/-!
# Reading the tail of a log

A reader pages through the committed entries of a log by their ids and remembers only
the last id it read.  It leaves out entries whose stamp is not yet past a gate.  An
entry is lost to it when a page ends beyond the entry's id while the entry is hidden,
as its transaction is still open or its stamp too recent.  The reader reads everything
up to its cursor if and only if no page does that.
-/

namespace Relational.Tail

variable {Payload Effect : Type*} (scope : Payload → Bool) (gate : ℕ)

/-- The stamp of the entry is past the gate. -/
def past (gate now : ℕ) (entry : Entry Payload) : Bool :=
  entry.stamp.any fun stamped => stamped + gate ≤ now

/-- The entries a reader sees. -/
def visible (now : ℕ) (log : CommitLog Payload Effect) : List (Entry Payload) :=
  log.entries.filter fun entry => past gate now entry ∧ scope entry.payload

/-- The next page of a reader. -/
def readPage (now after limit : ℕ) (log : CommitLog Payload Effect) : List (Entry Payload) :=
  Keyset.page Entry.id (visible scope gate now log) after limit

/-- The cursor after the page. -/
def cursorAfter (now after limit : ℕ) (log : CommitLog Payload Effect) : ℕ :=
  Keyset.nextAfter Entry.id after (readPage scope gate now after limit log)

/-- An entry that survives is hidden below a visible one, and fewer than a page of
visible entries come before it: the next page ends beyond it. -/
def Overtakes (survives : ℕ → Prop) (now after limit : ℕ)
    (log : CommitLog Payload Effect) : Prop :=
  ∃ hidden ∈ log.all, scope hidden.payload ∧ after < hidden.id ∧ survives hidden.id ∧
    hidden ∉ visible scope gate now log ∧
    (∃ other ∈ visible scope gate now log, hidden.id < other.id) ∧
    ((visible scope gate now log).countP fun other =>
      after < other.id ∧ other.id < hidden.id) < limit

instance [DecidableEq Payload] (survives : ℕ → Prop) [DecidablePred survives]
    (now after limit : ℕ) (log : CommitLog Payload Effect) :
    Decidable (Overtakes scope gate survives now after limit log) := by
  unfold Overtakes
  infer_instance

variable {scope gate} {now after limit : ℕ} {log : CommitLog Payload Effect}

theorem mem_visible {entry : Entry Payload} :
    entry ∈ visible scope gate now log ↔
      entry ∈ log.entries ∧ past gate now entry ∧ scope entry.payload := by
  rw [visible, List.mem_filter, decide_eq_true_eq]

theorem visible_mem_all {entry : Entry Payload}
    (hentry : entry ∈ visible scope gate now log) : entry ∈ log.all :=
  CommitLog.mem_all.mpr (Or.inr (mem_visible.mp hentry).1)

theorem mem_readPage {entry : Entry Payload}
    (hentry : entry ∈ readPage scope gate now after limit log) :
    entry ∈ visible scope gate now log ∧ after < entry.id :=
  Keyset.page_subset hentry

/-- Ids are unique, so a page is in strict order. -/
theorem readPage_sorted : (readPage scope gate now after limit log).Pairwise
    fun left right => left.id < right.id := by
  have hall : (log.all.map Entry.id).Nodup := log.ids_nodup
  have hvisible : ((visible scope gate now log).map Entry.id).Nodup := by
    refine List.Nodup.sublist ?_ hall
    exact (List.filter_sublist.trans (List.sublist_append_right _ _)).map _
  have hbeyond : ((Keyset.beyond Entry.id (visible scope gate now log) after).map
      Entry.id).Nodup := by
    rw [((Keyset.beyond_perm _ _).map Entry.id).nodup_iff]
    exact List.Nodup.sublist (List.filter_sublist.map _) hvisible
  have hpage : ((readPage scope gate now after limit log).map Entry.id).Nodup :=
    List.Nodup.sublist ((List.take_sublist _ _).map _) hbeyond
  have hle := Keyset.page_sorted Entry.id (visible scope gate now log) after limit
  exact (hle.and (List.pairwise_map.mp hpage)).imp fun hboth => lt_of_le_of_ne hboth.1 hboth.2

theorem le_cursorAfter_of_mem {entry : Entry Payload}
    (hentry : entry ∈ readPage scope gate now after limit log) :
    entry.id ≤ cursorAfter scope gate now after limit log :=
  Keyset.le_nextAfter (Keyset.page_sorted _ _ _ _) hentry

theorem le_cursorAfter : after ≤ cursorAfter scope gate now after limit log :=
  Keyset.le_nextAfter_page _ _ _

/-- A cursor that moved is the id of the last entry of the page. -/
theorem cursorAfter_mem (hmoved : after < cursorAfter scope gate now after limit log) :
    ∃ last ∈ readPage scope gate now after limit log,
      last.id = cursorAfter scope gate now after limit log := by
  have hne : readPage scope gate now after limit log ≠ [] := by
    intro hnil
    rw [cursorAfter, hnil, Keyset.nextAfter_nil] at hmoved
    exact lt_irrefl _ hmoved
  obtain ⟨last, hlast, hnext⟩ := Keyset.nextAfter_mem Entry.id after hne
  exact ⟨last, hlast, hnext.symm⟩

/-- A cursor is where the reader started or an id that was drawn. -/
theorem drawn_cursorAfter {start : ℕ} (hdrawn : after = start ∨ after < log.nextId) :
    cursorAfter scope gate now after limit log = start ∨
      cursorAfter scope gate now after limit log < log.nextId := by
  have hle : after ≤ cursorAfter scope gate now after limit log := le_cursorAfter
  rcases eq_or_lt_of_le hle with hsame | hmoved
  · rw [← hsame]
    exact hdrawn
  · obtain ⟨last, hlast, hid⟩ := cursorAfter_mem hmoved
    rw [← hid]
    exact Or.inr (CommitLog.id_lt (visible_mem_all (mem_readPage hlast).1))

/-- Entries beyond the cursor are counted over those in order. -/
theorem countP_visible {test : Entry Payload → Bool}
    (hbeyond : ∀ entry, test entry = true → after < entry.id) :
    (visible scope gate now log).countP test =
      (Keyset.beyond Entry.id (visible scope gate now log) after).countP test := by
  rw [(Keyset.beyond_perm _ _).countP_eq test, List.countP_filter]
  apply List.countP_congr
  intro entry _
  constructor
  · intro htest
    simp [htest, hbeyond entry htest]
  · intro hboth
    exact (Bool.and_eq_true_iff.mp hboth).1

/-- All visible entries before one of the page are on the page. -/
theorem countP_visible_le {test : Entry Payload → Bool} {last : Entry Payload}
    (hbeyond : ∀ entry, test entry = true → after < entry.id)
    (hlast : last ∈ readPage scope gate now after limit log)
    (hbefore : ∀ entry, test entry = true → entry.id < last.id) :
    (visible scope gate now log).countP test ≤
      (readPage scope gate now after limit log).countP test := by
  have hsorted := Keyset.beyond_sorted Entry.id (visible scope gate now log) after
  rw [countP_visible hbeyond]
  rw [← List.take_append_drop limit
    (Keyset.beyond Entry.id (visible scope gate now log) after)] at hsorted ⊢
  rw [List.countP_append]
  have hrest : ((Keyset.beyond Entry.id (visible scope gate now log) after).drop
      limit).countP test = 0 := by
    rw [List.countP_eq_zero]
    intro entry hentry htest
    have hle := (List.pairwise_append.mp hsorted).2.2 last hlast entry hentry
    exact absurd (hbefore entry htest) (not_lt_of_ge hle)
  rw [hrest]
  exact le_refl _

/-- A page ends beyond a hidden entry if it is overtaken. -/
theorem Overtakes.le_cursorAfter {hidden : Entry Payload}
    (hother : ∃ other ∈ visible scope gate now log, hidden.id < other.id)
    (hafter : after < hidden.id)
    (hcount : ((visible scope gate now log).countP fun other =>
      after < other.id ∧ other.id < hidden.id) < limit) :
    hidden.id ≤ cursorAfter scope gate now after limit log := by
  by_contra hbelow
  obtain ⟨other, hvisible, hlt⟩ := hother
  have hall : ∀ entry ∈ readPage scope gate now after limit log,
      after < entry.id ∧ entry.id < hidden.id := by
    intro entry hentry
    exact ⟨(mem_readPage hentry).2,
      lt_of_le_of_lt (le_cursorAfter_of_mem hentry) (lt_of_not_ge hbelow)⟩
  have hshort : (readPage scope gate now after limit log).length < limit := by
    refine lt_of_le_of_lt ?_ hcount
    have hlength := List.countP_eq_length.mpr fun entry hentry => decide_eq_true (hall entry hentry)
    rw [← hlength, countP_visible fun entry htest => (of_decide_eq_true htest).1]
    exact (List.take_sublist _ _).countP_le
  have hread : other ∈ readPage scope gate now after limit log := by
    rw [readPage, Keyset.page_of_short hshort]
    exact Keyset.mem_beyond.mpr ⟨hvisible, hafter.trans hlt⟩
  exact lt_asymm hlt (hall other hread).2

/-- An entry of the log a page ends beyond without reading is overtaken. -/
theorem overtaken_of_missed {entry : Entry Payload} (hentry : entry ∈ log.all)
    (hafter : after < entry.id)
    (hbelow : entry.id ≤ cursorAfter scope gate now after limit log)
    (hmissed : entry ∉ readPage scope gate now after limit log) :
    entry ∉ visible scope gate now log ∧
      (∃ other ∈ visible scope gate now log, entry.id < other.id) ∧
      ((visible scope gate now log).countP fun other =>
        after < other.id ∧ other.id < entry.id) < limit := by
  obtain ⟨last, hlast, hlastId⟩ := cursorAfter_mem (lt_of_lt_of_le hafter hbelow)
  have hlastVisible := (mem_readPage hlast).1
  have hlt : entry.id < last.id := by
    rw [hlastId]
    refine lt_of_le_of_ne hbelow fun hid => hmissed ?_
    have hsame := CommitLog.eq_of_id hentry (visible_mem_all hlastVisible)
      (hid.trans hlastId.symm)
    exact hsame ▸ hlast
  refine ⟨fun hvisible => ?_, ⟨last, hlastVisible, hlt⟩, ?_⟩
  · have hbefore := Keyset.page_before hvisible hafter hmissed hlast
    exact absurd hlt (not_lt_of_ge hbefore)
  · calc
      ((visible scope gate now log).countP fun other => after < other.id ∧ other.id < entry.id) ≤
          (readPage scope gate now after limit log).countP fun other =>
            after < other.id ∧ other.id < entry.id := by
        apply countP_visible_le _ hlast
        · intro other htest
          exact (of_decide_eq_true htest).2.trans hlt
        · intro other htest
          exact (of_decide_eq_true htest).1
      _ < (readPage scope gate now after limit log).length := by
        refine lt_of_le_of_ne List.countP_le_length fun hall => ?_
        have hlastBelow := List.countP_eq_length.mp hall last hlast
        exact lt_asymm hlt (of_decide_eq_true hlastBelow).2
      _ ≤ limit := Keyset.page_length_le _ _ _

/-- A page leaves no surviving entry behind if and only if it overtakes none. -/
theorem readPage_complete_iff {survives : ℕ → Prop} :
    (∀ entry ∈ log.all, scope entry.payload → after < entry.id →
      entry.id ≤ cursorAfter scope gate now after limit log → survives entry.id →
      entry ∈ readPage scope gate now after limit log) ↔
      ¬ Overtakes scope gate survives now after limit log := by
  constructor
  · rintro hcomplete ⟨hidden, hmem, hscope, hafter, hsurvives, hout, hother, hcount⟩
    have hread := hcomplete hidden hmem hscope hafter
      (Overtakes.le_cursorAfter hother hafter hcount) hsurvives
    exact hout (mem_readPage hread).1
  · intro hfree entry hentry hscope hafter hbelow hsurvives
    by_contra hmissed
    exact hfree ⟨entry, hentry, hscope, hafter, hsurvives,
      overtaken_of_missed hentry hafter hbelow hmissed⟩

/-! ## A reader -/

/-- What a reader remembers, and all it has read. -/
structure Reader (Payload : Type*) where
  cursor : ℕ
  returned : List (Entry Payload)
  deriving DecidableEq, Repr

/-- A log and its reader. -/
structure Tailed (Payload Effect : Type*) where
  log : CommitLog Payload Effect
  reader : Reader Payload

inductive TailStep (Payload Effect : Type*)
  | log (step : LogStep Payload Effect)
  | read (now limit : ℕ)
  deriving DecidableEq, Repr

variable (scope gate) in
def serve (state : Tailed Payload Effect) :
    TailStep Payload Effect → Tailed Payload Effect
  | .log step => { state with log := state.log.serve step }
  | .read now limit =>
      { state with
        reader :=
          { cursor := cursorAfter scope gate now state.reader.cursor limit state.log
            returned := state.reader.returned ++
              readPage scope gate now state.reader.cursor limit state.log } }

variable (scope) in
/-- The reader has read committed entries in scope, each once and in the order of
their ids, up to its cursor. -/
structure Ordered (start : ℕ) (state : Tailed Payload Effect) : Prop where
  sorted : state.reader.returned.Pairwise fun left right => left.id < right.id
  committed : ∀ entry ∈ state.reader.returned, entry ∈ state.log.entries
  within : ∀ entry ∈ state.reader.returned, scope entry.payload ∧ start < entry.id ∧
    entry.id ≤ state.reader.cursor
  start_le : start ≤ state.reader.cursor
  drawn : state.reader.cursor = start ∨ state.reader.cursor < state.log.nextId

variable (scope) in
/-- The reader has read every surviving entry up to its cursor. -/
def Complete (start : ℕ) (survives : ℕ → Prop) (state : Tailed Payload Effect) : Prop :=
  ∀ entry ∈ state.log.all, scope entry.payload → start < entry.id →
    entry.id ≤ state.reader.cursor → survives entry.id →
      entry.id ∈ state.reader.returned.map Entry.id

variable {start : ℕ} {survives : ℕ → Prop} {state : Tailed Payload Effect}

theorem Ordered.serve (hordered : Ordered scope start state) (step : TailStep Payload Effect) :
    Ordered scope start (serve scope gate state step) := by
  cases step with
  | log step =>
      have hfollows := CommitLog.follows_serve state.log step
      refine ⟨hordered.sorted, fun entry hentry =>
        hfollows.mem_entries (hordered.committed entry hentry), hordered.within,
        hordered.start_le, ?_⟩
      exact hordered.drawn.imp_right fun hlt => lt_of_lt_of_le hlt hfollows.nextId
  | read now limit =>
      have hcursor : state.reader.cursor ≤
          cursorAfter scope gate now state.reader.cursor limit state.log :=
        le_cursorAfter
      refine ⟨?_, ?_, ?_, hordered.start_le.trans hcursor, ?_⟩
      · refine List.pairwise_append.mpr ⟨hordered.sorted, readPage_sorted, ?_⟩
        intro old hold new hnew
        exact lt_of_le_of_lt (hordered.within old hold).2.2 (mem_readPage hnew).2
      · intro entry hentry
        rcases List.mem_append.mp hentry with hold | hnew
        · exact hordered.committed entry hold
        · exact (mem_visible.mp (mem_readPage hnew).1).1
      · intro entry hentry
        rcases List.mem_append.mp hentry with hold | hnew
        · obtain ⟨hscope, hstart, hle⟩ := hordered.within entry hold
          exact ⟨hscope, hstart, hle.trans hcursor⟩
        · exact ⟨(mem_visible.mp (mem_readPage hnew).1).2.2,
            lt_of_le_of_lt hordered.start_le (mem_readPage hnew).2,
            le_cursorAfter_of_mem hnew⟩
      · exact drawn_cursorAfter hordered.drawn

/-- A transaction's step hides nothing from a reader that has read everything. -/
theorem Complete.follows {after : Tailed Payload Effect}
    (hcomplete : Complete scope start survives state)
    (hdrawn : state.reader.cursor = start ∨ state.reader.cursor < state.log.nextId)
    (hfollows : CommitLog.Follows state.log after.log)
    (hreader : after.reader = state.reader) : Complete scope start survives after := by
  intro entry hentry hscope hstart hle hsurvives
  rw [hreader] at hle ⊢
  rcases hfollows.origin hentry with hold | ⟨old, hold, hid, hpayload⟩ | hnew
  · exact hcomplete entry (CommitLog.mem_all.mpr (Or.inr hold)) hscope hstart hle hsurvives
  · rw [← hid] at hstart hle hsurvives ⊢
    exact hcomplete old (CommitLog.mem_all.mpr (Or.inl hold)) (hpayload ▸ hscope) hstart
      hle hsurvives
  · rcases hdrawn with hcursor | hcursor <;> omega

theorem Complete.mono {more : Reader Payload} (hcomplete : Complete scope start survives state)
    (hcursor : more.cursor = state.reader.cursor)
    (hmore : state.reader.returned ⊆ more.returned) :
    Complete scope start survives { state with reader := more } := by
  intro entry hentry hscope hstart hle hsurvives
  exact List.map_subset Entry.id hmore
    (hcomplete entry hentry hscope hstart (hcursor ▸ hle) hsurvives)

/-- A page that overtakes no surviving entry keeps the reader complete. -/
theorem Complete.read (hcomplete : Complete scope start survives state)
    {now limit : ℕ} (hfree : ¬ Overtakes scope gate survives now state.reader.cursor
      limit state.log) :
    Complete scope start survives (serve scope gate state (.read now limit)) := by
  intro entry hentry hscope hstart hle hsurvives
  change entry.id ∈ (state.reader.returned ++ _).map Entry.id
  rw [List.map_append, List.mem_append]
  rcases Nat.lt_or_ge state.reader.cursor entry.id with hafter | hbefore
  · have hread := readPage_complete_iff.mpr hfree entry hentry hscope hafter hle hsurvives
    exact Or.inr (List.mem_map_of_mem hread)
  · exact Or.inl (hcomplete entry hentry hscope hstart hbefore hsurvives)

/-- When a page is not full, the reader has read every visible entry. -/
theorem caughtUp_of_short {now limit : ℕ}
    (hcomplete : ∀ entry ∈ state.log.entries, scope entry.payload → start < entry.id →
      entry.id ≤ state.reader.cursor → entry ∈ state.reader.returned)
    (hshort : (readPage scope gate now state.reader.cursor limit state.log).length < limit) :
    ∀ entry ∈ visible scope gate now state.log, start < entry.id →
      entry ∈ (serve scope gate state (.read now limit)).reader.returned := by
  intro entry hentry hstart
  obtain ⟨hcommitted, -, hscope⟩ := mem_visible.mp hentry
  change entry ∈ state.reader.returned ++ readPage scope gate now _ limit _
  rcases Nat.lt_or_ge state.reader.cursor entry.id with hafter | hbefore
  · apply List.mem_append_right
    rw [readPage, Keyset.page_of_short hshort]
    exact Keyset.mem_beyond.mpr ⟨hentry, hafter⟩
  · exact List.mem_append_left _ (hcomplete entry hcommitted hscope hstart hbefore)

/-! ## Runs -/

/-- The reader before its first page. -/
def opened (start : ℕ) (log : CommitLog Payload Effect) : Tailed Payload Effect where
  log := log
  reader := ⟨start, []⟩

theorem ordered_opened (start : ℕ) (log : CommitLog Payload Effect) :
    Ordered scope start (opened start log) :=
  ⟨List.Pairwise.nil, by simp [opened], by simp [opened], le_refl _, Or.inl rfl⟩

theorem complete_opened (start : ℕ) (log : CommitLog Payload Effect) :
    Complete scope start survives (opened start log) := by
  intro entry _ _ hstart hle
  exact absurd hle (not_le_of_gt hstart)

/-- The entry is committed at the end. -/
def Survives (final : Tailed Payload Effect) (id : ℕ) : Prop := id ∈ final.log.entries.map Entry.id

instance (final : Tailed Payload Effect) : DecidablePred (Survives final) := fun id =>
  inferInstanceAs (Decidable (id ∈ final.log.entries.map Entry.id))

end Relational.Tail
