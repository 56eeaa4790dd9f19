import Mathlib.Data.List.Sort
import Mathlib.Data.List.Infix

/-!
# Keyset paging

Rows are read in pages: those with a key beyond the cursor, in key order, up to a
limit.  The last row of a page is the next cursor.  Rows with the same key may come
in any order, and in another order at the next page.  A scan of a fixed set of rows
never repeats a row, and it reads all of them if and only if no page ends between
two rows with the same key.
-/

namespace Relational.Keyset

section Cursor

variable {Row Key : Type*} (key : Row → Key)

/-- The cursor after a page: the key of its last row. -/
def nextAfter (after : Key) (rows : List Row) : Key := (rows.getLast?.map key).getD after

theorem nextAfter_nil (after : Key) : nextAfter key after [] = after := rfl

theorem nextAfter_mem {rows : List Row} (start : Key) (hne : rows ≠ []) :
    ∃ row ∈ rows, nextAfter key start rows = key row := by
  refine ⟨rows.getLast hne, List.getLast_mem hne, ?_⟩
  rw [nextAfter, List.getLast?_eq_some_getLast hne]
  rfl

end Cursor

variable {limit fuel number : ℕ}

section Page

variable {Row Key : Type*} [LinearOrder Key] (key : Row → Key)

/-- The rows beyond the cursor, in key order. -/
def beyond (rows : List Row) (after : Key) : List Row :=
  (rows.filter fun row => after < key row).insertionSort fun left right => key left ≤ key right

/-- `SELECT ... WHERE key > after ORDER BY key LIMIT limit`. -/
def page (rows : List Row) (after : Key) (limit : ℕ) : List Row :=
  (beyond key rows after).take limit

variable {key}

theorem beyond_perm (rows : List Row) (after : Key) :
    (beyond key rows after).Perm (rows.filter fun row => after < key row) :=
  List.perm_insertionSort _ _

theorem beyond_congr {rows arranged : List Row} (hperm : arranged.Perm rows)
    (after : Key) : (beyond key arranged after).Perm (beyond key rows after) :=
  ((beyond_perm arranged after).trans (hperm.filter _)).trans
    (beyond_perm rows after).symm

theorem mem_beyond {rows : List Row} {after : Key} {row : Row} :
    row ∈ beyond key rows after ↔ row ∈ rows ∧ after < key row := by
  rw [(beyond_perm rows after).mem_iff, List.mem_filter, decide_eq_true_eq]

variable (key) in
theorem beyond_sorted (rows : List Row) (after : Key) :
    (beyond key rows after).Pairwise fun left right => key left ≤ key right := by
  have htotal : Std.Total fun left right : Row => key left ≤ key right :=
    ⟨fun left right => le_total (key left) (key right)⟩
  have htrans : IsTrans Row fun left right => key left ≤ key right :=
    ⟨fun _ _ _ => le_trans⟩
  exact List.pairwise_insertionSort _ _

theorem page_subset {rows : List Row} {after : Key} {row : Row}
    (hrow : row ∈ page key rows after limit) : row ∈ rows ∧ after < key row :=
  mem_beyond.mp (List.mem_of_mem_take hrow)

theorem page_length_le (rows : List Row) (after : Key) (limit : ℕ) :
    (page key rows after limit).length ≤ limit := by
  rw [page, List.length_take]
  exact Nat.min_le_left _ _

variable (key) in
theorem page_sorted (rows : List Row) (after : Key) (limit : ℕ) :
    (page key rows after limit).Pairwise fun left right => key left ≤ key right :=
  (beyond_sorted key rows after).sublist (List.take_sublist _ _)

/-- A row the page leaves out comes after all rows of the page. -/
theorem page_before {rows : List Row} {after : Key} {row other : Row}
    (hrow : row ∈ rows) (hafter : after < key row)
    (hout : row ∉ page key rows after limit)
    (hother : other ∈ page key rows after limit) : key other ≤ key row := by
  have hmem : row ∈ (beyond key rows after).drop limit := by
    have hbeyond := mem_beyond.mpr ⟨hrow, hafter⟩
    rw [← List.take_append_drop limit (beyond key rows after)] at hbeyond
    exact (List.mem_append.mp hbeyond).resolve_left hout
  have hsorted := beyond_sorted key rows after
  rw [← List.take_append_drop limit (beyond key rows after), List.pairwise_append] at hsorted
  exact hsorted.2.2 other hother row hmem

/-- A page that is not full leaves no row out. -/
theorem page_of_short {rows : List Row} {after : Key}
    (hshort : (page key rows after limit).length < limit) :
    page key rows after limit = beyond key rows after := by
  rw [page, List.length_take] at hshort
  exact List.take_of_length_le (by omega)

/-- The next cursor is not before a row of the page. -/
theorem le_nextAfter {rows : List Row} {start : Key} {row : Row}
    (hsorted : rows.Pairwise fun left right => key left ≤ key right)
    (hrow : row ∈ rows) : key row ≤ nextAfter key start rows := by
  induction rows using List.reverseRecOn with
  | nil => cases hrow
  | append_singleton front last ih =>
      rw [nextAfter, List.getLast?_append]
      rcases List.mem_append.mp hrow with hfront | hlast
      · rw [List.pairwise_append] at hsorted
        exact hsorted.2.2 row hfront last List.mem_cons_self
      · rw [List.mem_singleton.mp hlast]
        rfl

/-- The cursor never moves back. -/
theorem le_nextAfter_page (rows : List Row) (after : Key) (limit : ℕ) :
    after ≤ nextAfter key after (page key rows after limit) := by
  by_cases hne : page key rows after limit = []
  · rw [hne, nextAfter_nil]
  · obtain ⟨row, hrow, hnext⟩ := nextAfter_mem key after hne
    rw [hnext]
    exact (page_subset hrow).2.le

end Page

/-! ## Cuts -/

section Cuts

variable {Key : Type*}

/-- No cut after every `limit` keys parts two equal ones. -/
def CutsCleanly (limit : ℕ) (keys : List Key) : Prop :=
  ∀ number < keys.length, (number + 1) * limit < keys.length →
    keys[(number + 1) * limit - 1]? ≠ keys[(number + 1) * limit]?

instance [DecidableEq Key] (limit : ℕ) (keys : List Key) : Decidable (CutsCleanly limit keys) := by
  unfold CutsCleanly
  infer_instance

theorem cutsCleanly_of_short {keys : List Key} (hshort : keys.length ≤ limit) :
    CutsCleanly limit keys := by
  intro number _ hcut
  have hle : limit ≤ (number + 1) * limit := Nat.le_mul_of_pos_left _ (by omega)
  omega

/-- The first cut, and those of the rest. -/
theorem cutsCleanly_drop (hlimit : 0 < limit) {keys : List Key} (hlong : limit < keys.length) :
    CutsCleanly limit keys ↔
      keys[limit - 1]? ≠ keys[limit]? ∧ CutsCleanly limit (keys.drop limit) := by
  have hshift : ∀ number, (number + 1 + 1) * limit = limit + (number + 1) * limit := by
    intro number
    rw [Nat.succ_mul, Nat.add_comm]
  constructor
  · intro hclean
    refine ⟨by simpa using hclean 0 (by omega) (by simpa using hlong), ?_⟩
    intro number hnumber hcut
    rw [List.length_drop] at hnumber hcut
    have hpos : 0 < (number + 1) * limit := Nat.mul_pos (by omega) hlimit
    have hlater := hclean (number + 1) (by omega) (by rw [hshift]; omega)
    rw [hshift] at hlater
    rw [List.getElem?_drop, List.getElem?_drop]
    have hindex : limit + ((number + 1) * limit - 1) =
        limit + (number + 1) * limit - 1 := by omega
    rw [hindex]
    exact hlater
  · rintro ⟨hfirst, hrest⟩ number hnumber hcut
    cases number with
    | zero => simpa using hfirst
    | succ number =>
        have hpos : 0 < (number + 1) * limit := Nat.mul_pos (by omega) hlimit
        have hle : number + 1 ≤ (number + 1) * limit := Nat.le_mul_of_pos_right _ hlimit
        rw [hshift] at hcut ⊢
        have hlater := hrest number (by rw [List.length_drop]; omega)
          (by rw [List.length_drop]; omega)
        rw [List.getElem?_drop, List.getElem?_drop] at hlater
        have hindex : limit + ((number + 1) * limit - 1) =
            limit + (number + 1) * limit - 1 := by omega
        rw [hindex] at hlater
        exact hlater

end Cuts

/-! ## Scans of a fixed set of rows -/

section Scan

variable {Row Key : Type*} [LinearOrder Key] (key : Row → Key)

/-- Page after page until one is not full.  The rows are arranged anew for each
page; without fuel the scan is cut off. -/
def scan (arranged : ℕ → List Row) (limit : ℕ) :
    ℕ → ℕ → Key → Option (List (List Row))
  | 0, _, _ => none
  | fuel + 1, number, after =>
      let rows := page key (arranged number) after limit
      if rows.length < limit then some [rows]
      else
        (scan arranged limit fuel (number + 1) (nextAfter key after rows)).map (rows :: ·)

/-- The keys beyond a cursor, in order. -/
def keysBeyond (rows : List Row) (after : Key) : List Key :=
  ((rows.map key).filter fun k => after < k).insertionSort (· ≤ ·)

variable {key}

/-- The rows beyond a cursor, in whichever order of their keys, have its keys. -/
theorem keysBeyond_of_perm {rows sorted : List Row} {after : Key}
    (hperm : sorted.Perm (beyond key rows after))
    (hsorted : sorted.Pairwise fun left right => key left ≤ key right) :
    keysBeyond key rows after = sorted.map key := by
  have hkeys : (keysBeyond key rows after).Perm (sorted.map key) := by
    calc
      (keysBeyond key rows after).Perm ((rows.map key).filter fun k => after < k) :=
        List.perm_insertionSort _ _
      _ = (rows.filter fun row => after < key row).map key := by
        rw [List.filter_map]
        rfl
      List.Perm _ ((beyond key rows after).map key) := (beyond_perm rows after).symm.map key
      List.Perm _ (sorted.map key) := hperm.symm.map key
  exact hkeys.eq_of_sortedLE List.sortedLE_insertionSort (List.pairwise_map.mpr hsorted).sortedLE

/-- The order of the keys does not depend on how the rows are arranged. -/
theorem map_beyond {rows arranged : List Row} (hperm : arranged.Perm rows)
    (after : Key) : (beyond key arranged after).map key = keysBeyond key rows after :=
  (keysBeyond_of_perm (beyond_congr hperm after) (beyond_sorted key arranged after)).symm

/-- Rows beyond a later cursor are the ones left over beyond an earlier one. -/
theorem beyond_nextAfter {rows : List Row} {after : Key} :
    (beyond key rows (nextAfter key after (page key rows after limit))).Perm
      (((beyond key rows after).drop limit).filter fun row =>
        nextAfter key after (page key rows after limit) < key row) := by
  let cursor := nextAfter key after (page key rows after limit)
  have hnone : (page key rows after limit).filter (fun row => cursor < key row) = [] := by
    rw [List.filter_eq_nil_iff]
    intro row hrow hbeyond
    exact absurd (of_decide_eq_true hbeyond)
      (not_lt_of_ge (le_nextAfter (page_sorted key rows after limit) hrow))
  have hlater : ∀ row : Row, cursor < key row → after < key row :=
    fun row hbeyond => lt_of_le_of_lt (le_nextAfter_page rows after limit) hbeyond
  calc
    (beyond key rows cursor).Perm (rows.filter fun row => cursor < key row) :=
      beyond_perm rows cursor
    _ = (rows.filter fun row => after < key row).filter fun row => cursor < key row := by
      rw [List.filter_filter]
      apply List.filter_congr
      intro row _
      by_cases hbeyond : cursor < key row
      · simp [hbeyond, hlater row hbeyond]
      · simp [hbeyond]
    List.Perm _ ((beyond key rows after).filter fun row => cursor < key row) :=
      ((beyond_perm rows after).filter _).symm
    _ = ((page key rows after limit) ++ (beyond key rows after).drop limit).filter
        fun row => cursor < key row := by
      rw [page, List.take_append_drop]
    _ = ((beyond key rows after).drop limit).filter fun row => cursor < key row := by
      rw [List.filter_append, hnone, List.nil_append]

variable {rows : List Row} {arranged : ℕ → List Row} {limit : ℕ}

/-- A scan with more fuel than rows is not cut off. -/
theorem scan_isSome (harranged : ∀ number, (arranged number).Perm rows)
    (hlimit : 0 < limit) {after : Key} (hfuel : (beyond key rows after).length < fuel) :
    (scan key arranged limit fuel number after).isSome := by
  induction fuel generalizing number after with
  | zero => omega
  | succ fuel ih =>
      rw [scan]
      by_cases hshort : (page key (arranged number) after limit).length < limit
      · rw [if_pos hshort]
        rfl
      · rw [if_neg hshort, Option.isSome_map]
        apply ih
        have hpage := hshort
        rw [page, List.length_take, (beyond_congr (harranged number) after).length_eq] at hpage
        rw [← (beyond_congr (harranged number) _).length_eq, beyond_nextAfter.length_eq]
        have hfilter := List.length_filter_le
          (fun row => nextAfter key after (page key (arranged number) after limit) <
            key row) ((beyond key (arranged number) after).drop limit)
        rw [List.length_drop, (beyond_congr (harranged number) after).length_eq] at hfilter
        omega

/-- Every row a scan reads is one beyond its cursor. -/
theorem mem_scan (harranged : ∀ number, (arranged number).Perm rows) {after : Key}
    {pages : List (List Row)}
    (hscan : scan key arranged limit fuel number after = some pages) {row : Row}
    (hrow : row ∈ pages.flatten) : row ∈ rows ∧ after < key row := by
  have hpage : ∀ row, row ∈ page key (arranged number) after limit →
      row ∈ rows ∧ after < key row := by
    intro row hmem
    exact ⟨(harranged number).mem_iff.mp (page_subset hmem).1, (page_subset hmem).2⟩
  induction fuel generalizing number after pages with
  | zero => cases hscan
  | succ fuel ih =>
      rw [scan] at hscan
      by_cases hshort : (page key (arranged number) after limit).length < limit
      · rw [if_pos hshort] at hscan
        rw [← Option.some.inj hscan, List.flatten_singleton] at hrow
        exact hpage row hrow
      · rw [if_neg hshort] at hscan
        obtain ⟨later, hlater, rfl⟩ := Option.map_eq_some_iff.mp hscan
        rw [List.flatten_cons] at hrow
        rcases List.mem_append.mp hrow with hfirst | hrest
        · exact hpage row hfirst
        · have hbeyond := ih hlater hrest fun row hmem =>
            ⟨(harranged (number + 1)).mem_iff.mp (page_subset hmem).1, (page_subset hmem).2⟩
          exact ⟨hbeyond.1,
            lt_of_le_of_lt (le_nextAfter_page (arranged number) after limit) hbeyond.2⟩

/-- The cursor after a full page is the key of its last row. -/
theorem nextAfter_page {after : Key} (hlimit : 0 < limit)
    (hlong : limit ≤ (beyond key rows after).length) :
    some (nextAfter key after (page key rows after limit)) =
      ((beyond key rows after).map key)[limit - 1]? := by
  have hlength : ((beyond key rows after).take limit).length = limit := by
    rw [List.length_take]
    exact Nat.min_eq_left hlong
  have hlast : ((beyond key rows after).take limit).getLast? =
      (beyond key rows after)[limit - 1]? := by
    rw [List.getLast?_eq_getElem?, hlength, List.getElem?_take_of_lt (by omega)]
  have hindex : limit - 1 < (beyond key rows after).length := by omega
  rw [nextAfter, page, hlast, List.getElem?_map, List.getElem?_eq_getElem hindex]
  rfl

/-- After a full page, the rows beyond the next cursor are all that the page left
out if and only if the page does not end between two equal keys. -/
theorem filter_drop_eq_iff {after : Key} (hlimit : 0 < limit)
    (hlong : limit < (beyond key rows after).length) :
    ((beyond key rows after).drop limit).filter (fun row =>
        nextAfter key after (page key rows after limit) < key row) =
      (beyond key rows after).drop limit ↔
      (keysBeyond key rows after)[limit - 1]? ≠ (keysBeyond key rows after)[limit]? := by
  have hsorted := beyond_sorted key rows after
  rw [← map_beyond (List.Perm.refl rows), ← nextAfter_page hlimit hlong.le,
    List.getElem?_map, List.getElem?_eq_getElem hlong, Option.map_some,
    ne_eq, Option.some.injEq, List.filter_eq_self]
  have hdrop : (beyond key rows after).drop limit =
      (beyond key rows after)[limit] :: (beyond key rows after).drop (limit + 1) :=
    List.drop_eq_getElem_cons hlong
  have hcursor : nextAfter key after (page key rows after limit) ≤
      key (beyond key rows after)[limit] := by
    have hne : page key rows after limit ≠ [] := by
      rw [page, ne_eq, List.take_eq_nil_iff, not_or]
      exact ⟨by omega, List.ne_nil_of_length_pos (by omega)⟩
    obtain ⟨row, hrow, hnext⟩ := nextAfter_mem key after hne
    rw [hnext]
    rw [← List.take_append_drop limit (beyond key rows after), List.pairwise_append] at hsorted
    exact hsorted.2.2 row hrow _ (hdrop ▸ List.mem_cons_self)
  constructor
  · intro hall heq
    have hfirst := of_decide_eq_true (hall _ (hdrop ▸ List.mem_cons_self))
    exact hfirst.ne heq
  · intro hne row hrow
    have hrest : ((beyond key rows after).drop limit).Pairwise fun left right =>
        key left ≤ key right := hsorted.sublist (List.drop_sublist _ _)
    rw [hdrop] at hrow hrest
    have hfirst := lt_of_le_of_ne hcursor hne
    rcases List.mem_cons.mp hrow with rfl | hlater
    · exact decide_eq_true hfirst
    · exact decide_eq_true (lt_of_lt_of_le hfirst (List.rel_of_pairwise_cons hrest hlater))

/-- A scan reads every row beyond its cursor, and none twice, if and only if no page
ends between two equal keys. -/
theorem scan_perm_iff (harranged : ∀ number, (arranged number).Perm rows)
    (hlimit : 0 < limit) {after : Key} {pages : List (List Row)}
    (hscan : scan key arranged limit fuel number after = some pages) :
    pages.flatten.Perm (beyond key rows after) ↔
      CutsCleanly limit (keysBeyond key rows after) := by
  induction fuel generalizing number after pages with
  | zero => cases hscan
  | succ fuel ih =>
      let sorted := beyond key (arranged number) after
      have hsorted : sorted.Perm (beyond key rows after) := beyond_congr (harranged number) after
      have hkeys : sorted.map key = keysBeyond key rows after := map_beyond (harranged number) after
      have hlength : (keysBeyond key rows after).length = sorted.length := by
        rw [← hkeys, List.length_map]
      rw [scan] at hscan
      by_cases hshort : (page key (arranged number) after limit).length < limit
      · rw [if_pos hshort] at hscan
        rw [← Option.some.inj hscan, List.flatten_singleton, page_of_short hshort]
        have hfew : sorted.length < limit := by
          rw [page_of_short hshort] at hshort
          exact hshort
        exact ⟨fun _ => cutsCleanly_of_short (by omega), fun _ => hsorted⟩
      · rw [if_neg hshort] at hscan
        obtain ⟨later, hlater, rfl⟩ := Option.map_eq_some_iff.mp hscan
        have hfull : limit ≤ sorted.length := by
          have hpage : ¬ min limit sorted.length < limit := by
            rw [page, List.length_take] at hshort
            exact hshort
          omega
        have hrest := ih hlater
        let cursor := nextAfter key after (page key (arranged number) after limit)
        have hsplit : (page key (arranged number) after limit :: later).flatten.Perm
            (beyond key rows after) ↔ later.flatten.Perm (sorted.drop limit) := by
          rw [List.flatten_cons]
          have hparts : (beyond key rows after).Perm
              (page key (arranged number) after limit ++ sorted.drop limit) := by
            rw [page, List.take_append_drop]
            exact hsorted.symm
          constructor
          · intro hperm
            exact (List.perm_append_left_iff _).mp (hperm.trans hparts)
          · intro hperm
            exact ((List.perm_append_left_iff _).mpr hperm).trans hparts.symm
        have hbeyond : (beyond key rows cursor).Perm
            ((sorted.drop limit).filter fun row => cursor < key row) :=
          (beyond_congr (harranged number) cursor).symm.trans beyond_nextAfter
        rw [hsplit]
        by_cases hexact : sorted.length = limit
        · -- The page took the last rows: nothing is beyond the cursor.
          have hnil : sorted.drop limit = [] := List.drop_eq_nil_of_le hexact.le
          have hnone : ∀ row, row ∉ later.flatten := by
            intro row hrow
            have hmem := mem_scan harranged hlater hrow
            have hleft := hbeyond.mem_iff.mp (mem_beyond.mpr hmem)
            rw [hnil] at hleft
            cases hleft
          rw [hnil, List.eq_nil_iff_forall_not_mem.mpr hnone]
          exact ⟨fun _ => cutsCleanly_of_short (by omega), fun _ => List.Perm.nil⟩
        · have hlong : limit < sorted.length := by omega
          have hcut := @filter_drop_eq_iff _ _ _ key (arranged number) limit after hlimit hlong
          rw [← map_beyond (List.Perm.refl (arranged number)), hkeys] at hcut
          rw [cutsCleanly_drop hlimit (by omega), ← hcut]
          have hleft : (sorted.drop limit).filter (fun row => cursor < key row) =
              sorted.drop limit →
              (later.flatten.Perm (sorted.drop limit) ↔
                CutsCleanly limit ((keysBeyond key rows after).drop limit)) := by
            intro hall
            rw [hall] at hbeyond
            have hkeysLeft : keysBeyond key rows cursor =
                (keysBeyond key rows after).drop limit := by
              rw [← hkeys, ← List.map_drop]
              exact keysBeyond_of_perm hbeyond.symm
                ((beyond_sorted key (arranged number) after).sublist (List.drop_sublist _ _))
            rw [← hkeysLeft, ← hrest]
            exact ⟨fun hperm => hperm.trans hbeyond.symm,
              fun hperm => hperm.trans hbeyond⟩
          constructor
          · intro hperm
            have hall : (sorted.drop limit).filter (fun row => cursor < key row) =
                sorted.drop limit := by
              rw [List.filter_eq_self]
              intro row hrow
              exact decide_eq_true (mem_scan harranged hlater (hperm.mem_iff.mpr hrow)).2
            exact ⟨hall, (hleft hall).mp hperm⟩
          · rintro ⟨hall, hclean⟩
            exact (hleft hall).mpr hclean

end Scan

end Relational.Keyset
