import Mathlib.Data.List.Range
import Mathlib.Logic.Relation
import Mathlib.Order.MinMax
import Mathlib.Order.Nat

/-!
# Queues whose head is retried

Items are worked on one after another, each in a bounded number of attempts that are
logged as rows.  The head item blocks the others until it succeeds or is buried, and
then a cursor moves to it.  Attempts are numbered from 1, all but the last of an item
have failed, and the cursor is the greatest item that is settled.
-/

namespace Relational.Retry

inductive Status
  | pending
  | inFlight
  | succeeded
  | failed
  | buried
  deriving DecidableEq, Repr

namespace Status

/-- The attempt is still to be decided. -/
def isOpen (status : Status) : Bool := status = .pending ∨ status = .inFlight

/-- The attempt ends the work on its item. -/
def isSettled (status : Status) : Bool := status = .succeeded ∨ status = .buried

end Status

structure Attempt where
  key : ℕ
  item : ℕ
  number : ℕ
  status : Status
  deriving DecidableEq, Repr

/-- The decided attempts, and the one at the head. -/
structure Lane where
  cursor : ℕ
  closed : List Attempt
  current : Option Attempt
  deriving DecidableEq, Repr

namespace Lane

def rows (lane : Lane) : List Attempt := lane.closed ++ lane.current.toList

/-- The item at the head, or the cursor. -/
def reach (lane : Lane) : ℕ := (lane.current.map Attempt.item).getD lane.cursor

/-- The attempts of an item. -/
def of (lane : Lane) (item : ℕ) : List Attempt :=
  lane.rows.filter fun attempt => attempt.item = item

/-- The item is settled. -/
def Settled (lane : Lane) (item : ℕ) : Prop :=
  ∃ attempt ∈ lane.rows, attempt.item = item ∧ attempt.status.isSettled

end Lane

/-- What may happen at the head. -/
inductive Step (limit : ℕ) (lane : Lane) : Lane → Prop
  | take (key item : ℕ) (hidle : lane.current = none) (hahead : lane.cursor < item) :
      Step limit lane { lane with current := some ⟨key, item, 1, .pending⟩ }
  | mark (attempt : Attempt) (status : Status) (hcurrent : lane.current = some attempt)
      (hopen : status.isOpen) :
      Step limit lane { lane with current := some { attempt with status := status } }
  | settle (attempt : Attempt) (status : Status)
      (hcurrent : lane.current = some attempt) (hsettled : status.isSettled) :
      Step limit lane
        { cursor := attempt.item
          closed := lane.closed ++ [{ attempt with status := status }]
          current := none }
  | retry (attempt : Attempt) (key : ℕ) (hcurrent : lane.current = some attempt)
      (hnumber : attempt.number < limit) :
      Step limit lane
        { lane with
          closed := lane.closed ++ [{ attempt with status := .failed }]
          current := some ⟨key, attempt.item, attempt.number + 1, .pending⟩ }

/-- Any number of steps. -/
abbrev Steps (limit : ℕ) : Lane → Lane → Prop := Relation.ReflTransGen (Step limit)

/-- The attempts of an item: numbered from 1, within the limit, all but the last
failed, the last not. -/
def Chain (limit : ℕ) (attempts : List Attempt) : Prop :=
  attempts.length ≤ limit ∧ attempts.map Attempt.number = List.range' 1 attempts.length ∧
    (∀ attempt ∈ attempts.dropLast, attempt.status = .failed) ∧
    ∀ attempt ∈ attempts.getLast?, attempt.status ≠ .failed

theorem chain_append {limit : ℕ} {front : List Attempt} {last : Attempt} :
    Chain limit (front ++ [last]) ↔
      front.length < limit ∧ front.map Attempt.number = List.range' 1 front.length ∧
        last.number = front.length + 1 ∧
        (∀ attempt ∈ front, attempt.status = .failed) ∧ last.status ≠ .failed := by
  rw [Chain, List.dropLast_concat, List.getLast?_concat, List.length_append,
    List.length_singleton, List.map_append, List.map_singleton, List.range'_concat]
  have hsplit : front.map Attempt.number ++ [last.number] =
      List.range' 1 front.length ++ [1 + 1 * front.length] ↔
      front.map Attempt.number = List.range' 1 front.length ∧
        last.number = 1 + 1 * front.length := by
    constructor
    · intro heq
      have hparts := List.append_inj heq (by simp)
      exact ⟨hparts.1, (List.cons.inj hparts.2).1⟩
    · rintro ⟨hfront, hlast⟩
      rw [hfront, hlast]
  rw [hsplit]
  constructor
  · rintro ⟨hlength, ⟨hfront, hlast⟩, hfailed, hopen⟩
    exact ⟨hlength, hfront, by omega, hfailed, hopen last rfl⟩
  · rintro ⟨hlength, hfront, hlast, hfailed, hopen⟩
    refine ⟨hlength, ⟨hfront, by omega⟩, hfailed, fun attempt hattempt => ?_⟩
    rw [← Option.some.inj hattempt]
    exact hopen

/-- The greatest settled item, or the start. -/
def lastSettled (start : ℕ) (attempts : List Attempt) : ℕ :=
  ((attempts.filter fun attempt => attempt.status.isSettled).map Attempt.item).foldl max start

structure Valid (start limit : ℕ) (lane : Lane) : Prop where
  closed : ∀ attempt ∈ lane.closed, attempt.status.isOpen = false
  current : ∀ attempt ∈ lane.current, attempt.status.isOpen = true
  chain : ∀ item, Chain limit (lane.of item)
  cursor : lane.cursor = lastSettled start lane.rows
  ahead : ∀ attempt ∈ lane.current, lane.cursor < attempt.item
  behind : ∀ attempt ∈ lane.rows,
    attempt.item ≤ lane.cursor ∨ ∃ head ∈ lane.current, head.item = attempt.item

variable {start limit : ℕ} {lane : Lane}

/-- The lane before its first item. -/
def idle (start : ℕ) : Lane := ⟨start, [], none⟩

theorem valid_idle (start limit : ℕ) : Valid start limit (idle start) :=
  ⟨by simp [idle], by simp [idle], fun item => by simp [Chain, Lane.of, Lane.rows, idle],
    rfl, by simp [idle], by simp [Lane.rows, idle]⟩

variable {attempt : Attempt} {status : Status} {next : Lane}

theorem of_current (hcurrent : lane.current = some attempt) (item : ℕ) :
    lane.of item = lane.closed.filter (fun other => other.item = item) ++
      if attempt.item = item then [attempt] else [] := by
  rw [Lane.of, Lane.rows, hcurrent, Option.toList_some, List.filter_append, List.filter_singleton]
  by_cases hitem : attempt.item = item <;> simp [hitem]

theorem of_idle (hidle : lane.current = none) (item : ℕ) :
    lane.of item = lane.closed.filter (fun other => other.item = item) := by
  rw [Lane.of, Lane.rows, hidle, Option.toList_none, List.append_nil]

/-- Only the head is open. -/
theorem Valid.current_of_open (hvalid : Valid start limit lane)
    (hattempt : attempt ∈ lane.rows) (hopen : attempt.status.isOpen) :
    lane.current = some attempt := by
  rcases List.mem_append.mp hattempt with hclosed | hhead
  · rw [hvalid.closed attempt hclosed] at hopen
    cases hopen
  · exact Option.mem_toList.mp hhead

/-- The chain of the head, with what comes before it. -/
theorem Valid.chain_current (hvalid : Valid start limit lane)
    (hcurrent : lane.current = some attempt) :
    Chain limit (lane.closed.filter (fun other => other.item = attempt.item) ++
      [attempt]) := by
  have hchain := hvalid.chain attempt.item
  rw [of_current hcurrent, if_pos rfl] at hchain
  exact hchain

theorem Valid.number_pos (hvalid : Valid start limit lane)
    (hcurrent : lane.current = some attempt) : 0 < attempt.number := by
  obtain ⟨-, -, hnumber, -, -⟩ := chain_append.mp (hvalid.chain_current hcurrent)
  omega

/-- Chains of other items do not change at the head. -/
theorem Valid.chain_other (hvalid : Valid start limit lane)
    (hcurrent : lane.current = some attempt) {item : ℕ} (hother : attempt.item ≠ item) :
    Chain limit (lane.closed.filter fun other => other.item = item) := by
  have hchain := hvalid.chain item
  rw [of_current hcurrent, if_neg hother, List.append_nil] at hchain
  exact hchain

/-- Rewriting the row with the key of the head rewrites the head. -/
theorem map_current (hkeys : (lane.rows.map Attempt.key).Nodup)
    (hcurrent : lane.current = some attempt) (set : Attempt → Attempt) :
    lane.rows.map (fun other => if other.key = attempt.key then set other else other) =
      lane.closed ++ [set attempt] := by
  rw [Lane.rows, hcurrent, Option.toList_some] at hkeys ⊢
  rw [List.map_append, List.map_singleton] at hkeys ⊢
  have hother : ∀ other ∈ lane.closed, other.key ≠ attempt.key := by
    intro other hother hkey
    exact (List.nodup_append.mp hkeys).2.2 other.key (List.mem_map_of_mem hother)
      attempt.key List.mem_cons_self hkey
  have hfront : lane.closed.map
      (fun other => if other.key = attempt.key then set other else other) =
        lane.closed := by
    calc lane.closed.map
          (fun other => if other.key = attempt.key then set other else other)
        = lane.closed.map id :=
          List.map_congr_left fun other hmem => if_neg (hother other hmem)
      _ = lane.closed := List.map_id _
  rw [hfront, if_pos rfl]

theorem lastSettled_append (start : ℕ) (attempts : List Attempt) (last : Attempt) :
    lastSettled start (attempts ++ [last]) =
      if last.status.isSettled then max (lastSettled start attempts) last.item
      else lastSettled start attempts := by
  rw [lastSettled, List.filter_append, List.filter_singleton]
  by_cases hsettled : last.status.isSettled <;> simp [hsettled, lastSettled]

theorem isSettled_of_open (hopen : status.isOpen = true) : status.isSettled = false := by
  cases status <;> simp_all [Status.isOpen, Status.isSettled]

/-- The cursor counts the decided attempts only. -/
theorem Valid.cursor_closed (hvalid : Valid start limit lane) :
    lane.cursor = lastSettled start lane.closed := by
  rw [hvalid.cursor, Lane.rows]
  cases hcurrent : lane.current with
  | none => rw [Option.toList_none, List.append_nil]
  | some attempt =>
      have hopen := isSettled_of_open (hvalid.current attempt hcurrent)
      rw [Option.toList_some, lastSettled_append, hopen, if_neg Bool.false_ne_true]

/-- What the cursor has not reached is at the head. -/
theorem Valid.behind_closed (hvalid : Valid start limit lane) {other : Attempt}
    (hcurrent : lane.current = some attempt) (hother : other ∈ lane.closed) :
    other.item ≤ lane.cursor ∨ attempt.item = other.item := by
  rcases hvalid.behind other (List.mem_append_left _ hother) with
    hbehind | ⟨head, hhead, hitem⟩
  · exact Or.inl hbehind
  · rw [hcurrent] at hhead
    cases hhead
    exact Or.inr hitem

theorem Valid.behind_idle (hvalid : Valid start limit lane) {other : Attempt}
    (hidle : lane.current = none) (hother : other ∈ lane.closed) :
    other.item ≤ lane.cursor := by
  rcases hvalid.behind other (List.mem_append_left _ hother) with
    hbehind | ⟨head, hhead, -⟩
  · exact hbehind
  · rw [hidle] at hhead
    cases hhead

theorem Valid.take (hvalid : Valid start limit lane) (hlimit : 0 < limit)
    (key : ℕ) {item : ℕ} (hidle : lane.current = none) (hahead : lane.cursor < item) :
    Valid start limit { lane with current := some ⟨key, item, 1, .pending⟩ } := by
  have hnone : lane.closed.filter (fun other => other.item = item) = [] := by
    rw [List.filter_eq_nil_iff]
    intro attempt hattempt hitem
    have hbehind := hvalid.behind_idle hidle hattempt
    have hsame := of_decide_eq_true hitem
    omega
  constructor
  · exact hvalid.closed
  · intro attempt hattempt
    cases hattempt
    rfl
  · intro other
    rw [of_current rfl]
    by_cases hitem : item = other
    · subst hitem
      rw [if_pos rfl, hnone]
      exact chain_append.mpr ⟨hlimit, rfl, rfl, by simp, by simp⟩
    · have hchain := hvalid.chain other
      rw [of_idle hidle] at hchain
      rw [if_neg hitem, List.append_nil]
      exact hchain
  · calc lane.cursor = lastSettled start lane.closed := hvalid.cursor_closed
      _ = lastSettled start (lane.closed ++ [⟨key, item, 1, .pending⟩]) := by
        rw [lastSettled_append]
        rfl
  · intro attempt hattempt
    cases hattempt
    exact hahead
  · intro attempt hattempt
    rcases List.mem_append.mp hattempt with hclosed | hhead
    · exact Or.inl (hvalid.behind_idle hidle hclosed)
    · exact Or.inr ⟨attempt, Option.mem_toList.mp hhead, rfl⟩

theorem Valid.mark (hvalid : Valid start limit lane)
    (hcurrent : lane.current = some attempt) (hopen : status.isOpen) :
    Valid start limit { lane with current := some { attempt with status := status } } := by
  constructor
  · exact hvalid.closed
  · intro head hhead
    cases hhead
    exact hopen
  · intro item
    rw [of_current rfl]
    by_cases hitem : attempt.item = item
    · subst hitem
      rw [if_pos rfl]
      obtain ⟨hlength, hnumbers, hnumber, hfailed, -⟩ :=
        chain_append.mp (hvalid.chain_current hcurrent)
      refine chain_append.mpr ⟨hlength, hnumbers, hnumber, hfailed, ?_⟩
      intro heq
      rw [show status = .failed from heq] at hopen
      cases hopen
    · rw [if_neg hitem, List.append_nil]
      exact hvalid.chain_other hcurrent hitem
  · calc lane.cursor = lastSettled start lane.closed := hvalid.cursor_closed
      _ = lastSettled start (lane.closed ++ [{ attempt with status := status }]) := by
        rw [lastSettled_append, isSettled_of_open hopen, if_neg Bool.false_ne_true]
  · intro head hhead
    cases hhead
    exact hvalid.ahead attempt hcurrent
  · intro other hother
    rcases List.mem_append.mp hother with hclosed | hhead
    · rcases hvalid.behind_closed hcurrent hclosed with hbehind | hitem
      · exact Or.inl hbehind
      · exact Or.inr ⟨_, rfl, hitem⟩
    · exact Or.inr ⟨other, Option.mem_toList.mp hhead, rfl⟩

theorem Valid.settle (hvalid : Valid start limit lane)
    (hcurrent : lane.current = some attempt) (hsettled : status.isSettled) :
    Valid start limit
      { cursor := attempt.item
        closed := lane.closed ++ [{ attempt with status := status }]
        current := none } := by
  have hahead := hvalid.ahead attempt hcurrent
  constructor
  · intro other hother
    rcases List.mem_append.mp hother with hclosed | hlast
    · exact hvalid.closed other hclosed
    · rw [List.mem_singleton.mp hlast]
      cases status <;> simp_all [Status.isOpen, Status.isSettled]
  · intro head hhead
    cases hhead
  · intro item
    rw [of_idle rfl, List.filter_append, List.filter_singleton]
    by_cases hitem : attempt.item = item
    · subst hitem
      rw [decide_eq_true rfl]
      obtain ⟨hlength, hnumbers, hnumber, hfailed, -⟩ :=
        chain_append.mp (hvalid.chain_current hcurrent)
      refine chain_append.mpr ⟨hlength, hnumbers, hnumber, hfailed, ?_⟩
      intro heq
      rw [show status = .failed from heq] at hsettled
      cases hsettled
    · rw [decide_eq_false hitem]
      simpa using hvalid.chain_other hcurrent hitem
  · calc attempt.item = max lane.cursor attempt.item := (max_eq_right hahead.le).symm
      _ = max (lastSettled start lane.closed) attempt.item := by
        rw [hvalid.cursor_closed]
      _ = lastSettled start (lane.closed ++ [{ attempt with status := status }]) := by
        rw [lastSettled_append, if_pos hsettled]
      _ = lastSettled start (lane.closed ++ [{ attempt with status := status }] ++ []) :=
        by rw [List.append_nil]
  · intro head hhead
    cases hhead
  · intro other hother
    rcases List.mem_append.mp hother with hclosed | hhead
    · apply Or.inl
      rcases List.mem_append.mp hclosed with hfront | hlast
      · rcases hvalid.behind_closed hcurrent hfront with hbehind | hitem
        · exact le_of_lt (lt_of_le_of_lt hbehind hahead)
        · exact hitem.ge
      · rw [List.mem_singleton.mp hlast]
    · cases hhead

theorem Valid.retry (hvalid : Valid start limit lane) (key : ℕ)
    (hcurrent : lane.current = some attempt) (hnumber : attempt.number < limit) :
    Valid start limit
      { lane with
        closed := lane.closed ++ [{ attempt with status := .failed }]
        current := some ⟨key, attempt.item, attempt.number + 1, .pending⟩ } := by
  constructor
  · intro other hother
    rcases List.mem_append.mp hother with hclosed | hlast
    · exact hvalid.closed other hclosed
    · rw [List.mem_singleton.mp hlast]
      rfl
  · intro head hhead
    cases hhead
    rfl
  · intro item
    rw [of_current rfl, List.filter_append, List.filter_singleton]
    by_cases hitem : attempt.item = item
    · subst hitem
      rw [if_pos rfl, decide_eq_true rfl]
      obtain ⟨hlength, hnumbers, hlast, hfailed, -⟩ :=
        chain_append.mp (hvalid.chain_current hcurrent)
      apply chain_append.mpr
      refine ⟨?_, ?_, ?_, ?_, by simp⟩
      · rw [Bool.cond_true, List.length_append, List.length_singleton]
        omega
      · rw [Bool.cond_true, List.map_append, List.length_append, hnumbers,
          List.length_singleton, List.range'_concat]
        simp [hlast, Nat.add_comm]
      · simp [hlast]
      · intro other hother
        rcases List.mem_append.mp hother with hfront | htail
        · exact hfailed other hfront
        · rw [List.mem_singleton.mp htail]
    · rw [if_neg hitem, decide_eq_false hitem]
      simpa using hvalid.chain_other hcurrent hitem
  · calc lane.cursor = lastSettled start lane.closed := hvalid.cursor_closed
      _ = lastSettled start (lane.closed ++ [{ attempt with status := .failed }]) := by
        rw [lastSettled_append]
        rfl
      _ = lastSettled start (lane.closed ++ [{ attempt with status := .failed }] ++
          [⟨key, attempt.item, attempt.number + 1, .pending⟩]) := by
        rw [lastSettled_append start (lane.closed ++ [_])]
        rfl
  · intro head hhead
    cases hhead
    exact hvalid.ahead attempt hcurrent
  · intro other hother
    rcases List.mem_append.mp hother with hclosed | hhead
    · rcases List.mem_append.mp hclosed with hfront | hlast
      · rcases hvalid.behind_closed hcurrent hfront with hbehind | hitem
        · exact Or.inl hbehind
        · exact Or.inr ⟨_, rfl, hitem⟩
      · rw [List.mem_singleton.mp hlast]
        exact Or.inr ⟨_, rfl, rfl⟩
    · exact Or.inr ⟨other, Option.mem_toList.mp hhead, rfl⟩

/-- Each step at the head keeps the ledger in order. -/
theorem Valid.step (hvalid : Valid start limit lane) (hlimit : 0 < limit)
    (hstep : Step limit lane next) : Valid start limit next := by
  cases hstep with
  | take key item hidle hahead => exact hvalid.take hlimit key hidle hahead
  | mark attempt status hcurrent hopen => exact hvalid.mark hcurrent hopen
  | settle attempt status hcurrent hsettled => exact hvalid.settle hcurrent hsettled
  | retry attempt key hcurrent hnumber => exact hvalid.retry key hcurrent hnumber

theorem Valid.steps (hvalid : Valid start limit lane) (hlimit : 0 < limit)
    (hsteps : Steps limit lane next) : Valid start limit next := by
  induction hsteps with
  | refl => exact hvalid
  | tail hsteps hstep ih => exact ih.step hlimit hstep

/-- Items that were worked on stay in the rows. -/
theorem items_subset (hsteps : Steps limit lane next) :
    lane.rows.map Attempt.item ⊆ next.rows.map Attempt.item := by
  induction hsteps with
  | refl => exact fun _ hitem => hitem
  | tail hsteps hstep ih =>
      apply List.Subset.trans ih
      cases hstep with
      | take key item hidle hahead => simp [Lane.rows, hidle]
      | mark attempt status hcurrent hopen => simp [Lane.rows, hcurrent]
      | settle attempt status hcurrent hsettled => simp [Lane.rows, hcurrent]
      | retry attempt key hcurrent hnumber => simp [Lane.rows, hcurrent]

/-- The cursor only moves forward. -/
theorem Valid.cursor_le (hvalid : Valid start limit lane)
    (hstep : Step limit lane next) : lane.cursor ≤ next.cursor := by
  cases hstep with
  | take | mark => exact le_refl _
  | settle attempt status hcurrent hsettled => exact (hvalid.ahead attempt hcurrent).le
  | retry attempt key hcurrent hnumber => exact le_refl _

/-- What is at or behind the cursor, and is not at the head, is settled. -/
theorem Valid.settled (hvalid : Valid start limit lane) (hattempt : attempt ∈ lane.rows)
    (hother : ∀ head ∈ lane.current, head.item ≠ attempt.item) :
    lane.Settled attempt.item := by
  have hmem : attempt ∈ lane.of attempt.item := List.mem_filter.mpr ⟨hattempt, decide_eq_true rfl⟩
  obtain ⟨-, -, -, hlast⟩ := hvalid.chain attempt.item
  have hne : lane.of attempt.item ≠ [] := List.ne_nil_of_mem hmem
  have hfinal := List.getLast_mem hne
  obtain ⟨hrow, hitem⟩ := List.mem_filter.mp hfinal
  refine ⟨_, hrow, of_decide_eq_true hitem, ?_⟩
  have hfailed := hlast _ (List.getLast?_eq_getLast_of_ne_nil hne)
  have hclosed : ((lane.of attempt.item).getLast hne).status.isOpen = false := by
    rcases List.mem_append.mp hrow with hclosed | hhead
    · exact hvalid.closed _ hclosed
    · exact absurd (of_decide_eq_true hitem) (hother _ (Option.mem_toList.mp hhead))
  cases hstatus : ((lane.of attempt.item).getLast hne).status <;>
    simp_all [Status.isOpen, Status.isSettled]

theorem Valid.cursor_mono (hvalid : Valid start limit lane) (hlimit : 0 < limit)
    (hsteps : Steps limit lane next) : lane.cursor ≤ next.cursor := by
  induction hsteps with
  | refl => exact le_refl _
  | tail hsteps hstep ih => exact ih.trans ((hvalid.steps hlimit hsteps).cursor_le hstep)

end Relational.Retry
