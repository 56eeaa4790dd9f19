import Mathlib.Algebra.Order.BigOperators.Group.List
import Mathlib.Data.List.Forall2
import Mathlib.Data.List.Induction
import Mathlib.Order.Bounds.Basic

/-!
# The flow shop of two machines

Jobs pass two machines in one order.  The first machine never waits; the second takes a job
up when the first is done with it and when it is done itself with the job before.  The time
at which both are done is that of the longest path that changes machines once.
-/

namespace SentryWms.Scheduling

/-- The time a job takes on each machine. -/
structure Job (Time : Type*) where
  first : Time
  second : Time
  deriving DecidableEq, Repr

/-- When each machine is done with the jobs so far. -/
structure Clock (Time : Type*) where
  first : Time
  second : Time
  deriving DecidableEq, Repr

variable {Time : Type*} [AddCommMonoid Time]

def firstTotal (jobs : List (Job Time)) : Time := (jobs.map Job.first).sum

def secondTotal (jobs : List (Job Time)) : Time := (jobs.map Job.second).sum

/-- The first machine up to job `change`, the second from it on. -/
def path (jobs : List (Job Time)) (change : ℕ) : Time :=
  firstTotal (jobs.take (change + 1)) + secondTotal (jobs.drop change)

@[simp]
theorem firstTotal_append (jobs more : List (Job Time)) :
    firstTotal (jobs ++ more) = firstTotal jobs + firstTotal more := by
  rw [firstTotal, firstTotal, firstTotal, List.map_append, List.sum_append]

@[simp]
theorem secondTotal_append (jobs more : List (Job Time)) :
    secondTotal (jobs ++ more) = secondTotal jobs + secondTotal more := by
  rw [secondTotal, secondTotal, secondTotal, List.map_append, List.sum_append]

@[simp]
theorem firstTotal_singleton (job : Job Time) : firstTotal [job] = job.first := by
  rw [firstTotal, List.map_singleton, List.sum_singleton]

@[simp]
theorem secondTotal_singleton (job : Job Time) : secondTotal [job] = job.second := by
  rw [secondTotal, List.map_singleton, List.sum_singleton]

theorem path_concat (jobs : List (Job Time)) (job : Job Time) {change : ℕ}
    (hchange : change < jobs.length) :
    path (jobs ++ [job]) change = path jobs change + job.second := by
  rw [path, path, List.take_append_of_le_length hchange,
    List.drop_append_of_le_length hchange.le, secondTotal_append, secondTotal_singleton,
    add_assoc]

theorem path_concat_last (jobs : List (Job Time)) (job : Job Time) :
    path (jobs ++ [job]) jobs.length = firstTotal jobs + job.first + job.second := by
  have htake : (jobs ++ [job]).take (jobs.length + 1) = jobs ++ [job] := by
    rw [List.take_of_length_le]
    rw [List.length_append, List.length_singleton]
  rw [path, htake, List.drop_left, firstTotal_append, firstTotal_singleton, secondTotal_singleton]

/-! ## The machines -/

section Machines

variable [LinearOrder Time]

def Clock.step (clock : Clock Time) (job : Job Time) : Clock Time :=
  let first := clock.first + job.first
  ⟨first, max first clock.second + job.second⟩

def Clock.run (clock : Clock Time) (jobs : List (Job Time)) : Clock Time :=
  jobs.foldl Clock.step clock

/-- When the second machine is done. -/
def makespan (jobs : List (Job Time)) : Time := (Clock.run ⟨0, 0⟩ jobs).second

theorem Clock.run_concat (clock : Clock Time) (jobs : List (Job Time)) (job : Job Time) :
    clock.run (jobs ++ [job]) = (clock.run jobs).step job := by
  rw [Clock.run, List.foldl_append]
  rfl

theorem run_first (jobs : List (Job Time)) : (Clock.run ⟨0, 0⟩ jobs).first = firstTotal jobs := by
  induction jobs using List.reverseRecOn with
  | nil => rfl
  | append_singleton jobs job ih =>
      rw [Clock.run_concat, firstTotal_append, firstTotal_singleton, ← ih]
      rfl

theorem makespan_concat (jobs : List (Job Time)) (job : Job Time) :
    makespan (jobs ++ [job]) =
      max (firstTotal jobs + job.first) (makespan jobs) + job.second := by
  rw [makespan, Clock.run_concat, ← run_first]
  rfl

/-! ## The longest path -/

section Ordered

variable [IsOrderedAddMonoid Time]

theorem path_le_makespan (jobs : List (Job Time)) {change : ℕ}
    (hchange : change < jobs.length) : path jobs change ≤ makespan jobs := by
  induction jobs using List.reverseRecOn with
  | nil => cases hchange
  | append_singleton jobs job ih =>
      rw [makespan_concat]
      rw [List.length_append, List.length_singleton] at hchange
      rcases Nat.lt_succ_iff_lt_or_eq.mp hchange with hbefore | rfl
      · rw [path_concat jobs job hbefore]
        exact add_le_add_left ((ih hbefore).trans (le_max_right _ _)) _
      · rw [path_concat_last]
        exact add_le_add_left (le_max_left _ _) _

omit [IsOrderedAddMonoid Time] in
theorem exists_path_eq_makespan (jobs : List (Job Time)) (hjobs : jobs ≠ [])
    (hfirst : ∀ job ∈ jobs, 0 ≤ job.first) :
    ∃ change < jobs.length, path jobs change = makespan jobs := by
  induction jobs using List.reverseRecOn with
  | nil => exact absurd rfl hjobs
  | append_singleton jobs job ih =>
      rw [makespan_concat, List.length_append, List.length_singleton]
      -- The last job waits for itself, or the second machine is still at the jobs before.
      rcases le_total (makespan jobs) (firstTotal jobs + job.first) with hwait | hbusy
      · refine ⟨jobs.length, Nat.lt_succ_self _, ?_⟩
        rw [max_eq_left hwait, path_concat_last]
      · rw [max_eq_right hbusy]
        rcases eq_or_ne jobs [] with rfl | hbefore
        · refine ⟨0, Nat.zero_lt_succ _, ?_⟩
          have hzero : firstTotal [] + job.first = makespan ([] : List (Job Time)) := by
            apply le_antisymm hbusy
            have hnonneg := hfirst job (List.mem_singleton_self job)
            rwa [← zero_add job.first] at hnonneg
          rw [← hzero]
          exact path_concat_last [] job
        · obtain ⟨change, hchange, hpath⟩ := ih hbefore fun before hmem =>
            hfirst before (List.mem_append_left _ hmem)
          refine ⟨change, Nat.lt_succ_of_lt hchange, ?_⟩
          rw [path_concat jobs job hchange, hpath]

theorem makespan_isGreatest (jobs : List (Job Time)) (hjobs : jobs ≠ [])
    (hfirst : ∀ job ∈ jobs, 0 ≤ job.first) :
    IsGreatest {time | ∃ change < jobs.length, path jobs change = time} (makespan jobs) := by
  refine ⟨exists_path_eq_makespan jobs hjobs hfirst, ?_⟩
  rintro time ⟨change, hchange, rfl⟩
  exact path_le_makespan jobs hchange

/-! ## Bounds -/

theorem secondTotal_nonneg {jobs : List (Job Time)}
    (hsecond : ∀ job ∈ jobs, 0 ≤ job.second) : 0 ≤ secondTotal jobs := by
  apply List.sum_nonneg
  intro time htime
  obtain ⟨job, hjob, rfl⟩ := List.mem_map.mp htime
  exact hsecond job hjob

/-- All jobs on the first machine, then the last one on the second. -/
theorem firstTotal_add_last_le (jobs : List (Job Time)) (job : Job Time) :
    firstTotal (jobs ++ [job]) + job.second ≤ makespan (jobs ++ [job]) := by
  have hpath := path_le_makespan (jobs ++ [job])
    (List.length_append.trans_gt (Nat.lt_succ_self jobs.length))
  rwa [path_concat_last, ← firstTotal_singleton job, ← firstTotal_append] at hpath

/-- The first job on the first machine, then all of them on the second. -/
theorem head_add_secondTotal_le (job : Job Time) (jobs : List (Job Time)) :
    job.first + secondTotal (job :: jobs) ≤ makespan (job :: jobs) := by
  have hpath := path_le_makespan (job :: jobs) (Nat.zero_lt_succ jobs.length)
  rwa [path, List.take_succ_cons, List.take_zero, List.drop_zero, firstTotal_singleton] at hpath

theorem makespan_le_totals (jobs : List (Job Time)) (hfirst : ∀ job ∈ jobs, 0 ≤ job.first)
    (hsecond : ∀ job ∈ jobs, 0 ≤ job.second) :
    makespan jobs ≤ firstTotal jobs + secondTotal jobs := by
  induction jobs using List.reverseRecOn with
  | nil => exact (add_zero _).ge
  | append_singleton jobs job ih =>
      have hfirsts : ∀ before ∈ jobs, 0 ≤ before.first := fun before hmem =>
        hfirst before (List.mem_append_left _ hmem)
      have hseconds : ∀ before ∈ jobs, 0 ≤ before.second := fun before hmem =>
        hsecond before (List.mem_append_left _ hmem)
      have hjob : 0 ≤ job.first :=
        hfirst job (List.mem_append_right _ (List.mem_singleton_self job))
      have hmax : max (firstTotal jobs + job.first) (makespan jobs) ≤
          firstTotal jobs + job.first + secondTotal jobs := by
        apply max_le
        · exact le_add_of_nonneg_right (secondTotal_nonneg hseconds)
        · calc
            makespan jobs ≤ firstTotal jobs + secondTotal jobs := ih hfirsts hseconds
            _ ≤ firstTotal jobs + job.first + secondTotal jobs :=
                add_le_add_left (le_add_of_nonneg_right hjob) _
      rw [makespan_concat, firstTotal_append, secondTotal_append, firstTotal_singleton,
        secondTotal_singleton, ← add_assoc]
      exact add_le_add_left hmax _

/-! ## More work -/

/-- Both times of a job are at most those of another. -/
def Job.AtMost (job other : Job Time) : Prop := job.first ≤ other.first ∧ job.second ≤ other.second

theorem Clock.step_le {clock later : Clock Time} {job other : Job Time}
    (hfirst : clock.first ≤ later.first) (hsecond : clock.second ≤ later.second)
    (hjob : job.AtMost other) :
    (clock.step job).first ≤ (later.step other).first ∧
      (clock.step job).second ≤ (later.step other).second := by
  have hdone : clock.first + job.first ≤ later.first + other.first := add_le_add hfirst hjob.1
  exact ⟨hdone, add_le_add (max_le_max hdone hsecond) hjob.2⟩

theorem Clock.run_le {jobs more : List (Job Time)}
    (hmore : List.SublistForall₂ Job.AtMost jobs more)
    (hfirst : ∀ job ∈ more, 0 ≤ job.first) (hsecond : ∀ job ∈ more, 0 ≤ job.second)
    {clock later : Clock Time} (hclock : clock.first ≤ later.first)
    (hlater : clock.second ≤ later.second) :
    (clock.run jobs).second ≤ (later.run more).second := by
  have hidle : ∀ (more : List (Job Time)), (∀ job ∈ more, 0 ≤ job.second) →
      ∀ later : Clock Time, later.second ≤ (later.run more).second := by
    intro more hsecond
    induction more with
    | nil => exact fun later => le_rfl
    | cons job more ih =>
        intro later
        have hstep : later.second ≤ (later.step job).second :=
          (le_max_right _ _).trans (le_add_of_nonneg_right (hsecond job List.mem_cons_self))
        exact hstep.trans (ih (fun other hmem => hsecond other (List.mem_cons_of_mem _ hmem)) _)
  induction hmore generalizing clock later with
  | nil => exact hlater.trans (hidle _ hsecond later)
  | cons hjob hrest ih =>
      obtain ⟨hfirsts, hseconds⟩ := Clock.step_le hclock hlater hjob
      exact ih (fun job hmem => hfirst job (List.mem_cons_of_mem _ hmem))
        (fun job hmem => hsecond job (List.mem_cons_of_mem _ hmem)) hfirsts hseconds
  | @cons_right added jobs more hrest ih =>
      apply ih (fun job hmem => hfirst job (List.mem_cons_of_mem _ hmem))
        (fun job hmem => hsecond job (List.mem_cons_of_mem _ hmem))
      · exact hclock.trans (le_add_of_nonneg_right (hfirst added List.mem_cons_self))
      · exact hlater.trans ((le_max_right _ _).trans
          (le_add_of_nonneg_right (hsecond added List.mem_cons_self)))

theorem makespan_mono {jobs more : List (Job Time)}
    (hmore : List.SublistForall₂ Job.AtMost jobs more)
    (hfirst : ∀ job ∈ more, 0 ≤ job.first) (hsecond : ∀ job ∈ more, 0 ≤ job.second) :
    makespan jobs ≤ makespan more :=
  Clock.run_le hmore hfirst hsecond le_rfl le_rfl

end Ordered

end Machines

end SentryWms.Scheduling
