import Mathlib.Data.Int.Notation
import Mathlib.Data.List.Basic

/-!
# Fallible steps and runs of requests

Partial operations return `Except`; the two guards below are the only ways an
operation here refuses, so one lemma each turns "the operation succeeded" into
the facts it checked.  A served state machine answers every request: a refused
one leaves the state as it was.  `Along` says that every request of a run meets
a condition on the state it is served in; `tally` counts the requests of a run that
do something, `Since` says that something happened and was not undone later, and
`run_view` is for a state that the requests so far determine.
-/

namespace Relational

section Fallible

universe u

variable {Error : Type*} {Value Other : Type u}

/-- The value of a row lookup, or the error raised when there is none. -/
def orThrow (value? : Option Value) (error : Error) : Except Error Value :=
  match value? with
  | some value => .ok value
  | none => .error error

/-- A guard. -/
def require (condition : Prop) [Decidable condition] (error : Error) : Except Error Unit :=
  if condition then .ok () else .error error

@[simp]
theorem orThrow_eq_ok {value? : Option Value} {error : Error} {value : Value} :
    orThrow value? error = .ok value ↔ value? = some value := by
  cases value? <;> simp [orThrow]

@[simp]
theorem require_eq_ok {condition : Prop} [Decidable condition] {error : Error}
    {u : Unit} : require condition error = .ok u ↔ condition := by
  by_cases h : condition <;> simp [require, h]

/-- A guard that holds is passed. -/
theorem require_bind {Result : Type} {condition : Prop} [Decidable condition]
    {error : Error} {next : Unit → Except Error Result} (hcondition : condition) :
    (require condition error >>= next) = next () := by
  rw [require, if_pos hcondition]
  rfl

/-- A guard that fails ends the operation. -/
theorem require_bind_not {Result : Type} {condition : Prop} [Decidable condition]
    {error : Error} {next : Unit → Except Error Result}
    (hcondition : ¬ condition) :
    (require condition error >>= next) = .error error := by
  rw [require, if_neg hcondition]
  rfl

/-- A lookup that finds a value goes on with it. -/
theorem orThrow_bind {Found Result : Type} {value? : Option Found} {value : Found}
    {error : Error} {next : Found → Except Error Result}
    (hvalue : value? = some value) : (orThrow value? error >>= next) = next value := by
  rw [hvalue]
  rfl

theorem bind_eq_ok {step : Except Error Value} {next : Value → Except Error Other}
    {result : Other} :
    (step >>= next) = .ok result ↔
      ∃ value, step = .ok value ∧ next value = .ok result := by
  cases step with
  | error | ok => simp [bind, Except.bind]

/-- A sequence is refused by its first step, or by what follows it. -/
theorem bind_eq_error {step : Except Error Value}
    {next : Value → Except Error Other} {error : Error} :
    (step >>= next) = .error error ↔
      step = .error error ∨
        ∃ value, step = .ok value ∧ next value = .error error := by
  cases step with
  | error | ok => simp [bind, Except.bind]

@[simp]
theorem require_eq_error {condition : Prop} [Decidable condition] {error refusal : Error} :
    require condition error = .error refusal ↔
      ¬ condition ∧ error = refusal := by
  by_cases h : condition <;> simp [require, h]

@[simp]
theorem orThrow_eq_error {value? : Option Value} {error refusal : Error} :
    orThrow value? error = .error refusal ↔
      value? = none ∧ error = refusal := by
  cases value? <;> simp [orThrow]

@[simp]
theorem pure_ne_error {value : Value} {error : Error} :
    (pure value : Except Error Value) ≠ .error error := by
  simp [pure, Except.pure]

@[simp]
theorem pure_eq_ok {value result : Value} :
    (pure value : Except Error Value) = .ok result ↔ value = result := by
  simp [pure, Except.pure]

/-- An outcome that is no refusal has a value. -/
theorem exists_eq_ok (outcome : Except Error Value) (hok : outcome.isOk) :
    ∃ value, outcome = .ok value := by
  cases outcome with
  | error e => simp [Except.isOk, Except.toBool] at hok
  | ok value => exact ⟨value, rfl⟩

end Fallible

section Run

variable {State Request : Type*} (serve : State → Request → State)

/-- The state after a sequence of requests. -/
def run (state : State) (requests : List Request) : State := requests.foldl serve state

/-- Every request of the run meets `safe` in the state it is served in. -/
def Along (safe : State → Request → Prop) : State → List Request → Prop
  | _, [] => True
  | state, request :: rest =>
      safe state request ∧ Along safe (serve state request) rest

variable {serve}

theorem along_forall {safe : State → Request → Prop}
    (hsafe : ∀ state request, safe state request) (state : State)
    (requests : List Request) : Along serve safe state requests := by
  induction requests generalizing state with
  | nil => trivial
  | cons request rest ih => exact ⟨hsafe state request, ih _⟩

/-- A condition on the requests alone holds along a run of such requests. -/
theorem along_of_mem {good : Request → Prop} {requests : List Request}
    (hgood : ∀ request ∈ requests, good request) (state : State) :
    Along serve (fun _ request => good request) state requests := by
  induction requests generalizing state with
  | nil => trivial
  | cons request rest ih =>
      exact ⟨hgood request List.mem_cons_self,
        ih (fun later hlater => hgood later (List.mem_cons_of_mem _ hlater)) _⟩

/-- What one safe step preserves, a whole safe run preserves. -/
theorem run_invariant {inv : State → Prop} {safe : State → Request → Prop}
    (hstep : ∀ state request, inv state → safe state request → inv (serve state request))
    {state : State} {requests : List Request}
    (hinit : inv state) (halong : Along serve safe state requests) :
    inv (run serve state requests) := by
  induction requests generalizing state with
  | nil => exact hinit
  | cons request rest ih => exact ih (hstep _ _ hinit halong.1) halong.2

/-- In a safe run every step is good, if safe steps from invariant states are. -/
theorem along_of_invariant {inv : State → Prop} {safe good : State → Request → Prop}
    (hstep : ∀ state request, inv state → safe state request → inv (serve state request))
    (hgood : ∀ state request, inv state → safe state request → good state request)
    {state : State} {requests : List Request}
    (hinit : inv state) (halong : Along serve safe state requests) :
    Along serve good state requests := by
  induction requests generalizing state with
  | nil => trivial
  | cons request rest ih =>
      exact ⟨hgood _ _ hinit halong.1, ih (hstep _ _ hinit halong.1) halong.2⟩

/-- Where each request keeps what holds exactly if it is good, what holds survives every
beginning of the requests exactly if they are all good. -/
theorem always_iff_along {frame holds : State → Prop} {good : State → Request → Prop}
    (hframe : ∀ state request, frame state → frame (serve state request))
    (hstep : ∀ state request, frame state → holds state →
      (holds (serve state request) ↔ good state request))
    {state : State} (requests : List Request) (hstart : frame state) (hholds : holds state) :
    (∀ front, front <+: requests → holds (run serve state front)) ↔
      Along serve good state requests := by
  induction requests generalizing state with
  | nil =>
      constructor
      · intro _
        trivial
      · intro _ front hfront
        rw [List.prefix_nil.mp hfront]
        exact hholds
  | cons request rest ih =>
      constructor
      · intro halways
        have hfirst : holds (serve state request) :=
          halways [request] (List.prefix_append [request] rest)
        refine ⟨(hstep state request hstart hholds).mp hfirst, ?_⟩
        apply (ih (hframe state request hstart) hfirst).mp
        intro front hfront
        exact halways (request :: front) (List.cons_prefix_cons.mpr ⟨rfl, hfront⟩)
      · rintro ⟨hgood, halong⟩ front hfront
        have hfirst := (hstep state request hstart hholds).mpr hgood
        cases front with
        | nil => exact hholds
        | cons first more =>
            obtain ⟨rfl, hmore⟩ := List.cons_prefix_cons.mp hfront
            exact (ih (hframe state first hstart) hfirst).mpr halong more hmore

/-- What no step changes, no run changes. -/
theorem run_unchanged {Value : Type*} (view : State → Value)
    (hstep : ∀ state request, view (serve state request) = view state)
    (state : State) (requests : List Request) :
    view (run serve state requests) = view state := by
  induction requests generalizing state with
  | nil => rfl
  | cons request rest ih => exact (ih _).trans (hstep _ _)

theorem run_append (state : State) (front back : List Request) :
    run serve state (front ++ back) = run serve (run serve state front) back :=
  List.foldl_append

/-- A state that each request moves as it moves a view of the requests so far is that view
of the requests served. -/
theorem run_view {view : List Request → State}
    (hstep : ∀ past request, serve (view past) request = view (past ++ [request]))
    (past requests : List Request) :
    run serve (view past) requests = view (past ++ requests) := by
  induction requests generalizing past with
  | nil => rw [List.append_nil]; rfl
  | cons request rest ih =>
      calc
        run serve (view past) (request :: rest) =
            run serve (view (past ++ [request])) rest :=
          congrArg (run serve · rest) (hstep past request)
        _ = view (past ++ [request] ++ rest) := ih (past ++ [request])
        _ = view (past ++ request :: rest) := by rw [List.append_assoc]; rfl

theorem along_append {safe : State → Request → Prop} {state : State} {front back : List Request} :
    Along serve safe state (front ++ back) ↔
      Along serve safe state front ∧
        Along serve safe (run serve state front) back := by
  induction front generalizing state with
  | nil => simp [Along, run]
  | cons request rest ih =>
      simp only [List.cons_append, Along, ih, and_assoc]
      rfl

/-- How many requests of the run do what is tested, each in the state it is
served in. -/
def tally (serve : State → Request → State) (test : State → Request → Prop)
    [∀ state request, Decidable (test state request)] :
    State → List Request → ℕ
  | _, [] => 0
  | state, request :: rest =>
      (if test state request then 1 else 0) + tally serve test (serve state request) rest

/-- A count that grows only at the tested requests, by at most one at each, grows
by at most their tally. -/
theorem le_tally {safe test : State → Request → Prop}
    [∀ state request, Decidable (test state request)] (count : State → ℕ)
    (hstep : ∀ state request, safe state request →
      count (serve state request) ≤
        count state + if test state request then 1 else 0)
    {state : State} {requests : List Request}
    (halong : Along serve safe state requests) :
    count (run serve state requests) ≤
      count state + tally serve test state requests := by
  induction requests generalizing state with
  | nil => exact Nat.le_add_right _ _
  | cons request rest ih =>
      calc
        count (run serve (serve state request) rest) ≤
            count (serve state request) +
              tally serve test (serve state request) rest := ih halong.2
        _ ≤ (count state + if test state request then 1 else 0) +
              tally serve test (serve state request) rest :=
            Nat.add_le_add_right (hstep state request halong.1) _
        _ = count state + tally serve test state (request :: rest) := Nat.add_assoc _ _ _

/-- A count that grows by one at each tested request, and not at others, grows by their
tally. -/
theorem tally_eq {inv : State → Prop} {safe test : State → Request → Prop}
    [∀ state request, Decidable (test state request)] (count : State → ℕ)
    (hstep : ∀ state request, inv state → safe state request →
      inv (serve state request) ∧
        count (serve state request) =
          count state + if test state request then 1 else 0)
    {state : State} {requests : List Request} (hinit : inv state)
    (halong : Along serve safe state requests) :
    count (run serve state requests) =
      count state + tally serve test state requests := by
  induction requests generalizing state with
  | nil => rfl
  | cons request rest ih =>
      obtain ⟨hinv, hcount⟩ := hstep state request hinit halong.1
      calc
        count (run serve (serve state request) rest) =
            count (serve state request) +
              tally serve test (serve state request) rest := ih hinv halong.2
        _ = count state + tally serve test state (request :: rest) := by
            rw [hcount, tally, Nat.add_assoc]

/-- How much a measure grows at the requests of the run that do what is tested. -/
def accrued (serve : State → Request → State) (test : State → Request → Prop)
    [∀ state request, Decidable (test state request)] (measure : State → ℤ) :
    State → List Request → ℤ
  | _, [] => 0
  | state, request :: rest =>
      (if test state request then measure (serve state request) - measure state
        else 0) + accrued serve test measure (serve state request) rest

/-- A view that moves as the measure does at the tested requests, and not at others,
moves over the run by what the measure accrues. -/
theorem accrued_eq {inv : State → Prop} {safe test : State → Request → Prop}
    [∀ state request, Decidable (test state request)] {measure view : State → ℤ}
    (hstep : ∀ state request, inv state → safe state request → inv (serve state request))
    (htested : ∀ state request, inv state → test state request →
      measure (serve state request) - measure state = view (serve state request) - view state)
    (hother : ∀ state request, inv state → ¬ test state request →
      view (serve state request) = view state)
    {state : State} {requests : List Request} (hinit : inv state)
    (halong : Along serve safe state requests) :
    accrued serve test measure state requests =
      view (run serve state requests) - view state := by
  induction requests generalizing state with
  | nil => exact (Int.sub_self _).symm
  | cons request rest ih =>
      have hrest := ih (hstep _ _ hinit halong.1) halong.2
      have hrun : run serve state (request :: rest) =
          run serve (serve state request) rest := rfl
      rw [accrued, hrest, hrun]
      by_cases htest : test state request
      · have hmoved := htested state request hinit htest
        rw [if_pos htest]
        omega
      · have hkept := hother state request hinit htest
        rw [if_neg htest]
        omega

/-- The run has a request that `occurs` tells, and none after it is one that
`resets` tells. -/
def Since (serve : State → Request → State) (occurs resets : State → Request → Prop) (state : State)
    (requests : List Request) : Prop :=
  ∃ front request back, requests = front ++ request :: back ∧
    occurs (run serve state front) request ∧
    Along serve (fun state request => ¬ resets state request)
      (serve (run serve state front) request) back

theorem since_nil {occurs resets : State → Request → Prop} {state : State} :
    ¬ Since serve occurs resets state [] := by
  rintro ⟨front, request, back, hsplit, -⟩
  cases front <;> cases hsplit

theorem since_cons {occurs resets : State → Request → Prop} {state : State}
    {request : Request} {rest : List Request} :
    Since serve occurs resets state (request :: rest) ↔
      (occurs state request ∧
        Along serve (fun state request => ¬ resets state request) (serve state request) rest) ∨
      Since serve occurs resets (serve state request) rest := by
  constructor
  · rintro ⟨front, event, back, hsplit, hoccurs, hafter⟩
    cases front with
    | nil =>
        obtain ⟨rfl, rfl⟩ := List.cons.inj hsplit
        exact Or.inl ⟨hoccurs, hafter⟩
    | cons first front =>
        obtain ⟨rfl, rfl⟩ := List.cons.inj hsplit
        exact Or.inr ⟨front, event, back, rfl, hoccurs, hafter⟩
  · intro hcases
    cases hcases with
    | inl hhere => exact ⟨[], request, rest, rfl, hhere.1, hhere.2⟩
    | inr hlater =>
        obtain ⟨front, event, back, rfl, hrest⟩ := hlater
        exact ⟨request :: front, event, back, rfl, hrest⟩

/-- A mark that appears only where the event occurs, and that no reset leaves, is
either of an event since the last reset or as old as the run. -/
theorem since_of_marked {safe occurs resets : State → Request → Prop} (marked : State → Prop)
    (hstep : ∀ state request, safe state request →
      marked (serve state request) → occurs state request ∨ (marked state ∧ ¬ resets state request))
    {state : State} {requests : List Request}
    (halong : Along serve safe state requests)
    (hmarked : marked (run serve state requests)) :
    Since serve occurs resets state requests ∨ marked state := by
  suffices hstrong : Since serve occurs resets state requests ∨
      (marked state ∧ Along serve (fun state request => ¬ resets state request)
        state requests) from hstrong.imp id And.left
  induction requests generalizing state with
  | nil => exact Or.inr ⟨hmarked, trivial⟩
  | cons request rest ih =>
      cases ih halong.2 hmarked with
      | inl hsince => exact Or.inl (since_cons.mpr (Or.inr hsince))
      | inr hkept =>
          obtain ⟨hmiddle, hrest⟩ := hkept
          cases hstep state request halong.1 hmiddle with
          | inl hoccurs => exact Or.inl (since_cons.mpr (Or.inl ⟨hoccurs, hrest⟩))
          | inr hold => exact Or.inr ⟨hold.1, hold.2, hrest⟩

instance (safe : State → Request → Prop) [∀ state request, Decidable (safe state request)] :
    ∀ (state : State) (requests : List Request), Decidable (Along serve safe state requests)
  | _, [] => .isTrue trivial
  | state, request :: rest =>
      have := instDecidableAlong safe (serve state request) rest
      inferInstanceAs (Decidable (safe state request ∧ _))

instance (occurs resets : State → Request → Prop)
    [∀ state request, Decidable (occurs state request)]
    [∀ state request, Decidable (resets state request)] :
    ∀ (state : State) (requests : List Request),
      Decidable (Since serve occurs resets state requests)
  | _, [] => .isFalse since_nil
  | state, request :: rest =>
      have := instDecidableSince occurs resets (serve state request) rest
      decidable_of_iff _ since_cons.symm

end Run

end Relational
