import Mathlib.Algebra.BigOperators.Group.Finset.Piecewise
import Mathlib.Algebra.BigOperators.Ring.Finset
import Mathlib.Algebra.Order.BigOperators.Group.Finset
import SentryWms.Relational.Sessions

/-!
# What the answers add up to

Where every commit moves a measure of the world by the value of its answer, and an
answer without a commit has none, the measure moves over any order of statements by the
sum over the transactions that have answered.
-/

namespace Relational.Sessions

variable {World Request Memory Lock Answer Ticket : Type*}

/-- The value of the answer, where one was given. -/
def Stage.worth (value : Answer → ℤ) : Stage Memory Answer → ℤ
  | .ended (some answer) => value answer
  | _ => 0

variable [Fintype Ticket] [DecidableEq Ticket]
variable {program : Program World Request Memory Lock Answer} {requests : Ticket → Request}

/-- The sum of the answers given so far. -/
def answeredWorth (requests : Ticket → Request) (value : Request → Answer → ℤ)
    (service : Service World Ticket Memory Answer) : ℤ :=
  ∑ ticket, (service.stage ticket).worth (value (requests ticket))

omit [DecidableEq Ticket] in
theorem answeredWorth_opened (value : Request → Answer → ℤ) (world : World) :
    answeredWorth requests value (opened program requests world) = 0 :=
  Finset.sum_eq_zero fun _ _ => rfl

/-- A transaction that was open counts from where it moves to. -/
theorem answeredWorth_moveTo {value : Request → Answer → ℤ}
    {service : Service World Ticket Memory Answer} {ticket : Ticket} {memory : Memory}
    (hstage : service.stage ticket = .running memory) (stage : Stage Memory Answer) :
    answeredWorth requests value (moveTo service ticket stage) =
      answeredWorth requests value service + stage.worth (value (requests ticket)) := by
  have hworth : ∀ other,
      ((moveTo service ticket stage).stage other).worth (value (requests other)) =
        (service.stage other).worth (value (requests other)) +
          if other = ticket then stage.worth (value (requests ticket)) else 0 := by
    intro other
    change Stage.worth _ (Function.update service.stage ticket stage other) = _
    by_cases hother : other = ticket
    · subst hother
      rw [Function.update_self, hstage, if_pos rfl]
      exact (zero_add _).symm
    · rw [Function.update_of_ne hother, if_neg hother, add_zero]
  calc
    answeredWorth requests value (moveTo service ticket stage) =
        ∑ other, ((service.stage other).worth (value (requests other)) +
          if other = ticket then stage.worth (value (requests ticket)) else 0) :=
      Finset.sum_congr rfl fun other _ => hworth other
    _ = answeredWorth requests value service + stage.worth (value (requests ticket)) := by
      rw [Finset.sum_add_distrib, Finset.sum_ite_eq' Finset.univ ticket,
        if_pos (Finset.mem_univ ticket)]
      rfl

/-- One statement moves the measure and the answers together. -/
theorem balance_serve {measure : World → ℤ} {value : Request → Answer → ℤ}
    {service : Service World Ticket Memory Answer} (step : Step Ticket)
    (hcommit : ∀ ticket memory world answer, service.stage ticket = .running memory →
      program.statement (requests ticket) memory (locked program requests service ticket)
        service.world = .commit world answer →
          measure world = measure service.world + value (requests ticket) answer)
    (hrollback : ∀ ticket memory answer, service.stage ticket = .running memory →
      program.statement (requests ticket) memory (locked program requests service ticket)
        service.world = .rollback answer → value (requests ticket) answer = 0) :
    measure (serve program requests service step).world -
        answeredWorth requests value (serve program requests service step) =
      measure service.world - answeredWorth requests value service := by
  cases step with
  | crash ticket =>
      rw [serve]
      split
      · rename_i memory hstage
        rw [answeredWorth_moveTo hstage]
        exact congrArg (measure service.world - ·) (add_zero _)
      · rfl
  | advance ticket =>
      cases hstage : service.stage ticket with
      | ended answer => rw [serve_ended hstage]
      | running memory =>
          rw [serve_advance hstage]
          cases houtcome : program.statement (requests ticket) memory
              (locked program requests service ticket) service.world with
          | wait => rfl
          | proceed next =>
              rw [settle, answeredWorth_moveTo hstage]
              exact congrArg (measure service.world - ·) (add_zero _)
          | rollback answer =>
              have hnone := hrollback ticket memory answer hstage houtcome
              rw [settle, answeredWorth_moveTo hstage, Stage.worth, hnone]
              exact congrArg (measure service.world - ·) (add_zero _)
          | commit world answer =>
              have hmoves := hcommit ticket memory world answer hstage houtcome
              have hworth : answeredWorth requests value
                  (moveTo service ticket (.ended (some answer))) =
                    answeredWorth requests value service + value (requests ticket) answer :=
                answeredWorth_moveTo hstage (.ended (some answer))
              change measure world - answeredWorth requests value
                (moveTo service ticket (.ended (some answer))) = _
              rw [hworth, hmoves]
              exact add_sub_add_right_eq_sub _ _ _

/-- Over a whole run the measure moves by the sum of the answers. -/
theorem balance_run {good : Service World Ticket Memory Answer → Prop}
    {safe : Service World Ticket Memory Answer → Step Ticket → Prop}
    {measure : World → ℤ} {value : Request → Answer → ℤ}
    (hstep : ∀ service step, good service → safe service step →
      good (serve program requests service step))
    (hcommit : ∀ service ticket memory world answer, good service →
      service.stage ticket = .running memory →
        program.statement (requests ticket) memory (locked program requests service ticket)
          service.world = .commit world answer →
            measure world = measure service.world + value (requests ticket) answer)
    (hrollback : ∀ service ticket memory answer, good service →
      service.stage ticket = .running memory →
        program.statement (requests ticket) memory (locked program requests service ticket)
          service.world = .rollback answer → value (requests ticket) answer = 0)
    {world : World} {steps : List (Step Ticket)}
    (hopened : good (opened program requests world))
    (hsafe : Along (serve program requests) safe (opened program requests world) steps) :
    measure (run (serve program requests) (opened program requests world) steps).world =
      measure world + answeredWorth requests value
        (run (serve program requests) (opened program requests world) steps) := by
  have hboth : good (run (serve program requests) (opened program requests world) steps) ∧
      measure (run (serve program requests) (opened program requests world) steps).world -
        answeredWorth requests value
          (run (serve program requests) (opened program requests world) steps) =
            measure world := by
    have hserve : ∀ service step,
        good service ∧ measure service.world - answeredWorth requests value service =
            measure world →
          safe service step → good (serve program requests service step) ∧
            measure (serve program requests service step).world -
              answeredWorth requests value (serve program requests service step) =
                measure world := by
      rintro service step ⟨hgood, hbalance⟩ hsafe
      refine ⟨hstep service step hgood hsafe, ?_⟩
      rw [balance_serve step (fun ticket memory world answer =>
        hcommit service ticket memory world answer hgood) fun ticket memory answer =>
          hrollback service ticket memory answer hgood]
      exact hbalance
    apply run_invariant hserve _ hsafe
    refine ⟨hopened, ?_⟩
    rw [answeredWorth_opened, sub_zero]
    rfl
  exact sub_eq_iff_eq_add.mp hboth.2

/-- So it does where nothing is asked of the commits of an outline. -/
theorem balance_run_steady {conflicts : Lock → Lock → Prop} {inv : World → Prop}
    {known : Request → Memory → World → Prop}
    (houtline : ModedOutline program conflicts inv known (fun _ _ _ => True)
      fun _ _ _ _ _ => True)
    {measure : World → ℤ} {value : Request → Answer → ℤ}
    (hcommit : ∀ request memory isLocked world next answer, inv world →
      known request memory world →
        program.statement request memory isLocked world = .commit next answer →
          measure next = measure world + value request answer)
    (hrollback : ∀ request memory isLocked world answer,
      program.statement request memory isLocked world = .rollback answer → value request answer = 0)
    {world : World} (hinv : inv world) (steps : List (Step Ticket)) :
    measure (run (serve program requests) (opened program requests world) steps).world =
      measure world + answeredWorth requests value
        (run (serve program requests) (opened program requests world) steps) := by
  have hopened : Steady program requests conflicts inv known
    (opened program requests world) := steady_opened houtline hinv
  apply balance_run (fun service step hsteady _ =>
      steady_serve houtline service step hsteady (clear_always service step)) _ _ hopened
    (along_forall (fun _ _ => trivial) _ steps)
  · intro service ticket memory next answer hsteady hstage houtcome
    exact hcommit _ _ _ _ _ _ hsteady.inv (hsteady.known ticket memory hstage) houtcome
  · intro service ticket memory answer _ _ houtcome
    exact hrollback _ _ _ _ _ houtcome

/-- If the answers are worth one at most, only one ticket has an answer worth one. -/
theorem eq_of_answeredWorth_le_one {value : Request → Answer → ℤ}
    {service : Service World Ticket Memory Answer}
    (hnonneg : ∀ request answer, 0 ≤ value request answer)
    (hle : answeredWorth requests value service ≤ 1) {ticket other : Ticket}
    {answer answer' : Answer} (hstage : service.stage ticket = .ended (some answer))
    (hstage' : service.stage other = .ended (some answer'))
    (hone : 1 ≤ value (requests ticket) answer)
    (hone' : 1 ≤ value (requests other) answer') : ticket = other := by
  by_contra hne
  have hworth : ∀ ticket : Ticket,
      0 ≤ (service.stage ticket).worth (value (requests ticket)) := by
    intro ticket
    cases service.stage ticket with
    | running memory => exact le_refl 0
    | ended given =>
        cases given with
        | none => exact le_refl 0
        | some answer => exact hnonneg _ answer
  have hpair := Finset.sum_le_sum_of_subset_of_nonneg
    (Finset.subset_univ {ticket, other}) fun ticket _ _ => hworth ticket
  rw [Finset.sum_pair hne, hstage, hstage'] at hpair
  have htwo : value (requests ticket) answer + value (requests other) answer' ≤
    answeredWorth requests value service := hpair
  omega

end Relational.Sessions
