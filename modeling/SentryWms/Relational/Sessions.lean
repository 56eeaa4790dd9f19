import Mathlib.Data.Fintype.Defs
import Mathlib.Logic.Function.Basic
import SentryWms.Relational.Run

/-!
# Transactions that run statement by statement

Each request is one transaction.  Its statements run one at a time, between the
statements of the others, each on what is committed at that moment; what it writes is
its own until it commits, and the locks it holds keep the others off.  An outline gives
every point of a transaction an assertion about the committed world.  Where an outline
holds, so does its invariant after any order of statements, provided that every commit
finds the others at points it is compatible with.
-/

namespace Relational.Sessions

/-! A few tickets, named by numerals. -/

instance twoTickets : @NeZero ℕ Zero.ofOfNat0 2 := ⟨by decide⟩

instance threeTickets : @NeZero ℕ Zero.ofOfNat0 3 := ⟨by decide⟩

instance fourTickets : @NeZero ℕ Zero.ofOfNat0 4 := ⟨by decide⟩

/-- What a statement comes to: it waits for a lock, leaves the transaction open, or ends
it. -/
inductive Outcome (World Memory Answer : Type*)
  | wait
  | proceed (memory : Memory)
  | commit (world : World) (answer : Answer)
  | rollback (answer : Answer)

/-- The outcome of a statement within a longer transaction. -/
def Outcome.map {World Memory Memory' Answer Answer' : Type*} (remember : Memory → Memory')
    (reply : Answer → Answer') :
    Outcome World Memory Answer → Outcome World Memory' Answer'
  | .wait => .wait
  | .proceed memory => .proceed (remember memory)
  | .commit world answer => .commit world (reply answer)
  | .rollback answer => .rollback (reply answer)

theorem Outcome.map_eq_proceed {World Memory Memory' Answer Answer' : Type*}
    {remember : Memory → Memory'} {reply : Answer → Answer'}
    {outcome : Outcome World Memory Answer} {next : Memory'}
    (hproceed : outcome.map remember reply = .proceed next) :
    ∃ memory, outcome = .proceed memory ∧ next = remember memory := by
  cases outcome <;> cases hproceed
  exact ⟨_, rfl, rfl⟩

theorem Outcome.map_eq_commit {World Memory Memory' Answer Answer' : Type*}
    {remember : Memory → Memory'} {reply : Answer → Answer'}
    {outcome : Outcome World Memory Answer} {world : World} {answer : Answer'}
    (hcommit : outcome.map remember reply = .commit world answer) :
    ∃ inner, outcome = .commit world inner := by
  cases outcome <;> cases hcommit
  exact ⟨_, rfl⟩

/-- A transaction as its statements: what it remembers between two of them, and the
locks it holds there. -/
structure Program (World Request Memory Lock Answer : Type*) where
  start : Request → Memory
  holds : Request → Memory → Lock → Bool
  statement : Request → Memory → (Lock → Bool) → World → Outcome World Memory Answer
  start_holds : ∀ request lock, holds request (start request) lock = false

inductive Stage (Memory Answer : Type*)
  | running (memory : Memory)
  | ended (answer : Option Answer)
  deriving DecidableEq, Repr

/-- The committed world, and where each transaction is. -/
structure Service (World Ticket Memory Answer : Type*) where
  world : World
  stage : Ticket → Stage Memory Answer

/-- A transaction runs its next statement, or its connection is lost. -/
inductive Step (Ticket : Type*)
  | advance (ticket : Ticket)
  | crash (ticket : Ticket)
  deriving DecidableEq, Repr

variable {World Request Memory Lock Answer Ticket : Type*}

section Running

variable (program : Program World Request Memory Lock Answer)

/-- The locks of a transaction at a stage; none once it has ended. -/
def Stage.holds (request : Request) : Stage Memory Answer → Lock → Bool
  | .running memory => program.holds request memory
  | .ended _ => fun _ => false

variable (requests : Ticket → Request)

/-- Nobody has run anything. -/
def opened (world : World) : Service World Ticket Memory Answer where
  world := world
  stage := fun ticket => .running (program.start (requests ticket))

variable [Fintype Ticket] [DecidableEq Ticket]

/-- Another transaction holds the lock. -/
def locked (service : Service World Ticket Memory Answer) (ticket : Ticket)
    (lock : Lock) : Bool :=
  decide (∃ other, other ≠ ticket ∧
    (service.stage other).holds program (requests other) lock = true)

def moveTo (service : Service World Ticket Memory Answer) (ticket : Ticket)
    (stage : Stage Memory Answer) : Service World Ticket Memory Answer :=
  { service with stage := Function.update service.stage ticket stage }

/-- The service after the next statement of a transaction with this memory. -/
def settle (service : Service World Ticket Memory Answer) (ticket : Ticket) :
    Outcome World Memory Answer → Service World Ticket Memory Answer
  | .wait => service
  | .proceed memory => moveTo service ticket (.running memory)
  | .commit world answer =>
      { moveTo service ticket (.ended (some answer)) with world := world }
  | .rollback answer => moveTo service ticket (.ended (some answer))

def serve (service : Service World Ticket Memory Answer) :
    Step Ticket → Service World Ticket Memory Answer
  | .advance ticket =>
      match service.stage ticket with
      | .running memory =>
          settle service ticket (program.statement (requests ticket) memory
            (locked program requests service ticket) service.world)
      | .ended _ => service
  | .crash ticket =>
      match service.stage ticket with
      | .running _ => moveTo service ticket (.ended none)
      | .ended _ => service

variable {program requests}

theorem serve_advance {service : Service World Ticket Memory Answer} {ticket : Ticket}
    {memory : Memory} (hstage : service.stage ticket = .running memory) :
    serve program requests service (.advance ticket) =
      settle service ticket (program.statement (requests ticket) memory
        (locked program requests service ticket) service.world) := by
  simp only [serve, hstage]

theorem serve_ended {service : Service World Ticket Memory Answer} {ticket : Ticket}
    {answer : Option Answer} (hstage : service.stage ticket = .ended answer) :
    serve program requests service (.advance ticket) = service := by
  simp only [serve, hstage]

/-- A statement changes the world only where it commits. -/
theorem serve_advance_world (service : Service World Ticket Memory Answer) (ticket : Ticket) :
    (serve program requests service (.advance ticket)).world = service.world ∨
      ∃ memory world answer, service.stage ticket = .running memory ∧
        program.statement (requests ticket) memory
          (locked program requests service ticket) service.world = .commit world answer ∧
          (serve program requests service (.advance ticket)).world = world := by
  cases hstage : service.stage ticket with
  | ended answer =>
      left
      rw [serve_ended hstage]
  | running memory =>
      rw [serve_advance hstage]
      cases houtcome : program.statement (requests ticket) memory
          (locked program requests service ticket) service.world with
      | wait => exact Or.inl rfl
      | proceed after => exact Or.inl rfl
      | rollback answer => exact Or.inl rfl
      | commit world answer => exact Or.inr ⟨memory, world, answer, rfl, houtcome, rfl⟩

/-- A statement that answers commits or rolls back. -/
theorem serve_advance_answer {service : Service World Ticket Memory Answer} {ticket : Ticket}
    {memory : Memory} {answer : Answer} (hstage : service.stage ticket = .running memory)
    (hanswer : (serve program requests service (.advance ticket)).stage ticket =
      .ended (some answer)) :
    (∃ world, program.statement (requests ticket) memory
        (locked program requests service ticket) service.world = .commit world answer ∧
        (serve program requests service (.advance ticket)).world = world) ∨
      program.statement (requests ticket) memory
        (locked program requests service ticket) service.world = .rollback answer := by
  rw [serve_advance hstage] at hanswer ⊢
  cases houtcome : program.statement (requests ticket) memory
      (locked program requests service ticket) service.world with
  | wait =>
      simp only [houtcome, settle, hstage] at hanswer
      cases hanswer
  | proceed after =>
      simp only [houtcome, settle, moveTo, Function.update_self] at hanswer
      cases hanswer
  | rollback given =>
      simp only [houtcome, settle, moveTo, Function.update_self] at hanswer
      cases hanswer
      exact Or.inr rfl
  | commit world given =>
      simp only [houtcome, settle, moveTo, Function.update_self] at hanswer
      cases hanswer
      exact Or.inl ⟨world, rfl, rfl⟩

variable (program) in
/-- Where a transaction with nobody beside it commits, and the world it leaves. -/
def commitAlone (request : Request) : ℕ → Memory → World → Option (Memory × World)
  | 0, _, _ => none
  | fuel + 1, memory, world =>
      match program.statement request memory (fun _ => false) world with
      | .wait => none
      | .proceed next => commitAlone request fuel next world
      | .commit next _ => some (memory, next)
      | .rollback _ => none

end Running

section Alone

variable {program : Program World Request Memory Lock Answer} {request : Request}
  {memory next : Memory} {world world' : World} {answer : Answer} {fuel : ℕ}

/-- What each statement leads on is known where the transaction commits. -/
theorem commitAlone_spec {known : Memory → Prop}
    (hproceeds : ∀ memory next, known memory →
      program.statement request memory (fun _ => false) world = .proceed next → known next)
    (hknown : known memory)
    (hcommit : commitAlone program request fuel memory world = some (next, world')) :
    known next ∧ ∃ answer,
      program.statement request next (fun _ => false) world = .commit world' answer := by
  induction fuel generalizing memory with
  | zero => cases hcommit
  | succ fuel ih =>
      rw [commitAlone] at hcommit
      split at hcommit
      · cases hcommit
      · rename_i later hproceed
        exact ih (hproceeds memory later hknown hproceed) hcommit
      · rename_i committed answer hhere
        cases hcommit
        exact ⟨hknown, answer, hhere⟩
      · cases hcommit

end Alone

section Outlines

variable (program : Program World Request Memory Lock Answer)

/-- Assertions for the points of a transaction: each statement leads from its own to the
next, a commit keeps the invariant, and the assertions of the others survive it where
they are compatible with it. -/
structure Outline (inv : World → Prop) (known : Request → Memory → World → Prop)
    (allowed : Request → Memory → World → Prop)
    (compatible : World → Request → Memory → Request → Memory → Prop) : Prop where
  start : ∀ request world, inv world → known request (program.start request) world
  acquires : ∀ request memory isLocked world next,
    program.statement request memory isLocked world = .proceed next →
      ∀ lock, program.holds request next lock = true →
        program.holds request memory lock = true ∨ isLocked lock = false
  proceeds : ∀ request memory isLocked world next, inv world →
    known request memory world →
      program.statement request memory isLocked world = .proceed next → known request next world
  commits : ∀ request memory isLocked world next answer, inv world →
    known request memory world → allowed request memory world →
      program.statement request memory isLocked world = .commit next answer → inv next
  stable : ∀ request memory isLocked world next answer other memory', inv world →
    known request memory world → known other memory' world →
      (∀ lock, program.holds other memory' lock = true → isLocked lock = true) →
        (∀ lock, program.holds request memory lock = true →
          program.holds other memory' lock = false) →
          compatible world request memory other memory' →
            program.statement request memory isLocked world = .commit next answer →
              known other memory' next

/-- An outline over locks of several modes, some of which two transactions may hold at
once: a lock is taken where nobody holds one that conflicts with it. -/
structure ModedOutline (conflicts : Lock → Lock → Prop) (inv : World → Prop)
    (known : Request → Memory → World → Prop) (allowed : Request → Memory → World → Prop)
    (compatible : World → Request → Memory → Request → Memory → Prop) : Prop where
  symm : ∀ lock taken, conflicts lock taken → conflicts taken lock
  start : ∀ request world, inv world → known request (program.start request) world
  acquires : ∀ request memory isLocked world next,
    program.statement request memory isLocked world = .proceed next →
      ∀ lock, program.holds request next lock = true →
        program.holds request memory lock = true ∨
          ∀ taken, conflicts lock taken → isLocked taken = false
  proceeds : ∀ request memory isLocked world next, inv world →
    known request memory world →
      program.statement request memory isLocked world = .proceed next → known request next world
  commits : ∀ request memory isLocked world next answer, inv world →
    known request memory world → allowed request memory world →
      program.statement request memory isLocked world = .commit next answer → inv next
  stable : ∀ request memory isLocked world next answer other memory', inv world →
    known request memory world → known other memory' world →
      (∀ lock, program.holds other memory' lock = true → isLocked lock = true) →
        (∀ lock taken, program.holds request memory lock = true →
          program.holds other memory' taken = true → ¬ conflicts lock taken) →
          compatible world request memory other memory' →
            program.statement request memory isLocked world = .commit next answer →
              known other memory' next

/-- Locks of one mode conflict with themselves. -/
theorem Outline.moded {program : Program World Request Memory Lock Answer}
    {inv : World → Prop} {known : Request → Memory → World → Prop}
    {allowed : Request → Memory → World → Prop}
    {compatible : World → Request → Memory → Request → Memory → Prop}
    (houtline : Outline program inv known allowed compatible) :
    ModedOutline program (fun lock taken => lock = taken) inv known allowed compatible where
  symm := fun _ _ hsame => hsame.symm
  start := houtline.start
  acquires := by
    intro request memory isLocked world next hproceed lock hlock
    apply (houtline.acquires _ _ _ _ _ hproceed lock hlock).imp_right
    rintro hfree taken rfl
    exact hfree
  proceeds := houtline.proceeds
  commits := houtline.commits
  stable := by
    intro request memory isLocked world next answer other memory' hinv hknown hother hlocked hapart
    apply houtline.stable _ _ _ _ _ _ _ _ hinv hknown hother hlocked
    intro lock hheld
    by_contra htaken
    exact hapart lock lock hheld (by simpa using htaken) rfl

variable (requests : Ticket → Request) [Fintype Ticket] [DecidableEq Ticket]

/-- An open transaction is compatible with a commit; one that has ended is. -/
def Meets (compatible : Memory → Prop) : Stage Memory Answer → Prop
  | .running memory => compatible memory
  | .ended _ => True

/-- A statement that commits is allowed to, and meets the others where it may. -/
def ClearOutcome (allowed : Prop) (others : Prop) : Outcome World Memory Answer → Prop
  | .commit _ _ => allowed ∧ others
  | _ => True

/-- A commit that finds the others where it may: it is allowed, and compatible with
every open transaction. -/
def Clear (allowed : Request → Memory → World → Prop)
    (compatible : World → Request → Memory → Request → Memory → Prop)
    (service : Service World Ticket Memory Answer) : Step Ticket → Prop
  | .advance ticket =>
      Meets (fun memory =>
        ClearOutcome (allowed (requests ticket) memory service.world)
          (∀ other, other ≠ ticket → Meets
            (compatible service.world (requests ticket) memory (requests other))
            (service.stage other))
          (program.statement (requests ticket) memory
            (locked program requests service ticket) service.world))
        (service.stage ticket)
  | .crash _ => True

instance (compatible : Memory → Prop) [∀ memory, Decidable (compatible memory)] :
    ∀ stage : Stage Memory Answer, Decidable (Meets compatible stage)
  | .running memory => inferInstanceAs (Decidable (compatible memory))
  | .ended _ => .isTrue trivial

instance (allowed others : Prop) [Decidable allowed] [Decidable others] :
    ∀ outcome : Outcome World Memory Answer, Decidable (ClearOutcome allowed others outcome)
  | .commit _ _ => inferInstanceAs (Decidable (_ ∧ _))
  | .wait => .isTrue trivial
  | .proceed _ => .isTrue trivial
  | .rollback _ => .isTrue trivial

instance (allowed : Request → Memory → World → Prop)
    (compatible : World → Request → Memory → Request → Memory → Prop)
    [∀ request memory world, Decidable (allowed request memory world)]
    [∀ world request memory other memory',
      Decidable (compatible world request memory other memory')]
    (service : Service World Ticket Memory Answer) :
    ∀ step, Decidable (Clear program requests allowed compatible service step)
  | .advance _ => inferInstanceAs (Decidable (Meets _ _))
  | .crash _ => .isTrue trivial

/-- The invariant holds, every open transaction is where its assertion holds, and no two
hold the same lock. -/
structure Sound (inv : World → Prop) (known : Request → Memory → World → Prop)
    (service : Service World Ticket Memory Answer) : Prop where
  inv : inv service.world
  known : ∀ ticket memory, service.stage ticket = .running memory →
    known (requests ticket) memory service.world
  exclusive : ∀ ticket other, ticket ≠ other → ∀ lock,
    (service.stage ticket).holds program (requests ticket) lock = true →
      (service.stage other).holds program (requests other) lock = false

/-- The same, where no two hold locks that conflict. -/
structure Steady (conflicts : Lock → Lock → Prop) (inv : World → Prop)
    (known : Request → Memory → World → Prop)
    (service : Service World Ticket Memory Answer) : Prop where
  inv : inv service.world
  known : ∀ ticket memory, service.stage ticket = .running memory →
    known (requests ticket) memory service.world
  apart : ∀ ticket other, ticket ≠ other → ∀ lock taken,
    (service.stage ticket).holds program (requests ticket) lock = true →
      (service.stage other).holds program (requests other) taken = true → ¬ conflicts lock taken

variable {program requests}
variable {inv : World → Prop} {known : Request → Memory → World → Prop}
  {allowed : Request → Memory → World → Prop}
  {compatible : World → Request → Memory → Request → Memory → Prop}
variable {service : Service World Ticket Memory Answer}

theorem locked_eq_false {ticket other : Ticket} {lock : Lock}
    (hfree : locked program requests service ticket lock = false) (hother : other ≠ ticket) :
    (service.stage other).holds program (requests other) lock = false := by
  by_contra hheld
  have hlocked := of_decide_eq_false hfree
  exact hlocked ⟨other, hother, by simpa using hheld⟩

theorem locked_eq_true {ticket other : Ticket} {lock : Lock} (hother : other ≠ ticket)
    (hheld : (service.stage other).holds program (requests other) lock = true) :
    locked program requests service ticket lock = true :=
  decide_eq_true ⟨other, hother, hheld⟩

variable {conflicts : Lock → Lock → Prop}

omit [Fintype Ticket] [DecidableEq Ticket] in
theorem steady_opened (houtline : ModedOutline program conflicts inv known allowed compatible)
    {world : World} (hinv : inv world) :
    Steady program requests conflicts inv known (opened program requests world) where
  inv := hinv
  known := by
    intro ticket memory hstage
    cases hstage
    exact houtline.start (requests ticket) world hinv
  apart := by
    intro ticket other _ lock taken hheld
    rw [opened, Stage.holds, program.start_holds] at hheld
    cases hheld

omit [Fintype Ticket] in
/-- A transaction that moves on keeps its locks and takes only free ones. -/
theorem steady_moveTo (hsymm : ∀ lock taken, conflicts lock taken → conflicts taken lock)
    (hsteady : Steady program requests conflicts inv known service) {ticket : Ticket}
    {stage : Stage Memory Answer}
    (hknown : ∀ memory, stage = .running memory → known (requests ticket) memory service.world)
    (hlocks : ∀ lock, stage.holds program (requests ticket) lock = true →
      ∀ other, other ≠ ticket → ∀ taken,
        (service.stage other).holds program (requests other) taken = true →
          ¬ conflicts lock taken) :
    Steady program requests conflicts inv known (moveTo service ticket stage) where
  inv := hsteady.inv
  known := by
    intro other memory hstage
    change Function.update service.stage ticket stage other = _ at hstage
    by_cases hother : other = ticket
    · subst hother
      rw [Function.update_self] at hstage
      exact hknown memory hstage
    · rw [Function.update_of_ne hother] at hstage
      exact hsteady.known other memory hstage
  apart := by
    intro first second hne lock taken hheld htaken
    change (Function.update service.stage ticket stage first).holds _ _ _ = _ at hheld
    change (Function.update service.stage ticket stage second).holds _ _ _ = _ at htaken
    by_cases hfirst : first = ticket
    · subst hfirst
      rw [Function.update_self] at hheld
      rw [Function.update_of_ne hne.symm] at htaken
      exact hlocks lock hheld second hne.symm taken htaken
    · rw [Function.update_of_ne hfirst] at hheld
      by_cases hsecond : second = ticket
      · subst hsecond
        rw [Function.update_self] at htaken
        intro hconflict
        exact hlocks taken htaken first hfirst lock hheld (hsymm _ _ hconflict)
      · rw [Function.update_of_ne hsecond] at htaken
        exact hsteady.apart first second hne lock taken hheld htaken

omit [Fintype Ticket] in
theorem steady_end (hsymm : ∀ lock taken, conflicts lock taken → conflicts taken lock)
    (hsteady : Steady program requests conflicts inv known service) {ticket : Ticket}
    {answer : Option Answer} :
    Steady program requests conflicts inv known (moveTo service ticket (.ended answer)) := by
  apply steady_moveTo hsymm hsteady
  · intro memory hstage
    cases hstage
  · intro lock hheld
    cases hheld

theorem steady_commit (houtline : ModedOutline program conflicts inv known allowed compatible)
    (hsteady : Steady program requests conflicts inv known service) {ticket : Ticket}
    {memory : Memory} (hstage : service.stage ticket = .running memory)
    (hallowed : allowed (requests ticket) memory service.world)
    (hcompatible : ∀ other, other ≠ ticket → ∀ memory',
      service.stage other = .running memory' →
        compatible service.world (requests ticket) memory (requests other) memory')
    {next : World} {answer : Answer}
    (hcommit : program.statement (requests ticket) memory
      (locked program requests service ticket) service.world = .commit next answer) :
    Steady program requests conflicts inv known
      { moveTo service ticket (.ended (some answer)) with world := next } where
  inv := houtline.commits _ _ _ _ _ _ hsteady.inv (hsteady.known ticket memory hstage)
    hallowed hcommit
  known := by
    intro other memory' hother
    change Function.update service.stage ticket (.ended (some answer)) other = _ at hother
    by_cases hsame : other = ticket
    · subst hsame
      rw [Function.update_self] at hother
      cases hother
    · rw [Function.update_of_ne hsame] at hother
      have hheld : ∀ lock, program.holds (requests other) memory' lock = true →
          (service.stage other).holds program (requests other) lock = true := by
        intro lock hlock
        rw [hother]
        exact hlock
      apply houtline.stable _ _ _ _ _ _ _ _ hsteady.inv (hsteady.known ticket memory hstage)
        (hsteady.known other memory' hother) _ _ (hcompatible other hsame memory' hother)
        hcommit
      · intro lock hlock
        exact locked_eq_true hsame (hheld lock hlock)
      · intro lock taken hlock htaken
        have hown : (service.stage ticket).holds program (requests ticket) lock = true := by
          rw [hstage]
          exact hlock
        exact hsteady.apart ticket other (Ne.symm hsame) lock taken hown (hheld taken htaken)
  apart :=
    have hended : Steady program requests conflicts inv known
      (moveTo service ticket (.ended (some answer))) := steady_end houtline.symm hsteady
    hended.apart

/-- A clear step keeps a service steady. -/
theorem steady_serve (houtline : ModedOutline program conflicts inv known allowed compatible)
    (service : Service World Ticket Memory Answer) (step : Step Ticket)
    (hsteady : Steady program requests conflicts inv known service)
    (hclear : Clear program requests allowed compatible service step) :
    Steady program requests conflicts inv known (serve program requests service step) := by
  cases step with
  | crash ticket =>
      rw [serve]
      split
      · exact steady_end houtline.symm hsteady
      · exact hsteady
  | advance ticket =>
      cases hstage : service.stage ticket with
      | ended answer =>
          rw [serve_ended hstage]
          exact hsteady
      | running memory =>
          rw [Clear, hstage] at hclear
          rw [serve_advance hstage]
          cases houtcome : program.statement (requests ticket) memory
              (locked program requests service ticket) service.world with
          | wait => exact hsteady
          | rollback answer => exact steady_end houtline.symm hsteady
          | proceed next =>
              apply steady_moveTo houtline.symm hsteady
              · intro memory' hmemory
                cases hmemory
                exact houtline.proceeds _ _ _ _ _ hsteady.inv
                  (hsteady.known ticket memory hstage) houtcome
              · intro lock hheld other hother taken htaken
                cases houtline.acquires _ _ _ _ _ houtcome lock hheld with
                | inl hold =>
                    apply hsteady.apart ticket other (Ne.symm hother) lock taken _ htaken
                    rw [hstage]
                    exact hold
                | inr hfree =>
                    intro hconflict
                    have hnone := locked_eq_false (hfree taken hconflict) hother
                    rw [htaken] at hnone
                    cases hnone
          | commit next answer =>
              simp only [Meets, ClearOutcome, houtcome] at hclear
              apply steady_commit houtline hsteady hstage hclear.1 _ houtcome
              intro other hother memory' hmemory
              have hmeets := hclear.2 other hother
              rw [hmemory] at hmeets
              exact hmeets

/-- Where every commit is clear, a service is steady after any order of statements. -/
theorem steady_run (houtline : ModedOutline program conflicts inv known allowed compatible)
    {world : World} (hinv : inv world) {steps : List (Step Ticket)}
    (hclear : Along (serve program requests) (Clear program requests allowed compatible)
      (opened program requests world) steps) :
    Steady program requests conflicts inv known
      (run (serve program requests) (opened program requests world) steps) :=
  run_invariant (fun service step => steady_serve houtline service step)
    (steady_opened houtline hinv) hclear

omit [Fintype Ticket] [DecidableEq Ticket] in
/-- With one mode, sound is steady. -/
theorem sound_iff_steady :
    Sound program requests inv known service ↔
      Steady program requests (fun lock taken => lock = taken) inv known service := by
  constructor
  · intro hsound
    refine ⟨hsound.inv, hsound.known, ?_⟩
    rintro ticket other hne lock taken hheld htaken rfl
    rw [hsound.exclusive ticket other hne lock hheld] at htaken
    cases htaken
  · intro hsteady
    refine ⟨hsteady.inv, hsteady.known, ?_⟩
    intro ticket other hne lock hheld
    by_contra htaken
    exact hsteady.apart ticket other hne lock lock hheld (by simpa using htaken) rfl

omit [Fintype Ticket] [DecidableEq Ticket] in
theorem sound_opened (houtline : Outline program inv known allowed compatible)
    {world : World} (hinv : inv world) :
    Sound program requests inv known (opened program requests world) :=
  sound_iff_steady.mpr (steady_opened houtline.moded hinv)

/-- A clear step keeps a service sound. -/
theorem sound_serve (houtline : Outline program inv known allowed compatible)
    (service : Service World Ticket Memory Answer) (step : Step Ticket)
    (hsound : Sound program requests inv known service)
    (hclear : Clear program requests allowed compatible service step) :
    Sound program requests inv known (serve program requests service step) :=
  sound_iff_steady.mpr
    (steady_serve houtline.moded service step (sound_iff_steady.mp hsound) hclear)

/-- Where every commit is clear, the invariant survives any order of statements. -/
theorem sound_run (houtline : Outline program inv known allowed compatible)
    {world : World} (hinv : inv world) {steps : List (Step Ticket)}
    (hclear : Along (serve program requests) (Clear program requests allowed compatible)
      (opened program requests world) steps) :
    Sound program requests inv known
      (run (serve program requests) (opened program requests world) steps) :=
  run_invariant (fun service step => sound_serve houtline service step)
    (sound_opened houtline hinv) hclear

/-- Where nothing is asked of commits, every step is clear. -/
theorem clear_always (service : Service World Ticket Memory Answer) (step : Step Ticket) :
    Clear program requests (fun _ _ _ => True) (fun _ _ _ _ _ => True) service step := by
  have hmeets : ∀ {compatible : Memory → Prop} (hall : ∀ memory, compatible memory)
      (stage : Stage Memory Answer), Meets compatible stage := by
    intro compatible hall stage
    cases stage with
    | running memory => exact hall memory
    | ended answer => trivial
  cases step with
  | crash ticket => trivial
  | advance ticket =>
      apply hmeets
      intro memory
      cases program.statement (requests ticket) memory
          (locked program requests service ticket) service.world with
      | commit world answer => exact ⟨trivial, fun _ _ => hmeets (fun _ => trivial) _⟩
      | wait => trivial
      | proceed next => trivial
      | rollback answer => trivial

omit [Fintype Ticket] [DecidableEq Ticket] in
theorem Meets.imp {first second : Memory → Prop} (himp : ∀ memory, first memory → second memory)
    {stage : Stage Memory Answer} (hmeets : Meets first stage) : Meets second stage := by
  cases stage with
  | running memory => exact himp memory hmeets
  | ended answer => trivial

/-- A commit that is allowed is so beside every other. -/
theorem clear_beside {step : Step Ticket}
    (hclear : Clear program requests allowed (fun _ _ _ _ _ => True) service step) :
    Clear program requests allowed (fun world request memory _ _ => allowed request memory world)
      service step := by
  cases step with
  | crash ticket => trivial
  | advance ticket =>
      apply Meets.imp _ hclear
      intro memory hcommit
      cases hstatement : program.statement (requests ticket) memory
          (locked program requests service ticket) service.world with
      | commit world answer =>
          rw [hstatement] at hcommit
          exact ⟨hcommit.1, fun _ _ => Meets.imp (fun _ _ => hcommit.1) (hcommit.2 _ ‹_›)⟩
      | wait => trivial
      | proceed next => trivial
      | rollback answer => trivial

theorem along_beside {steps : List (Step Ticket)}
    (hclear : Along (serve program requests)
      (Clear program requests allowed fun _ _ _ _ _ => True) service steps) :
    Along (serve program requests)
      (Clear program requests allowed fun world request memory _ _ =>
        allowed request memory world) service steps := by
  induction steps generalizing service with
  | nil => trivial
  | cons step rest ih => exact ⟨clear_beside hclear.1, ih hclear.2⟩

/-- Where every commit is clear, each step changes the world as an allowed commit may. -/
theorem along_sound (houtline : Outline program inv known allowed compatible)
    {changes : World → World → Prop} (hrefl : ∀ world, changes world world)
    (hcommits : ∀ request memory isLocked world next answer, inv world →
      known request memory world → allowed request memory world →
        program.statement request memory isLocked world = .commit next answer → changes world next)
    {world : World} (hinv : inv world) {steps : List (Step Ticket)}
    (hclear : Along (serve program requests) (Clear program requests allowed compatible)
      (opened program requests world) steps) :
    Along (serve program requests)
      (fun service step => changes service.world (serve program requests service step).world)
      (opened program requests world) steps := by
  refine along_of_invariant (fun service step => sound_serve houtline service step) ?_
    (sound_opened houtline hinv) hclear
  intro service step hsound hclear
  cases step with
  | crash ticket =>
      rw [serve]
      split <;> exact hrefl _
  | advance ticket =>
      have hworld : (serve program requests service (.advance ticket)).world = service.world ∨
          _ := serve_advance_world service ticket
      cases hworld with
      | inl hsame =>
          rw [hsame]
          exact hrefl _
      | inr hcommitted =>
          obtain ⟨memory, next, answer, hstage, hcommit, hnext⟩ := hcommitted
          rw [hnext]
          simp only [Clear, hstage, Meets, ClearOutcome, hcommit] at hclear
          exact hcommits _ _ _ _ _ _ hsound.inv (hsound.known ticket memory hstage) hclear.1 hcommit

/-- A program that asks nothing of its commits is sound in every order of statements. -/
theorem sound_run_always
    (houtline : Outline program inv known (fun _ _ _ => True) fun _ _ _ _ _ => True)
    {world : World} (hinv : inv world) (steps : List (Step Ticket)) :
    Sound program requests inv known
      (run (serve program requests) (opened program requests world) steps) :=
  sound_run houtline hinv (along_forall clear_always _ steps)

end Outlines

section Answers

variable (requests : Ticket → Request)

/-- Every answer given so far is good. -/
def Answered (good : Request → Answer → Prop)
    (service : Service World Ticket Memory Answer) : Prop :=
  ∀ ticket answer, service.stage ticket = .ended (some answer) → good (requests ticket) answer

variable [Fintype Ticket] [DecidableEq Ticket]
variable {requests} {program : Program World Request Memory Lock Answer}
variable {inv : World → Prop} {known : Request → Memory → World → Prop}
  {allowed : Request → Memory → World → Prop}
  {compatible : World → Request → Memory → Request → Memory → Prop}
variable {good : Request → Answer → Prop} {service : Service World Ticket Memory Answer}

omit [Fintype Ticket] in
theorem answered_moveTo (hanswered : Answered requests good service) {ticket : Ticket}
    {stage : Stage Memory Answer}
    (hstage : ∀ answer, stage = .ended (some answer) → good (requests ticket) answer) :
    Answered requests good (moveTo service ticket stage) := by
  intro other answer hended
  change Function.update service.stage ticket stage other = _ at hended
  by_cases hother : other = ticket
  · subst hother
    rw [Function.update_self] at hended
    exact hstage answer hended
  · rw [Function.update_of_ne hother] at hended
    exact hanswered other answer hended

variable
  (hcommits : ∀ request memory isLocked world next answer, inv world →
    known request memory world →
      program.statement request memory isLocked world = .commit next answer → good request answer)
  (hrollbacks : ∀ request memory isLocked world answer, inv world →
    known request memory world →
      program.statement request memory isLocked world = .rollback answer → good request answer)

include hcommits hrollbacks

/-- A statement from where its assertion holds gives only good answers. -/
theorem answered_serve
    (hsound : Sound program requests inv known service)
    (hanswered : Answered requests good service) (step : Step Ticket) :
    Answered requests good (serve program requests service step) := by
  cases step with
  | crash ticket =>
      rw [serve]
      split
      · apply answered_moveTo hanswered
        intro answer hended
        cases hended
      · exact hanswered
  | advance ticket =>
      cases hstage : service.stage ticket with
      | ended answer =>
          rw [serve_ended hstage]
          exact hanswered
      | running memory =>
          have hknown := hsound.known ticket memory hstage
          rw [serve_advance hstage]
          cases houtcome : program.statement (requests ticket) memory
              (locked program requests service ticket) service.world with
          | wait => exact hanswered
          | proceed next =>
              apply answered_moveTo hanswered
              intro answer hended
              cases hended
          | rollback answer =>
              apply answered_moveTo hanswered
              intro given hended
              cases hended
              exact hrollbacks _ _ _ _ _ hsound.inv hknown houtcome
          | commit next answer =>
              have hmoved : Answered requests good
                  (moveTo service ticket (.ended (some answer))) := by
                apply answered_moveTo hanswered
                intro given hended
                cases hended
                exact hcommits _ _ _ _ _ _ hsound.inv hknown houtcome
              exact hmoved

/-- Where every commit is clear, every answer is good. -/
theorem answered_run (houtline : Outline program inv known allowed compatible)
    {world : World} (hinv : inv world) {steps : List (Step Ticket)}
    (hclear : Along (serve program requests) (Clear program requests allowed compatible)
      (opened program requests world) steps) :
    Answered requests good
      (run (serve program requests) (opened program requests world) steps) := by
  have hboth : Sound program requests inv known
        (run (serve program requests) (opened program requests world) steps) ∧
      Answered requests good
        (run (serve program requests) (opened program requests world) steps) := by
    have hopened : Answered requests good (opened program requests world) := by
      intro ticket answer hended
      cases hended
    have hstep : ∀ service step,
        Sound program requests inv known service ∧ Answered requests good service →
          Clear program requests allowed compatible service step →
            Sound program requests inv known (serve program requests service step) ∧
              Answered requests good (serve program requests service step) := by
      rintro service step ⟨hsound, hanswered⟩ hclear
      exact ⟨sound_serve houtline service step hsound hclear,
        answered_serve hcommits hrollbacks hsound hanswered step⟩
    exact run_invariant hstep ⟨sound_opened houtline hinv, hopened⟩ hclear
  exact hboth.2

end Answers

end Relational.Sessions
