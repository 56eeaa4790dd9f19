import Mathlib.Algebra.BigOperators.Group.List.Basic
import Mathlib.Algebra.Order.Ring.Int
import SentryWms.Relational.Run

/-!
# Stretches of a run

A run is inside for some stretches: each begins with the request that enters and is closed
by the one that leaves.  A state that keeps the time it was entered, and adds a length when
it is left, adds up the lengths of the closed stretches.
-/

namespace Relational

/-- Since when the open stretch runs, and the beginnings and ends of the closed ones. -/
structure Stretches (Time : Type*) where
  since : Option Time
  closed : List (Time × Time)

namespace Stretches

variable {Time : Type*}

def empty : Stretches Time := ⟨none, []⟩

/-- What was inside before a request served at this time, and is after it. -/
def note (stretches : Stretches Time) (before after : Bool) (now : Time) : Stretches Time :=
  match before, after with
  | false, true => { stretches with since := some now }
  | true, false =>
      { since := none
        closed := stretches.closed ++
          (stretches.since.map fun start => (start, now)).toList }
  | false, false | true, true => stretches

/-- The sum of the lengths of the closed stretches. -/
def total (length : Time → Time → ℤ) (stretches : Stretches Time) : ℤ :=
  (stretches.closed.map fun stretch => length stretch.1 stretch.2).sum

end Stretches

section Track

variable {State Request Time : Type*} (serve : State → Request → State)
  (clock : Request → Time) (inside : State → Bool)

/-- The stretches of a run, after those of an earlier one. -/
def stretches : Stretches Time → State → List Request → Stretches Time
  | past, _, [] => past
  | past, state, request :: rest =>
      stretches (past.note (inside state) (inside (serve state request)) (clock request))
        (serve state request) rest

variable [LE Time]

/-- The state keeps when it was entered, and adds the length of each stretch that is
closed. -/
structure Tracks (inv : State → Prop) (since : State → Option Time) (total : State → ℤ)
    (length : Time → Time → ℤ) : Prop where
  keeps : ∀ state request, inv state → inv (serve state request)
  stays : ∀ state request, inv state → inside (serve state request) = inside state →
    since (serve state request) = since state ∧ total (serve state request) = total state
  enters : ∀ state request, inv state → inside state = false →
    inside (serve state request) = true →
      since (serve state request) = some (clock request) ∧ total (serve state request) = total state
  leaves : ∀ state request, inv state → inside state = true →
    inside (serve state request) = false → since (serve state request) = none ∧
      ∃ start, since state = some start ∧ (start ≤ clock request →
        total (serve state request) = total state + length start (clock request))

variable {serve clock inside}

/-- One request. -/
theorem Tracks.step {inv : State → Prop} {since : State → Option Time}
    {total : State → ℤ} {length : Time → Time → ℤ}
    (htracks : Tracks serve clock inside inv since total length) {past : Stretches Time}
    {state : State} {request : Request} (hinv : inv state) (hsince : since state = past.since)
    (htotal : total state = past.total length)
    (hbefore : ∀ start ∈ past.since, start ≤ clock request) :
    since (serve state request) =
        (past.note (inside state) (inside (serve state request)) (clock request)).since ∧
      total (serve state request) =
        (past.note (inside state) (inside (serve state request)) (clock request)).total
          length := by
  cases hfrom : inside state with
  | false =>
      cases hto : inside (serve state request) with
      | false =>
          obtain ⟨hsame, hkept⟩ := htracks.stays state request hinv (hto.trans hfrom.symm)
          exact ⟨hsame.trans hsince, hkept.trans htotal⟩
      | true =>
          obtain ⟨hentered, hkept⟩ := htracks.enters state request hinv hfrom hto
          exact ⟨hentered, hkept.trans htotal⟩
  | true =>
      cases hto : inside (serve state request) with
      | true =>
          obtain ⟨hsame, hkept⟩ := htracks.stays state request hinv (hto.trans hfrom.symm)
          exact ⟨hsame.trans hsince, hkept.trans htotal⟩
      | false =>
          obtain ⟨hleft, start, hstart, hadds⟩ := htracks.leaves state request hinv hfrom hto
          have hopen : past.since = some start := hsince.symm.trans hstart
          refine ⟨hleft, ?_⟩
          calc
            total (serve state request) = total state + length start (clock request) :=
              hadds (hbefore start hopen)
            _ = past.total length + length start (clock request) := by rw [htotal]
            _ = (past.note true false (clock request)).total length := by
                simp [Stretches.note, Stretches.total, hopen]

/-- Over a run in the order of time the state tells the stretches of the run. -/
theorem Tracks.run {inv : State → Prop} {since : State → Option Time}
    {total : State → ℤ} {length : Time → Time → ℤ}
    (htracks : Tracks serve clock inside inv since total length) {past : Stretches Time}
    {state : State} {requests : List Request} (hinv : inv state)
    (hsince : since state = past.since) (htotal : total state = past.total length)
    (hbefore : ∀ start ∈ past.since, ∀ request ∈ requests, start ≤ clock request)
    (hordered : requests.Pairwise fun first second => clock first ≤ clock second) :
    since (Relational.run serve state requests) =
        (stretches serve clock inside past state requests).since ∧
      total (Relational.run serve state requests) =
        (stretches serve clock inside past state requests).total length := by
  induction requests generalizing state past with
  | nil => exact ⟨hsince, htotal⟩
  | cons request rest ih =>
      obtain ⟨hfirst, hrest⟩ := List.pairwise_cons.mp hordered
      obtain ⟨hsince', htotal'⟩ := htracks.step hinv hsince htotal
        fun start hstart => hbefore start hstart request List.mem_cons_self
      refine ih (htracks.keeps state request hinv) hsince' htotal' ?_ hrest
      intro start hstart later hlater
      -- an open stretch has run since before, or has just begun
      have hopen : start ∈ past.since ∨ start = clock request := by
        revert hstart
        rw [Stretches.note.eq_def]
        split
        · exact fun hstart => Or.inr (Option.some.inj hstart).symm
        · exact fun hstart => nomatch hstart
        · exact Or.inl
        · exact Or.inl
      cases hopen with
      | inl hold => exact hbefore start hold later (List.mem_cons_of_mem _ hlater)
      | inr hnew => exact hnew ▸ hfirst later hlater

end Track

end Relational
